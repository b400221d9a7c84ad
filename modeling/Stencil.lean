import Stencil.Main
import Stencil.Workspace
import Stencil.Proofs.Catalogues
import Stencil.Proofs.Blocks
import Stencil.Proofs.PhpImports
import Stencil.Proofs.GoMethodSets
import Stencil.Proofs.GoAssertions
import Stencil.Proofs.Paths
import Stencil.Proofs.TypeMappings
import Stencil.Proofs.GoPackages
import Stencil.Proofs.GoReferences
import Stencil.Proofs.Delivery
import Stencil.Proofs.Locality
import Stencil.Proofs.DeclarationOrder
import Stencil.Proofs.Complaints
import Stencil.Proofs.WrittenLines
import Stencil.Proofs.WrittenOutlines
import Stencil.Proofs.Counts
import Stencil.Proofs.JoinedOutlines
import Stencil.Proofs.LineAccounts
import Stencil.Proofs.OutputDirectory
import Stencil.Proofs.FailedRuns
import Stencil.Proofs.Signatures
import Stencil.Proofs.PhpFunctions
import Stencil.Proofs.Headers
import Stencil.Proofs.Parameters
import Stencil.Proofs.LineEndings
import Stencil.Proofs.InertLines
import Stencil.Proofs.Workspaces
import Stencil.Proofs.Origins
import Stencil.Proofs.Records
import Stencil.Proofs.GoNames
import Stencil.Proofs.Globs
import Stencil.Proofs.GoDeclarations
import Stencil.Proofs.Selections
import Stencil.Proofs.Bytes
import Stencil.Proofs.LiteralPatterns
import Stencil.Proofs.Names
import Stencil.Proofs.AcceptedSettings
import Stencil.Proofs.Precedence
import Stencil.Proofs.SupertypeWalks
import Stencil.Proofs.CleanNames
import Stencil.Proofs.GoTexts
import Stencil.Proofs.PhpTexts
import Stencil.Proofs.Registries
