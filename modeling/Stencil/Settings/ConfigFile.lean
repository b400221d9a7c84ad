import Stencil.Disk
import Stencil.Document.Json
import Stencil.Document.Toml
import Stencil.Document.Yaml
import Stencil.Text.Quoted

/-!
# Configuration files

A configuration file is read by the format its extension names. Without a path, the first file there is among some
names of the working folder is read as YAML, and there need not be one.
-/

namespace Stencil

inductive ConfigError where
  | unsupported (path extension : Text)
  | unreadable (path : Text) (cause : DiskError)
  /-- Without a path it is the file that was found in the working folder. -/
  | malformed (path : Option Text)
deriving DecidableEq

def ConfigError.message : ConfigError → Text
  | .unsupported path extension => "read config " ++ path ++ ": Unsupported Config Type " ++ extension.quote
  | .unreadable path cause => "read config " ++ path ++ ": " ++ cause.message
  | .malformed none => "read config: While parsing config"
  | .malformed (some path) => "read config " ++ path ++ ": While parsing config"

namespace ConfigFile

/-- The extensions that may be named, in the order in which files are looked for, each with what reads a document of
this kind. Documents of some kinds may be named, but nothing reads them. -/
def decoders : List (Text × Option (Text → Option Document.Entries)) :=
  [("json", some Document.Json.read), ("toml", some Document.Toml.read), ("yaml", some Document.Yaml.read),
    ("yml", some Document.Yaml.read), ("properties", none), ("props", none), ("prop", none), ("hcl", none),
    ("tfvars", none), ("dotenv", none), ("env", none), ("ini", none)]

def extension (path : Text) : Text :=
  match ((path.split '/').getLastD []).split '.' with
  | [_] => []
  | parts => parts.getLastD []

def names : List Text :=
  let stem : Text := "prototype"
  decoders.map (fun (extension, _) => stem ++ "." ++ extension) ++ [stem]

def candidates (path : Text) : List Text := if path = [] then names else [path]

def content? (find : Lookup) (path : Text) : Option Text :=
  match find path with
  | .ok (.file content) => some content
  | _ => none

def found (find : Lookup) : Except ConfigError Document.Entries :=
  match names.findSome? (content? find) with
  | none => .ok []
  | some content =>
    match Document.Yaml.read content with
    | some entries => .ok entries
    | none => .error (.malformed none)

def named (find : Lookup) (path : Text) : Except ConfigError Document.Entries :=
  match decoders.lookup (extension path) with
  | none => .error (.unsupported path (extension path))
  | some decode? =>
    match find.read path with
    | .error cause => .error (.unreadable path cause)
    | .ok content =>
      match decode?.bind (· content) with
      | some entries => .ok entries
      | none => .error (.malformed (some path))

def read (find : Lookup) (path : Text) : Except ConfigError Document.Entries :=
  -- an empty path stands for a file of the working folder
  if path = [] then found find else named find path

end ConfigFile

end Stencil
