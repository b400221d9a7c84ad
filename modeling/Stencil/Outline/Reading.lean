import Stencil.Catalogue
import Stencil.Outline.Header
import Stencil.Outline.Signature

/-!
# Reading an outline

Reading never fails: a line that is not understood is reported and left out. A header opens a structure, the method
lines below it belong to it, and it is put into the catalogue when the next header comes or the source ends.
-/

namespace Stencil.Outline

inductive Complaint where
  | unexpectedMethod
  | badSignature (e : SignatureError)
  | refusedMethod (e : BuildError)
  | badHeader (e : HeaderError)
deriving DecidableEq

def Complaint.message : Complaint → Text
  | .unexpectedMethod => "Unexpected method"
  | .badSignature e => "Unable to parse method signature: " ++ e.message
  | .refusedMethod e => "Unable to add method: " ++ e.message
  | .badHeader e => "Unable to parse structure signature: " ++ e.message

structure Diagnostic where
  line : Nat
  complaint : Complaint
deriving DecidableEq

def Diagnostic.message (d : Diagnostic) : Text := d.complaint.message

def Diagnostic.text (d : Diagnostic) : Text := d.message ++ " at line " ++ Text.ofNat d.line

/-- What was counted on the way. A structure that replaces another one counts as well. -/
structure Counts where
  lines : Nat := 0
  blank : Nat := 0
  comments : Nat := 0
  structures : Nat := 0
deriving DecidableEq

structure Reading where
  counts : Counts := {}
  diagnostics : List Diagnostic := []
  catalogue : Catalogue := .empty
deriving DecidableEq

structure Progress where
  done : Reading := {}
  opened : Option Structure := none
deriving DecidableEq

namespace Progress

def report (p : Progress) (c : Complaint) : Progress :=
  { p with done := { p.done with diagnostics := p.done.diagnostics ++ [⟨p.done.counts.lines, c⟩] } }

def close (p : Progress) : Progress :=
  match p.opened with
  | none => p
  | some s =>
    { done := { p.done with
        counts := { p.done.counts with structures := p.done.counts.structures + 1 }
        catalogue := p.done.catalogue.put s }
      opened := none }

def readMethod (p : Progress) (line : Text) : Progress :=
  match p.opened with
  | none => p.report .unexpectedMethod
  | some s =>
    match method? line with
    | .error e => p.report (.badSignature e)
    | .ok m =>
      match s.add? (some m) with
      | .error e => p.report (.refusedMethod e)
      | .ok s => { p with opened := some s }

def readHeader (p : Progress) (line : Text) : Progress :=
  match structure? line with
  | .ok s => { p.close with opened := some s }
  | .error e => p.close.report (.badHeader e)

def countLine (p : Progress) : Progress :=
  { p with done := { p.done with counts := { p.done.counts with lines := p.done.counts.lines + 1 } } }

def countBlank (p : Progress) : Progress :=
  { p with done := { p.done with counts := { p.done.counts with blank := p.done.counts.blank + 1 } } }

def countComment (p : Progress) : Progress :=
  { p with done := { p.done with counts := { p.done.counts with comments := p.done.counts.comments + 1 } } }

def readLine (p : Progress) (line : Text) : Progress :=
  let p := p.countLine
  match LineKind.of line with
  | .blank => p.countBlank
  | .comment => p.countComment
  | .method => p.readMethod line
  | .header => p.readHeader line

end Progress

def readLines (ls : List Text) : Reading := (ls.foldl Progress.readLine {}).close.done

def read (src : Text) : Reading := readLines (lines src)

def Reading.complaints (r : Reading) : List Text := r.diagnostics.map Diagnostic.text

def Reading.hasComplaints (r : Reading) : Bool := !r.diagnostics.isEmpty

end Stencil.Outline
