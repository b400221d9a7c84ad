import Stencil.FilePath
import Stencil.Keyed

/-!
# Disks

A disk holds files and folders under the working folder. A path is walked part by part: every part but the last has to
be a folder, and `..` leads back.
-/

namespace Stencil

inductive Entry where
  | file (content : Text)
  | folder
deriving DecidableEq

inductive DiskFault where
  | missing
  | notFolder
  | isFolder
  | tooLong
  | invalid
deriving DecidableEq

def DiskFault.message : DiskFault → Text
  | .missing => "no such file or directory"
  | .notFolder => "not a directory"
  | .isFolder => "is a directory"
  | .tooLong => "file name too long"
  | .invalid => "invalid argument"

structure DiskError where
  action : Text
  path : Text
  fault : DiskFault
deriving DecidableEq

def DiskError.message (e : DiskError) : Text := e.action ++ " " ++ e.path ++ ": " ++ e.fault.message

abbrev Lookup := Text → Except DiskFault Entry

def Lookup.read (find : Lookup) (path : Text) : Except DiskError Text :=
  match find path with
  | .ok (.file content) => .ok content
  | .ok .folder => .error ⟨"read", path, .isFolder⟩
  | .error fault => .error ⟨"open", path, fault⟩

/-- A place is the list of the parts that lead to it from the working folder. -/
abbrev Place := List Text

structure Disk where
  files : List (Place × Text) := []
  folders : List Place := []

namespace Disk

/-- What is wrong with a name by itself: it holds a zero character, or more than 255 bytes. -/
def nameFault? (part : Text) : Option DiskFault :=
  if part.contains (.char '\x00') then some .invalid
  else if 255 < part.toBytes.length then some .tooLong
  else none

def entry? (d : Disk) (p : Place) : Option Entry :=
  match d.files.lookup p with
  | some content => some (.file content)
  | none => if p = [] ∨ p = [Text.ofString "/"] ∨ p ∈ d.folders then some .folder else none

def walk (d : Disk) (p : Place) : List Text → Except DiskFault (Place × Entry)
  | [] =>
    match d.entry? p with
    | some e => .ok (p, e)
    | none => .error .missing
  | part :: parts =>
    match d.entry? p with
    | none => .error .missing
    | some (.file _) => .error .notFolder
    | some .folder =>
      if part = [] ∨ part = Text.ofString "." then d.walk p parts
      else if part = Text.ofString ".." then d.walk p.dropLast parts
      else
        match nameFault? part with
        | some fault => .error fault
        | none => d.walk (p ++ [part]) parts

def route (path : Text) : Place × List Text :=
  (if FilePath.isRooted path then [Text.ofString "/"] else [], path.split '/')

def find (d : Disk) : Lookup := fun path =>
  if path = [] then .error .missing
  else if path.contains (.char '\x00') then .error .invalid
  else
    let (start, parts) := route path
    (d.walk start parts).map Prod.snd

/-! ## Writing -/

def addFile (d : Disk) (p : Place) (content : Text) : Disk :=
  { d with files := Keyed.put Prod.fst (p, content) d.files }

def place (path : Text) : Place :=
  if FilePath.isRooted path then Text.ofString "/" :: FilePath.parts path else FilePath.parts path

def pathOf (p : Place) : Text :=
  if p = [] then "."
  else if p.head? = some (Text.ofString "/") then "/" ++ Text.join "/" p.tail
  else Text.join "/" p

def makeFolders (d : Disk) (done : Place) : List Text → Except DiskError Disk
  | [] => .ok d
  | part :: parts =>
    let p := done ++ [part]
    match d.entry? p with
    | some (.file _) => .error ⟨"mkdir", pathOf p, .notFolder⟩
    | some .folder => d.makeFolders p parts
    | none =>
      match nameFault? part with
      | some fault => .error ⟨"mkdir", pathOf p, fault⟩
      | none => ({ d with folders := d.folders ++ [p] } : Disk).makeFolders p parts

def write (d : Disk) (path content : Text) : Except DiskError Disk := do
  let p := place path
  let d ← d.makeFolders [] p.dropLast
  match d.entry? p with
  | some .folder => .error ⟨"open", path, .isFolder⟩
  | _ =>
    match p.getLast?.bind nameFault? with
    | some fault => .error ⟨"open", path, fault⟩
    | none => .ok (d.addFile p content)

def isInside (p : Place) : Bool := p.head?.all fun part => part ≠ Text.ofString "/" && part ≠ Text.ofString ".."

def changes (before after : Disk) : List (Place × Text) :=
  after.files.filter fun (p, content) => isInside p && before.files.lookup p ≠ some content

def ofFiles (files : List (Text × Text)) : Disk :=
  files.foldl (fun d (path, content) => (d.write (FilePath.clean path) content).toOption.getD d) {}

end Disk

end Stencil
