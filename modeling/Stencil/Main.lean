import Stencil.Run

/-!
# The command

What a session needs from the outside is read first: the variables, the configuration file and the input. What it
plans is then written, and its log goes to the standard error output.
-/

namespace Stencil.Command

def pathString (t : Text) : String := t.toString?.getD ""

/-- The fault behind an error of the system, where 20 says that a part of the path is no folder and 21 that a folder is
no file. -/
def fault : IO.Error → DiskFault
  | .inappropriateType _ code _ => if code = 20 then .notFolder else .isFolder
  | .resourceBusy _ _ => .isFolder
  | .alreadyExists _ _ _ => .notFolder
  | _ => .missing

def look (path : Text) : IO (Except DiskFault Entry) := do
  try
    let bytes ← IO.FS.readBinFile (pathString path)
    return .ok (.file (Text.ofBytes bytes.toList))
  catch e =>
    match fault e with
    | .isFolder => return .ok .folder
    | f => return .error f

def lookAll (paths : List Text) : IO Lookup := do
  let found ← paths.mapM fun p => return (p, ← look p)
  return fun p => (found.lookup p).getD (.error .missing)

def environment : IO (Key → Text) := do
  let values ← Key.all.mapM fun k => return (k, Text.ofString ((← IO.getEnv (pathString k.envName)).getD ""))
  return fun k => (values.lookup k).getD []

partial def readAll (input : IO.FS.Stream) (before : ByteArray) : IO ByteArray := do
  let more ← input.read 65536
  if more.isEmpty then return before else readAll input (before ++ more)

def bytesOf (t : Text) : ByteArray := ⟨t.toBytes.toArray⟩

def print (out : IO.FS.Stream) (t : Text) : IO Unit := do
  out.write (bytesOf t)
  out.flush

def source (s : Settings) : IO (Except DiskError Text) := do
  match s.inputFile? with
  | none => return .ok (Text.ofBytes (← readAll (← IO.getStdin) .empty).toList)
  | some path => return (← lookAll [path]).read path

def folders (p : Place) : List Place := (List.range (p.length - 1)).map fun n => p.take (n + 1)

def makeFolders (path : Text) : IO (Except DiskError Unit) := do
  for folder in folders (Disk.place path) do
    let path := Disk.pathOf folder
    try
      IO.FS.createDirAll (pathString path)
    catch e =>
      match ← look path with
      | .ok (.file _) => return .error ⟨"mkdir", path, .notFolder⟩
      | _ => return .error ⟨"mkdir", path, fault e⟩
  return .ok ()

def writeFile (outDir path text : Text) : IO (Except Text Unit) := do
  if outDir = [] then
    print (← IO.getStdout) text
    return .ok ()
  match ← makeFolders path with
  | .error e => return .error e.message
  | .ok () =>
    try
      IO.FS.writeBinFile (pathString path) (bytesOf text)
      return .ok ()
    catch e => return .error (DiskError.message ⟨"open", path, fault e⟩)

def log (e : LogEntry) : IO Unit := do print (← IO.getStderr) (e.line ++ "\n")

def run (s : Settings) : IO (Outcome Unit) :=
  s.runM (fun e => if s.shows e then log e else pure ()) (fun _ => writeFile s.outDir) () (source s)

def fail (message : Text) : IO UInt32 := do
  log (fatal message)
  return 1

def start (words : List Text) : IO UInt32 := do
  let config := (Flags.read words).toOption.map Flags.config |>.getD []
  let find ← lookAll (ConfigFile.candidates config)
  match Invocation.read words (← environment) find with
  | .error e =>
    print (← IO.getStderr) e.stderr
    fail e.message
  | .ok ⟨_, none⟩ =>
    print (← IO.getStdout) versionText
    return 0
  | .ok ⟨_, some s⟩ =>
    match (← run s).result with
    | .ok () => return 0
    | .error e => fail e.message

end Stencil.Command

def main (words : List String) : IO UInt32 := Stencil.Command.start (words.map Stencil.Text.ofString)
