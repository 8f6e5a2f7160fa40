import DomFlow.Command.Run

/-! # The command line

Reads the files that a command may need, runs the command, and does what its outcome says. -/

open DomFlow

/-- An entry of a folder with everything below it; only scripts and configurations are read. -/
partial def loadEntry (e : IO.FS.DirEntry) : IO (String × FileTree) := do
  if ← e.path.isDir then
    let entries ← e.path.readDir
    return (e.fileName, .folder (← entries.toList.mapM loadEntry))
  else if e.fileName == Config.fileName || Command.isScriptName e.fileName then
    return (e.fileName, .file (String.fromUTF8? (← IO.FS.readBinFile e.path)))
  else return (e.fileName, .file none)

def loadPath (path : String) : IO (Option FileTree) := do
  let cwd ← IO.currentDir
  let place := cwd / path
  if ← place.isDir then
    let entries ← place.readDir
    return some (.folder (← entries.toList.mapM loadEntry))
  else if ← place.pathExists then return some (.file (String.fromUTF8? (← IO.FS.readBinFile place)))
  else return none

/-- Whether a path leads out of the working directory. -/
def leadsOut (path : String) : Bool :=
  match Path.components path with
  | "/" :: _ | ".." :: _ => true
  | _ => false

/-- Adds what a command may need from outside the working directory. -/
def addOutside (files : FileTree) (path : String) : IO FileTree := do
  let mut files := files
  for folder in (Path.upward path).filter leadsOut do
    let config := Path.join folder Config.fileName
    if let some t ← loadPath config then files := files.insert config t
  match ← loadPath path with
  | some t => return files.insert path t
  | none => return files

def main (args : List String) : IO UInt32 := do
  let cwd ← IO.currentDir
  let here := (← loadPath ".").getD FileTree.empty
  let files ← match Command.Request.ofArguments args with
    | .run (.check o) _ => if leadsOut o.path then addOutside here o.path else pure here
    | _ => pure here
  let outcome := Command.run
    { workingDirectory := cwd.toString
      noColor := (← IO.getEnv "NO_COLOR").isSome
      forceColor := (← IO.getEnv "CLICOLOR_FORCE").any (· != "0") } files args
  if let some log := outcome.log then
    if let some parent := Path.parent? log.path then
      unless parent.isEmpty do IO.FS.createDirAll parent
    IO.FS.withFile log.path .append fun _ => pure ()
  for (path, text) in outcome.written do IO.FS.writeFile path text
  IO.print outcome.stdout
  IO.eprint outcome.stderr
  return outcome.exit.toUInt32
