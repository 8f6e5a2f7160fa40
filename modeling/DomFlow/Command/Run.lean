import DomFlow.Command.Arguments
import DomFlow.Command.Discovery
import DomFlow.Config.Lookup
import DomFlow.Report.Document
import DomFlow.Report.Pretty

/-! # Running a command

A command sees a tree of files and a few facts about its surroundings. It answers with an exit status, what
it prints, and what it writes. -/

namespace DomFlow.Command

structure Surroundings where
  workingDirectory : String
  /-- Whether the user asks for no colours. -/
  noColor : Bool := false
  /-- Whether the user asks for colours even where they are not usual. -/
  forceColor : Bool := false
deriving DecidableEq, Repr, Inhabited

structure LogFile where
  path : String
  /-- Whether there was anything to log. -/
  used : Bool
deriving DecidableEq, Repr, Inhabited

structure Outcome where
  exit : Nat
  stdout : String := ""
  stderr : String := ""
  /-- Paths and texts of files that were written. -/
  written : List (String × String) := []
  log : Option LogFile := none
deriving DecidableEq, Repr, Inhabited

def Outcome.failure (stderr message : String) : Outcome :=
  { exit := 1, stderr := stderr ++ "Error: " ++ message ++ "\n" }

def resultFor (files : FileTree) (s : Analysis.Settings) (path : String) : FileResult :=
  match files.get? path with
  | some (.file (some text)) => match Analysis.analyze s text with
    | .ok report => { path, outcome := .analyzed report }
    | .error e => { path, outcome := .failed e.message }
  | _ => { path, outcome := .failed "failed to read file: stream did not contain valid UTF-8" }

def CheckOptions.settings (o : CheckOptions) (c : Config) : Analysis.Settings :=
  let s := c.settings
  if o.noEmulator then { s with sandbox := { s.sandbox with enabled := false } } else s

def CheckOptions.report (o : CheckOptions) (color : Bool) (s : Surroundings) (results : List FileResult) : String :=
  match o.format with
  | .json =>
    (Report.document { workingDirectory := s.workingDirectory, analyzedPath := o.path, totalFiles := results.length }
      results).render ++ "\n"
  | .pretty => Report.pretty color results

/-- Whether a run leaves anything in a log of a level. -/
def isLogged (level : LogLevel) (results : List FileResult) : Bool :=
  match level with
  | .error => false
  | .warn => results.any fun r => r.error?.isSome
  | _ => !results.isEmpty

/-- Scans files; the exit status tells whether there are findings. -/
def check (s : Surroundings) (files : FileTree) (o : CheckOptions) (level : LogLevel) : Outcome × Bool :=
  let color := s.forceColor && !o.noColor && !s.noColor
  let loaded := Config.loadOrDefaultWithWarnings files o.path
  let stderr := String.join (loaded.warnings.map fun w => Report.paint color .caution "warning:" ++ " " ++ w ++ "\n")
  let settings := o.settings loaded.config
  match settings.patterns with
  | .error _ => (.failure stderr "invalid pattern in configuration", false)
  | .ok _ => match discover files loaded.config o.path with
    | none => (.failure stderr ("Path does not exist: " ++ o.path), false)
    | some [] => ({ exit := 0, stdout := "No JavaScript files found.\n", stderr }, false)
    | some paths =>
      let results := paths.map (resultFor files settings)
      ({ exit := if results.any FileResult.hasFindings then 1 else 0
         stdout := o.report color s results, stderr }, isLogged level results)

def initialized (color : Bool) : Outcome :=
  { exit := 0
    stdout := Report.paint color .success "✓" ++ " Created " ++ Report.paint color .staticPass Config.fileName ++
      " configuration file\n"
    written := [(Config.fileName, Config.template)] }

/-- Writes a new configuration; one that exists is overwritten only by force. -/
def init (s : Surroundings) (files : FileTree) (force : Bool) : Outcome :=
  match files.get? Config.fileName with
  | some t =>
    if !force then
      .failure "" ("Config file '" ++ Config.fileName ++ "' already exists. Use --force to overwrite.")
    else if t.isFile then initialized s.forceColor
    else .failure "" "Is a directory (os error 21)"
  | none => initialized s.forceColor

/-- The path of the log; one without a name gets one. -/
def logPath (path : String) : String :=
  Path.join ((Path.parent? path).getD ".") ((Path.fileName? path).getD "domxss.log")

/-- The files with a log, unless it cannot be made. -/
def openLog (files : FileTree) (path : String) : Option FileTree :=
  match files.get? path with
  | some t => if t.isFile then some files else none
  | none =>
    let opened := files.insert path (.file (some ""))
    if opened.has path then some opened else none

def act (s : Surroundings) (files : FileTree) (a : Action) (level : LogLevel) : Outcome × Bool :=
  match a with
  | .check o => check s files o level
  | .init force => (init s files force, false)

/-- Runs an action with its log; a log that cannot be made stops the run at once. -/
def actLogged (s : Surroundings) (files : FileTree) (a : Action) (l : Logging) : Outcome :=
  match l.file with
  | none => (act s files a l.level).1
  | some file =>
    let path := logPath file
    match openLog files path with
    | none => { exit := 101 }
    | some files =>
      let (outcome, used) := act s files a l.level
      { outcome with log := some { path, used } }

def about : String := "DOM-based XSS detector for JavaScript\n"

/-- Runs the program. -/
def run (s : Surroundings) (files : FileTree) (args : List String) : Outcome :=
  match Request.ofArguments args with
  | .run a l => actLogged s files a l
  | .version => { exit := 0, stdout := "domxss " ++ Report.programVersion ++ "\n" }
  | .help => { exit := 0, stdout := about }
  | .misuse => { exit := 2, stderr := "error: the arguments do not fit\n" }

end DomFlow.Command
