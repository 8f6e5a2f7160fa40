/-! # Arguments of the command line

Arguments are read from left to right; the first one that asks for help or the version settles the request,
and the first one that does not fit makes it unusable. Options about logging may stand before the command
and after it. -/

namespace DomFlow.Command

inductive LogLevel where
  | error
  | warn
  | info
  | debug
  | trace
deriving DecidableEq, Repr, Inhabited

def LogLevel.ofText? : String → Option LogLevel
  | "error" => some error
  | "warn" => some warn
  | "info" => some info
  | "debug" => some debug
  | "trace" => some trace
  | _ => none

structure Logging where
  level : LogLevel := .warn
  file : Option String := none
  json : Bool := false
deriving DecidableEq, Repr, Inhabited

inductive Format where
  | pretty
  | json
deriving DecidableEq, Repr, Inhabited

def Format.ofText? : String → Option Format
  | "pretty" => some pretty
  | "json" => some json
  | _ => none

structure CheckOptions where
  path : String
  format : Format := .pretty
  noEmulator : Bool := false
  noColor : Bool := false
deriving DecidableEq, Repr, Inhabited

inductive Action where
  | check (o : CheckOptions)
  | init (force : Bool)
deriving DecidableEq, Repr, Inhabited

inductive Request where
  | run (a : Action) (l : Logging)
  | version
  | help
  /-- The arguments do not fit. -/
  | misuse
deriving DecidableEq, Repr, Inhabited

inductive Switch where
  | logLevel
  | logFile
  | logJson
  | format
  | noEmulator
  | noColor
  | force
  | help
  | version
deriving DecidableEq, Repr, Inhabited

def Switch.takesValue : Switch → Bool
  | logLevel | logFile | format => true
  | _ => false

inductive Level where
  | top
  | check
  | init
deriving DecidableEq, Repr, Inhabited

def Level.long? (l : Level) (name : String) : Option Switch :=
  match l, name with
  | _, "log-level" => some .logLevel
  | _, "log-file" => some .logFile
  | _, "log-json" => some .logJson
  | _, "help" => some .help
  | .top, "version" => some .version
  | .check, "format" => some .format
  | .check, "no-emulator" => some .noEmulator
  | .check, "no-color" => some .noColor
  | .init, "force" => some .force
  | _, _ => none

def Level.short? (l : Level) (c : Char) : Option Switch :=
  match l, c with
  | _, 'h' => some .help
  | .top, 'V' => some .version
  | .check, 'f' => some .format
  | .init, 'f' => some .force
  | _, _ => none

structure Given where
  logLevel : Option LogLevel := none
  logFile : Option String := none
  logJson : Bool := false
  format : Option Format := none
  noEmulator : Bool := false
  noColor : Bool := false
  force : Bool := false
  path : Option String := none
deriving DecidableEq, Repr, Inhabited

def Given.set (g : Given) : Switch → Option Given
  | .logJson => if g.logJson then none else some { g with logJson := true }
  | .noEmulator => if g.noEmulator then none else some { g with noEmulator := true }
  | .noColor => if g.noColor then none else some { g with noColor := true }
  | .force => if g.force then none else some { g with force := true }
  | _ => none

def Given.setValue (g : Given) (s : Switch) (value : String) : Option Given :=
  match s with
  | .logLevel => if g.logLevel.isSome then none
    else (LogLevel.ofText? value).map fun v => { g with logLevel := some v }
  | .logFile => if g.logFile.isSome || value.isEmpty then none else some { g with logFile := some value }
  | .format => if g.format.isSome then none else (Format.ofText? value).map fun v => { g with format := some v }
  | _ => none

/-- The logging that is asked for before a command and after it; the latter counts. -/
def Given.logging (outer inner : Given) : Logging :=
  { level := (inner.logLevel.or outer.logLevel).getD .warn
    file := inner.logFile.or outer.logFile
    json := inner.logJson || outer.logJson }

inductive Reading where
  | more (g : Given)
  /-- The next argument is the value of an option. -/
  | value (g : Given) (s : Switch)
  | settled (r : Request)
deriving DecidableEq, Repr, Inhabited

def Reading.ofGiven? : Option Given → Reading
  | some g => .more g
  | none => .settled .misuse

def Given.flag (g : Given) : Switch → Reading
  | .help => .settled .help
  | .version => .settled .version
  | s => .ofGiven? (g.set s)

def Given.long (g : Given) (l : Level) (text : List Char) : Reading :=
  let name := String.ofList (text.takeWhile (· != '='))
  let value? := match text.dropWhile (· != '=') with
    | _ :: v => some (String.ofList v)
    | [] => none
  match l.long? name, value? with
  | none, _ => .settled .misuse
  | some s, some v => if s.takesValue then .ofGiven? (g.setValue s v) else .settled .misuse
  | some s, none => if s.takesValue then .value g s else g.flag s

def Given.short (l : Level) : Given → List Char → Reading
  | g, [] => .more g
  | g, c :: r =>
    match l.short? c with
    | none => .settled .misuse
    | some s =>
      if s.takesValue then
        match r with
        | [] => .value g s
        | '=' :: v => .ofGiven? (g.setValue s (String.ofList v))
        | v => .ofGiven? (g.setValue s (String.ofList v))
      else match g.flag s with
        | .more g => Given.short l g r
        | other => other

def Given.positional (g : Given) (l : Level) (text : String) : Reading :=
  if l == .check && g.path.isNone && !text.isEmpty then .more { g with path := some text } else .settled .misuse

/-- The request of a command, when all arguments are read. -/
def Given.finish (outer g : Given) : Level → Request
  | .check => match g.path with
    | some path => .run (.check { path, format := g.format.getD .pretty, noEmulator := g.noEmulator, noColor := g.noColor })
        (outer.logging g)
    | none => .misuse
  | .init => .run (.init g.force) (outer.logging g)
  | .top => .misuse

def looksLikeOption (text : List Char) : Bool :=
  match text with
  | '-' :: _ :: _ => true
  | _ => false

def readPlain (outer : Given) (l : Level) : Given → List String → Request
  | g, [] => outer.finish g l
  | g, a :: r => match g.positional l a with
    | .more g => readPlain outer l g r
    | _ => .misuse

/-- Reads the arguments of a command; `pending` is an option that waits for its value. -/
def readCommand (outer : Given) (l : Level) : Option Switch → Given → List String → Request
  | some _, _, [] => .misuse
  | none, g, [] => outer.finish g l
  | some s, g, a :: r =>
    if looksLikeOption a.toList then .misuse
    else match g.setValue s a with
      | some g => readCommand outer l none g r
      | none => .misuse
  | none, g, a :: r =>
    let reading := match a.toList with
      | ['-', '-'] => Reading.settled (readPlain outer l g r)
      | '-' :: '-' :: text => g.long l text
      | '-' :: c :: text => Given.short l g (c :: text)
      | _ => g.positional l a
    match reading with
    | .more g => readCommand outer l none g r
    | .value g s => readCommand outer l (some s) g r
    | .settled request => request

def isHelpTopic : List String → Bool
  | [] | ["check"] | ["init"] | ["help"] => true
  | _ => false

/-- Reads all arguments; `pending` is an option that waits for its value. -/
def readTop : Option Switch → Given → List String → Request
  | _, _, [] => .misuse
  | some s, g, a :: r =>
    if looksLikeOption a.toList then .misuse
    else match g.setValue s a with
      | some g => readTop none g r
      | none => .misuse
  | none, g, a :: r =>
    match a with
    | "check" => readCommand g .check none {} r
    | "init" => readCommand g .init none {} r
    | "help" => if isHelpTopic r then .help else .misuse
    | _ =>
      let reading := match a.toList with
        | ['-', '-'] => Reading.settled .misuse
        | '-' :: '-' :: text => g.long .top text
        | '-' :: c :: text => Given.short .top g (c :: text)
        | _ => .settled .misuse
      match reading with
      | .more g => readTop none g r
      | .value g s => readTop (some s) g r
      | .settled request => request

def Request.ofArguments (args : List String) : Request := readTop none {} args

end DomFlow.Command
