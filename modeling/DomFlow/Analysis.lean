import DomFlow.Flow.Lower
import DomFlow.Sandbox.Emulation
import DomFlow.Script.Parse

/-! # Analysis of a script

The static pass and the sandbox look at the same script. Their findings are merged, those of the static
pass first, and of every flow only the first finding is kept. -/

namespace DomFlow

namespace Analysis

structure Settings where
  sources : List String := builtinSources
  sinks : List String := builtinSinks
  sandbox : Sandbox.Options := {}
deriving DecidableEq, Repr, Inhabited

inductive Error where
  | parse (e : Script.ParseError)
  | pattern (e : PatternError)
deriving Repr

def Error.message : Error → String
  | .parse e => "failed to parse script: " ++ e.text
  | .pattern e => e.headline

structure Report where
  findings : List Finding := []
  /-- Names that are read and bound nowhere, in order and without repetition. -/
  globals : List String := []
deriving DecidableEq, Repr, Inhabited

def Report.isClean (r : Report) : Bool := r.findings.isEmpty

def Report.staticFindings (r : Report) : List Finding := r.findings.filter fun f => !f.isEmulated

def Report.emulatedFindings (r : Report) : List Finding := r.findings.filter Finding.isEmulated

/-- The patterns of the settings, or the first one that does not compile. -/
def Settings.patterns (s : Settings) : Except PatternError Patterns := Patterns.compile s.sources s.sinks

/-- Merges what the walk of a script has found with the findings of the sandbox. -/
def merge (walked : WalkState) (emulated : List Finding) : Report :=
  { findings := Finding.deduplicate (walked.findings ++ emulated)
    globals := walked.accesses.mergeSort fun a b => decide (a ≤ b) }

abbrev Emulator := Sandbox.Options → String → Sandbox.Trace

/-- Findings of the sandbox, if it is to be used. -/
def Settings.emulated (emulator : Emulator) (s : Settings) (code : String) : List Finding :=
  if s.sandbox.enabled then (emulator s.sandbox code).findings else []

/-- Analyzes a script: patterns are compiled first, then the script is parsed. -/
def analyzeWith (emulator : Emulator) (s : Settings) (code : String) : Except Error Report :=
  match s.patterns with
  | .error e => .error (.pattern e)
  | .ok p => match Script.parse code with
    | .error e => .error (.parse e)
    | .ok script => .ok (merge (({} : WalkState).walk p script) (s.emulated emulator code))

/-- Analyzes a script with the sandbox of this library. -/
def analyze (s : Settings) (code : String) : Except Error Report := analyzeWith Sandbox.trace s code

end Analysis

end DomFlow
