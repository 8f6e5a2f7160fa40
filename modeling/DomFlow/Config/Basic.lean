import DomFlow.Patterns
import DomFlow.Analysis
import DomFlow.Toml.Document

/-! # Configuration

A configuration is a TOML table. Keys that it does not know are ignored with a warning; a known key with a
value of a wrong type makes the whole table unusable. -/

namespace DomFlow

structure Config where
  /-- Patterns in place of the built-in ones. -/
  sources : Option (List String) := none
  sinks : Option (List String) := none
  /-- Texts; a path that contains one is left out. -/
  exclude : List String := []
  sandbox : Sandbox.Options := {}
deriving DecidableEq, Repr, Inhabited

namespace Config

def fileName : String := "domxss.toml"

def templateLines : List String := [
  "# domxss configuration",
  "",
  "# Regular expressions searched in reconstructed access paths such as",
  "# \x60location.hash\x60. Omit to use the built-in lists.",
  "# sources = [\"location\\\\.(hash|search|href)\", \"document\\\\.URL\"]",
  "# sinks = [\"(^|\\\\.)eval\\\\($\", \"(^|\\\\.)innerHTML$\"]",
  "",
  "# Path substrings skipped when scanning a directory.",
  "exclude = [\"node_modules\", \"dist\"]",
  "",
  "[emulator]",
  "enabled = true",
  "# Wall-clock budget per script, in milliseconds.",
  "timeout_ms = 5000",
  "loop_iteration_limit = 100000",
  "recursion_limit = 64",
  "stack_size_limit = 524288",
  "max_source_bytes = 2097152"]

def template : String := String.join (templateLines.map (· ++ "\n"))

/-- The value of a field: the default where the table has none, nothing where it has a wrong one. -/
def fieldOr {α : Type} (read : Toml.Value → Option α) (default : α) : Option Toml.Value → Option α
  | none => some default
  | some v => read v

def asBool? : Toml.Value → Option Bool
  | .bool b => some b
  | _ => none

def asNat? : Toml.Value → Option Nat
  | .integer (.ofNat n) => some n
  | _ => none

def asText? : Toml.Value → Option String
  | .text s => some s
  | _ => none

def asTexts? : Toml.Value → Option (List String)
  | .array vs => vs.mapM asText?
  | _ => none

/-- Options of the sandbox, from what is given for each of them. -/
def optionsFrom? (enabled timeout loops recursion stack bytes : Option Toml.Value) : Option Sandbox.Options := do
  let d : Sandbox.Options := {}
  return {
    enabled := ← fieldOr asBool? d.enabled enabled
    timeoutMs := ← fieldOr asNat? d.timeoutMs timeout
    loopLimit := ← fieldOr asNat? d.loopLimit loops
    recursionLimit := ← fieldOr asNat? d.recursionLimit recursion
    stackLimit := ← fieldOr asNat? d.stackLimit stack
    maxSourceBytes := ← fieldOr asNat? d.maxSourceBytes bytes }

/-- Options by name in a table, or by place in an array; a date counts as a table that names none. -/
def asOptions? : Toml.Value → Option Sandbox.Options
  | .table t => optionsFrom? (t.lookup "enabled") (t.lookup "timeout_ms") (t.lookup "loop_iteration_limit")
      (t.lookup "recursion_limit") (t.lookup "stack_size_limit") (t.lookup "max_source_bytes")
  | .array vs => optionsFrom? vs[0]? vs[1]? vs[2]? vs[3]? vs[4]? vs[5]?
  | .moment _ => some {}
  | _ => none

def ofTable? (t : Toml.Table) : Option Config := do
  return {
    sources := ← fieldOr (fun v => (asTexts? v).map some) none (t.lookup "sources")
    sinks := ← fieldOr (fun v => (asTexts? v).map some) none (t.lookup "sinks")
    exclude := ← fieldOr asTexts? [] (t.lookup "exclude")
    sandbox := ← fieldOr asOptions? {} (t.lookup "emulator") }

def knownKeys : List String := ["sources", "sinks", "exclude", "emulator"]

def knownSandboxKeys : List String :=
  ["enabled", "timeout_ms", "loop_iteration_limit", "recursion_limit", "stack_size_limit", "max_source_bytes"]

/-- The keys of a table that are not among the known ones, in order. -/
def unknownKeys (known : List String) (t : Toml.Table) : List String :=
  t.sortedKeys.filter fun k => !known.contains k

/-- Warnings about unknown keys: those of the table, then those of its part on the sandbox. -/
def warnings (t : Toml.Table) : List String :=
  (unknownKeys knownKeys t).map (fun k => "Unknown config option: '" ++ k ++ "'") ++
    match t.lookup "emulator" with
    | some (.table s) =>
      (unknownKeys knownSandboxKeys s).map fun k => "Unknown config option in [emulator]: '" ++ k ++ "'"
    | _ => []

/-- Whether a list occurs in another one without a gap. -/
def occursIn (part : List Char) : List Char → Bool
  | [] => part.isEmpty
  | c :: r => part.isPrefixOf (c :: r) || occursIn part r

/-- Whether a path is left out: it contains one of the texts that are not empty. -/
def isExcluded (c : Config) (path : String) : Bool :=
  c.exclude.any fun e => !e.isEmpty && occursIn e.toList path.toList

def settings (c : Config) : Analysis.Settings :=
  { sources := c.sources.getD builtinSources, sinks := c.sinks.getD builtinSinks, sandbox := c.sandbox }

end Config

end DomFlow
