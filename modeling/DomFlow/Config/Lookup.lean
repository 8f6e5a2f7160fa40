import DomFlow.Config.Basic
import DomFlow.Files.Tree

/-! # Finding and loading a configuration

The configuration of a path is the nearest one among those of the path and its parents. One that cannot be
used counts as the default, even where a farther one could be used. -/

namespace DomFlow.Config

structure Loaded where
  config : Config := {}
  warnings : List String := []
deriving DecidableEq, Repr, Inhabited

/-- Why a configuration cannot be used. -/
inductive LoadError where
  | unreadable
  | malformed
deriving DecidableEq, Repr, Inhabited

def ofText (text : String) : Except LoadError Config :=
  match (Toml.parse? text).bind ofTable? with
  | some config => .ok config
  | none => .error .malformed

/-- The warnings about a text; one that is no table has none. -/
def warningsOfText (text : String) : List String := ((Toml.parse? text).map warnings).getD []

/-- The path of the configuration for a starting path. -/
def find? (files : FileTree) (start : String) : Option String :=
  ((Path.upward start).map fun folder => Path.join folder fileName).find? files.has

def readText (files : FileTree) (path : String) : Except LoadError String :=
  match files.get? path with
  | some (.file (some text)) => .ok text
  | _ => .error .unreadable

def load (files : FileTree) (path : String) : Except LoadError Config := do
  ofText (← readText files path)

def loadWithWarnings (files : FileTree) (path : String) : Except LoadError Loaded := do
  let text ← readText files path
  return { config := ← ofText text, warnings := warningsOfText text }

/-- The configuration for a starting path, or the default. -/
def loadOrDefault (files : FileTree) (start : String) : Config :=
  ((find? files start).bind fun path => (load files path).toOption).getD {}

/-- The configuration for a starting path with warnings, or the default without any. -/
def loadOrDefaultWithWarnings (files : FileTree) (start : String) : Loaded :=
  match find? files start with
  | some path => (loadWithWarnings files path).toOption.getD {}
  | none => {}

end DomFlow.Config
