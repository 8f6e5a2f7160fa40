import DomFlow.Regex.Reader
import DomFlow.Regex.Search

/-! # Source and sink patterns

Names of places are searched for patterns: sources give attacker-controlled data, sinks must not receive
it. A pattern may match anywhere in a name unless it anchors itself. -/

namespace DomFlow

inductive PatternKind where
  | source
  | sink
deriving DecidableEq, Repr, Inhabited

def PatternKind.text : PatternKind → String
  | .source => "source"
  | .sink => "sink"

def builtinSources : List String := [
  "location\\.(hash|search|href|pathname)",
  "document\\.(URL|documentURI|baseURI|referrer|cookie)",
  "window\\.name",
  "(localStorage|sessionStorage)\\.getItem"]

/-- Sinks that are known without configuration. Calls end in an opening parenthesis and assignments in an
equals sign; properties match both as targets and as keys. -/
def builtinSinks : List String := [
  "(^|\\.)eval\\($",
  "(^|\\.)set(Timeout|Interval)\\($",
  "(^|\\.)Function\\($",
  "document\\.write(ln)?\\($",
  "\\.insertAdjacentHTML\\($",
  "(^|\\.)(innerHTML|outerHTML)$",
  "(^|\\.)location(\\.href)?=$",
  "\\.src=$",
  "^(\\$|jQuery)\\($",
  "\\.html\\($"]

def PatternKind.builtin : PatternKind → List String
  | .source => builtinSources
  | .sink => builtinSinks

structure PatternError where
  kind : PatternKind
  pattern : String
  fault : RegexText.Fault
deriving DecidableEq, Repr, Inhabited

def PatternError.headline (e : PatternError) : String :=
  let text := "invalid " ++ e.kind.text ++ " pattern '" ++ e.pattern ++ "': regex parse error:"
  String.ofList (text.toList.takeWhile (· != '\n'))

def PatternError.reason (e : PatternError) : String :=
  "error: " ++ e.fault.message

structure Pattern where
  text : String
  regex : Regex
deriving Repr, Inhabited

/-- Patterns of one kind, in the order in which they were given. -/
structure PatternSet where
  kind : PatternKind
  patterns : List Pattern
deriving Repr, Inhabited

namespace PatternSet

/-- Reads patterns; the first that cannot be read is the error. -/
def compile (kind : PatternKind) (texts : List String) : Except PatternError PatternSet := do
  let patterns ← texts.mapM fun text =>
    match Regex.parse text with
    | .ok regex => Except.ok { text, regex }
    | .error fault => .error { kind, pattern := text, fault }
  return { kind, patterns }

def size (s : PatternSet) : Nat := s.patterns.length

def isMatch (s : PatternSet) (name : String) : Bool :=
  s.patterns.any fun p => p.regex.searches name

def firstMatch? (s : PatternSet) (name : String) : Option String :=
  (s.patterns.find? fun p => p.regex.searches name).map (·.text)

end PatternSet

structure Patterns where
  sources : PatternSet
  sinks : PatternSet
deriving Repr, Inhabited

namespace Patterns

def compile (sources sinks : List String) : Except PatternError Patterns := do
  let sources ← PatternSet.compile .source sources
  let sinks ← PatternSet.compile .sink sinks
  return { sources, sinks }

def isSource (p : Patterns) (name : String) : Bool := p.sources.isMatch name

def isSink (p : Patterns) (name : String) : Bool := p.sinks.isMatch name

end Patterns

end DomFlow
