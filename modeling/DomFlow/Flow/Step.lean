import DomFlow.Finding
import DomFlow.Flow.Reading
import DomFlow.Scope.Tracker

/-! # Taint steps

The static pass turns a script into a list of steps, each of which does one thing to the state: it opens
or closes a scope, notes or forgets the taint of a value, binds or assigns a name, or checks a sink. Taint
that is yet to be bound waits on a stack. -/

namespace DomFlow

/-- Which scope a declaration binds its names in. -/
inductive BindTarget where
  | current
  | function
deriving DecidableEq, Repr, Inhabited

inductive Step where
  | enter (kind : ScopeKind)
  | leave
  /-- Notes an untainted value. -/
  | clean
  /-- Notes the taint of an expression. -/
  | note (e : Script.Expr)
  /-- Notes the latest taint again or, if there is none, that of a default. -/
  | noteDefault (e : Script.Expr)
  /-- Forgets the latest taint. -/
  | forget
  /-- Binds a name afresh, with the latest taint. -/
  | declare (target : BindTarget) (name : String)
  /-- Assigns the latest taint to a name; only a plain assignment clears taint. -/
  | assign (plain : Bool) (name : String)
  /-- Checks the arguments of a call against a sink. -/
  | checkCall (callee : String) (args : List Script.Expr)
  /-- Checks an assignment of a value that has the latest taint. -/
  | checkAssign (target : String) (value : Script.Expr)
  /-- Checks a value under the key of a sink. -/
  | checkProperty (key : String) (value : Script.Expr)

inductive FlowKind where
  | call
  | assignment
  | property
  | prototype
deriving DecidableEq, Repr, Inhabited

/-- Data of a source that reaches a sink. -/
structure Flow where
  kind : FlowKind
  source : String
  sink : String
  evidence : String
deriving DecidableEq, Repr, Inhabited

def Flow.description (f : Flow) : String :=
  match f.kind with
  | .call => "Tainted data from " ++ f.source ++ " flows into sink " ++ f.sink ++ "()"
  | .assignment => "Tainted data from " ++ f.source ++ " is assigned to sink " ++ f.sink
  | .property => "Tainted data from " ++ f.source ++ " is stored in sink property " ++ f.sink
  | .prototype => "Assignment to prototype-sensitive path " ++ f.sink

def Flow.finding (f : Flow) : Finding :=
  { source := f.source, sink := f.sink, description := f.description, evidence := f.evidence }

def prototypeNames : List String := ["__proto__", "prototype", "constructor"]

/-- The source of a write to a prototype that no tainted data reaches. -/
def prototypeSource : String := "Prototype Assignment"

/-- The segments of a path between points and opening brackets. -/
def pathSegments (path : List Char) : List (List Char) := path.splitOnP fun c => c == '.' || c == '['

def isPrototypePath (path : String) : Bool :=
  (pathSegments path.toList).any fun s => prototypeNames.any fun n => s == n.toList

/-- The state of the static pass. -/
structure WalkState where
  tracker : Tracker := {}
  /-- Flows found so far, in order. -/
  flows : List Flow := []
  /-- Names that were used unbound, in the order in which they were met. -/
  accesses : List String := []
  /-- Taint that is yet to be bound, the latest first. -/
  pending : List (Option String) := []
deriving DecidableEq, Repr, Inhabited

namespace WalkState

def latest (s : WalkState) : Option String := s.pending.head?.join

def access (s : WalkState) (names : List String) : WalkState :=
  { s with accesses := names.foldl (fun acc n => if n ∈ acc then acc else acc ++ [n]) s.accesses }

def report (s : WalkState) (f : Flow) : WalkState :=
  { s with flows := s.flows ++ [f] }

def reading (p : Patterns) (s : WalkState) (e : Script.Expr) : Reading :=
  e.reading p s.tracker.lookup?

/-- The taint of an expression, with the unbound names it met put down. -/
def evaluate (p : Patterns) (s : WalkState) (e : Script.Expr) : Option String × WalkState :=
  let r := s.reading p e
  (r.origin, s.access r.unbound)

def push (s : WalkState) (taint : Option String) : WalkState :=
  { s with pending := taint :: s.pending }

def declare (s : WalkState) (target : BindTarget) (name : String) (taint : Option String) : WalkState :=
  let id := match target with
    | .current => s.tracker.current
    | .function => s.tracker.scopes.functionScope s.tracker.current
  let defined := s.tracker.scopes.define id name
  let scopes := match taint with
    | some origin => defined.taint id name origin
    | none => defined
  { s with tracker := { s.tracker with scopes } }

/-- Assigns to a name; an unbound one becomes global. -/
def assign (s : WalkState) (plain : Bool) (name : String) (taint : Option String) : WalkState :=
  match s.tracker.lookup? name with
  | some _ =>
    match taint with
    | some origin => { s with tracker := s.tracker.taint name origin }
    | none => if plain then { s with tracker := s.tracker.untaint name } else s
  | none =>
    let s := s.access [name]
    let defined := s.tracker.scopes.define ScopeTree.root name
    let scopes := match taint with
      | some origin => defined.taint ScopeTree.root name origin
      | none => defined
    { s with tracker := { s.tracker with scopes } }

def checkArg (p : Patterns) (callee : String) (s : WalkState) (arg : Script.Expr) : WalkState :=
  let (taint, s) := s.evaluate p arg
  match taint with
  | some origin => s.report ⟨.call, origin, callee, arg.describe⟩
  | none => s

/-- Reports what an assignment of a value with the given taint does. -/
def checkAssign (p : Patterns) (s : WalkState) (target : String) (value : Script.Expr)
    (taint : Option String) : WalkState :=
  let s := match taint with
    | some origin =>
      if p.isSink target || p.isSink (target ++ "=") then
        s.report ⟨.assignment, origin, target, value.describe⟩
      else s
    | none => s
  if isPrototypePath target then
    s.report ⟨.prototype, taint.getD prototypeSource, target, value.describe⟩
  else s

/-- Reports a value under the key of a sink if it is tainted. -/
def checkProperty (p : Patterns) (s : WalkState) (key : String) (value : Script.Expr) : WalkState :=
  let (taint, s) := s.evaluate p value
  match taint with
  | some origin => s.report ⟨.property, origin, key, value.describe⟩
  | none => s

/-- The effect of one step. -/
def step (p : Patterns) (s : WalkState) : Step → WalkState
  | .enter kind => { s with tracker := s.tracker.enter kind }
  | .leave => { s with tracker := s.tracker.leave }
  | .clean => s.push none
  | .note e =>
    let (taint, s) := s.evaluate p e
    s.push taint
  | .noteDefault e =>
    match s.latest with
    | some origin => s.push (some origin)
    | none =>
      let (taint, s) := s.evaluate p e
      s.push taint
  | .forget => { s with pending := s.pending.tail }
  | .declare target name => s.declare target name s.latest
  | .assign plain name => s.assign plain name s.latest
  | .checkCall callee args =>
    if p.isSink callee || p.isSink (callee ++ "(") then args.foldl (checkArg p callee) s else s
  | .checkAssign target value => s.checkAssign p target value s.latest
  | .checkProperty key value => s.checkProperty p key value

def run (p : Patterns) (steps : List Step) (s : WalkState) : WalkState :=
  steps.foldl (step p) s

end WalkState

end DomFlow
