import DomFlow.Flow.Lower
import DomFlow.Proofs.Scopes

/-! # Runs of steps

What the parts of a step leave alone, and what every run keeps: flows that have been found stay found, in
their order. -/

namespace DomFlow

/-- The expression that matches a text as it stands. -/
def Regex.literal : List Char → Regex
  | [] => .empty
  | c :: cs => .seq (.set (.single c)) (literal cs)

def Patterns.ofTexts (sources sinks : List String) : Patterns where
  sources := ⟨.source, sources.map fun text => ⟨text, .literal text.toList⟩⟩
  sinks := ⟨.sink, sinks.map fun text => ⟨text, .literal text.toList⟩⟩

/-- `location.hash` -/
def Script.locationHash : Script.Expr := .member (.ident "location") (.name "hash")

def Tracker.scopeOf (t : Tracker) : BindTarget → ScopeId
  | .current => t.current
  | .function => t.scopes.functionScope t.current

namespace WalkState

variable {p : Patterns}

@[simp] theorem access_tracker (s : WalkState) (names : List String) :
    (s.access names).tracker = s.tracker := rfl

@[simp] theorem access_flows (s : WalkState) (names : List String) :
    (s.access names).flows = s.flows := rfl

@[simp] theorem access_pending (s : WalkState) (names : List String) :
    (s.access names).pending = s.pending := rfl

@[simp] theorem report_tracker (s : WalkState) (f : Flow) : (s.report f).tracker = s.tracker := rfl

@[simp] theorem report_flows (s : WalkState) (f : Flow) : (s.report f).flows = s.flows ++ [f] := rfl

@[simp] theorem report_pending (s : WalkState) (f : Flow) : (s.report f).pending = s.pending := rfl

@[simp] theorem push_tracker (s : WalkState) (taint : Option String) :
    (s.push taint).tracker = s.tracker := rfl

@[simp] theorem push_flows (s : WalkState) (taint : Option String) :
    (s.push taint).flows = s.flows := rfl

@[simp] theorem push_pending (s : WalkState) (taint : Option String) :
    (s.push taint).pending = taint :: s.pending := rfl

@[simp] theorem latest_push (s : WalkState) (taint : Option String) : (s.push taint).latest = taint := by
  cases taint <;> rfl

@[simp] theorem evaluate_fst (s : WalkState) (e : Script.Expr) :
    (s.evaluate p e).1 = (s.reading p e).origin := rfl

@[simp] theorem evaluate_snd (s : WalkState) (e : Script.Expr) :
    (s.evaluate p e).2 = s.access (s.reading p e).unbound := rfl

@[simp] theorem declare_flows (s : WalkState) (target : BindTarget) (name : String)
    (taint : Option String) : (s.declare target name taint).flows = s.flows := rfl

@[simp] theorem declare_pending (s : WalkState) (target : BindTarget) (name : String)
    (taint : Option String) : (s.declare target name taint).pending = s.pending := rfl

/-- A declaration is one write. -/
theorem declare_tracker (s : WalkState) (target : BindTarget) (name : String) (taint : Option String) :
    (s.declare target name taint).tracker = { s.tracker with
      scopes := s.tracker.scopes.update (s.tracker.scopeOf target) (·.put (.declared name taint)) } := by
  cases taint with
  | none => cases target <;> rfl
  | some origin =>
    have hwrite := s.tracker.scopes.taint_define (s.tracker.scopeOf target) name origin
    cases target <;> exact congrArg (fun scopes => { s.tracker with scopes }) hwrite

/-- An assignment to an unbound name is one write to the global scope. -/
theorem assign_tracker_of_unbound {s : WalkState} {name : String} (h : s.tracker.lookup? name = none)
    (plain : Bool) (taint : Option String) : (s.assign plain name taint).tracker = { s.tracker with
      scopes := s.tracker.scopes.update ScopeTree.root (·.put (.declared name taint)) } := by
  simp only [assign, h]
  cases taint with
  | none => rfl
  | some origin => simp only [access_tracker, ScopeTree.taint_define]

theorem assign_tracker_of_bound {s : WalkState} {name : String} {v : Variable}
    (h : s.tracker.lookup? name = some v) (plain : Bool) (taint : Option String) :
    (s.assign plain name taint).tracker = match taint with
      | some origin => s.tracker.taint name origin
      | none => if plain then s.tracker.untaint name else s.tracker := by
  simp only [assign, h]
  cases taint with
  | none => cases plain <;> rfl
  | some origin => rfl

@[simp] theorem declare_current (s : WalkState) (target : BindTarget) (name : String)
    (taint : Option String) : (s.declare target name taint).tracker.current = s.tracker.current := rfl

@[simp] theorem assign_current (s : WalkState) (plain : Bool) (name : String) (taint : Option String) :
    (s.assign plain name taint).tracker.current = s.tracker.current := by
  unfold assign
  repeat' split
  all_goals rfl

@[simp] theorem assign_flows (s : WalkState) (plain : Bool) (name : String) (taint : Option String) :
    (s.assign plain name taint).flows = s.flows := by
  unfold assign
  repeat' split
  all_goals rfl

@[simp] theorem assign_pending (s : WalkState) (plain : Bool) (name : String) (taint : Option String) :
    (s.assign plain name taint).pending = s.pending := by
  unfold assign
  repeat' split
  all_goals rfl

@[simp] theorem run_nil (s : WalkState) : s.run p [] = s := rfl

@[simp] theorem run_cons (s : WalkState) (st : Step) (steps : List Step) :
    s.run p (st :: steps) = (s.step p st).run p steps := rfl

theorem run_append (s : WalkState) (a b : List Step) : s.run p (a ++ b) = (s.run p a).run p b :=
  List.foldl_append

/-- An invariant of single steps is one of runs. -/
theorem run_invariant {Inv : WalkState → Prop} {steps : List Step}
    (hstep : ∀ s, ∀ st ∈ steps, Inv s → Inv (s.step p st)) {s : WalkState} (h : Inv s) :
    Inv (s.run p steps) := by
  induction steps generalizing s with
  | nil => exact h
  | cons st steps ih =>
    rw [run_cons]
    exact ih (fun s st' hst' => hstep s st' (List.mem_cons_of_mem st hst'))
      (hstep s st List.mem_cons_self h)

/-- The flow of an expression into a sink, if the expression is tainted. -/
def flow? (p : Patterns) (s : WalkState) (kind : FlowKind) (sink : String) (e : Script.Expr) :
    Option Flow :=
  (s.reading p e).origin.map fun origin => ⟨kind, origin, sink, e.describe⟩

/-- The flows that a step adds in a state. -/
def found (p : Patterns) (s : WalkState) : Step → List Flow
  | .checkCall callee args =>
    if p.isSink callee || p.isSink (callee ++ "(") then args.filterMap (s.flow? p .call callee) else []
  | .checkAssign target value =>
    (if p.isSink target || p.isSink (target ++ "=") then
      s.latest.toList.map fun origin => ⟨.assignment, origin, target, value.describe⟩
    else []) ++
      if isPrototypePath target then
        [⟨.prototype, s.latest.getD prototypeSource, target, value.describe⟩]
      else []
  | .checkProperty key value => (s.flow? p .property key value).toList
  | _ => []

theorem flow?_congr {s s' : WalkState} (h : s.tracker = s'.tracker) (kind : FlowKind) (sink : String) :
    s.flow? p kind sink = s'.flow? p kind sink := by
  funext e
  simp only [flow?, reading, h]

@[simp] theorem checkArg_tracker (callee : String) (s : WalkState) (arg : Script.Expr) :
    (checkArg p callee s arg).tracker = s.tracker := by
  simp only [checkArg, evaluate]
  split <;> rfl

@[simp] theorem checkArg_pending (callee : String) (s : WalkState) (arg : Script.Expr) :
    (checkArg p callee s arg).pending = s.pending := by
  simp only [checkArg, evaluate]
  split <;> rfl

theorem checkArg_flows (callee : String) (s : WalkState) (arg : Script.Expr) :
    (checkArg p callee s arg).flows = s.flows ++ (s.flow? p .call callee arg).toList := by
  simp only [checkArg, evaluate, flow?]
  split
  next h => simp [h]
  next h => simp [h]

@[simp] theorem checkArgs_tracker (callee : String) (args : List Script.Expr) (s : WalkState) :
    (args.foldl (checkArg p callee) s).tracker = s.tracker := by
  induction args generalizing s with
  | nil => rfl
  | cons arg args ih => rw [List.foldl_cons, ih, checkArg_tracker]

@[simp] theorem checkArgs_pending (callee : String) (args : List Script.Expr) (s : WalkState) :
    (args.foldl (checkArg p callee) s).pending = s.pending := by
  induction args generalizing s with
  | nil => rfl
  | cons arg args ih => rw [List.foldl_cons, ih, checkArg_pending]

theorem checkArgs_flows (callee : String) (args : List Script.Expr) (s : WalkState) :
    (args.foldl (checkArg p callee) s).flows = s.flows ++ args.filterMap (s.flow? p .call callee) := by
  induction args generalizing s with
  | nil => simp
  | cons arg args ih =>
    have htracker := flow?_congr (p := p) (checkArg_tracker (p := p) callee s arg) .call callee
    rw [List.foldl_cons, ih, htracker, checkArg_flows, List.append_assoc]
    cases h : s.flow? p .call callee arg <;> simp [h]

@[simp] theorem checkAssign_tracker (s : WalkState) (target : String) (value : Script.Expr)
    (taint : Option String) : (s.checkAssign p target value taint).tracker = s.tracker := by
  unfold checkAssign
  cases taint <;> dsimp only <;> repeat' split
  all_goals rfl

@[simp] theorem checkAssign_pending (s : WalkState) (target : String) (value : Script.Expr)
    (taint : Option String) : (s.checkAssign p target value taint).pending = s.pending := by
  unfold checkAssign
  cases taint <;> dsimp only <;> repeat' split
  all_goals rfl

@[simp] theorem checkProperty_tracker (s : WalkState) (key : String) (value : Script.Expr) :
    (s.checkProperty p key value).tracker = s.tracker := by
  simp only [checkProperty, evaluate]
  split <;> rfl

@[simp] theorem checkProperty_pending (s : WalkState) (key : String) (value : Script.Expr) :
    (s.checkProperty p key value).pending = s.pending := by
  simp only [checkProperty, evaluate]
  split <;> rfl

/-- A step adds what it finds behind the flows that were there. -/
theorem step_flows (s : WalkState) (st : Step) : (s.step p st).flows = s.flows ++ s.found p st := by
  cases st with
  | checkCall callee args =>
    simp only [step, found]
    split
    · exact checkArgs_flows callee args s
    · simp
  | checkAssign target value =>
    simp only [step, found, checkAssign]
    cases s.latest <;> dsimp only <;> repeat' split
    all_goals simp
  | checkProperty key value =>
    simp only [step, found, checkProperty, evaluate, flow?]
    split
    next h => simp [h]
    next h => simp [h]
  | noteDefault e =>
    simp only [step, found]
    split <;> simp
  | enter _ | leave | clean | note _ | forget | declare _ _ | assign _ _ => simp [step, found]

/-- Flows that have been found stay found, in their order. -/
theorem flows_isPrefix_run (steps : List Step) (s : WalkState) : s.flows <+: (s.run p steps).flows := by
  induction steps generalizing s with
  | nil => exact List.prefix_rfl
  | cons st steps ih =>
    have hstep : s.flows <+: (s.step p st).flows := step_flows s st ▸ List.prefix_append _ _
    exact hstep.trans (ih _)

/-- What a step finds in every state is added by every run that makes the step. -/
theorem run_flows_of_found {steps : List Step} {st : Step} (hst : st ∈ steps) {f : Flow}
    (hf : ∀ s, f ∈ found p s st) (s : WalkState) :
    ∃ added, (s.run p steps).flows = s.flows ++ added ∧ f ∈ added := by
  obtain ⟨before, after, rfl⟩ := List.append_of_mem hst
  obtain ⟨a, ha⟩ := flows_isPrefix_run (p := p) before s
  obtain ⟨b, hb⟩ := flows_isPrefix_run (p := p) after ((s.run p before).step p st)
  refine ⟨a ++ (s.run p before).found p st ++ b, ?_, by simp [hf]⟩
  rw [run_append, run_cons, ← hb, step_flows, ← ha]
  simp

end WalkState

end DomFlow
