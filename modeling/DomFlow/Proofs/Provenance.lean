import DomFlow.Proofs.Nesting
import DomFlow.Proofs.Readings
import DomFlow.Proofs.Runs
import DomFlow.Proofs.Scopes
import Mathlib.Logic.ExistsUnique

/-! # Where reported data comes from

Taint enters a walk only where a path matches a source. The label is then stored with variables, waits to
be bound, and is read again later; at every point of every session it still is the text of a source, and a
finding names that source and a sink of its kind. -/

namespace DomFlow

variable {p : Patterns}

/-- A tainted variable names a source, and an untainted one names nothing. -/
def Variable.Sourced (p : Patterns) (v : Variable) : Prop :=
  (v.tainted = true → p.isSource v.origin = true) ∧ (v.tainted = false → v.origin = "")

/-- A reading that names a source or nothing. -/
def Reading.Sourced (p : Patterns) (r : Reading) : Prop :=
  ∀ origin, r.origin = some origin → p.isSource origin = true

namespace Reading

theorem sourced_clean : Sourced p clean := by
  intro origin ho
  simp [clean] at ho

theorem sourced_ofPath (path : String) : Sourced p (ofPath p path) := by
  intro origin ho
  unfold ofPath at ho
  split at ho
  next h =>
    cases ho
    exact h
  next => simp [clean] at ho

theorem Sourced.orElse {a b : Reading} (ha : Sourced p a) (hb : Sourced p b) :
    Sourced p (a.orElse b) := by
  intro origin ho
  unfold Reading.orElse at ho
  split at ho
  · exact ha origin ho
  · exact hb origin ho

end Reading

/-- What the description, the source and the sink of a finding of each kind are. -/
def Finding.IsOfKind (p : Patterns) (f : Finding) : FlowKind → Prop
  | .call =>
    f.description = "Tainted data from " ++ f.source ++ " flows into sink " ++ f.sink ++ "()" ∧
      p.isSource f.source = true ∧ (p.isSink f.sink = true ∨ p.isSink (f.sink ++ "(") = true)
  | .assignment =>
    f.description = "Tainted data from " ++ f.source ++ " is assigned to sink " ++ f.sink ∧
      p.isSource f.source = true ∧ (p.isSink f.sink = true ∨ p.isSink (f.sink ++ "=") = true)
  | .property =>
    f.description = "Tainted data from " ++ f.source ++ " is stored in sink property " ++ f.sink ∧
      p.isSource f.source = true ∧ p.isSink f.sink = true
  | .prototype =>
    f.description = "Assignment to prototype-sensitive path " ++ f.sink ∧
      isPrototypePath f.sink = true ∧
        (f.source = "Prototype Assignment" ∨ p.isSource f.source = true)

/-- The beginning of a description, up to where the kinds differ, decides the kind. -/
theorem Finding.IsOfKind.unique {f : Finding} {k k' : FlowKind} (h : f.IsOfKind p k)
    (h' : f.IsOfKind p k') : k = k' := by
  have hd : ({ kind := k, source := f.source, sink := f.sink, evidence := "" } : Flow).description =
      ({ kind := k', source := f.source, sink := f.sink, evidence := "" } : Flow).description := by
    cases k <;> cases k' <;> exact h.1.symm.trans h'.1
  have hl := congrArg String.toList hd
  cases k <;> cases k' <;> simp [Flow.description, String.append_assoc] at hl ⊢

namespace WalkState

/-- Every label in a state is the text of a source. -/
structure Sourced (p : Patterns) (s : WalkState) : Prop where
  vars : s.tracker.scopes.Every (Variable.Sourced p)
  pending : ∀ origin, some origin ∈ s.pending → p.isSource origin = true
  flows : ∀ f ∈ s.flows, f.finding.IsOfKind p f.kind

theorem sourced_empty : Sourced p {} where
  vars := ScopeTree.every_empty
  pending := by simp
  flows := by simp

variable {s : WalkState}

theorem Sourced.latest (h : s.Sourced p) {origin : String} (ho : s.latest = some origin) :
    p.isSource origin = true := by
  apply h.pending
  unfold WalkState.latest at ho
  cases hs : s.pending with
  | nil => simp [hs] at ho
  | cons t ts =>
    obtain rfl : t = some origin := by simpa [hs] using ho
    exact List.mem_cons_self

/-- What a state reads in an expression is the text of a source. -/
theorem isSource_of_reading (h : s.tracker.scopes.Every (Variable.Sourced p)) (e : Script.Expr)
    {origin : String} (ho : (s.reading p e).origin = some origin) : p.isSource origin = true := by
  have hname (n : String) : (readName p s.tracker.lookup? n).Sourced p := by
    unfold readName
    split
    next v hv =>
      split
      next ht =>
        rintro _ ⟨⟩
        exact (h.of_lookup? hv).1 ht
      next => exact Reading.sourced_ofPath n
    next => exact Reading.sourced_ofPath n
  exact e.reading_induction Reading.sourced_clean .orElse Reading.sourced_ofPath (fun n _ => hname n)
    origin ho

theorem Sourced.declared (h : s.Sourced p) (name : String) :
    (Variable.declared name s.latest).Sourced p := by
  cases ho : s.latest with
  | none => exact ⟨by simp [Variable.declared], fun _ => rfl⟩
  | some origin => exact ⟨fun _ => h.latest ho, by simp [Variable.declared]⟩

theorem Sourced.vars_assign (h : s.Sourced p) (plain : Bool) (name : String) :
    (s.assign plain name s.latest).tracker.scopes.Every (Variable.Sourced p) := by
  cases hv : s.tracker.lookup? name with
  | none =>
    rw [assign_tracker_of_unbound hv]
    exact h.vars.put (h.declared name)
  | some v =>
    rw [assign_tracker_of_bound hv]
    split
    next ho => exact h.vars.modifyVar _ _ fun _ _ => ⟨fun _ => h.latest ho, by simp [Variable.taint]⟩
    next =>
      split
      · exact h.vars.modifyVar _ _ fun _ _ => ⟨by simp [Variable.untaint], fun _ => rfl⟩
      · exact h.vars

theorem Sourced.vars_step (h : s.Sourced p) (st : Step) :
    (s.step p st).tracker.scopes.Every (Variable.Sourced p) := by
  cases st with
  | enter kind => exact h.vars.create kind _
  | leave =>
    simp only [step, Tracker.leave]
    split <;> exact h.vars
  | declare target name =>
    rw [WalkState.step, declare_tracker]
    exact h.vars.put (h.declared name)
  | assign plain name => exact h.vars_assign plain name
  | noteDefault e =>
    simp only [step]
    split <;> exact h.vars
  | checkCall callee args =>
    simp only [step]
    split
    · simpa using h.vars
    · exact h.vars
  | clean | note _ | forget | checkAssign _ _ | checkProperty _ _ => simpa [step] using h.vars

theorem Sourced.pending_step (h : s.Sourced p) (st : Step) :
    ∀ origin, some origin ∈ (s.step p st).pending → p.isSource origin = true := by
  have hpush (t : Option String) (ht : ∀ o, t = some o → p.isSource o = true) (origin : String)
      (ho : some origin ∈ t :: s.pending) : p.isSource origin = true := by
    rcases List.mem_cons.mp ho with ho | ho
    · exact ht origin ho.symm
    · exact h.pending origin ho
  cases st with
  | note e => exact hpush _ fun o ho => isSource_of_reading h.vars e ho
  | noteDefault e =>
    simp only [step]
    split
    next ho => exact hpush _ fun o hs => h.latest (ho.trans hs)
    next => exact hpush _ fun o ho => isSource_of_reading h.vars e ho
  | clean => exact hpush _ (by simp)
  | forget => exact fun origin ho => h.pending origin (List.mem_of_mem_tail ho)
  | checkCall callee args =>
    simp only [step]
    split
    · simpa using h.pending
    · exact h.pending
  | enter _ | leave | declare _ _ | assign _ _ | checkAssign _ _ | checkProperty _ _ =>
    simpa [step] using h.pending

theorem Sourced.of_flow? (h : s.Sourced p) {kind : FlowKind} {sink : String} {e : Script.Expr}
    {f : Flow} (hf : s.flow? p kind sink e = some f) :
    f.kind = kind ∧ f.sink = sink ∧ p.isSource f.source = true := by
  obtain ⟨origin, ho, rfl⟩ := Option.map_eq_some_iff.mp hf
  exact ⟨rfl, rfl, isSource_of_reading h.vars e ho⟩

theorem Sourced.found (h : s.Sourced p) {st : Step}
    (hkey : ∀ key value, st = .checkProperty key value → p.isSink key = true) :
    ∀ f ∈ s.found p st, f.finding.IsOfKind p f.kind := by
  intro f hf
  cases st with
  | checkCall callee args =>
    simp only [WalkState.found] at hf
    split at hf
    next hsink =>
      obtain ⟨arg, -, harg⟩ := List.mem_filterMap.mp hf
      obtain ⟨hk, rfl, hsource⟩ := h.of_flow? harg
      simp only [Bool.or_eq_true] at hsink
      obtain ⟨kind, source, sink, evidence⟩ := f
      obtain rfl : kind = .call := hk
      exact ⟨rfl, hsource, hsink⟩
    next => simp at hf
  | checkAssign target value =>
    rcases List.mem_append.mp hf with hf | hf
    · split at hf
      next hsink =>
        obtain ⟨origin, ho, rfl⟩ := List.mem_map.mp hf
        simp only [Bool.or_eq_true] at hsink
        exact ⟨rfl, h.latest (Option.mem_toList.mp ho), hsink⟩
      next => simp at hf
    · split at hf
      next hproto =>
        obtain rfl := List.mem_singleton.mp hf
        refine ⟨rfl, hproto, ?_⟩
        cases ho : s.latest with
        | none => exact .inl rfl
        | some origin => exact .inr (h.latest ho)
      next => simp at hf
  | checkProperty key value =>
    obtain ⟨hk, rfl, hsource⟩ := h.of_flow? (Option.mem_toList.mp hf)
    obtain ⟨kind, source, sink, evidence⟩ := f
    obtain rfl : kind = .property := hk
    exact ⟨rfl, hsource, hkey _ _ rfl⟩
  | enter _ | leave | clean | note _ | noteDefault _ | forget | declare _ _ | assign _ _ =>
    simp [WalkState.found] at hf

theorem Sourced.step (h : s.Sourced p) {st : Step}
    (hkey : ∀ key value, st = .checkProperty key value → p.isSink key = true) :
    (s.step p st).Sourced p where
  vars := h.vars_step st
  pending := h.pending_step st
  flows f hf := by
    rw [step_flows] at hf
    exact (List.mem_append.mp hf).elim (h.flows f) (h.found hkey f)

theorem Sourced.walk (h : s.Sourced p) (script : Script) : (s.walk p script).Sourced p := by
  have hnested : Nested p.isSink (Script.Stmt.allSteps p.isSink script) :=
    Script.Stmt.allSteps_nested script
  refine run_invariant (fun _ st hst hs => hs.step ?_) h
  rintro key value rfl
  exact hnested.sink_of_checkProperty hst

theorem Sourced.session (h : s.Sourced p) (scripts : List Script) :
    (scripts.foldl (WalkState.walk p) s).Sourced p := by
  induction scripts generalizing s with
  | nil => exact h
  | cons script scripts ih => exact ih (h.walk script)

/-- After every session, every label of a variable and every reading names a source, and every finding is
of exactly one kind, with a source and a sink of that kind. -/
theorem session_provenance (p : Patterns) (scripts : List Script) :
    let s := scripts.foldl (WalkState.walk p) {}
    (∀ id scope, s.tracker.scopes.get? id = some scope → ∀ v ∈ scope.vars,
      (v.tainted = true → p.isSource v.origin = true) ∧ (v.tainted = false → v.origin = "")) ∧
    (∀ e, (s.evaluate p e).1 = none ∨
      ∃ origin, (s.evaluate p e).1 = some origin ∧ p.isSource origin = true) ∧
    (∀ f ∈ s.findings, f.line = 0 ∧ f.confidence = .high ∧ ∃! kind, f.IsOfKind p kind) := by
  intro s
  have h : s.Sourced p := sourced_empty.session scripts
  refine ⟨h.vars, fun e => ?_, fun f hf => ?_⟩
  · cases ho : (s.evaluate p e).1 with
    | none => exact .inl rfl
    | some origin => exact .inr ⟨origin, rfl, isSource_of_reading h.vars e ho⟩
  · obtain ⟨flow, hflow, rfl⟩ := List.mem_map.mp hf
    exact ⟨rfl, rfl, flow.kind, h.flows flow hflow, fun _ hk => hk.unique (h.flows flow hflow)⟩

end WalkState

end DomFlow
