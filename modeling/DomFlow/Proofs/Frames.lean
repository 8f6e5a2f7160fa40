import DomFlow.Proofs.Nesting
import DomFlow.Proofs.Runs
import DomFlow.Proofs.TreeShape
import DomFlow.Script.Reads

/-! # What a run leaves alone

A step opens a scope, or writes one variable of one scope, or leaves all scopes as they are. So a run keeps
the scopes that were there, with their kinds and parents, and the variables whose names it does not write;
and where scopes and notes are nested it ends in the scope in which it began, with no note left. -/

namespace DomFlow

namespace Step

def reads : Step → List String
  | .note e | .noteDefault e | .checkProperty _ e => e.reads
  | .checkCall _ args => args.flatMap Script.Expr.reads
  | _ => []

def writes : Step → List String
  | .declare _ name | .assign _ name => [name]
  | _ => []

end Step

/-- The same scopes, and perhaps more of them. -/
structure ScopeTree.Extends (t u : ScopeTree) : Prop where
  size_le : t.size ≤ u.size
  kind : ∀ i < t.size, u.kind i = t.kind i
  parent? : ∀ i < t.size, u.parent? i = t.parent? i

namespace ScopeTree

variable {t u v : ScopeTree}

theorem extends_refl (t : ScopeTree) : t.Extends t := ⟨Nat.le_refl _, fun _ _ => rfl, fun _ _ => rfl⟩

theorem Extends.trans (h : t.Extends u) (h' : u.Extends v) : t.Extends v where
  size_le := Nat.le_trans h.size_le h'.size_le
  kind i hi := (h'.kind i (Nat.lt_of_lt_of_le hi h.size_le)).trans (h.kind i hi)
  parent? i hi := (h'.parent? i (Nat.lt_of_lt_of_le hi h.size_le)).trans (h.parent? i hi)

theorem extends_create (t : ScopeTree) (kind : ScopeKind) (parent : ScopeId) :
    t.Extends (t.create kind parent).1 where
  size_le := by simp
  kind i hi := by rw [kind_create, if_neg (Nat.ne_of_lt hi)]
  parent? i hi := by rw [parent?_create, if_neg (Nat.ne_of_lt hi)]

theorem extends_put (t : ScopeTree) (i : ScopeId) (w : Variable) : t.Extends (t.update i (·.put w)) where
  size_le := by simp
  kind j _ := t.kind_put i w j
  parent? j _ := t.parent?_put i w j

end ScopeTree

namespace WalkState

variable {p : Patterns}

/-- What each step does to the scopes and to the place in them. -/
theorem step_tracker (s : WalkState) (st : Step) : (s.step p st).tracker = match st with
    | .enter kind => s.tracker.enter kind
    | .leave => s.tracker.leave
    | .declare target name => (s.declare target name s.latest).tracker
    | .assign plain name => (s.assign plain name s.latest).tracker
    | _ => s.tracker := by
  cases st with
  | noteDefault e =>
    simp only [step]
    split <;> rfl
  | checkCall callee args =>
    simp only [step]
    split
    · exact checkArgs_tracker callee args s
    · rfl
  | checkAssign target value => exact checkAssign_tracker s target value s.latest
  | checkProperty key value => exact checkProperty_tracker s key value
  | enter _ | leave | clean | note _ | forget | declare _ _ | assign _ _ => rfl

/-- What each step does to the notes. -/
theorem step_pending (s : WalkState) (st : Step) : (s.step p st).pending = match st with
    | .clean => none :: s.pending
    | .note e => (s.reading p e).origin :: s.pending
    | .noteDefault e => s.latest.or (s.reading p e).origin :: s.pending
    | .forget => s.pending.tail
    | _ => s.pending := by
  cases st with
  | noteDefault e =>
    simp only [step]
    cases s.latest <;> rfl
  | assign plain name => exact assign_pending s plain name s.latest
  | checkCall callee args =>
    simp only [step]
    split
    · exact checkArgs_pending callee args s
    · rfl
  | checkAssign target value => exact checkAssign_pending s target value s.latest
  | checkProperty key value => exact checkProperty_pending s key value
  | enter _ | leave | clean | note _ | forget | declare _ _ => rfl

@[simp] theorem leave_scopes (k : Tracker) : k.leave.scopes = k.scopes := by
  unfold Tracker.leave
  split <;> rfl

/-- An assignment writes one variable, or nothing. -/
theorem assign_scopes_cases (s : WalkState) (plain : Bool) (name : String) (taint : Option String) :
    (s.assign plain name taint).tracker.scopes = s.tracker.scopes ∨
      ∃ i v, v.name = name ∧
        (s.assign plain name taint).tracker.scopes = s.tracker.scopes.update i (·.put v) := by
  have hmodify (f : Variable → Variable) :
      s.tracker.scopes.modifyVar s.tracker.current name f = s.tracker.scopes ∨
        ∃ i v, v.name = name ∧ s.tracker.scopes.modifyVar s.tracker.current name f =
          s.tracker.scopes.update i (·.put v) := by
    rcases s.tracker.scopes.modifyVar_cases s.tracker.current name f with h | ⟨i, v, -, -, h⟩
    · exact .inl h
    · exact .inr ⟨i, _, rfl, h⟩
  cases hv : s.tracker.lookup? name with
  | none =>
    rw [assign_tracker_of_unbound hv]
    exact .inr ⟨_, _, rfl, rfl⟩
  | some v =>
    rw [assign_tracker_of_bound hv]
    cases taint with
    | some origin => exact hmodify (·.taint origin)
    | none =>
      cases plain with
      | true => exact hmodify (·.untaint)
      | false => exact .inl rfl

/-- All that a step can do to the scopes. -/
theorem step_scopes_cases (s : WalkState) (st : Step) :
    (s.step p st).tracker.scopes = s.tracker.scopes ∨
    (∃ kind, (s.step p st).tracker.scopes = (s.tracker.scopes.create kind s.tracker.current).1) ∨
    ∃ i v, v.name ∈ st.writes ∧ (s.step p st).tracker.scopes = s.tracker.scopes.update i (·.put v) := by
  rw [step_tracker]
  cases st with
  | enter kind => exact .inr (.inl ⟨kind, rfl⟩)
  | leave => exact .inl (leave_scopes s.tracker)
  | declare target name =>
    refine .inr (.inr ⟨s.tracker.scopeOf target, Variable.declared name s.latest, .head _, ?_⟩)
    simp only [declare_tracker]
  | assign plain name =>
    rcases s.assign_scopes_cases plain name s.latest with h | ⟨i, v, rfl, h⟩
    · exact .inl h
    · exact .inr (.inr ⟨i, v, .head _, h⟩)
  | clean | note _ | noteDefault _ | forget | checkCall _ _ | checkAssign _ _ | checkProperty _ _ =>
    exact .inl rfl

theorem step_extends (s : WalkState) (st : Step) :
    s.tracker.scopes.Extends (s.step p st).tracker.scopes := by
  rcases s.step_scopes_cases (p := p) st with h | ⟨kind, h⟩ | ⟨i, v, -, h⟩
  · rw [h]
    exact ScopeTree.extends_refl _
  · rw [h]
    exact ScopeTree.extends_create _ _ _
  · rw [h]
    exact ScopeTree.extends_put _ _ _

/-- A run keeps all scopes with their kinds and parents. -/
theorem run_extends (steps : List Step) (s : WalkState) :
    s.tracker.scopes.Extends (s.run p steps).tracker.scopes := by
  induction steps generalizing s with
  | nil => exact ScopeTree.extends_refl _
  | cons st steps ih => exact (s.step_extends st).trans (ih _)

theorem own?_step {st : Step} {name : String} (h : name ∉ st.writes) (s : WalkState) (i : ScopeId) :
    (s.step p st).tracker.scopes.own? i name = s.tracker.scopes.own? i name := by
  rcases s.step_scopes_cases (p := p) st with hs | ⟨kind, hs⟩ | ⟨j, v, hv, hs⟩
  · rw [hs]
  · rw [hs, ScopeTree.own?_create]
  · have hne : name ≠ v.name := fun heq => h (heq ▸ hv)
    rw [hs, ScopeTree.own?_update_put, if_neg fun hcond => hne hcond.2.1]

/-- A run keeps every variable whose name it does not write. -/
theorem own?_run {steps : List Step} {name : String} (h : ∀ st ∈ steps, name ∉ st.writes)
    (s : WalkState) (i : ScopeId) :
    (s.run p steps).tracker.scopes.own? i name = s.tracker.scopes.own? i name := by
  induction steps generalizing s with
  | nil => rfl
  | cons st steps ih =>
    rw [run_cons, ih fun st' hst' => h st' (.tail _ hst')]
    exact own?_step (h st (.head _)) s i

theorem run_current {sink : String → Bool} {steps : List Step} (h : Nested sink steps) (s : WalkState) :
    (s.run p steps).tracker.current = s.tracker.current := by
  induction h generalizing s with
  | nil => rfl
  | append _ _ iha ihb => rw [run_append, ihb, iha]
  | @scope a kind _ ih =>
    -- The scope that was opened is the current one again at its end, and its parent is where it began.
    rw [run_append, run_append]
    let s' := s.step p (.enter kind)
    have hcurrent : (s'.run p a).tracker.current = s.tracker.scopes.size := ih s'
    have hlt : s.tracker.scopes.size < s'.tracker.scopes.size := by
      simp [s', step_tracker, Tracker.enter]
    have hparent : (s'.run p a).tracker.scopes.parent? s.tracker.scopes.size = some s.tracker.current := by
      rw [(run_extends a s').parent? _ hlt]
      simp [s', step_tracker, Tracker.enter, ScopeTree.parent?_create]
    show ((s'.run p a).step p .leave).tracker.current = s.tracker.current
    rw [step_tracker]
    simp only [Tracker.leave, hcurrent, hparent]
  | clean _ ih | note _ _ ih | noteDefault _ _ ih =>
    rw [run_append, run_append]
    simp only [run_cons, run_nil, step_tracker]
    rw [ih, step_tracker]
  | declare _ _ | checkCall _ _ | checkAssign _ _ | checkProperty _ _ =>
    simp only [run_cons, run_nil, step_tracker, declare_current]
  | assign _ _ => simp only [run_cons, run_nil, step_tracker, assign_current]

theorem run_pending {sink : String → Bool} {steps : List Step} (h : Nested sink steps) (s : WalkState) :
    (s.run p steps).pending = s.pending := by
  induction h generalizing s with
  | nil => rfl
  | append _ _ iha ihb => rw [run_append, ihb, iha]
  | scope _ _ ih =>
    rw [run_append, run_append]
    simp only [run_cons, run_nil, step_pending]
    rw [ih, step_pending]
  | clean _ ih | note _ _ ih | noteDefault _ _ ih =>
    rw [run_append, run_append]
    simp only [run_cons, run_nil, step_pending]
    rw [ih, step_pending]
    rfl
  | declare _ _ | assign _ _ | checkCall _ _ | checkAssign _ _ | checkProperty _ _ =>
    simp only [run_cons, run_nil, step_pending]

/-- A walk comes back to where it began. -/
theorem walk_current (s : WalkState) (script : Script) :
    (s.walk p script).tracker.current = s.tracker.current :=
  run_current (Script.Stmt.allSteps_nested script) s

theorem walk_pending (s : WalkState) (script : Script) : (s.walk p script).pending = s.pending :=
  run_pending (Script.Stmt.allSteps_nested script) s

theorem placed_declare {s : WalkState} (h : s.tracker.Placed) (target : BindTarget) (name : String)
    (taint : Option String) : (s.declare target name taint).tracker.Placed := by
  have hsize := ScopeTree.size_update s.tracker.scopes (s.tracker.scopeOf target)
    (·.put (.declared name taint))
  refine h.write (t := (s.declare target name taint).tracker.scopes) ?_ (by rw [declare_tracker]; exact hsize)
  cases taint with
  | none => cases target <;> exact h.scopes.define _ name
  | some origin => cases target <;> exact (h.scopes.define _ name).taint _ name origin

theorem placed_assign {s : WalkState} (h : s.tracker.Placed) (plain : Bool) (name : String)
    (taint : Option String) : (s.assign plain name taint).tracker.Placed := by
  unfold assign
  split
  next v hv =>
    cases taint with
    | some origin => exact h.write (h.scopes.taint _ name origin) (ScopeTree.size_modifyVar _ _ _ _)
    | none =>
      cases plain with
      | true => exact h.write (h.scopes.untaint _ name) (ScopeTree.size_modifyVar _ _ _ _)
      | false => exact h
  next =>
    have hdefine := h.write (h.scopes.define ScopeTree.root name) (ScopeTree.size_update _ _ _)
    cases taint with
    | none => exact hdefine
    | some origin =>
      exact hdefine.write (hdefine.scopes.taint _ name origin) (ScopeTree.size_modifyVar _ _ _ _)

theorem placed_step {s : WalkState} (h : s.tracker.Placed) (st : Step) : (s.step p st).tracker.Placed := by
  rw [step_tracker]
  cases st with
  | enter kind => exact h.enter kind
  | leave => exact h.leave
  | declare target name => exact placed_declare h target name s.latest
  | assign plain name => exact placed_assign h plain name s.latest
  | clean | note _ | noteDefault _ | forget | checkCall _ _ | checkAssign _ _ | checkProperty _ _ => exact h

theorem placed_run {s : WalkState} (h : s.tracker.Placed) (steps : List Step) :
    (s.run p steps).tracker.Placed :=
  @run_invariant p (fun s => s.tracker.Placed) steps (fun _ st _ hs => placed_step hs st) s h

/-- The flows that steps find one after another. -/
def yields (p : Patterns) (s : WalkState) : List Step → List Flow
  | [] => []
  | st :: steps => s.found p st ++ (s.step p st).yields p steps

theorem run_flows (steps : List Step) (s : WalkState) :
    (s.run p steps).flows = s.flows ++ s.yields p steps := by
  induction steps generalizing s with
  | nil => simp [yields]
  | cons st steps ih => rw [run_cons, ih, step_flows, yields, List.append_assoc]

theorem findings_walk (s : WalkState) (script : Script) : (s.walk p script).findings =
    s.findings ++ (s.yields p (Script.Stmt.allSteps p.isSink script)).map Flow.finding := by
  rw [findings, walk, run_flows, List.map_append, findings]

theorem yields_append (a b : List Step) (s : WalkState) :
    s.yields p (a ++ b) = s.yields p a ++ (s.run p a).yields p b := by
  induction a generalizing s with
  | nil => rfl
  | cons st a ih => rw [List.cons_append, yields, ih, yields, run_cons, List.append_assoc]

/-- The names that a step meets unbound. -/
def met (p : Patterns) (s : WalkState) : Step → List String
  | .note e | .checkProperty _ e => (s.reading p e).unbound
  | .noteDefault e => if s.latest.isSome then [] else (s.reading p e).unbound
  | .assign _ name => if (s.tracker.lookup? name).isSome then [] else [name]
  | .checkCall callee args =>
    if p.isSink callee || p.isSink (callee ++ "(") then args.flatMap fun e => (s.reading p e).unbound
    else []
  | _ => []

theorem mem_access {s : WalkState} {names : List String} {x : String} :
    x ∈ (s.access names).accesses ↔ x ∈ s.accesses ∨ x ∈ names := by
  have hfold (acc : List String) :
      x ∈ names.foldl (fun acc n => if n ∈ acc then acc else acc ++ [n]) acc ↔ x ∈ acc ∨ x ∈ names := by
    induction names generalizing acc with
    | nil => simp
    | cons n names ih =>
      rw [List.foldl_cons, ih, List.mem_cons]
      split
      next hn =>
        constructor
        · exact Or.imp_right .inr
        · rintro (h | rfl | h)
          · exact .inl h
          · exact .inl hn
          · exact .inr h
      next => rw [List.mem_append, List.mem_singleton, or_assoc]
  exact hfold s.accesses

theorem mem_accesses_checkArgs {callee x : String} (args : List Script.Expr) (s : WalkState) :
    x ∈ (args.foldl (checkArg p callee) s).accesses ↔
      x ∈ s.accesses ∨ x ∈ args.flatMap fun e => (s.reading p e).unbound := by
  induction args generalizing s with
  | nil => simp
  | cons arg args ih =>
    have harg : (checkArg p callee s arg).accesses = (s.access (s.reading p arg).unbound).accesses := by
      simp only [checkArg, evaluate]
      split <;> rfl
    have hreading : (checkArg p callee s arg).reading p = s.reading p := by
      funext e
      rw [reading, reading, checkArg_tracker]
    rw [List.foldl_cons, ih, harg, mem_access, hreading, List.flatMap_cons, List.mem_append, or_assoc]

/-- A step adds the names that it meets unbound. -/
theorem mem_accesses_step {s : WalkState} {st : Step} {x : String} :
    x ∈ (s.step p st).accesses ↔ x ∈ s.accesses ∨ x ∈ s.met p st := by
  cases st with
  | note e => exact mem_access
  | noteDefault e =>
    simp only [step, met]
    cases s.latest with
    | none => exact mem_access
    | some origin => simp [push]
  | assign plain name =>
    simp only [step, met, assign]
    cases hv : s.tracker.lookup? name with
    | none =>
      have hmem : x ∈ (s.access [name]).accesses ↔ x ∈ s.accesses ∨ x ∈ [name] := mem_access
      simpa using hmem
    | some v =>
      simp only [Option.isSome_some, if_true, List.not_mem_nil, or_false]
      cases s.latest with
      | some origin => exact Iff.rfl
      | none => cases plain <;> exact Iff.rfl
  | checkCall callee args =>
    simp only [step, met]
    split
    · exact mem_accesses_checkArgs args s
    · simp
  | checkAssign target value =>
    simp only [step, met, checkAssign]
    repeat' split
    all_goals simp [report]
  | checkProperty key value =>
    simp only [step, met, checkProperty, evaluate]
    split <;> exact mem_access
  | enter _ | leave | clean | forget | declare _ _ => simp [step, met, push, declare]

/-- The names that steps meet unbound one after another. -/
def meets (p : Patterns) (s : WalkState) : List Step → List String
  | [] => []
  | st :: steps => s.met p st ++ (s.step p st).meets p steps

theorem mem_accesses_run {steps : List Step} {x : String} (s : WalkState) :
    x ∈ (s.run p steps).accesses ↔ x ∈ s.accesses ∨ x ∈ s.meets p steps := by
  induction steps generalizing s with
  | nil => simp [meets]
  | cons st steps ih => rw [run_cons, ih, mem_accesses_step, meets, List.mem_append, or_assoc]

end WalkState

end DomFlow
