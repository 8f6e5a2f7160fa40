import DomFlow.Proofs.Coverage
import DomFlow.Proofs.Frames

/-! # Walks only add

Scopes are opened and closed one by one, and at the global scope there is nothing to close, so a scope that
is closed once too often would go unnoticed and later names would be bound elsewhere. Every construct is
nested, so this does not happen: a walk comes back to the scope in which it began, and behind it findings,
unbound names, scopes, children and bound names have been added to those that were there. -/

namespace DomFlow

namespace ScopeTree

variable {t u v : ScopeTree}

def names (t : ScopeTree) (i : ScopeId) : List String := (t.vars i).map (·.name)

theorem mem_names_iff {i : ScopeId} {name : String} :
    name ∈ t.names i ↔ (t.own? i name).isSome = true := by
  rw [own?_eq_find?, List.find?_isSome]
  simp [names]

/-- The same scopes, perhaps with more children and names, and perhaps more scopes. -/
structure Grows (t u : ScopeTree) : Prop extends t.Extends u where
  children : ∀ i, t.children i <+: u.children i
  names : ∀ i, t.names i ⊆ u.names i

theorem grows_refl (t : ScopeTree) : t.Grows t where
  toExtends := t.extends_refl
  children _ := List.prefix_rfl
  names _ := List.Subset.refl _

theorem Grows.trans (h : t.Grows u) (h' : u.Grows v) : t.Grows v where
  toExtends := h.toExtends.trans h'.toExtends
  children i := (h.children i).trans (h'.children i)
  names i := List.Subset.trans (h.names i) (h'.names i)

theorem grows_create (t : ScopeTree) (kind : ScopeKind) (parent : ScopeId) :
    t.Grows (t.create kind parent).1 where
  toExtends := t.extends_create kind parent
  children i := by
    unfold ScopeTree.children
    rw [get?_create, get?_update]
    split
    next hi => simp [hi, t.get?_size]
    next =>
      split
      · cases t.get? i <;> simp
      · exact List.prefix_rfl
  names i := by simp [ScopeTree.names]

theorem grows_put (t : ScopeTree) (i : ScopeId) (w : Variable) : t.Grows (t.update i (·.put w)) where
  toExtends := t.extends_put i w
  children j := by simp
  names j := by
    intro name hname
    rw [mem_names_iff] at hname ⊢
    rw [own?_update_put]
    split
    · rfl
    · exact hname

end ScopeTree

theorem Script.Node.steps_nested (sink : String → Bool) (n : Node) : Nested sink (n.steps sink) := by
  cases n with
  | expr e => exact e.steps_nested
  | stmt s => exact s.steps_nested
  | pat role p =>
    cases role with
    | declared target => exact p.bindSteps_nested target
    | assigned plain => exact p.assignSteps_nested plain

namespace WalkState

variable {p : Patterns}

def visit (p : Patterns) (s : WalkState) (n : Script.Node) : WalkState := s.run p (n.steps p.isSink)

/-- The second state is in the same scope as the first, and all else has at most been added to. -/
structure Grows (s s' : WalkState) : Prop where
  current : s'.tracker.current = s.tracker.current
  pending : s'.pending = s.pending
  findings : s.findings <+: s'.findings
  accesses : s.accesses ⊆ s'.accesses
  scopes : s.tracker.scopes.Grows s'.tracker.scopes

theorem step_scopes_grow (s : WalkState) (st : Step) :
    s.tracker.scopes.Grows (s.step p st).tracker.scopes := by
  rcases s.step_scopes_cases (p := p) st with h | ⟨kind, h⟩ | ⟨i, v, -, h⟩
  · rw [h]
    exact ScopeTree.grows_refl _
  · rw [h]
    exact ScopeTree.grows_create _ _ _
  · rw [h]
    exact ScopeTree.grows_put _ _ _

theorem run_scopes_grow (steps : List Step) (s : WalkState) :
    s.tracker.scopes.Grows (s.run p steps).tracker.scopes := by
  induction steps generalizing s with
  | nil => exact ScopeTree.grows_refl _
  | cons st steps ih => exact (s.step_scopes_grow st).trans (ih _)

theorem run_grows {sink : String → Bool} {steps : List Step} (h : Nested sink steps) (s : WalkState) :
    s.Grows (s.run p steps) where
  current := run_current h s
  pending := run_pending h s
  findings := List.IsPrefix.map Flow.finding (flows_isPrefix_run steps s)
  accesses _ hname := (mem_accesses_run s).mpr (.inl hname)
  scopes := run_scopes_grow steps s

theorem evaluate_grows (s : WalkState) (e : Script.Expr) : s.Grows (s.evaluate p e).2 where
  current := rfl
  pending := rfl
  findings := List.prefix_rfl
  accesses _ hname := mem_access.mpr (.inl hname)
  scopes := ScopeTree.grows_refl _

/-- Whatever is walked or evaluated in whatever state, the walk ends in the scope in which it began and takes
nothing away; so between the scripts of a session it is at the global scope. -/
theorem walk_balanced (p : Patterns) (s : WalkState) :
    (∀ n : Script.Node, s.Grows (s.visit p n)) ∧
    (∀ script : Script, s.Grows (s.walk p script)) ∧
    (∀ e : Script.Expr, s.Grows (s.evaluate p e).2) ∧
    ∀ scripts : List Script,
      (scripts.foldl (WalkState.walk p) {}).tracker.current = ScopeTree.root := by
  refine ⟨fun n => run_grows (n.steps_nested p.isSink) s,
    fun script => run_grows (Script.Stmt.allSteps_nested script) s, s.evaluate_grows, fun scripts => ?_⟩
  have hsession (s : WalkState) :
      (scripts.foldl (WalkState.walk p) s).tracker.current = s.tracker.current := by
    induction scripts generalizing s with
    | nil => rfl
    | cons script scripts ih => rw [List.foldl_cons, ih, walk_current]
  exact hsession {}

end WalkState

end DomFlow
