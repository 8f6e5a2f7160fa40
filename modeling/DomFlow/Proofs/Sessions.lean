import DomFlow.Proofs.Correspondence
import DomFlow.Proofs.SourceMonotone

/-! # Scripts after other scripts

A walk of scripts one after another starts each at the global scope, with the globals that the scripts
before have left. These may be tainted where a walk of the script alone meets an unbound name, but they take
no taint away: what the script alone is reported for is reported after the others as well. -/

namespace DomFlow

variable {p : Patterns}

/-- What is bound on the left is bound on the right with at least as much taint. -/
def Variable.BelowIfBound (old old' : Option Variable) : Prop :=
  ∀ v, old = some v → ∃ w, old' = some w ∧ (v.tainted = true → w.tainted = true)

/-- An assignment leaves at least as much taint where at least as much was there and is assigned. A name
that is unbound on the left is cleared there, and keeps its taint on the right under a compound operator. -/
theorem Variable.tainted_assigned {old old' : Option Variable} {taint taint' : Option String}
    (hold : Variable.BelowIfBound old old') (htaint : taint.isSome = true → taint'.isSome = true)
    (name : String) (plain : Bool) (h : (assigned name plain taint old).tainted = true) :
    (assigned name plain taint' old').tainted = true := by
  cases taint' with
  | some origin' => cases old' <;> rfl
  | none =>
    cases taint with
    | some origin => exact absurd (htaint rfl) (by simp)
    | none =>
      cases old with
      | none => simp [assigned, declared] at h
      | some v =>
        obtain ⟨w, rfl, hvw⟩ := hold v rfl
        cases plain with
        | true => simp [assigned, untaint] at h
        | false => exact hvw h

/-- At least as much taint on the right, where more names may be bound. -/
def Likeness.more (p : Patterns) : Likeness p p where
  meaning := Variable.BelowIfBound
  reading := Reading.Below
  note a b := a.isSome = true → b.isSome = true
  reading_related := Patterns.Below.readingRelation ⟨rfl, fun _ h => h⟩
  readName name h := Patterns.Below.readName ⟨rfl, fun _ h => h⟩ h
  origin h := h
  clean := id
  or {a a' b b'} ha hb := by
    cases a <;> cases a' <;> simp_all
  unbound := by
    rintro v ⟨⟩
  declared name h := by
    rintro _ ⟨⟩
    exact ⟨_, rfl, h⟩
  assigned name plain hold h := by
    rintro _ ⟨⟩
    exact ⟨_, rfl, Variable.tainted_assigned hold h name plain⟩

namespace WalkState

/-- Between scripts a walk is at the global scope, and nothing waits to be bound. -/
structure AtHome (s : WalkState) : Prop where
  placed : s.tracker.Placed
  current : s.tracker.current = ScopeTree.root
  pending : s.pending = []

theorem atHome_empty : AtHome {} := ⟨⟨.empty, by decide⟩, rfl, rfl⟩

theorem AtHome.walk {s : WalkState} (h : s.AtHome) (script : Script) : (s.walk p script).AtHome :=
  ⟨placed_run h.placed _, (walk_current s script).trans h.current, (walk_pending s script).trans h.pending⟩

theorem AtHome.session {s : WalkState} (h : s.AtHome) (scripts : List Script) :
    (scripts.foldl (WalkState.walk p) s).AtHome := by
  induction scripts generalizing s with
  | nil => exact h
  | cons script scripts ih => exact ih (h.walk script)

theorem yields_alike (steps : List Step) {s s' : WalkState} (h : Corresponds (.more p) (fun _ => True) s s') :
    List.SublistForall₂ Flow.Alike (s.yields p steps) (s'.yields p steps) := by
  induction steps generalizing s s' with
  | nil => exact .nil
  | cons st steps ih =>
    have hfound := found_alike rfl h.latest (fun e => h.reading fun _ _ => trivial) st
    exact sublistForall₂_append hfound (ih (h.step (fun _ _ => trivial) fun _ _ => trivial))

/-- Whatever scripts have been walked before, the next one adds what it adds alone, each finding in its
place and with another origin at most. -/
theorem earlier_scripts_hide_nothing (p : Patterns) (scripts : List Script)
    (script : Script) :
    let s := scripts.foldl (WalkState.walk p) {}
    ∃ alone added : List Flow,
      (({} : WalkState).walk p script).findings = alone.map Flow.finding ∧
      (s.walk p script).findings = s.findings ++ added.map Flow.finding ∧
      ∃ φ : Fin alone.length ↪o Fin added.length, ∀ i,
        (added.get (φ i)).kind = (alone.get i).kind ∧ (added.get (φ i)).sink = (alone.get i).sink ∧
          (added.get (φ i)).evidence = (alone.get i).evidence := by
  intro s
  have hs : s.AtHome := atHome_empty.session scripts
  -- The empty global scope corresponds to whatever the global scope holds by now.
  have hroot : ∀ name, True → (Likeness.more p).meaning
      (ScopeTree.empty.own? ScopeTree.root name) (s.tracker.scopes.own? ScopeTree.root name) := by
    rintro name - v ⟨⟩
  have hstart : Corresponds (.more p) (fun _ => True) {} s := {
    tracker := ⟨_, .of_root atHome_empty.placed.scopes.wellFormed hs.placed.scopes.wellFormed rfl
      hs.current hroot⟩
    pending := by
      rw [hs.pending]
      exact .nil }
  obtain ⟨φ, hφ⟩ := exists_embedding_of_sublistForall₂
    (yields_alike (Script.Stmt.allSteps p.isSink script) hstart)
  refine ⟨_, _, ?_, ?_, φ, fun i => ?_⟩
  · exact findings_walk {} script
  · exact findings_walk s script
  · rw [hφ i]
    exact ⟨rfl, rfl, rfl⟩

end WalkState

end DomFlow
