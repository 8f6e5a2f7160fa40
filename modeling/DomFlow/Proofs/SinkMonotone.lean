import DomFlow.Proofs.Correspondence
import DomFlow.Proofs.Growth
import DomFlow.Proofs.Layout
import DomFlow.Proofs.Lists

/-! # More sinks

With more sinks a walk checks more, but a value of an object literal whose key has become a sink is checked
and no longer walked. What the walk of that value would find is lost; what it would write is lost too, and may
hide more. As long as such values, where the walk comes to them, write nothing that outlives them, all else
that was found is still found. -/

namespace DomFlow

variable {sink sink' : String → Bool}

/-- The value that a walk with these sinks walks where one with more sinks makes the step. -/
def Step.withheld? (sink : String → Bool) : Step → Option Script.Expr
  | .checkProperty name v => if sink name then none else some v
  | _ => none

/-- What a walk with these sinks does where one with more sinks makes the step. -/
def Step.narrowed (sink : String → Bool) (st : Step) : List Step :=
  match st.withheld? sink with
  | some v => v.steps sink
  | none => [st]

namespace Step

variable {st : Step} {v : Script.Expr}

theorem withheld?_eq_some (h : st.withheld? sink = some v) :
    ∃ name, st = .checkProperty name v ∧ sink name = false := by
  cases st with
  | checkProperty name value =>
    obtain ⟨hsink, hv⟩ := Option.ite_none_left_eq_some.mp h
    exact ⟨name, by rw [Option.some.inj hv], Bool.eq_false_iff.mpr hsink⟩
  | _ => cases h

theorem narrowed_of_withheld (h : st.withheld? sink = some v) : st.narrowed sink = v.steps sink := by
  rw [narrowed, h]

theorem narrowed_of_none (h : st.withheld? sink = none) : st.narrowed sink = [st] := by
  rw [narrowed, h]

theorem narrowed_checkProperty (name : String) (v : Script.Expr) :
    (Step.checkProperty name v).narrowed sink = if sink name then [.checkProperty name v] else v.steps sink := by
  have hv : (Step.checkProperty name v).withheld? sink = if sink name then none else some v := rfl
  by_cases h : sink name = true
  · rw [if_pos h] at hv ⊢
    exact narrowed_of_none hv
  · rw [if_neg h] at hv ⊢
    exact narrowed_of_withheld hv

end Step

namespace Script

/-- Whether the walk with the second sinks reaches an object literal in the node with this value, whose key
is one of the second sinks and none of the first. -/
def Node.Withholds (sink sink' : String → Bool) (n : Node) (v : Expr) : Prop :=
  ∃ m, n.Reaches sink' m ∧ ∃ key name, (.valueOf key, .expr v) ∈ m.parts ∧
    key.name? = some name ∧ sink name = false ∧ sink' name = true

/-- A value that is walked with the first sinks, and is only checked with the second ones. -/
def Withheld (sink sink' : String → Bool) (script : Script) (v : Expr) : Prop :=
  ∃ s ∈ script, (Node.stmt s).Withholds sink sink' v

/-- The steps that a node makes of its own do not depend on sinks, so none of them checks a value. -/
theorem Node.withheld?_of_step {n : Node} {st : Step} (h : .step st ∈ n.layout) : st.withheld? sink = none := by
  rw [Option.eq_none_iff_forall_ne_some]
  intro v hv
  obtain ⟨name, rfl, -⟩ := Step.withheld?_eq_some hv
  have hstep : Step.checkProperty name v ∈ n.steps fun _ => false := by
    rw [n.steps_eq]
    exact List.mem_flatMap.mpr ⟨_, h, List.mem_singleton_self _⟩
  exact Bool.noConfusion ((n.steps_nested _).sink_of_checkProperty hstep)

theorem Piece.steps_narrowed (hsinks : ∀ name, sink name = true → sink' name = true) {piece : Piece}
    (hstep : ∀ st, piece = .step st → st.withheld? sink = none)
    (hwalk : ∀ part, piece.part? = some part →
      (part.2.steps sink').flatMap (Step.narrowed sink) = part.2.steps sink) :
    (piece.steps sink').flatMap (Step.narrowed sink) = piece.steps sink := by
  have hcheck (name : String) (v : Expr) (other : List Step) (h : other.flatMap (Step.narrowed sink) = v.steps sink) :
      (if sink' name then [Step.checkProperty name v] else other).flatMap (Step.narrowed sink) =
        if sink name then [Step.checkProperty name v] else v.steps sink := by
    by_cases hsink' : sink' name = true
    · rw [if_pos hsink', List.flatMap_singleton, Step.narrowed_checkProperty]
    · rw [if_neg hsink', if_neg (mt (hsinks name) hsink'), h]
  cases piece with
  | step st =>
    rw [Piece.steps, Piece.steps, List.flatMap_singleton, Step.narrowed_of_none (hstep st rfl)]
  | walk n => exact hwalk _ rfl
  | value key v =>
    have hv : (v.steps sink').flatMap (Step.narrowed sink) = v.steps sink := hwalk _ rfl
    cases hname : key.name? with
    | none =>
      simp only [Piece.steps, hname]
      exact hv
    | some name =>
      simp only [Piece.steps, hname]
      exact hcheck name v _ hv
  | shorthand name => exact hcheck name (.ident name) [] rfl

/-- The steps of a node with fewer sinks are those with more, but that values whose keys are no sinks any more
are walked. -/
theorem Node.steps_narrowed (hsinks : ∀ name, sink name = true → sink' name = true) (n : Node) :
    (n.steps sink').flatMap (Step.narrowed sink) = n.steps sink := by
  induction n using Node.induction with
  | _ n ih =>
    have hpieces : ∀ piece ∈ n.layout, (piece.steps sink').flatMap (Step.narrowed sink) = piece.steps sink := by
      intro piece hpiece
      apply Piece.steps_narrowed hsinks
      · rintro st rfl
        exact Node.withheld?_of_step hpiece
      · intro part hpart
        exact ih part (Node.part_of_piece hpiece hpart)
    rw [n.steps_eq, n.steps_eq, pieceSteps, pieceSteps, List.flatMap_assoc]
    exact List.flatMap_congr hpieces

theorem Stmt.allSteps_narrowed (hsinks : ∀ name, sink name = true → sink' name = true) (script : Script) :
    (Stmt.allSteps sink' script).flatMap (Step.narrowed sink) = Stmt.allSteps sink script := by
  induction script with
  | nil => rfl
  | cons s script ih =>
    rw [Stmt.allSteps, Stmt.allSteps, List.flatMap_append, ih]
    exact congrArg (· ++ _) (Node.steps_narrowed hsinks (.stmt s))

theorem Node.Withholds.of_enters {n m : Node} {v : Expr} (henters : n.Enters sink' m)
    (h : m.Withholds sink sink' v) : n.Withholds sink sink' v := by
  obtain ⟨m', hreaches, hvalue⟩ := h
  exact ⟨m', .head henters hreaches, hvalue⟩

/-- Where a value is walked in place of a step, it is one that the node withholds. -/
theorem Node.withholds_of_mem_steps {n : Node} {st : Step} {v : Expr} (hst : st ∈ n.steps sink')
    (hv : st.withheld? sink = some v) (hwalked : v.steps sink ≠ []) : n.Withholds sink sink' v := by
  induction n using Node.induction with
  | _ n ih =>
    rw [n.steps_eq] at hst
    obtain ⟨piece, hpiece, hst⟩ := List.mem_flatMap.mp hst
    rcases Piece.mem_steps_cases hst with
      rfl | ⟨part, hpart, hentered, hst⟩ | ⟨key, value, name, rfl, hname, hsink', rfl⟩ | ⟨name, rfl, rfl⟩
    · rw [Node.withheld?_of_step hpiece] at hv
      cases hv
    · have hmem := Node.part_of_piece hpiece hpart
      exact (ih part hmem hst).of_enters ⟨part.1, hmem, hentered⟩
    · obtain ⟨name', heq, hsink⟩ := Step.withheld?_eq_some hv
      obtain ⟨rfl, rfl⟩ := Step.checkProperty.inj heq
      exact ⟨n, .refl, key, name, Node.part_of_piece hpiece rfl, hname, hsink, hsink'⟩
    · -- A name alone is only read, so there is nothing to walk.
      obtain ⟨name', heq, -⟩ := Step.withheld?_eq_some hv
      obtain ⟨rfl, rfl⟩ := Step.checkProperty.inj heq
      exact absurd rfl hwalked

theorem withheld_of_mem_allSteps {script : Script} {st : Step} {v : Expr} (hst : st ∈ Stmt.allSteps sink' script)
    (hv : st.withheld? sink = some v) (hwalked : v.steps sink ≠ []) : Withheld sink sink' script v := by
  rw [← pieceSteps_walkStmts] at hst
  obtain ⟨piece, hpiece, hst⟩ := List.mem_flatMap.mp hst
  obtain ⟨s, hs, rfl⟩ := List.mem_map.mp hpiece
  exact ⟨s, hs, Node.withholds_of_mem_steps hst hv hwalked⟩

end Script

/-- A step of a walk, and the state in which a walk with fewer sinks comes to its place. -/
structure Visit where
  state : WalkState
  step : Step

/-- The places that a walk with fewer sinks comes to along the steps of one with more. -/
def WalkState.visits (p : Patterns) (s : WalkState) : List Step → List Visit
  | [] => []
  | st :: steps => ⟨s, st⟩ :: (s.run p (st.narrowed p.isSink)).visits p steps

namespace Visit

variable {p : Patterns} {visit : Visit}

def withheld? (p : Patterns) (visit : Visit) : Option Script.Expr := visit.step.withheld? p.isSink

/-- What the walk with fewer sinks adds at the place. -/
def adds (p : Patterns) (visit : Visit) : List Finding :=
  (visit.state.yields p (visit.step.narrowed p.isSink)).map Flow.finding

/-- If the value is walked in place of the step, that changes no variable of the scopes that were there before.
It may declare names in functions of its own. -/
def Quiet (p : Patterns) (visit : Visit) : Prop :=
  ∀ v, visit.withheld? p = some v → ∀ i < visit.state.tracker.scopes.size, ∀ name,
    (visit.state.run p (v.steps p.isSink)).tracker.scopes.own? i name = visit.state.tracker.scopes.own? i name

theorem quiet_of_no_writes (h : ∀ v, visit.withheld? p = some v → ∀ st ∈ v.steps p.isSink, st.writes = []) :
    visit.Quiet p := by
  intro v hv i _ name
  exact WalkState.own?_run (fun st hst => by simp [h v hv st hst]) visit.state i

end Visit

variable {p p' : Patterns}

/-- A tracker corresponds to itself. -/
theorem Tracker.Placed.corresponds {k : Tracker} (h : k.Placed) {p p' : Patterns}
    (hsources : p.sources = p'.sources) :
    k.Corresponds (.same p p' hsources) (fun _ => True) (fun i j => i = j ∧ i < k.scopes.size) k := by
  have hwellFormed := h.scopes.wellFormed
  refine ⟨hwellFormed.descends, hwellFormed.descends, ⟨?_, ?_⟩, ⟨rfl, hwellFormed.root_lt⟩,
    ⟨rfl, h.current_lt⟩, ?_, ?_, ?_, ?_, ?_⟩
  · rintro a b c ⟨rfl, -⟩ ⟨rfl, -⟩
    rfl
  · rintro a b c ⟨rfl, -⟩ ⟨rfl, -⟩
    rfl
  · rintro i _ ⟨rfl, hi⟩
    exact ⟨hi, hi⟩
  · rintro i _ ⟨rfl, -⟩
    rfl
  · rintro i _ ⟨rfl, hi⟩
    cases hparent : k.scopes.parent? i with
    | none => exact .none
    | some j => exact .some ⟨rfl, (hwellFormed.descends i j hparent).trans hi⟩
  · rintro i _ name ⟨rfl, -⟩ -
    rfl
  · rintro i _ name ⟨rfl, -⟩ - -
    rfl

namespace WalkState

variable {s s' t : WalkState}

/-- What one walk does alone does not matter as long as it comes back and leaves the old variables alone. -/
theorem Corresponds.of_extends {L : Likeness p p'} {N : String → Prop} (h : Corresponds L N s s')
    (ht : t.tracker.Placed) (hextends : s.tracker.scopes.Extends t.tracker.scopes)
    (hcurrent : t.tracker.current = s.tracker.current) (hpending : t.pending = s.pending)
    (hown : ∀ i < s.tracker.scopes.size, ∀ name,
      t.tracker.scopes.own? i name = s.tracker.scopes.own? i name) : Corresponds L N t s' := by
  obtain ⟨⟨corr, hcorr⟩, hnotes⟩ := h
  refine ⟨⟨corr, ht.scopes.wellFormed.descends, hcorr.descends', hcorr.unique, hcorr.root,
    hcurrent ▸ hcorr.current, ?_, ?_, ?_, ?_, ?_⟩, hpending ▸ hnotes⟩
  · intro i j hij
    exact ⟨Nat.lt_of_lt_of_le (hcorr.exist hij).1 hextends.size_le, (hcorr.exist hij).2⟩
  · intro i j hij
    rw [hextends.kind i (hcorr.exist hij).1]
    exact hcorr.kind hij
  · intro i j hij
    rw [hextends.parent? i (hcorr.exist hij).1]
    exact hcorr.parent? hij
  · intro i j name hij hname
    rw [hown i (hcorr.exist hij).1]
    exact hcorr.meaning hij hname
  · intro i j name hij hi hname
    rw [hown i (hcorr.exist hij).1]
    exact hcorr.binds hij hi hname

theorem Corresponds.checkProperty {L : Likeness p p'} {N : String → Prop} (h : Corresponds L N s s')
    (name : String) (e : Script.Expr) : Corresponds L N s (s'.step p' (.checkProperty name e)) := by
  refine ⟨?_, ?_⟩
  · rw [step_tracker]
    exact h.tracker
  · rw [step_pending]
    exact h.pending

theorem step_mem_of_mem_visits {visit : Visit} {steps : List Step} (h : visit ∈ s.visits p steps) :
    visit.step ∈ steps := by
  induction steps generalizing s with
  | nil => cases h
  | cons st steps ih =>
    rcases List.mem_cons.mp h with rfl | h
    · exact List.mem_cons_self
    · exact List.mem_cons_of_mem st (ih h)

theorem flatMap_adds_visits (steps : List Step) :
    (s.visits p steps).flatMap (Visit.adds p) =
      (s.yields p (steps.flatMap (Step.narrowed p.isSink))).map Flow.finding := by
  induction steps generalizing s with
  | nil => rfl
  | cons st steps ih =>
    rw [visits, List.flatMap_cons, ih, List.flatMap_cons, yields_append, List.map_append]
    rfl

/-- Along the steps of the walk with more sinks both walks stay in correspondence, and what the other one finds
at a place is found there too unless it walks a value in place of the step. -/
theorem Corresponds.visits {steps : List Step} {hsources : p.sources = p'.sources}
    (h : Corresponds (.same p p' hsources) (fun _ => True) s s') (hs : s.tracker.Placed)
    (hsinks : ∀ path, p.isSink path = true → p'.isSink path = true)
    (hquiet : ∀ visit ∈ s.visits p steps, visit.Quiet p) :
    (((s.visits p steps).filter fun visit => (visit.withheld? p).isNone).flatMap (Visit.adds p)).Sublist
      ((s'.yields p' steps).map Flow.finding) := by
  induction steps generalizing s s' with
  | nil => exact .slnil
  | cons st steps ih =>
    obtain ⟨hfirst, hrest⟩ := List.forall_mem_cons.mp hquiet
    rw [WalkState.visits, yields, List.map_append]
    cases hv : st.withheld? p.isSink with
    | none =>
      have hfound : (s.found p st).Sublist (s'.found p' st) :=
        found_sublist hsinks h.latest fun e _ => h.reading fun _ _ => trivial
      have hadds : Visit.adds p ⟨s, st⟩ = (s.found p st).map Flow.finding := by
        rw [Visit.adds, Step.narrowed_of_none hv, yields, yields, List.append_nil]
      rw [List.filter_cons_of_pos (by rw [Visit.withheld?, hv]; rfl), List.flatMap_cons, hadds]
      rw [Step.narrowed_of_none hv] at hrest ⊢
      exact (hfound.map Flow.finding).append
        (ih (h.step (fun _ _ => trivial) fun _ _ => trivial) (placed_run hs [st]) hrest)
    | some v =>
      obtain ⟨name, rfl, -⟩ := Step.withheld?_eq_some hv
      have hnested : Nested p.isSink (v.steps p.isSink) := v.steps_nested
      have hwalked := h.of_extends (placed_run hs _) (run_extends _ s) (run_current hnested s)
        (run_pending hnested s) (hfirst v hv)
      rw [List.filter_cons_of_neg (by rw [Visit.withheld?, hv]; simp)]
      rw [Step.narrowed_of_withheld hv] at hrest ⊢
      exact (ih (hwalked.checkProperty name v) (placed_run hs _) hrest).trans (List.sublist_append_right _ _)

/-- With more sinks, what was found is still found in its order, but for what is found in values that are no
longer walked, as long as these values change no variable around them where the walk comes to them. -/
theorem walk_sinks_mono (sources sinks sinks' : PatternSet)
    (hsinks : ∀ text, sinks.isMatch text = true → sinks'.isMatch text = true)
    (s : WalkState) (hs : s.tracker.Placed) (script : Script)
    (hquiet : ∀ visit ∈ s.visits ⟨sources, sinks⟩ (Script.Stmt.allSteps sinks'.isMatch script),
      visit.Quiet ⟨sources, sinks⟩) :
    let p : Patterns := ⟨sources, sinks⟩
    let visits := s.visits p (Script.Stmt.allSteps sinks'.isMatch script)
    ∃ added' : List Finding,
      (s.walk p script).findings = s.findings ++ visits.flatMap (Visit.adds p) ∧
      (s.walk ⟨sources, sinks'⟩ script).findings = s.findings ++ added' ∧
      ((visits.filter fun visit => (visit.withheld? p).isNone).flatMap (Visit.adds p)).Sublist added' ∧
      ((∀ visit ∈ visits, (visit.withheld? p).isSome = true → visit.adds p = []) →
        (visits.flatMap (Visit.adds p)).Sublist added') ∧
      ∀ visit ∈ visits, ∀ v, visit.withheld? p = some v → v.steps sinks.isMatch ≠ [] →
        Script.Withheld sinks.isMatch sinks'.isMatch script v := by
  intro p visits
  let p' : Patterns := ⟨sources, sinks'⟩
  have hsources : p.sources = p'.sources := rfl
  have hstart : Corresponds (.same p p' hsources) (fun _ => True) s s :=
    ⟨⟨_, hs.corresponds hsources⟩, List.forall₂_same.mpr fun _ _ => rfl⟩
  have hkept := hstart.visits hs hsinks hquiet
  refine ⟨_, ?_, findings_walk s script, hkept, fun hnone => ?_, fun visit hvisit v hv hwalked => ?_⟩
  · rw [findings_walk, flatMap_adds_visits]
    exact congrArg (fun steps => s.findings ++ (s.yields p steps).map Flow.finding)
      (Script.Stmt.allSteps_narrowed hsinks script).symm
  · have hadds : ∀ visit ∈ visits, (visit.withheld? p).isNone = false → visit.adds p = [] :=
      fun visit hvisit hheld => hnone visit hvisit (by simpa using hheld)
    rw [← Lists.flatMap_filter_of_nil (fun _ _ _ => rfl) hadds]
    exact hkept
  · exact Script.withheld_of_mem_allSteps (step_mem_of_mem_visits hvisit) hv hwalked

/-- `({innerHTML: eval(x)});` -/
def storesEval : Script.Stmt :=
  .expr (.paren (.object [.keyValue (.name "innerHTML") (.call (.ident "eval") [.item (.ident "x")])]))

/-- `({innerHTML: eval(x)}); var x = location.hash; ({innerHTML: eval(x)}); eval(x);` -/
def storesTwice : Script :=
  [storesEval, .var .var [.mk (.ident "x") (some Script.locationHash)], storesEval,
    .expr (.call (.ident "eval") [.item (.ident "x")])]

theorem walk_sinks_mono_storesTwice :
    let sources := (Patterns.ofTexts ["location.hash"] []).sources
    let sinks := (Patterns.ofTexts [] ["eval"]).sinks
    let sinks' := (Patterns.ofTexts [] ["innerHTML", "eval"]).sinks
    let p : Patterns := ⟨sources, sinks⟩
    let visits := ({} : WalkState).visits p (Script.Stmt.allSteps sinks'.isMatch storesTwice)
    let kept := (visits.filter fun visit => (visit.withheld? p).isNone).flatMap (Visit.adds p)
    (∀ text, sinks.isMatch text = true → sinks'.isMatch text = true) ∧
    (∀ visit ∈ visits, visit.Quiet p) ∧
    (visits.flatMap (Visit.adds p)).map (·.sink) = ["eval", "eval"] ∧ kept.map (·.sink) = ["eval"] ∧
    kept.Sublist (({} : WalkState).walk ⟨sources, sinks'⟩ storesTwice).findings := by
  intro sources sinks sinks' p visits kept
  have hsinks (text : String) (h : sinks.isMatch text = true) : sinks'.isMatch text = true := by
    rw [PatternSet.isMatch, List.any_eq_true] at h ⊢
    exact h.imp fun _ hp => ⟨.tail _ hp.1, hp.2⟩
  have hvalues : ∀ st ∈ Script.Stmt.allSteps sinks'.isMatch storesTwice, ∀ v ∈ st.withheld? p.isSink,
      ∀ st' ∈ v.steps p.isSink, st'.writes = [] := by decide
  have hquiet : ∀ visit ∈ visits, visit.Quiet p := by
    intro visit hvisit
    exact Visit.quiet_of_no_writes (hvalues visit.step (step_mem_of_mem_visits hvisit))
  obtain ⟨added', -, hadded', hkept, -⟩ :=
    walk_sinks_mono sources sinks sinks' hsinks {} ⟨.empty, by decide⟩ storesTwice hquiet
  rw [show ({} : WalkState).findings = [] from rfl, List.nil_append] at hadded'
  rw [hadded']
  exact ⟨hsinks, hquiet, by decide, by decide, hkept⟩

/-- `({innerHTML: eval(location.hash)});` -/
def storesCall : Script :=
  [.expr (.paren (.object [.keyValue (.name "innerHTML") (.call (.ident "eval") [.item Script.locationHash])]))]

/-- `({innerHTML: (x = location.hash)}); eval(x);` -/
def storesWrite : Script :=
  [.expr (.paren (.object [.keyValue (.name "innerHTML")
      (.paren (.assign .plain (.ident "x") Script.locationHash))])),
    .expr (.call (.ident "eval") [.item (.ident "x")])]

/-- A call in a value that is no longer walked is not reported, and neither is a later call of what the value
taints. -/
theorem more_sinks_hide_flows :
    let p := Patterns.ofTexts ["location.hash"] ["eval"]
    let p' := Patterns.ofTexts ["location.hash"] ["innerHTML", "eval"]
    let hides (script : Script) :=
      ¬ (({} : WalkState).walk p script).findings.Sublist (({} : WalkState).walk p' script).findings
    (∀ path, p.isSink path = true → p'.isSink path = true) ∧ hides storesCall ∧ hides storesWrite := by
  intro p p' hides
  have hsinks (path : String) (h : p.isSink path = true) : p'.isSink path = true := by
    rw [Patterns.isSink, PatternSet.isMatch, List.any_eq_true] at h ⊢
    exact h.imp fun _ hp => ⟨.tail _ hp.1, hp.2⟩
  have hhides {script : Script} (h : ¬ ∀ f ∈ (({} : WalkState).walk p script).findings,
      f ∈ (({} : WalkState).walk p' script).findings) : hides script :=
    fun hsublist => h fun _ hf => hsublist.subset hf
  exact ⟨hsinks, hhides (by decide), hhides (by decide)⟩

end WalkState

end DomFlow
