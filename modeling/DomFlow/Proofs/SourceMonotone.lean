import DomFlow.Proofs.Readings
import DomFlow.Proofs.Runs
import DomFlow.Proofs.Scopes
import Mathlib.Data.List.Forall2
import Mathlib.Data.List.NodupEquivFin
import Mathlib.Data.Option.Basic

/-! # More sources, more taint

Two walks of one script with the same sinks make the same steps. If one of them has more sources, then at
every point it has the same scopes with the same names, everything that is tainted in the other is tainted
in it, and it finds what the other finds, in the same order, though perhaps with another origin. -/

namespace DomFlow

/-- The same name with at least as much taint. -/
def Variable.Below (v w : Variable) : Prop :=
  v.name = w.name ∧ (v.tainted = true → w.tainted = true)

/-- The same scope with at least as much taint. -/
structure Scope.Below (s t : Scope) : Prop where
  kind : s.kind = t.kind
  parent : s.parent = t.parent
  children : s.children = t.children
  vars : List.Forall₂ Variable.Below s.vars t.vars

/-- The same scopes with at least as much taint. -/
def ScopeTree.Below (t u : ScopeTree) : Prop :=
  ∀ id, Option.Rel Scope.Below (t.get? id) (u.get? id)

theorem Variable.below_refl (v : Variable) : v.Below v := ⟨rfl, id⟩

/-- Related options are both empty or hold related values. -/
theorem rel_cases {α : Type} {R : α → α → Prop} {a b : Option α} (h : Option.Rel R a b) :
    (a = none ∧ b = none) ∨ ∃ x y, a = some x ∧ b = some y ∧ R x y := by
  cases h with
  | none => exact .inl ⟨rfl, rfl⟩
  | some hxy => exact .inr ⟨_, _, rfl, rfl, hxy⟩

namespace Scope

variable {s t : Scope} {v w : Variable}

theorem below_refl (s : Scope) : s.Below s :=
  ⟨rfl, rfl, rfl, List.forall₂_same.mpr fun v _ => v.below_refl⟩

theorem find?_below {vs ws : List Variable} (h : List.Forall₂ Variable.Below vs ws) (name : String) :
    Option.Rel Variable.Below (vs.find? (·.name = name)) (ws.find? (·.name = name)) := by
  induction h with
  | nil => exact .none
  | @cons v w _ _ hv _ ih =>
    by_cases hname : v.name = name
    · have hname' : w.name = name := hv.1 ▸ hname
      simpa [List.find?_cons, hname, hname'] using Option.Rel.some hv
    · have hname' : w.name ≠ name := hv.1 ▸ hname
      simpa [List.find?_cons, hname, hname'] using ih

theorem Below.binds (h : s.Below t) (name : String) : s.binds name = t.binds name := by
  unfold Scope.binds Scope.var?
  rcases rel_cases (find?_below h.vars name) with ⟨hs, ht⟩ | ⟨_, _, hs, ht, -⟩ <;> rw [hs, ht]
  rfl

theorem Below.put (h : s.Below t) (hv : v.Below w) : (s.put v).Below (t.put w) := by
  refine ⟨by simp [h.kind], by simp [h.parent], by simp [h.children], ?_⟩
  unfold Scope.put
  rw [h.binds v.name, hv.1]
  split
  · refine List.forall₂_map_left_iff.mpr (List.forall₂_map_right_iff.mpr (h.vars.imp fun a b hab => ?_))
    rw [hab.1]
    split
    · exact hv
    · exact hab
  · exact List.rel_append h.vars (.cons hv .nil)

/-- A tainted variable in the place of another of its name is above whatever was there. -/
theorem Below.put_right (h : s.Below t) (hbinds : t.binds w.name = true) (hw : w.tainted = true) :
    s.Below (t.put w) := by
  refine ⟨by simp [h.kind], by simp [h.parent], by simp [h.children], ?_⟩
  rw [Scope.put, if_pos hbinds]
  refine List.forall₂_map_right_iff.mpr (h.vars.imp fun a b hab => ?_)
  split
  next hb => exact ⟨hab.1.trans hb, fun _ => hw⟩
  next => exact hab

end Scope

namespace ScopeTree

variable {t u : ScopeTree}

theorem below_refl (t : ScopeTree) : t.Below t := by
  intro id
  cases t.get? id with
  | none => exact .none
  | some s => exact .some s.below_refl

theorem Below.get? (h : t.Below u) (id : ScopeId) : (t.get? id = none ∧ u.get? id = none) ∨
    ∃ a b, t.get? id = some a ∧ u.get? id = some b ∧ a.Below b :=
  rel_cases (h id)

theorem Below.size (h : t.Below u) : t.size = u.size := by
  have hlt (id : Nat) : id < t.size ↔ id < u.size := by
    have hin (v : ScopeTree) : id < v.size ↔ (v.get? id).isSome = true := by
      simp [ScopeTree.size, ScopeTree.get?]
    rw [hin, hin]
    rcases h.get? id with ⟨ht, hu⟩ | ⟨_, _, ht, hu, -⟩ <;> simp [ht, hu]
  have hle := hlt u.size
  have hge := hlt t.size
  omega

theorem Below.kind (h : t.Below u) (id : ScopeId) : t.kind id = u.kind id := by
  rcases h.get? id with ⟨ht, hu⟩ | ⟨a, b, ht, hu, hab⟩
  · simp [ScopeTree.kind, ht, hu]
  · simp [ScopeTree.kind, ht, hu, hab.kind]

theorem Below.parent? (h : t.Below u) (id : ScopeId) : t.parent? id = u.parent? id := by
  rcases h.get? id with ⟨ht, hu⟩ | ⟨a, b, ht, hu, hab⟩
  · simp [ScopeTree.parent?, ht, hu]
  · simp [ScopeTree.parent?, ht, hu, hab.parent]

theorem Below.children (h : t.Below u) (id : ScopeId) : t.children id = u.children id := by
  rcases h.get? id with ⟨ht, hu⟩ | ⟨a, b, ht, hu, hab⟩
  · simp [ScopeTree.children, ht, hu]
  · simp [ScopeTree.children, ht, hu, hab.children]

theorem Below.vars (h : t.Below u) (id : ScopeId) :
    List.Forall₂ Variable.Below (t.vars id) (u.vars id) := by
  rcases h.get? id with ⟨ht, hu⟩ | ⟨a, b, ht, hu, hab⟩
  · simp [ScopeTree.vars, ht, hu]
  · simpa [ScopeTree.vars, ht, hu] using hab.vars

theorem Below.own? (h : t.Below u) (id : ScopeId) (name : String) :
    Option.Rel Variable.Below (t.own? id name) (u.own? id name) := by
  rcases h.get? id with ⟨ht, hu⟩ | ⟨a, b, ht, hu, hab⟩
  · rw [ScopeTree.own?, ScopeTree.own?, ht, hu]
    exact .none
  · rw [ScopeTree.own?, ScopeTree.own?, ht, hu]
    exact Scope.find?_below hab.vars name

theorem Below.chain (h : t.Below u) (fuel : Nat) (id : ScopeId) : t.chain fuel id = u.chain fuel id := by
  induction fuel generalizing id with
  | zero => rfl
  | succ fuel ih =>
    rw [ScopeTree.chain, ScopeTree.chain, h.parent? id]
    cases u.parent? id <;> simp [ih]

theorem Below.resolve? (h : t.Below u) (id : ScopeId) (name : String) :
    t.resolve? id name = u.resolve? id name := by
  have hbinds (j : ScopeId) : (t.own? j name).isSome = (u.own? j name).isSome := by
    rcases rel_cases (h.own? j name) with ⟨ht, hu⟩ | ⟨_, _, ht, hu, -⟩ <;> rw [ht, hu]
    rfl
  simp only [ScopeTree.resolve?, ancestors, h.chain, hbinds]

theorem Below.lookup? (h : t.Below u) (id : ScopeId) (name : String) :
    Option.Rel Variable.Below (t.lookup? id name) (u.lookup? id name) := by
  unfold ScopeTree.lookup?
  rw [h.resolve?]
  cases u.resolve? id name with
  | none => exact .none
  | some j => exact h.own? j name

theorem Below.functionScope (h : t.Below u) (id : ScopeId) :
    t.functionScope id = u.functionScope id := by
  simp only [ScopeTree.functionScope, ancestors, h.chain, h.kind]

theorem Below.update (h : t.Below u) (id : ScopeId) {f g : Scope → Scope}
    (hfg : ∀ a b : Scope, a.Below b → (f a).Below (g b)) : (t.update id f).Below (u.update id g) := by
  intro j
  rw [get?_update, get?_update]
  split
  · rcases h.get? j with ⟨ht, hu⟩ | ⟨a, b, ht, hu, hab⟩
    · rw [ht, hu]
      exact .none
    · rw [ht, hu]
      exact .some (hfg a b hab)
  · exact h j

theorem Below.create (h : t.Below u) (kind : ScopeKind) (parent : ScopeId) :
    (t.create kind parent).1.Below (u.create kind parent).1 := by
  intro j
  rw [get?_create, get?_create, h.size]
  split
  · exact .some (Scope.below_refl _)
  · refine Below.update h parent (fun a b hab => ?_) j
    exact ⟨hab.kind, hab.parent, by simp [hab.children], hab.vars⟩

theorem Below.modifyVar (h : t.Below u) (id : ScopeId) (name : String) {f g : Variable → Variable}
    (hfg : ∀ v w : Variable, v.Below w → ((f v).tainted = true → (g w).tainted = true)) :
    (t.modifyVar id name f).Below (u.modifyVar id name g) := by
  unfold ScopeTree.modifyVar
  rw [h.resolve?]
  rcases rel_cases (h.lookup? id name) with ⟨ht, hu⟩ | ⟨v, w, ht, hu, hvw⟩
  · rw [ht, hu]
    cases u.resolve? id name <;> exact h
  · rw [ht, hu]
    cases u.resolve? id name with
    | none => exact h
    | some j => exact h.update j fun _ _ hab => hab.put ⟨rfl, hfg v w hvw⟩

/-- Tainting a variable on the right alone keeps the left one below. -/
theorem Below.taint_right (h : t.Below u) (id : ScopeId) (name origin : String) :
    t.Below (u.taint id name origin) := by
  rcases u.modifyVar_cases id name (·.taint origin) with hnone | ⟨j, w, -, hw, hsome⟩
  · rw [ScopeTree.taint, hnone]
    exact h
  · rw [ScopeTree.taint, hsome]
    intro i
    rw [get?_update]
    split
    next hij =>
      subst hij
      rcases h.get? j with ⟨ht, hu⟩ | ⟨a, b, ht, hu, hab⟩
      · rw [ht, hu]
        exact .none
      · rw [ht, hu]
        have hbinds : b.binds name = true := by
          simp only [ScopeTree.own?, hu, Option.bind_some] at hw
          simp [Scope.binds, hw]
        exact .some (hab.put_right hbinds rfl)
    next => exact h i

end ScopeTree

/-- The same sinks with at least as many sources. -/
structure Patterns.Below (p p' : Patterns) : Prop where
  sinks : p.isSink = p'.isSink
  sources : ∀ text, p.isSource text = true → p'.isSource text = true

/-- The second reading is tainted if the first is. -/
def Reading.Below (a b : Reading) : Prop := a.origin.isSome = true → b.origin.isSome = true

theorem Patterns.Below.ofPath {p p' : Patterns} (hp : p.Below p') (path : String) :
    (Reading.ofPath p path).Below (Reading.ofPath p' path) := by
  unfold Reading.ofPath Reading.Below
  by_cases hsource : p.isSource path = true
  · simp [hsource, hp.sources path hsource]
  · simp [hsource, Reading.clean]

theorem Patterns.Below.readingRelation {p p' : Patterns} (hp : p.Below p') :
    ReadingRelation p p' Reading.Below where
  clean := id
  orElse := by
    intro a a' b b' ha hb
    unfold Reading.orElse Reading.Below at *
    cases hao : a.origin <;> cases hao' : a'.origin <;> simp_all
  ofPath := hp.ofPath

/-- A name that is tainted on the left has to be tainted on the right; whether others are bound there does
not matter. -/
theorem Patterns.Below.readName {p p' : Patterns} (hp : p.Below p')
    {look look' : String → Option Variable} {n : String} (h : ∀ v, look n = some v →
      ∃ w, look' n = some w ∧ (v.tainted = true → w.tainted = true)) :
    (readName p look n).Below (readName p' look' n) := by
  have hpath := hp.ofPath n
  unfold DomFlow.readName Reading.Below at *
  cases hw : look' n with
  | none =>
    cases hv : look n with
    | none => exact hpath
    | some v =>
      obtain ⟨w, hw', -⟩ := h v hv
      rw [hw] at hw'
      cases hw'
  | some w =>
    cases hwt : w.tainted with
    | true => simp [hwt]
    | false =>
      cases hv : look n with
      | none => simpa [hwt] using hpath
      | some v =>
        obtain ⟨w', hw', hvw⟩ := h v hv
        obtain rfl : w = w' := Option.some.inj (hw.symm.trans hw')
        have hvt : v.tainted = false := Bool.eq_false_iff.mpr fun hvt => by simp [hvw hvt] at hwt
        simpa [hwt, hvt] using hpath

/-- A flow that differs at most in its source. -/
def Flow.Alike (f g : Flow) : Prop := g = { f with source := g.source }

namespace WalkState

variable {p p' : Patterns} {s s' : WalkState}

/-- The same point of two walks, the second of which has at least as much taint. -/
structure Below (s s' : WalkState) : Prop where
  scopes : s.tracker.scopes.Below s'.tracker.scopes
  current : s.tracker.current = s'.tracker.current
  pending : List.Forall₂ (fun a b : Option String => a.isSome = true → b.isSome = true)
    s.pending s'.pending

theorem below_refl (s : WalkState) : s.Below s :=
  ⟨s.tracker.scopes.below_refl, rfl, List.forall₂_same.mpr fun _ _ => id⟩

theorem Below.latest (h : s.Below s') : s.latest.isSome = true → s'.latest.isSome = true := by
  unfold WalkState.latest
  obtain ⟨-, -, hpending⟩ := h
  generalize s.pending = ts at hpending
  generalize s'.pending = ts' at hpending
  cases hpending with
  | nil => exact id
  | cons ht _ => simpa using ht

theorem Below.reading (h : s.Below s') (hp : p.Below p') (e : Script.Expr) :
    (s.reading p e).Below (s'.reading p' e) := by
  refine e.reading_related hp.readingRelation fun n _ => hp.readName fun v hv => ?_
  unfold Tracker.lookup? at hv ⊢
  rw [← h.current]
  rcases rel_cases (h.scopes.lookup? s.tracker.current n) with ⟨ht, -⟩ | ⟨u, w, ht, hu, huw⟩
  · rw [ht] at hv
    cases hv
  · rw [ht] at hv
    cases hv
    exact ⟨w, hu, huw.2⟩

theorem Below.scopeOf (h : s.Below s') (target : BindTarget) :
    s.tracker.scopeOf target = s'.tracker.scopeOf target := by
  cases target with
  | current => exact h.current
  | function => simpa only [Tracker.scopeOf, h.current] using h.scopes.functionScope _

theorem Below.scopes_declare (h : s.Below s') (target : BindTarget) (name : String) :
    (s.declare target name s.latest).tracker.scopes.Below
      (s'.declare target name s'.latest).tracker.scopes := by
  rw [declare_tracker, declare_tracker, h.scopeOf target]
  exact h.scopes.update _ fun _ _ hab => hab.put ⟨rfl, h.latest⟩

theorem Below.scopes_assign (h : s.Below s') (plain : Bool) (name : String) :
    (s.assign plain name s.latest).tracker.scopes.Below
      (s'.assign plain name s'.latest).tracker.scopes := by
  have hlookup := h.scopes.lookup? s.tracker.current name
  rcases rel_cases hlookup with ⟨ht, hu⟩ | ⟨v, w, ht, hu, hvw⟩
  · rw [h.current] at hu
    rw [assign_tracker_of_unbound ht, assign_tracker_of_unbound hu]
    exact h.scopes.update _ fun _ _ hab => hab.put ⟨rfl, h.latest⟩
  · rw [h.current] at hu
    rw [assign_tracker_of_bound ht, assign_tracker_of_bound hu]
    have hwrite {f g : Variable → Variable}
        (hfg : ∀ v w : Variable, v.Below w → (f v).tainted = true → (g w).tainted = true) :
        (s.tracker.scopes.modifyVar s.tracker.current name f).Below
          (s'.tracker.scopes.modifyVar s'.tracker.current name g) := by
      rw [h.current]
      exact h.scopes.modifyVar _ _ hfg
    have hlatest := h.latest
    cases ho : s.latest with
    | some origin =>
      obtain ⟨origin', ho'⟩ := Option.isSome_iff_exists.mp (hlatest (by simp [ho]))
      rw [ho']
      exact hwrite fun _ _ _ _ => rfl
    | none =>
      cases ho' : s'.latest with
      | some origin' =>
        cases plain with
        | true => exact hwrite fun _ _ _ _ => rfl
        | false => exact h.scopes.taint_right _ _ origin'
      | none =>
        cases plain with
        | true => exact hwrite fun _ _ _ hv => hv
        | false => exact h.scopes

theorem Below.push (h : s.Below s') {t t' : Option String}
    (ht : t.isSome = true → t'.isSome = true) : (s.push t).Below (s'.push t') :=
  ⟨h.scopes, h.current, .cons ht h.pending⟩

theorem Below.access (h : s.Below s') (names names' : List String) :
    (s.access names).Below (s'.access names') :=
  ⟨h.scopes, h.current, h.pending⟩

theorem Below.of_eq {t t' : WalkState} (h : s.Below s') (ht : t.tracker = s.tracker)
    (ht' : t'.tracker = s'.tracker) (hp : t.pending = s.pending) (hp' : t'.pending = s'.pending) :
    t.Below t' :=
  ⟨by rw [ht, ht']; exact h.scopes, by rw [ht, ht']; exact h.current, by rw [hp, hp']; exact h.pending⟩

theorem Below.noteDefault (h : s.Below s') (hp : p.Below p') (e : Script.Expr) :
    (s.step p (.noteDefault e)).Below (s'.step p' (.noteDefault e)) := by
  have hlatest := h.latest
  simp only [WalkState.step]
  cases ho : s.latest with
  | some origin =>
    obtain ⟨origin', ho'⟩ := Option.isSome_iff_exists.mp (hlatest (by simp [ho]))
    rw [ho']
    exact h.push fun _ => rfl
  | none =>
    cases ho' : s'.latest with
    | some origin' => exact ⟨h.scopes, h.current, .cons (fun _ => rfl) h.pending⟩
    | none => exact (h.access _ _).push (h.reading hp e)

theorem Below.step (h : s.Below s') (hp : p.Below p') (st : Step) :
    (s.step p st).Below (s'.step p' st) := by
  cases st with
  | enter kind =>
    refine ⟨?_, ?_, h.pending⟩
    · simpa only [WalkState.step, Tracker.enter, h.current] using h.scopes.create kind _
    · simpa only [WalkState.step, Tracker.enter, ScopeTree.create] using h.scopes.size
  | leave =>
    have hparent := h.scopes.parent? s.tracker.current
    simp only [WalkState.step, Tracker.leave]
    rw [hparent, h.current]
    cases s'.tracker.scopes.parent? s'.tracker.current with
    | none => exact h
    | some id => exact ⟨h.scopes, rfl, h.pending⟩
  | clean => exact h.push id
  | note e => exact (h.access _ _).push (h.reading hp e)
  | noteDefault e => exact h.noteDefault hp e
  | forget =>
    refine ⟨h.scopes, h.current, ?_⟩
    simpa only [WalkState.step, List.drop_one] using List.forall₂_drop 1 h.pending
  | declare target name => exact ⟨h.scopes_declare target name, h.current, h.pending⟩
  | assign plain name =>
    exact ⟨h.scopes_assign plain name, by simpa [WalkState.step] using h.current,
      by simpa [WalkState.step] using h.pending⟩
  | checkCall callee args =>
    simp only [WalkState.step, hp.sinks]
    split
    · exact h.of_eq (by simp) (by simp) (by simp) (by simp)
    · exact h
  | checkAssign target value | checkProperty key value =>
    exact h.of_eq (by simp [WalkState.step]) (by simp [WalkState.step]) (by simp [WalkState.step])
      (by simp [WalkState.step])

theorem flow?_alike (hreading : ∀ e, (s.reading p e).Below (s'.reading p' e)) {kind : FlowKind}
    {sink : String} {e : Script.Expr} {f : Flow} (hf : s.flow? p kind sink e = some f) :
    ∃ g, s'.flow? p' kind sink e = some g ∧ f.Alike g := by
  obtain ⟨origin, ho, rfl⟩ := Option.map_eq_some_iff.mp hf
  obtain ⟨origin', ho'⟩ := Option.isSome_iff_exists.mp (hreading e (by simp [ho]))
  exact ⟨⟨kind, origin', sink, e.describe⟩, by simp [WalkState.flow?, ho'], rfl⟩

theorem filterMap_flow?_alike (hreading : ∀ e, (s.reading p e).Below (s'.reading p' e))
    (kind : FlowKind) (sink : String) (es : List Script.Expr) :
    List.SublistForall₂ Flow.Alike (es.filterMap (s.flow? p kind sink))
      (es.filterMap (s'.flow? p' kind sink)) := by
  induction es with
  | nil => exact .nil
  | cons e es ih =>
    cases hf : s.flow? p kind sink e with
    | some f =>
      obtain ⟨g, hg, hfg⟩ := flow?_alike hreading hf
      simpa only [List.filterMap_cons, hf, hg] using List.SublistForall₂.cons hfg ih
    | none =>
      cases hg : s'.flow? p' kind sink e with
      | some g => simpa only [List.filterMap_cons, hf, hg] using List.SublistForall₂.cons_right ih
      | none => simpa only [List.filterMap_cons, hf, hg] using ih

theorem sublistForall₂_append {α : Type} {R : α → α → Prop} {a a' b b' : List α}
    (ha : List.SublistForall₂ R a a') (hb : List.SublistForall₂ R b b') :
    List.SublistForall₂ R (a ++ b) (a' ++ b') := by
  obtain ⟨l, hl, hsub⟩ := List.sublistForall₂_iff.mp ha
  obtain ⟨m, hm, hsub'⟩ := List.sublistForall₂_iff.mp hb
  exact List.sublistForall₂_iff.mpr ⟨l ++ m, List.rel_append hl hm, hsub.append hsub'⟩

/-- A step finds at least as much where at least as much is noted and read as tainted. -/
theorem found_alike (hsinks : p.isSink = p'.isSink)
    (hlatest : s.latest.isSome = true → s'.latest.isSome = true)
    (hreading : ∀ e, (s.reading p e).Below (s'.reading p' e)) (st : Step) :
    List.SublistForall₂ Flow.Alike (s.found p st) (s'.found p' st) := by
  cases st with
  | checkCall callee args =>
    simp only [WalkState.found, hsinks]
    split
    · exact filterMap_flow?_alike hreading .call callee args
    · exact .nil
  | checkAssign target value =>
    simp only [WalkState.found, hsinks]
    refine sublistForall₂_append ?_ ?_
    · split
      · cases ho : s.latest with
        | none => exact .nil
        | some origin =>
          obtain ⟨origin', ho'⟩ := Option.isSome_iff_exists.mp (hlatest (by simp [ho]))
          rw [ho']
          exact .cons rfl .nil
      · exact .nil
    · split
      · exact .cons rfl .nil
      · exact .nil
  | checkProperty key value =>
    cases hf : s.flow? p .property key value with
    | none => simpa only [WalkState.found, hf, Option.toList_none] using List.SublistForall₂.nil
    | some f =>
      obtain ⟨g, hg, hfg⟩ := flow?_alike hreading hf
      simpa only [WalkState.found, hf, hg, Option.toList_some] using List.SublistForall₂.cons hfg .nil
  | enter _ | leave | clean | note _ | noteDefault _ | forget | declare _ _ | assign _ _ => exact .nil

theorem Below.found (h : s.Below s') (hp : p.Below p') (st : Step) :
    List.SublistForall₂ Flow.Alike (s.found p st) (s'.found p' st) :=
  found_alike hp.sinks h.latest (h.reading hp) st

/-- Along a run the second walk stays above the first and adds all that the first adds. -/
theorem Below.run (hp : p.Below p') (steps : List Step) {s s' : WalkState} (h : s.Below s') :
    (s.run p steps).Below (s'.run p' steps) ∧
      ∃ added added', (s.run p steps).flows = s.flows ++ added ∧
        (s'.run p' steps).flows = s'.flows ++ added' ∧ List.SublistForall₂ Flow.Alike added added' := by
  induction steps generalizing s s' with
  | nil => exact ⟨h, [], [], by simp, by simp, .nil⟩
  | cons st steps ih =>
    obtain ⟨hrun, added, added', ha, ha', hadded⟩ := ih (h.step hp st)
    refine ⟨hrun, s.found p st ++ added, s'.found p' st ++ added', ?_, ?_,
      sublistForall₂_append (h.found hp st) hadded⟩
    · rw [run_cons, ha, step_flows, List.append_assoc]
    · rw [run_cons, ha', step_flows, List.append_assoc]

theorem exists_embedding_of_sublistForall₂ {a b : List Flow} (h : List.SublistForall₂ Flow.Alike a b) :
    ∃ φ : Fin a.length ↪o Fin b.length, ∀ i, (a.get i).Alike (b.get (φ i)) := by
  obtain ⟨l, hal, hlb⟩ := List.sublistForall₂_iff.mp h
  obtain ⟨φ, hφ⟩ := List.sublist_iff_exists_fin_orderEmbedding_get_eq.mp hlb
  refine ⟨(Fin.castOrderIso hal.length_eq).toOrderEmbedding.trans φ, fun i => ?_⟩
  have halike := hal.get i.isLt (hal.length_eq ▸ i.isLt)
  rw [RelEmbedding.trans_apply, ← hφ]
  exact halike

/-- With more sources a walk makes the same scopes and names, taints at least what it did, and adds what
it added, each in its place and with another origin at most. -/
theorem walk_sources_mono (sources sources' sinks : PatternSet)
    (hsources : ∀ text, sources.isMatch text = true → sources'.isMatch text = true)
    (s : WalkState) (script : Script) :
    let t := s.walk ⟨sources, sinks⟩ script
    let t' := s.walk ⟨sources', sinks⟩ script
    t.tracker.scopes.size = t'.tracker.scopes.size ∧
    (∀ id, t.tracker.scopes.kind id = t'.tracker.scopes.kind id ∧
      t.tracker.scopes.parent? id = t'.tracker.scopes.parent? id ∧
      t.tracker.scopes.children id = t'.tracker.scopes.children id ∧
      List.Forall₂ (fun v w => v.name = w.name ∧ (v.tainted = true → w.tainted = true))
        (t.tracker.scopes.vars id) (t'.tracker.scopes.vars id)) ∧
    ∃ added added' : List Flow, t.findings = s.findings ++ added.map Flow.finding ∧
      t'.findings = s.findings ++ added'.map Flow.finding ∧
      ∃ φ : Fin added.length ↪o Fin added'.length, ∀ i,
        (added'.get (φ i)).kind = (added.get i).kind ∧ (added'.get (φ i)).sink = (added.get i).sink ∧
          (added'.get (φ i)).evidence = (added.get i).evidence := by
  intro t t'
  have hp : Patterns.Below ⟨sources, sinks⟩ ⟨sources', sinks⟩ := ⟨rfl, hsources⟩
  obtain ⟨hbelow, added, added', ha, ha', hadded⟩ :=
    Below.run hp (Script.Stmt.allSteps sinks.isMatch script) (below_refl s)
  refine ⟨hbelow.scopes.size, fun id => ⟨hbelow.scopes.kind id, hbelow.scopes.parent? id,
    hbelow.scopes.children id, hbelow.scopes.vars id⟩, added, added', ?_, ?_, ?_⟩
  · exact (congrArg (List.map Flow.finding) ha).trans List.map_append
  · exact (congrArg (List.map Flow.finding) ha').trans List.map_append
  · obtain ⟨φ, hφ⟩ := exists_embedding_of_sublistForall₂ hadded
    refine ⟨φ, fun i => ?_⟩
    rw [hφ i]
    exact ⟨rfl, rfl, rfl⟩

/-- `var a = name; eval(a); eval(location.hash);` -/
def twoEvals : Script :=
  [.var .var [.mk (.ident "a") (some (.ident "name"))],
    .expr (.call (.ident "eval") [.item (.ident "a")]),
    .expr (.call (.ident "eval") [.item (.member (.ident "location") (.name "hash"))])]

theorem walk_sources_mono_twoEvals :
    let sources := (Patterns.ofTexts ["location.hash"] []).sources
    let sources' := (Patterns.ofTexts ["name", "location.hash"] []).sources
    let sinks := (Patterns.ofTexts [] ["eval"]).sinks
    (∀ text, sources.isMatch text = true → sources'.isMatch text = true) ∧
    ∃ added added' : List Flow,
      (({} : WalkState).walk ⟨sources, sinks⟩ twoEvals).findings = [] ++ added.map Flow.finding ∧
      (({} : WalkState).walk ⟨sources', sinks⟩ twoEvals).findings = [] ++ added'.map Flow.finding ∧
      ∃ φ : Fin added.length ↪o Fin added'.length, ∀ i,
        (added'.get (φ i)).kind = (added.get i).kind ∧ (added'.get (φ i)).sink = (added.get i).sink ∧
          (added'.get (φ i)).evidence = (added.get i).evidence := by
  intro sources sources' sinks
  have hsources (text : String) (h : sources.isMatch text = true) : sources'.isMatch text = true := by
    rw [PatternSet.isMatch, List.any_eq_true] at h ⊢
    exact h.imp fun _ hp => ⟨.tail _ hp.1, hp.2⟩
  exact ⟨hsources, (walk_sources_mono sources sources' sinks hsources {} twoEvals).2.2⟩

end WalkState

end DomFlow
