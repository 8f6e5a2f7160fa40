import DomFlow.Proofs.Correspondence
import Mathlib.Logic.Relation

/-! # What a name means, and what a write changes

The meaning of a name is found by a search along the parents. It is stated here without the search, by what
lies around what: a name means the variable of the nearest scope that binds it. A declaration in the middle
of the tree then redirects exactly the scopes below it that no nearer scope keeps from it, and a change of a
variable is seen from exactly the scopes in which the name means that variable. -/

namespace DomFlow

namespace ScopeTree

variable {t u : ScopeTree} {name : String} {i j : ScopeId}

/-- The second scope is the first one or lies around it. -/
def Within (t : ScopeTree) : ScopeId → ScopeId → Prop :=
  Relation.ReflTransGen fun a b => t.parent? a = some b

/-- The second scope is the first one or lies around it, and no scope that is strictly nearer binds the
name. -/
structure Sees (t : ScopeTree) (name : String) (i j : ScopeId) : Prop where
  within : t.Within i j
  nearer : ∀ k, t.Within i k → t.Within k j → k ≠ j → t.own? k name = none

/-- The second scope is the first one, from the first scope up, that binds the name. -/
structure Owner (t : ScopeTree) (name : String) (i j : ScopeId) : Prop extends t.Sees name i j where
  binds : (t.own? j name).isSome = true

theorem Descends.le_of_within (h : t.Descends) (hij : t.Within i j) : j ≤ i := by
  induction hij with
  | refl => exact Nat.le_refl i
  | tail _ hparent ih => exact Nat.le_trans (Nat.le_of_lt (h _ _ hparent)) ih

theorem Descends.sees_self (h : t.Descends) (name : String) (i : ScopeId) : t.Sees name i i where
  within := .refl
  nearer _ hik hki hne := absurd (Nat.le_antisymm (h.le_of_within hik) (h.le_of_within hki)) hne

theorem Sees.of_parent {a : ScopeId} (hsees : t.Sees name a j) (hparent : t.parent? i = some a)
    (hown : t.own? i name = none) : t.Sees name i j where
  within := .head hparent hsees.within
  nearer k hik hkj hne := by
    rcases hik.cases_head with rfl | ⟨b, hb, hbk⟩
    · exact hown
    · obtain rfl : a = b := Option.some.inj (hparent.symm.trans hb)
      exact hsees.nearer k hbk hkj hne

/-- A scope is seen from itself, and from below by way of the parent if the scope below does not bind the
name. -/
theorem Descends.sees_iff (h : t.Descends) :
    t.Sees name i j ↔ i = j ∨ t.own? i name = none ∧ ∃ a, t.parent? i = some a ∧ t.Sees name a j := by
  constructor
  · intro hsees
    rcases hsees.within.cases_head with heq | ⟨a, hparent, haj⟩
    · exact .inl heq
    · have hlt : j < i := Nat.lt_of_le_of_lt (h.le_of_within haj) (h i a hparent)
      refine .inr ⟨hsees.nearer i .refl hsees.within (Nat.ne_of_gt hlt), a, hparent, haj, ?_⟩
      intro k hak hkj hne
      exact hsees.nearer k (.head hparent hak) hkj hne
  · rintro (rfl | ⟨hown, a, hparent, hsees⟩)
    · exact h.sees_self name i
    · exact hsees.of_parent hparent hown

/-- The search finds the owner. -/
theorem Descends.resolve?_eq_some_iff (h : t.Descends) : t.resolve? i name = some j ↔ t.Owner name i j := by
  induction i using Nat.strong_induction_on with
  | _ i ih =>
    rw [h.resolve?_eq]
    by_cases hown : (t.own? i name).isSome = true
    · rw [if_pos hown]
      constructor
      · intro heq
        obtain rfl := Option.some.inj heq
        exact ⟨h.sees_self name i, hown⟩
      · intro howner
        rcases h.sees_iff.mp howner.toSees with rfl | ⟨hnone, -⟩
        · rfl
        · rw [hnone] at hown
          cases hown
    · rw [if_neg hown]
      have hnone : t.own? i name = none := Option.not_isSome_iff_eq_none.mp hown
      constructor
      · intro hresolve
        obtain ⟨a, hparent, ha⟩ := Option.bind_eq_some_iff.mp hresolve
        have howner := (ih a (h i a hparent)).mp ha
        exact ⟨howner.toSees.of_parent hparent hnone, howner.binds⟩
      · intro howner
        rcases h.sees_iff.mp howner.toSees with rfl | ⟨-, a, hparent, hsees⟩
        · exact absurd howner.binds hown
        · rw [hparent]
          exact (ih a (h i a hparent)).mpr ⟨hsees, howner.binds⟩

theorem Descends.lookup?_eq_some_iff (h : t.Descends) {v : Variable} :
    t.lookup? i name = some v ↔ ∃ j, t.Owner name i j ∧ t.own? j name = some v := by
  simp only [lookup?, Option.bind_eq_some_iff, h.resolve?_eq_some_iff]

/-- A name means nothing exactly if no scope on the way up binds it. -/
theorem Descends.lookup?_eq_none_iff (h : t.Descends) :
    t.lookup? i name = none ↔ ∀ j, t.Within i j → t.own? j name = none := by
  induction i using Nat.strong_induction_on with
  | _ i ih =>
    rw [h.lookup?_eq, Option.or_eq_none_iff]
    constructor
    · rintro ⟨hown, hup⟩ j hij
      rcases hij.cases_head with rfl | ⟨a, hparent, haj⟩
      · exact hown
      · rw [hparent, Option.bind_some] at hup
        exact (ih a (h i a hparent)).mp hup j haj
    · intro hall
      refine ⟨hall i .refl, ?_⟩
      cases hparent : t.parent? i with
      | none => rfl
      | some a => exact (ih a (h i a hparent)).mpr fun j haj => hall j (.head hparent haj)

/-- Where `P` holds a name means `v` afterwards, and everywhere else it means what it meant. -/
def ChangesTo (t u : ScopeTree) (P : ScopeId → String → Prop) (v : Option Variable) : Prop :=
  ∀ i name, (P i name → u.lookup? i name = v) ∧ (¬ P i name → u.lookup? i name = t.lookup? i name)

/-- A variable is met from exactly the scopes that see where it was written. -/
theorem IsWrite.changesTo {v : Variable} (hwrite : t.IsWrite j v u) (h : t.Descends) :
    t.ChangesTo u (fun i name => name = v.name ∧ t.Sees v.name i j) (some v) := by
  intro i name
  -- Both claims go up along the parents, which the write has left alone.
  induction i using Nat.strong_induction_on with
  | _ i ih =>
    rw [(hwrite.descends h).lookup?_eq, h.lookup?_eq, hwrite.own?, hwrite.parent?]
    constructor
    · rintro ⟨rfl, hsees⟩
      rcases h.sees_iff.mp hsees with rfl | ⟨hown, a, hparent, hsees⟩
      · simp
      · have hlookup := (ih a (h i a hparent)).1 ⟨rfl, hsees⟩
        split
        · rfl
        · rw [hown, hparent]
          exact hlookup
    · intro hnot
      have hother : ¬ (j = i ∧ name = v.name) := by
        rintro ⟨rfl, hname⟩
        exact hnot ⟨hname, h.sees_self _ _⟩
      rw [if_neg hother]
      cases hown : t.own? i name with
      | some w => rfl
      | none =>
        cases hparent : t.parent? i with
        | none => rfl
        | some a =>
          apply (ih a (h i a hparent)).2
          rintro ⟨rfl, hsees⟩
          exact hnot ⟨rfl, hsees.of_parent hparent hown⟩

theorem ChangesTo.congr {P Q : ScopeId → String → Prop} {v w : Option Variable} (h : t.ChangesTo u P v)
    (hPQ : ∀ i name, Q i name ↔ P i name) (hvw : w = v) : t.ChangesTo u Q w := by
  intro i name
  rw [hPQ, hvw]
  exact h i name

/-- A change of the variable that a name means is seen from exactly the scopes in which the name means that
variable. -/
theorem Descends.changesTo_modifyVar (h : t.Descends) (i : ScopeId) (name : String)
    {f : Variable → Variable} (hf : ∀ v, (f v).name = v.name) :
    t.ChangesTo (t.modifyVar i name f)
      (fun k m => m = name ∧ ∃ j, t.Owner name i j ∧ t.Owner name k j) ((t.lookup? i name).map f) := by
  rcases hresolve : t.resolve? i name with _ | j
  · have hsame : t.modifyVar i name f = t := by rw [modifyVar, hresolve]
    rw [hsame]
    refine fun k m => ⟨?_, fun _ => rfl⟩
    rintro ⟨-, j, howner, -⟩
    rw [h.resolve?_eq_some_iff.mpr howner] at hresolve
    cases hresolve
  · have howner := h.resolve?_eq_some_iff.mp hresolve
    obtain ⟨v, hv⟩ := Option.isSome_iff_exists.mp howner.binds
    have hlookup : t.lookup? i name = some v := h.lookup?_eq_some_iff.mpr ⟨j, howner, hv⟩
    have hchanged : ({ f v with name } : Variable) = f v := by
      rw [← name_of_own? hv, ← hf v]
    have hwrite := isWrite_modifyVar hresolve hv f
    rw [hchanged] at hwrite
    have hname : (f v).name = name := (hf v).trans (name_of_own? hv)
    refine (hwrite.changesTo h).congr (fun k m => ?_) (by rw [hlookup, Option.map_some])
    rw [hname]
    refine and_congr_right fun _ => ⟨?_, fun hsees => ⟨j, howner, hsees, howner.binds⟩⟩
    rintro ⟨j', howner', hk⟩
    have heq : some j' = some j := (h.resolve?_eq_some_iff.mpr howner').symm.trans hresolve
    obtain rfl := Option.some.inj heq
    exact hk.toSees

/-- A name means the variable of the nearest scope around that binds it. A declaration changes what its name
means in the scopes that see the one it binds in, where it means a fresh, untainted variable, and a change of
taint is seen where the name has the same owner; what any other name means, and what the name means anywhere
else, stays as it was. -/
theorem names_mean_nearest (t : ScopeTree) (h : t.Reachable) :
    (∀ i name,
      (∀ v, t.lookup? i name = some v ↔ ∃ j, t.Owner name i j ∧ t.own? j name = some v) ∧
      (t.lookup? i name = none ↔ ∀ j, t.Within i j → t.own? j name = none)) ∧
    (∀ i < t.size, ∀ name,
      t.ChangesTo (t.define i name) (fun k m => m = name ∧ t.Sees name k i)
        (some { name, tainted := false, origin := "" })) ∧
    (∀ i name origin,
      t.ChangesTo (t.taint i name origin) (fun k m => m = name ∧ ∃ j, t.Owner name i j ∧ t.Owner name k j)
        ((t.lookup? i name).map fun v => { v with tainted := true, origin })) ∧
    (∀ i name,
      t.ChangesTo (t.untaint i name) (fun k m => m = name ∧ ∃ j, t.Owner name i j ∧ t.Owner name k j)
        ((t.lookup? i name).map fun v => { v with tainted := false, origin := "" })) := by
  have hdescends := h.wellFormed.descends
  refine ⟨fun i name => ⟨fun v => hdescends.lookup?_eq_some_iff, hdescends.lookup?_eq_none_iff⟩, ?_, ?_, ?_⟩
  · intro i hi name
    exact (isWrite_put hi { name }).changesTo hdescends
  · intro i name origin
    exact hdescends.changesTo_modifyVar i name (f := (·.taint origin)) fun _ => rfl
  · intro i name
    exact hdescends.changesTo_modifyVar i name (f := Variable.untaint) fun _ => rfl

/-- A tainted global `x`, and two blocks in a function. -/
def shadowable : ScopeTree :=
  ((((((empty.define 0 "x").taint 0 "x" "location.hash").create .function 0).1.create .block 1).1).create
    .block 1).1

/-- A declaration in the function hides the global variable from both of its blocks, and a change through one
block is seen through the other. -/
theorem names_mean_nearest_shadowable :
    shadowable.Reachable ∧
      (shadowable.define 1 "x").lookup? 3 "x" = some { name := "x", tainted := false, origin := "" } ∧
      (shadowable.define 1 "x").lookup? 0 "x" =
        some { name := "x", tainted := true, origin := "location.hash" } ∧
      (shadowable.taint 2 "x" "window.name").lookup? 3 "x" =
        some { name := "x", tainted := true, origin := "window.name" } := by
  have hreachable : shadowable.Reachable :=
    .create (.create (.create (.taint (.define .empty _ _) _ _ _) _ (by decide)) _ (by decide)) _ (by decide)
  have hdescends := hreachable.wellFormed.descends
  obtain ⟨-, hdefine, htaint, -⟩ := names_mean_nearest shadowable hreachable
  have hsees : shadowable.Sees "x" 3 1 :=
    (hdescends.sees_self _ _).of_parent (by decide) (by decide)
  have hunseen : ¬ shadowable.Sees "x" 0 1 := fun hsees =>
    absurd (hdescends.le_of_within hsees.within) (by decide)
  have howner (k : ScopeId) (hk : shadowable.resolve? k "x" = some 0) : shadowable.Owner "x" k 0 :=
    hdescends.resolve?_eq_some_iff.mp hk
  refine ⟨hreachable, (hdefine 1 (by decide) "x" 3 "x").1 ⟨rfl, hsees⟩, ?_, ?_⟩
  · rw [(hdefine 1 (by decide) "x" 0 "x").2 fun hboth => hunseen hboth.2]
    decide
  · rw [(htaint 2 "x" "window.name" 3 "x").1 ⟨rfl, 0, howner 2 (by decide), howner 3 (by decide)⟩]
    decide

end ScopeTree

end DomFlow
