import DomFlow.Proofs.Frames
import DomFlow.Proofs.Readings
import Mathlib.Data.List.Forall2
import Mathlib.Data.Option.Basic
import Mathlib.Logic.Relator

/-! # Walks over different trees

Two walks that make the same steps over trees that differ: scopes that correspond have other indices, there
are scopes that correspond to none, and the global scopes bind different names. As long as the names that
the steps use have like meanings in scopes that correspond, the walks read alike and write alike, and scopes
that they open correspond again. What like meanings are is left open here. -/

namespace DomFlow

/-- The scope that an assignment to a name writes: where the name is bound, or else the global one. -/
def ScopeTree.ownerOf (t : ScopeTree) (i : ScopeId) (name : String) : ScopeId :=
  (t.resolve? i name).getD root

/-- The variable that an assignment leaves where the name meant `old`. -/
def Variable.assigned (name : String) (plain : Bool) (taint : Option String) (old : Option Variable) :
    Variable :=
  match old, taint, plain with
  | none, _, _ => declared name taint
  | some v, some origin, _ => { v.taint origin with name }
  | some v, none, true => { v.untaint with name }
  | some v, none, false => { v with name }

@[simp] theorem Variable.assigned_name (name : String) (plain : Bool) (taint : Option String)
    (old : Option Variable) : (assigned name plain taint old).name = name := by
  unfold assigned
  split <;> rfl

/-- The second tree is the first one with a variable written to a scope. -/
structure ScopeTree.IsWrite (t : ScopeTree) (i : ScopeId) (v : Variable) (u : ScopeTree) : Prop where
  size : u.size = t.size
  kind : ∀ j, u.kind j = t.kind j
  parent? : ∀ j, u.parent? j = t.parent? j
  own? : ∀ j name, u.own? j name = if i = j ∧ name = v.name then some v else t.own? j name

namespace ScopeTree

variable {t : ScopeTree}

theorem IsWrite.descends {i : ScopeId} {v : Variable} {u : ScopeTree} (h : t.IsWrite i v u)
    (ht : t.Descends) : u.Descends :=
  fun a b hab => ht a b (h.parent? a ▸ hab)

theorem Descends.create (h : t.Descends) (kind : ScopeKind) {i : ScopeId} (hi : i < t.size) :
    (t.create kind i).1.Descends := by
  intro a b hab
  rw [parent?_create] at hab
  split at hab
  next ha =>
    cases hab
    exact ha ▸ hi
  next => exact h a b hab

theorem isWrite_put {i : ScopeId} (hi : i < t.size) (v : Variable) :
    t.IsWrite i v (t.update i (·.put v)) where
  size := t.size_update i _
  kind := t.kind_put i v
  parent? := t.parent?_put i v
  own? j name := by
    rw [own?_update_put]
    by_cases hj : i = j
    · have hsome : (t.get? j).isSome = true := (t.lt_size_iff j).mp (hj ▸ hi)
      simp [hj, hsome]
    · simp [hj]

/-- To write what is there is to write nothing. -/
theorem isWrite_self {i : ScopeId} {v : Variable} (h : t.own? i v.name = some v) : t.IsWrite i v t where
  size := rfl
  kind _ := rfl
  parent? _ := rfl
  own? j name := by
    split
    next hcond => rw [← hcond.1, hcond.2, h]
    next => rfl

theorem name_of_own? {i : ScopeId} {name : String} {v : Variable} (h : t.own? i name = some v) :
    v.name = name := by
  rw [own?_eq_find?] at h
  simpa using List.find?_some h

theorem isWrite_modifyVar {i j : ScopeId} {name : String} {v : Variable}
    (hj : t.resolve? i name = some j) (hv : t.own? j name = some v) (f : Variable → Variable) :
    t.IsWrite j { f v with name } (t.modifyVar i name f) := by
  have hlookup : t.lookup? i name = some v := by
    rw [lookup?, hj]
    exact hv
  rw [modifyVar, hj, hlookup]
  exact isWrite_put (lt_size_of_own? hv) _

end ScopeTree

namespace WalkState

theorem isWrite_declare {s : WalkState} {target : BindTarget}
    (h : s.tracker.scopeOf target < s.tracker.scopes.size) (name : String) (taint : Option String) :
    s.tracker.scopes.IsWrite (s.tracker.scopeOf target) (.declared name taint)
      (s.declare target name taint).tracker.scopes := by
  rw [declare_tracker]
  exact ScopeTree.isWrite_put h _

/-- An assignment is one write, to a name that is bound and to one that is not. -/
theorem isWrite_assign {s : WalkState} (h : ScopeTree.root < s.tracker.scopes.size) (plain : Bool)
    (name : String) (taint : Option String) :
    s.tracker.scopes.IsWrite (s.tracker.scopes.ownerOf s.tracker.current name)
      (.assigned name plain taint (s.tracker.lookup? name))
      (s.assign plain name taint).tracker.scopes := by
  unfold ScopeTree.ownerOf
  cases hv : s.tracker.lookup? name with
  | none =>
    have hresolve : s.tracker.scopes.resolve? s.tracker.current name = none := by
      cases hj : s.tracker.scopes.resolve? s.tracker.current name with
      | none => rfl
      | some j =>
        have hown := List.find?_some hj
        have hnone : s.tracker.scopes.own? j name = none := by
          simpa [Tracker.lookup?, ScopeTree.lookup?, hj] using hv
        simp [hnone] at hown
    rw [hresolve, assign_tracker_of_unbound hv]
    exact ScopeTree.isWrite_put h _
  | some v =>
    obtain ⟨j, hj, hown⟩ := ScopeTree.own?_of_lookup? hv
    rw [hj, assign_tracker_of_bound hv]
    cases taint with
    | some origin => exact ScopeTree.isWrite_modifyVar hj hown (·.taint origin)
    | none =>
      cases plain with
      | true => exact ScopeTree.isWrite_modifyVar hj hown (·.untaint)
      | false =>
        obtain rfl := ScopeTree.name_of_own? hown
        exact ScopeTree.isWrite_self hown

end WalkState

/-- When the meanings of a name, the readings of an expression and the notes of two walks are alike, so
that all that is made of what is alike is alike. -/
structure Likeness (p p' : Patterns) where
  meaning : Option Variable → Option Variable → Prop
  reading : Reading → Reading → Prop
  note : Option String → Option String → Prop
  reading_related : ReadingRelation p p' reading
  readName {look look' : String → Option Variable} (name : String) :
    meaning (look name) (look' name) → reading (DomFlow.readName p look name) (DomFlow.readName p' look' name)
  origin {r r' : Reading} : reading r r' → note r.origin r'.origin
  clean : note none none
  or {a a' b b' : Option String} : note a a' → note b b' → note (a.or b) (a'.or b')
  unbound : meaning none none
  declared {a a' : Option String} (name : String) :
    note a a' → meaning (some (.declared name a)) (some (.declared name a'))
  assigned {a a' : Option String} {old old' : Option Variable} (name : String) (plain : Bool) :
    meaning old old' → note a a' →
      meaning (some (.assigned name plain a old)) (some (.assigned name plain a' old'))

variable {p p' : Patterns}

theorem Reading.ofPath_congr (h : p.sources = p'.sources) (path : String) :
    Reading.ofPath p path = Reading.ofPath p' path := by
  unfold Reading.ofPath Patterns.isSource
  rw [h]

def Likeness.same (p p' : Patterns) (hsources : p.sources = p'.sources) : Likeness p p' where
  meaning := Eq
  reading := Eq
  note := Eq
  reading_related := {
    clean := rfl
    orElse := by
      rintro _ _ _ _ rfl rfl
      rfl
    ofPath := Reading.ofPath_congr hsources }
  readName name h := by simp only [DomFlow.readName, h, Reading.ofPath_congr hsources]
  origin h := congrArg Reading.origin h
  clean := rfl
  or := by
    rintro _ _ _ _ rfl rfl
    rfl
  unbound := rfl
  declared name := by
    rintro rfl
    rfl
  assigned name plain := by
    rintro rfl rfl
    rfl

variable {L : Likeness p p'} {N : String → Prop}

/-- Trackers whose scopes correspond, as far as `corr` says, with like meanings of the names in `N`. Only
the global scopes may bind different names. -/
structure Tracker.Corresponds (L : Likeness p p') (N : String → Prop) (corr : ScopeId → ScopeId → Prop)
    (k k' : Tracker) : Prop where
  descends : k.scopes.Descends
  descends' : k'.scopes.Descends
  unique : Relator.BiUnique corr
  root : corr ScopeTree.root ScopeTree.root
  current : corr k.current k'.current
  exist {i j : ScopeId} : corr i j → i < k.scopes.size ∧ j < k'.scopes.size
  kind {i j : ScopeId} : corr i j → k.scopes.kind i = k'.scopes.kind j
  parent? {i j : ScopeId} : corr i j → Option.Rel corr (k.scopes.parent? i) (k'.scopes.parent? j)
  meaning {i j : ScopeId} {name : String} : corr i j → N name →
    L.meaning (k.scopes.own? i name) (k'.scopes.own? j name)
  binds {i j : ScopeId} {name : String} : corr i j → i ≠ ScopeTree.root → N name →
    (k.scopes.own? i name).isSome = (k'.scopes.own? j name).isSome

namespace Tracker.Corresponds

variable {corr : ScopeId → ScopeId → Prop} {k k' : Tracker}

theorem root_iff (h : Corresponds L N corr k k') {i j : ScopeId} (hij : corr i j) :
    i = ScopeTree.root ↔ j = ScopeTree.root :=
  ⟨fun hi => h.unique.2 (hi ▸ hij) h.root, fun hj => h.unique.1 (hj ▸ hij) h.root⟩

theorem parent?_cases (h : Corresponds L N corr k k') {i j : ScopeId} (hij : corr i j) :
    (k.scopes.parent? i = none ∧ k'.scopes.parent? j = none) ∨
      ∃ a b, k.scopes.parent? i = some a ∧ k'.scopes.parent? j = some b ∧ corr a b := by
  have hparent := h.parent? hij
  generalize k.scopes.parent? i = a at hparent
  generalize k'.scopes.parent? j = b at hparent
  cases hparent with
  | none => exact .inl ⟨rfl, rfl⟩
  | some hab => exact .inr ⟨_, _, rfl, rfl, hab⟩

/-- A search up from two scopes that correspond: it stops in both at scopes that correspond, or it gets to
the global scopes. -/
theorem induction_up (h : Corresponds L N corr k k') {motive : ScopeId → ScopeId → Prop}
    (hroot : motive ScopeTree.root ScopeTree.root)
    (hup : ∀ i j a b, corr i j → i ≠ ScopeTree.root → k.scopes.parent? i = some a →
      k'.scopes.parent? j = some b → motive a b → motive i j)
    (hend : ∀ i j, corr i j → i ≠ ScopeTree.root → k.scopes.parent? i = none →
      k'.scopes.parent? j = none → motive i j) {i j : ScopeId} (hij : corr i j) : motive i j := by
  induction i using Nat.strong_induction_on generalizing j with
  | _ i ih =>
    by_cases hi : i = ScopeTree.root
    · obtain rfl := (h.root_iff hij).mp hi
      rw [hi]
      exact hroot
    · rcases h.parent?_cases hij with ⟨ha, hb⟩ | ⟨a, b, ha, hb, hab⟩
      · exact hend i j hij hi ha hb
      · exact hup i j a b hij hi ha hb (ih a (h.descends i a ha) hab)

theorem lookup? (h : Corresponds L N corr k k') {i j : ScopeId} (hij : corr i j) {name : String}
    (hname : N name) : L.meaning (k.scopes.lookup? i name) (k'.scopes.lookup? j name) := by
  refine h.induction_up (motive := fun i j => L.meaning (k.scopes.lookup? i name) (k'.scopes.lookup? j name))
    ?_ ?_ ?_ hij
  · rw [h.descends.lookup?_eq, h.descends'.lookup?_eq, h.descends.parent?_root, h.descends'.parent?_root]
    simpa using h.meaning h.root hname
  · intro i j a b hij hi ha hb hab
    have hbinds := h.binds hij hi hname
    have hmeaning := h.meaning hij hname
    rw [h.descends.lookup?_eq, h.descends'.lookup?_eq, ha, hb]
    cases hv : k.scopes.own? i name with
    | none =>
      have hw : k'.scopes.own? j name = none := by
        rw [hv] at hbinds
        exact Option.isNone_iff_eq_none.mp (Option.isSome_eq_false_iff.mp hbinds.symm)
      rw [hw]
      exact hab
    | some v =>
      rw [hv] at hbinds hmeaning
      obtain ⟨w, hw⟩ := Option.isSome_iff_exists.mp hbinds.symm
      rw [hw] at hmeaning ⊢
      exact hmeaning
  · intro i j hij hi ha hb
    rw [h.descends.lookup?_eq, h.descends'.lookup?_eq, ha, hb]
    simpa using h.meaning hij hname

theorem ownerOf (h : Corresponds L N corr k k') {i j : ScopeId} (hij : corr i j) {name : String}
    (hname : N name) : corr (k.scopes.ownerOf i name) (k'.scopes.ownerOf j name) := by
  unfold ScopeTree.ownerOf
  refine h.induction_up (motive := fun i j => corr ((k.scopes.resolve? i name).getD ScopeTree.root)
    ((k'.scopes.resolve? j name).getD ScopeTree.root)) ?_ ?_ ?_ hij
  · rw [h.descends.resolve?_eq, h.descends'.resolve?_eq, h.descends.parent?_root, h.descends'.parent?_root]
    have hstop (found : Bool) :
        (if found then some ScopeTree.root else none : Option ScopeId).getD ScopeTree.root =
          ScopeTree.root := by
      cases found <;> rfl
    simpa [hstop] using h.root
  · intro i j a b hij hi ha hb hab
    rw [h.descends.resolve?_eq, h.descends'.resolve?_eq, ha, hb, h.binds hij hi hname]
    split
    · exact hij
    · exact hab
  · intro i j hij hi ha hb
    rw [h.descends.resolve?_eq, h.descends'.resolve?_eq, ha, hb, h.binds hij hi hname]
    split
    · exact hij
    · exact h.root

theorem functionScope (h : Corresponds L N corr k k') {i j : ScopeId} (hij : corr i j) :
    corr (k.scopes.functionScope i) (k'.scopes.functionScope j) := by
  refine h.induction_up (motive := fun i j => corr (k.scopes.functionScope i) (k'.scopes.functionScope j))
    ?_ ?_ ?_ hij
  · rw [h.descends.functionScope_eq, h.descends'.functionScope_eq, h.descends.parent?_root,
      h.descends'.parent?_root]
    simpa using h.root
  · intro i j a b hij _ ha hb hab
    rw [h.descends.functionScope_eq, h.descends'.functionScope_eq, ha, hb, h.kind hij]
    split
    · exact hab
    · exact hij
  · intro i j hij _ ha hb
    rw [h.descends.functionScope_eq, h.descends'.functionScope_eq, ha, hb, h.kind hij]
    split
    · exact h.root
    · exact hij

theorem scopeOf (h : Corresponds L N corr k k') (target : BindTarget) :
    corr (k.scopeOf target) (k'.scopeOf target) := by
  cases target with
  | current => exact h.current
  | function => exact h.functionScope h.current

theorem write (h : Corresponds L N corr k k') {i j : ScopeId} (hij : corr i j) {v w : Variable}
    {t t' : ScopeTree} (hv : k.scopes.IsWrite i v t) (hw : k'.scopes.IsWrite j w t')
    (hname : v.name = w.name) (hlike : L.meaning (some v) (some w)) :
    Corresponds L N corr { k with scopes := t } { k' with scopes := t' } := by
  -- A scope is written on the left exactly if the scope that corresponds to it is written on the right.
  have hcond {a b : ScopeId} (hab : corr a b) (name : String) :
      (i = a ∧ name = v.name) ↔ (j = b ∧ name = w.name) := by
    rw [hname]
    refine and_congr_left fun _ => ⟨fun hi => ?_, fun hj => ?_⟩
    · exact h.unique.2 (hi ▸ hij) hab
    · exact h.unique.1 (hj ▸ hij) hab
  refine ⟨?_, ?_, h.unique, h.root, h.current, ?_, ?_, ?_, ?_, ?_⟩
  · exact hv.descends h.descends
  · exact hw.descends h.descends'
  · intro a b hab
    rw [hv.size, hw.size]
    exact h.exist hab
  · intro a b hab
    rw [hv.kind, hw.kind]
    exact h.kind hab
  · intro a b hab
    rw [hv.parent?, hw.parent?]
    exact h.parent? hab
  · intro a b name hab hN
    rw [hv.own?, hw.own?]
    simp only [hcond hab name]
    split
    · exact hlike
    · exact h.meaning hab hN
  · intro a b name hab ha hN
    rw [hv.own?, hw.own?]
    simp only [hcond hab name]
    split
    · rfl
    · exact h.binds hab ha hN

/-- Scopes that are opened at once correspond. -/
theorem enter (h : Corresponds L N corr k k') (kind : ScopeKind) :
    ∃ corr', Corresponds L N corr' (k.enter kind) (k'.enter kind) := by
  let corr' : ScopeId → ScopeId → Prop := fun i j =>
    corr i j ∨ (i = k.scopes.size ∧ j = k'.scopes.size)
  have hold {i j : ScopeId} (hij : corr i j) : i ≠ k.scopes.size ∧ j ≠ k'.scopes.size :=
    ⟨(h.exist hij).1.ne, (h.exist hij).2.ne⟩
  have hfresh (t : ScopeTree) (name : String) : t.own? t.size name = none := by
    simp [ScopeTree.own?, t.get?_size]
  have hne : k.scopes.size ≠ ScopeTree.root := (Nat.ne_of_lt (h.exist h.root).1).symm
  refine ⟨corr', ?_, ?_, ⟨?_, ?_⟩, .inl h.root, .inr ⟨rfl, rfl⟩, ?_, ?_, ?_, ?_, ?_⟩
  · exact h.descends.create kind (h.exist h.current).1
  · exact h.descends'.create kind (h.exist h.current).2
  · rintro a b c (hac | ⟨rfl, rfl⟩) (hbc | ⟨rfl, hc⟩)
    · exact h.unique.1 hac hbc
    · exact absurd hc (hold hac).2
    · exact absurd rfl (hold hbc).2
    · rfl
  · rintro a b c (hab | ⟨rfl, rfl⟩) (hac | ⟨ha, rfl⟩)
    · exact h.unique.2 hab hac
    · exact absurd ha (hold hab).1
    · exact absurd rfl (hold hac).1
    · rfl
  · rintro i j (hij | ⟨rfl, rfl⟩)
    · simp only [Tracker.enter, ScopeTree.size_create]
      exact ⟨Nat.lt_succ_of_lt (h.exist hij).1, Nat.lt_succ_of_lt (h.exist hij).2⟩
    · simp only [Tracker.enter, ScopeTree.size_create]
      exact ⟨Nat.lt_succ_self _, Nat.lt_succ_self _⟩
  · rintro i j (hij | ⟨rfl, rfl⟩)
    · simp only [Tracker.enter, ScopeTree.kind_create, if_neg (hold hij).1, if_neg (hold hij).2]
      exact h.kind hij
    · simp only [Tracker.enter, ScopeTree.kind_create, if_true]
  · rintro i j (hij | ⟨rfl, rfl⟩)
    · simp only [Tracker.enter, ScopeTree.parent?_create, if_neg (hold hij).1, if_neg (hold hij).2]
      rcases h.parent?_cases hij with ⟨ha, hb⟩ | ⟨a, b, ha, hb, hab⟩
      · rw [ha, hb]
        exact .none
      · rw [ha, hb]
        exact .some (.inl hab)
    · simp only [Tracker.enter, ScopeTree.parent?_create, if_true]
      exact .some (.inl h.current)
  · rintro i j name (hij | ⟨rfl, rfl⟩) hN
    · simp only [Tracker.enter, ScopeTree.own?_create]
      exact h.meaning hij hN
    · simp only [Tracker.enter, ScopeTree.own?_create, hfresh]
      exact L.unbound
  · rintro i j name (hij | ⟨rfl, rfl⟩) hi hN
    · simp only [Tracker.enter, ScopeTree.own?_create]
      exact h.binds hij hi hN
    · simp only [Tracker.enter, ScopeTree.own?_create, hfresh]

theorem leave (h : Corresponds L N corr k k') : Corresponds L N corr k.leave k'.leave := by
  unfold Tracker.leave
  rcases h.parent?_cases h.current with ⟨ha, hb⟩ | ⟨a, b, ha, hb, hab⟩
  · rw [ha, hb]
    exact h
  · rw [ha, hb]
    exact ⟨h.descends, h.descends', h.unique, h.root, hab, h.exist, h.kind, h.parent?, h.meaning, h.binds⟩

/-- At the global scopes, trackers correspond if the names mean the like there. -/
theorem of_root (hk : k.scopes.WellFormed) (hk' : k'.scopes.WellFormed)
    (hcurrent : k.current = ScopeTree.root) (hcurrent' : k'.current = ScopeTree.root)
    (hmeaning : ∀ name, N name →
      L.meaning (k.scopes.own? ScopeTree.root name) (k'.scopes.own? ScopeTree.root name)) :
    Corresponds L N (fun i j => i = ScopeTree.root ∧ j = ScopeTree.root) k k' where
  descends := hk.descends
  descends' := hk'.descends
  unique := ⟨fun _ _ _ h h' => h.1.trans h'.1.symm, fun _ _ _ h h' => h.2.trans h'.2.symm⟩
  root := ⟨rfl, rfl⟩
  current := ⟨hcurrent, hcurrent'⟩
  exist := by
    rintro _ _ ⟨rfl, rfl⟩
    exact ⟨hk.root_lt, hk'.root_lt⟩
  kind := by
    rintro _ _ ⟨rfl, rfl⟩
    rw [hk.root_kind, hk'.root_kind]
  parent? := by
    rintro _ _ ⟨rfl, rfl⟩
    rw [hk.root_parent, hk'.root_parent]
    exact .none
  meaning := by
    rintro _ _ name ⟨rfl, rfl⟩ hname
    exact hmeaning name hname
  binds := by
    rintro i _ name ⟨hi, -⟩ hne
    exact absurd hi hne

end Tracker.Corresponds

namespace WalkState

/-- States of two walks with the same steps behind them since scopes corresponded. -/
structure Corresponds (L : Likeness p p') (N : String → Prop) (s s' : WalkState) : Prop where
  tracker : ∃ corr, s.tracker.Corresponds L N corr s'.tracker
  pending : List.Forall₂ L.note s.pending s'.pending

namespace Corresponds

variable {s s' : WalkState}

theorem latest (h : Corresponds L N s s') : L.note s.latest s'.latest := by
  unfold WalkState.latest
  obtain ⟨-, hpending⟩ := h
  generalize s.pending = notes at hpending
  generalize s'.pending = notes' at hpending
  cases hpending with
  | nil => exact L.clean
  | cons hnote _ => simpa using hnote

theorem lookup? (h : Corresponds L N s s') {name : String} (hname : N name) :
    L.meaning (s.tracker.lookup? name) (s'.tracker.lookup? name) := by
  obtain ⟨corr, hcorr⟩ := h.tracker
  exact hcorr.lookup? hcorr.current hname

/-- What is read alike depends on the names that are read. -/
theorem reading (h : Corresponds L N s s') {e : Script.Expr} (he : ∀ name ∈ e.reads, N name) :
    L.reading (s.reading p e) (s'.reading p' e) :=
  e.reading_related L.reading_related fun name hname => L.readName name (h.lookup? (he name hname))

theorem declare (h : Corresponds L N s s') (target : BindTarget) (name : String) :
    ∃ corr, (s.declare target name s.latest).tracker.Corresponds L N corr
      (s'.declare target name s'.latest).tracker := by
  obtain ⟨corr, hcorr⟩ := h.tracker
  have hscope := hcorr.scopeOf target
  have hexist := hcorr.exist hscope
  exact ⟨corr, hcorr.write hscope (isWrite_declare hexist.1 name s.latest)
    (isWrite_declare hexist.2 name s'.latest) rfl (L.declared name h.latest)⟩

theorem assign (h : Corresponds L N s s') (plain : Bool) {name : String} (hname : N name) :
    ∃ corr, (s.assign plain name s.latest).tracker.Corresponds L N corr
      (s'.assign plain name s'.latest).tracker := by
  obtain ⟨corr, hcorr⟩ := h.tracker
  have hwrite := hcorr.write (hcorr.ownerOf hcorr.current hname)
    (isWrite_assign (hcorr.exist hcorr.root).1 plain name s.latest)
    (isWrite_assign (hcorr.exist hcorr.root).2 plain name s'.latest) (by simp)
    (L.assigned name plain (hcorr.lookup? hcorr.current hname) h.latest)
  rw [← s.assign_current plain name s.latest, ← s'.assign_current plain name s'.latest] at hwrite
  exact ⟨corr, hwrite⟩

/-- Walks that correspond do so after each step whose names are among those with like meanings. -/
theorem step (h : Corresponds L N s s') {st : Step} (hreads : ∀ name ∈ st.reads, N name)
    (hwrites : ∀ name ∈ st.writes, N name) : Corresponds L N (s.step p st) (s'.step p' st) := by
  refine ⟨?_, ?_⟩
  · rw [step_tracker, step_tracker]
    cases st with
    | enter kind =>
      obtain ⟨corr, hcorr⟩ := h.tracker
      exact hcorr.enter kind
    | leave =>
      obtain ⟨corr, hcorr⟩ := h.tracker
      exact ⟨corr, hcorr.leave⟩
    | declare target name => exact h.declare target name
    | assign plain name => exact h.assign plain (hwrites name (.head _))
    | clean | note _ | noteDefault _ | forget | checkCall _ _ | checkAssign _ _ | checkProperty _ _ =>
      exact h.tracker
  · rw [step_pending, step_pending]
    cases st with
    | clean => exact .cons L.clean h.pending
    | note e => exact .cons (L.origin (h.reading hreads)) h.pending
    | noteDefault e => exact .cons (L.or h.latest (L.origin (h.reading hreads))) h.pending
    | forget => simpa only [List.drop_one] using List.forall₂_drop 1 h.pending
    | enter _ | leave | declare _ _ | assign _ _ | checkCall _ _ | checkAssign _ _ | checkProperty _ _ =>
      exact h.pending

theorem run {steps : List Step} (h : Corresponds L N s s')
    (hreads : ∀ st ∈ steps, ∀ name ∈ st.reads, N name)
    (hwrites : ∀ st ∈ steps, ∀ name ∈ st.writes, N name) :
    Corresponds L N (s.run p steps) (s'.run p' steps) := by
  induction steps generalizing s s' with
  | nil => exact h
  | cons st steps ih =>
    exact ih (h.step (hreads st (.head _)) (hwrites st (.head _)))
      (fun st' hst' => hreads st' (.tail _ hst')) (fun st' hst' => hwrites st' (.tail _ hst'))

end Corresponds

/-- Where the same is noted and read, a step finds all that it finds with fewer sinks. -/
theorem found_sublist {s s' : WalkState} (hsinks : ∀ path, p.isSink path = true → p'.isSink path = true)
    (hlatest : s.latest = s'.latest) {st : Step}
    (hreading : ∀ e : Script.Expr, e.reads ⊆ st.reads → s.reading p e = s'.reading p' e) :
    (s.found p st).Sublist (s'.found p' st) := by
  have hflow (kind : FlowKind) (sink : String) (e : Script.Expr) (he : e.reads ⊆ st.reads) :
      s.flow? p kind sink e = s'.flow? p' kind sink e := by
    rw [flow?, flow?, hreading e he]
  have hcheck {sink sink' : String} (h : (p.isSink sink || p.isSink sink') = true) :
      (p'.isSink sink || p'.isSink sink') = true := by
    rw [Bool.or_eq_true] at h ⊢
    exact h.imp (hsinks _) (hsinks _)
  cases st with
  | checkCall callee args =>
    simp only [found]
    split
    next h =>
      rw [if_pos (hcheck h)]
      have hargs : args.filterMap (s.flow? p .call callee) = args.filterMap (s'.flow? p' .call callee) :=
        List.filterMap_congr fun e he => hflow .call callee e fun name hname => List.mem_flatMap.mpr ⟨e, he, hname⟩
      rw [hargs]
    next => exact List.nil_sublist _
  | checkAssign target value =>
    simp only [found, hlatest]
    refine List.Sublist.append ?_ (List.Sublist.refl _)
    split
    next h => rw [if_pos (hcheck h)]
    next => exact List.nil_sublist _
  | checkProperty key value =>
    simp only [found, hflow .property key value (List.Subset.refl _)]
    exact List.Sublist.refl _
  | enter _ | leave | clean | note _ | noteDefault _ | forget | declare _ _ | assign _ _ =>
    exact List.Sublist.refl _

end WalkState

end DomFlow
