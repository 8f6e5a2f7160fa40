import DomFlow.Proofs.Scopes
import DomFlow.Scope.Tracker
import Mathlib.Data.List.Chain
import Mathlib.Data.List.Nodup

/-! # The scopes form a tree

Scopes know their parents and their children, and both are written at different moments. Whatever is done
to the scopes, parents have smaller indices than their children, so the way up from every scope ends at the
global one; and the children of a scope are those whose parent it is, in the order of their creation. -/

namespace DomFlow

namespace ScopeTree

variable {t : ScopeTree}

theorem lt_size_iff (t : ScopeTree) (i : ScopeId) : i < t.size ↔ (t.get? i).isSome = true := by
  simp [size, get?]

@[simp] theorem parent?_put (t : ScopeTree) (i : ScopeId) (v : Variable) (j : ScopeId) :
    (t.update i (·.put v)).parent? j = t.parent? j := by
  unfold parent?
  rw [get?_update]
  split
  · cases t.get? j <;> simp
  · rfl

@[simp] theorem kind_put (t : ScopeTree) (i : ScopeId) (v : Variable) (j : ScopeId) :
    (t.update i (·.put v)).kind j = t.kind j := by
  unfold kind
  rw [get?_update]
  split
  · cases t.get? j <;> simp
  · rfl

@[simp] theorem children_put (t : ScopeTree) (i : ScopeId) (v : Variable) (j : ScopeId) :
    (t.update i (·.put v)).children j = t.children j := by
  unfold children
  rw [get?_update]
  split
  · cases t.get? j <;> simp
  · rfl

theorem get?_size (t : ScopeTree) : t.get? t.size = none := by
  simp [size, get?]

theorem parent?_create (t : ScopeTree) (kind : ScopeKind) (parent j : ScopeId) :
    (t.create kind parent).1.parent? j = if j = t.size then some parent else t.parent? j := by
  unfold parent?
  rw [get?_create, get?_update]
  split
  · rfl
  · split
    · cases t.get? j <;> rfl
    · rfl

theorem kind_create (t : ScopeTree) (kind : ScopeKind) (parent j : ScopeId) :
    (t.create kind parent).1.kind j = if j = t.size then kind else t.kind j := by
  unfold ScopeTree.kind
  rw [get?_create, get?_update]
  split
  · rfl
  · split
    · cases t.get? j <;> rfl
    · rfl

@[simp] theorem vars_create (t : ScopeTree) (kind : ScopeKind) (parent j : ScopeId) :
    (t.create kind parent).1.vars j = t.vars j := by
  unfold vars
  rw [get?_create, get?_update]
  split
  next h => simp [h, get?_size]
  next =>
    split
    · cases t.get? j <;> rfl
    · rfl

@[simp] theorem own?_create (t : ScopeTree) (kind : ScopeKind) (parent j : ScopeId) (name : String) :
    (t.create kind parent).1.own? j name = t.own? j name := by
  unfold own?
  rw [get?_create, get?_update]
  split
  next h => simp [h, get?_size, Scope.var?]
  next =>
    split
    · cases t.get? j <;> rfl
    · rfl

theorem children_create (kind : ScopeKind) {parent : ScopeId} (hparent : parent < t.size) (j : ScopeId) :
    (t.create kind parent).1.children j =
      if parent = j then t.children j ++ [t.size] else t.children j := by
  unfold children
  rw [get?_create, get?_update]
  by_cases hj : j = t.size
  · have hne : parent ≠ j := hj ▸ hparent.ne
    simp [hj, get?_size, hj ▸ hne]
  · rw [if_neg hj]
    split
    next h =>
      obtain ⟨scope, hscope⟩ := Option.isSome_iff_exists.mp ((t.lt_size_iff j).mp (h ▸ hparent))
      simp [hscope]
    next => rfl

/-- The trees that can be built: a scope is added below one that exists. -/
inductive Reachable : ScopeTree → Prop
  | empty : Reachable empty
  | create {t : ScopeTree} (h : Reachable t) (kind : ScopeKind) {parent : ScopeId}
      (hparent : parent < t.size) : Reachable (t.create kind parent).1
  | define {t : ScopeTree} (h : Reachable t) (i : ScopeId) (name : String) : Reachable (t.define i name)
  | taint {t : ScopeTree} (h : Reachable t) (i : ScopeId) (name origin : String) :
      Reachable (t.taint i name origin)
  | untaint {t : ScopeTree} (h : Reachable t) (i : ScopeId) (name : String) :
      Reachable (t.untaint i name)

/-- Links that agree with each other, and names that are bound once in each scope. -/
structure WellFormed (t : ScopeTree) : Prop where
  root_lt : root < t.size
  root_kind : t.kind root = .global
  root_parent : t.parent? root = none
  parent_lt : ∀ i : Nat, i < t.size → i ≠ root → ∃ j : Nat, j < i ∧ t.parent? i = some j
  children_eq : ∀ i, t.children i = (List.range t.size).filter fun j => t.parent? j = some i
  names_nodup : ∀ i, ((t.vars i).map (·.name)).Nodup

theorem wellFormed_empty : WellFormed empty where
  root_lt := by decide
  root_kind := rfl
  root_parent := rfl
  parent_lt i hi hroot := by
    have hsize : empty.size = 1 := rfl
    have hzero : i = 0 := by omega
    exact absurd hzero hroot
  children_eq i := by
    cases i with
    | zero => rfl
    | succ i => simp [children, get?, empty, size, parent?, List.range_succ]
  names_nodup i := by
    cases i with
    | zero => simp [vars, get?, empty]
    | succ i => simp [vars, get?, empty]

end ScopeTree

namespace Scope

theorem names_put_nodup {s : Scope} (h : (s.vars.map (·.name)).Nodup) (v : Variable) :
    ((s.put v).vars.map (·.name)).Nodup := by
  unfold put
  split
  · have hnames : (s.vars.map fun w => if w.name = v.name then v else w).map (·.name) =
        s.vars.map (·.name) := by
      rw [List.map_map]
      refine List.map_congr_left fun w _ => ?_
      by_cases hw : w.name = v.name
      · simp [hw]
      · simp [hw]
    rw [hnames]
    exact h
  next hnew =>
    have hfresh : v.name ∉ s.vars.map (·.name) := by
      simpa [binds, var?] using hnew
    simp only [List.map_append, List.map_cons, List.map_nil]
    exact (List.perm_append_singleton _ _).nodup_iff.mpr (List.nodup_cons.mpr ⟨hfresh, h⟩)

end Scope

namespace ScopeTree

variable {t : ScopeTree}

theorem WellFormed.put (h : t.WellFormed) (i : ScopeId) (v : Variable) :
    (t.update i (·.put v)).WellFormed where
  root_lt := by simpa using h.root_lt
  root_kind := by simpa using h.root_kind
  root_parent := by simpa using h.root_parent
  parent_lt := by simpa using h.parent_lt
  children_eq := by simpa using h.children_eq
  names_nodup j := by
    have hj := h.names_nodup j
    unfold vars at hj ⊢
    rw [get?_update]
    split
    · cases hscope : t.get? j with
      | none => simp
      | some scope =>
        rw [hscope] at hj
        exact Scope.names_put_nodup hj v
    · exact hj

theorem WellFormed.modifyVar (h : t.WellFormed) (i : ScopeId) (name : String) (f : Variable → Variable) :
    (t.modifyVar i name f).WellFormed := by
  rcases t.modifyVar_cases i name f with hsame | ⟨j, v, -, -, hput⟩
  · rwa [hsame]
  · rw [hput]
    exact h.put j _

theorem WellFormed.create (h : t.WellFormed) (kind : ScopeKind) {parent : ScopeId}
    (hparent : parent < t.size) : (t.create kind parent).1.WellFormed where
  root_lt := by
    rw [size_create]
    exact Nat.lt_succ_of_lt h.root_lt
  root_kind := by
    rw [kind_create, if_neg h.root_lt.ne]
    exact h.root_kind
  root_parent := by
    rw [parent?_create, if_neg h.root_lt.ne]
    exact h.root_parent
  parent_lt i hi hroot := by
    rw [parent?_create]
    rw [size_create] at hi
    split
    next hnew => exact ⟨parent, hnew ▸ hparent, rfl⟩
    next hold => exact h.parent_lt i (Nat.lt_of_le_of_ne (Nat.le_of_lt_succ hi) hold) hroot
  children_eq i := by
    rw [children_create kind hparent, h.children_eq i, size_create, List.range_succ, List.filter_append]
    have hold : ((List.range t.size).filter fun j => (t.create kind parent).1.parent? j = some i) =
        (List.range t.size).filter fun j => t.parent? j = some i := by
      refine List.filter_congr fun j hj => ?_
      rw [parent?_create, if_neg (List.mem_range.mp hj).ne]
    rw [hold]
    simp only [parent?_create, List.filter_cons, List.filter_nil]
    split
    next hi => simp [hi]
    next hi => simp [hi]
  names_nodup i := by simpa using h.names_nodup i

theorem Reachable.wellFormed (h : t.Reachable) : t.WellFormed := by
  induction h with
  | empty => exact wellFormed_empty
  | create _ kind hparent ih => exact ih.create kind hparent
  | define _ i name ih => exact ih.put i _
  | taint _ i name origin ih => exact ih.modifyVar i name _
  | untaint _ i name ih => exact ih.modifyVar i name _

/-- Parents have smaller indices. -/
def Descends (t : ScopeTree) : Prop := ∀ i j : Nat, t.parent? i = some j → j < i

theorem Descends.chain_eq (h : t.Descends) {fuel fuel' i : Nat} (hi : i < fuel) (hi' : i < fuel') :
    t.chain fuel i = t.chain fuel' i := by
  induction fuel generalizing fuel' i with
  | zero => omega
  | succ fuel ih =>
    obtain ⟨fuel', rfl⟩ : ∃ n, fuel' = n + 1 := ⟨fuel' - 1, by omega⟩
    rw [chain, chain]
    cases hp : t.parent? i with
    | none => rfl
    | some j =>
      have hj := h i j hp
      simp only [List.cons.injEq, true_and]
      exact ih (by omega) (by omega)

/-- The way up from a scope goes on with the way up from its parent. -/
theorem Descends.ancestors_eq (h : t.Descends) (i : ScopeId) :
    t.ancestors i = i :: ((t.parent? i).map t.ancestors).getD [] := by
  rw [ancestors, chain]
  cases hp : t.parent? i with
  | none => rfl
  | some j =>
    have hj := h i j hp
    simp only [Option.map_some, Option.getD_some, List.cons.injEq, true_and]
    exact h.chain_eq hj (Nat.lt_succ_self j)

theorem Descends.ancestors_of_parent (h : t.Descends) {i j : ScopeId} (hp : t.parent? i = some j) :
    t.ancestors i = i :: t.ancestors j := by
  rw [h.ancestors_eq, hp]
  rfl

theorem Descends.ancestors_of_no_parent (h : t.Descends) {i : ScopeId} (hp : t.parent? i = none) :
    t.ancestors i = [i] := by
  rw [h.ancestors_eq, hp]
  rfl

theorem Descends.ancestors_linked (h : t.Descends) (i : ScopeId) :
    (t.ancestors i).IsChain fun a b => t.parent? a = some b := by
  induction i using Nat.strong_induction_on with
  | _ i ih =>
    cases hp : t.parent? i with
    | none => simp [h.ancestors_of_no_parent hp]
    | some j =>
      have hj := ih j (h i j hp)
      rw [h.ancestors_of_parent hp]
      rw [h.ancestors_eq j] at hj ⊢
      exact .cons_cons hp hj

theorem Descends.ancestors_decreasing (h : t.Descends) (i : ScopeId) :
    (t.ancestors i).Pairwise (· > ·) :=
  ((h.ancestors_linked i).imp fun a b hab => h a b hab).pairwise

theorem Descends.le_of_mem_ancestors (h : t.Descends) {i j : Nat} (hj : j ∈ t.ancestors i) : j ≤ i := by
  have hdecreasing := h.ancestors_decreasing i
  rw [h.ancestors_eq] at hdecreasing hj
  rcases List.mem_cons.mp hj with rfl | hj
  · exact Nat.le_refl j
  · exact Nat.le_of_lt (List.rel_of_pairwise_cons hdecreasing hj)

theorem Descends.parent?_root (h : t.Descends) : t.parent? root = none := by
  cases hp : t.parent? root with
  | none => rfl
  | some j => exact absurd (h root j hp) (Nat.not_lt_zero j)

theorem Descends.resolve?_eq (h : t.Descends) (i : ScopeId) (name : String) :
    t.resolve? i name =
      if (t.own? i name).isSome then some i else (t.parent? i).bind (t.resolve? · name) := by
  unfold resolve?
  rw [h.ancestors_eq, List.find?_cons]
  cases (t.own? i name).isSome with
  | true => rfl
  | false => cases t.parent? i <;> rfl

/-- A name means what the scope itself binds it to, or else what it means in the parent. -/
theorem Descends.lookup?_eq (h : t.Descends) (i : ScopeId) (name : String) :
    t.lookup? i name = (t.own? i name).or ((t.parent? i).bind (t.lookup? · name)) := by
  unfold lookup?
  rw [h.resolve?_eq]
  cases hv : t.own? i name with
  | some v => simp [hv]
  | none =>
    cases t.parent? i with
    | none => rfl
    | some j => simp

theorem Descends.functionScope_eq (h : t.Descends) (i : ScopeId) :
    t.functionScope i =
      if t.kind i = .block then ((t.parent? i).map t.functionScope).getD root else i := by
  unfold functionScope
  rw [h.ancestors_eq, List.find?_cons]
  by_cases hk : t.kind i = .block
  · cases t.parent? i <;> simp [hk]
  · simp [hk]

theorem WellFormed.lt_size_of_parent? (_h : t.WellFormed) {i j : Nat} (hp : t.parent? i = some j) :
    i < t.size := by
  obtain ⟨scope, hscope, -⟩ := Option.bind_eq_some_iff.mp hp
  rw [lt_size_iff, hscope]
  rfl

theorem WellFormed.descends (h : t.WellFormed) : t.Descends := by
  intro i j hp
  have hroot : i ≠ root := by
    rintro rfl
    rw [h.root_parent] at hp
    cases hp
  obtain ⟨k, hk, hp'⟩ := h.parent_lt i (h.lt_size_of_parent? hp) hroot
  obtain rfl : j = k := Option.some.inj (hp.symm.trans hp')
  exact hk

theorem WellFormed.parent?_eq_none_iff (h : t.WellFormed) {i : Nat} (hi : i < t.size) :
    t.parent? i = none ↔ i = root := by
  constructor
  · intro hp
    by_contra hroot
    obtain ⟨j, -, hj⟩ := h.parent_lt i hi hroot
    rw [hp] at hj
    cases hj
  · rintro rfl
    exact h.root_parent

theorem WellFormed.getLast?_ancestors (h : t.WellFormed) {i : Nat} (hi : i < t.size) :
    (t.ancestors i).getLast? = some root := by
  induction i using Nat.strong_induction_on with
  | _ i ih =>
    cases hp : t.parent? i with
    | none =>
      obtain rfl := (h.parent?_eq_none_iff hi).mp hp
      rw [h.descends.ancestors_of_no_parent hp]
      rfl
    | some j =>
      have hj := h.descends i j hp
      have hlast := ih j hj (by omega)
      rw [h.descends.ancestors_of_parent hp]
      rw [h.descends.ancestors_eq j] at hlast ⊢
      rw [List.getLast?_cons_cons]
      exact hlast

theorem WellFormed.lt_size_of_mem_ancestors (h : t.WellFormed) {i j : Nat} (hi : i < t.size)
    (hj : j ∈ t.ancestors i) : j < t.size :=
  Nat.lt_of_le_of_lt (h.descends.le_of_mem_ancestors hj) hi

/-- The global scope is no block, so the search for the function around a scope ends there at the latest. -/
theorem WellFormed.exists_functionScope (h : t.WellFormed) {i : Nat} (hi : i < t.size) :
    ∃ j, ((t.ancestors i).find? fun j => t.kind j ≠ .block) = some j := by
  refine Option.isSome_iff_exists.mp (List.find?_isSome.mpr ⟨root, ?_, ?_⟩)
  · exact List.mem_of_getLast? (h.getLast?_ancestors hi)
  · simp [h.root_kind]

theorem WellFormed.count_children (h : t.WellFormed) (i j : ScopeId) :
    (t.children j).count i = if t.parent? i = some j then 1 else 0 := by
  have hnodup : (t.children j).Nodup := by
    rw [h.children_eq]
    exact List.nodup_range.filter _
  have hmem : i ∈ t.children j ↔ t.parent? i = some j := by
    rw [h.children_eq, List.mem_filter, List.mem_range, decide_eq_true_eq]
    exact and_iff_right_of_imp h.lt_size_of_parent?
  rw [hnodup.count]
  simp only [hmem]

theorem WellFormed.children_increasing (h : t.WellFormed) (i : ScopeId) :
    (t.children i).Pairwise (· < ·) := by
  rw [h.children_eq]
  exact List.pairwise_lt_range.filter _

theorem own?_eq_find? (t : ScopeTree) (i : ScopeId) (name : String) :
    t.own? i name = (t.vars i).find? (·.name = name) := by
  unfold own? vars Scope.var?
  cases t.get? i <;> rfl

/-- A scope has each of its variables under its name, and under no other. -/
theorem WellFormed.own?_eq_some_iff (h : t.WellFormed) {i : ScopeId} {name : String} {v : Variable} :
    t.own? i name = some v ↔ v ∈ t.vars i ∧ v.name = name := by
  rw [own?_eq_find?]
  constructor
  · intro hv
    exact ⟨List.mem_of_find?_eq_some hv, by simpa using List.find?_some hv⟩
  · rintro ⟨hmem, rfl⟩
    obtain ⟨w, hw⟩ : ∃ w, (t.vars i).find? (·.name = v.name) = some w :=
      Option.isSome_iff_exists.mp (List.find?_isSome.mpr ⟨v, hmem, by simp⟩)
    have hname : w.name = v.name := by simpa using List.find?_some hw
    rw [hw, List.inj_on_of_nodup_map (h.names_nodup i) (List.mem_of_find?_eq_some hw) hmem hname]

theorem lt_size_of_own? {i : Nat} {name : String} {v : Variable} (h : t.own? i name = some v) :
    i < t.size := by
  obtain ⟨scope, hscope, -⟩ := Option.bind_eq_some_iff.mp h
  rw [lt_size_iff, hscope]
  rfl

theorem lt_size_of_resolve? {i j : Nat} {name : String} (h : t.resolve? i name = some j) :
    j < t.size := by
  unfold resolve? at h
  have hown := List.find?_some h
  obtain ⟨v, hv⟩ := Option.isSome_iff_exists.mp hown
  exact lt_size_of_own? hv

@[simp] theorem size_modifyVar (t : ScopeTree) (i : ScopeId) (name : String) (f : Variable → Variable) :
    (t.modifyVar i name f).size = t.size := by
  rcases t.modifyVar_cases i name f with hsame | ⟨j, v, -, -, hput⟩
  · rw [hsame]
  · rw [hput, size_update]

/-- What is meant by scopes that form a tree and that can be read without looking up an index that is not
there. -/
structure IsTree (t : ScopeTree) : Prop where
  root_global : root < t.size ∧ t.kind root = .global
  /-- The global scope is the only one without a parent. -/
  parent_none : ∀ i < t.size, (t.parent? i = none ↔ i = root)
  /-- Only scopes that exist have a parent, which exists too and has a smaller index. -/
  parent_some : ∀ i j : Nat, t.parent? i = some j → j < i ∧ i < t.size
  /-- A scope is once among the children of its parent, and not among those of any other. -/
  child_once : ∀ i j, (t.children j).count i = if t.parent? i = some j then 1 else 0
  /-- Indices grow in the order of creation. -/
  children_in_order : ∀ i, (t.children i).Pairwise (· < ·)
  ancestors_start : ∀ i < t.size, (t.ancestors i).head? = some i
  ancestors_follow : ∀ i < t.size, (t.ancestors i).IsChain fun a b => t.parent? a = some b
  ancestors_distinct : ∀ i < t.size, (t.ancestors i).Nodup
  ancestors_end : ∀ i < t.size, (t.ancestors i).getLast? = some root
  /-- A variable is found under its own name, and each name once. -/
  own_name : ∀ i name v, t.own? i name = some v ↔ v ∈ t.vars i ∧ v.name = name
  children_exist : ∀ i, ∀ j ∈ t.children i, (t.get? j).isSome = true
  ancestors_exist : ∀ i < t.size, ∀ j ∈ t.ancestors i, (t.get? j).isSome = true
  resolved_exist : ∀ i name j, t.resolve? i name = some j → (t.get? j).isSome = true
  /-- Every scope lies in one that is no block, or is one itself. -/
  function_found : ∀ i < t.size, ∃ j, ((t.ancestors i).find? fun j => t.kind j ≠ .block) = some j ∧
    t.functionScope i = j ∧ (t.get? j).isSome = true

theorem WellFormed.isTree (h : t.WellFormed) : t.IsTree where
  root_global := ⟨h.root_lt, h.root_kind⟩
  parent_none i hi := h.parent?_eq_none_iff hi
  parent_some i j hp := ⟨h.descends i j hp, h.lt_size_of_parent? hp⟩
  child_once := h.count_children
  children_in_order := h.children_increasing
  ancestors_start i _ := by rw [h.descends.ancestors_eq, List.head?_cons]
  ancestors_follow i _ := h.descends.ancestors_linked i
  ancestors_distinct i _ := (h.descends.ancestors_decreasing i).imp fun hab => ne_of_gt hab
  ancestors_end i hi := h.getLast?_ancestors hi
  own_name _ _ _ := h.own?_eq_some_iff
  children_exist i j hj := by
    rw [h.children_eq, List.mem_filter, List.mem_range] at hj
    exact (t.lt_size_iff j).mp hj.1
  ancestors_exist i hi j hj := (t.lt_size_iff j).mp (h.lt_size_of_mem_ancestors hi hj)
  resolved_exist i name j hj := (t.lt_size_iff j).mp (lt_size_of_resolve? hj)
  function_found i hi := by
    obtain ⟨j, hj⟩ := h.exists_functionScope hi
    have hlt : j < t.size := h.lt_size_of_mem_ancestors hi (List.mem_of_find?_eq_some hj)
    exact ⟨j, hj, by rw [functionScope, hj, Option.getD_some], (t.lt_size_iff j).mp hlt⟩

end ScopeTree

namespace Tracker

variable {k : Tracker}

/-- The trackers that can be reached by moving between scopes and writing to them. -/
inductive Reachable : Tracker → Prop
  | start : Reachable {}
  | enter {k : Tracker} (h : Reachable k) (kind : ScopeKind) : Reachable (k.enter kind)
  | leave {k : Tracker} (h : Reachable k) : Reachable k.leave
  | define {k : Tracker} (h : Reachable k) (name : String) : Reachable (k.define name)
  | defineInFunction {k : Tracker} (h : Reachable k) (name : String) : Reachable (k.defineInFunction name)
  | defineGlobal {k : Tracker} (h : Reachable k) (name : String) : Reachable (k.defineGlobal name)
  | taint {k : Tracker} (h : Reachable k) (name origin : String) : Reachable (k.taint name origin)
  | untaint {k : Tracker} (h : Reachable k) (name : String) : Reachable (k.untaint name)

/-- A tracker over a tree that can be built, at one of its scopes. -/
structure Placed (k : Tracker) : Prop where
  scopes : k.scopes.Reachable
  current_lt : k.current < k.scopes.size

theorem Placed.enter (h : k.Placed) (kind : ScopeKind) : (k.enter kind).Placed where
  scopes := h.scopes.create kind h.current_lt
  current_lt := by
    simp only [Tracker.enter, ScopeTree.size_create]
    exact Nat.lt_succ_self _

theorem Placed.leave (h : k.Placed) : k.leave.Placed := by
  unfold Tracker.leave
  split
  next j hj =>
    have hlt : j < k.current := h.scopes.wellFormed.descends k.current j hj
    exact ⟨h.scopes, hlt.trans h.current_lt⟩
  next => exact h

/-- A change of the tree that makes no scope leaves the tracker where it is. -/
theorem Placed.write (h : k.Placed) {t : ScopeTree} (ht : t.Reachable) (hsize : t.size = k.scopes.size) :
    ({ k with scopes := t } : Tracker).Placed :=
  ⟨ht, hsize ▸ h.current_lt⟩

theorem Reachable.placed (h : k.Reachable) : k.Placed := by
  induction h with
  | start => exact ⟨.empty, by decide⟩
  | enter _ kind ih => exact ih.enter kind
  | leave _ ih => exact ih.leave
  | define _ name ih | defineInFunction _ name ih | defineGlobal _ name ih =>
    exact ih.write (ih.scopes.define _ name) (ScopeTree.size_update _ _ _)
  | taint _ name origin ih =>
    exact ih.write (ih.scopes.taint _ name origin) (ScopeTree.size_modifyVar _ _ _ _)
  | untaint _ name ih =>
    exact ih.write (ih.scopes.untaint _ name) (ScopeTree.size_modifyVar _ _ _ _)

/-- Whatever is done to the scopes, directly or through a tracker, they form a tree, and the tracker is at
one of them. -/
theorem scopes_form_tree :
    (∀ t : ScopeTree, t.Reachable → t.IsTree) ∧
    ∀ k : Tracker, k.Reachable →
      k.scopes.Reachable ∧ k.scopes.IsTree ∧ (k.scopes.get? k.current).isSome = true := by
  refine ⟨fun t h => h.wellFormed.isTree, fun k h => ?_⟩
  have hplaced := h.placed
  exact ⟨hplaced.scopes, hplaced.scopes.wellFormed.isTree,
    (k.scopes.lt_size_iff k.current).mp hplaced.current_lt⟩

/-- Two blocks in a function, the first of which has been left, with a variable that belongs to the
function. -/
def inSecondBlock : Tracker :=
  ((((({} : Tracker).enter .function).enter .block).leave.enter .block).defineInFunction "x").taint "x"
    "location.hash"

theorem scopes_form_tree_inSecondBlock :
    inSecondBlock.Reachable ∧ inSecondBlock.scopes.IsTree ∧
      inSecondBlock.scopes.children 1 = [2, 3] ∧ inSecondBlock.scopes.ancestors 3 = [3, 1, 0] := by
  have hreachable : inSecondBlock.Reachable :=
    .taint (.defineInFunction (.enter (.leave (.enter (.enter .start _) _)) _) _) _ _
  exact ⟨hreachable, scopes_form_tree.1 _ (scopes_form_tree.2 _ hreachable).1, by decide, by decide⟩

end Tracker

end DomFlow
