/-! # Entries under keys

Folders, tables and objects are lists of entries under keys. An entry is looked up by the first place of its
key, set in that place or as the last one, and entries are sorted by their keys. -/

namespace DomFlow.Assoc

variable {α : Type} {key : String} {v : α} {es : List (String × α)}

/-- Sets the entry of a key, in its place or as the last one. -/
def set (key : String) (v : α) : List (String × α) → List (String × α)
  | [] => [(key, v)]
  | (k, w) :: r => if k == key then (k, v) :: r else (k, w) :: set key v r

def inOrder (es : List (String × α)) : List (String × α) := es.mergeSort fun a b => decide (a.1 ≤ b.1)

/-- An entry that is set keeps its place among the keys, or comes last if it is new. -/
theorem keys_set (key : String) (v : α) (es : List (String × α)) :
    (set key v es).map Prod.fst = if key ∈ es.map Prod.fst then es.map Prod.fst else es.map Prod.fst ++ [key] := by
  induction es with
  | nil => simp [set]
  | cons e es ih =>
    rw [set]
    by_cases hkey : e.1 = key
    · simp [hkey]
    · simp only [beq_iff_eq, hkey, if_false, List.map_cons, ih, List.mem_cons, Ne.symm hkey, false_or]
      split <;> rfl

theorem nodup_keys_set (h : (es.map Prod.fst).Nodup) (key : String) (v : α) : ((set key v es).map Prod.fst).Nodup := by
  rw [keys_set]
  split
  · exact h
  next hnew =>
    rw [List.nodup_append]
    refine ⟨h, by simp, ?_⟩
    intro a ha b hb
    rw [List.mem_singleton.mp hb]
    exact fun heq => hnew (heq ▸ ha)

theorem mem_set {e : String × α} (he : e ∈ set key v es) : e ∈ es ∨ e.2 = v := by
  induction es with
  | nil =>
    obtain rfl : e = (key, v) := by simpa [set] using he
    exact .inr rfl
  | cons first es ih =>
    rw [set] at he
    split at he
    · rcases List.mem_cons.mp he with rfl | he
      · exact .inr rfl
      · exact .inl (List.mem_cons_of_mem _ he)
    · rcases List.mem_cons.mp he with rfl | he
      · exact .inl List.mem_cons_self
      · exact (ih he).imp_left (List.mem_cons_of_mem _)

theorem set_of_notMem (v : α) (h : key ∉ es.map Prod.fst) : set key v es = es ++ [(key, v)] := by
  induction es with
  | nil => rfl
  | cons e es ih =>
    simp only [List.map_cons, List.mem_cons, not_or] at h
    rw [set, ih h.2]
    simp [Ne.symm h.1]

theorem inOrder_perm (es : List (String × α)) : (inOrder es).Perm es := List.mergeSort_perm es _

theorem mem_inOrder {e : String × α} : e ∈ inOrder es ↔ e ∈ es := (inOrder_perm es).mem_iff

theorem inOrder_sorted (hkeys : (es.map Prod.fst).Nodup) : (inOrder es).Pairwise fun a b => a.1 < b.1 := by
  have hle : (inOrder es).Pairwise fun a b => decide (a.1 ≤ b.1) = true := by
    apply List.pairwise_mergeSort
    · intro a b c hab hbc
      simp only [decide_eq_true_eq] at hab hbc ⊢
      exact String.le_trans hab hbc
    · intro a b
      simpa using String.le_total a.1 b.1
  have hne : (inOrder es).Pairwise fun a b => a.1 ≠ b.1 :=
    List.pairwise_map.mp (((inOrder_perm es).map Prod.fst).nodup_iff.mpr hkeys)
  refine (hle.and hne).imp fun {a b} h => ?_
  rw [← String.not_le]
  exact fun hba => h.2 (String.le_antisymm (by simpa using h.1) hba)

/-- Leaving out entries keeps the order of the others. -/
theorem inOrder_filter (hkeys : (es.map Prod.fst).Nodup) (p : String × α → Bool) :
    inOrder (es.filter p) = (inOrder es).filter p := by
  have hkeys' : ((es.filter p).map Prod.fst).Nodup := hkeys.sublist (List.filter_sublist.map Prod.fst)
  have hperm : (inOrder (es.filter p)).Perm ((inOrder es).filter p) :=
    (inOrder_perm _).trans ((inOrder_perm es).filter p).symm
  apply hperm.eq_of_pairwise _ (inOrder_sorted hkeys') ((inOrder_sorted hkeys).filter p)
  intro a b _ _ hab hba
  exact absurd (String.lt_trans hab hba) (String.lt_irrefl _)

theorem inOrder_map {β : Type} (f : String × α → β) :
    inOrder (es.map fun e => (e.1, f e)) = (inOrder es).map fun e => (e.1, f e) := by
  symm
  apply List.map_mergeSort
  intro a _ b _
  rfl

theorem keys_inOrder (es : List (String × α)) :
    (inOrder es).map Prod.fst = (es.map Prod.fst).mergeSort fun a b => decide (a ≤ b) := by
  apply List.map_mergeSort
  intro a _ b _
  rfl

theorem lookup_cons (key : String) (v : α) (es : List (String × α)) (k : String) :
    ((key, v) :: es).lookup k = if k = key then some v else es.lookup k := by
  rw [List.lookup_cons]
  by_cases hk : k = key
  · rw [beq_iff_eq.mpr hk, if_pos hk]
  · rw [beq_eq_false_iff_ne.mpr hk, if_neg hk]

theorem lookup_set (key : String) (v : α) (es : List (String × α)) (k : String) :
    (set key v es).lookup k = if k = key then some v else es.lookup k := by
  induction es with
  | nil => exact lookup_cons key v [] k
  | cons e es ih =>
    obtain ⟨first, w⟩ := e
    rw [set, lookup_cons]
    by_cases hkey : first = key
    · rw [if_pos (beq_iff_eq.mpr hkey), lookup_cons, hkey]
      by_cases hk : k = key <;> simp [hk]
    · rw [if_neg (mt beq_iff_eq.mp hkey), lookup_cons, ih]
      by_cases hk : k = first <;> simp [hk, hkey]

/-- With distinct keys, a lookup finds every entry. -/
theorem lookup_eq_some_iff (hkeys : (es.map Prod.fst).Nodup) : es.lookup key = some v ↔ (key, v) ∈ es := by
  rw [List.lookup_eq_some_iff]
  constructor
  · rintro ⟨front, back, rfl, -⟩
    simp
  · intro hmem
    obtain ⟨front, back, rfl⟩ := List.append_of_mem hmem
    refine ⟨front, back, rfl, ?_⟩
    intro e he
    rw [List.map_append, List.nodup_append] at hkeys
    have hne := hkeys.2.2 e.1 (List.mem_map_of_mem he) key (by simp)
    simpa using Ne.symm hne

theorem lookup_inOrder (hkeys : (es.map Prod.fst).Nodup) (k : String) : (inOrder es).lookup k = es.lookup k := by
  have hkeys' : ((inOrder es).map Prod.fst).Nodup := ((inOrder_perm es).map Prod.fst).nodup_iff.mpr hkeys
  ext v
  rw [lookup_eq_some_iff hkeys', lookup_eq_some_iff hkeys, mem_inOrder]

end DomFlow.Assoc
