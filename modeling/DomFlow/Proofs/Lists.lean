import Mathlib.Data.List.Basic

/-! Facts on lists that the library lacks. -/

namespace DomFlow.Lists

variable {α β : Type}

/-- A piece of a list that is cut has members of the list only, and none at which it is cut. -/
theorem mem_of_mem_splitOnP {cut : α → Bool} {xs piece : List α} {x : α} (hpiece : piece ∈ xs.splitOnP cut)
    (hx : x ∈ piece) : x ∈ xs ∧ cut x = false := by
  induction xs generalizing piece with
  | nil => simp_all
  | cons y xs ih =>
    rw [List.splitOnP_cons_eq_if_modifyHead] at hpiece
    cases hcut : cut y with
    | true =>
      rw [hcut, if_pos rfl] at hpiece
      rcases List.mem_cons.mp hpiece with rfl | hpiece
      · cases hx
      · exact (ih hpiece hx).imp_left (List.mem_cons_of_mem y)
    | false =>
      obtain ⟨first, rest, hsplit⟩ := List.exists_cons_of_ne_nil (List.splitOnP_ne_nil cut xs)
      rw [hcut, if_neg Bool.false_ne_true, hsplit, List.modifyHead_cons] at hpiece
      rw [hsplit] at ih
      rcases List.mem_cons.mp hpiece with rfl | hpiece
      · rcases List.mem_cons.mp hx with rfl | hx
        · exact ⟨List.mem_cons_self, hcut⟩
        · exact (ih List.mem_cons_self hx).imp_left (List.mem_cons_of_mem y)
      · exact (ih (List.mem_cons_of_mem first hpiece) hx).imp_left (List.mem_cons_of_mem y)

/-- Members that contribute nothing may be left out. -/
theorem flatMap_filter_of_nil {xs : List α} {q : α → Bool} {f g : α → List β}
    (hkept : ∀ x ∈ xs, q x = true → f x = g x) (hout : ∀ x ∈ xs, q x = false → g x = []) :
    (xs.filter q).flatMap f = xs.flatMap g := by
  induction xs with
  | nil => rfl
  | cons x xs ih =>
    have hxs := ih (fun y hy => hkept y (by simp [hy])) (fun y hy => hout y (by simp [hy]))
    cases hq : q x with
    | true => simp [hq, hxs, hkept x (by simp) hq]
    | false => simp [hq, hxs, hout x (by simp) hq]

end DomFlow.Lists
