import DomFlow.Scope.Tracker

/-! # Writes to the tree of scopes

Every change of a variable puts one variable into one scope. Reads after a write are given by the index of
the scope, and a property of all variables is kept if the variable that is put in has it. -/

namespace DomFlow

def Variable.declared (name : String) (taint : Option String) : Variable :=
  { name, tainted := taint.isSome, origin := taint.getD "" }

namespace Scope

@[simp] theorem put_kind (s : Scope) (v : Variable) : (s.put v).kind = s.kind := by
  unfold put
  split <;> rfl

@[simp] theorem put_parent (s : Scope) (v : Variable) : (s.put v).parent = s.parent := by
  unfold put
  split <;> rfl

@[simp] theorem put_children (s : Scope) (v : Variable) : (s.put v).children = s.children := by
  unfold put
  split <;> rfl

theorem mem_put {s : Scope} {v w : Variable} (h : w ∈ (s.put v).vars) : w = v ∨ w ∈ s.vars := by
  unfold put at h
  split at h
  · obtain ⟨u, hu, rfl⟩ := List.mem_map.mp h
    split
    · exact .inl rfl
    · exact .inr hu
  · simpa [or_comm] using h

theorem mem_of_var? {s : Scope} {name : String} {v : Variable} (h : s.var? name = some v) :
    v ∈ s.vars :=
  List.mem_of_find?_eq_some h

theorem find?_replace (vs : List Variable) (v : Variable) (name : String) :
    (vs.map fun w => if w.name = v.name then v else w).find? (·.name = name) =
      if name = v.name then (vs.find? (·.name = name)).map fun _ => v else vs.find? (·.name = name) := by
  induction vs with
  | nil => simp
  | cons w vs ih => grind

/-- After a write the name that was written means what was written, and all others what they meant. -/
theorem var?_put (s : Scope) (v : Variable) (name : String) :
    (s.put v).var? name = if name = v.name then some v else s.var? name := by
  unfold put
  split
  next h =>
    rw [var?, find?_replace]
    split
    next hname =>
      obtain ⟨w, hw⟩ := Option.isSome_iff_exists.mp h
      rw [hname, show s.vars.find? (·.name = v.name) = some w from hw]
      rfl
    next => rfl
  next h =>
    have hnone : s.vars.find? (·.name = v.name) = none := Option.not_isSome_iff_eq_none.mp h
    by_cases hname : name = v.name
    · simp [var?, hname, hnone]
    · simp [var?, hname, Ne.symm hname]

theorem binds_put (s : Scope) (v : Variable) : (s.put v).binds v.name = true := by
  simp [binds, var?_put]

/-- Of two writes to one name the second counts. -/
theorem put_put (s : Scope) {v w : Variable} (h : v.name = w.name) : (s.put v).put w = s.put w := by
  have hbinds : (s.put v).binds w.name = true := h ▸ s.binds_put v
  rw [put, if_pos hbinds]
  unfold put
  rw [h]
  split
  · simp only [List.map_map]
    congr 2
    funext u
    by_cases hu : u.name = w.name <;> simp [hu, h]
  next hnot =>
    have hfresh : ∀ u ∈ s.vars, u.name ≠ w.name := by
      simpa [binds, var?] using hnot
    have hmap : s.vars.map (fun u => if u.name = w.name then w else u) = s.vars :=
      (List.map_congr_left fun u hu => if_neg (hfresh u hu)).trans (List.map_id' s.vars)
    simp [h, hmap]

end Scope

namespace ScopeTree

theorem get?_update (t : ScopeTree) (i j : ScopeId) (f : Scope → Scope) :
    (t.update i f).get? j = if i = j then (t.get? j).map f else t.get? j := by
  simp [update, get?, Array.getElem?_modify]

@[simp] theorem size_update (t : ScopeTree) (i : ScopeId) (f : Scope → Scope) :
    (t.update i f).size = t.size := by
  simp [update, size]

/-- A new scope is the last one; of the others only the parent is changed. -/
theorem get?_create (t : ScopeTree) (kind : ScopeKind) (parent j : ScopeId) :
    (t.create kind parent).1.get? j =
      if j = t.size then some { kind, parent := some parent }
      else (t.update parent fun s => { s with children := s.children ++ [t.size] }).get? j := by
  simp only [create, get?, Array.getElem?_push, update, Array.size_modify]
  rfl

@[simp] theorem size_create (t : ScopeTree) (kind : ScopeKind) (parent : ScopeId) :
    (t.create kind parent).1.size = t.size + 1 := by
  simp [create, size, update]

theorem own?_of_lookup? {t : ScopeTree} {i : ScopeId} {name : String} {v : Variable}
    (h : t.lookup? i name = some v) : ∃ j, t.resolve? i name = some j ∧ t.own? j name = some v :=
  Option.bind_eq_some_iff.mp h

/-- Changing the variable that a name means either does nothing or puts the changed variable where the
name is bound. -/
theorem modifyVar_cases (t : ScopeTree) (i : ScopeId) (name : String) (f : Variable → Variable) :
    t.modifyVar i name f = t ∨ ∃ j v, t.resolve? i name = some j ∧ t.own? j name = some v ∧
      t.modifyVar i name f = t.update j fun s => s.put { f v with name } := by
  unfold modifyVar
  split
  next j v hj hv =>
    obtain ⟨j', hj', hown⟩ := own?_of_lookup? hv
    obtain rfl : j = j' := Option.some.inj (hj.symm.trans hj')
    exact .inr ⟨j, v, hj, hown, rfl⟩
  next => exact .inl rfl

theorem update_update (t : ScopeTree) (i : ScopeId) (f g : Scope → Scope) :
    (t.update i f).update i g = t.update i (g ∘ f) := by
  simp only [update, mk.injEq]
  apply Array.ext_getElem?
  intro j
  rw [Array.getElem?_modify, Array.getElem?_modify, Array.getElem?_modify]
  split <;> simp

theorem update_of_get?_none {t : ScopeTree} {i : ScopeId} (h : t.get? i = none) (f : Scope → Scope) :
    t.update i f = t := by
  simp only [update]
  congr 1
  apply Array.ext_getElem?
  intro j
  rw [Array.getElem?_modify]
  split
  next hij =>
    subst hij
    rw [show t.scopes[i]? = none from h]
    rfl
  next => rfl

theorem own?_update_put (t : ScopeTree) (i : ScopeId) (v : Variable) (j : ScopeId) (name : String) :
    (t.update i fun s => s.put v).own? j name =
      if i = j ∧ name = v.name ∧ (t.get? j).isSome then some v else t.own? j name := by
  unfold own?
  rw [get?_update]
  by_cases hij : i = j
  · cases t.get? j <;> by_cases hname : name = v.name <;> simp [hij, hname, Scope.var?_put]
  · simp [hij]

theorem resolve?_of_own? {t : ScopeTree} {i : ScopeId} {name : String}
    (h : (t.own? i name).isSome = true) : t.resolve? i name = some i := by
  simp [resolve?, ancestors, chain, h]

theorem modifyVar_of_own? {t : ScopeTree} {i : ScopeId} {name : String} {v : Variable}
    (h : t.own? i name = some v) (f : Variable → Variable) :
    t.modifyVar i name f = t.update i fun s => s.put { f v with name } := by
  have hresolve : t.resolve? i name = some i := resolve?_of_own? (by simp [h])
  have hlookup : t.lookup? i name = some v := by rw [lookup?, hresolve]; exact h
  rw [modifyVar, hresolve, hlookup]

theorem modifyVar_of_get?_none {t : ScopeTree} {i : ScopeId} (h : t.get? i = none) (name : String)
    (f : Variable → Variable) : t.modifyVar i name f = t := by
  have hresolve : t.resolve? i name = none := by
    simp [resolve?, ancestors, chain, parent?, own?, h]
  rw [modifyVar, hresolve]

/-- Binding a name afresh and tainting it at once is one write. -/
theorem taint_define (t : ScopeTree) (i : ScopeId) (name origin : String) :
    (t.define i name).taint i name origin =
      t.update i fun s => s.put (Variable.declared name (some origin)) := by
  unfold taint
  cases h : t.get? i with
  | none =>
    rw [define, update_of_get?_none h, modifyVar_of_get?_none h, update_of_get?_none h]
  | some scope =>
    have hown : (t.define i name).own? i name = some { name } := by
      rw [define, own?_update_put]
      simp [h]
    rw [modifyVar_of_own? hown, define, update_update]
    congr 1
    funext s
    exact s.put_put rfl

/-- A property of every variable of every scope. -/
def Every (P : Variable → Prop) (t : ScopeTree) : Prop :=
  ∀ i scope, t.get? i = some scope → ∀ v ∈ scope.vars, P v

variable {P : Variable → Prop} {t : ScopeTree}

theorem every_empty : Every P empty := by
  intro i scope h v hv
  cases i with
  | zero =>
    obtain rfl : { kind := .global } = scope := by simpa [empty, get?] using h
    simp at hv
  | succ i => simp [empty, get?] at h

theorem Every.update {i : ScopeId} {f : Scope → Scope} (h : Every P t)
    (hf : ∀ s : Scope, (∀ v ∈ s.vars, P v) → ∀ v ∈ (f s).vars, P v) : Every P (t.update i f) := by
  intro j scope hj
  rw [get?_update] at hj
  split at hj
  · obtain ⟨s, hs, rfl⟩ := Option.map_eq_some_iff.mp hj
    exact hf s (h j s hs)
  · exact h j scope hj

theorem Every.put {i : ScopeId} {v : Variable} (h : Every P t) (hv : P v) :
    Every P (t.update i fun s => s.put v) := by
  refine h.update fun s hs w hw => ?_
  rcases Scope.mem_put hw with rfl | hw
  · exact hv
  · exact hs w hw

theorem Every.create (h : Every P t) (kind : ScopeKind) (parent : ScopeId) :
    Every P (t.create kind parent).1 := by
  intro j scope hj
  rw [get?_create] at hj
  split at hj
  · cases hj
    simp
  · have hlinked : Every P (t.update parent fun s => { s with children := s.children ++ [t.size] }) :=
      h.update fun _ hs => hs
    exact hlinked j scope hj

theorem Every.of_own? (h : Every P t) {i : ScopeId} {name : String} {v : Variable}
    (hv : t.own? i name = some v) : P v := by
  obtain ⟨scope, hscope, hvar⟩ := Option.bind_eq_some_iff.mp hv
  exact h i scope hscope v (Scope.mem_of_var? hvar)

theorem Every.of_lookup? (h : Every P t) {i : ScopeId} {name : String} {v : Variable}
    (hv : t.lookup? i name = some v) : P v := by
  obtain ⟨j, -, hj⟩ := own?_of_lookup? hv
  exact h.of_own? hj

theorem Every.modifyVar (h : Every P t) (i : ScopeId) (name : String) {f : Variable → Variable}
    (hf : ∀ v, P v → P { f v with name }) : Every P (t.modifyVar i name f) := by
  rcases t.modifyVar_cases i name f with hnone | ⟨j, v, -, hv, hsome⟩
  · rwa [hnone]
  · rw [hsome]
    exact h.put (hf v (h.of_own? hv))

end ScopeTree

end DomFlow
