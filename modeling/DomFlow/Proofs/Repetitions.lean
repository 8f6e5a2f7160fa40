import DomFlow.Finding
import Mathlib.Data.List.Basic
import Mathlib.Data.List.Nodup

/-! # Findings without repetitions

Of the findings with one key the first is kept, and all that are kept stay in order. The keys that have been
seen grow along the list, so every statement is about an arbitrary list of them. What remains after some keys
is what would remain without them, less the findings with those keys. -/

namespace DomFlow

namespace Finding

/-- Only whether the keys of the findings have been seen matters. -/
theorem dedupFrom_congr {seen seen' : List (String × String × String)} {fs : List Finding}
    (h : ∀ f ∈ fs, f.key ∈ seen ↔ f.key ∈ seen') : dedupFrom seen fs = dedupFrom seen' fs := by
  induction fs generalizing seen seen' with
  | nil => rfl
  | cons f fs ih =>
    obtain ⟨hf, hfs⟩ := List.forall_mem_cons.mp h
    rw [dedupFrom, dedupFrom, ih hfs]
    have hcons : dedupFrom (f.key :: seen) fs = dedupFrom (f.key :: seen') fs := by
      refine ih fun g hg => ?_
      rw [List.mem_cons, List.mem_cons, hfs g hg]
    rw [hcons]
    simp only [hf]

theorem dedupFrom_append (seen : List (String × String × String)) (fs gs : List Finding) :
    dedupFrom seen (fs ++ gs) = dedupFrom seen fs ++ dedupFrom (fs.map key ++ seen) gs := by
  induction fs generalizing seen with
  | nil => rfl
  | cons f fs ih =>
    rw [List.cons_append, dedupFrom, dedupFrom]
    split
    next hseen =>
      rw [ih]
      congr 1
      refine dedupFrom_congr fun g _ => ?_
      simp only [List.map_cons, List.mem_append, List.mem_cons]
      constructor
      · rintro (hg | hg)
        · exact .inl (.inr hg)
        · exact .inr hg
      · rintro ((hg | hg) | hg)
        · exact .inr (hg ▸ hseen)
        · exact .inl hg
        · exact .inr hg
    next =>
      rw [ih, List.cons_append]
      congr 2
      refine dedupFrom_congr fun g _ => ?_
      simp only [List.map_cons, List.mem_append, List.mem_cons]
      exact or_left_comm.trans or_assoc.symm

/-- Lists that share no flow are freed of repetitions one by one. -/
theorem deduplicate_append {fs gs : List Finding} (h : ∀ f ∈ fs, ∀ g ∈ gs, f.key ≠ g.key) :
    deduplicate (fs ++ gs) = deduplicate fs ++ deduplicate gs := by
  rw [deduplicate, dedupFrom_append, List.append_nil]
  congr 1
  refine dedupFrom_congr fun g hg => ?_
  refine iff_of_false (fun hkey => ?_) List.not_mem_nil
  obtain ⟨f, hf, hfg⟩ := List.mem_map.mp hkey
  exact h f hf g hg hfg

theorem dedupFrom_sublist (seen : List (String × String × String)) (fs : List Finding) :
    (dedupFrom seen fs).Sublist fs := by
  induction fs generalizing seen with
  | nil => exact List.Sublist.refl _
  | cons f fs ih =>
    rw [dedupFrom]
    split
    · exact (ih seen).cons f
    · exact (ih _).cons_cons f

theorem mem_of_mem_deduplicate {fs : List Finding} {f : Finding} (h : f ∈ deduplicate fs) : f ∈ fs :=
  (dedupFrom_sublist [] fs).subset h

/-- A finding is kept exactly if its key has not been seen and no finding before it has that key. -/
theorem mem_dedupFrom_iff {seen : List (String × String × String)} {fs : List Finding} {f : Finding} :
    f ∈ dedupFrom seen fs ↔ f.key ∉ seen ∧ fs.find? (·.key = f.key) = some f := by
  induction fs generalizing seen with
  | nil => simp [dedupFrom]
  | cons g fs ih =>
    rw [dedupFrom]
    by_cases hseen : g.key ∈ seen
    · -- The finding in front is passed over, and a finding with its key would be too.
      rw [if_pos hseen, ih]
      refine and_congr_right fun hf => ?_
      have hne : g.key ≠ f.key := fun heq => hf (heq ▸ hseen)
      rw [List.find?_cons_of_neg (by simpa using hne)]
    · rw [if_neg hseen, List.mem_cons, ih]
      by_cases heq : g.key = f.key
      · rw [List.find?_cons_of_pos (by simpa using heq)]
        simp [← heq, hseen, eq_comm]
      · have hne : f ≠ g := fun hfg => heq (congrArg key hfg).symm
        rw [List.find?_cons_of_neg (by simpa using heq)]
        simp [hne, Ne.symm heq]

/-- No two findings that are kept have the same key. -/
theorem nodup_keys_dedupFrom (seen : List (String × String × String)) (fs : List Finding) :
    ((dedupFrom seen fs).map key).Nodup := by
  induction fs generalizing seen with
  | nil => exact List.nodup_nil
  | cons f fs ih =>
    rw [dedupFrom]
    by_cases hseen : f.key ∈ seen
    · rw [if_pos hseen]
      exact ih seen
    · rw [if_neg hseen, List.map_cons, List.nodup_cons]
      refine ⟨fun hkey => ?_, ih _⟩
      obtain ⟨g, hg, hgf⟩ := List.mem_map.mp hkey
      exact (mem_dedupFrom_iff.mp hg).1 (hgf ▸ List.mem_cons_self)

/-- No key gets lost: the first finding that has it is kept. -/
theorem mem_keys_deduplicate {fs : List Finding} {k : String × String × String} :
    k ∈ (deduplicate fs).map key ↔ k ∈ fs.map key := by
  constructor
  · exact fun hk => ((dedupFrom_sublist [] fs).map key).subset hk
  · intro hk
    obtain ⟨f, hf, rfl⟩ := List.mem_map.mp hk
    have hsome : (fs.find? (·.key = f.key)).isSome = true := by
      rw [List.find?_isSome]
      exact ⟨f, hf, by simp⟩
    obtain ⟨g, hg⟩ := Option.isSome_iff_exists.mp hsome
    have hkey : g.key = f.key := by simpa using List.find?_some hg
    rw [← hkey] at hg
    exact List.mem_map.mpr ⟨g, mem_dedupFrom_iff.mpr ⟨List.not_mem_nil, hg⟩, hkey⟩

/-- Keys that have been seen take away the findings with these keys and nothing else. -/
theorem dedupFrom_eq_filter (seen : List (String × String × String)) (fs : List Finding) :
    dedupFrom seen fs = (deduplicate fs).filter fun f => f.key ∉ seen := by
  induction fs generalizing seen with
  | nil => rfl
  | cons f fs ih =>
    have hcons : deduplicate (f :: fs) = f :: (deduplicate fs).filter fun g => g.key ∉ [f.key] := by
      rw [deduplicate, dedupFrom, if_neg List.not_mem_nil, ih]
    rw [dedupFrom, hcons]
    by_cases hseen : f.key ∈ seen
    · rw [if_pos hseen, ih, List.filter_cons_of_neg (by simpa using hseen), List.filter_filter]
      refine List.filter_congr fun g _ => ?_
      by_cases hg : g.key ∈ seen
      · simp [hg]
      · have hne : g.key ≠ f.key := fun heq => hg (heq ▸ hseen)
        simp [hg, hne]
    · rw [if_neg hseen, ih, List.filter_cons_of_pos (by simpa using hseen), List.filter_filter]
      congr 1
      refine List.filter_congr fun g _ => ?_
      simp [Bool.and_comm]

/-- A list whose findings have different keys stays as it is. -/
theorem deduplicate_of_nodup {fs : List Finding} (h : (fs.map key).Nodup) : deduplicate fs = fs := by
  induction fs with
  | nil => rfl
  | cons f fs ih =>
    rw [List.map_cons, List.nodup_cons] at h
    rw [deduplicate, dedupFrom, if_neg List.not_mem_nil, dedupFrom_eq_filter, ih h.2]
    congr 1
    refine List.filter_eq_self.mpr fun g hg => ?_
    have hne : g.key ≠ f.key := fun heq => h.1 (heq ▸ List.mem_map_of_mem hg)
    simpa using hne

/-- What is left of a list of findings is the first one of every key, in order: a part of the list with the
same keys, each of them once. So nothing changes the second time, and of findings that are added at the end
those are kept whose key is new. -/
theorem deduplicate_keeps_first (fs : List Finding) :
    (deduplicate fs).Sublist fs ∧
      ((deduplicate fs).map key).Nodup ∧
      (∀ k, k ∈ (deduplicate fs).map key ↔ k ∈ fs.map key) ∧
      (∀ f, f ∈ deduplicate fs ↔ fs.find? (·.key = f.key) = some f) ∧
      deduplicate (deduplicate fs) = deduplicate fs ∧
      ∀ gs, deduplicate (fs ++ gs) =
        deduplicate fs ++ (deduplicate gs).filter fun g => g.key ∉ fs.map key := by
  have hnodup := nodup_keys_dedupFrom [] fs
  refine ⟨dedupFrom_sublist [] fs, hnodup, fun k => mem_keys_deduplicate, fun f => ?_,
    deduplicate_of_nodup hnodup, fun gs => ?_⟩
  · rw [deduplicate, mem_dedupFrom_iff, and_iff_right List.not_mem_nil]
  · rw [deduplicate, dedupFrom_append, List.append_nil, dedupFrom_eq_filter (fs.map key) gs]
    rfl

/-- Two findings of one flow, told apart by their evidence, and one of another flow. -/
example :
    deduplicate [⟨"s", "k", 0, .high, "d", "x"⟩, ⟨"t", "k", 0, .high, "d", "x"⟩, ⟨"s", "k", 0, .high, "d", "y"⟩] =
      [⟨"s", "k", 0, .high, "d", "x"⟩, ⟨"t", "k", 0, .high, "d", "x"⟩] := by
  decide

end Finding

end DomFlow
