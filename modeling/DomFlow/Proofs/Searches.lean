import DomFlow.Regex.Search
import Mathlib.Data.List.Basic
import Mathlib.Data.List.Nodup
import Mathlib.Data.List.Perm.Subperm

/-! # Searches

What an expression matches is a property of a stretch of text together with what stands around it, since an
anchor looks at both sides. The search does not try stretches one after the other: it carries all places where
a match may have got to through the expression. It finds a match exactly if there is a stretch that the
expression matches. A repetition stops when no new place appears, and there are no more places than characters
and one, so the rounds that are allowed always suffice. -/

namespace DomFlow

/-- A property of a stretch of text, of what stands before it and of what comes after it. -/
abbrev Stretch := List Char → List Char → List Char → Prop

namespace Stretch

def nothing : Stretch := fun _ mid _ => mid = []

/-- A stretch of the first kind and right after it one of the second kind. -/
def andThen (A B : Stretch) : Stretch := fun front mid back =>
  ∃ first second, mid = first ++ second ∧ A front first (second ++ back) ∧ B (front ++ first) second back

/-- Exactly `n` stretches of one kind, one right after the other. -/
def times (A : Stretch) : Nat → Stretch
  | 0 => nothing
  | n + 1 => A.andThen (A.times n)

/-- Stretches of one kind, one right after the other, in a number that is allowed. -/
def repeated (A : Stretch) (allowed : Nat → Prop) : Stretch := fun front mid back =>
  ∃ n, allowed n ∧ A.times n front mid back

end Stretch

/-- The stretches that an expression matches. -/
def Regex.Matches : Regex → Stretch
  | .empty => .nothing
  | .set s => fun _ mid _ => ∃ c, mid = [c] ∧ s.holds c = true
  | .look unicode l => fun front mid back =>
    mid = [] ∧ l.holds (isWordFor unicode) front.getLast? back.head? = true
  | .seq a b => a.Matches.andThen b.Matches
  | .alt a b => fun front mid back => a.Matches front mid back ∨ b.Matches front mid back
  | .star a => a.Matches.repeated fun _ => True
  | .times n a => a.Matches.times n
  | .upTo n a => a.Matches.repeated (· ≤ n)

namespace Place

/-- The place where a text is cut in two. -/
def between (front back : List Char) : Place := ⟨back.length, front.getLast?, back⟩

def Of (text : List Char) (p : Place) : Prop := ∃ front back, front ++ back = text ∧ p = between front back

variable {text : List Char}

theorem of_between {front back : List Char} (h : front ++ back = text) : (between front back).Of text :=
  ⟨front, back, h, rfl⟩

/-- Two cuts at the same place are the same cut. -/
theorem between_inj {front back front' back' : List Char} (h : front ++ back = text)
    (h' : front' ++ back' = text) (heq : between front back = between front' back') :
    front = front' ∧ back = back' := by
  have hback : back = back' := congrArg Place.rest heq
  subst hback
  exact ⟨List.append_cancel_right (h.trans h'.symm), rfl⟩

/-- A place of a text is known by how much remains. -/
theorem Of.eq_of_left {p q : Place} (hp : p.Of text) (hq : q.Of text) (h : p.left = q.left) : p = q := by
  obtain ⟨front, back, htext, rfl⟩ := hp
  obtain ⟨front', back', htext', rfl⟩ := hq
  have hlength : back.length = back'.length := h
  obtain ⟨rfl, rfl⟩ := List.append_inj' (htext.trans htext'.symm) hlength
  rfl

theorem mem_walkFrom {front cs : List Char} {p : Place} :
    p ∈ walkFrom cs.length front.getLast? cs ↔ ∃ u v, u ++ v = cs ∧ p = between (front ++ u) v := by
  induction cs generalizing front with
  | nil =>
    simp only [walkFrom, List.mem_singleton, List.append_eq_nil_iff]
    constructor
    · rintro rfl
      exact ⟨[], [], ⟨rfl, rfl⟩, by simp [between]⟩
    · rintro ⟨u, v, ⟨rfl, rfl⟩, rfl⟩
      simp [between]
  | cons c cs ih =>
    have hlast : some c = (front ++ [c]).getLast? := by simp
    rw [walkFrom, List.mem_cons, List.length_cons, Nat.add_sub_cancel, hlast, ih]
    constructor
    · rintro (rfl | ⟨u, v, rfl, rfl⟩)
      · exact ⟨[], c :: cs, rfl, by simp [between]⟩
      · exact ⟨c :: u, v, rfl, by simp⟩
    · rintro ⟨_ | ⟨d, u⟩, v, huv, rfl⟩
      · left
        rw [List.nil_append] at huv
        simp [between, huv]
      · obtain ⟨rfl, rfl⟩ := List.cons_eq_cons.mp huv
        exact .inr ⟨u, v, rfl, by simp⟩

theorem mem_all {p : Place} : p ∈ all text ↔ p.Of text := by
  have hwalk : p ∈ walkFrom text.length ([] : List Char).getLast? text ↔
      ∃ u v, u ++ v = text ∧ p = between ([] ++ u) v := mem_walkFrom
  simpa only [all, Of, List.getLast?_nil, List.nil_append] using hwalk

theorem step_eq_some_iff {s : CharSet} {front back : List Char} {q : Place} :
    step s (between front back) = some q ↔
      ∃ c cs, back = c :: cs ∧ s.holds c = true ∧ q = between (front ++ [c]) cs := by
  cases back with
  | nil => simp [step, between]
  | cons c cs =>
    by_cases hc : s.holds c
    · simp only [step, between, hc, if_true, Option.some.injEq]
      constructor
      · rintro rfl
        exact ⟨c, cs, rfl, hc, by simp⟩
      · rintro ⟨d, ds, hcons, -, rfl⟩
        obtain ⟨rfl, rfl⟩ := List.cons_eq_cons.mp hcons
        simp
    · simp [step, between, hc]

theorem left_of_step {s : CharSet} {p q : Place} (hp : p.Of text) (h : p.step s = some q) :
    q.left + 1 = p.left := by
  obtain ⟨front, back, -, rfl⟩ := hp
  obtain ⟨c, cs, rfl, -, rfl⟩ := step_eq_some_iff.mp h
  rfl

end Place

/-- A set of places of a text, as searches keep it: in text order and without repetition. -/
structure Places (text : List Char) (ps : List Place) : Prop where
  of : ∀ p ∈ ps, p.Of text
  ordered : ps.Pairwise fun p q => q.left < p.left

namespace Places

variable {text : List Char} {ps qs : List Place}

theorem nil : Places text [] := ⟨by simp, List.Pairwise.nil⟩

theorem tail {p : Place} (h : Places text (p :: ps)) : Places text ps :=
  ⟨fun q hq => h.of q (List.mem_cons_of_mem p hq), h.ordered.of_cons⟩

theorem cons {p : Place} (hp : p.Of text) (h : Places text ps) (hleft : ∀ q ∈ ps, q.left < p.left) :
    Places text (p :: ps) :=
  ⟨List.forall_mem_cons.mpr ⟨hp, h.of⟩, List.pairwise_cons.mpr ⟨hleft, h.ordered⟩⟩

theorem sublist (h : Places text ps) (hsub : qs.Sublist ps) : Places text qs :=
  ⟨fun q hq => h.of q (hsub.subset hq), h.ordered.sublist hsub⟩

theorem nodup (h : Places text ps) : ps.Nodup := by
  refine h.ordered.imp fun hlt heq => ?_
  rw [heq] at hlt
  exact Nat.lt_irrefl _ hlt

/-- There are no more places up to the first one than characters remain there, and one. -/
theorem length_le {bound : Nat} (h : Places text ps) (hbound : ∀ p ∈ ps, p.left ≤ bound) :
    ps.length ≤ bound + 1 := by
  have hnodup : (ps.map Place.left).Nodup := by
    refine List.pairwise_map.mpr (h.ordered.imp fun hlt => ?_)
    omega
  have hsubset : ps.map Place.left ⊆ List.range (bound + 1) := by
    intro n hn
    obtain ⟨p, hp, rfl⟩ := List.mem_map.mp hn
    exact List.mem_range.mpr (Nat.lt_succ_of_le (hbound p hp))
  simpa using (hnodup.subperm hsubset).length_le

/-- The first place is the one where most remains. -/
theorem left_le_head {p : Place} (h : Places text (p :: ps)) : ∀ q ∈ p :: ps, q.left ≤ p.left := by
  intro q hq
  rcases List.mem_cons.mp hq with rfl | hq
  · exact Nat.le_refl _
  · exact Nat.le_of_lt (List.rel_of_pairwise_cons h.ordered hq)

theorem mem_merge (hps : Places text ps) (hqs : Places text qs) {x : Place} :
    x ∈ Place.merge ps qs ↔ x ∈ ps ∨ x ∈ qs := by
  fun_induction Place.merge ps qs with
  | case1 qs => simp
  | case2 ps => simp
  | case3 p ps q qs heq ih =>
    have hpq : p = q := (hps.of p List.mem_cons_self).eq_of_left (hqs.of q List.mem_cons_self) heq
    rw [List.mem_cons, ih hps.tail hqs.tail, hpq]
    grind
  | case4 p ps q qs _ _ ih =>
    rw [List.mem_cons, ih hps.tail hqs]
    grind
  | case5 p ps q qs _ _ ih =>
    rw [List.mem_cons, ih hps hqs.tail]
    grind

theorem merge (hps : Places text ps) (hqs : Places text qs) : Places text (Place.merge ps qs) := by
  fun_induction Place.merge ps qs with
  | case1 qs => exact hqs
  | case2 ps => exact hps
  | case3 p ps q qs heq ih =>
    refine (ih hps.tail hqs.tail).cons (hps.of p List.mem_cons_self) fun x hx => ?_
    rcases (mem_merge hps.tail hqs.tail).mp hx with hx | hx
    · exact List.rel_of_pairwise_cons hps.ordered hx
    · exact heq ▸ List.rel_of_pairwise_cons hqs.ordered hx
  | case4 p ps q qs _ hlt ih =>
    refine (ih hps.tail hqs).cons (hps.of p List.mem_cons_self) fun x hx => ?_
    rcases (mem_merge hps.tail hqs).mp hx with hx | hx
    · exact List.rel_of_pairwise_cons hps.ordered hx
    · exact Nat.lt_of_le_of_lt (hqs.left_le_head x hx) hlt
  | case5 p ps q qs hne hnot ih =>
    have hlt : p.left < q.left := by omega
    refine (ih hps hqs.tail).cons (hqs.of q List.mem_cons_self) fun x hx => ?_
    rcases (mem_merge hps hqs.tail).mp hx with hx | hx
    · exact Nat.lt_of_le_of_lt (hps.left_le_head x hx) hlt
    · exact List.rel_of_pairwise_cons hqs.ordered hx

theorem mem_without (hps : Places text ps) (hqs : Places text qs) {x : Place} :
    x ∈ Place.without ps qs ↔ x ∈ ps ∧ x ∉ qs := by
  rw [Place.without, List.mem_filter]
  refine and_congr_right fun hx => ?_
  simp only [Bool.not_eq_true', List.any_eq_false, beq_iff_eq]
  constructor
  · exact fun h hxq => h x hxq rfl
  · intro h q hq hleft
    exact h ((hqs.of q hq).eq_of_left (hps.of x hx) hleft ▸ hq)

/-- Places that are not yet known make the set larger. -/
theorem length_lt_merge (hps : Places text ps) (hqs : Places text qs) {x : Place} (hx : x ∈ qs)
    (hnew : x ∉ ps) : ps.length < (Place.merge ps qs).length := by
  have hsubset : x :: ps ⊆ Place.merge ps qs := by
    refine List.cons_subset.mpr ⟨(mem_merge hps hqs).mpr (.inr hx), fun y hy => ?_⟩
    exact (mem_merge hps hqs).mpr (.inl hy)
  exact ((List.nodup_cons.mpr ⟨hnew, hps.nodup⟩).subperm hsubset).length_le

theorem all (text : List Char) : Places text (Place.all text) := by
  refine ⟨fun p hp => Place.mem_all.mp hp, ?_⟩
  have hwalk (cs : List Char) (before : Option Char) : (Place.walkFrom cs.length before cs).Pairwise
      (fun p q => q.left < p.left) ∧ ∀ p ∈ Place.walkFrom cs.length before cs, p.left ≤ cs.length := by
    induction cs generalizing before with
    | nil => simp [Place.walkFrom]
    | cons c cs ih =>
      obtain ⟨hordered, hleft⟩ := ih (some c)
      rw [Place.walkFrom, List.length_cons, Nat.add_sub_cancel, List.pairwise_cons, List.forall_mem_cons]
      refine ⟨⟨fun p hp => ?_, hordered⟩, Nat.le_refl _, fun p hp => ?_⟩
      · exact Nat.lt_succ_of_le (hleft p hp)
      · exact Nat.le_succ_of_le (hleft p hp)
  exact (hwalk text none).1

end Places

/-- A stretch of this kind begins at the first place of the text and ends at the second. -/
def Stretch.Leads (A : Stretch) (text : List Char) (p q : Place) : Prop :=
  ∃ front mid back, front ++ (mid ++ back) = text ∧ p = .between front (mid ++ back) ∧
    q = .between (front ++ mid) back ∧ A front mid back

namespace Stretch

variable {A B : Stretch} {text : List Char} {p q : Place}

theorem Leads.of (h : A.Leads text p q) : p.Of text ∧ q.Of text := by
  obtain ⟨front, mid, back, htext, rfl, rfl, -⟩ := h
  exact ⟨Place.of_between htext, Place.of_between (by rw [List.append_assoc, htext])⟩

theorem Leads.left_le (h : A.Leads text p q) : q.left ≤ p.left := by
  obtain ⟨front, mid, back, -, rfl, rfl, -⟩ := h
  simp [Place.between]

theorem leads_nothing : nothing.Leads text p q ↔ p.Of text ∧ p = q := by
  constructor
  · rintro ⟨front, mid, back, htext, rfl, rfl, rfl⟩
    exact ⟨Place.of_between htext, by simp⟩
  · rintro ⟨⟨front, back, htext, rfl⟩, rfl⟩
    exact ⟨front, [], back, htext, rfl, by simp, rfl⟩

theorem leads_andThen : (A.andThen B).Leads text p q ↔ ∃ m, A.Leads text p m ∧ B.Leads text m q := by
  constructor
  · rintro ⟨front, mid, back, htext, rfl, rfl, first, second, rfl, hA, hB⟩
    rw [List.append_assoc] at htext
    refine ⟨.between (front ++ first) (second ++ back), ?_, ?_⟩
    · exact ⟨front, first, second ++ back, htext, by rw [List.append_assoc], rfl, hA⟩
    · exact ⟨front ++ first, second, back, by rw [List.append_assoc, htext], rfl,
        by rw [List.append_assoc], hB⟩
  · rintro ⟨m, ⟨front, first, back, htext, rfl, rfl, hA⟩, front', second, back', htext', hm, rfl, hB⟩
    obtain ⟨rfl, rfl⟩ := Place.between_inj (by rw [List.append_assoc, htext]) htext' hm
    exact ⟨front, first ++ second, back', by rw [List.append_assoc, htext], by rw [List.append_assoc],
      by rw [List.append_assoc], first, second, rfl, hA, hB⟩

theorem leads_or : Leads (fun front mid back => A front mid back ∨ B front mid back) text p q ↔
    A.Leads text p q ∨ B.Leads text p q := by
  constructor
  · rintro ⟨front, mid, back, htext, hp, hq, hA | hB⟩
    · exact .inl ⟨front, mid, back, htext, hp, hq, hA⟩
    · exact .inr ⟨front, mid, back, htext, hp, hq, hB⟩
  · rintro (⟨front, mid, back, htext, hp, hq, hA⟩ | ⟨front, mid, back, htext, hp, hq, hB⟩)
    · exact ⟨front, mid, back, htext, hp, hq, .inl hA⟩
    · exact ⟨front, mid, back, htext, hp, hq, .inr hB⟩

theorem leads_repeated {allowed : Nat → Prop} :
    (A.repeated allowed).Leads text p q ↔ ∃ n, allowed n ∧ (A.times n).Leads text p q := by
  constructor
  · rintro ⟨front, mid, back, htext, hp, hq, n, hn, hA⟩
    exact ⟨n, hn, front, mid, back, htext, hp, hq, hA⟩
  · rintro ⟨n, hn, front, mid, back, htext, hp, hq, hA⟩
    exact ⟨front, mid, back, htext, hp, hq, n, hn, hA⟩

theorem leads_times_zero : (A.times 0).Leads text p q ↔ p.Of text ∧ p = q := leads_nothing

theorem leads_times_succ {n : Nat} :
    (A.times (n + 1)).Leads text p q ↔ ∃ m, A.Leads text p m ∧ (A.times n).Leads text m q := leads_andThen

/-- One more stretch at the end. -/
theorem Leads.times_snoc {n : Nat} {m : Place} (h : (A.times n).Leads text p m) (hmq : A.Leads text m q) :
    (A.times (n + 1)).Leads text p q := by
  induction n generalizing p with
  | zero =>
    obtain ⟨-, rfl⟩ := leads_times_zero.mp h
    exact leads_times_succ.mpr ⟨q, hmq, leads_times_zero.mpr ⟨hmq.of.2, rfl⟩⟩
  | succ n ih =>
    obtain ⟨m', hpm, hm⟩ := leads_times_succ.mp h
    exact leads_times_succ.mpr ⟨m', hpm, ih hm⟩

theorem leads_set {s : CharSet} :
    ((Regex.set s).Matches).Leads text p q ↔ p.Of text ∧ p.step s = some q := by
  constructor
  · rintro ⟨front, mid, back, htext, rfl, rfl, c, rfl, hc⟩
    exact ⟨Place.of_between htext, Place.step_eq_some_iff.mpr ⟨c, back, rfl, hc, rfl⟩⟩
  · rintro ⟨⟨front, back, htext, rfl⟩, hstep⟩
    obtain ⟨c, cs, rfl, hc, rfl⟩ := Place.step_eq_some_iff.mp hstep
    exact ⟨front, [c], cs, htext, rfl, rfl, c, rfl, hc⟩

theorem leads_look {unicode : Bool} {l : Look} :
    ((Regex.look unicode l).Matches).Leads text p q ↔
      p.Of text ∧ p = q ∧ l.holds (isWordFor unicode) p.before p.rest.head? = true := by
  constructor
  · rintro ⟨front, mid, back, htext, rfl, rfl, rfl, hl⟩
    exact ⟨Place.of_between htext, by simp, hl⟩
  · rintro ⟨⟨front, back, htext, rfl⟩, rfl, hl⟩
    exact ⟨front, [], back, htext, rfl, by simp, rfl, hl⟩

end Stretch

/-- Applied to a set of places, a step gives the set of the places where stretches of this kind lead. -/
structure Advances (text : List Char) (A : Stretch) (f : List Place → List Place) : Prop where
  places {ps : List Place} : Places text ps → Places text (f ps)
  mem_iff {ps : List Place} (hps : Places text ps) (q : Place) : q ∈ f ps ↔ ∃ p ∈ ps, A.Leads text p q

namespace Advances

variable {text : List Char} {A : Stretch} {f : List Place → List Place} {ps : List Place}

theorem nothing : Advances text .nothing fun ps => ps := by
  refine ⟨id, fun hps q => ?_⟩
  simp only [Stretch.leads_nothing]
  constructor
  · exact fun hq => ⟨q, hq, hps.of q hq, rfl⟩
  · rintro ⟨p, hp, -, rfl⟩
    exact hp

theorem andThen {B : Stretch} {g : List Place → List Place} (hf : Advances text A f) (hg : Advances text B g) :
    Advances text (A.andThen B) fun ps => g (f ps) := by
  refine ⟨fun hps => hg.places (hf.places hps), fun hps q => ?_⟩
  rw [hg.mem_iff (hf.places hps)]
  simp only [Stretch.leads_andThen, hf.mem_iff hps]
  constructor
  · rintro ⟨m, ⟨p, hp, hpm⟩, hmq⟩
    exact ⟨p, hp, m, hpm, hmq⟩
  · rintro ⟨p, hp, m, hpm, hmq⟩
    exact ⟨m, ⟨p, hp, hpm⟩, hmq⟩

theorem or {B : Stretch} {g : List Place → List Place} (hf : Advances text A f) (hg : Advances text B g) :
    Advances text (fun front mid back => A front mid back ∨ B front mid back)
      fun ps => Place.merge (f ps) (g ps) := by
  refine ⟨fun hps => (hf.places hps).merge (hg.places hps), fun hps q => ?_⟩
  rw [(hf.places hps).mem_merge (hg.places hps), hf.mem_iff hps, hg.mem_iff hps]
  simp only [Stretch.leads_or, and_or_left, exists_or]

theorem step (s : CharSet) : Advances text (Regex.set s).Matches (List.filterMap (Place.step s)) := by
  refine ⟨fun hps => ⟨fun q hq => ?_, ?_⟩, fun hps q => ?_⟩
  · obtain ⟨p, hp, hstep⟩ := List.mem_filterMap.mp hq
    exact (Stretch.leads_set.mpr ⟨hps.of p hp, hstep⟩).of.2
  · have hordered := hps.ordered.imp_of_mem (S := fun p q => q.left < p.left ∧ p.Of text ∧ q.Of text)
      fun hp hq hlt => ⟨hlt, hps.of _ hp, hps.of _ hq⟩
    refine hordered.filterMap _ fun p p' ⟨hlt, hp, hp'⟩ q hq q' hq' => ?_
    have hleft := Place.left_of_step hp hq
    have hleft' := Place.left_of_step hp' hq'
    omega
  · simp only [List.mem_filterMap, Stretch.leads_set]
    constructor
    · rintro ⟨p, hp, hstep⟩
      exact ⟨p, hp, hps.of p hp, hstep⟩
    · rintro ⟨p, hp, -, hstep⟩
      exact ⟨p, hp, hstep⟩

theorem look (unicode : Bool) (l : Look) : Advances text (Regex.look unicode l).Matches
    (List.filter fun p => l.holds (isWordFor unicode) p.before p.rest.head?) := by
  refine ⟨fun hps => hps.sublist List.filter_sublist, fun hps q => ?_⟩
  simp only [List.mem_filter, Stretch.leads_look]
  constructor
  · rintro ⟨hq, hl⟩
    exact ⟨q, hq, hps.of q hq, rfl, hl⟩
  · rintro ⟨p, hp, -, rfl, hl⟩
    exact ⟨hp, hl⟩

theorem reachTimes (h : Advances text A f) (n : Nat) : Advances text (A.times n) (DomFlow.reachTimes f n) := by
  induction n with
  | zero => exact nothing
  | succ n ih => exact h.andThen ih

theorem reachUpTo (h : Advances text A f) (n : Nat) :
    Advances text (A.repeated (· ≤ n)) (DomFlow.reachUpTo f n) := by
  induction n with
  | zero =>
    refine ⟨id, fun hps q => ?_⟩
    simp only [Stretch.leads_repeated, Nat.le_zero_eq, exists_eq_left]
    exact (h.reachTimes 0).mem_iff hps q
  | succ n ih =>
    have hstay {ps : List Place} (hps : Places text ps) {q : Place} (hq : q ∈ ps) :
        ∃ p ∈ ps, (A.repeated (· ≤ n + 1)).Leads text p q :=
      ⟨q, hq, Stretch.leads_repeated.mpr ⟨0, Nat.zero_le _, Stretch.leads_times_zero.mpr ⟨hps.of q hq, rfl⟩⟩⟩
    refine ⟨fun hps => ?_, fun hps q => ?_⟩
    · rw [DomFlow.reachUpTo]
      split
      · exact hps
      · exact hps.merge (ih.places (h.places hps))
    · rw [DomFlow.reachUpTo]
      split
      next hnone =>
        -- No stretch begins at any of the places, so repetition ends here.
        refine ⟨hstay hps, ?_⟩
        rintro ⟨p, hp, hpq⟩
        obtain ⟨_ | k, -, hleads⟩ := Stretch.leads_repeated.mp hpq
        · exact (Stretch.leads_times_zero.mp hleads).2 ▸ hp
        · obtain ⟨m, hpm, -⟩ := Stretch.leads_times_succ.mp hleads
          have hm : m ∈ f _ := (h.mem_iff hps m).mpr ⟨p, hp, hpm⟩
          simp [hnone] at hm
      next =>
        rw [hps.mem_merge (ih.places (h.places hps)), ih.mem_iff (h.places hps)]
        constructor
        · rintro (hq | ⟨m, hm, hmq⟩)
          · exact hstay hps hq
          · obtain ⟨p, hp, hpm⟩ := (h.mem_iff hps m).mp hm
            obtain ⟨k, hk, hleads⟩ := Stretch.leads_repeated.mp hmq
            refine ⟨p, hp, Stretch.leads_repeated.mpr ⟨k + 1, Nat.succ_le_succ hk, ?_⟩⟩
            exact Stretch.leads_times_succ.mpr ⟨m, hpm, hleads⟩
        · rintro ⟨p, hp, hpq⟩
          obtain ⟨_ | k, hk, hleads⟩ := Stretch.leads_repeated.mp hpq
          · exact .inl ((Stretch.leads_times_zero.mp hleads).2 ▸ hp)
          · obtain ⟨m, hpm, hmq⟩ := Stretch.leads_times_succ.mp hleads
            refine .inr ⟨m, (h.mem_iff hps m).mpr ⟨p, hp, hpm⟩, ?_⟩
            exact Stretch.leads_repeated.mpr ⟨k, Nat.le_of_succ_le_succ hk, hmq⟩

end Advances

/-- How far the repetition of a step has got from a set of places: the places that have been seen, and of
these the latest, from which the step has not yet been made. -/
structure Saturating (text : List Char) (A : Stretch) (ps seen latest : List Place) : Prop where
  places_seen : Places text seen
  places_latest : Places text latest
  latest_subset : latest ⊆ seen
  start : ps ⊆ seen
  reached : ∀ q ∈ seen, ∃ p ∈ ps, ∃ n, (A.times n).Leads text p q
  closed : ∀ p ∈ seen, p ∉ latest → ∀ q, A.Leads text p q → q ∈ seen

namespace Saturating

variable {text : List Char} {A : Stretch} {f : List Place → List Place} {ps seen latest : List Place}

theorem initial (hps : Places text ps) : Saturating text A ps ps ps where
  places_seen := hps
  places_latest := hps
  latest_subset := List.Subset.refl _
  start := List.Subset.refl _
  reached q hq := ⟨q, hq, 0, Stretch.leads_times_zero.mpr ⟨hps.of q hq, rfl⟩⟩
  closed _ hp hnot := absurd hp hnot

theorem mem_new (h : Saturating text A ps seen latest) (hf : Advances text A f) {q : Place} :
    q ∈ Place.without (f latest) seen ↔ (∃ p ∈ latest, A.Leads text p q) ∧ q ∉ seen := by
  rw [Places.mem_without (hf.places h.places_latest) h.places_seen, hf.mem_iff h.places_latest]

theorem places_new (h : Saturating text A ps seen latest) (hf : Advances text A f) :
    Places text (Place.without (f latest) seen) :=
  (hf.places h.places_latest).sublist List.filter_sublist

/-- One round. -/
theorem next (h : Saturating text A ps seen latest) (hf : Advances text A f) :
    Saturating text A ps (Place.merge seen (Place.without (f latest) seen))
      (Place.without (f latest) seen) := by
  have hmem {q : Place} : q ∈ Place.merge seen (Place.without (f latest) seen) ↔
      q ∈ seen ∨ q ∈ Place.without (f latest) seen := h.places_seen.mem_merge (h.places_new hf)
  refine ⟨h.places_seen.merge (h.places_new hf), h.places_new hf, fun q hq => hmem.mpr (.inr hq),
    fun p hp => hmem.mpr (.inl (h.start hp)), fun q hq => ?_, fun p hp hnot q hpq => ?_⟩
  · rcases hmem.mp hq with hq | hq
    · exact h.reached q hq
    · obtain ⟨⟨m, hm, hmq⟩, -⟩ := (h.mem_new hf).mp hq
      obtain ⟨p, hp, n, hpm⟩ := h.reached m (h.latest_subset hm)
      exact ⟨p, hp, n + 1, hpm.times_snoc hmq⟩
  · have hp : p ∈ seen := (hmem.mp hp).resolve_right hnot
    rw [hmem, h.mem_new hf]
    by_cases hlatest : p ∈ latest
    · by_cases hq : q ∈ seen
      · exact .inl hq
      · exact .inr ⟨⟨p, hlatest, hpq⟩, hq⟩
    · exact .inl (h.closed p hp hlatest q hpq)

/-- Once a round brings nothing new, all that can be reached has been seen. -/
theorem mem_iff (h : Saturating text A ps seen latest) (hf : Advances text A f)
    (hdone : Place.without (f latest) seen = []) (q : Place) :
    q ∈ seen ↔ ∃ p ∈ ps, ∃ n, (A.times n).Leads text p q := by
  refine ⟨h.reached q, ?_⟩
  have hclosed (p : Place) (hp : p ∈ seen) (q : Place) (hpq : A.Leads text p q) : q ∈ seen := by
    by_contra hq
    have hlatest : p ∈ latest := by
      by_contra hnot
      exact hq (h.closed p hp hnot q hpq)
    have hnew := (h.mem_new hf).mpr ⟨⟨p, hlatest, hpq⟩, hq⟩
    simp [hdone] at hnew
  rintro ⟨p, hstart, n, hpq⟩
  have hp : p ∈ seen := h.start hstart
  clear hstart
  induction n generalizing p with
  | zero => exact (Stretch.leads_times_zero.mp hpq).2 ▸ hp
  | succ n ih =>
    obtain ⟨m, hpm, hmq⟩ := Stretch.leads_times_succ.mp hpq
    exact ih m hmq (hclosed p hp m hpm)

/-- All rounds: they end because there are no more than `bound + 1` places to be seen. -/
theorem saturate {bound fuel : Nat} (h : Saturating text A ps seen latest) (hf : Advances text A f)
    (hbound : ∀ p ∈ ps, p.left ≤ bound) (hfuel : bound + 1 < seen.length + fuel) :
    Places text (DomFlow.saturate f fuel seen latest) ∧
      ∀ q, q ∈ DomFlow.saturate f fuel seen latest ↔ ∃ p ∈ ps, ∃ n, (A.times n).Leads text p q := by
  induction fuel generalizing seen latest with
  | zero =>
    have hle : ∀ q ∈ seen, q.left ≤ bound := by
      intro q hq
      obtain ⟨p, hp, n, hpq⟩ := h.reached q hq
      exact Nat.le_trans hpq.left_le (hbound p hp)
    have hlength := h.places_seen.length_le hle
    omega
  | succ fuel ih =>
    rw [DomFlow.saturate]
    split
    next hdone => exact ⟨h.places_seen, h.mem_iff hf hdone⟩
    next hne =>
      refine ih (h.next hf) ?_
      obtain ⟨x, hx⟩ := List.exists_mem_of_ne_nil _ hne
      have hlength := h.places_seen.length_lt_merge (h.places_new hf) hx ((h.mem_new hf).mp hx).2
      omega

end Saturating

/-- The repetition of a step, as searches do it. -/
theorem Advances.star {text : List Char} {A : Stretch} {f : List Place → List Place} (hf : Advances text A f) :
    Advances text (A.repeated fun _ => True) fun ps =>
      match ps with
      | [] => []
      | p :: _ => saturate f (p.left + 1) ps ps := by
  have hspec {ps : List Place} {p : Place} (hps : Places text (p :: ps)) :
      Places text (saturate f (p.left + 1) (p :: ps) (p :: ps)) ∧
        ∀ q, q ∈ saturate f (p.left + 1) (p :: ps) (p :: ps) ↔
          ∃ x ∈ p :: ps, ∃ n, (A.times n).Leads text x q :=
    (Saturating.initial hps).saturate hf hps.left_le_head (by simp)
  refine ⟨fun {ps} hps => ?_, fun {ps} hps q => ?_⟩
  · cases ps with
    | nil => exact Places.nil
    | cons p ps => exact (hspec hps).1
  · cases ps with
    | nil => simp
    | cons p ps =>
      simp only [Stretch.leads_repeated, true_and]
      exact (hspec hps).2 q

theorem Regex.advances_reach (text : List Char) (r : Regex) : Advances text r.Matches r.reach := by
  induction r with
  | empty => exact .nothing
  | set s => exact .step s
  | look unicode l => exact .look unicode l
  | seq a b iha ihb => exact iha.andThen ihb
  | alt a b iha ihb => exact iha.or ihb
  | star a ih => exact ih.star
  | times n a ih => exact ih.reachTimes n
  | upTo n a ih => exact ih.reachUpTo n

/-- A search succeeds exactly if the text has a stretch that the expression matches. -/
theorem Regex.searches_iff (r : Regex) (text : String) :
    r.searches text = true ↔
      ∃ front mid back, front ++ (mid ++ back) = text.toList ∧ r.Matches front mid back := by
  have hreach := r.advances_reach text.toList
  have hmem (q : Place) : q ∈ r.reach (Place.all text.toList) ↔ ∃ p, r.Matches.Leads text.toList p q := by
    rw [hreach.mem_iff (Places.all _)]
    exact exists_congr fun p => and_iff_right_of_imp fun h => Place.mem_all.mpr h.of.1
  rw [Regex.searches, Bool.not_eq_true', List.isEmpty_eq_false_iff_exists_mem]
  constructor
  · rintro ⟨q, hq⟩
    obtain ⟨p, front, mid, back, htext, -, -, hr⟩ := (hmem q).mp hq
    exact ⟨front, mid, back, htext, hr⟩
  · rintro ⟨front, mid, back, htext, hr⟩
    exact ⟨_, (hmem _).mpr ⟨_, front, mid, back, htext, rfl, rfl, hr⟩⟩

end DomFlow
