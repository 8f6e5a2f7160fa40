import DomFlow.Patterns
import DomFlow.Proofs.Searches

/-! # What the known patterns match

An expression of characters, anchors, groups, alternatives and optional parts stands for finitely many phrases.
A phrase that is text alone is found wherever the name has that text; one that stops at the end is a question
of how the name ends, and one that also starts at the start is the whole name. So what such patterns match can
be read off their phrases, and those of the known sources and sinks are counted out. -/

namespace DomFlow

namespace Stretch

variable {A B C : Stretch}

theorem andThen_assoc : (A.andThen B).andThen C = A.andThen (B.andThen C) := by
  funext front mid back
  apply propext
  constructor
  · rintro ⟨_, third, rfl, ⟨first, second, rfl, hA, hB⟩, hC⟩
    rw [← List.append_assoc] at hA hC
    exact ⟨first, second ++ third, List.append_assoc .., hA, second, third, rfl, hB, hC⟩
  · rintro ⟨first, _, rfl, hA, second, third, rfl, hB, hC⟩
    rw [List.append_assoc] at hA hC
    exact ⟨first ++ second, third, (List.append_assoc ..).symm, ⟨first, second, rfl, hA, hB⟩, hC⟩

@[simp] theorem nothing_andThen : nothing.andThen A = A := by
  funext front mid back
  simp [andThen, nothing]

@[simp] theorem andThen_nothing : A.andThen nothing = A := by
  funext front mid back
  simp [andThen, nothing]

/-- At most once is not at all or once. -/
theorem repeated_le_one :
    A.repeated (· ≤ 1) = fun front mid back => nothing front mid back ∨ A front mid back := by
  have hone : A.times 1 = A := andThen_nothing
  funext front mid back
  apply propext
  constructor
  · rintro ⟨n, hn, hA⟩
    obtain rfl | rfl : n = 0 ∨ n = 1 := by omega
    · exact .inl hA
    · exact .inr (hone ▸ hA)
  · rintro (hnothing | hA)
    · exact ⟨0, by omega, hnothing⟩
    · exact ⟨1, by omega, hone.symm ▸ hA⟩

end Stretch

inductive Sign where
  | char (c : Char)
  /-- The start of the text. -/
  | start
  /-- The end of the text. -/
  | stop
deriving DecidableEq, Repr

def Sign.Matches : Sign → Stretch
  | .char c => fun _ mid _ => mid = [c]
  | .start => fun front mid _ => mid = [] ∧ front = []
  | .stop => fun _ mid back => mid = [] ∧ back = []

abbrev Phrase := List Sign

namespace Phrase

def Matches : Phrase → Stretch
  | [] => .nothing
  | sign :: w => sign.Matches.andThen (Matches w)

/-- Stretches that one of the phrases matches. -/
def AnyOf (ws : List Phrase) : Stretch := fun front mid back => ∃ w ∈ ws, w.Matches front mid back

theorem matches_append (u v : Phrase) : Matches (u ++ v) = u.Matches.andThen v.Matches := by
  induction u with
  | nil => simp [Matches]
  | cons sign u ih => rw [List.cons_append, Matches, Matches, ih, Stretch.andThen_assoc]

theorem anyOf_singleton (w : Phrase) : AnyOf [w] = w.Matches := by
  funext front mid back
  simp [AnyOf]

theorem matches_singleton (sign : Sign) : Matches [sign] = sign.Matches := Stretch.andThen_nothing

theorem anyOf_append (us vs : List Phrase) :
    AnyOf (us ++ vs) = fun front mid back => AnyOf us front mid back ∨ AnyOf vs front mid back := by
  funext front mid back
  simp only [AnyOf, List.mem_append, or_and_right, exists_or]

/-- Every phrase of the first list followed by every phrase of the second. -/
theorem anyOf_pairs (us vs : List Phrase) :
    AnyOf (us.flatMap fun u => vs.map (u ++ ·)) = (AnyOf us).andThen (AnyOf vs) := by
  funext front mid back
  apply propext
  constructor
  · rintro ⟨w, hw, hmatch⟩
    obtain ⟨u, hu, huv⟩ := List.mem_flatMap.mp hw
    obtain ⟨v, hv, rfl⟩ := List.mem_map.mp huv
    rw [matches_append] at hmatch
    obtain ⟨first, second, rfl, hfirst, hsecond⟩ := hmatch
    exact ⟨first, second, rfl, ⟨u, hu, hfirst⟩, v, hv, hsecond⟩
  · rintro ⟨first, second, rfl, ⟨u, hu, hfirst⟩, v, hv, hsecond⟩
    refine ⟨u ++ v, List.mem_flatMap.mpr ⟨u, hu, List.mem_map_of_mem hv⟩, ?_⟩
    rw [matches_append]
    exact ⟨first, second, rfl, hfirst, hsecond⟩

theorem matches_chars (cs : List Char) : Matches (cs.map .char) = fun _ mid _ => mid = cs := by
  induction cs with
  | nil => rfl
  | cons c cs ih =>
    rw [List.map_cons, Matches, ih]
    funext front mid back
    apply propext
    constructor
    · rintro ⟨_, _, rfl, rfl, rfl⟩
      rfl
    · rintro rfl
      exact ⟨[c], cs, rfl, rfl, rfl⟩

end Phrase

/-- The phrases that an expression stands for, if it repeats nothing and has no sets of characters. -/
def Regex.phrases? : Regex → Option (List Phrase)
  | .empty => some [[]]
  | .set (.range low high) => if low = high then some [[.char low]] else none
  | .look _ .textStart => some [[.start]]
  | .look _ .textEnd => some [[.stop]]
  | .seq a b => do
    let us ← a.phrases?
    let vs ← b.phrases?
    return us.flatMap fun u => vs.map (u ++ ·)
  | .alt a b => do
    let us ← a.phrases?
    let vs ← b.phrases?
    return us ++ vs
  | .upTo 1 a => do
    let us ← a.phrases?
    return [[]] ++ us
  | _ => none

theorem CharSet.single_holds (c d : Char) : (CharSet.range c c).holds d = true ↔ d = c := by
  simp only [CharSet.holds, Bool.and_eq_true, decide_eq_true_eq]
  constructor
  · exact fun h => Char.le_antisymm h.2 h.1
  · rintro rfl
    exact ⟨Char.le_refl d, Char.le_refl d⟩

/-- An expression matches what one of its phrases matches. -/
theorem Regex.matches_eq_anyOf {r : Regex} {ws : List Phrase} (h : r.phrases? = some ws) :
    r.Matches = Phrase.AnyOf ws := by
  fun_induction Regex.phrases? r generalizing ws with
  | case1 =>
    obtain rfl := Option.some.inj h
    exact (Phrase.anyOf_singleton []).symm
  | case2 c =>
    obtain rfl := Option.some.inj h
    rw [Phrase.anyOf_singleton, Phrase.matches_singleton]
    funext front mid back
    simp [Regex.Matches, Sign.Matches, CharSet.single_holds]
  | case4 | case5 =>
    obtain rfl := Option.some.inj h
    rw [Phrase.anyOf_singleton, Phrase.matches_singleton]
    funext front mid back
    simp [Regex.Matches, Sign.Matches, Look.holds]
  | case6 a b iha ihb =>
    simp only [Option.bind_eq_bind, Option.bind_eq_some_iff, Option.pure_def, Option.some.injEq] at h
    obtain ⟨us, hus, vs, hvs, rfl⟩ := h
    rw [Regex.Matches, iha hus, ihb hvs, Phrase.anyOf_pairs]
  | case7 a b iha ihb =>
    simp only [Option.bind_eq_bind, Option.bind_eq_some_iff, Option.pure_def, Option.some.injEq] at h
    obtain ⟨us, hus, vs, hvs, rfl⟩ := h
    rw [Regex.Matches, iha hus, ihb hvs, Phrase.anyOf_append]
  | case8 a ih =>
    simp only [Option.bind_eq_bind, Option.bind_eq_some_iff, Option.pure_def, Option.some.injEq] at h
    obtain ⟨us, hus, rfl⟩ := h
    rw [Regex.Matches, Stretch.repeated_le_one, ih hus, Phrase.anyOf_append, Phrase.anyOf_singleton]
    rfl
  | case3 | case9 => simp at h

inductive Shape where
  | within (text : String)
  | ending (text : String)
  | whole (text : String)
deriving DecidableEq, Repr

namespace Shape

def Fits (name : String) : Shape → Prop
  | .within text => text.toList <:+: name.toList
  | .ending text => text.toList <:+ name.toList
  | .whole text => name = text

def phrase : Shape → Phrase
  | .within text => text.toList.map .char
  | .ending text => text.toList.map .char ++ [.stop]
  | .whole text => [.start] ++ (text.toList.map .char ++ [.stop])

/-- The phrase of a shape is found in the names of that shape. -/
theorem fits_iff (shape : Shape) (name : String) :
    shape.Fits name ↔
      ∃ front mid back, front ++ (mid ++ back) = name.toList ∧ shape.phrase.Matches front mid back := by
  cases shape with
  | within text =>
    simp only [Fits, phrase, Phrase.matches_chars]
    constructor
    · rintro ⟨front, back, h⟩
      exact ⟨front, text.toList, back, by rw [← h, List.append_assoc], rfl⟩
    · rintro ⟨front, mid, back, h, rfl⟩
      exact ⟨front, back, by rw [← h, List.append_assoc]⟩
  | ending text =>
    simp only [Fits, phrase, Phrase.matches_append, Phrase.matches_chars, Phrase.matches_singleton,
      Stretch.andThen, Sign.Matches]
    constructor
    · rintro ⟨front, h⟩
      exact ⟨front, text.toList, [], by simpa using h, text.toList, [], by simp⟩
    · rintro ⟨front, mid, back, h, first, second, rfl, rfl, rfl, rfl⟩
      exact ⟨front, by simpa using h⟩
  | whole text =>
    simp only [Fits, phrase, Phrase.matches_append, Phrase.matches_chars, Phrase.matches_singleton,
      Stretch.andThen, Sign.Matches]
    constructor
    · rintro rfl
      exact ⟨[], name.toList, [], by simp, [], name.toList, by simp⟩
    · rintro ⟨front, mid, back, h, first, second, rfl, ⟨rfl, rfl⟩, third, fourth, rfl, rfl, rfl, rfl⟩
      exact String.toList_inj.mp (by simpa using h.symm)

end Shape

def PatternSet.phrases? (s : PatternSet) : Option (List Phrase) :=
  s.patterns.foldr (fun p ws => do return (← p.regex.phrases?) ++ (← ws)) (some [])

theorem PatternSet.isMatch_iff_anyOf {s : PatternSet} {ws : List Phrase} (h : s.phrases? = some ws)
    (name : String) :
    s.isMatch name = true ↔
      ∃ front mid back, front ++ (mid ++ back) = name.toList ∧ Phrase.AnyOf ws front mid back := by
  obtain ⟨kind, patterns⟩ := s
  simp only [PatternSet.phrases?, PatternSet.isMatch] at h ⊢
  induction patterns generalizing ws with
  | nil =>
    obtain rfl := Option.some.inj h
    simp [Phrase.AnyOf]
  | cons p patterns ih =>
    simp only [List.foldr_cons, Option.bind_eq_bind, Option.bind_eq_some_iff, Option.pure_def,
      Option.some.injEq] at h
    obtain ⟨us, hus, vs, hvs, rfl⟩ := h
    rw [List.any_cons, Bool.or_eq_true, ih hvs, Regex.searches_iff, Regex.matches_eq_anyOf hus,
      Phrase.anyOf_append]
    simp only [and_or_left, exists_or]

/-- Patterns whose phrases are those of a list of shapes match the names of these shapes. -/
theorem PatternSet.isMatch_of_shapes {kind : PatternKind} {texts : List String} {shapes : List Shape}
    (h : ((PatternSet.compile kind texts).toOption.bind PatternSet.phrases?).map
      (·.isPerm (shapes.map Shape.phrase)) = some true) :
    ∃ s, PatternSet.compile kind texts = .ok s ∧
      ∀ name, s.isMatch name = true ↔ ∃ shape ∈ shapes, shape.Fits name := by
  obtain ⟨ws, hws, hperm⟩ := Option.map_eq_some_iff.mp h
  obtain ⟨s, hs, hphrases⟩ := Option.bind_eq_some_iff.mp hws
  cases hcompile : PatternSet.compile kind texts with
  | error e => simp [hcompile, Except.toOption] at hs
  | ok s' =>
    obtain rfl : s' = s := by simpa [hcompile, Except.toOption] using hs
    refine ⟨s', rfl, fun name => ?_⟩
    rw [PatternSet.isMatch_iff_anyOf hphrases]
    simp only [Shape.fits_iff, Phrase.AnyOf, (List.isPerm_iff.mp hperm).mem_iff, List.mem_map]
    constructor
    · rintro ⟨front, mid, back, hname, _, ⟨shape, hshape, rfl⟩, hmatch⟩
      exact ⟨shape, hshape, front, mid, back, hname, hmatch⟩
    · rintro ⟨shape, hshape, front, mid, back, hname, hmatch⟩
      exact ⟨front, mid, back, hname, _, ⟨shape, hshape, rfl⟩, hmatch⟩

def sourceTexts : List String :=
  ["location.hash", "location.search", "location.href", "location.pathname", "document.URL",
    "document.documentURI", "document.baseURI", "document.referrer", "document.cookie", "window.name",
    "localStorage.getItem", "sessionStorage.getItem"]

/-- Known sinks by themselves and as members of anything. -/
def sinkMembers : List String :=
  ["eval(", "setTimeout(", "setInterval(", "Function(", "innerHTML", "outerHTML", "location=", "location.href="]

/-- Texts that make a name a known sink if it ends in them. -/
def sinkEndings : List String :=
  ["document.write(", "document.writeln(", ".insertAdjacentHTML(", ".src=", ".html("]

/-- Known sinks by themselves only. -/
def sinkNames : List String := ["$(", "jQuery("]

def sinkShapes : List Shape :=
  sinkMembers.flatMap (fun t => [.whole t, .ending ("." ++ t)]) ++ sinkEndings.map .ending ++
    sinkNames.map .whole

theorem phrases_builtinSources :
    ((PatternSet.compile .source builtinSources).toOption.bind PatternSet.phrases?).map
      (·.isPerm ((sourceTexts.map Shape.within).map Shape.phrase)) = some true := by
  decide +kernel

theorem phrases_builtinSinks :
    ((PatternSet.compile .sink builtinSinks).toOption.bind PatternSet.phrases?).map
      (·.isPerm (sinkShapes.map Shape.phrase)) = some true := by
  decide +kernel

theorem sinkShapes_fit (name : String) :
    (∃ shape ∈ sinkShapes, shape.Fits name) ↔
      (∃ t ∈ sinkMembers, name = t ∨ ("." ++ t).toList <:+ name.toList) ∨
        (∃ t ∈ sinkEndings, t.toList <:+ name.toList) ∨ name ∈ sinkNames := by
  simp only [sinkShapes, List.mem_append, List.mem_flatMap, List.mem_map, List.mem_cons, List.not_mem_nil,
    or_false]
  constructor
  · rintro ⟨_, (⟨t, ht, rfl | rfl⟩ | ⟨t, ht, rfl⟩) | ⟨t, ht, rfl⟩, hfits⟩
    · exact .inl ⟨t, ht, .inl hfits⟩
    · exact .inl ⟨t, ht, .inr hfits⟩
    · exact .inr (.inl ⟨t, ht, hfits⟩)
    · exact .inr (.inr (hfits ▸ ht))
  · rintro (⟨t, ht, hname | hending⟩ | ⟨t, ht, hending⟩ | hname)
    · exact ⟨.whole t, .inl (.inl ⟨t, ht, .inl rfl⟩), hname⟩
    · exact ⟨.ending ("." ++ t), .inl (.inl ⟨t, ht, .inr rfl⟩), hending⟩
    · exact ⟨.ending t, .inl (.inr ⟨t, ht, rfl⟩), hending⟩
    · exact ⟨.whole name, .inr ⟨name, hname, rfl⟩, rfl⟩

/-- The known sources are the names that have one of a few texts in them. The known sinks are a few names, by
themselves or as members of anything, the names that end in a few texts, and two names by themselves. -/
theorem builtin_patterns_match :
    (∃ s, PatternSet.compile .source builtinSources = .ok s ∧ ∀ name : String,
      s.isMatch name = true ↔ ∃ t ∈ sourceTexts, t.toList <:+: name.toList) ∧
    ∃ s, PatternSet.compile .sink builtinSinks = .ok s ∧ ∀ name : String,
      s.isMatch name = true ↔
        (∃ t ∈ sinkMembers, name = t ∨ ("." ++ t).toList <:+ name.toList) ∨
          (∃ t ∈ sinkEndings, t.toList <:+ name.toList) ∨ name ∈ sinkNames := by
  obtain ⟨sources, hsources, hsource⟩ := PatternSet.isMatch_of_shapes phrases_builtinSources
  obtain ⟨sinks, hsinks, hsink⟩ := PatternSet.isMatch_of_shapes phrases_builtinSinks
  refine ⟨⟨sources, hsources, fun name => ?_⟩, sinks, hsinks, fun name => ?_⟩
  · simpa [Shape.Fits] using hsource name
  · rw [hsink, sinkShapes_fit]

end DomFlow
