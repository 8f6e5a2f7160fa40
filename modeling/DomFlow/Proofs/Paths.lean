import DomFlow.Files.Path
import DomFlow.Proofs.Lists
import Mathlib.Data.List.DropRight

/-! # Paths by their components

A text is cut at its slashes into pieces, and its components are the pieces that mean something. Cutting and
joining undo each other, so what an operation on paths does is said by what it does to the components: a name
that is put inside a folder becomes the last component, and a parent has all components but the last one. -/

namespace DomFlow.Path

theorem slash_notMem_pieces {cs p : List Char} (hp : p ∈ cs.splitOn '/') : '/' ∉ p := by
  intro hslash
  rw [List.splitOn_eq_splitOnP] at hp
  exact absurd (Lists.mem_of_mem_splitOnP hp hslash).2 (by decide)

theorem map_snd_marked (ps : List (List Char)) : (marked ps).map Prod.snd = ps := by
  cases ps <;> simp [marked, Function.comp_def]

theorem marked_take (ps : List (List Char)) (n : Nat) : marked (ps.take n) = (marked ps).take n := by
  cases ps <;> cases n <;> simp [marked, List.map_take]

theorem marked_append {ps : List (List Char)} (hne : ps ≠ []) (qs : List (List Char)) :
    marked (ps ++ qs) = marked ps ++ qs.map fun q => (isComponent false q, q) := by
  cases ps with
  | nil => exact absurd rfl hne
  | cons p ps => simp [marked]

def reals (m : List (Bool × List Char)) : List String :=
  m.filterMap fun (real, p) => if real then some (String.ofList p) else none

theorem components_eq (path : String) :
    components path = (if isAbsolute path then ["/"] else []) ++ reals (markedPieces path) := rfl

theorem reals_append (m n : List (Bool × List Char)) : reals (m ++ n) = reals m ++ reals n :=
  List.filterMap_append

theorem reals_eq_nil_iff {m : List (Bool × List Char)} : reals m = [] ↔ ∀ p ∈ m, p.1 = false := by
  simp [reals]

theorem trimmed_eq (m : List (Bool × List Char)) : trimmed m = m.rdropWhile fun p => !p.1 := rfl

theorem trimmed_eq_nil_iff {m : List (Bool × List Char)} : trimmed m = [] ↔ reals m = [] := by
  rw [trimmed_eq, List.rdropWhile_eq_nil_iff, reals_eq_nil_iff]
  simp

theorem reals_trimmed (m : List (Bool × List Char)) : reals (trimmed m) = reals m := by
  induction m using List.reverseRecOn with
  | nil => rfl
  | append_singleton m p ih =>
    rw [trimmed_eq, List.rdropWhile_concat, ← trimmed_eq]
    by_cases hp : p.1 = true
    · simp [hp]
    · have hlast : reals [p] = [] := reals_eq_nil_iff.mpr (by simpa using hp)
      simp [hp, reals_append, ih, hlast]

theorem isAbsolute_iff {path : String} : isAbsolute path = true ↔ ∃ r, path.toList = '/' :: r := by
  rw [isAbsolute]
  split
  · simp_all
  · simp_all

/-- A path starts at the root if nothing stands before its first slash. -/
theorem isAbsolute_eq_of_pieces {path : String} {p : List Char} {ps : List (List Char)}
    (h : path.toList.splitOn '/' = p :: ps) (hne : p ≠ [] ∨ ps ≠ []) : isAbsolute path = p.isEmpty := by
  have htext : path.toList = ['/'].intercalate (p :: ps) := by
    rw [← h, List.intercalate_splitOn]
  have hmem : p ∈ path.toList.splitOn '/' := by simp [h]
  rw [Bool.eq_iff_iff, isAbsolute_iff, htext]
  cases ps with
  | nil =>
    cases p with
    | nil => simp at hne
    | cons c r =>
      have hc : c ≠ '/' := fun hc => slash_notMem_pieces hmem (by simp [hc])
      simp [hc]
  | cons q qs =>
    cases p with
    | nil => simp
    | cons c r =>
      have hc : c ≠ '/' := fun hc => slash_notMem_pieces hmem (by simp [hc])
      simp [hc]

section

variable {path : String} {kept : List (Bool × List Char)}

/-- The first pieces of a path, as a path of their own, are cut in the same way. -/
theorem pieces_of_prefix (hne : kept ≠ []) (h : kept <+: markedPieces path) :
    (String.intercalate "/" (kept.map fun p => String.ofList p.2)).toList.splitOn '/' = kept.map Prod.snd := by
  have hsub : kept.map Prod.snd <+: path.toList.splitOn '/' := by
    have hmap := h.map Prod.snd
    rwa [markedPieces, map_snd_marked] at hmap
  rw [String.toList_intercalate, List.map_map]
  have hlists : kept.map (String.toList ∘ fun p => String.ofList p.2) = kept.map Prod.snd := by
    simp [Function.comp_def]
  rw [hlists]
  apply List.splitOn_intercalate
  · intro p hp
    exact slash_notMem_pieces (hsub.subset hp)
  · simpa using hne

theorem markedPieces_of_prefix (hne : kept ≠ []) (h : kept <+: markedPieces path) :
    markedPieces (String.intercalate "/" (kept.map fun p => String.ofList p.2)) = kept := by
  have htake : kept = (markedPieces path).take kept.length := List.prefix_iff_eq_take.mp h
  rw [markedPieces, pieces_of_prefix hne h, htake, markedPieces, ← marked_take, map_snd_marked]

theorem isAbsolute_of_prefix (hreal : reals kept ≠ []) (h : kept <+: markedPieces path) :
    isAbsolute (String.intercalate "/" (kept.map fun p => String.ofList p.2)) = isAbsolute path := by
  have hne : kept ≠ [] := fun hnil => hreal (by rw [hnil]; rfl)
  have hpieces := pieces_of_prefix hne h
  have hsub := h.map Prod.snd
  rw [markedPieces, map_snd_marked] at hsub
  have hmarked : kept = marked (kept.map Prod.snd) := by
    rw [← hpieces, ← markedPieces, markedPieces_of_prefix hne h]
  cases hk : kept.map Prod.snd with
  | nil => simp [hne] at hk
  | cons p ps =>
    have hshape : p ≠ [] ∨ ps ≠ [] := by
      by_contra hnot
      simp only [not_or, not_not] at hnot
      rw [hk, hnot.1, hnot.2] at hmarked
      exact hreal (by rw [hmarked]; rfl)
    rw [hk] at hpieces hsub
    obtain ⟨rest, hrest⟩ := hsub
    rw [isAbsolute_eq_of_pieces hpieces hshape, isAbsolute_eq_of_pieces hrest.symm]
    rcases hshape with hp | hps
    · exact Or.inl hp
    · exact Or.inr (by simp [hps])

end

/-- A parent has all components but the last one. -/
theorem components_parent? {path p : String} (h : parent? path = some p) :
    components p = (components path).dropLast := by
  rw [parent?] at h
  cases hrev : (trimmed (markedPieces path)).reverse with
  | nil => simp [hrev] at h
  | cons last before =>
    have hsplit : trimmed (markedPieces path) = before.reverse ++ [last] := by
      rw [← List.reverse_reverse (trimmed _), hrev, List.reverse_cons]
    have hlast : reals [last] = [String.ofList last.2] := by
      have hne : trimmed (markedPieces path) ≠ [] := by simp [hsplit]
      have hnot := List.rdropWhile_last_not (fun p : Bool × List Char => !p.1) (markedPieces path) hne
      simp only [← trimmed_eq, hsplit, List.getLast_append_singleton] at hnot
      simp_all [reals]
    have hreals : reals (markedPieces path) = reals (trimmed before.reverse) ++ [String.ofList last.2] := by
      rw [← reals_trimmed (markedPieces path), hsplit, reals_append, hlast, reals_trimmed]
    have hdrop : (components path).dropLast =
        (if isAbsolute path then ["/"] else []) ++ reals (trimmed before.reverse) := by
      rw [components_eq, hreals, ← List.append_assoc, List.dropLast_concat]
    have hkept : trimmed before.reverse <+: markedPieces path := by
      have hwhole : trimmed (markedPieces path) <+: markedPieces path := List.rdropWhile_prefix _ _
      have hbefore : before.reverse <+: trimmed (markedPieces path) := by simp [hsplit]
      exact ((List.rdropWhile_prefix _ _).trans hbefore).trans hwhole
    rw [hdrop]
    simp only [hrev, Option.some.injEq] at h
    by_cases hnil : trimmed before.reverse = []
    · rw [hnil] at h ⊢
      by_cases habs : isAbsolute path = true
      · simp only [habs, List.isEmpty_nil, Bool.and_self, if_true] at h ⊢
        rw [← h]
        rfl
      · simp only [habs, List.isEmpty_nil, Bool.and_false, List.map_nil, String.intercalate_nil] at h ⊢
        rw [← h]
        rfl
    · have hreal : reals (trimmed before.reverse) ≠ [] := by
        rw [reals_trimmed]
        exact fun hr => hnil (trimmed_eq_nil_iff.mpr hr)
      rw [if_neg (by simp [hnil])] at h
      rw [← h, components_eq, markedPieces_of_prefix hnil hkept, isAbsolute_of_prefix hreal hkept]

theorem parent?_eq_none_iff_reals {path : String} : parent? path = none ↔ reals (markedPieces path) = [] := by
  rw [parent?, ← trimmed_eq_nil_iff]
  split
  · simp_all
  · next hrev =>
    have hne : trimmed (markedPieces path) ≠ [] := fun hnil => by simp [hnil] at hrev
    simp [hne]

/-- Only the empty path and the root have no parent. -/
theorem parent?_eq_none_iff {path : String} :
    parent? path = none ↔ components path = [] ∨ components path = ["/"] := by
  rw [parent?_eq_none_iff_reals, components_eq]
  by_cases habs : isAbsolute path = true
  · simp [habs]
  · have hroot : reals (markedPieces path) ≠ ["/"] := by
      intro heq
      have hmem : "/" ∈ reals (markedPieces path) := by simp [heq]
      obtain ⟨⟨real, p⟩, hp, hreal⟩ := List.mem_filterMap.mp hmem
      have hpiece : p ∈ path.toList.splitOn '/' := by
        rw [← map_snd_marked (path.toList.splitOn '/'), ← markedPieces]
        exact List.mem_map_of_mem hp
      have hslash : p = ['/'] := by
        cases real with
        | false => simp at hreal
        | true =>
          have htext := congrArg String.toList (Option.some.inj hreal)
          simpa using htext
      exact slash_notMem_pieces hpiece (by simp [hslash])
    simp [habs, hroot]

theorem components_eq_nil_iff {path : String} : components path = [] ↔ path = "" := by
  constructor
  · intro h
    rw [components_eq, List.append_eq_nil_iff] at h
    by_contra hne
    cases hlist : path.toList with
    | nil => exact hne (String.toList_eq_nil_iff.mp hlist)
    | cons c r =>
      have hc : c ≠ '/' := by
        intro hc
        have habs : isAbsolute path = true := isAbsolute_iff.mpr ⟨r, by rw [hlist, hc]⟩
        simp [habs] at h
      have hreals := h.2
      rw [markedPieces, hlist, List.splitOn_cons_eq_if_modifyHead] at hreals
      cases hr : r.splitOn '/' with
      | nil => exact absurd hr (List.splitOn_ne_nil _ _)
      | cons p ps => simp [hr, hc, marked, reals, isComponent] at hreals
  · intro h
    rw [h]
    rfl

theorem length_components_parent? {path p : String} (h : parent? path = some p) :
    (components p).length + 1 = (components path).length := by
  have hne : components path ≠ [] := by
    intro hnil
    have hnone := parent?_eq_none_iff.mpr (Or.inl hnil)
    simp [hnone] at h
  have hpos : 0 < (components path).length := List.length_pos_iff.mpr hne
  rw [components_parent? h, List.length_dropLast]
  omega

theorem upward_of_parent {path p : String} (h : parent? path = some p) : upward path = path :: upward p := by
  rw [upward, ← length_components_parent? h, upwardFrom, h]
  rfl

theorem upward_of_no_parent {path : String} (h : parent? path = none) : upward path = [path] := by
  rw [upward]
  cases (components path).length <;> simp [upwardFrom, h]

/-- A path and its successive parents, up to one that has none. -/
inductive Lineage : String → List String → Prop
  | top {path : String} (h : parent? path = none) : Lineage path [path]
  | up {path p : String} {line : List String} (h : parent? path = some p) (hline : Lineage p line) :
    Lineage path (path :: line)

theorem lineage_upward (path : String) : Lineage path (upward path) := by
  induction hn : (components path).length generalizing path with
  | zero =>
    have hnone : parent? path = none := parent?_eq_none_iff.mpr (Or.inl (List.length_eq_zero_iff.mp hn))
    rw [upward_of_no_parent hnone]
    exact .top hnone
  | succ n ih =>
    cases hp : parent? path with
    | none =>
      rw [upward_of_no_parent hp]
      exact .top hp
    | some p =>
      have hlen := length_components_parent? hp
      rw [upward_of_parent hp]
      exact .up hp (ih p (by omega))

theorem Lineage.eq_upward {path : String} {line : List String} (h : Lineage path line) : line = upward path := by
  induction h with
  | top hnone => exact (upward_of_no_parent hnone).symm
  | up hp hline ih => rw [upward_of_parent hp, ih]

theorem Lineage.getLast? {path : String} {line : List String} (h : Lineage path line) :
    ∃ top ∈ line.getLast?, top = "" ∨ components top = ["/"] := by
  induction h with
  | @top path hnone =>
    refine ⟨path, by simp, ?_⟩
    rwa [parent?_eq_none_iff, components_eq_nil_iff] at hnone
  | @up path p line hp hline ih =>
    obtain ⟨top, htop, hroot⟩ := ih
    cases line with
    | nil => simp at htop
    | cons q qs => exact ⟨top, by simpa using htop, hroot⟩

/-- On the way up, every path loses its last component. -/
theorem Lineage.isChain {path : String} {line : List String} (h : Lineage path line) :
    line.IsChain fun p q => components q = (components p).dropLast := by
  induction h with
  | top hnone => exact .singleton _
  | @up path p line hp hline ih =>
    cases hline with
    | top hnone => exact .cons_cons (components_parent? hp) ih
    | up hq hrest => exact .cons_cons (components_parent? hp) ih

def base (folder : String) : List Char :=
  match folder.toList.getLast? with
  | none => []
  | some '/' => folder.toList
  | some _ => folder.toList ++ ['/']

theorem toList_join (folder name : String) : (join folder name).toList = base folder ++ name.toList := by
  unfold join base
  cases folder.toList.getLast? with
  | none => simp
  | some c => split <;> simp_all

theorem exists_base {folder : String} (hne : folder ≠ "") : ∃ front, base folder = front ++ ['/'] := by
  rw [base]
  split
  · next hlast => simp_all
  · next hlast =>
    obtain ⟨front, hfront⟩ := List.getLast?_eq_some_iff.mp hlast
    exact ⟨front, hfront⟩
  · exact ⟨folder.toList, rfl⟩

theorem prefix_base (folder : String) : folder.toList <+: base folder := by
  rw [base]
  split
  · next hlast => simp_all
  · exact List.prefix_refl _
  · exact List.prefix_append _ _

/-- A text that can be the name of an entry of a folder. -/
structure IsName (name : String) : Prop where
  ne_empty : name ≠ ""
  ne_here : name ≠ "."
  ne_above : name ≠ ".."
  slash_notMem : '/' ∉ name.toList

instance (name : String) : Decidable (IsName name) :=
  decidable_of_iff (name ≠ "" ∧ name ≠ "." ∧ name ≠ ".." ∧ '/' ∉ name.toList)
    ⟨fun h => ⟨h.1, h.2.1, h.2.2.1, h.2.2.2⟩, fun h => ⟨h.1, h.2, h.3, h.4⟩⟩

section

variable {folder name : String}

theorem join_ne_empty (hname : IsName name) : join folder name ≠ "" := by
  intro hempty
  have hlist := toList_join folder name
  rw [hempty] at hlist
  have hnil : name.toList = [] := by simp_all
  exact hname.ne_empty (String.toList_eq_nil_iff.mp hnil)

/-- A name does not end in a slash, so what is inside it follows one. -/
theorem base_join (hname : IsName name) : base (join folder name) = base folder ++ name.toList ++ ['/'] := by
  have hlast : ∀ c, (join folder name).toList.getLast? = some c → c ∈ name.toList := by
    intro c hc
    have hne : name.toList ≠ [] := fun hnil => hname.ne_empty (String.toList_eq_nil_iff.mp hnil)
    rw [toList_join, List.getLast?_append_of_ne_nil _ hne] at hc
    exact List.mem_of_getLast? hc
  rw [base, ← toList_join]
  split
  · next hnone => exact absurd (by simpa using hnone) (join_ne_empty hname)
  · next hslash => exact absurd (hlast _ hslash) hname.slash_notMem
  · rfl

/-- A name that is put inside a folder is the name of the path. -/
theorem fileName?_join (hfolder : folder ≠ "") (hname : IsName name) :
    fileName? (join folder name) = some name := by
  obtain ⟨front, hfront⟩ := exists_base hfolder
  have hpieces : (join folder name).toList.splitOn '/' = front.splitOn '/' ++ [name.toList] := by
    rw [toList_join, hfront, List.append_assoc, List.singleton_append, List.splitOn_append_cons_self,
      List.splitOn_eq_singleton hname.slash_notMem]
  have hfrontNe : front.splitOn '/' ≠ [] := List.splitOn_ne_nil _ _
  have hreal : isComponent false name.toList = true := by
    have hdot : name.toList ≠ ['.'] := fun h => hname.ne_here (String.ext h)
    have hnil : name.toList ≠ [] := fun h => hname.ne_empty (String.ext h)
    simp [isComponent, hdot, hnil]
  have hlast : (components (join folder name)).getLast? = some name := by
    rw [components_eq, markedPieces, hpieces, marked_append hfrontNe, reals_append, ← List.append_assoc]
    simp [reals, hreal]
  have hroot : name ≠ "/" := fun h => hname.slash_notMem (by simp [h])
  rw [fileName?, hlast]
  split <;> simp_all [hname.ne_here, hname.ne_above]

end

end DomFlow.Path
