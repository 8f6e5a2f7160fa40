import DomFlow.Command.Discovery
import DomFlow.Proofs.Lists
import DomFlow.Proofs.Paths
import Mathlib.Data.List.Nodup

/-! # What discovery finds

Discovery goes through a folder with all folders inside it, and leaves out whole folders on the way. Here its
result is compared with that of a walk that leaves out nothing and looks at the whole path of every file only
afterwards. Both are the same: a text that occurs in the path of a folder occurs in all paths below it.

The walk is in the order of the names, compared byte by byte. This is the order of the code points too, since no
encoding of a character is the beginning of another one, and greater characters have greater encodings. -/

namespace DomFlow

def Text.bytes (s : String) : List UInt8 := s.toUTF8.data.toList

namespace Text

theorem bytes_eq_flatMap (s : String) : bytes s = s.toList.flatMap String.utf8EncodeChar := by
  rw [bytes, String.toUTF8_eq_toByteArray, ← String.utf8Encode_toList]
  simp [List.utf8Encode]

/-- Numbers compare by the first of their digits that differs; a character has at most four. -/
theorem digits_lt {v w : Nat} (h : v < w) :
    v / 262144 < w / 262144 ∨ v / 262144 = w / 262144 ∧
      (v / 4096 % 64 < w / 4096 % 64 ∨ v / 4096 % 64 = w / 4096 % 64 ∧
        (v / 64 % 64 < w / 64 % 64 ∨ v / 64 % 64 = w / 64 % 64 ∧ v % 64 < w % 64)) := by
  by_cases h3 : v / 262144 = w / 262144
  · by_cases h2 : v / 4096 = w / 4096
    · by_cases h1 : v / 64 = w / 64
      · omega
      · omega
    · omega
  · omega

/-- The encodings of two characters differ before either of them ends. -/
theorem utf8EncodeChar_append_lt {c d : Char} (h : c < d) (x y : List UInt8) :
    String.utf8EncodeChar c ++ x < String.utf8EncodeChar d ++ y := by
  have hlt : c.val.toNat < d.val.toNat := h
  have hd : d.val.toNat < 0xd800 ∨ 0xdfff < d.val.toNat ∧ d.val.toNat < 0x110000 := d.valid
  have hdigits := digits_lt hlt
  simp only [String.utf8EncodeChar]
  generalize c.val.toNat = v at *
  generalize d.val.toNat = w at *
  split_ifs <;>
    simp only [List.cons_append, List.nil_append, List.cons_lt_cons_iff, UInt8.lt_iff_toNat_lt, ← UInt8.toNat_inj,
      UInt8.toNat_ofNat'] <;>
    simp (disch := omega) only [Nat.mod_eq_of_lt] <;> omega

theorem flatMap_utf8EncodeChar_lt {a b : List Char} (h : a < b) :
    a.flatMap String.utf8EncodeChar < b.flatMap String.utf8EncodeChar := by
  induction a generalizing b with
  | nil =>
    cases b with
    | nil => exact absurd h (List.lt_irrefl _)
    | cons d s =>
      cases hd : String.utf8EncodeChar d with
      | nil => exact absurd hd String.utf8EncodeChar_ne_nil
      | cons u us =>
        rw [List.flatMap_nil, List.flatMap_cons, hd]
        exact List.nil_lt_cons _ _
  | cons c r ih =>
    cases b with
    | nil => exact absurd h (List.not_lt_nil _)
    | cons d s =>
      rw [List.flatMap_cons, List.flatMap_cons]
      rcases List.cons_lt_cons_iff.mp h with hcd | ⟨rfl, hrs⟩
      · exact utf8EncodeChar_append_lt hcd _ _
      · exact List.append_left_lt (ih hrs)

/-- Texts in the order of their code points are in the order of their bytes. -/
theorem bytes_lt {a b : String} (h : a < b) : bytes a < bytes b := by
  rw [bytes_eq_flatMap, bytes_eq_flatMap]
  exact flatMap_utf8EncodeChar_lt (String.lt_iff.mp h)

end Text

namespace Path

/-- The path to which names lead from a folder. -/
def below (folder : String) (names : List String) : String := names.foldl join folder

theorem below_cons (folder name : String) (names : List String) :
    below folder (name :: names) = below (join folder name) names := rfl

theorem prefix_below (folder : String) (names : List String) : folder.toList <+: (below folder names).toList := by
  induction names generalizing folder with
  | nil => exact List.prefix_refl _
  | cons name names ih =>
    have hjoin : folder.toList <+: (join folder name).toList := by
      rw [toList_join]
      exact (prefix_base folder).trans (List.prefix_append _ _)
    exact hjoin.trans (ih (join folder name))

theorem toList_below {folder : String} {names : List String} (hne : names ≠ []) (hnames : ∀ n ∈ names, IsName n) :
    (below folder names).toList = base folder ++ ['/'].intercalate (names.map String.toList) := by
  induction names generalizing folder with
  | nil => exact absurd rfl hne
  | cons name names ih =>
    rw [below_cons]
    cases names with
    | nil => simp [below, toList_join]
    | cons n r =>
      rw [ih (by simp) (fun x hx => hnames x (by simp [hx])), base_join (hnames name (by simp))]
      simp

/-- Different names lead to different paths. -/
theorem below_inj {folder : String} {names names' : List String} (hne : names ≠ []) (hne' : names' ≠ [])
    (hnames : ∀ n ∈ names, IsName n) (hnames' : ∀ n ∈ names', IsName n)
    (h : below folder names = below folder names') : names = names' := by
  have htext := congrArg String.toList h
  rw [toList_below hne hnames, toList_below hne' hnames', List.append_cancel_left_eq] at htext
  have hcut := congrArg (List.splitOn '/') htext
  rw [List.splitOn_intercalate, List.splitOn_intercalate] at hcut
  · exact List.map_injective_iff.mpr (fun _ _ => String.toList_injective) hcut
  · simpa using fun n hn => (hnames' n hn).slash_notMem
  · simpa using hne'
  · simpa using fun n hn => (hnames n hn).slash_notMem
  · simpa using hne

end Path

namespace FileTree

def descend? (t : FileTree) : List String → Option FileTree
  | [] => some t
  | name :: names => (t.child? name).bind fun c => c.descend? names

/-- In every folder the names are names, and no two are the same. -/
inductive WellNamed : FileTree → Prop
  | file (text : Option String) : WellNamed (.file text)
  | folder {es : List (String × FileTree)} (hdistinct : (es.map Prod.fst).Nodup)
      (hnames : ∀ e ∈ es, Path.IsName e.1) (htrees : ∀ e ∈ es, WellNamed e.2) : WellNamed (.folder es)

/-- One file comes before another one if, where their ways part, its name is less byte by byte. -/
def Before : List String → List String → Prop := List.Lex fun a b => Text.bytes a < Text.bytes b

/-- All files of a tree, each by the names that lead to it, folder by folder in the order of the names. -/
structure IsWalk (t : FileTree) (walk : List (List String)) : Prop where
  complete : ∀ names, names ∈ walk ↔ ∃ text, t.descend? names = some (.file text)
  ordered : walk.Pairwise Before

mutual

def fullWalk : FileTree → List (List String)
  | .file _ => [[]]
  | .folder es => (Assoc.inOrder (fullWalks es)).flatMap fun e => e.2.map (e.1 :: ·)

/-- The walks through the entries of a folder, with their names. -/
def fullWalks : List (String × FileTree) → List (String × List (List String))
  | [] => []
  | (name, t) :: r => (name, t.fullWalk) :: fullWalks r

end

theorem fullWalks_eq_map (es : List (String × FileTree)) : fullWalks es = es.map fun e => (e.1, e.2.fullWalk) := by
  induction es with
  | nil => rfl
  | cons e r ih => rw [fullWalks, ih, List.map_cons]

theorem fullWalk_folder (es : List (String × FileTree)) :
    (folder es).fullWalk = (Assoc.inOrder es).flatMap fun e => e.2.fullWalk.map (e.1 :: ·) := by
  rw [fullWalk, fullWalks_eq_map, Assoc.inOrder_map, List.flatMap_map]

theorem mem_fullWalk_iff {t : FileTree} (ht : t.WellNamed) {names : List String} :
    names ∈ t.fullWalk ↔ ∃ text, t.descend? names = some (.file text) := by
  induction ht generalizing names with
  | file text =>
    cases names with
    | nil => simp [fullWalk, descend?]
    | cons n r => simp [fullWalk, descend?, child?]
  | @folder es hdistinct hnames htrees ih =>
    rw [fullWalk_folder]
    cases names with
    | nil => simp [descend?]
    | cons n r =>
      simp only [List.mem_flatMap, Assoc.mem_inOrder, List.mem_map, List.cons.injEq, descend?, Option.bind_eq_some_iff,
        child?, Assoc.lookup_eq_some_iff hdistinct]
      constructor
      · rintro ⟨e, he, r', hr', rfl, rfl⟩
        obtain ⟨text, htext⟩ := (ih e he).mp hr'
        exact ⟨text, e.2, he, htext⟩
      · rintro ⟨text, c, hc, htext⟩
        exact ⟨(n, c), hc, r, (ih _ hc).mpr ⟨text, htext⟩, rfl, rfl⟩

theorem fullWalk_ordered {t : FileTree} (ht : t.WellNamed) : t.fullWalk.Pairwise Before := by
  induction ht with
  | file text => simp [fullWalk]
  | @folder es hdistinct hnames htrees ih =>
    rw [fullWalk_folder, List.pairwise_flatMap]
    constructor
    · intro e he
      rw [List.pairwise_map]
      exact (ih e (Assoc.mem_inOrder.mp he)).imp fun h => .cons h
    · apply (Assoc.inOrder_sorted hdistinct).imp
      intro a b hab x hx y hy
      obtain ⟨r, -, rfl⟩ := List.mem_map.mp hx
      obtain ⟨s, -, rfl⟩ := List.mem_map.mp hy
      exact .rel (Text.bytes_lt hab)

theorem ne_nil_of_mem_fullWalk {es : List (String × FileTree)} {names : List String}
    (h : names ∈ (folder es).fullWalk) : names ≠ [] := by
  simp only [fullWalk_folder, List.mem_flatMap, List.mem_map] at h
  obtain ⟨e, -, r, -, rfl⟩ := h
  exact List.cons_ne_nil _ _

theorem isWalk_fullWalk {t : FileTree} (ht : t.WellNamed) : t.IsWalk t.fullWalk :=
  ⟨fun _ => mem_fullWalk_iff ht, fullWalk_ordered ht⟩

/-- All names on the way to a file are names of entries. -/
theorem isName_of_mem_fullWalk {t : FileTree} (ht : t.WellNamed) {names : List String} (h : names ∈ t.fullWalk) :
    ∀ n ∈ names, Path.IsName n := by
  induction ht generalizing names with
  | file text => simp_all [fullWalk]
  | @folder es hdistinct hnames htrees ih =>
    simp only [fullWalk_folder, List.mem_flatMap, Assoc.mem_inOrder, List.mem_map] at h
    obtain ⟨e, he, r, hr, rfl⟩ := h
    intro n hn
    rcases List.mem_cons.mp hn with rfl | hn
    · exact hnames e he
    · exact ih e he hr n hn

end FileTree

namespace Config

theorem occursIn_iff_infix {part cs : List Char} : occursIn part cs = true ↔ part <:+: cs := by
  induction cs with
  | nil => simp [occursIn]
  | cons c r ih => rw [occursIn, Bool.or_eq_true, List.isPrefixOf_iff_prefix, ih, List.infix_cons_iff]

theorem isExcluded_iff {c : Config} {path : String} :
    c.isExcluded path = true ↔ ∃ e ∈ c.exclude, e ≠ "" ∧ e.toList <:+: path.toList := by
  simp [isExcluded, occursIn_iff_infix]

/-- What is left out stays so with whatever is below it. -/
theorem isExcluded_below {c : Config} {folder : String} (names : List String) (h : c.isExcluded folder = true) :
    c.isExcluded (Path.below folder names) = true := by
  rw [isExcluded_iff] at h ⊢
  obtain ⟨e, he, hne, hinfix⟩ := h
  exact ⟨e, he, hne, hinfix.trans (Path.prefix_below folder names).isInfix⟩

end Config

namespace Command

/-- An extension stands after a dot, and something stands before that. -/
theorem exists_stem_of_extension? {name ext : String} (h : Path.extension? name = some ext) :
    ∃ stem, stem ≠ "" ∧ name = stem ++ "." ++ ext := by
  obtain ⟨hlong, htail⟩ := Option.ite_none_right_eq_some.mp h
  simp only [Bool.and_eq_true, decide_eq_true_eq] at hlong
  have hsplit : name.toList.reverse.takeWhile (· != '.') ++ name.toList.reverse.dropWhile (· != '.') =
      name.toList.reverse := List.takeWhile_append_dropWhile
  generalize name.toList.reverse.takeWhile (· != '.') = tail at hsplit hlong htail
  cases hrest : name.toList.reverse.dropWhile (· != '.') with
  | nil =>
    have hlen := congrArg List.length hsplit
    simp only [hrest, List.append_nil, List.length_reverse, String.length_toList] at hlen
    omega
  | cons d front =>
    have hd : d = '.' := by
      have hhead := List.head?_dropWhile_not (· != '.') name.toList.reverse
      simpa [hrest] using hhead
    have hname : name.toList = front.reverse ++ '.' :: tail.reverse := by
      rw [hrest, hd] at hsplit
      have hback := congrArg List.reverse hsplit
      simpa using hback.symm
    refine ⟨String.ofList front.reverse, ?_, ?_⟩
    · intro hempty
      have hfront : front = [] := by simpa using congrArg String.toList hempty
      have hlen := congrArg List.length hname
      simp only [hfront, List.reverse_nil, List.nil_append, List.length_cons, List.length_reverse,
        String.length_toList] at hlen
      omega
    · apply String.ext
      rw [hname, ← Option.some.inj htail]
      simp

theorem extension?_append {stem ext : String} (hstem : stem ≠ "") (hext : ext ≠ "") (hdot : '.' ∉ ext.toList) :
    Path.extension? (stem ++ "." ++ ext) = some ext := by
  have htail : (stem ++ "." ++ ext).toList.reverse.takeWhile (· != '.') = ext.toList.reverse := by
    have hall : ∀ c ∈ ext.toList.reverse, (c != '.') = true := by
      intro c hc
      rw [bne_iff_ne]
      exact fun heq => hdot (heq ▸ List.mem_reverse.mp hc)
    rw [String.toList_append, String.toList_append, List.reverse_append, List.takeWhile_append_of_pos hall]
    simp
  have hlength : (stem ++ "." ++ ext).length = stem.length + 1 + ext.length := by
    rw [String.length_append, String.length_append]
    rfl
  have hpos : ∀ s : String, s ≠ "" → 0 < s.length := by
    intro s hs
    rw [← String.length_toList, List.length_pos_iff]
    simpa using hs
  have hlong : ext.toList.reverse.length + 1 < (stem ++ "." ++ ext).length := by
    have := hpos stem hstem
    rw [hlength, List.length_reverse, String.length_toList]
    omega
  have hname : stem ++ "." ++ ext ≠ ".." := by
    intro heq
    have := hpos stem hstem
    have := hpos ext hext
    have htwo : (stem ++ "." ++ ext).length = 2 := by rw [heq]; rfl
    omega
  simp only [Path.extension?, htail]
  rw [if_pos (by simp only [Bool.and_eq_true, decide_eq_true_eq, bne_iff_ne]; exact ⟨hlong, hname⟩)]
  simp

theorem isScriptName_iff {name : String} :
    isScriptName name = true ↔ ∃ stem ext, stem ≠ "" ∧ ext ∈ scriptExtensions ∧ name = stem ++ "." ++ ext := by
  rw [isScriptName, Option.any_eq_true]
  constructor
  · rintro ⟨ext, hsome, hext⟩
    obtain ⟨stem, hstem, hname⟩ := exists_stem_of_extension? hsome
    exact ⟨stem, ext, hstem, by simpa using hext, hname⟩
  · rintro ⟨stem, ext, hstem, hmem, rfl⟩
    have hplain : ∀ ext ∈ scriptExtensions, ext ≠ "" ∧ '.' ∉ ext.toList := by decide
    exact ⟨ext, extension?_append hstem (hplain ext hmem).1 (hplain ext hmem).2, by simpa using hmem⟩

theorem isHiddenName_iff {name : String} :
    isHiddenName name = true ↔ ['.'] <+: name.toList ∨ name = "node_modules" := by
  rw [isHiddenName, Bool.or_eq_true, beq_iff_eq, beq_iff_eq]
  cases name.toList <;> simp [eq_comm]

/-- Whether a file is wanted, by its own path: it is a script, none of the names on the way to it is hidden, and the
whole path is not left out. -/
def isWanted (c : Config) (root : String) (names : List String) : Bool :=
  names.getLast?.any isScriptName && names.all (fun n => !isHiddenName n) && !c.isExcluded (Path.below root names)

/-- Whether an entry of a folder is passed over. -/
def isPassedOver (c : Config) (folder name : String) : Bool :=
  isHiddenName name || c.isExcluded (Path.join folder name)

section

variable {c : Config} {path name : String}

theorem scriptsIn_eq_map (es : List (String × FileTree)) :
    scriptsIn c path es = (es.filter fun e => !isPassedOver c path e.1).map
      fun e => (e.1, scriptsAt c (Path.join path e.1) e.2) := by
  induction es with
  | nil => rfl
  | cons e r ih =>
    rw [scriptsIn, ih]
    change (if isPassedOver c path e.1 = true then _ else _) = _
    by_cases hout : isPassedOver c path e.1 = true
    · simp [hout]
    · simp [hout]

theorem scriptsAt_folder {es : List (String × FileTree)} (hdistinct : (es.map Prod.fst).Nodup) :
    scriptsAt c path (.folder es) = ((Assoc.inOrder es).filter fun e => !isPassedOver c path e.1).flatMap
      fun e => scriptsAt c (Path.join path e.1) e.2 := by
  rw [scriptsAt, scriptsIn_eq_map, Assoc.inOrder_map, Assoc.inOrder_filter hdistinct, List.flatMap_map]

/-- Nothing is wanted in a folder that is passed over. -/
theorem isWanted_of_isPassedOver (h : isPassedOver c path name = true) (names : List String) :
    isWanted c path (name :: names) = false := by
  rw [isPassedOver, Bool.or_eq_true] at h
  rcases h with hhidden | hexcluded
  · simp [isWanted, hhidden]
  · simp [isWanted, Path.below_cons, Config.isExcluded_below names hexcluded]

/-- In any other folder, what is wanted there is wanted. -/
theorem isWanted_cons (h : isPassedOver c path name = false) {names : List String} (hne : names ≠ []) :
    isWanted c path (name :: names) = isWanted c (Path.join path name) names := by
  rw [isPassedOver, Bool.or_eq_false_iff] at h
  rw [isWanted, isWanted, List.getLast?_cons_of_ne_nil hne, Path.below_cons, List.all_cons, h.1]
  simp

theorem isWanted_singleton (h : isPassedOver c path name = false) : isWanted c path [name] = isScriptName name := by
  rw [isPassedOver, Bool.or_eq_false_iff] at h
  simp [isWanted, Path.below, h]

/-- Passing over whole folders finds the files that are wanted by their own paths. -/
theorem scriptsAt_eq_filter {es : List (String × FileTree)} (ht : (FileTree.folder es).WellNamed) (hpath : path ≠ "") :
    scriptsAt c path (.folder es) =
      ((FileTree.folder es).fullWalk.filter (isWanted c path)).map (Path.below path) := by
  generalize hfolder : FileTree.folder es = t at ht
  induction ht generalizing es path with
  | file text => cases hfolder
  | @folder es' hdistinct hnames htrees ih =>
    cases hfolder
    rw [scriptsAt_folder hdistinct, FileTree.fullWalk_folder, List.filter_flatMap, List.map_flatMap]
    apply Lists.flatMap_filter_of_nil
    · rintro ⟨name, t⟩ he hkept
      have hmem := Assoc.mem_inOrder.mp he
      have hin : isPassedOver c path name = false := by simpa using hkept
      have hname := hnames _ hmem
      cases t with
      | file text =>
        have hwanted := isWanted_singleton hin
        by_cases hscript : isScriptName name = true
        · simp [scriptsAt, FileTree.fullWalk, Path.fileName?_join hpath hname, hwanted, hscript, Path.below]
        · simp [scriptsAt, FileTree.fullWalk, Path.fileName?_join hpath hname, hwanted, hscript]
      | folder es'' =>
        rw [ih _ hmem (Path.join_ne_empty hname) rfl, List.filter_map, List.map_map]
        have hsame : ∀ names ∈ (FileTree.folder es'').fullWalk,
            isWanted c (Path.join path name) names = isWanted c path (name :: names) :=
          fun names h => (isWanted_cons hin (FileTree.ne_nil_of_mem_fullWalk h)).symm
        rw [List.filter_congr hsame]
        rfl
    · rintro ⟨name, t⟩ he hout
      have hover : isPassedOver c path name = true := by simpa using hout
      simp [List.filter_map, Function.comp_def, isWanted_of_isPassedOver hover]

end

/-- What makes a file wanted. -/
structure Wanted (c : Config) (root : String) (names : List String) : Prop where
  script : ∃ stem ext, stem ≠ "" ∧ ext ∈ ["js", "mjs", "cjs"] ∧ names.getLast? = some (stem ++ "." ++ ext)
  visible : ∀ name ∈ names, ¬['.'] <+: name.toList ∧ name ≠ "node_modules"
  included : ∀ e ∈ c.exclude, e ≠ "" → ¬e.toList <:+: (Path.below root names).toList

theorem isWanted_iff {c : Config} {root : String} {names : List String} :
    isWanted c root names = true ↔ Wanted c root names := by
  have hscript : names.getLast?.any isScriptName = true ↔
      ∃ stem ext, stem ≠ "" ∧ ext ∈ ["js", "mjs", "cjs"] ∧ names.getLast? = some (stem ++ "." ++ ext) := by
    rw [Option.any_eq_true]
    constructor
    · rintro ⟨name, hlast, hname⟩
      obtain ⟨stem, ext, hstem, hext, rfl⟩ := isScriptName_iff.mp hname
      exact ⟨stem, ext, hstem, hext, hlast⟩
    · rintro ⟨stem, ext, hstem, hext, hlast⟩
      exact ⟨_, hlast, isScriptName_iff.mpr ⟨stem, ext, hstem, hext, rfl⟩⟩
  have hvisible : (names.all fun n => !isHiddenName n) = true ↔
      ∀ name ∈ names, ¬['.'] <+: name.toList ∧ name ≠ "node_modules" := by
    simp only [List.all_eq_true, Bool.not_eq_true', ← Bool.not_eq_true, isHiddenName_iff, not_or, ne_eq]
  have hincluded : (!c.isExcluded (Path.below root names)) = true ↔
      ∀ e ∈ c.exclude, e ≠ "" → ¬e.toList <:+: (Path.below root names).toList := by
    simp only [Bool.not_eq_true', ← Bool.not_eq_true, Config.isExcluded_iff, not_exists, not_and]
  rw [isWanted, Bool.and_eq_true, Bool.and_eq_true, hscript, hvisible, hincluded]
  exact ⟨fun h => ⟨h.1.1, h.1.2, h.2⟩, fun h => ⟨⟨h.script, h.visible⟩, h.included⟩⟩

/-- Discovery in a folder finds, once each and in the order of a walk through everything, the files of the walk that
are wanted by their own paths. -/
theorem discover_exact {files : FileTree} {root : String} {entries : List (String × FileTree)} (c : Config)
    (hroot : files.get? root = some (.folder entries)) (hnames : (FileTree.folder entries).WellNamed) :
    ∃ walk found, (FileTree.folder entries).IsWalk walk ∧ found = walk.filter (isWanted c root) ∧
      discover files c root = some (found.map (Path.below root)) ∧
      (found.map (Path.below root)).Nodup ∧ found.Pairwise FileTree.Before ∧
      ∀ names, names ∈ found ↔
        (∃ text, (FileTree.folder entries).descend? names = some (.file text)) ∧ Wanted c root names := by
  have hwalk := FileTree.isWalk_fullWalk hnames
  have hpath : root ≠ "" := by
    intro hempty
    simp [hempty, FileTree.get?] at hroot
  refine ⟨_, _, hwalk, rfl, ?_, ?_, hwalk.ordered.filter _, ?_⟩
  · rw [discover, hroot, Option.map_some, scriptsAt_eq_filter hnames hpath]
  · rw [List.nodup_map_iff_inj_on]
    · intro names hmem names' hmem' hsame
      rw [List.mem_filter] at hmem hmem'
      exact Path.below_inj (FileTree.ne_nil_of_mem_fullWalk hmem.1) (FileTree.ne_nil_of_mem_fullWalk hmem'.1)
        (FileTree.isName_of_mem_fullWalk hnames hmem.1) (FileTree.isName_of_mem_fullWalk hnames hmem'.1) hsame
    · apply (hwalk.ordered.filter _).imp
      rintro names _ hbefore rfl
      exact List.lex_irrefl (fun n => List.lt_irrefl (Text.bytes n)) names hbefore
  · intro names
    rw [List.mem_filter, hwalk.complete, isWanted_iff]

/-- A folder with scripts, some of them in a folder that is left out or hidden. -/
def mixedFolder : List (String × FileTree) :=
  [("v", .folder [("b.js", .file none)]), ("a.b", .folder [("z.mjs", .file none), ("y", .file none)]),
    ("a.js", .file none), (".g", .folder [("c.js", .file none)])]

theorem wellNamed_mixedFolder : (FileTree.folder mixedFolder).WellNamed := by
  refine .folder (by decide) (by decide) ?_
  simp only [mixedFolder, List.forall_mem_cons, List.not_mem_nil, false_implies, implies_true, and_true]
  refine ⟨?_, ?_, .file _, ?_⟩ <;>
    exact .folder (by decide) (by decide) (by simp [FileTree.WellNamed.file])

theorem discover_exact_mixedFolder :
    (FileTree.folder [("s", .folder mixedFolder)]).get? "s" = some (.folder mixedFolder) ∧
    (FileTree.folder mixedFolder).WellNamed ∧
    ∃ found : List (List String), discover (.folder [("s", .folder mixedFolder)]) { exclude := ["/v", ""] } "s" =
        some (found.map (Path.below "s")) ∧
      ["a.js"] ∈ found ∧ ["a.b", "z.mjs"] ∈ found ∧ ["a.b", "y"] ∉ found ∧ ["v", "b.js"] ∉ found ∧
      [".g", "c.js"] ∉ found := by
  have hroot : (FileTree.folder [("s", .folder mixedFolder)]).get? "s" = some (.folder mixedFolder) := rfl
  obtain ⟨walk, found, hwalk, hfound, hdiscover, -, -, hmem⟩ :=
    discover_exact { exclude := ["/v", ""] } hroot wellNamed_mixedFolder
  refine ⟨hroot, wellNamed_mixedFolder, found, hdiscover, ?_, ?_, ?_, ?_, ?_⟩
  · exact (hmem _).mpr ⟨⟨none, rfl⟩, isWanted_iff.mp (by decide)⟩
  · exact (hmem _).mpr ⟨⟨none, rfl⟩, isWanted_iff.mp (by decide)⟩
  · exact fun h => absurd (isWanted_iff.mpr ((hmem _).mp h).2) (by decide)
  · exact fun h => absurd (isWanted_iff.mpr ((hmem _).mp h).2) (by decide)
  · exact fun h => absurd (isWanted_iff.mpr ((hmem _).mp h).2) (by decide)

end Command

end DomFlow
