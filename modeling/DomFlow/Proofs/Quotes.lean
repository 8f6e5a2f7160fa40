import DomFlow.Proofs.Spellings
import DomFlow.Script.Token
import Mathlib.Data.List.Basic

/-! # Quotes of keys

A key in brackets may be quoted as a string or as a template without substitutions. A string counts as what
it denotes and a template as it is written, line ends apart. So the two have the same name exactly if the
template denotes what is written, that is, if its only escapes are of halves of pairs, which stay as they are
between any quotes. Then nothing around the key tells the two apart; but one escaped letter between back quotes
is enough to hide a flow. -/

namespace DomFlow

namespace Script

namespace Token

def isHex (c : Char) : Bool := (Text.hexDigit? c).isSome

/-- Digits whose number is no character but half of a pair. -/
def IsHalf (ds : List Char) : Prop := 0xD800 ≤ digitValue 16 ds ∧ digitValue 16 ds ≤ 0xDFFF

/-- Text that denotes itself: its only escapes are of halves of pairs. -/
inductive AsWritten : List Char → Prop where
  | nil : AsWritten []
  | char {c : Char} {r : List Char} (hc : c ≠ '\\') (hr : AsWritten r) : AsWritten (c :: r)
  | four {ds r : List Char} (hlength : ds.length = 4) (hhex : ds.all isHex) (hhalf : IsHalf ds)
    (hr : AsWritten r) : AsWritten ('\\' :: 'u' :: (ds ++ r))
  | braced {ds r : List Char} (hhex : ds.all isHex) (hhalf : IsHalf ds) (hr : AsWritten r) :
    AsWritten ('\\' :: 'u' :: '\x7b' :: (ds ++ '\x7d' :: r))

/-- Halves of pairs stay as written, other code points are characters. -/
def CodePoint (ds written t : List Char) : Prop :=
  (IsHalf ds ∧ t = written) ∨ (¬IsHalf ds ∧ t.length = 1)

/-- An escape after its backslash, and a text that it may denote; the long forms are spelt out. -/
inductive Escapes : List Char → List Char → Prop where
  | short {u t : List Char} (hu : u ≠ []) (hhead : u.head? ≠ some 'u') (ht : t.length ≤ 1) : Escapes u t
  | four {ds t : List Char} (hlength : ds.length = 4) (hhex : ds.all isHex)
    (ht : CodePoint ds ('\\' :: 'u' :: ds) t) : Escapes ('u' :: ds) t
  | braced {ds t : List Char} (hhex : ds.all isHex)
    (ht : CodePoint ds ('\\' :: 'u' :: '\x7b' :: (ds ++ ['\x7d'])) t) :
    Escapes ('u' :: '\x7b' :: (ds ++ ['\x7d'])) t

section

variable {ds cs r t u : List Char}

theorem codePoint_eq_text {written : List Char} (h : codePoint (digitValue 16 ds) written = .text t) :
    CodePoint ds written t := by
  unfold codePoint at h
  split at h
  · cases h
  · have hhalf : (0xD800 ≤ digitValue 16 ds && digitValue 16 ds ≤ 0xDFFF : Bool) = true ↔ IsHalf ds := by
      simp [IsHalf]
    split at h
    next hn =>
      cases h
      exact .inl ⟨hhalf.mp hn, rfl⟩
    next hn =>
      cases h
      exact .inr ⟨fun hds => hn (hhalf.mpr hds), rfl⟩

theorem bracedCodePoint_eq_text (h : bracedCodePoint cs = (.text t, r)) :
    ∃ u, cs = u ++ r ∧ Escapes ('u' :: '\x7b' :: u) t := by
  have hcs := List.takeWhile_append_dropWhile (p := isHex) (l := cs)
  simp only [bracedCodePoint] at h
  split at h
  next r' d ds hdrop htake =>
    obtain ⟨hcode, rfl⟩ := Prod.mk.inj h
    refine ⟨cs.takeWhile isHex ++ ['\x7d'], ?_, .braced List.all_takeWhile (codePoint_eq_text hcode)⟩
    rw [List.append_assoc, List.singleton_append, ← hdrop]
    exact hcs.symm
  next => cases h

theorem fourDigits_eq_some (h : fourDigits cs = some (ds, r)) :
    cs = ds ++ r ∧ ds.length = 4 ∧ ds.all isHex := by
  unfold fourDigits at h
  split at h
  next a b c d r =>
    split at h
    next hhex =>
      cases h
      exact ⟨rfl, rfl, hhex⟩
    next => cases h
  next => cases h

theorem unicodeEscape_eq_text (h : unicodeEscape false cs = (.text t, r)) :
    ∃ u, cs = u ++ r ∧ Escapes ('u' :: u) t := by
  unfold unicodeEscape at h
  split at h
  next cs =>
    obtain ⟨u, rfl, hu⟩ := bracedCodePoint_eq_text h
    exact ⟨'\x7b' :: u, rfl, hu⟩
  next =>
    split at h
    · cases h
    next ds r' hdigits =>
      simp only [Bool.false_and, Bool.false_eq_true, if_false, Prod.mk.injEq] at h
      obtain ⟨hcode, rfl⟩ := h
      obtain ⟨rfl, hlength, hhex⟩ := fourDigits_eq_some hdigits
      exact ⟨ds, rfl, .four hlength hhex (codePoint_eq_text hcode)⟩

theorem readEscape_eq_text (h : readEscape false cs = (.text t, r)) : ∃ u, cs = u ++ r ∧ Escapes u t := by
  have one {c : Char} {t' r' : List Char} (hc : c ≠ 'u') (ht : t'.length ≤ 1)
      (h : (Escape.text t', r') = (.text t, r)) : ∃ u, c :: r' = u ++ r ∧ Escapes u t := by
    cases h
    exact ⟨[c], rfl, .short (by simp) (by simpa using hc) ht⟩
  unfold readEscape at h
  split at h
  · cases h
  next r' =>
    cases h
    exact ⟨['\r', '\n'], rfl, .short (by simp) (by simp) (by simp)⟩
  next c r' hcrlf =>
    split at h
    next hend => exact one (by rintro rfl; simp [isLineEnd] at hend) (by simp) h
    split at h
    iterate 6 exact one (by decide) (by simp) h
    · obtain ⟨u, rfl, hu⟩ := unicodeEscape_eq_text h
      exact ⟨'u' :: u, rfl, hu⟩
    · split at h
      next a b r' =>
        split at h
        · cases h
          exact ⟨['x', a, b], rfl, .short (by simp) (by simp) (by simp)⟩
        · cases h
      · cases h
    next hu _ =>
      split at h
      · split at h
        · exact one hu (by simp) h
        · cases h
      · split at h
        · cases h
        · exact one hu (by simp) h

/-- An escape is at least as long as what it denotes. -/
theorem Escapes.length_le (h : Escapes u t) : t.length ≤ u.length + 1 := by
  cases h with
  | short _ _ ht => omega
  | four _ _ ht => obtain ⟨_, rfl⟩ | ⟨_, ht⟩ := ht <;> simp_all
  | braced _ ht => obtain ⟨_, rfl⟩ | ⟨_, ht⟩ := ht <;> simp_all

theorem Escapes.asWritten (h : Escapes u ('\\' :: u)) (hr : AsWritten r) : AsWritten ('\\' :: (u ++ r)) := by
  cases h with
  | short hu _ ht => simp_all
  | four hlength hhex ht =>
    obtain ⟨hhalf, _⟩ | ⟨_, ht⟩ := ht
    · exact .four hlength hhex hhalf hr
    · simp at ht
  | braced hhex ht =>
    obtain ⟨hhalf, _⟩ | ⟨_, ht⟩ := ht
    · simpa using AsWritten.braced hhex hhalf hr
    · simp at ht

/-- Digits and a closing brace are found again in what follows an opening one. -/
theorem digits_unique {ds' r' : List Char} (hds : ds.all isHex) (hds' : ds'.all isHex)
    (h : ds ++ '\x7d' :: r = ds' ++ '\x7d' :: r') : ds = ds' ∧ r = r' := by
  have front {ds r : List Char} (hds : ds.all isHex) : (ds ++ '\x7d' :: r).takeWhile isHex = ds := by
    rw [List.takeWhile_append_of_pos (List.all_eq_true.mp hds), List.takeWhile_cons_of_neg (by decide),
      List.append_nil]
  have heq : ds = ds' := by rw [← front hds (r := r), h, front hds']
  subst heq
  exact ⟨rfl, List.tail_eq_of_cons_eq (List.append_cancel_left h)⟩

/-- Four digits do not begin with an opening brace. -/
theorem digits_ne_brace {w : List Char} (hlength : ds.length = 4) (hhex : ds.all isHex) :
    ds ++ r ≠ '\x7b' :: w := by
  cases ds with
  | nil => cases hlength
  | cons d ds =>
    intro h
    obtain ⟨rfl, _⟩ := List.cons.inj h
    simp [isHex, Text.hexDigit?] at hhex

/-- The other way round, an escape in text that denotes itself denotes itself. -/
theorem Escapes.of_asWritten (h : Escapes u t) (hr : AsWritten ('\\' :: (u ++ r))) :
    t = '\\' :: u ∧ AsWritten r := by
  generalize hw : u ++ r = w at hr
  cases h with
  | short hu hhead _ =>
    obtain ⟨c, u, rfl⟩ := List.exists_cons_of_ne_nil hu
    cases hr <;> simp_all
  | @four ds _ hlength hhex ht =>
    have hds : IsHalf ds ∧ AsWritten r := by
      cases hr with
      | char hc _ => exact absurd rfl hc
      | four hlength' _ hhalf hr =>
        obtain ⟨rfl, rfl⟩ := List.append_inj (List.tail_eq_of_cons_eq hw) (hlength.trans hlength'.symm)
        exact ⟨hhalf, hr⟩
      | braced _ _ _ => exact absurd (List.tail_eq_of_cons_eq hw) (digits_ne_brace hlength hhex)
    obtain ⟨_, rfl⟩ | ⟨hnot, _⟩ := ht
    · exact ⟨rfl, hds.2⟩
    · exact absurd hds.1 hnot
  | @braced ds _ hhex ht =>
    have hds : IsHalf ds ∧ AsWritten r := by
      cases hr with
      | char hc _ => exact absurd rfl hc
      | four hlength' hhex' _ _ =>
        exact absurd (List.tail_eq_of_cons_eq hw).symm (digits_ne_brace hlength' hhex')
      | braced hhex' hhalf hr =>
        simp only [List.cons_append, List.append_assoc, List.nil_append, List.cons.injEq, true_and] at hw
        obtain ⟨rfl, rfl⟩ := digits_unique hhex hhex' hw
        exact ⟨hhalf, hr⟩
    obtain ⟨_, rfl⟩ | ⟨hnot, _⟩ := ht
    · exact ⟨rfl, hds.2⟩
    · exact absurd hds.1 hnot

end

inductive Denotes : List Char → List Char → Prop where
  | nil : Denotes [] []
  | char {c : Char} {raw v : List Char} (hc : c ≠ '\\') (h : Denotes raw v) : Denotes (c :: raw) (c :: v)
  | escape {u t raw v : List Char} (hu : Escapes u t) (h : Denotes raw v) :
    Denotes ('\\' :: (u ++ raw)) (t ++ v)

theorem map_eq_ok {α β ε : Type} {f : α → β} {x : Except ε α} {b : β} (h : x.map f = .ok b) :
    ∃ a, x = .ok a ∧ f a = b := by
  cases x with
  | error _ => cases h
  | ok a => exact ⟨a, rfl, Except.ok.inj h⟩

/-- The reader keeps the text beside what it denotes. -/
theorem readTemplate_denotes {start cs rest v : List Char} {fuel : Nat} {piece : TemplatePiece}
    (h : readTemplate false start fuel cs = .ok (piece, rest)) (hv : piece.cooked = some v) :
    Denotes piece.raw v := by
  induction fuel generalizing cs rest v piece with
  | zero => simp [readTemplate] at h
  | succ fuel ih =>
    cases cs with
    | nil => cases h
    | cons c cs =>
      unfold readTemplate at h
      split at h
      next =>
        cases h
        cases hv
        exact .nil
      next =>
        split at h
        next =>
          cases h
          cases hv
          exact .nil
        next =>
          obtain ⟨⟨esc, r⟩, hesc⟩ : ∃ result, readEscape false cs = result := ⟨_, rfl⟩
          rw [hesc] at h
          obtain ⟨⟨p, r'⟩, hread, hp⟩ := map_eq_ok h
          cases hp
          obtain ⟨t, ht, hv⟩ := Option.bind_eq_some_iff.mp hv
          obtain ⟨v', hv', rfl⟩ := Option.map_eq_some_iff.mp hv
          cases esc with
          | text t' =>
            cases ht
            obtain ⟨u, rfl, hu⟩ := readEscape_eq_text hesc
            have hwritten : ('\\' :: (u ++ r)).take ((u ++ r).length + 1 - r.length) = '\\' :: u := by
              rw [List.length_append, show u.length + r.length + 1 - r.length = u.length + 1 by omega,
                List.take_succ_cons, List.take_left]
            rw [hwritten]
            exact .escape hu (ih hread hv')
          | octal _ | malformed => cases ht
        next =>
          obtain ⟨⟨p, r⟩, hread, hp⟩ := map_eq_ok h
          cases hp
          obtain ⟨v', hv', rfl⟩ := Option.map_eq_some_iff.mp hv
          exact .char (by decide) (ih hread hv')
        next hc _ _ =>
          obtain ⟨⟨p, r⟩, hread, hp⟩ := map_eq_ok h
          cases hp
          obtain ⟨v', hv', rfl⟩ := Option.map_eq_some_iff.mp hv
          exact .char (by grind) (ih hread hv')

/-- Text is at least as long as what it denotes. -/
theorem Denotes.length_le {raw v : List Char} (h : Denotes raw v) : v.length ≤ raw.length := by
  induction h with
  | nil => exact Nat.le_refl 0
  | char _ _ ih => simpa using ih
  | escape hu _ ih =>
    have := hu.length_le
    simp only [List.length_append, List.length_cons]
    omega

/-- Text denotes what is written exactly if its only escapes are of halves of pairs. -/
theorem Denotes.eq_iff_asWritten {raw v : List Char} (h : Denotes raw v) : raw = v ↔ AsWritten raw := by
  induction h with
  | nil => simp [AsWritten.nil]
  | @char c raw v hc h ih =>
    rw [List.cons.injEq, eq_self, true_and, ih]
    constructor
    · exact .char hc
    · intro hw
      cases hw with
      | char _ hr => exact hr
      | four _ _ _ _ | braced _ _ _ => exact absurd rfl hc
  | @escape u t raw v hu h ih =>
    constructor
    · intro heq
      -- Neither part of what is denoted is longer than its text, so both are as long.
      have hlength := congrArg List.length heq
      have ht := hu.length_le
      have hv := h.length_le
      simp only [List.length_cons, List.length_append] at hlength
      rw [← List.cons_append] at heq
      obtain ⟨rfl, rfl⟩ := List.append_inj heq (by simp only [List.length_cons]; omega)
      exact hu.asWritten (ih.mp rfl)
    · intro hw
      obtain ⟨rfl, hraw⟩ := hu.of_asWritten hw
      rw [ih.mpr hraw, List.cons_append]

end Token

/-- Text without a backslash denotes itself. -/
theorem Token.AsWritten.of_notMem {cs : List Char} (h : '\\' ∉ cs) : Token.AsWritten cs := by
  induction cs with
  | nil => exact .nil
  | cons c cs ih =>
    have hc : c ≠ '\\' := (List.ne_of_not_mem_cons h).symm
    exact .char hc (ih (List.not_mem_of_not_mem_cons h))

/-- A template without substitutions, read to its closing quote, and the value it denotes. -/
def Quasi.Spells (q : Quasi) (v : String) : Prop :=
  ∃ (start : Rest) (fuel : Nat) (cs : Rest) (piece : Token.TemplatePiece) (rest : Rest),
    Token.readTemplate false start fuel cs = .ok (piece, rest) ∧ piece.final = true ∧
    q = ⟨String.ofList piece.raw, piece.cooked.map String.ofList⟩ ∧ q.cooked = some v

theorem Quasi.Spells.raw_eq_iff {q : Quasi} {v : String} (h : q.Spells v) :
    q.raw = v ↔ Token.AsWritten q.raw.toList := by
  obtain ⟨start, fuel, cs, piece, rest, hread, -, rfl, hv⟩ := h
  obtain ⟨text, htext, rfl⟩ := Option.map_eq_some_iff.mp hv
  rw [String.toList_ofList, ← (Token.readTemplate_denotes hread htext).eq_iff_asWritten, String.ofList_inj]

/-- An expression around a key. Keys are written as names part by part, so that whatever is built around a key
then depends on what the key has become only. -/
def Expr.Surrounds (around : Key → Expr) : Prop :=
  ∀ k k' : Key, k.dotted = k'.dotted → (around k).dotted = (around k').dotted

/-- A script around a key, in the same way. -/
def Stmt.Surrounds (around : Key → Script) : Prop :=
  ∀ k k' : Key, k.dotted = k'.dotted → Stmt.allDotted (around k) = Stmt.allDotted (around k')

end Script

namespace WalkState

open Script

/-- A template and a string that denote the same give the same name, and the same path behind any base,
exactly if the template denotes what is written. Then expressions around the key have the same path, taint and
dependencies whichever quotes it has, and scripts around it are walked alike, with the same findings, unbound
names and scopes. -/
theorem quotes_of_keys_irrelevant (p : Patterns) (s : WalkState) {q : Quasi} {v : String} (hq : q.Spells v) :
    let backquoted : Key := .computed (.template [q] [])
    let quoted : Key := .computed (.str v)
    (backquoted.name? = quoted.name? ↔ Token.AsWritten q.raw.toList) ∧
    (∀ base : Expr, (Expr.member base backquoted).path = (Expr.member base quoted).path ↔
      Token.AsWritten q.raw.toList) ∧
    (Token.AsWritten q.raw.toList →
      (∀ around : Key → Expr, Expr.Surrounds around →
        (around backquoted).path = (around quoted).path ∧
        s.evaluate p (around backquoted) = s.evaluate p (around quoted) ∧
        (around backquoted).dependencies = (around quoted).dependencies) ∧
      ∀ around : Key → Script, Stmt.Surrounds around →
        s.walk p (around backquoted) = s.walk p (around quoted)) := by
  intro backquoted quoted
  refine ⟨?_, fun base => ?_, fun hw => ?_⟩
  · rw [← hq.raw_eq_iff]
    exact Option.some_inj
  · rw [← hq.raw_eq_iff, Expr.path, Expr.path, String.append_right_inj]
    exact String.append_right_inj _
  · have hkey : backquoted.dotted = quoted.dotted := congrArg Key.name (hq.raw_eq_iff.mpr hw)
    refine ⟨fun around ha => ?_, fun around ha => ?_⟩
    · have heq := ha backquoted quoted hkey
      refine ⟨?_, ?_, ?_⟩
      · rw [← Expr.path_dotted, heq, Expr.path_dotted]
      · rw [← evaluate_dotted, heq, evaluate_dotted]
      · rw [Expr.dependencies, Expr.dependencies, ← Expr.reads_dotted, heq, Expr.reads_dotted]
    · rw [← walk_dotted, ha backquoted quoted hkey, walk_dotted]

/-- `function f() { el[KEY] = location.hash; log({[KEY]: location.hash}); }` -/
def writesTwice (key : Key) : Script :=
  let hash : Expr := .member (.ident "location") (.name "hash")
  [.func "f" {} [] [
    .expr (.assign .plain (.member (.ident "el") key) hash),
    .expr (.call (.ident "log") [.item (.object [.keyValue key hash])])]]

theorem quotes_of_keys_irrelevant_writesTwice :
    let q : Quasi := ⟨"innerHTML", some "innerHTML"⟩
    let p := Patterns.ofTexts ["location.hash"] ["innerHTML"]
    let s : WalkState := {}
    let backquoted : Key := .computed (.template [q] [])
    q.Spells "innerHTML" ∧ Token.AsWritten q.raw.toList ∧ Stmt.Surrounds writesTwice ∧
      s.walk p (writesTwice backquoted) = s.walk p (writesTwice (.computed (.str "innerHTML"))) ∧
      (s.walk p (writesTwice backquoted)).flows.map (·.sink) = ["el.innerHTML", "innerHTML"] := by
  intro q p s backquoted
  have hq : q.Spells "innerHTML" :=
    ⟨[], 20, "innerHTML\x60]".toList, ⟨"innerHTML".toList, some "innerHTML".toList, true⟩, [']'],
      rfl, rfl, rfl, rfl⟩
  have hw : Token.AsWritten q.raw.toList := .of_notMem (by decide)
  have hs : Stmt.Surrounds writesTwice := fun k k' h => by
    simp [writesTwice, Rewriting.stmt, Rewriting.expr, Rewriting.target, Rewriting.elems, Rewriting.property,
      Rewriting.key_dotted, h]
  have hwalk := ((quotes_of_keys_irrelevant p s hq).2.2 hw).2 writesTwice hs
  refine ⟨hq, hw, hs, hwalk, ?_⟩
  decide

/-- `window[KEY](location.hash)` -/
def callsByKey (key : Key) : Script :=
  [.expr (.call (.member (.ident "window") key) [.item (.member (.ident "location") (.name "hash"))])]

/-- One escaped letter between back quotes hides a flow that is found between other quotes. -/
theorem back_quotes_hide_flows :
    let q : Quasi := ⟨"\\x65val", some "eval"⟩
    let p := Patterns.ofTexts ["location.hash"] ["eval"]
    let s : WalkState := {}
    q.Spells "eval" ∧
      (s.walk p (callsByKey (.computed (.str "eval")))).flows.map (·.sink) = ["window.eval"] ∧
      (s.walk p (callsByKey (.computed (.template [q] [])))).flows = [] := by
  intro q p s
  refine ⟨⟨[], 20, "\\x65val\x60]".toList, ⟨"\\x65val".toList, some "eval".toList, true⟩, [']'],
    rfl, rfl, rfl, rfl⟩, ?_, ?_⟩
  · decide
  · decide

end WalkState

end DomFlow
