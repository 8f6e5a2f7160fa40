import DomFlow.Text.Category
import Mathlib.Algebra.Field.Rat
import Mathlib.Data.List.DropRight

/-! # JSON texts

The grammar of JSON: which texts are well formed, and what they denote. Blanks may stand around every value,
characters may be written in several ways, and numbers may have a fraction and an exponent. Beside it stands a
reader. It reads every text of the grammar to what the text denotes, so no text denotes two things. -/

namespace DomFlow.Report.JsonText

/-- What a text can denote. The members of an object keep their order. -/
inductive Datum where
  | null
  | bool (b : Bool)
  | number (q : ℚ)
  | text (s : String)
  | array (items : List Datum)
  | object (members : List (String × Datum))

def isBlank (c : Char) : Bool := c == ' ' || c == '\t' || c == '\n' || c == '\r'

def Blanks (cs : List Char) : Prop := ∀ c ∈ cs, isBlank c = true

def Digits (ds : List Char) : Prop := ds ≠ [] ∧ ∀ c ∈ ds, c.isDigit = true

inductive Sign : List Char → ℚ → Prop
  | plus : Sign [] 1
  | minus : Sign ['-'] (-1)

/-- A whole number does not start with a zero, unless it is that. -/
inductive Whole : List Char → ℚ → Prop
  | zero : Whole ['0'] 0
  | digits {ds : List Char} (h : Digits ds) (hzero : ds.head? ≠ some '0') : Whole ds (Nat.ofDigitChars 10 ds 0)

inductive Fraction : List Char → ℚ → Prop
  | none : Fraction [] 0
  | digits {ds : List Char} (h : Digits ds) :
    Fraction ('.' :: ds) ((Nat.ofDigitChars 10 ds 0 : ℚ) / 10 ^ ds.length)

inductive Exponent : List Char → ℤ → Prop
  | none : Exponent [] 0
  | plain {e : Char} {ds : List Char} (he : e = 'e' ∨ e = 'E') (h : Digits ds) :
    Exponent (e :: ds) (Nat.ofDigitChars 10 ds 0)
  | plus {e : Char} {ds : List Char} (he : e = 'e' ∨ e = 'E') (h : Digits ds) :
    Exponent (e :: '+' :: ds) (Nat.ofDigitChars 10 ds 0)
  | minus {e : Char} {ds : List Char} (he : e = 'e' ∨ e = 'E') (h : Digits ds) :
    Exponent (e :: '-' :: ds) (-(Nat.ofDigitChars 10 ds 0 : ℤ))

inductive Number : List Char → ℚ → Prop
  | parts {a b c d : List Char} {s w f : ℚ} {e : ℤ} (hs : Sign a s) (hw : Whole b w) (hf : Fraction c f)
      (he : Exponent d e) : Number (a ++ (b ++ (c ++ d))) (s * (w + f) * 10 ^ e)

/-- What may stand after a backslash, other than a code, with the character that it denotes. -/
def shortEscapes : List (Char × Char) :=
  [('\x22', '\x22'), ('\\', '\\'), ('/', '/'), ('b', '\x08'), ('f', '\x0c'), ('n', '\n'), ('r', '\r'), ('t', '\t')]

/-- Four hexadecimal digits. -/
inductive Code : List Char → Nat → Prop
  | digits {a b c d : Char} {w x y z : Nat} (ha : Text.hexDigit? a = some w) (hb : Text.hexDigit? b = some x)
      (hc : Text.hexDigit? c = some y) (hd : Text.hexDigit? d = some z) :
    Code [a, b, c, d] (((w * 16 + x) * 16 + y) * 16 + z)

/-- One character between quotes: as it is, or escaped, or by its code. Characters beyond four digits have two
codes, from ranges that belong to no characters. -/
inductive CharForm : List Char → Char → Prop
  | plain {c : Char} (hcontrol : 0x20 ≤ c.toNat) (hquote : c ≠ '\x22') (hback : c ≠ '\\') : CharForm [c] c
  | short {e c : Char} (h : (e, c) ∈ shortEscapes) : CharForm ['\\', e] c
  | code {ds : List Char} {n : Nat} (h : Code ds n) (hn : n < 0xd800 ∨ 0xdfff < n) :
    CharForm ('\\' :: 'u' :: ds) (Char.ofNat n)
  | pair {ds es : List Char} {m n : Nat} (hm : Code ds m) (hn : Code es n) (hhigh : 0xd800 ≤ m ∧ m < 0xdc00)
      (hlow : 0xdc00 ≤ n ∧ n < 0xe000) :
    CharForm ('\\' :: 'u' :: (ds ++ '\\' :: 'u' :: es))
      (Char.ofNat (0x10000 + (m - 0xd800) * 0x400 + (n - 0xdc00)))

/-- The characters between quotes. -/
inductive Body : List Char → List Char → Prop
  | nil : Body [] []
  | cons {a b s : List Char} {c : Char} (h : CharForm a c) (hb : Body b s) : Body (a ++ b) (c :: s)

/-- An item of an array, with the blanks around it. -/
structure Item where
  before : List Char
  chars : List Char
  after : List Char
  value : Datum

def Item.text (i : Item) : List Char := i.before ++ (i.chars ++ i.after)

structure Item.Spaced (i : Item) : Prop where
  before : Blanks i.before
  after : Blanks i.after

/-- A member of an object, with the blanks around its parts. -/
structure Member where
  before : List Char
  keyChars : List Char
  key : List Char
  between : List Char
  item : Item

def Member.text (m : Member) : List Char :=
  m.before ++ '\x22' :: (m.keyChars ++ '\x22' :: (m.between ++ ':' :: m.item.text))

structure Member.Spaced (m : Member) : Prop where
  before : Blanks m.before
  key : Body m.keyChars m.key
  between : Blanks m.between
  item : m.item.Spaced

/-- The texts of values, with what they denote. -/
inductive Value : List Char → Datum → Prop
  | null : Value ['n', 'u', 'l', 'l'] .null
  | yes : Value ['t', 'r', 'u', 'e'] (.bool true)
  | no : Value ['f', 'a', 'l', 's', 'e'] (.bool false)
  | number {cs : List Char} {q : ℚ} (h : Number cs q) : Value cs (.number q)
  | text {cs s : List Char} (h : Body cs s) : Value ('\x22' :: (cs ++ ['\x22'])) (.text (String.ofList s))
  | emptyArray {bs : List Char} (h : Blanks bs) : Value ('[' :: (bs ++ [']'])) (.array [])
  | array {items : List Item} (hne : items ≠ []) (hspaced : ∀ i ∈ items, i.Spaced)
      (hvalues : ∀ i ∈ items, Value i.chars i.value) :
    Value ('[' :: ([','].intercalate (items.map Item.text) ++ [']'])) (.array (items.map Item.value))
  | emptyObject {bs : List Char} (h : Blanks bs) : Value ('\x7b' :: (bs ++ ['\x7d'])) (.object [])
  | object {members : List Member} (hne : members ≠ []) (hspaced : ∀ m ∈ members, m.Spaced)
      (hvalues : ∀ m ∈ members, Value m.item.chars m.item.value) :
    Value ('\x7b' :: ([','].intercalate (members.map Member.text) ++ ['\x7d']))
      (.object (members.map fun m => (String.ofList m.key, m.item.value)))

/-- A whole text: a value with blanks around it. -/
def Denotes (text : String) (d : Datum) : Prop :=
  ∃ before chars after, text.toList = before ++ (chars ++ after) ∧ Blanks before ∧ Value chars d ∧ Blanks after

def skip (cs : List Char) : List Char := cs.dropWhile isBlank

def digits? (cs : List Char) : Option (List Char × List Char) :=
  if (cs.takeWhile Char.isDigit).isEmpty then none else some (cs.takeWhile Char.isDigit, cs.dropWhile Char.isDigit)

def sign (cs : List Char) : ℚ × List Char :=
  if cs.head? = some '-' then (-1, cs.tail) else (1, cs)

def whole? (cs : List Char) : Option (ℚ × List Char) :=
  if cs.head? = some '0' then some (0, cs.tail)
  else (digits? cs).map fun (ds, r) => ((Nat.ofDigitChars 10 ds 0 : ℚ), r)

def fraction? (cs : List Char) : Option (ℚ × List Char) :=
  if cs.head? = some '.' then (digits? cs.tail).map fun (ds, r) => ((Nat.ofDigitChars 10 ds 0 : ℚ) / 10 ^ ds.length, r)
  else some (0, cs)

def exponent? (cs : List Char) : Option (ℤ × List Char) :=
  if cs.head? = some 'e' ∨ cs.head? = some 'E' then
    if cs.tail.head? = some '-' then (digits? cs.tail.tail).map fun (ds, r) => (-(Nat.ofDigitChars 10 ds 0 : ℤ), r)
    else if cs.tail.head? = some '+' then (digits? cs.tail.tail).map fun (ds, r) => ((Nat.ofDigitChars 10 ds 0 : ℤ), r)
    else (digits? cs.tail).map fun (ds, r) => ((Nat.ofDigitChars 10 ds 0 : ℤ), r)
  else some (0, cs)

def number? (cs : List Char) : Option (ℚ × List Char) := do
  let (s, cs) := sign cs
  let (w, cs) ← whole? cs
  let (f, cs) ← fraction? cs
  let (e, cs) ← exponent? cs
  return (s * (w + f) * 10 ^ e, cs)

def code? : List Char → Option (Nat × List Char)
  | a :: b :: c :: d :: r => do
    let w ← Text.hexDigit? a
    let x ← Text.hexDigit? b
    let y ← Text.hexDigit? c
    let z ← Text.hexDigit? d
    return (((w * 16 + x) * 16 + y) * 16 + z, r)
  | _ => none

def low? : List Char → Option (Nat × List Char)
  | '\\' :: 'u' :: r => (code? r).filter fun (n, _) => 0xdc00 ≤ n && n < 0xe000
  | _ => none

/-- What follows a backslash and `u`. -/
def coded? (cs : List Char) : Option (Char × List Char) := do
  let (m, r) ← code? cs
  if m < 0xd800 ∨ 0xdfff < m then return (Char.ofNat m, r)
  else if m < 0xdc00 then
    let (n, r') ← low? r
    return (Char.ofNat (0x10000 + (m - 0xd800) * 0x400 + (n - 0xdc00)), r')
  else none

def charForm? : List Char → Option (Char × List Char)
  | [] => none
  | c :: r =>
    if c = '\\' then
      match r with
      | [] => none
      | e :: r' => if e = 'u' then coded? r' else (shortEscapes.lookup e).map fun c => (c, r')
    else if c.toNat < 0x20 then none
    else some (c, r)

/-- The characters up to a quote; `fuel` bounds their number. -/
def body? : Nat → List Char → Option (List Char × List Char)
  | 0, _ => none
  | fuel + 1, cs =>
    if cs.head? = some '\x22' then some ([], cs.tail)
    else do
      let (c, r) ← charForm? cs
      let (s, r') ← body? fuel r
      return (c :: s, r')

mutual

/-- Reads a value; `fuel` bounds the length of its text. -/
def value? : Nat → List Char → Option (Datum × List Char)
  | 0, _ => none
  | _ + 1, [] => none
  | fuel + 1, c :: r =>
    if c = '\x22' then (body? fuel r).map fun (s, r') => (.text (String.ofList s), r')
    else if c = '[' then
      if (skip r).head? = some ']' then some (.array [], (skip r).tail)
      else (items? fuel r).map fun (ds, r') => (.array ds, r')
    else if c = '\x7b' then
      if (skip r).head? = some '\x7d' then some (.object [], (skip r).tail)
      else (members? fuel r).map fun (ms, r') => (.object ms, r')
    else if c = 'n' then if r.take 3 = ['u', 'l', 'l'] then some (.null, r.drop 3) else none
    else if c = 't' then if r.take 3 = ['r', 'u', 'e'] then some (.bool true, r.drop 3) else none
    else if c = 'f' then if r.take 4 = ['a', 'l', 's', 'e'] then some (.bool false, r.drop 4) else none
    else (number? (c :: r)).map fun (q, r') => (.number q, r')

/-- Reads items up to the end of an array. -/
def items? : Nat → List Char → Option (List Datum × List Char)
  | 0, _ => none
  | fuel + 1, cs => do
    let (d, r) ← value? fuel (skip cs)
    match skip r with
    | ',' :: r' =>
      let (ds, r'') ← items? fuel r'
      return (d :: ds, r'')
    | ']' :: r' => return ([d], r')
    | _ => none

/-- Reads members up to the end of an object. -/
def members? : Nat → List Char → Option (List (String × Datum) × List Char)
  | 0, _ => none
  | fuel + 1, cs => do
    let '\x22' :: r := skip cs | none
    let (k, r) ← body? fuel r
    let ':' :: r := skip r | none
    let (d, r) ← value? fuel (skip r)
    match skip r with
    | ',' :: r' =>
      let (ms, r'') ← members? fuel r'
      return ((String.ofList k, d) :: ms, r'')
    | '\x7d' :: r' => return ([(String.ofList k, d)], r')
    | _ => none

end

def read? (text : String) : Option Datum := do
  let (d, r) ← value? text.length (skip text.toList)
  if (skip r).isEmpty then return d else none

theorem blanks_nil : Blanks [] := List.forall_mem_nil _

theorem Blanks.skip_append {bs : List Char} (h : Blanks bs) (cs : List Char) : skip (bs ++ cs) = skip cs :=
  List.dropWhile_append_of_pos h

theorem Blanks.skip_eq_nil {bs : List Char} (h : Blanks bs) : skip bs = [] :=
  List.dropWhile_eq_nil_iff.mpr h

theorem skip_cons {c : Char} (h : isBlank c = false) (r : List Char) : skip (c :: r) = c :: r := by
  simp [skip, h]

/-- Whether a text does not go on with a digit. -/
def NoDigit (cs : List Char) : Prop := ∀ c ∈ cs.head?, c.isDigit = false

theorem digits?_append {ds r : List Char} (h : Digits ds) (hr : NoDigit r) : digits? (ds ++ r) = some (ds, r) := by
  have htake : (ds ++ r).takeWhile Char.isDigit = ds := by
    rw [List.takeWhile_append_of_pos h.2]
    cases r with
    | nil => simp
    | cons c r => simp [hr c (by simp)]
  have hdrop : (ds ++ r).dropWhile Char.isDigit = r := by
    rw [List.dropWhile_append_of_pos h.2]
    cases r with
    | nil => rfl
    | cons c r => simp [hr c (by simp)]
  rw [digits?, htake, hdrop]
  simp [h.1]

theorem Digits.head?_ne {ds : List Char} (h : Digits ds) (r : List Char) {c : Char} (hc : c.isDigit = false) :
    (ds ++ r).head? ≠ some c := by
  cases ds with
  | nil => exact absurd rfl h.1
  | cons d ds =>
    intro heq
    have hd := h.2 d (by simp)
    rw [Option.some.inj heq, hc] at hd
    cases hd

def Ends (rest : List Char) : Prop := ∀ c ∈ rest.head?, c ∈ [',', ']', '\x7d', ' ', '\t', '\n', '\r']

theorem Ends.head?_ne {rest : List Char} (h : Ends rest) {c : Char}
    (hc : c ∉ [',', ']', '\x7d', ' ', '\t', '\n', '\r']) : rest.head? ≠ some c :=
  fun heq => hc (h c heq)

theorem Ends.noDigit {rest : List Char} (h : Ends rest) : NoDigit rest := by
  have hends : ∀ c ∈ [',', ']', '\x7d', ' ', '\t', '\n', '\r'], c.isDigit = false := by simp
  exact fun c hc => hends c (h c hc)

theorem exponent?_append {d rest : List Char} {e : ℤ} (h : Exponent d e) (hr : Ends rest) :
    exponent? (d ++ rest) = some (e, rest) := by
  cases h with
  | none => simp [exponent?, hr.head?_ne (show 'e' ∉ _ by decide), hr.head?_ne (show 'E' ∉ _ by decide)]
  | plain he h =>
    have hminus := h.head?_ne rest (show '-'.isDigit = false by rfl)
    have hplus := h.head?_ne rest (show '+'.isDigit = false by rfl)
    rcases he with rfl | rfl <;>
      simp [exponent?, hminus, hplus, digits?_append h hr.noDigit, -List.head?_append]
  | plus he h => rcases he with rfl | rfl <;> simp [exponent?, digits?_append h hr.noDigit]
  | minus he h => rcases he with rfl | rfl <;> simp [exponent?, digits?_append h hr.noDigit]

/-- Neither an exponent nor what ends a value begins with a digit or a point. -/
theorem Exponent.head?_ne {d rest : List Char} {e : ℤ} (h : Exponent d e) (hr : Ends rest) {c : Char}
    (hc : c.isDigit = true ∨ c = '.') : (d ++ rest).head? ≠ some c := by
  have hends : ∀ x ∈ ['e', 'E', ',', ']', '\x7d', ' ', '\t', '\n', '\r'], x.isDigit = false ∧ x ≠ '.' := by simp
  have hne : ∀ x ∈ ['e', 'E', ',', ']', '\x7d', ' ', '\t', '\n', '\r'], x ≠ c := by
    rintro x hx rfl
    have hx' := hends x hx
    rcases hc with hdigit | hpoint
    · simp [hdigit] at hx'
    · exact hx'.2 hpoint
  cases h with
  | none => exact fun heq => hne c (List.mem_of_mem_tail (List.mem_of_mem_tail (hr c heq))) rfl
  | plain he _ | plus he _ | minus he _ =>
    intro heq
    rcases he with rfl | rfl <;> exact hne _ (by simp) (Option.some.inj heq)

theorem Exponent.noDigit {d rest : List Char} {e : ℤ} (h : Exponent d e) (hr : Ends rest) : NoDigit (d ++ rest) := by
  intro x hx
  by_contra hdigit
  exact h.head?_ne hr (Or.inl (by simpa using hdigit)) hx

theorem fraction?_append {c d rest : List Char} {f : ℚ} {e : ℤ} (h : Fraction c f) (he : Exponent d e)
    (hr : Ends rest) : fraction? (c ++ (d ++ rest)) = some (f, d ++ rest) := by
  cases h with
  | none => simp [fraction?, he.head?_ne hr (Or.inr rfl), -List.head?_append]
  | digits h => simp [fraction?, digits?_append h (he.noDigit hr)]

/-- A whole number ends where a fraction or an exponent begins. -/
theorem Fraction.noDigit {c d rest : List Char} {f : ℚ} {e : ℤ} (h : Fraction c f) (he : Exponent d e)
    (hr : Ends rest) : NoDigit (c ++ (d ++ rest)) := by
  cases h with
  | none => exact he.noDigit hr
  | digits h =>
    intro x hx
    rw [← Option.some.inj hx]
    rfl

theorem whole?_append {b rest : List Char} {w : ℚ} (h : Whole b w) (hr : NoDigit rest) :
    whole? (b ++ rest) = some (w, rest) := by
  cases h with
  | zero => simp [whole?]
  | digits h hzero =>
    have hhead : (b ++ rest).head? ≠ some '0' := by
      rwa [List.head?_append_of_ne_nil _ h.1]
    simp [whole?, hhead, digits?_append h hr, -List.head?_append]

theorem Whole.exists_digit {b : List Char} {w : ℚ} (h : Whole b w) : ∃ c r, b = c :: r ∧ c.isDigit = true := by
  cases h with
  | zero => exact ⟨'0', [], rfl, rfl⟩
  | digits h hzero =>
    cases b with
    | nil => exact absurd rfl h.1
    | cons c r => exact ⟨c, r, rfl, h.2 c (by simp)⟩

theorem number?_append {cs rest : List Char} {q : ℚ} (h : Number cs q) (hr : Ends rest) :
    number? (cs ++ rest) = some (q, rest) := by
  cases h with
  | @parts a b c d s w f e hs hw hf he =>
    have hsign : sign (a ++ (b ++ (c ++ (d ++ rest)))) = (s, b ++ (c ++ (d ++ rest))) := by
      obtain ⟨x, r, rfl, hx⟩ := hw.exists_digit
      cases hs with
      | plus =>
        have hne : x ≠ '-' := by
          rintro rfl
          cases hx
        simp [sign, hne]
      | minus => simp [sign]
    simp [number?, hsign, whole?_append hw (hf.noDigit he hr), fraction?_append hf he hr, exponent?_append he hr]

/-- A number begins with a digit or a minus sign, and so with none of the other things that begin a value. -/
theorem Number.exists_head {cs : List Char} {q : ℚ} (h : Number cs q) :
    ∃ c r, cs = c :: r ∧ c ∉ [' ', '\t', '\n', '\r', ']', '\x22', '[', '\x7b', 'n', 't', 'f'] := by
  cases h with
  | parts hs hw hf he =>
    obtain ⟨x, r, rfl, hx⟩ := hw.exists_digit
    cases hs with
    | plus =>
      have hdigit : ∀ c ∈ [' ', '\t', '\n', '\r', ']', '\x22', '[', '\x7b', 'n', 't', 'f'], c.isDigit = false := by simp
      exact ⟨x, _, rfl, fun hmem => by simp [hdigit x hmem] at hx⟩
    | minus => exact ⟨'-', _, rfl, by simp⟩

theorem code?_append {ds : List Char} {n : Nat} (h : Code ds n) (rest : List Char) :
    code? (ds ++ rest) = some (n, rest) := by
  cases h with
  | digits ha hb hc hd => simp [code?, ha, hb, hc, hd]

theorem charForm?_append {a : List Char} {c : Char} (h : CharForm a c) (rest : List Char) :
    charForm? (a ++ rest) = some (c, rest) := by
  cases h with
  | plain hcontrol hquote hback => simp [charForm?, hback, Nat.not_lt.mpr hcontrol]
  | @short e c h =>
    have hlookup : ∀ p ∈ shortEscapes, p.1 ≠ 'u' ∧ shortEscapes.lookup p.1 = some p.2 := by decide
    obtain ⟨hu, hc⟩ := hlookup (e, c) h
    simp [charForm?, hu, hc]
  | code h hn => simp [charForm?, coded?, code?_append h, hn]
  | @pair ds es m n hm hn hhigh hlow =>
    have hsurrogate : ¬ (m < 0xd800 ∨ 0xdfff < m) := by omega
    have hlow? : low? ('\\' :: 'u' :: (es ++ rest)) = some (n, rest) := by
      simp [low?, code?_append hn, hlow]
    simp [charForm?, coded?, code?_append hm, hsurrogate, hhigh, hlow?]

theorem CharForm.exists_head {a : List Char} {c : Char} (h : CharForm a c) : ∃ x r, a = x :: r ∧ x ≠ '\x22' := by
  cases h with
  | plain _ hquote _ => exact ⟨c, [], rfl, hquote⟩
  | short _ | code _ _ | pair _ _ _ _ => exact ⟨'\\', _, rfl, by decide⟩

theorem body?_append {b s : List Char} (h : Body b s) (rest : List Char) {fuel : Nat} (hfuel : b.length + 1 ≤ fuel) :
    body? fuel (b ++ '\x22' :: rest) = some (s, rest) := by
  induction h generalizing fuel with
  | nil =>
    obtain ⟨n, rfl⟩ := Nat.exists_eq_add_of_le' hfuel
    simp [body?]
  | @cons a b s c ha _ ih =>
    obtain ⟨n, rfl⟩ := Nat.exists_eq_add_of_le' (Nat.le_of_add_left_le hfuel)
    obtain ⟨x, r, rfl, hx⟩ := ha.exists_head
    have hb : b.length + 1 ≤ n := by
      simp only [List.length_append, List.length_cons] at hfuel
      omega
    have hchar := charForm?_append ha (b ++ '\x22' :: rest)
    rw [List.cons_append] at hchar
    simp [body?, hx, hchar, ih hb]

theorem Blanks.ends_append {bs r : List Char} (h : Blanks bs) (hr : Ends r) : Ends (bs ++ r) := by
  intro x hx
  cases bs with
  | nil => exact hr x hx
  | cons b bs =>
    have hb := h b (by simp)
    rw [← Option.some.inj hx]
    simp only [isBlank, Bool.or_eq_true, beq_iff_eq] at hb
    rcases hb with ((rfl | rfl) | rfl) | rfl <;> simp

theorem ends_cons {c : Char} (hc : c ∈ [',', ']', '\x7d']) (r : List Char) : Ends (c :: r) := by
  intro x hx
  rw [← Option.some.inj hx]
  exact List.mem_append_left [' ', '\t', '\n', '\r'] hc

/-- A value does not begin with a blank or with the end of an array. -/
theorem Value.exists_head {cs : List Char} {d : Datum} (h : Value cs d) :
    ∃ c r, cs = c :: r ∧ isBlank c = false ∧ c ≠ ']' := by
  cases h with
  | number h =>
    obtain ⟨c, r, rfl, hc⟩ := h.exists_head
    simp only [List.mem_cons, not_or] at hc
    exact ⟨c, r, rfl, by simp [isBlank, hc], hc.2.2.2.2.1⟩
  | null | yes | no | text _ | emptyArray _ | array _ _ _ | emptyObject _ | object _ _ _ =>
    exact ⟨_, _, rfl, rfl, by decide⟩

theorem Value.skip_append {cs : List Char} {d : Datum} (h : Value cs d) (rest : List Char) :
    skip (cs ++ rest) = cs ++ rest := by
  obtain ⟨c, r, rfl, hblank, _⟩ := h.exists_head
  exact skip_cons hblank _

/-- With enough fuel, and before anything that ends a value, the reader takes exactly this text. -/
def Reads (cs : List Char) (d : Datum) : Prop :=
  ∀ fuel rest, cs.length ≤ fuel → Ends rest → value? fuel (cs ++ rest) = some (d, rest)

/-- An item up to the character that ends it. -/
theorem Item.Spaced.value?_eq {i : Item} (h : i.Spaced) (hvalue : Value i.chars i.value)
    (hreads : Reads i.chars i.value) {c : Char} (hc : c ∈ [',', ']', '\x7d']) (rest : List Char) {fuel : Nat}
    (hfuel : i.text.length ≤ fuel) :
    value? fuel (skip (i.text ++ c :: rest)) = some (i.value, i.after ++ c :: rest) := by
  have hlen : i.chars.length ≤ fuel := by
    simp only [Item.text, List.length_append] at hfuel
    omega
  rw [Item.text, List.append_assoc, List.append_assoc, h.before.skip_append, hvalue.skip_append]
  exact hreads fuel _ hlen (h.after.ends_append (ends_cons hc rest))

theorem Item.Spaced.skip_after {i : Item} (h : i.Spaced) {c : Char} (hc : c ∈ [',', ']', '\x7d']) (rest : List Char) :
    skip (i.after ++ c :: rest) = c :: rest := by
  have hblank : ∀ c ∈ [',', ']', '\x7d'], isBlank c = false := by simp [isBlank]
  rw [h.after.skip_append, skip_cons (hblank c hc)]

theorem intercalate_comma_cons (l : List Char) {zs : List (List Char)} (h : zs ≠ []) :
    [','].intercalate (l :: zs) = l ++ ',' :: [','].intercalate zs := by
  simp [List.intercalate_cons_of_ne_nil h]

theorem exists_intercalate_append (l : List Char) (zs : List (List Char)) (r : List Char) :
    ∃ r', [','].intercalate (l :: zs) ++ r = l ++ r' := by
  cases zs with
  | nil => exact ⟨r, by simp⟩
  | cons z zs => exact ⟨',' :: ([','].intercalate (z :: zs) ++ r), by simp⟩

theorem items?_append {items : List Item} (hne : items ≠ []) (hspaced : ∀ i ∈ items, i.Spaced)
    (hvalues : ∀ i ∈ items, Value i.chars i.value) (hreads : ∀ i ∈ items, Reads i.chars i.value) (rest : List Char)
    {fuel : Nat} (hfuel : ([','].intercalate (items.map Item.text)).length + 1 ≤ fuel) :
    items? fuel ([','].intercalate (items.map Item.text) ++ ']' :: rest) = some (items.map Item.value, rest) := by
  induction items generalizing fuel with
  | nil => exact absurd rfl hne
  | cons i is ih =>
    obtain ⟨n, rfl⟩ := Nat.exists_eq_add_of_le' (Nat.le_of_add_left_le hfuel)
    simp only [List.forall_mem_cons] at hspaced hvalues hreads
    by_cases his : is = []
    · subst his
      have hlen : i.text.length ≤ n := by simpa using hfuel
      have hitem := hspaced.1.value?_eq hvalues.1 hreads.1 (show ']' ∈ _ by simp) rest hlen
      simp [items?, hitem, hspaced.1.skip_after]
    · have htext := intercalate_comma_cons i.text (show is.map Item.text ≠ [] by simpa using his)
      rw [List.map_cons, htext] at hfuel ⊢
      simp only [List.length_append, List.length_cons] at hfuel
      have hrest := ih his hspaced.2 hvalues.2 hreads.2 (show _ ≤ n by omega)
      have hitem := hspaced.1.value?_eq hvalues.1 hreads.1 (show ',' ∈ _ by simp)
        ([','].intercalate (is.map Item.text) ++ ']' :: rest) (show _ ≤ n by omega)
      simp [items?, hitem, hspaced.1.skip_after, hrest]

/-- An array with items is not taken for an empty one. -/
theorem skip_items_ne {items : List Item} (hne : items ≠ []) (hspaced : ∀ i ∈ items, i.Spaced)
    (hvalues : ∀ i ∈ items, Value i.chars i.value) (r : List Char) :
    (skip ([','].intercalate (items.map Item.text) ++ r)).head? ≠ some ']' := by
  cases items with
  | nil => exact absurd rfl hne
  | cons i is =>
    obtain ⟨r', hr'⟩ := exists_intercalate_append i.text (is.map Item.text) r
    obtain ⟨c, cs, hcs, hblank, hc⟩ := (hvalues i (by simp)).exists_head
    rw [List.map_cons, hr', Item.text, List.append_assoc, (hspaced i (by simp)).before.skip_append, hcs]
    simp [skip_cons hblank, hc]

theorem Member.Spaced.skip_text {m : Member} (h : m.Spaced) (r : List Char) :
    skip (m.text ++ r) = '\x22' :: (m.keyChars ++ '\x22' :: (m.between ++ ':' :: (m.item.text ++ r))) := by
  simp [Member.text, h.before.skip_append, skip_cons (show isBlank '\x22' = false by rfl)]

theorem Member.Spaced.skip_between {m : Member} (h : m.Spaced) (r : List Char) :
    skip (m.between ++ ':' :: r) = ':' :: r := by
  rw [h.between.skip_append, skip_cons (show isBlank ':' = false by rfl)]

/-- An object with members is not taken for an empty one. -/
theorem skip_members_ne {members : List Member} (hne : members ≠ []) (hspaced : ∀ m ∈ members, m.Spaced)
    (r : List Char) : (skip ([','].intercalate (members.map Member.text) ++ r)).head? ≠ some '\x7d' := by
  cases members with
  | nil => exact absurd rfl hne
  | cons m ms =>
    obtain ⟨r', hr'⟩ := exists_intercalate_append m.text (ms.map Member.text) r
    rw [List.map_cons, hr', (hspaced m (by simp)).skip_text]
    simp

theorem members?_append {members : List Member} (hne : members ≠ []) (hspaced : ∀ m ∈ members, m.Spaced)
    (hvalues : ∀ m ∈ members, Value m.item.chars m.item.value)
    (hreads : ∀ m ∈ members, Reads m.item.chars m.item.value) (rest : List Char) {fuel : Nat}
    (hfuel : ([','].intercalate (members.map Member.text)).length + 1 ≤ fuel) :
    members? fuel ([','].intercalate (members.map Member.text) ++ '\x7d' :: rest) =
      some (members.map fun m => (String.ofList m.key, m.item.value), rest) := by
  induction members generalizing fuel with
  | nil => exact absurd rfl hne
  | cons m ms ih =>
    obtain ⟨n, rfl⟩ := Nat.exists_eq_add_of_le' (Nat.le_of_add_left_le hfuel)
    simp only [List.forall_mem_cons] at hspaced hvalues hreads
    have hkey : ∀ r, m.text.length ≤ n → body? n (m.keyChars ++ '\x22' :: r) = some (m.key, r) := by
      intro r hlen
      simp only [Member.text, List.length_append, List.length_cons] at hlen
      exact body?_append hspaced.1.key r (by omega)
    have hitem : ∀ c ∈ [',', ']', '\x7d'], ∀ r, m.text.length ≤ n →
        value? n (skip (m.item.text ++ c :: r)) = some (m.item.value, m.item.after ++ c :: r) := by
      intro c hc r hlen
      simp only [Member.text, List.length_append, List.length_cons] at hlen
      exact hspaced.1.item.value?_eq hvalues.1 hreads.1 hc r (by omega)
    by_cases hms : ms = []
    · subst hms
      have hlen : m.text.length ≤ n := by simpa using hfuel
      simp [members?, hspaced.1.skip_text, hkey _ hlen, hspaced.1.skip_between, hitem '\x7d' (by simp) _ hlen,
        hspaced.1.item.skip_after]
    · have htext := intercalate_comma_cons m.text (show ms.map Member.text ≠ [] by simpa using hms)
      rw [List.map_cons, htext] at hfuel ⊢
      simp only [List.length_append, List.length_cons] at hfuel
      have hlen : m.text.length ≤ n := by omega
      have hrest := ih hms hspaced.2 hvalues.2 hreads.2 (show _ ≤ n by omega)
      simp [members?, hspaced.1.skip_text, hkey _ hlen, hspaced.1.skip_between, hitem ',' (by simp) _ hlen,
        hspaced.1.item.skip_after, hrest]

theorem reads_cons {c : Char} {r : List Char} {d : Datum}
    (h : ∀ fuel rest, r.length ≤ fuel → Ends rest → value? (fuel + 1) (c :: (r ++ rest)) = some (d, rest)) :
    Reads (c :: r) d := by
  intro fuel rest hfuel hr
  cases fuel with
  | zero => simp at hfuel
  | succ fuel => exact h fuel rest (by simpa using hfuel) hr

/-- Reading a text of the grammar gives what the text denotes, and all of the text is taken. -/
theorem Value.reads {cs : List Char} {d : Datum} (h : Value cs d) : Reads cs d := by
  induction h with
  | null | yes | no =>
    apply reads_cons
    intro fuel rest _ _
    simp [value?]
  | number h =>
    obtain ⟨c, r, rfl, hc⟩ := h.exists_head
    apply reads_cons
    intro fuel rest _ hr
    have hnumber := number?_append h hr
    rw [List.cons_append] at hnumber
    simp only [List.mem_cons, not_or] at hc
    simp [value?, hc, hnumber]
  | text h =>
    apply reads_cons
    intro fuel rest hfuel _
    have hbody := body?_append h rest (show _ ≤ fuel by simpa using hfuel)
    simp [value?, hbody]
  | emptyArray h =>
    apply reads_cons
    intro fuel rest _ _
    simp [value?, h.skip_append, skip_cons (show isBlank ']' = false by rfl)]
  | array hne hspaced hvalues ih =>
    apply reads_cons
    intro fuel rest hfuel _
    have hitems := items?_append hne hspaced hvalues ih rest (show _ ≤ fuel by simpa using hfuel)
    have hnext := skip_items_ne hne hspaced hvalues (']' :: rest)
    simp [value?, hitems, hnext]
  | emptyObject h =>
    apply reads_cons
    intro fuel rest _ _
    simp [value?, h.skip_append, skip_cons (show isBlank '\x7d' = false by rfl)]
  | object hne hspaced hvalues ih =>
    apply reads_cons
    intro fuel rest hfuel _
    have hmembers := members?_append hne hspaced hvalues ih rest (show _ ≤ fuel by simpa using hfuel)
    have hnext := skip_members_ne hne hspaced ('\x7d' :: rest)
    simp [value?, hmembers, hnext]

theorem read?_of_denotes {text : String} {d : Datum} (h : Denotes text d) : read? text = some d := by
  obtain ⟨before, chars, after, htext, hbefore, hvalue, hafter⟩ := h
  have hfuel : chars.length ≤ text.length := by
    rw [← String.length_toList, htext]
    simp only [List.length_append]
    omega
  have hends : Ends after := by
    simpa using hafter.ends_append (show Ends [] by simp [Ends])
  have hread := hvalue.reads text.length after hfuel hends
  simp [read?, htext, hbefore.skip_append, hvalue.skip_append, hread, hafter.skip_eq_nil]

/-- No text denotes two things. -/
theorem Denotes.unique {text : String} {d d' : Datum} (h : Denotes text d) (h' : Denotes text d') : d = d' :=
  Option.some.inj ((read?_of_denotes h).symm.trans (read?_of_denotes h'))

end DomFlow.Report.JsonText
