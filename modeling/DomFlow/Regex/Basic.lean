import DomFlow.Text.CharClass
import DomFlow.Text.LetterCase

/-! # Regular expressions

An expression is a tree over sets of characters and tests of the place between two characters. Only
whether a text holds a match is ever asked, so groups and greediness leave no trace in the tree. -/

namespace DomFlow

inductive CharProperty where
  | any
  | ascii
  | word
  | digit
  | blank
  | alphabetic
  | uppercase
  | lowercase
  | categories (ks : List Text.Category)
  | ranges (rs : List (Nat × Nat))
deriving DecidableEq, Repr, Inhabited

def CharProperty.holds : CharProperty → Char → Bool
  | .any, _ => true
  | .ascii, c => c.toNat < 0x80
  | .word, c => Text.isWordChar c
  | .digit, c => Text.isDecimalDigit c
  | .blank, c => Text.isBlank c
  | .alphabetic, c => Text.isWordChar c && !Text.isDecimalDigit c && Text.Category.ofChar c != .pc
  | .uppercase, c => Text.Category.ofChar c == .lu || Text.lowerChar c != c
  | .lowercase, c => Text.Category.ofChar c == .ll || Text.upperChar c != c
  | .categories ks, c => ks.contains (Text.Category.ofChar c)
  | .ranges rs, c => rs.any fun r => r.1 ≤ c.toNat && c.toNat ≤ r.2

inductive CharSet where
  | nothing
  | range (low high : Char)
  | property (p : CharProperty)
  | compl (s : CharSet)
  | union (s t : CharSet)
  | inter (s t : CharSet)
  /-- The characters that differ from a member in case only. -/
  | anyCase (s : CharSet)
deriving DecidableEq, Repr, Inhabited

/-- The characters that differ from `c` in case only. -/
def caseVariants (c : Char) : List Char :=
  let f := Text.foldChar c
  let base := [c, f, Text.upperChar c, Text.lowerChar c, Text.upperChar f, Text.lowerChar f]
  let more := match f with
    | 'k' => ['K']
    | 's' => ['ſ']
    | 'å' => ['Å']
    | 'σ' => ['ς', 'σ', 'Σ']
    | 'ω' => ['Ω']
    | 'β' => ['ϐ']
    | 'θ' => ['ϑ', 'ϴ']
    | 'μ' => ['µ']
    | _ => []
  base ++ more

def CharSet.holds : CharSet → Char → Bool
  | .nothing, _ => false
  | .range low high, c => low ≤ c && c ≤ high
  | .property p, c => p.holds c
  | .compl s, c => !s.holds c
  | .union s t, c => s.holds c || t.holds c
  | .inter s t, c => s.holds c && t.holds c
  | .anyCase s, c => (caseVariants c).any s.holds

def CharSet.single (c : Char) : CharSet := .range c c

inductive Look where
  | textStart
  | textEnd
  | lineStart
  | lineEnd
  | wordBoundary
  | notWordBoundary
  | wordStart
  | wordEnd
  | wordStartHalf
  | wordEndHalf
deriving DecidableEq, Repr, Inhabited

/-- Whether a test passes between the character before, if any, and the one after, if any. -/
def Look.holds (isWord : Char → Bool) : Look → Option Char → Option Char → Bool
  | .textStart, before, _ => before.isNone
  | .textEnd, _, after => after.isNone
  | .lineStart, before, _ => before.all (· == '\n')
  | .lineEnd, _, after => after.all (· == '\n')
  | .wordBoundary, before, after => before.any isWord != after.any isWord
  | .notWordBoundary, before, after => before.any isWord == after.any isWord
  | .wordStart, before, after => !before.any isWord && after.any isWord
  | .wordEnd, before, after => before.any isWord && !after.any isWord
  | .wordStartHalf, before, _ => !before.any isWord
  | .wordEndHalf, _, after => !after.any isWord

inductive Regex where
  | empty
  | set (s : CharSet)
  | look (unicode : Bool) (l : Look)
  | seq (a b : Regex)
  | alt (a b : Regex)
  | star (a : Regex)
  /-- Exactly `n` times. -/
  | times (n : Nat) (a : Regex)
  /-- At most `n` times. -/
  | upTo (n : Nat) (a : Regex)
deriving DecidableEq, Repr, Inhabited

end DomFlow
