import DomFlow.Regex.Basic

/-! # Searching a text

A place in a text is the character before it and what remains after it. `Regex.reach` carries a set of
places through an expression: where a match that begins at one of them can end. A text holds a match
when the set of all its places leads to some place. Sets are kept in text order without repetition, so
the work is bounded by the size of the expression times the square of the text's length. -/

namespace DomFlow

structure Place where
  /-- How many characters remain. -/
  left : Nat
  before : Option Char
  rest : List Char
deriving DecidableEq, Repr, Inhabited

namespace Place

/-- The places of a text from a given one on, `left` characters before its end. -/
def walkFrom : Nat → Option Char → List Char → List Place
  | left, before, [] => [⟨left, before, []⟩]
  | left, before, c :: cs => ⟨left, before, c :: cs⟩ :: walkFrom (left - 1) (some c) cs

/-- All places of a text, from its start to its end. -/
def all (text : List Char) : List Place := walkFrom text.length none text

def merge : List Place → List Place → List Place
  | [], qs => qs
  | ps, [] => ps
  | p :: ps, q :: qs =>
    if p.left = q.left then p :: merge ps qs
    else if q.left < p.left then p :: merge ps (q :: qs)
    else q :: merge (p :: ps) qs

/-- The places of the first set that the second does not hold. -/
def without (ps qs : List Place) : List Place :=
  ps.filter fun p => !qs.any (·.left == p.left)

/-- The place after the next character, if the set holds that character. -/
def step (s : CharSet) (p : Place) : Option Place :=
  match p.rest with
  | [] => none
  | c :: cs => if s.holds c then some ⟨p.left - 1, some c, cs⟩ else none

end Place

/-- Applies a step again and again until no new place appears; `fuel` bounds the rounds. -/
def saturate (f : List Place → List Place) : Nat → List Place → List Place → List Place
  | 0, seen, _ => seen
  | fuel + 1, seen, frontier =>
    match Place.without (f frontier) seen with
    | [] => seen
    | new => saturate f fuel (Place.merge seen new) new

/-- The places reached by at most `n` applications of a step. -/
def reachUpTo (f : List Place → List Place) : Nat → List Place → List Place
  | 0, ps => ps
  | n + 1, ps =>
    match f ps with
    | [] => ps
    | qs => Place.merge ps (reachUpTo f n qs)

/-- The places reached by exactly `n` applications of a step. -/
def reachTimes (f : List Place → List Place) : Nat → List Place → List Place
  | 0, ps => ps
  | n + 1, ps => reachTimes f n (f ps)

def isWordFor (unicode : Bool) (c : Char) : Bool :=
  if unicode then Text.isWordChar c else c.isAlphanum || c == '_'

/-- Where matches that begin at the given places can end. -/
def Regex.reach : Regex → List Place → List Place
  | .empty, ps => ps
  | .set s, ps => ps.filterMap (Place.step s)
  | .look unicode l, ps => ps.filter fun p => l.holds (isWordFor unicode) p.before p.rest.head?
  | .seq a b, ps => b.reach (a.reach ps)
  | .alt a b, ps => Place.merge (a.reach ps) (b.reach ps)
  | .star a, ps =>
    match ps with
    | [] => []
    | p :: _ => saturate a.reach (p.left + 1) ps ps
  | .times n a, ps => reachTimes a.reach n ps
  | .upTo n a, ps => reachUpTo a.reach n ps

/-- Whether a text holds a match anywhere. -/
def Regex.searches (r : Regex) (text : String) : Bool :=
  !(r.reach (Place.all text.toList)).isEmpty

end DomFlow
