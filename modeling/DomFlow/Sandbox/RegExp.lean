import DomFlow.Regex.Property
import DomFlow.Text.CodeUnits

/-! # Regular expressions of scripts

These expressions have groups that capture, references to them and tests ahead and behind, so they are
matched by backtracking: a matcher takes what is to be matched after it as a continuation. Text is a
sequence of units, or of code points under the flag `u`. -/

namespace DomFlow.Sandbox

open Text (CodeUnits)

namespace RegExp

inductive ClassPart where
  | range (low high : Nat)
  | digit (negated : Bool)
  | word (negated : Bool)
  | space (negated : Bool)
  | property (negated : Bool) (set : CharSet)
deriving Inhabited

inductive Node where
  | empty
  | char (c : Nat)
  | any
  | charClass (negated : Bool) (parts : List ClassPart)
  | seq (a b : Node)
  | alt (a b : Node)
  /-- A group that captures, by number. -/
  | capture (index : Nat) (a : Node)
  | backReference (index : Nat)
  | namedReference (name : CodeUnits)
  | lineStart
  | lineEnd
  | wordEdge (negated : Bool)
  | look (ahead negated : Bool) (a : Node)
  /-- Repetition; the groups from `first` on, `count` of them, are forgotten before each round. -/
  | many (least : Nat) (most : Option Nat) (greedy : Bool) (first count : Nat) (a : Node)
deriving Inhabited

end RegExp

structure RegExp where
  source : CodeUnits
  flags : CodeUnits
  ignoreCase : Bool
  multiline : Bool
  dotAll : Bool
  unicode : Bool
  node : RegExp.Node
  /-- The number of groups that capture. -/
  groups : Nat
  names : List (CodeUnits × Nat)
deriving Inhabited

namespace RegExp

/-- What is left to read, and the groups met so far. -/
structure ReadState where
  rest : List Nat
  groups : Nat := 0
  names : List (CodeUnits × Nat) := []

/-- What the whole text decides: the flag `u`, the number of groups, and whether any has a name. -/
structure ReadContext where
  unicode : Bool
  total : Nat
  named : Bool

abbrev Reader := ReaderT ReadContext (StateT ReadState Option)

private def code (c : Char) : Nat := c.toNat

/-- The number of groups that capture, and whether any has a name; classes are passed over. -/
def countGroups : Bool → List Nat → Nat × Bool
  | _, [] => (0, false)
  | inClass, 92 :: _ :: r => countGroups inClass r
  | true, c :: r => countGroups (c != code ']') r
  | false, 40 :: 63 :: 60 :: c :: r =>
    let (n, named) := countGroups false r
    if c == code '=' || c == code '!' then (n, named) else (n + 1, true)
  | false, 40 :: 63 :: r => countGroups false r
  | false, c :: r =>
    let (n, named) := countGroups (c == code '[') r
    (if c == code '(' then n + 1 else n, named)

namespace Reader

def peek : Reader (Option Nat) := return (← get).rest.head?

def skip (n : Nat) : Reader Unit := modify fun s => { s with rest := s.rest.drop n }

def accept (c : Char) : Reader Bool := do
  if (← peek) == some c.toNat then
    skip 1
    return true
  return false

def expect (c : Char) : Reader Unit := do
  unless ← accept c do failure

def next : Reader Nat := do
  match ← peek with
  | some c =>
    skip 1
    return c
  | none => failure

end Reader

open Reader

private def isDigit (c : Nat) : Bool := 48 ≤ c && c ≤ 57

private def hexOf (c : Nat) : Option Nat := Text.hexDigit? (Char.ofNat c)

private def hexNumber (ds : List Nat) : Nat := ds.foldl (fun n d => n * 16 + (hexOf d).getD 0) 0

private def decimalNumber (ds : List Nat) : Nat := ds.foldl (fun n d => n * 10 + (d - 48)) 0

def bracedQuantifier? (cs : List Nat) : Option (Nat × Option Nat × List Nat) :=
  let low := cs.takeWhile isDigit
  if low.isEmpty then none
  else match cs.dropWhile isDigit with
    | 125 :: r => some (decimalNumber low, some (decimalNumber low), r)
    | 44 :: r =>
      let high := r.takeWhile isDigit
      match r.dropWhile isDigit with
      | 125 :: r' => some (decimalNumber low, if high.isEmpty then none else some (decimalNumber high), r')
      | _ => none
    | _ => none

def fixedHex? (n : Nat) (cs : List Nat) : Option (Nat × List Nat) :=
  let ds := cs.take n
  if ds.length == n && ds.all (fun d => (hexOf d).isSome) then some (hexNumber ds, cs.drop n) else none

/-- A code point after `\u`. -/
def unicodeEscape (unicode : Bool) : Reader (Option Nat) := do
  let cs := (← get).rest
  match cs with
  | 123 :: r =>
    if unicode then
      let ds := r.takeWhile fun d => (hexOf d).isSome
      match r.dropWhile (fun d => (hexOf d).isSome), ds with
      | 125 :: r', _ :: _ =>
        if hexNumber ds > 0x10FFFF then failure
        modify fun s => { s with rest := r' }
        return some (hexNumber ds)
      | _, _ => failure
    else return none
  | _ =>
    match fixedHex? 4 cs with
    | none => if unicode then failure else return none
    | some (high, r) =>
      let pair := match unicode && 0xD800 ≤ high && high ≤ 0xDBFF, r with
        | true, 92 :: 117 :: r' => match fixedHex? 4 r' with
          | some (low, r'') =>
            if 0xDC00 ≤ low && low ≤ 0xDFFF then
              some (0x10000 + (high - 0xD800) * 0x400 + (low - 0xDC00), r'')
            else none
          | none => none
        | _, _ => none
      match pair with
      | some (n, r'') =>
        modify fun s => { s with rest := r'' }
        return some n
      | none =>
        modify fun s => { s with rest := r }
        return some high

/-- A property in braces, after `\p`. -/
def propertyEscape (negated : Bool) : Reader ClassPart := do
  expect '\x7b'
  let cs := (← get).rest
  let name := cs.takeWhile (· != 125)
  modify fun s => { s with rest := cs.drop (name.length + 1) }
  let text := String.ofList (name.map fun n => (Char.ofNat n).toLower)
  let text := String.ofList (text.toList.filter (· != '_'))
  let set := match text.splitOn "=" with
    | [n] => CharProperty.ofName? n
    | [n, v] => CharProperty.ofNameValue? n v
    | _ => none
  match set with
  | some set => return .property negated set
  | none => failure

def classEscape? (c : Nat) : Option ClassPart :=
  if c == code 'd' then some (.digit false)
  else if c == code 'D' then some (.digit true)
  else if c == code 'w' then some (.word false)
  else if c == code 'W' then some (.word true)
  else if c == code 's' then some (.space false)
  else if c == code 'S' then some (.space true)
  else none

/-- The character that an escape stands for, after its first letter `c`. -/
def charEscape (c : Nat) : Reader Nat := do
  let unicode := (← read).unicode
  if c == code 't' then return 9
  else if c == code 'n' then return 10
  else if c == code 'v' then return 11
  else if c == code 'f' then return 12
  else if c == code 'r' then return 13
  else if c == code '0' && !((← peek).any isDigit) then return 0
  else if c == code 'c' then
    match ← peek with
    | some l =>
      if (Char.ofNat l).isAlpha then
        skip 1
        return l % 32
      else if unicode then failure
      else return 92
    | none => if unicode then failure else return 92
  else if c == code 'x' then
    match fixedHex? 2 (← get).rest with
    | some (n, r) =>
      modify fun s => { s with rest := r }
      return n
    | none => if unicode then failure else return c
  else if c == code 'u' then
    match ← unicodeEscape unicode with
    | some n => return n
    | none => return c
  else if unicode then
    if "^$\\.*+?()[]\x7b\x7d|/-".toList.any (fun x => x.toNat == c) then return c else failure
  else return c

/-- One member of a class: a character or a whole class. -/
def classAtom : Reader (Nat ⊕ ClassPart) := do
  let c ← next
  if c == 92 then
    let e ← next
    if (← read).unicode && (e == code 'p' || e == code 'P') then
      return .inr (← propertyEscape (e == code 'P'))
    match classEscape? e with
    | some part => return .inr part
    | none => if e == code 'b' then return .inl 8 else return .inl (← charEscape e)
  else return .inl c

/-- The members of a class up to its closing bracket; `fuel` bounds their number. -/
def classParts : Nat → Reader (List ClassPart)
  | 0 => failure
  | fuel + 1 => do
    if ← accept ']' then return []
    let low ← classAtom
    let dashed := match (← get).rest with
      | 45 :: c :: _ => c != code ']'
      | _ => false
    if dashed then
      skip 1
      let high ← classAtom
      match low, high with
      | .inl a, .inl b =>
        if a > b then failure
        return .range a b :: (← classParts fuel)
      | _, _ =>
        if (← read).unicode then failure
        let part : Nat ⊕ ClassPart → ClassPart
          | .inl a => .range a a
          | .inr p => p
        return part low :: .range 45 45 :: part high :: (← classParts fuel)
    else match low with
      | .inl a => return .range a a :: (← classParts fuel)
      | .inr p => return p :: (← classParts fuel)

/-- The name of a group, up to its closing bracket. -/
def groupName : Reader CodeUnits := do
  let cs := (← get).rest
  let name := cs.takeWhile (· != code '>')
  if name.isEmpty || name.length == cs.length then failure
  modify fun s => { s with rest := cs.drop (name.length + 1) }
  return ⟨name.foldl CodeUnits.pushCodePoint #[]⟩

def quantified (before : Nat) (atom : Node) : Reader Node := do
  let groups := (← get).groups
  let bounds ← match (← get).rest with
    | 42 :: r => pure (some (0, none, r))
    | 43 :: r => pure (some (1, none, r))
    | 63 :: r => pure (some (0, some 1, r))
    | 123 :: r => match bracedQuantifier? r with
      | some (low, high, r') =>
        if high.any (· < low) then failure
        pure (some (low, high, r'))
      | none => if (← read).unicode then failure else pure none
    | _ => pure none
  match bounds with
  | none => return atom
  | some (low, high, r) =>
    modify fun s => { s with rest := r }
    let lazy ← accept '?'
    return .many low high (!lazy) (before + 1) (groups - before) atom

/-- An escape outside of a class, whose first letter is `e`. -/
def atomEscape (e : Nat) : Reader Node := do
  let ctx ← read
  if isDigit e && e != 48 then
    let more := (← get).rest.takeWhile isDigit
    let n := decimalNumber (e :: more)
    if n ≤ ctx.total then
      skip more.length
      return .backReference n
    else if ctx.unicode then failure
    else return .char e
  else if e == code 'k' && (ctx.named || ctx.unicode) then
    expect '<'
    return .namedReference (← groupName)
  else if ctx.unicode && (e == code 'p' || e == code 'P') then
    return .charClass false [← propertyEscape (e == code 'P')]
  else match classEscape? e with
    | some part => return .charClass false [part]
    | none => return .char (← charEscape e)

mutual

def disjunction : Nat → Reader Node
  | 0 => failure
  | fuel + 1 => do
    let a ← alternative fuel
    if ← accept '|' then return .alt a (← disjunction fuel)
    return a

def alternative : Nat → Reader Node
  | 0 => failure
  | fuel + 1 => do
    match ← peek with
    | none => return .empty
    | some c =>
      if c == code '|' || c == code ')' then return .empty
      let t ← term fuel c
      return .seq t (← alternative fuel)

/-- One term, whose first character is `c`. -/
def term : Nat → Nat → Reader Node
  | 0, _ => failure
  | fuel + 1, c => do
    let before := (← get).groups
    skip 1
    if c == code '^' then return .lineStart
    else if c == code '$' then return .lineEnd
    else if c == code '(' then
      let node ← group fuel
      match node with
      | .look false _ _ => return node
      | .look .. => if (← read).unicode then return node else quantified before node
      | _ => quantified before node
    else if c == code '.' then quantified before .any
    else if c == code '[' then
      let negated ← accept '^'
      quantified before (.charClass negated (← classParts (← get).rest.length.succ))
    else if c == 92 then
      let e ← next
      if e == code 'b' then return .wordEdge false
      else if e == code 'B' then return .wordEdge true
      else quantified before (← atomEscape e)
    else if c == code '*' || c == code '+' || c == code '?' then failure
    else if c == 123 then
      if (← read).unicode || (bracedQuantifier? (← get).rest).isSome then failure
      quantified before (.char c)
    else if c == 125 || c == code ']' then
      if (← read).unicode then failure
      quantified before (.char c)
    else quantified before (.char c)

def group : Nat → Reader Node
  | 0 => failure
  | fuel + 1 => do
    let close (n : Node) : Reader Node := do
      expect ')'
      return n
    match (← get).rest with
    | 63 :: 58 :: _ =>
      skip 2
      close (← disjunction fuel)
    | 63 :: 61 :: _ =>
      skip 2
      close (.look true false (← disjunction fuel))
    | 63 :: 33 :: _ =>
      skip 2
      close (.look true true (← disjunction fuel))
    | 63 :: 60 :: 61 :: _ =>
      skip 3
      close (.look false false (← disjunction fuel))
    | 63 :: 60 :: 33 :: _ =>
      skip 3
      close (.look false true (← disjunction fuel))
    | 63 :: 60 :: _ =>
      skip 2
      let name ← groupName
      let index := (← get).groups + 1
      if (← get).names.any (·.1 == name) then failure
      modify fun s => { s with groups := index, names := s.names ++ [(name, index)] }
      close (.capture index (← disjunction fuel))
    | 63 :: _ => failure
    | _ =>
      let index := (← get).groups + 1
      modify fun s => { s with groups := index }
      close (.capture index (← disjunction fuel))

end

def validFlags (flags : CodeUnits) : Bool :=
  let cs := flags.toChars
  cs.all (fun c => "dgimsuvy".toList.contains c) && cs.Nodup &&
    !(cs.contains 'u' && cs.contains 'v')

/-- Reads an expression and its flags; nothing for a malformed one. -/
def compile? (source flags : CodeUnits) : Option RegExp := do
  unless validFlags flags do failure
  let has (c : Char) : Bool := flags.data.contains c.toNat.toUInt16
  let unicode := has 'u' || has 'v'
  let text := if unicode then source.codePoints else source.data.toList.map (·.toNat)
  let (total, named) := countGroups false text
  let (node, final) ← (disjunction (3 * text.length + 8)).run { unicode, total, named } |>.run { rest := text }
  unless final.rest.isEmpty do failure
  return { source, flags, ignoreCase := has 'i', multiline := has 'm', dotAll := has 's', unicode, node,
           groups := final.groups, names := final.names }

/-- A place in the text, and what the groups have captured. -/
structure MatchState where
  place : Nat
  captures : Array (Option (Nat × Nat))
deriving Inhabited

/-- The representative of a character when case does not matter. -/
def canonical (r : RegExp) (n : Nat) : Nat :=
  if !r.ignoreCase || (0xD800 ≤ n && n ≤ 0xDFFF) then n
  else
    let c := Char.ofNat n
    if r.unicode then (Text.foldChar c).toNat
    else
      let u := (Text.upperChar c).toNat
      if n ≥ 128 && u < 128 then n else u

def isLineEnd (n : Nat) : Bool := n == 10 || n == 13 || n == 0x2028 || n == 0x2029

def isWord (n : Nat) : Bool :=
  n < 128 && ((Char.ofNat n).isAlphanum || n == code '_')

def ClassPart.holds (r : RegExp) (n : Nat) : ClassPart → Bool
  | .range low high =>
    (low ≤ n && n ≤ high) ||
      (r.ignoreCase &&
        (let k := canonical r n
         if low == high then canonical r low == k
         else (low ≤ k && k ≤ high) ||
           (let l := (Text.lowerChar (Char.ofNat n)).toNat
            low ≤ l && l ≤ high)))
  | .digit negated => isDigit n != negated
  | .word negated => isWord n != negated
  | .space negated => CodeUnits.isTrimmed n.toUInt16 != negated
  | .property negated set => set.holds (Char.ofNat n) != negated

/-- The character after a place, or before it, and the place beyond it. -/
def charAt (r : RegExp) (text : CodeUnits) (forward : Bool) (place : Nat) : Option (Nat × Nat) :=
  if forward then
    if r.unicode then (text.codePointAt? place).map fun (c, w) => (c, place + w)
    else (text.unit? place).map fun u => (u.toNat, place + 1)
  else match place with
    | 0 => none
    | p + 1 =>
      match text.unit? p with
      | none => none
      | some low =>
        match p with
        | q + 1 => match text.unit? q with
          | some high =>
            if r.unicode && CodeUnits.isLowHalf low && CodeUnits.isHighHalf high then
              some (CodeUnits.pairValue high low, q)
            else some (low.toNat, p)
          | none => some (low.toNat, p)
        | 0 => some (low.toNat, p)

def one (r : RegExp) (text : CodeUnits) (forward : Bool) (test : Nat → Bool)
    (k : MatchState → Option MatchState) (s : MatchState) : Option MatchState :=
  match charAt r text forward s.place with
  | some (c, place) => if test c then k { s with place } else none
  | none => none

/-- Matches a piece of text that stands somewhere else in it. -/
def again (r : RegExp) (text : CodeUnits) (forward : Bool) (range : Option (Nat × Nat))
    (k : MatchState → Option MatchState) (s : MatchState) : Option MatchState :=
  match range with
  | none => k s
  | some (a, b) =>
    let n := b - a
    let start := if forward then s.place else s.place - n
    if (forward && s.place + n > text.size) || (!forward && s.place < n) then none
    else if (List.range n).all fun i =>
        (text.unit? (start + i)).map (fun u => canonical r u.toNat) ==
          (text.unit? (a + i)).map (fun u => canonical r u.toNat) then
      k { s with place := if forward then s.place + n else start }
    else none

/-- Repeats a matcher; a round that matches nothing ends the repetition. -/
def rounds (round : (MatchState → Option MatchState) → MatchState → Option MatchState)
    (forget : MatchState → MatchState) (greedy : Bool) (k : MatchState → Option MatchState) :
    Nat → Nat → Option Nat → MatchState → Option MatchState
  | 0, _, _, _ => none
  | fuel + 1, least, most, s =>
    if most == some 0 then k s
    else
      let more (_ : Unit) : Option MatchState :=
        round (fun t => if least == 0 && t.place == s.place then none
          else rounds round forget greedy k fuel (least - 1) (most.map (· - 1)) t) (forget s)
      if least > 0 then more ()
      else if greedy then (more ()).orElse fun _ => k s
      else (k s).orElse fun _ => more ()

/-- Whether the place lies between a word and what is none. -/
def atWordEdge (text : CodeUnits) (place : Nat) : Bool :=
  let before := match place with
    | 0 => false
    | p + 1 => (text.unit? p).any fun u => isWord u.toNat
  let after := (text.unit? place).any fun u => isWord u.toNat
  before != after

/-- Matches a node, then what `k` says. -/
def matchNode (r : RegExp) (text : CodeUnits) :
    Bool → Node → (MatchState → Option MatchState) → MatchState → Option MatchState
  | _, .empty, k, s => k s
  | forward, .char c, k, s => one r text forward (fun n => canonical r n == canonical r c) k s
  | forward, .any, k, s => one r text forward (fun n => r.dotAll || !isLineEnd n) k s
  | forward, .charClass negated parts, k, s =>
    one r text forward (fun n => parts.any (·.holds r n) != negated) k s
  | forward, .seq a b, k, s =>
    if forward then matchNode r text forward a (fun t => matchNode r text forward b k t) s
    else matchNode r text forward b (fun t => matchNode r text forward a k t) s
  | forward, .alt a b, k, s =>
    (matchNode r text forward a k s).orElse fun _ => matchNode r text forward b k s
  | forward, .capture i a, k, s =>
    matchNode r text forward a (fun t =>
      let range := if forward then (s.place, t.place) else (t.place, s.place)
      k { t with captures := t.captures.setIfInBounds i (some range) }) s
  | forward, .backReference i, k, s => again r text forward (s.captures[i]?.join) k s
  | forward, .namedReference name, k, s =>
    again r text forward ((r.names.lookup name).bind fun i => s.captures[i]?.join) k s
  | _, .lineStart, k, s =>
    let ok := s.place == 0 || (r.multiline && (text.unit? (s.place - 1)).any fun u => isLineEnd u.toNat)
    if ok then k s else none
  | _, .lineEnd, k, s =>
    let ok := s.place == text.size || (r.multiline && (text.unit? s.place).any fun u => isLineEnd u.toNat)
    if ok then k s else none
  | _, .wordEdge negated, k, s => if atWordEdge text s.place != negated then k s else none
  | _, .look ahead negated a, k, s =>
    match matchNode r text ahead a some s with
    | some t => if negated then none else k { t with place := s.place }
    | none => if negated then k s else none
  | forward, .many least most greedy first count a, k, s =>
    let forget (t : MatchState) : MatchState :=
      { t with captures := (List.range count).foldl (fun cs i => cs.setIfInBounds (first + i) none) t.captures }
    rounds (fun k' t => matchNode r text forward a k' t) forget greedy k (text.size + least + 2) least most s

/-- Matches at one place; the capture of number zero is the whole match. -/
def matchAt (r : RegExp) (text : CodeUnits) (place : Nat) : Option (Array (Option (Nat × Nat))) :=
  let start : MatchState := { place, captures := Array.replicate (r.groups + 1) none }
  (matchNode r text true r.node some start).map fun t =>
    t.captures.setIfInBounds 0 (some (place, t.place))

/-- The first match from a place on, among `fuel` places. -/
def searchFrom (r : RegExp) (text : CodeUnits) : Nat → Nat → Option (Array (Option (Nat × Nat)))
  | 0, _ => none
  | fuel + 1, place =>
    match matchAt r text place with
    | some m => some m
    | none => searchFrom r text fuel (place + 1)

/-- The first match from a place on, or only there if it has to stick to it. -/
def search (r : RegExp) (text : CodeUnits) (place : Nat) (sticky : Bool) : Option (Array (Option (Nat × Nat))) :=
  if place > text.size then none
  else if sticky then matchAt r text place
  else searchFrom r text (text.size + 1 - place) place

end RegExp

end DomFlow.Sandbox
