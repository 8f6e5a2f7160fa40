import DomFlow.Script.Parser.Statement

/-! # Parsing a script

`parse` reads a whole text as a classic script. An error names its line and column: lines count from
one, and columns are the widths of the characters before it. -/

namespace DomFlow.Script

structure ParseError where
  message : String
  line : Nat
  column : Nat
deriving DecidableEq, Repr, Inhabited

def ParseError.text (e : ParseError) : String :=
  e.message ++ " at " ++ toString e.line ++ ":" ++ toString e.column

def columnWidth (c : Char) : Nat :=
  let n := c.toNat
  if c == '\t' then 4
  else if n < 0x20 || n = 0x7F then 0
  else if n < 0x300 then 1
  else if Text.isGraphemeExtend c || Text.Category.ofChar c == .cf then 0
  else if (0x1100 ≤ n && n ≤ 0x115F) || (0x2E80 ≤ n && n ≤ 0x303E) || (0x3041 ≤ n && n ≤ 0xA4CF) ||
      (0xAC00 ≤ n && n ≤ 0xD7A3) || (0xF900 ≤ n && n ≤ 0xFAFF) || (0xFE30 ≤ n && n ≤ 0xFE6F) ||
      (0xFF01 ≤ n && n ≤ 0xFF60) || (0xFFE0 ≤ n && n ≤ 0xFFE6) || (0x1F300 ≤ n && n ≤ 0x1F64F) ||
      (0x1F900 ≤ n && n ≤ 0x1F9FF) || (0x20000 ≤ n && n ≤ 0x3FFFD) then 2
  else 1

def locate (before : List Char) : Nat × Nat :=
  before.foldl (fun (line, column) c =>
    if c == '\n' then (line + 1, 0) else (line, column + columnWidth c)) (1, 0)

/-- An error of the reader, with its place named in the whole text. -/
def ParseError.ofFault (source : List Char) (f : Fault) : ParseError :=
  let (line, column) := locate (source.take (source.length - f.place.length))
  ⟨f.message, line, column⟩

def readScript (dialect : Dialect) (source : List Char) : Except Fault Script := do
  let size := source.length
  let (token, here, after, newline) ← Parser.readAt dialect size (Token.skipHashbang source) true
  let blank : Parser.State := { token := .eof, here := [], after := [], newline := false, size }
  let start := blank.arrive token here after newline
  let ((body, _), final) ←
    (Parser.program (Parser.grammar (4 * size + 16)) Parser.atEnd).run { dialect } |>.run start
  match final.noted with
  | some f => throw f
  | none => return body

def parseWith (dialect : Dialect) (source : String) : Except ParseError Script :=
  let chars := source.toList
  (readScript dialect chars).mapError (ParseError.ofFault chars)

def parse (source : String) : Except ParseError Script :=
  parseWith {} source

end DomFlow.Script
