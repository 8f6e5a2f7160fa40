/-! # JSON documents

A document is printed over lines, every level two blanks further in; fields keep their order. -/

namespace DomFlow.Report

inductive Json where
  | num (n : Nat)
  | str (s : String)
  | arr (items : List Json)
  | obj (fields : List (String × Json))
deriving Repr, Inhabited

namespace Json

def hexDigit (n : Nat) : Char := (Nat.toDigits 16 n).headD '0'

/-- One character as it stands between quotes: quotes, backslashes and control characters are escaped. -/
def escapedChar (c : Char) : List Char :=
  match c with
  | '\x22' => ['\\', '\x22']
  | '\\' => ['\\', '\\']
  | '\x08' => ['\\', 'b']
  | '\t' => ['\\', 't']
  | '\n' => ['\\', 'n']
  | '\x0c' => ['\\', 'f']
  | '\r' => ['\\', 'r']
  | _ =>
    if c.toNat < 0x20 then ['\\', 'u', '0', '0', hexDigit (c.toNat / 16), hexDigit (c.toNat % 16)]
    else [c]

def quoted (s : String) : List Char := ['\x22'] ++ s.toList.flatMap escapedChar ++ ['\x22']

/-- The end of a line and the blanks of the next one. -/
def lineBreak (level : Nat) : List Char := '\n' :: List.replicate (2 * level) ' '

mutual

def renderAt (level : Nat) : Json → List Char
  | .num n => (toString n).toList
  | .str s => quoted s
  | .arr [] => ['[', ']']
  | .arr (j :: js) => ['['] ++ lineBreak (level + 1) ++ renderAt (level + 1) j ++ renderItems (level + 1) js ++
      lineBreak level ++ [']']
  | .obj [] => ['\x7b', '\x7d']
  | .obj ((k, j) :: fs) => ['\x7b'] ++ lineBreak (level + 1) ++ quoted k ++ [':', ' '] ++ renderAt (level + 1) j ++
      renderFields (level + 1) fs ++ lineBreak level ++ ['\x7d']

def renderItems (level : Nat) : List Json → List Char
  | [] => []
  | j :: js => [','] ++ lineBreak level ++ renderAt level j ++ renderItems level js

def renderFields (level : Nat) : List (String × Json) → List Char
  | [] => []
  | (k, j) :: fs => [','] ++ lineBreak level ++ quoted k ++ [':', ' '] ++ renderAt level j ++ renderFields level fs

end

def render (j : Json) : String := String.ofList (j.renderAt 0)

end Json

end DomFlow.Report
