import DomFlow.Text.CharClass

/-! # Quoted text

Text between double quotes as evidence shows it: quotes, backslashes and common control characters have
short escapes, other characters without a visible form of their own are written by code point. -/

namespace DomFlow.Text

def quotedChar (c : Char) : String :=
  match c with
  | '\x00' => "\\0"
  | '\t' => "\\t"
  | '\n' => "\\n"
  | '\r' => "\\r"
  | '\x22' => "\\\""
  | '\\' => "\\\\"
  | _ =>
    if isGraphemeExtend c || !isPrintable c then
      "\\u\x7b" ++ String.ofList (Nat.toDigits 16 c.toNat) ++ "\x7d"
    else c.toString

def quoted (s : String) : String :=
  "\"" ++ String.join (s.toList.map quotedChar) ++ "\""

end DomFlow.Text
