import DomFlow.Regex.Basic
import DomFlow.Text.WritingSystem

/-! # Properties by name

Names are compared without regard to case, blanks, hyphens and underscores. -/

namespace DomFlow.CharProperty

/-- The name in the form in which names are compared. -/
def looseName (s : List Char) : String :=
  let kept := (s.filter fun c => !(Text.isBlank c || c == '_' || c == '-')).map Char.toLower
  match kept with
  | 'i' :: 's' :: rest => if rest = ['c'] then "isc" else String.ofList rest
  | _ => String.ofList kept

def categoryNames? : String → Option (List Text.Category)
  | "l" | "letter" => some [.lu, .ll, .lt, .lm, .lo]
  | "lc" | "casedletter" => some [.lu, .ll, .lt]
  | "lu" | "uppercaseletter" => some [.lu]
  | "ll" | "lowercaseletter" => some [.ll]
  | "lt" | "titlecaseletter" => some [.lt]
  | "lm" | "modifierletter" => some [.lm]
  | "lo" | "otherletter" => some [.lo]
  | "m" | "mark" | "combiningmark" => some [.mn, .mc, .me]
  | "mn" | "nonspacingmark" => some [.mn]
  | "mc" | "spacingmark" => some [.mc]
  | "me" | "enclosingmark" => some [.me]
  | "n" | "number" => some [.nd, .nl, .no]
  | "nd" | "decimalnumber" | "digit" => some [.nd]
  | "nl" | "letternumber" => some [.nl]
  | "no" | "othernumber" => some [.no]
  | "p" | "punctuation" | "punct" => some [.pc, .pd, .ps, .pe, .pi, .pf, .po]
  | "pc" | "connectorpunctuation" => some [.pc]
  | "pd" | "dashpunctuation" => some [.pd]
  | "ps" | "openpunctuation" => some [.ps]
  | "pe" | "closepunctuation" => some [.pe]
  | "pi" | "initialpunctuation" => some [.pi]
  | "pf" | "finalpunctuation" => some [.pf]
  | "po" | "otherpunctuation" => some [.po]
  | "s" | "symbol" => some [.sm, .sc, .sk, .so]
  | "sm" | "mathsymbol" => some [.sm]
  | "sc" | "currencysymbol" => some [.sc]
  | "sk" | "modifiersymbol" => some [.sk]
  | "so" | "othersymbol" => some [.so]
  | "z" | "separator" => some [.zs, .zl, .zp]
  | "zs" | "spaceseparator" => some [.zs]
  | "zl" | "lineseparator" => some [.zl]
  | "zp" | "paragraphseparator" => some [.zp]
  | "c" | "other" => some [.cc, .cf, .cs, .co, .cn]
  | "cc" | "control" | "cntrl" => some [.cc]
  | "cf" | "format" => some [.cf]
  | "co" | "privateuse" => some [.co]
  | "cn" | "unassigned" => some [.cn]
  | _ => none

def ofName? (name : String) : Option CharSet :=
  match name with
  | "any" => some (.property .any)
  | "assigned" => some (.compl (.property (.categories [.cn])))
  | "ascii" => some (.property .ascii)
  | "alphabetic" | "alpha" => some (.property .alphabetic)
  | "uppercase" | "upper" => some (.property .uppercase)
  | "lowercase" | "lower" => some (.property .lowercase)
  | "whitespace" | "wspace" | "space" => some (.property .blank)
  | _ =>
    match categoryNames? name with
    | some ks => some (.property (.categories ks))
    | none => (Text.writingSystem? name).map fun rs => .property (.ranges rs)

/-- The set that a property with a value stands for. -/
def ofNameValue? (name value : String) : Option CharSet :=
  match name with
  | "gc" | "generalcategory" => (categoryNames? value).map fun ks => .property (.categories ks)
  | "sc" | "script" | "scx" | "scriptextensions" =>
    (Text.writingSystem? value).map fun rs => .property (.ranges rs)
  | _ => none

end DomFlow.CharProperty
