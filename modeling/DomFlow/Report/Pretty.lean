import DomFlow.Report.Basic

/-! # The report for people

The findings of every file under its path, with a summary at the end. Marks in the text may be coloured. -/

namespace DomFlow.Report

inductive Style where
  | heading
  | alarm
  | success
  | caution
  | label
  | note
  | staticPass
  | sandboxPass
deriving DecidableEq, Repr, Inhabited

/-- The codes that a terminal knows for a style. -/
def Style.codes : Style → String
  | heading => "1;4"
  | alarm => "1;31"
  | success => "1;32"
  | caution => "1;33"
  | label => "33"
  | note => "2"
  | staticPass => "36"
  | sandboxPass => "35"

def resetCode : List Char := "\x1b[0m".toList

/-- Puts a text again after every reset inside another one; `fuel` bounds the length. -/
def restyle (start : List Char) : Nat → List Char → List Char
  | 0, cs => cs
  | _ + 1, [] => []
  | fuel + 1, c :: r =>
    if resetCode.isPrefixOf (c :: r) then
      resetCode ++ start ++ restyle start fuel ((c :: r).drop resetCode.length)
    else c :: restyle start fuel r

/-- A text in a style, if colours are wanted. -/
def paint (color : Bool) (style : Style) (text : String) : String :=
  if color then
    let start := "\x1b[" ++ style.codes ++ "m"
    start ++ String.ofList (restyle start.toList (text.length + 1) text.toList) ++ "\x1b[0m"
  else text

def findingBlock (color : Bool) (f : Finding) : String :=
  let pass := if f.isEmulated then paint color .sandboxPass "[emulator]" else paint color .staticPass "[static]"
  "  " ++ paint color .alarm f.confidence.text ++ " " ++ paint color .label f.source ++ " " ++
    paint color .note "->" ++ " " ++ paint color .label f.sink ++ " " ++ pass ++ "\n" ++
  "      " ++ f.description ++ "\n" ++
  if f.evidence.isEmpty then "" else "      " ++ paint color .note "evidence:" ++ " " ++ f.evidence ++ "\n"

def globalsLine (color : Bool) (names : List String) : String :=
  if names.isEmpty then ""
  else "  " ++ paint color .note "implicit globals:" ++ " " ++ String.intercalate ", " names ++ "\n"

/-- The section of a file: it has none if it was analyzed and is clean. -/
def section? (color : Bool) (r : FileResult) : Option String :=
  let heading := paint color .heading r.path ++ "\n"
  match r.outcome with
  | .analyzed report =>
    if report.isClean then none
    else some (heading ++ String.join (report.findings.map (findingBlock color)) ++
      globalsLine color report.globals ++ "\n")
  | .failed message => some (heading ++ "  " ++ paint color .alarm "error:" ++ " " ++ message ++ "\n" ++ "\n")

def summary (color : Bool) (t : Totals) : String :=
  (if t.findings == 0 then paint color .success "✓" ++ " No DOM-XSS flows found\n"
   else "Found " ++ toString t.findings ++ " finding(s) in " ++ toString t.filesWithFindings ++ " file(s) (" ++
     toString t.staticFindings ++ " static, " ++ toString t.emulatedFindings ++ " emulator)\n") ++
  if t.filesWithErrors == 0 then ""
  else paint color .caution "warning:" ++ " " ++ toString t.filesWithErrors ++ " file(s) could not be analyzed\n"

def pretty (color : Bool) (results : List FileResult) : String :=
  String.join (results.filterMap (section? color)) ++ summary color (Totals.of results)

end DomFlow.Report
