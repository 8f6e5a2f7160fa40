import DomFlow.Analysis

/-! # Results of a run

Every file of a run has a result: the report of its analysis, or why there is none. -/

namespace DomFlow

inductive FileOutcome where
  | analyzed (report : Analysis.Report)
  | failed (message : String)
deriving DecidableEq, Repr, Inhabited

structure FileResult where
  path : String
  outcome : FileOutcome
deriving DecidableEq, Repr, Inhabited

namespace FileResult

def report? (r : FileResult) : Option Analysis.Report :=
  match r.outcome with
  | .analyzed report => some report
  | .failed _ => none

def error? (r : FileResult) : Option String :=
  match r.outcome with
  | .analyzed _ => none
  | .failed message => some message

/-- The findings in a file; there are none if it was not analyzed. -/
def findings (r : FileResult) : List Finding := (r.report?.map (·.findings)).getD []

def hasFindings (r : FileResult) : Bool := !r.findings.isEmpty

end FileResult

structure Totals where
  filesWithFindings : Nat := 0
  filesWithErrors : Nat := 0
  findings : Nat := 0
  staticFindings : Nat := 0
  emulatedFindings : Nat := 0
deriving DecidableEq, Repr, Inhabited

def Totals.add (t : Totals) (r : FileResult) : Totals :=
  match r.outcome with
  | .analyzed report =>
    { t with
      filesWithFindings := t.filesWithFindings + if report.isClean then 0 else 1
      findings := t.findings + report.findings.length
      staticFindings := t.staticFindings + report.staticFindings.length
      emulatedFindings := t.emulatedFindings + report.emulatedFindings.length }
  | .failed _ => { t with filesWithErrors := t.filesWithErrors + 1 }

def Totals.of (results : List FileResult) : Totals := results.foldl Totals.add {}

end DomFlow
