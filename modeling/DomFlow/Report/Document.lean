import DomFlow.Assoc
import DomFlow.Report.Basic
import DomFlow.Report.Json

/-! # The report as a document

One document for a whole run: about the run, the counts, all findings with their files, and the files that
could not be analyzed. -/

namespace DomFlow.Report

def programVersion : String := "0.1.0"

structure Run where
  workingDirectory : String
  analyzedPath : String
  totalFiles : Nat
deriving DecidableEq, Repr, Inhabited

/-- The unbound names of every file that has any, in order of the paths; of two results for one path the
later one counts. -/
def globalsByFile (results : List FileResult) : List (String × List String) :=
  Assoc.inOrder (results.foldl (fun acc r => match r.report? with
    | some report => if report.globals.isEmpty then acc else Assoc.set r.path report.globals acc
    | none => acc) [])

def findingFields (f : Finding) : List (String × Json) :=
  [("source", .str f.source), ("sink", .str f.sink), ("line", .num f.line), ("confidence", .str f.confidence.text),
    ("description", .str f.description), ("evidence", .str f.evidence)]

/-- All findings with the paths of their files, in order. -/
def filedFindings (results : List FileResult) : List (String × Finding) :=
  results.flatMap fun r => r.findings.map fun f => (r.path, f)

/-- All failures with the paths of their files, in order. -/
def filedErrors (results : List FileResult) : List (String × String) :=
  results.filterMap fun r => r.error?.map fun message => (r.path, message)

def errorsField (results : List FileResult) : List (String × Json) :=
  match filedErrors results with
  | [] => []
  | errors => [("errors", .arr (errors.map fun (path, message) =>
      .obj [("file", .str path), ("message", .str message)]))]

def document (run : Run) (results : List FileResult) : Json :=
  let totals := Totals.of results
  .obj ([
    ("version", .str "1.0"),
    ("metadata", .obj [
      ("domxss_version", .str programVersion),
      ("working_directory", .str run.workingDirectory),
      ("analyzed_path", .str run.analyzedPath)]),
    ("summary", .obj [
      ("total_files", .num run.totalFiles),
      ("files_with_findings", .num totals.filesWithFindings),
      ("files_with_errors", .num totals.filesWithErrors),
      ("total_findings", .num totals.findings),
      ("static_findings", .num totals.staticFindings),
      ("emulator_findings", .num totals.emulatedFindings),
      ("global_accesses", .obj ((globalsByFile results).map fun (path, names) => (path, .arr (names.map .str))))]),
    ("findings", .arr ((filedFindings results).map fun (path, f) => .obj (("file", .str path) :: findingFields f)))] ++
    errorsField results)

end DomFlow.Report
