import DomFlow.Command.Run
import DomFlow.Proofs.NearestConfig
import Mathlib.Data.List.Nodup
import Mathlib.Tactic.TFAE

/-! # One story in all reports

The counts, the document, the report for people and the exit status each go through the results of a run on
their own. They agree on what a finding is, on what an error is, and on which files are shown. -/

namespace DomFlow

namespace FileResult

/-- Whether there is no report on a file. -/
def isFailed (r : FileResult) : Bool := r.error?.isSome

section

variable {path message : String} {report : Analysis.Report}

@[simp] theorem findings_analyzed : findings ⟨path, .analyzed report⟩ = report.findings := rfl

@[simp] theorem findings_failed : findings ⟨path, .failed message⟩ = [] := rfl

@[simp] theorem isFailed_analyzed : isFailed ⟨path, .analyzed report⟩ = false := rfl

@[simp] theorem isFailed_failed : isFailed ⟨path, .failed message⟩ = true := rfl

@[simp] theorem hasFindings_analyzed : hasFindings ⟨path, .analyzed report⟩ = !report.isClean := rfl

@[simp] theorem hasFindings_failed : hasFindings ⟨path, .failed message⟩ = false := rfl

end

theorem hasFindings_iff {r : FileResult} : r.hasFindings = true ↔ r.findings ≠ [] := by
  simp [hasFindings]

end FileResult

namespace Totals

/-- What one result adds to the counts. -/
theorem add_eq (t : Totals) (r : FileResult) :
    t.add r =
      { filesWithFindings := t.filesWithFindings + if r.hasFindings then 1 else 0
        filesWithErrors := t.filesWithErrors + if r.isFailed then 1 else 0
        findings := t.findings + r.findings.length
        staticFindings := t.staticFindings + r.findings.countP fun f => !f.isEmulated
        emulatedFindings := t.emulatedFindings + r.findings.countP Finding.isEmulated } := by
  obtain ⟨path, outcome⟩ := r
  cases outcome with
  | analyzed report =>
    cases hclean : report.isClean <;>
      simp [add, hclean, Analysis.Report.staticFindings, Analysis.Report.emulatedFindings,
        List.countP_eq_length_filter]
  | failed message => simp [add]

theorem foldl_add_eq (results : List FileResult) (t : Totals) :
    results.foldl add t =
      { filesWithFindings := t.filesWithFindings + results.countP FileResult.hasFindings
        filesWithErrors := t.filesWithErrors + results.countP FileResult.isFailed
        findings := t.findings + (results.flatMap FileResult.findings).length
        staticFindings := t.staticFindings + (results.flatMap FileResult.findings).countP fun f => !f.isEmulated
        emulatedFindings := t.emulatedFindings + (results.flatMap FileResult.findings).countP Finding.isEmulated } := by
  induction results generalizing t with
  | nil => rfl
  | cons r rs ih =>
    rw [List.foldl_cons, ih, add_eq, List.flatMap_cons, List.countP_cons, List.countP_cons, List.countP_append,
      List.countP_append, List.length_append]
    simp only [mk.injEq]
    omega

/-- The counts of a run. -/
theorem of_eq (results : List FileResult) :
    Totals.of results =
      { filesWithFindings := results.countP FileResult.hasFindings
        filesWithErrors := results.countP FileResult.isFailed
        findings := (results.flatMap FileResult.findings).length
        staticFindings := (results.flatMap FileResult.findings).countP fun f => !f.isEmulated
        emulatedFindings := (results.flatMap FileResult.findings).countP Finding.isEmulated } := by
  rw [Totals.of, foldl_add_eq]
  simp

theorem findings_of (results : List FileResult) :
    (Totals.of results).findings = (Totals.of results).staticFindings + (Totals.of results).emulatedFindings := by
  simp only [of_eq]
  rw [List.length_eq_countP_add_countP Finding.isEmulated, Nat.add_comm]
  simp

theorem findings_pos_iff {results : List FileResult} :
    0 < (Totals.of results).findings ↔ ∃ r ∈ results, r.hasFindings = true := by
  simp only [of_eq, List.length_pos_iff, FileResult.hasFindings_iff, ne_eq, List.flatMap_eq_nil_iff, not_forall,
    exists_prop]

theorem filesWithFindings_pos_iff {results : List FileResult} :
    0 < (Totals.of results).filesWithFindings ↔ ∃ r ∈ results, r.hasFindings = true := by
  simp only [of_eq, List.countP_pos_iff]

end Totals

namespace Report

def Json.field? (key : String) : Json → Option Json
  | .obj fields => fields.lookup key
  | _ => none

/-- The items of an array under a key; a key that is absent stands for an empty array. -/
def Json.listed (key : String) (j : Json) : List Json :=
  match j.field? key with
  | some (.arr items) => items
  | _ => []

def taggedFinding (path : String) (f : Finding) : Json :=
  .obj [("file", .str path), ("source", .str f.source), ("sink", .str f.sink), ("line", .num f.line),
    ("confidence", .str f.confidence.text), ("description", .str f.description), ("evidence", .str f.evidence)]

/-- The entries of a document for the findings of one result. -/
def findingEntries (r : FileResult) : List Json :=
  match r.outcome with
  | .analyzed report => report.findings.map (taggedFinding r.path)
  | .failed _ => []

section

variable (run : Run) (results : List FileResult)

theorem document_findings :
    (document run results).field? "findings" = some (.arr (results.flatMap findingEntries)) := by
  have hentries : results.flatMap findingEntries = (filedFindings results).map fun e => taggedFinding e.1 e.2 := by
    rw [filedFindings, List.map_flatMap]
    congr 1
    funext r
    obtain ⟨path, outcome⟩ := r
    cases outcome with
    | analyzed report => simp [findingEntries]
    | failed message => simp [findingEntries]
  rw [hentries]
  rfl

def summaryCounts (t : Totals) : List (String × Nat) :=
  [("files_with_findings", t.filesWithFindings), ("files_with_errors", t.filesWithErrors),
    ("total_findings", t.findings), ("static_findings", t.staticFindings), ("emulator_findings", t.emulatedFindings)]

theorem document_counts :
    ∀ e ∈ summaryCounts (Totals.of results),
      ((document run results).field? "summary").bind (Json.field? e.1) = some (.num e.2) := by
  simp only [summaryCounts, List.forall_mem_cons, List.not_mem_nil, false_implies, implies_true, and_true]
  exact ⟨rfl, rfl, rfl, rfl, rfl⟩

theorem length_findingEntries : (results.flatMap findingEntries).length = (Totals.of results).findings := by
  have hlength : ∀ r, (findingEntries r).length = r.findings.length := by
    rintro ⟨path, outcome⟩
    cases outcome <;> simp [findingEntries]
  simp [Totals.of_eq, List.length_flatMap, hlength]

theorem length_filedErrors : (filedErrors results).length = (Totals.of results).filesWithErrors := by
  rw [filedErrors, List.length_filterMap_eq_countP, Totals.of_eq]
  simp only [Option.isSome_map]
  rfl

/-- The errors of a document: none if the key is absent. -/
theorem document_errors :
    (document run results).listed "errors" = (filedErrors results).map fun (path, message) =>
      Json.obj [("file", .str path), ("message", .str message)] := by
  have hfield : (document run results).field? "errors" = (errorsField results).lookup "errors" := rfl
  rw [Json.listed, hfield, errorsField]
  cases filedErrors results with
  | nil => rfl
  | cons e es => rfl

end

/-- The entry of a result among the unbound names: it has one if it was analyzed and there are any. -/
def globalsOf? (r : FileResult) : Option (String × List String) :=
  match r.outcome with
  | .analyzed report => if report.globals.isEmpty then none else some (r.path, report.globals)
  | .failed _ => none

theorem path_of_globalsOf? {r : FileResult} {e : String × List String} (h : globalsOf? r = some e) :
    e.1 = r.path := by
  rw [globalsOf?] at h
  split at h
  · obtain ⟨-, heq⟩ := Option.ite_none_left_eq_some.mp h
    rw [← Option.some.inj heq]
  · cases h

def addGlobals (acc : List (String × List String)) (r : FileResult) : List (String × List String) :=
  match globalsOf? r with
  | some e => Assoc.set e.1 e.2 acc
  | none => acc

theorem globalsByFile_eq (results : List FileResult) :
    globalsByFile results = Assoc.inOrder (results.foldl addGlobals []) := by
  unfold globalsByFile
  congr 2
  funext acc r
  obtain ⟨path, outcome⟩ := r
  cases outcome with
  | analyzed report =>
    simp only [addGlobals, globalsOf?, FileResult.report?]
    split <;> rfl
  | failed message => rfl

/-- No path has two entries. -/
theorem keys_foldl_addGlobals_nodup (results : List FileResult) {acc : List (String × List String)}
    (h : (acc.map Prod.fst).Nodup) : ((results.foldl addGlobals acc).map Prod.fst).Nodup := by
  induction results generalizing acc with
  | nil => exact h
  | cons r rs ih =>
    apply ih
    rw [addGlobals]
    cases globalsOf? r with
    | none => exact h
    | some e => exact Assoc.nodup_keys_set h e.1 e.2

/-- Of two results for one path the later one counts. -/
theorem lookup_foldl_addGlobals (results : List FileResult) (acc : List (String × List String)) (path : String) :
    (results.foldl addGlobals acc).lookup path =
      ((results.filterMap globalsOf?).reverse.lookup path).or (acc.lookup path) := by
  induction results generalizing acc with
  | nil => simp
  | cons r rs ih =>
    rw [List.foldl_cons, ih, List.filterMap_cons, addGlobals]
    cases globalsOf? r with
    | none => rfl
    | some e =>
      obtain ⟨key, names⟩ := e
      simp only [List.reverse_cons, List.lookup_append, Assoc.lookup_set, Assoc.lookup_cons, List.lookup_nil,
        Option.or_assoc]
      by_cases hpath : path = key <;> simp [hpath]

/-- Results with paths of their own keep their entries. -/
theorem foldl_addGlobals_of_nodup {results : List FileResult} {acc : List (String × List String)}
    (h : (acc.map Prod.fst ++ results.map FileResult.path).Nodup) :
    results.foldl addGlobals acc = acc ++ results.filterMap globalsOf? := by
  induction results generalizing acc with
  | nil => simp
  | cons r rs ih =>
    rw [List.foldl_cons, addGlobals, List.filterMap_cons]
    cases hentry : globalsOf? r with
    | none =>
      apply ih
      exact h.sublist (List.Sublist.append_left (List.sublist_cons_self _ _) _)
    | some e =>
      have hpath := path_of_globalsOf? hentry
      have hnew : e.1 ∉ acc.map Prod.fst := by
        intro hmem
        have hdisjoint := (List.nodup_append.mp h).2.2 e.1 hmem r.path (by simp)
        exact hdisjoint hpath
      simp only [Assoc.set_of_notMem e.2 hnew]
      rw [ih, List.append_assoc]
      · rfl
      · simpa [hpath] using h

theorem globalsByFile_perm {results : List FileResult} (h : (results.map FileResult.path).Nodup) :
    (globalsByFile results).Perm (results.filterMap globalsOf?) := by
  rw [globalsByFile_eq, foldl_addGlobals_of_nodup (by simpa using h), List.nil_append]
  exact Assoc.inOrder_perm _

/-- What the report for people is made of. -/
inductive Piece where
  | heading (path : String)
  | finding (f : Finding)
  | globals (names : List String)
  | failure (message : String)
  | gap
  | clean
  | counts (t : Totals)
  | unread (n : Nat)
deriving DecidableEq, Repr

namespace Piece

/-- The lines on a finding, with a way to mark words. -/
def findingText (mark : Style → String → String) (f : Finding) : String :=
  "  " ++ mark .alarm f.confidence.text ++ " " ++ mark .label f.source ++ " " ++ mark .note "->" ++ " " ++
    mark .label f.sink ++ " " ++
    (if f.isEmulated then mark .sandboxPass "[emulator]" else mark .staticPass "[static]") ++ "\n" ++
  "      " ++ f.description ++ "\n" ++
  if f.evidence = "" then "" else "      " ++ mark .note "evidence:" ++ " " ++ f.evidence ++ "\n"

def text (mark : Style → String → String) : Piece → String
  | heading path => mark .heading path ++ "\n"
  | finding f => findingText mark f
  | globals names => "  " ++ mark .note "implicit globals:" ++ " " ++ String.intercalate ", " names ++ "\n"
  | failure message => "  " ++ mark .alarm "error:" ++ " " ++ message ++ "\n"
  | gap => "\n"
  | clean => mark .success "✓" ++ " No DOM-XSS flows found\n"
  | counts t =>
    "Found " ++ toString t.findings ++ " finding(s) in " ++ toString t.filesWithFindings ++ " file(s) (" ++
      toString t.staticFindings ++ " static, " ++ toString t.emulatedFindings ++ " emulator)\n"
  | unread n => mark .caution "warning:" ++ " " ++ toString n ++ " file(s) could not be analyzed\n"

def finding? : Piece → Option Finding
  | finding f => some f
  | _ => none

end Piece

def pieces (r : FileResult) : List Piece :=
  match r.outcome with
  | .analyzed report =>
    if report.findings = [] then []
    else .heading r.path :: (report.findings.map .finding ++
      ((if report.globals = [] then [] else [.globals report.globals]) ++ [.gap]))
  | .failed message => [.heading r.path, .failure message, .gap]

def closing (t : Totals) : List Piece :=
  (if t.findings = 0 then .clean else .counts t) :: if t.filesWithErrors = 0 then [] else [.unread t.filesWithErrors]

def allPieces (results : List FileResult) : List Piece := results.flatMap pieces ++ closing (Totals.of results)

/-- A result has a section if it failed or has findings. -/
theorem pieces_ne_nil_iff {r : FileResult} : pieces r ≠ [] ↔ r.isFailed = true ∨ r.hasFindings = true := by
  obtain ⟨path, outcome⟩ := r
  cases outcome with
  | analyzed report => simp [pieces, Analysis.Report.isClean]
  | failed message => simp [pieces]

theorem findingBlock_eq (color : Bool) (f : Finding) : findingBlock color f = Piece.findingText (paint color) f := by
  delta findingBlock Piece.findingText
  by_cases hevidence : f.evidence = ""
  · rw [if_pos (String.isEmpty_iff.mpr hevidence), if_pos hevidence]
  · rw [if_neg (mt String.isEmpty_iff.mp hevidence), if_neg hevidence]

/-- The section of a result is the text of its pieces. -/
theorem section?_eq (color : Bool) (r : FileResult) : section? color r =
    if pieces r = [] then none else some (String.join ((pieces r).map (Piece.text (paint color)))) := by
  obtain ⟨path, outcome⟩ := r
  cases outcome with
  | analyzed report =>
    by_cases hnone : report.findings = []
    · simp [section?, pieces, Analysis.Report.isClean, hnone]
    · have hglobals : globalsLine color report.globals = String.join ((if report.globals = [] then []
          else [Piece.globals report.globals]).map (Piece.text (paint color))) := by
        by_cases hempty : report.globals = [] <;> simp [globalsLine, hempty, Piece.text]
      have hblocks : report.findings.map (findingBlock color) =
          (report.findings.map Piece.finding).map (Piece.text (paint color)) := by
        rw [List.map_map]
        exact List.map_congr_left fun f _ => findingBlock_eq color f
      simp only [section?, pieces, Analysis.Report.isClean, List.isEmpty_iff, hnone, hglobals, hblocks]
      simp [Piece.text, String.append_assoc]
  | failed message =>
    rw [if_neg (by simp [pieces])]
    simp only [section?, pieces, List.map_cons, List.map_nil, Piece.text, String.join_cons, String.join_nil,
      String.append_empty, String.append_assoc]

theorem summary_eq (color : Bool) (t : Totals) :
    summary color t = String.join ((closing t).map (Piece.text (paint color))) := by
  by_cases hfindings : t.findings = 0 <;> by_cases herrors : t.filesWithErrors = 0 <;>
    simp [summary, closing, hfindings, herrors, Piece.text]

theorem pretty_eq_join_pieces (color : Bool) (results : List FileResult) :
    pretty color results = String.join ((allPieces results).map (Piece.text (paint color))) := by
  rw [pretty, allPieces, List.map_append, String.join_append, summary_eq]
  congr 1
  induction results with
  | nil => rfl
  | cons r rs ih =>
    rw [List.filterMap_cons, section?_eq, List.flatMap_cons, List.map_append, String.join_append, ← ih]
    by_cases hnil : pieces r = []
    · simp [hnil]
    · simp [hnil]

/-- The findings that are shown are those of all results, in order. -/
theorem filterMap_finding?_allPieces (results : List FileResult) :
    (allPieces results).filterMap Piece.finding? = results.flatMap FileResult.findings := by
  have hclosing : (closing (Totals.of results)).filterMap Piece.finding? = [] := by
    rw [closing]
    split <;> split <;> rfl
  rw [allPieces, List.filterMap_append, hclosing, List.append_nil, List.filterMap_flatMap]
  congr 1
  funext r
  obtain ⟨path, outcome⟩ := r
  cases outcome with
  | analyzed report =>
    by_cases hnone : report.findings = []
    · simp [pieces, hnone]
    · have hshown : (report.findings.map Piece.finding).filterMap Piece.finding? = report.findings := by
        rw [List.filterMap_map]
        exact List.filterMap_some
      by_cases hempty : report.globals = [] <;>
        simp [pieces, hnone, hempty, List.filterMap_cons, List.filterMap_append, Piece.finding?, hshown]
  | failed message => simp [pieces, List.filterMap_cons, Piece.finding?]

/-- Where a text is put again after resets, nothing of the text around it is lost. -/
theorem sublist_restyle (start : List Char) (fuel : Nat) (cs : List Char) : cs.Sublist (restyle start fuel cs) := by
  fun_induction restyle start fuel cs with
  | case1 cs => exact List.Sublist.refl cs
  | case2 => exact List.Sublist.refl []
  | case3 fuel c r hreset ih =>
    obtain ⟨rest, hrest⟩ := List.isPrefixOf_iff_prefix.mp hreset
    rw [← hrest, List.drop_left] at ih ⊢
    rw [List.append_assoc]
    exact (List.Sublist.refl resetCode).append (ih.trans (List.sublist_append_right start _))
  | case4 fuel c r hreset ih => exact ih.cons_cons c

/-- Marks are put around a text and inside it. -/
theorem sublist_paint (color : Bool) (style : Style) (s : String) :
    s.toList.Sublist (paint color style s).toList := by
  cases color with
  | false => exact List.Sublist.refl _
  | true =>
    simp only [paint, if_true, String.toList_append, String.toList_ofList]
    exact (sublist_restyle _ _ _).trans
      ((List.sublist_append_right _ _).trans (List.sublist_append_left _ _))

theorem clean_prefix_summary_iff {color : Bool} {t : Totals} :
    (Piece.clean.text (paint color)).toList <+: (summary color t).toList ↔ t.findings = 0 := by
  rw [summary, String.toList_append]
  by_cases hzero : t.findings = 0
  · simp [hzero, Piece.text]
  · have hhead : (Piece.clean.text (paint color)).toList ≠ [] ∧
        (Piece.clean.text (paint color)).toList.head? ≠ some 'F' := by
      cases color <;> decide
    simp only [beq_iff_eq, hzero, if_false, iff_false]
    rintro ⟨rest, heq⟩
    apply hhead.2
    rw [← List.head?_append_of_ne_nil _ hhead.1, heq]
    simp

end Report

namespace Command

/-- A check comes to report results: its patterns compile and it finds files. -/
def ComesToReport (files : FileTree) (o : CheckOptions) (results : List FileResult) : Prop :=
  let config := (Config.loadOrDefaultWithWarnings files o.path).config
  (∃ p, (o.settings config).patterns = .ok p) ∧
    ∃ paths, paths ≠ [] ∧ discover files config o.path = some paths ∧
      results = paths.map (resultFor files (o.settings config))

theorem exit_check_eq_one_iff {s : Surroundings} {files : FileTree} {o : CheckOptions} {level : LogLevel}
    {results : List FileResult} (h : ComesToReport files o results) :
    (check s files o level).1.exit = 1 ↔ ∃ r ∈ results, r.hasFindings = true := by
  obtain ⟨⟨p, hp⟩, paths, hne, hpaths, rfl⟩ := h
  cases paths with
  | nil => exact absurd rfl hne
  | cons first rest =>
    simp only [check, hp, hpaths]
    by_cases hany : ((first :: rest).map (resultFor files
        (o.settings (Config.loadOrDefaultWithWarnings files o.path).config))).any FileResult.hasFindings = true
    · rw [if_pos hany]
      simpa using hany
    · rw [if_neg hany]
      simpa using hany

end Command

namespace Report

/-- What the counts, the document, the report for people and the exit status say about results, where marks of
colours only add to the report. -/
structure OneStory (color : Bool) (run : Run) (results : List FileResult) : Prop where
  totals : Totals.of results =
    { filesWithFindings := results.countP FileResult.hasFindings
      filesWithErrors := results.countP FileResult.isFailed
      findings := (results.flatMap FileResult.findings).length
      staticFindings := (results.flatMap FileResult.findings).countP fun f => !f.isEmulated
      emulatedFindings := (results.flatMap FileResult.findings).countP Finding.isEmulated }
  passes : (Totals.of results).findings = (Totals.of results).staticFindings + (Totals.of results).emulatedFindings
  listed : (Totals.of results).findings = ((document run results).listed "findings").length
  shown : (Totals.of results).findings = ((allPieces results).filterMap Piece.finding?).length
  errors : (Totals.of results).filesWithErrors = ((document run results).listed "errors").length
  failed : (Totals.of results).filesWithErrors = (results.filter FileResult.isFailed).length
  summary_counts : ∀ e ∈ summaryCounts (Totals.of results),
    ((document run results).field? "summary").bind (Json.field? e.1) = some (.num e.2)
  findings_field : (document run results).field? "findings" = some (.arr (results.flatMap findingEntries))
  pieces_findings : (allPieces results).filterMap Piece.finding? = results.flatMap FileResult.findings
  pretty_text : pretty color results = String.join ((allPieces results).map (Piece.text (paint color)))
  marks : ∀ style text, paint false style text = text ∧ text.toList.Sublist (paint color style text).toList
  sections : ∀ r ∈ results, (section? color r).isSome = true ↔ r.isFailed = true ∨ r.hasFindings = true
  has_findings : [∃ r ∈ results, r.hasFindings = true, 0 < (Totals.of results).findings,
    0 < (Totals.of results).filesWithFindings,
    ¬(Piece.clean.text (paint color)).toList <+: (summary color (Totals.of results)).toList].TFAE
  exit : ∀ s files o level, Command.ComesToReport files o results →
    ((Command.check s files o level).1.exit = 1 ↔ ∃ r ∈ results, r.hasFindings = true)
  globals : (results.map FileResult.path).Nodup →
    ∃ fields, ((document run results).field? "summary").bind (Json.field? "global_accesses") = some (.obj fields) ∧
      fields.Perm ((results.filterMap globalsOf?).map fun e => (e.1, .arr (e.2.map .str)))

/-- The counts, the document, the report for people and the exit status tell the same story. -/
theorem reports_agree (color : Bool) (run : Run) (results : List FileResult) : OneStory color run results where
  totals := Totals.of_eq results
  passes := Totals.findings_of results
  listed := by rw [Json.listed, document_findings, length_findingEntries]
  shown := by rw [filterMap_finding?_allPieces, Totals.of_eq]
  errors := by rw [document_errors, List.length_map, length_filedErrors]
  failed := by simp only [Totals.of_eq, List.countP_eq_length_filter]
  summary_counts := document_counts run results
  findings_field := document_findings run results
  pieces_findings := filterMap_finding?_allPieces results
  pretty_text := pretty_eq_join_pieces color results
  marks := fun style text => ⟨rfl, sublist_paint color style text⟩
  sections := by
    intro r _
    rw [← pieces_ne_nil_iff, section?_eq]
    by_cases hnil : pieces r = [] <;> simp [hnil]
  has_findings := by
    tfae_have 1 ↔ 2 := Totals.findings_pos_iff.symm
    tfae_have 1 ↔ 3 := Totals.filesWithFindings_pos_iff.symm
    tfae_have 2 ↔ 4 := by rw [clean_prefix_summary_iff, Nat.pos_iff_ne_zero]
    tfae_finish
  exit := fun _ _ _ _ => Command.exit_check_eq_one_iff
  globals := fun hpaths => ⟨_, rfl, (globalsByFile_perm hpaths).map _⟩

/-- A clean file with an unbound name, one that could not be read, and one with findings of both passes. -/
def threeFiles : List FileResult :=
  [⟨"b.js", .analyzed { globals := ["x"] }⟩, ⟨"c.js", .failed "failed to read file"⟩,
    ⟨"a.js", .analyzed { findings := [{ source := "location.hash", sink := "eval", description := "" },
      { source := "Emulator", sink := "Obfuscated Sink", description := "" }], globals := ["y", "z"] }⟩]

def oneScript : FileTree :=
  .folder [("a.js", .file (some "")), ("domxss.toml", .file (some "sources = []\nsinks = []"))]

theorem comesToReport_oneScript :
    Command.ComesToReport oneScript { path := "a.js" }
      [Command.resultFor oneScript ⟨[], [], {}⟩ "a.js"] := by
  have hnear : Config.IsNearest oneScript "a.js" "domxss.toml" :=
    Config.find?_eq_some_iff_isNearest.mp (by decide)
  have hconfig : (Toml.parse? "sources = []\nsinks = []").bind Config.ofTable? =
      some { sources := some [], sinks := some [] } := by decide +kernel
  have htext : Config.ofText "sources = []\nsinks = []" = .ok { sources := some [], sinks := some [] } := by
    rw [Config.ofText, hconfig]
  have hloaded := Config.loadOrDefaultWithWarnings_of_usable hnear rfl htext
  rw [Command.ComesToReport, hloaded]
  exact ⟨⟨_, rfl⟩, ["a.js"], by simp, by decide, rfl⟩

theorem reports_agree_threeFiles :
    (threeFiles.map FileResult.path).Nodup ∧
    (Totals.of threeFiles).findings = 2 ∧
    ((document default threeFiles).listed "findings").length = 2 ∧
    (∃ fields, ((document default threeFiles).field? "summary").bind (Json.field? "global_accesses") =
        some (.obj fields) ∧
      fields.Perm [("b.js", .arr [.str "x"]), ("a.js", .arr [.str "y", .str "z"])]) ∧
    Command.ComesToReport oneScript { path := "a.js" } [Command.resultFor oneScript ⟨[], [], {}⟩ "a.js"] ∧
    ((Command.check default oneScript { path := "a.js" } default).1.exit = 1 ↔
      ∃ r ∈ [Command.resultFor oneScript ⟨[], [], {}⟩ "a.js"], r.hasFindings = true) := by
  have hthree := reports_agree false default threeFiles
  have hone := reports_agree false default [Command.resultFor oneScript ⟨[], [], {}⟩ "a.js"]
  have hpaths : (threeFiles.map FileResult.path).Nodup := by decide
  have hcount : (Totals.of threeFiles).findings = 2 := rfl
  exact ⟨hpaths, hcount, hthree.listed.symm.trans hcount, hthree.globals hpaths, comesToReport_oneScript,
    hone.exit _ _ _ _ comesToReport_oneScript⟩

end Report

end DomFlow
