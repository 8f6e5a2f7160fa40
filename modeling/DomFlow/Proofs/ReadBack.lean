import DomFlow.Proofs.JsonText
import DomFlow.Proofs.Reports
import Mathlib.Data.List.Basic

/-! # The document is read back

The text of a document is well formed whatever the strings in it are, and denotes the document and nothing else.
So whoever reads it finds the counts, the findings, the errors and the unbound names that were reported. -/

namespace DomFlow.Report

open JsonText

namespace Json

theorem sizeOf_item_lt {j : Json} {items : List Json} (h : j ∈ items) : sizeOf j < sizeOf (arr items) := by
  have hlt := List.sizeOf_lt_of_mem h
  simp only [arr.sizeOf_spec]
  omega

theorem sizeOf_field_lt {f : String × Json} {fields : List (String × Json)} (h : f ∈ fields) :
    sizeOf f.2 < sizeOf (obj fields) := by
  have hlt := List.sizeOf_lt_of_mem h
  have hfield : sizeOf f = 1 + sizeOf f.1 + sizeOf f.2 := rfl
  simp only [obj.sizeOf_spec]
  omega

/-- Induction over documents, with a hypothesis for every item and every field. -/
theorem induct {motive : Json → Prop} (num : ∀ n, motive (.num n)) (str : ∀ s, motive (.str s))
    (arr : ∀ items, (∀ j ∈ items, motive j) → motive (.arr items))
    (obj : ∀ fields, (∀ f ∈ fields, motive f.2) → motive (.obj fields)) : ∀ j, motive j
  | .num n => num n
  | .str s => str s
  | .arr items => arr items fun j _ => induct num str arr obj j
  | .obj fields => obj fields fun f _ => induct num str arr obj f.2
termination_by j => j
decreasing_by
  · exact sizeOf_item_lt ‹_›
  · exact sizeOf_field_lt ‹_›

/-- What the text of a document has to denote. -/
def datum : Json → Datum
  | .num n => .number n
  | .str s => .text s
  | .arr items => .array (items.map fun j => j.datum)
  | .obj fields => .object (fields.map fun f => (f.1, f.2.datum))
termination_by j => j
decreasing_by
  · exact sizeOf_item_lt ‹_›
  · exact sizeOf_field_lt ‹_›

theorem hexDigit?_hexDigit : ∀ n < 16, Text.hexDigit? (hexDigit n) = some n := by
  decide

theorem charForm_escapedChar (c : Char) : CharForm (escapedChar c) c := by
  unfold escapedChar
  split
  case h_8 hquote hback _ _ _ _ _ =>
    split
    · next hcontrol =>
      have hcode : Code ['0', '0', hexDigit (c.toNat / 16), hexDigit (c.toNat % 16)]
          (((0 * 16 + 0) * 16 + c.toNat / 16) * 16 + c.toNat % 16) :=
        Code.digits rfl rfl (hexDigit?_hexDigit _ (by omega)) (hexDigit?_hexDigit _ (by omega))
      have hform := CharForm.code hcode (Or.inl (by omega))
      have hvalue : ((0 * 16 + 0) * 16 + c.toNat / 16) * 16 + c.toNat % 16 = c.toNat := by omega
      rwa [hvalue, Char.ofNat_toNat] at hform
    · next hcontrol => exact CharForm.plain (by omega) hquote hback
  all_goals exact CharForm.short (by decide)

theorem body_flatMap_escapedChar (s : List Char) : Body (s.flatMap escapedChar) s := by
  induction s with
  | nil => exact Body.nil
  | cons c s ih => exact Body.cons (charForm_escapedChar c) ih

theorem head?_toDigits {n : Nat} (h : n ≠ 0) : (Nat.toDigits 10 n).head? ≠ some '0' := by
  induction n using Nat.strongRecOn with
  | ind n ih =>
    rw [Nat.toDigits_eq_if (by decide)]
    split
    · next hlt =>
      have hdigit : ∀ d < 10, d ≠ 0 → Nat.digitChar d ≠ '0' := by decide
      simpa using hdigit n hlt h
    · next hge =>
      rw [List.head?_append_of_ne_nil _ Nat.toDigits_ne_nil]
      exact ih (n / 10) (by omega) (by omega)

theorem whole_toDigits (n : Nat) : Whole (Nat.toDigits 10 n) n := by
  by_cases hzero : n = 0
  · subst hzero
    exact Whole.zero
  · have hdigits : Digits (Nat.toDigits 10 n) :=
      ⟨Nat.toDigits_ne_nil, fun c hc => Nat.isDigit_of_mem_toDigits (by decide) (by decide) hc⟩
    have hwhole := Whole.digits hdigits (head?_toDigits hzero)
    rwa [Nat.ofDigitChars_ten_toDigits] at hwhole

theorem number_toString (n : Nat) : Number (toString n).toList n := by
  have hnumber := Number.parts Sign.plus (whole_toDigits n) Fraction.none Exponent.none
  simpa [Nat.toString_eq_ofList_toDigits] using hnumber

theorem blanks_lineBreak (level : Nat) : Blanks (lineBreak level) := by
  intro c hc
  simp only [lineBreak, List.mem_cons, List.mem_replicate] at hc
  rcases hc with rfl | ⟨-, rfl⟩ <;> rfl

/-- The items of an array as the grammar has them: each on a line of its own, and what closes the array after the
last one. -/
theorem exists_items {level : Nat} {last : List Char} (hlast : Blanks last) (j : Json) (js : List Json)
    (h : ∀ x ∈ j :: js, Value (x.renderAt level) x.datum) :
    ∃ items : List Item, items ≠ [] ∧ (∀ i ∈ items, i.Spaced) ∧ (∀ i ∈ items, Value i.chars i.value) ∧
      [','].intercalate (items.map Item.text) =
        lineBreak level ++ (j.renderAt level ++ (renderItems level js ++ last)) ∧
      items.map Item.value = (j :: js).map datum := by
  induction js generalizing j with
  | nil =>
    refine ⟨[⟨lineBreak level, j.renderAt level, last, j.datum⟩], by simp, ?_, ?_, ?_, rfl⟩
    · simpa using ⟨blanks_lineBreak level, hlast⟩
    · simpa using h
    · simp [Item.text, renderItems]
  | cons k js ih =>
    rw [List.forall_mem_cons] at h
    obtain ⟨items, hne, hspaced, hvalues, htext, hdata⟩ := ih k h.2
    refine ⟨⟨lineBreak level, j.renderAt level, [], j.datum⟩ :: items, by simp, ?_, ?_, ?_, ?_⟩
    · exact List.forall_mem_cons.mpr ⟨⟨blanks_lineBreak level, blanks_nil⟩, hspaced⟩
    · exact List.forall_mem_cons.mpr ⟨h.1, hvalues⟩
    · rw [List.map_cons, intercalate_comma_cons _ (by simpa using hne), htext]
      simp [Item.text, renderItems]
    · simp [hdata]

/-- The members of an object as the grammar has them. -/
theorem exists_members {level : Nat} {last : List Char} (hlast : Blanks last) (f : String × Json)
    (fs : List (String × Json)) (h : ∀ x ∈ f :: fs, Value (x.2.renderAt level) x.2.datum) :
    ∃ members : List Member, members ≠ [] ∧ (∀ m ∈ members, m.Spaced) ∧
      (∀ m ∈ members, Value m.item.chars m.item.value) ∧
      [','].intercalate (members.map Member.text) =
        lineBreak level ++ (quoted f.1 ++ ':' :: ' ' :: (f.2.renderAt level ++ (renderFields level fs ++ last))) ∧
      (members.map fun m => (String.ofList m.key, m.item.value)) = (f :: fs).map fun x => (x.1, x.2.datum) := by
  have hspace : Blanks [' '] := by simp [Blanks, isBlank]
  induction fs generalizing f with
  | nil =>
    refine ⟨[⟨lineBreak level, f.1.toList.flatMap escapedChar, f.1.toList, [],
      ⟨[' '], f.2.renderAt level, last, f.2.datum⟩⟩], by simp, ?_, ?_, ?_, ?_⟩
    · simpa using ⟨blanks_lineBreak level, body_flatMap_escapedChar _, blanks_nil, hspace, hlast⟩
    · simpa using h
    · simp [Member.text, Item.text, renderFields, quoted]
    · simp
  | cons g fs ih =>
    rw [List.forall_mem_cons] at h
    obtain ⟨members, hne, hspaced, hvalues, htext, hdata⟩ := ih g h.2
    refine ⟨⟨lineBreak level, f.1.toList.flatMap escapedChar, f.1.toList, [],
      ⟨[' '], f.2.renderAt level, [], f.2.datum⟩⟩ :: members, by simp, ?_, ?_, ?_, ?_⟩
    · exact List.forall_mem_cons.mpr
        ⟨⟨blanks_lineBreak level, body_flatMap_escapedChar _, blanks_nil, hspace, blanks_nil⟩, hspaced⟩
    · exact List.forall_mem_cons.mpr ⟨h.1, hvalues⟩
    · rw [List.map_cons, intercalate_comma_cons _ (by simpa using hne), htext]
      simp [Member.text, Item.text, renderFields, quoted]
    · simp [hdata]

/-- The text of a document is well formed, at every level, and denotes the document. -/
theorem value_renderAt (j : Json) (level : Nat) : Value (j.renderAt level) j.datum := by
  induction j using induct generalizing level with
  | num n =>
    rw [renderAt, datum]
    exact Value.number (number_toString n)
  | str s =>
    have htext := Value.text (body_flatMap_escapedChar s.toList)
    rw [String.ofList_toList] at htext
    simpa [renderAt, datum, quoted] using htext
  | arr items ih =>
    cases items with
    | nil => simpa [renderAt, datum] using Value.emptyArray blanks_nil
    | cons j js =>
      obtain ⟨items, hne, hspaced, hvalues, htext, hdata⟩ :=
        exists_items (blanks_lineBreak level) j js fun x hx => ih x hx (level + 1)
      have hvalue := Value.array hne hspaced hvalues
      rw [htext, hdata] at hvalue
      simpa [renderAt, datum] using hvalue
  | obj fields ih =>
    cases fields with
    | nil => simpa [renderAt, datum] using Value.emptyObject blanks_nil
    | cons f fs =>
      obtain ⟨members, hne, hspaced, hvalues, htext, hdata⟩ :=
        exists_members (blanks_lineBreak level) f fs fun x hx => ih x hx (level + 1)
      have hvalue := Value.object hne hspaced hvalues
      rw [htext, hdata] at hvalue
      simpa [renderAt, datum] using hvalue

theorem denotes_render (j : Json) : Denotes j.render j.datum :=
  ⟨[], j.renderAt 0, [], by simp [render], blanks_nil, value_renderAt j 0, blanks_nil⟩

theorem denotes_render_iff {j : Json} {d : Datum} : Denotes j.render d ↔ d = j.datum :=
  ⟨fun h => h.unique (denotes_render j), fun h => h ▸ denotes_render j⟩

theorem read?_render (j : Json) : read? j.render = some j.datum := read?_of_denotes (denotes_render j)

/-- A function that is injective on the items of a list is so on the list. -/
theorem eq_of_map_eq {α β : Type} {f : α → β} {xs ys : List α} (h : ∀ x ∈ xs, ∀ y, f x = f y → x = y)
    (heq : xs.map f = ys.map f) : xs = ys := by
  induction xs generalizing ys with
  | nil => simpa [eq_comm] using heq
  | cons x xs ih =>
    cases ys with
    | nil => simp at heq
    | cons y ys =>
      rw [List.forall_mem_cons] at h
      simp only [List.map_cons, List.cons.injEq] at heq
      rw [h.1 y heq.1, ih h.2 heq.2]

/-- Documents that differ denote different things. -/
theorem datum_injective : Function.Injective datum := by
  intro i
  induction i using induct with
  | num n =>
    intro j h
    cases j <;> simp_all [datum]
  | str s =>
    intro j h
    cases j <;> simp_all [datum]
  | arr items ih =>
    intro j h
    cases j with
    | arr items' =>
      simp only [datum, Datum.array.injEq] at h
      rw [eq_of_map_eq ih h]
    | num n | str s | obj fields => simp [datum] at h
  | obj fields ih =>
    intro j h
    cases j with
    | obj fields' =>
      simp only [datum, Datum.object.injEq] at h
      have hfield : ∀ f ∈ fields, ∀ g : String × Json, (f.1, f.2.datum) = (g.1, g.2.datum) → f = g := by
        intro f hf g heq
        rw [Prod.mk.injEq] at heq
        exact Prod.ext heq.1 (ih f hf heq.2)
      rw [eq_of_map_eq hfield h]
    | num n | str s | arr items => simp [datum] at h

/-- No object has a key twice, so it does not matter which of two members a reader would keep. -/
inductive DistinctKeys : Json → Prop
  | num (n : Nat) : DistinctKeys (.num n)
  | str (s : String) : DistinctKeys (.str s)
  | arr {items : List Json} (h : ∀ j ∈ items, DistinctKeys j) : DistinctKeys (.arr items)
  | obj {fields : List (String × Json)} (hkeys : (fields.map Prod.fst).Nodup) (h : ∀ f ∈ fields, DistinctKeys f.2) :
    DistinctKeys (.obj fields)

end Json

/-- What stands in a document under a key, under a key in that, and so on. -/
def Json.at? (keys : List String) (j : Json) : Option Json := keys.foldlM (fun j key => j.field? key) j

namespace JsonText.Datum

def field? (key : String) : Datum → Option Datum
  | object members => members.lookup key
  | _ => none

def at? (keys : List String) (d : Datum) : Option Datum := keys.foldlM (fun d key => d.field? key) d

def text? : Datum → Option String
  | text s => some s
  | _ => none

def count? : Datum → Option Nat
  | number q => if q.den = 1 ∧ 0 ≤ q.num then some q.num.toNat else none
  | _ => none

def items? : Datum → Option (List Datum)
  | array items => some items
  | _ => none

def members? : Datum → Option (List (String × Datum))
  | object members => some members
  | _ => none

theorem field?_datum (key : String) (j : Json) : field? key j.datum = (j.field? key).map Json.datum := by
  cases j with
  | obj fields =>
    rw [Json.datum, field?, Json.field?]
    induction fields with
    | nil => rfl
    | cons f fs ih =>
      rw [List.map_cons, List.lookup_cons, List.lookup_cons, ih]
      split <;> rfl
  | num n | str s | arr items => simp [Json.datum, field?, Json.field?]

theorem at?_datum (keys : List String) (j : Json) : at? keys j.datum = (j.at? keys).map Json.datum := by
  induction keys generalizing j with
  | nil => rfl
  | cons key keys ih =>
    simp only [at?, Json.at?, List.foldlM_cons, field?_datum] at ih ⊢
    cases j.field? key with
    | none => rfl
    | some i => exact ih i

theorem text?_str (s : String) : text? (Json.str s).datum = some s := by
  rw [Json.datum, text?]

theorem count?_num (n : Nat) : count? (Json.num n).datum = some n := by
  simp [Json.datum, count?]

theorem items?_arr (items : List Json) : items? (Json.arr items).datum = some (items.map Json.datum) := by
  rw [Json.datum, items?]

theorem members?_obj (fields : List (String × Json)) :
    members? (Json.obj fields).datum = some (fields.map fun f => (f.1, f.2.datum)) := by
  rw [Json.datum, members?]

def textAt? (keys : List String) (d : Datum) : Option String := (d.at? keys).bind text?

def countAt? (keys : List String) (d : Datum) : Option Nat := (d.at? keys).bind count?

theorem textAt?_datum {keys : List String} {j : Json} {s : String} (h : j.at? keys = some (.str s)) :
    textAt? keys j.datum = some s := by
  rw [textAt?, at?_datum, h]
  exact text?_str s

theorem countAt?_datum {keys : List String} {j : Json} {n : Nat} (h : j.at? keys = some (.num n)) :
    countAt? keys j.datum = some n := by
  rw [countAt?, at?_datum, h]
  exact count?_num n

/-- The items under a key; a key that is absent stands for none. -/
def listed? (key : String) (d : Datum) : Option (List Datum) :=
  match d.field? key with
  | some items => items.items?
  | none => some []

end JsonText.Datum

def confidence? (text : String) : Option Confidence := if text = Confidence.high.text then some .high else none

def finding? (d : Datum) : Option (String × Finding) := do
  let confidence ← (d.textAt? ["confidence"]).bind confidence?
  return (← d.textAt? ["file"], {
    source := ← d.textAt? ["source"]
    sink := ← d.textAt? ["sink"]
    line := ← d.countAt? ["line"]
    confidence := confidence
    description := ← d.textAt? ["description"]
    evidence := ← d.textAt? ["evidence"] })

def failure? (d : Datum) : Option (String × String) :=
  return (← d.textAt? ["file"], ← d.textAt? ["message"])

def globals? (m : String × Datum) : Option (String × List String) := do
  let names ← m.2.items?
  return (m.1, ← names.mapM Datum.text?)

/-- What a reader takes from a document. -/
structure Told where
  version : String
  programVersion : String
  run : Run
  totals : Totals
  globals : List (String × List String)
  findings : List (String × Finding)
  errors : List (String × String)
deriving DecidableEq, Repr

/-- Reads a document by its keys. -/
def told? (d : Datum) : Option Told := do
  let globals ← (d.at? ["summary", "global_accesses"]).bind Datum.members?
  let findings ← (d.at? ["findings"]).bind Datum.items?
  let errors ← d.listed? "errors"
  return {
    version := ← d.textAt? ["version"]
    programVersion := ← d.textAt? ["metadata", "domxss_version"]
    run := {
      workingDirectory := ← d.textAt? ["metadata", "working_directory"]
      analyzedPath := ← d.textAt? ["metadata", "analyzed_path"]
      totalFiles := ← d.countAt? ["summary", "total_files"] }
    totals := {
      filesWithFindings := ← d.countAt? ["summary", "files_with_findings"]
      filesWithErrors := ← d.countAt? ["summary", "files_with_errors"]
      findings := ← d.countAt? ["summary", "total_findings"]
      staticFindings := ← d.countAt? ["summary", "static_findings"]
      emulatedFindings := ← d.countAt? ["summary", "emulator_findings"] }
    globals := ← globals.mapM globals?
    findings := ← findings.mapM finding?
    errors := ← errors.mapM failure? }

/-- What is written item by item is read item by item. -/
theorem mapM_map_eq_some {α β : Type} {f : β → Option α} {g : α → β} (h : ∀ x, f (g x) = some x) (xs : List α) :
    (xs.map g).mapM f = some xs := by
  induction xs with
  | nil => rfl
  | cons x xs ih => simp [List.mapM_cons, h, ih]

theorem finding?_datum (path : String) (f : Finding) : finding? (taggedFinding path f).datum = some (path, f) := by
  have hconfidence : confidence? f.confidence.text = some f.confidence := by
    cases f.confidence
    rfl
  have htext : ∀ e ∈ [("file", path), ("source", f.source), ("sink", f.sink), ("confidence", f.confidence.text),
      ("description", f.description), ("evidence", f.evidence)],
      (taggedFinding path f).datum.textAt? [e.1] = some e.2 := by
    simp only [List.forall_mem_cons]
    exact ⟨Datum.textAt?_datum rfl, Datum.textAt?_datum rfl, Datum.textAt?_datum rfl, Datum.textAt?_datum rfl,
      Datum.textAt?_datum rfl, Datum.textAt?_datum rfl, List.forall_mem_nil _⟩
  have hline : (taggedFinding path f).datum.countAt? ["line"] = some f.line := Datum.countAt?_datum rfl
  simp only [List.forall_mem_cons] at htext
  simp [finding?, htext, hline, hconfidence]

theorem failure?_datum (path message : String) :
    failure? (Json.obj [("file", .str path), ("message", .str message)]).datum = some (path, message) := by
  rw [failure?, Datum.textAt?_datum rfl, Datum.textAt?_datum rfl]
  rfl

theorem globals?_datum (path : String) (names : List String) :
    globals? (path, (Json.arr (names.map .str)).datum) = some (path, names) := by
  have hnames := mapM_map_eq_some Datum.text?_str names
  simp only [globals?, Datum.items?_arr, List.map_map, Function.comp_def, Option.bind_eq_bind, Option.bind_some, hnames]
  rfl

section

variable (run : Run) (results : List FileResult)

theorem listed?_errors :
    (document run results).datum.listed? "errors" = some ((filedErrors results).map fun e =>
      (Json.obj [("file", .str e.1), ("message", .str e.2)]).datum) := by
  have hfield : (document run results).field? "errors" = (errorsField results).lookup "errors" := rfl
  rw [Datum.listed?, Datum.field?_datum, hfield, errorsField]
  cases filedErrors results with
  | nil => rfl
  | cons e es => simp [Datum.items?_arr]

theorem members?_globals :
    ((document run results).datum.at? ["summary", "global_accesses"]).bind Datum.members? =
      some ((globalsByFile results).map fun e => (e.1, (Json.arr (e.2.map .str)).datum)) := by
  have hat : (document run results).at? ["summary", "global_accesses"] =
      some (.obj ((globalsByFile results).map fun e => (e.1, .arr (e.2.map .str)))) := rfl
  rw [Datum.at?_datum, hat, Option.map_some, Option.bind_some, Datum.members?_obj, List.map_map]
  rfl

theorem items?_findings :
    ((document run results).datum.at? ["findings"]).bind Datum.items? =
      some ((filedFindings results).map fun e => (taggedFinding e.1 e.2).datum) := by
  have hat : (document run results).at? ["findings"] =
      some (.arr ((filedFindings results).map fun e => taggedFinding e.1 e.2)) := rfl
  rw [Datum.at?_datum, hat, Option.map_some, Option.bind_some, Datum.items?_arr, List.map_map]
  rfl

theorem textAt?_document :
    ∀ e ∈ [(["version"], "1.0"), (["metadata", "domxss_version"], programVersion),
        (["metadata", "working_directory"], run.workingDirectory), (["metadata", "analyzed_path"], run.analyzedPath)],
      (document run results).datum.textAt? e.1 = some e.2 := by
  simp only [List.forall_mem_cons]
  exact ⟨Datum.textAt?_datum rfl, Datum.textAt?_datum rfl, Datum.textAt?_datum rfl, Datum.textAt?_datum rfl,
    List.forall_mem_nil _⟩

theorem countAt?_document :
    ∀ e ∈ ("total_files", run.totalFiles) :: summaryCounts (Totals.of results),
      (document run results).datum.countAt? ["summary", e.1] = some e.2 := by
  simp only [summaryCounts, List.forall_mem_cons]
  exact ⟨Datum.countAt?_datum rfl, Datum.countAt?_datum rfl, Datum.countAt?_datum rfl, Datum.countAt?_datum rfl,
    Datum.countAt?_datum rfl, Datum.countAt?_datum rfl, List.forall_mem_nil _⟩

/-- A document tells what was reported. -/
theorem told?_document :
    told? (document run results).datum = some {
      version := "1.0", programVersion := programVersion, run := run, totals := Totals.of results,
      globals := globalsByFile results, findings := filedFindings results, errors := filedErrors results } := by
  have htexts := textAt?_document run results
  have hcounts := countAt?_document run results
  have hfindings := mapM_map_eq_some (fun e : String × Finding => finding?_datum e.1 e.2) (filedFindings results)
  have herrors := mapM_map_eq_some (fun e : String × String => failure?_datum e.1 e.2) (filedErrors results)
  have hglobals := mapM_map_eq_some (fun e : String × List String => globals?_datum e.1 e.2) (globalsByFile results)
  simp only [summaryCounts, List.forall_mem_cons] at htexts hcounts
  simp [told?, members?_globals, items?_findings, listed?_errors, htexts, hcounts, hfindings, herrors, hglobals]

theorem globalsByFile_sorted : (globalsByFile results).Pairwise fun a b => a.1 < b.1 := by
  rw [globalsByFile_eq]
  exact Assoc.inOrder_sorted (keys_foldl_addGlobals_nodup results List.nodup_nil)

theorem lookup_globalsByFile (path : String) :
    (globalsByFile results).lookup path = (results.filterMap globalsOf?).reverse.lookup path := by
  have hkeys : ((results.foldl addGlobals []).map Prod.fst).Nodup := keys_foldl_addGlobals_nodup results List.nodup_nil
  rw [globalsByFile_eq, Assoc.lookup_inOrder hkeys, lookup_foldl_addGlobals]
  exact Option.or_none

theorem distinctKeys_errorsField : ∀ f ∈ errorsField results, f.2.DistinctKeys := by
  intro f hf
  rw [errorsField] at hf
  split at hf
  · cases hf
  · rw [List.mem_singleton.mp hf]
    apply Json.DistinctKeys.arr
    simp only [List.forall_mem_map]
    intro e _
    exact .obj (by simp) (by simp [Json.DistinctKeys.str])

theorem distinctKeys_taggedFinding (path : String) (f : Finding) : (taggedFinding path f).DistinctKeys :=
  .obj (by simp) (by simp [Json.DistinctKeys.str, Json.DistinctKeys.num])

theorem distinctKeys_globals :
    (Json.obj ((globalsByFile results).map fun e => (e.1, .arr (e.2.map .str)))).DistinctKeys := by
  apply Json.DistinctKeys.obj
  · rw [List.map_map]
    refine List.pairwise_map.mpr ((globalsByFile_sorted results).imp fun {a b} hlt heq => ?_)
    change a.1 = b.1 at heq
    exact String.lt_irrefl _ (heq ▸ hlt)
  · simp only [List.forall_mem_map]
    intro e _
    exact .arr (by simp [Json.DistinctKeys.str])

theorem distinctKeys_document : (document run results).DistinctKeys := by
  have hfindings : (Json.arr ((filedFindings results).map fun e => taggedFinding e.1 e.2)).DistinctKeys := by
    apply Json.DistinctKeys.arr
    simp only [List.forall_mem_map]
    exact fun e _ => distinctKeys_taggedFinding e.1 e.2
  apply Json.DistinctKeys.obj
  · rw [errorsField]
    split <;> simp
  · rw [List.forall_mem_append]
    refine ⟨?_, distinctKeys_errorsField results⟩
    simp only [List.forall_mem_cons]
    refine ⟨.str _, .obj (by simp) (by simp [Json.DistinctKeys.str]), .obj (by simp) ?_, hfindings,
      List.forall_mem_nil _⟩
    simp only [List.forall_mem_cons]
    exact ⟨.num _, .num _, .num _, .num _, .num _, .num _, distinctKeys_globals results, List.forall_mem_nil _⟩

/-- The text of a document is well formed and denotes the document alone, so what was reported is read back from it:
the counts, the findings with their files, the errors, and under every path the unbound names of the last result. -/
theorem document_read_back :
    let text := (document run results).render
    (∀ d, Denotes text d ↔ d = (document run results).datum) ∧
    (∀ j : Json, read? text = some j.datum ↔ j = document run results) ∧
    (document run results).DistinctKeys ∧
    ∃ globals : List (String × List String),
      (read? text).bind told? = some {
        version := "1.0"
        programVersion := programVersion
        run := run
        totals := {
          filesWithFindings := results.countP FileResult.hasFindings
          filesWithErrors := results.countP FileResult.isFailed
          findings := (results.flatMap FileResult.findings).length
          staticFindings := (results.flatMap FileResult.findings).countP fun f => !f.isEmulated
          emulatedFindings := (results.flatMap FileResult.findings).countP Finding.isEmulated }
        globals := globals
        findings := results.flatMap fun r => r.findings.map fun f => (r.path, f)
        errors := results.filterMap fun r => r.error?.map fun message => (r.path, message) } ∧
      (globals.Pairwise fun a b => a.1 < b.1) ∧
      ∀ path, globals.lookup path = (results.filterMap globalsOf?).reverse.lookup path := by
  refine ⟨fun d => Json.denotes_render_iff, fun j => ?_, distinctKeys_document run results, globalsByFile results,
    ?_, globalsByFile_sorted results, lookup_globalsByFile results⟩
  · rw [Json.read?_render, Option.some.injEq, Json.datum_injective.eq_iff]
    exact eq_comm
  · rw [Json.read?_render, ← Totals.of_eq]
    exact told?_document run results

end

end DomFlow.Report
