import DomFlow.Analysis
import DomFlow.Proofs.BuiltinPatterns
import DomFlow.Proofs.Provenance
import DomFlow.Proofs.Repetitions
import Mathlib.Data.List.Infix

/-! # Both passes in one report

The findings of the static pass and those of the sandbox are put into one list, of which the first finding
of every flow is kept, and they are told apart by their source alone. The sandbox names a source of its
own. As long as no pattern matches that name, no walk can name it, since every origin that a walk reports is
matched by a pattern: neither pass hides a finding of the other one, and each is found again in the report. -/

namespace DomFlow

/-- A call of a sink is a finding of the sandbox or none at all. -/
theorem Sandbox.Trace.isEmulated_of_mem {t : Trace} {f : Finding} (hf : f ∈ t.findings) :
    f.isEmulated = true := by
  obtain ⟨c, -, hc⟩ := List.mem_filterMap.mp hf
  unfold SinkCall.finding? at hc
  split at hc
  · split at hc
    · cases hc
      rfl
    · simp at hc
  · simp at hc

/-- A walk never names the source of the sandbox, unless a pattern matches it. -/
theorem WalkState.Sourced.not_isEmulated {p : Patterns} {s : WalkState} (h : s.Sourced p)
    (hsource : p.isSource sandboxSource = false) {f : Finding} (hf : f ∈ s.findings) :
    f.isEmulated = false := by
  obtain ⟨flow, hflow, rfl⟩ := List.mem_map.mp hf
  have hkind := h.flows flow hflow
  have hne : flow.finding.source ≠ sandboxSource := by
    intro heq
    have hnot : ¬p.isSource flow.finding.source = true := by simp [heq, hsource]
    cases hk : flow.kind with
    | call | assignment | property =>
      rw [hk] at hkind
      exact hnot hkind.2.1
    | prototype =>
      rw [hk] at hkind
      rcases hkind.2.2 with hproto | hmatch
      · exact absurd (hproto.symm.trans heq) (by decide)
      · exact hnot hmatch
  exact beq_eq_false_iff_ne.mpr hne

namespace Analysis

section

variable {walked : WalkState} {emulated : List Finding}
  (hwalked : ∀ f ∈ walked.findings, f.isEmulated = false) (hemulated : ∀ f ∈ emulated, f.isEmulated = true)

include hwalked hemulated

theorem key_ne_of_isEmulated : ∀ f ∈ walked.findings, ∀ g ∈ emulated, f.key ≠ g.key := by
  intro f hf g hg hkey
  have hsource : f.source = g.source := congrArg Prod.fst hkey
  have hsame : f.isEmulated = g.isEmulated := congrArg (· == sandboxSource) hsource
  simp [hwalked f hf, hemulated g hg] at hsame

/-- Findings of which none came from the sandbox, and findings of which all did, are told apart again. -/
theorem merge_findings :
    (merge walked emulated).findings =
        Finding.deduplicate walked.findings ++ Finding.deduplicate emulated ∧
      (merge walked emulated).staticFindings = Finding.deduplicate walked.findings ∧
      (merge walked emulated).emulatedFindings = Finding.deduplicate emulated := by
  have hfindings : (merge walked emulated).findings =
      Finding.deduplicate walked.findings ++ Finding.deduplicate emulated :=
    Finding.deduplicate_append (key_ne_of_isEmulated hwalked hemulated)
  have hfirst : ∀ f ∈ Finding.deduplicate walked.findings, f.isEmulated = false :=
    fun f hf => hwalked f (Finding.mem_of_mem_deduplicate hf)
  have hsecond : ∀ f ∈ Finding.deduplicate emulated, f.isEmulated = true :=
    fun f hf => hemulated f (Finding.mem_of_mem_deduplicate hf)
  refine ⟨hfindings, ?_, ?_⟩
  · rw [Report.staticFindings, hfindings, List.filter_append, List.filter_eq_self.mpr (by simpa using hfirst),
      List.filter_eq_nil_iff.mpr (by simpa using hsecond), List.append_nil]
  · rw [Report.emulatedFindings, hfindings, List.filter_append,
      List.filter_eq_nil_iff.mpr (by simpa using hfirst), List.filter_eq_self.mpr hsecond, List.nil_append]

end

/-- The sandbox does not go by the name of a known source. -/
theorem isSource_of_builtin {sinks : List String} {p : Patterns}
    (h : Patterns.compile builtinSources sinks = .ok p) : p.isSource sandboxSource = false := by
  obtain ⟨sources, hsources, hmatch⟩ := PatternSet.isMatch_of_shapes phrases_builtinSources
  cases hsinks : PatternSet.compile .sink sinks with
  | error e => simp [Patterns.compile, hsources, hsinks, bind, Except.bind] at h
  | ok sinks =>
    obtain rfl : ({ sources, sinks } : Patterns) = p := by
      simpa [Patterns.compile, hsources, hsinks, bind, Except.bind, pure, Except.pure] using h
    have hwithin : ∀ t ∈ sourceTexts, ¬ t.toList <:+: sandboxSource.toList := by decide
    refine Bool.eq_false_iff.mpr fun htrue => ?_
    obtain ⟨shape, hshape, hfits⟩ := (hmatch sandboxSource).mp htrue
    obtain ⟨t, ht, rfl⟩ := List.mem_map.mp hshape
    exact hwithin t ht hfits

/-- Whatever the sandbox does with a script, the report has the findings of the walk without repetitions,
followed by those of the sandbox without repetitions, if it is used; both are told apart again, and neither
the findings of the walk nor the unbound names depend on the sandbox. All this holds unless a pattern matches
the source that the sandbox names, which no known source does. -/
theorem passes_kept_apart :
    (∀ (sinks : List String) (p : Patterns), Patterns.compile builtinSources sinks = .ok p →
      p.isSource sandboxSource = false) ∧
    ∀ (s : Settings) (code : String) (p : Patterns) (script : Script),
      s.patterns = .ok p → Script.parse code = .ok script → p.isSource sandboxSource = false →
      let walked := ({} : WalkState).walk p script
      ∀ (emulator : Emulator) (sandbox : Sandbox.Options),
        let emulated := if sandbox.enabled then (emulator sandbox code).findings else []
        (∀ f ∈ walked.findings, ∀ g ∈ emulated, f.key ≠ g.key) ∧
        ∃ report, analyzeWith emulator { s with sandbox } code = .ok report ∧
          report.findings = Finding.deduplicate walked.findings ++ Finding.deduplicate emulated ∧
          report.staticFindings = Finding.deduplicate walked.findings ∧
          report.emulatedFindings = Finding.deduplicate emulated ∧
          report.globals = walked.accesses.mergeSort fun a b => decide (a ≤ b) := by
  refine ⟨fun sinks p h => isSource_of_builtin h, ?_⟩
  intro s code p script hpatterns hparse hsource walked emulator sandbox emulated
  have hwalked : ∀ f ∈ walked.findings, f.isEmulated = false :=
    fun f hf => (WalkState.sourced_empty.walk script).not_isEmulated hsource hf
  have hemulated : ∀ f ∈ emulated, f.isEmulated = true := by
    intro f hf
    by_cases henabled : sandbox.enabled
    · rw [show emulated = (emulator sandbox code).findings from if_pos henabled] at hf
      exact Sandbox.Trace.isEmulated_of_mem hf
    · rw [show emulated = [] from if_neg henabled] at hf
      simp at hf
  have hanalyze : analyzeWith emulator { s with sandbox } code = .ok (merge walked emulated) := by
    have hpatterns' : ({ s with sandbox } : Settings).patterns = .ok p := hpatterns
    simp only [analyzeWith, hpatterns', hparse]
    rfl
  obtain ⟨hfindings, hstatic, hrun⟩ := merge_findings hwalked hemulated
  exact ⟨key_ne_of_isEmulated hwalked hemulated, _, hanalyze, hfindings, hstatic, hrun, rfl⟩

/-- The sandbox on a script that gives its fragment to `eval` twice. -/
def evalsTwice : Emulator := fun _ _ =>
  { calls := [⟨.eval, some Decoy.fragment⟩, ⟨.eval, some Decoy.fragment⟩], stop := none }

theorem eq_ok_of_toOption {ε α : Type} {r : Except ε α} {a : α} (h : r.toOption = some a) : r = .ok a := by
  cases r with
  | error e => simp [Except.toOption] at h
  | ok b => exact congrArg _ (Option.some.inj h)

theorem passes_kept_apart_evalsTwice :
    let s : Settings := { sources := ["location\\.hash"], sinks := ["eval\\("] }
    ∃ report, analyzeWith evalsTwice s "eval(location.hash); eval(location.hash)" = .ok report ∧
      report.findings = report.staticFindings ++ report.emulatedFindings ∧
      report.staticFindings.map Finding.source = ["location.hash"] ∧
      report.emulatedFindings.map Finding.source = ["Emulator"] := by
  intro s
  have hpatterns : s.patterns.toOption.map (·.isSource sandboxSource) = some false := by decide +kernel
  obtain ⟨p, hp, hsource⟩ := Option.map_eq_some_iff.mp hpatterns
  have hcode : (Script.parse "eval(location.hash); eval(location.hash)").toOption.isSome = true := by
    decide +kernel
  obtain ⟨script, hscript⟩ := Option.isSome_iff_exists.mp hcode
  obtain ⟨-, report, hreport, hfindings, hstatic, hrun, -⟩ :=
    passes_kept_apart.2 s _ p script (eq_ok_of_toOption hp) (eq_ok_of_toOption hscript) hsource evalsTwice
      s.sandbox
  have hsources : (analyzeWith evalsTwice s "eval(location.hash); eval(location.hash)").toOption.map
      (fun r => (r.staticFindings.map Finding.source, r.emulatedFindings.map Finding.source)) =
        some (["location.hash"], ["Emulator"]) := by
    decide +kernel
  rw [hreport] at hsources
  obtain ⟨hfirst, hsecond⟩ := Prod.mk.inj (Option.some.inj hsources)
  exact ⟨report, hreport, by rw [hfindings, hstatic, hrun], hfirst, hsecond⟩

end Analysis

end DomFlow
