import DomFlow.Proofs.Correspondence
import DomFlow.Proofs.Identifiers
import Mathlib.Data.List.Perm.Basic

/-! # Independent scripts

A script that mentions no name which another one writes cannot tell whether the other one was walked before
it: it reads the same, finds the same and writes the same globals. Two scripts that are independent of each
other in this way can therefore be walked in either order. -/

namespace DomFlow

variable {p : Patterns}

/-- Scopes in which every name means the same have the same variables. -/
theorem ScopeTree.WellFormed.vars_perm {t u : ScopeTree} (ht : t.WellFormed) (hu : u.WellFormed)
    {i : ScopeId} (h : ∀ name, t.own? i name = u.own? i name) : (t.vars i).Perm (u.vars i) := by
  refine (List.perm_ext_iff_of_nodup (ht.names_nodup i).of_map (hu.names_nodup i).of_map).mpr fun v => ?_
  have hmem {w : ScopeTree} (hw : w.WellFormed) : v ∈ w.vars i ↔ w.own? i v.name = some v := by
    rw [hw.own?_eq_some_iff, and_iff_left rfl]
  rw [hmem ht, hmem hu, h]

namespace WalkState

namespace Corresponds

variable {N : String → Prop} {s s' : WalkState}

theorem found_eq (h : Corresponds (.same p p rfl) N s s') {st : Step} (hreads : ∀ name ∈ st.reads, N name) :
    s.found p st = s'.found p st := by
  have hreading (e : Script.Expr) (he : e.reads ⊆ st.reads) : s.reading p e = s'.reading p e :=
    h.reading fun name hname => hreads name (he hname)
  exact (found_sublist (fun _ => id) h.latest hreading).antisymm
    (found_sublist (fun _ => id) h.latest.symm fun e he => (hreading e he).symm)

theorem met_eq (h : Corresponds (.same p p rfl) N s s') {st : Step} (hreads : ∀ name ∈ st.reads, N name)
    (hwrites : ∀ name ∈ st.writes, N name) : s.met p st = s'.met p st := by
  have hreading (e : Script.Expr) (he : ∀ name ∈ e.reads, N name) : s.reading p e = s'.reading p e :=
    h.reading he
  have hlatest : s.latest = s'.latest := h.latest
  cases st with
  | note e | checkProperty _ e => simp only [met, hreading e hreads]
  | noteDefault e => simp only [met, hreading e hreads, hlatest]
  | assign plain name =>
    have hlookup : s.tracker.lookup? name = s'.tracker.lookup? name := h.lookup? (hwrites name (.head _))
    simp only [met, hlookup]
  | checkCall callee args =>
    have hargs : args.flatMap (fun e => (s.reading p e).unbound) =
        args.flatMap fun e => (s'.reading p e).unbound := by
      refine List.flatMap_congr fun e he => ?_
      rw [hreading e fun name hname => hreads name (List.mem_flatMap.mpr ⟨e, he, hname⟩)]
    simp only [met, hargs]
  | enter _ | leave | clean | forget | declare _ _ | checkAssign _ _ => rfl

/-- Walks that correspond with the same meanings find the same flows and meet the same unbound names. -/
theorem adds_eq {steps : List Step} (h : Corresponds (.same p p rfl) N s s')
    (hreads : ∀ st ∈ steps, ∀ name ∈ st.reads, N name)
    (hwrites : ∀ st ∈ steps, ∀ name ∈ st.writes, N name) :
    s.yields p steps = s'.yields p steps ∧ s.meets p steps = s'.meets p steps := by
  induction steps generalizing s s' with
  | nil => exact ⟨rfl, rfl⟩
  | cons st steps ih =>
    obtain ⟨hyields, hmeets⟩ := ih (h.step (hreads st (.head _)) (hwrites st (.head _)))
      (fun st' hst' => hreads st' (.tail _ hst')) (fun st' hst' => hwrites st' (.tail _ hst'))
    constructor
    · rw [yields, yields, h.found_eq (hreads st (.head _)), hyields]
    · rw [meets, meets, h.met_eq (hreads st (.head _)) (hwrites st (.head _)), hmeets]

end Corresponds

section

variable {s : WalkState} {P Q : Script}

theorem own?_walk {name : String} (h : ¬ Script.Writes Q name) (s : WalkState) (i : ScopeId) :
    (s.walk p Q).tracker.scopes.own? i name = s.tracker.scopes.own? i name :=
  own?_run (fun _ hst hname => h (Script.writes_of_mem_allSteps hst hname)) s i

/-- A script that mentions nothing which the other one writes meets the same names with the same meanings
before the other one and after it. -/
theorem corresponds_walk (hs : s.tracker.Placed) (hroot : s.tracker.current = ScopeTree.root)
    (hPQ : ∀ name, Script.Mentions P name → ¬ Script.Writes Q name) :
    Corresponds (.same p p rfl) (Script.Mentions P) s (s.walk p Q) := by
  refine ⟨⟨_, .of_root hs.scopes.wellFormed (placed_run hs _).scopes.wellFormed hroot
    ((walk_current s Q).trans hroot) fun name hname => ?_⟩, ?_⟩
  · exact (own?_walk (hPQ name hname) s ScopeTree.root).symm
  · rw [walk_pending]
    exact List.forall₂_same.mpr fun _ _ => rfl

theorem mentions_reads {st : Step} (hst : st ∈ Script.Stmt.allSteps p.isSink P) :
    ∀ name ∈ st.reads, Script.Mentions P name :=
  fun _ hname => Script.mentions_of_mem_allSteps hst hname

theorem mentions_writes {st : Step} (hst : st ∈ Script.Stmt.allSteps p.isSink P) :
    ∀ name ∈ st.writes, Script.Mentions P name :=
  fun _ hname => (Script.writes_of_mem_allSteps hst hname).mentions

/-- What it mentions is global after both walks as it is after its own. -/
theorem own?_root_walk (hs : s.tracker.Placed) (hroot : s.tracker.current = ScopeTree.root)
    (hPQ : ∀ name, Script.Mentions P name → ¬ Script.Writes Q name) {name : String}
    (hname : Script.Mentions P name) :
    ((s.walk p Q).walk p P).tracker.scopes.own? ScopeTree.root name =
      (s.walk p P).tracker.scopes.own? ScopeTree.root name := by
  obtain ⟨corr, hcorr⟩ := ((corresponds_walk (p := p) hs hroot hPQ).run
    (fun _ => mentions_reads) fun _ => mentions_writes).tracker
  exact (hcorr.meaning hcorr.root hname).symm

/-- It adds the same flows and meets the same unbound names before the other one and after it. -/
theorem adds_walk (hs : s.tracker.Placed) (hroot : s.tracker.current = ScopeTree.root)
    (hPQ : ∀ name, Script.Mentions P name → ¬ Script.Writes Q name) :
    let steps := Script.Stmt.allSteps p.isSink P
    s.yields p steps = (s.walk p Q).yields p steps ∧ s.meets p steps = (s.walk p Q).meets p steps :=
  (corresponds_walk hs hroot hPQ).adds_eq (fun _ => mentions_reads) fun _ => mentions_writes

/-- In either order, every name means the same at the end of both walks. -/
theorem own?_root_walk_comm (hs : s.tracker.Placed) (hroot : s.tracker.current = ScopeTree.root)
    (hPQ : ∀ name, Script.Mentions P name → ¬ Script.Writes Q name)
    (hQP : ∀ name, Script.Mentions Q name → ¬ Script.Writes P name) (name : String) :
    ((s.walk p P).walk p Q).tracker.scopes.own? ScopeTree.root name =
      ((s.walk p Q).walk p P).tracker.scopes.own? ScopeTree.root name := by
  by_cases hP : Script.Mentions P name
  · rw [own?_root_walk hs hroot hPQ hP, own?_walk (hPQ name hP)]
  · have hnotP : ¬ Script.Writes P name := fun h => hP h.mentions
    by_cases hQ : Script.Mentions Q name
    · rw [own?_root_walk hs hroot hQP hQ, own?_walk hnotP]
    · have hnotQ : ¬ Script.Writes Q name := fun h => hQ h.mentions
      rw [own?_walk hnotQ, own?_walk hnotP, own?_walk hnotP, own?_walk hnotQ]

theorem mem_accesses_walk {name : String} : name ∈ (s.walk p P).accesses ↔
    name ∈ s.accesses ∨ name ∈ s.meets p (Script.Stmt.allSteps p.isSink P) :=
  mem_accesses_run s

end

/-- Two scripts of which neither writes a name that the other mentions can be walked in either order, from
every state at the global scope: each adds the same findings before the other and after it, and in the end
the same globals are there and the same names have been used unbound. -/
theorem independent_scripts_commute (p : Patterns) (s : WalkState) (hs : s.tracker.scopes.Reachable)
    (hroot : s.tracker.current = ScopeTree.root) (P Q : Script)
    (hPQ : ∀ name, Script.Mentions P name → ¬ Script.Writes Q name)
    (hQP : ∀ name, Script.Mentions Q name → ¬ Script.Writes P name) :
    ∃ addedP addedQ : List Finding,
      (s.walk p P).findings = s.findings ++ addedP ∧
      ((s.walk p Q).walk p P).findings = (s.walk p Q).findings ++ addedP ∧
      (s.walk p Q).findings = s.findings ++ addedQ ∧
      ((s.walk p P).walk p Q).findings = (s.walk p P).findings ++ addedQ ∧
      (((s.walk p P).walk p Q).tracker.scopes.vars ScopeTree.root).Perm
        (((s.walk p Q).walk p P).tracker.scopes.vars ScopeTree.root) ∧
      ∀ name, name ∈ ((s.walk p P).walk p Q).accesses ↔ name ∈ ((s.walk p Q).walk p P).accesses := by
  have hplaced : s.tracker.Placed := ⟨hs, hroot ▸ hs.wellFormed.root_lt⟩
  have hwellFormed (first second : Script) :
      ((s.walk p first).walk p second).tracker.scopes.WellFormed :=
    (placed_run (placed_run hplaced _) _).scopes.wellFormed
  obtain ⟨hyieldsP, hmeetsP⟩ := adds_walk (p := p) hplaced hroot hPQ
  obtain ⟨hyieldsQ, hmeetsQ⟩ := adds_walk (p := p) hplaced hroot hQP
  refine ⟨_, _, findings_walk s P, ?_, findings_walk s Q, ?_, ?_, fun name => ?_⟩
  · rw [findings_walk, hyieldsP]
  · rw [findings_walk, hyieldsQ]
  · exact (hwellFormed P Q).vars_perm (hwellFormed Q P) (own?_root_walk_comm hplaced hroot hPQ hQP)
  · rw [mem_accesses_walk, mem_accesses_walk, mem_accesses_walk, mem_accesses_walk, ← hmeetsP, ← hmeetsQ]
    exact or_right_comm

/-- `var a = c; eval(a);` -/
def readsGlobal : Script :=
  [.var .var [.mk (.ident "a") (some (.ident "c"))], .expr (.call (.ident "eval") [.item (.ident "a")])]

/-- `{ b = location.hash; } eval(b);` -/
def assignsInBlock : Script :=
  [.block [.expr (.assign .plain (.ident "b") (.member (.ident "location") (.name "hash")))],
    .expr (.call (.ident "eval") [.item (.ident "b")])]

section

open Script

/-- The identifiers in the order in which they stand. -/
theorem idents_readsGlobal (name : String) :
    (Mentions readsGlobal name ↔ name ∈ ["a", "c", "eval", "a"]) ∧
      (Writes readsGlobal name ↔ name ∈ ["a"]) := by
  simp [Mentions, Writes, readsGlobal, Node.contains_iff, InParts, Node.parts, Stmt.parts, Declarator.parts,
    Expr.parts, Pat.parts, ordinaryExprs, Elem.exprs, Node.idents, Node.written, Stmt.written, Expr.used,
    Expr.written, Pat.written, or_assoc]

theorem idents_assignsInBlock (name : String) :
    (Mentions assignsInBlock name ↔ name ∈ ["b", "location", "eval", "b"]) ∧
      (Writes assignsInBlock name ↔ name ∈ ["b"]) := by
  simp [Mentions, Writes, assignsInBlock, Node.contains_iff, InParts, Node.parts, Stmt.parts, Expr.parts,
    Target.parts, Key.parts, ordinaryExprs, ordinaryStmts, Elem.exprs, Node.idents, Node.written,
    Stmt.written, Expr.used, Expr.written, or_assoc]

end

/-- Both scripts read `eval`, and one reads a global that is tainted already: neither writes these. -/
theorem independent_scripts_commute_assignsInBlock :
    let p := Patterns.ofTexts ["location.hash"] ["eval"]
    let s := ({} : WalkState).walk p
      [.expr (.assign .plain (.ident "c") (.member (.ident "location") (.name "hash")))]
    (∀ name, Script.Mentions readsGlobal name → ¬ Script.Writes assignsInBlock name) ∧
    (∀ name, Script.Mentions assignsInBlock name → ¬ Script.Writes readsGlobal name) ∧
    ∃ addedP addedQ : List Finding,
      (s.walk p readsGlobal).findings = s.findings ++ addedP ∧
      ((s.walk p assignsInBlock).walk p readsGlobal).findings =
        (s.walk p assignsInBlock).findings ++ addedP ∧
      (s.walk p assignsInBlock).findings = s.findings ++ addedQ ∧
      ((s.walk p readsGlobal).walk p assignsInBlock).findings =
        (s.walk p readsGlobal).findings ++ addedQ ∧
      (((s.walk p readsGlobal).walk p assignsInBlock).tracker.scopes.vars ScopeTree.root).Perm
        (((s.walk p assignsInBlock).walk p readsGlobal).tracker.scopes.vars ScopeTree.root) ∧
      ∀ name, name ∈ ((s.walk p readsGlobal).walk p assignsInBlock).accesses ↔
        name ∈ ((s.walk p assignsInBlock).walk p readsGlobal).accesses := by
  intro p s
  have hPQ (name : String) : Script.Mentions readsGlobal name → ¬ Script.Writes assignsInBlock name := by
    rw [(idents_readsGlobal name).1, (idents_assignsInBlock name).2]
    rintro hname hb
    obtain rfl := List.mem_singleton.mp hb
    revert hname
    decide
  have hQP (name : String) : Script.Mentions assignsInBlock name → ¬ Script.Writes readsGlobal name := by
    rw [(idents_assignsInBlock name).1, (idents_readsGlobal name).2]
    rintro hname ha
    obtain rfl := List.mem_singleton.mp ha
    revert hname
    decide
  have hs : s.tracker.Placed := placed_run ⟨.empty, by decide⟩ _
  exact ⟨hPQ, hQP, independent_scripts_commute p s hs.scopes (walk_current {} _) readsGlobal assignsInBlock
    hPQ hQP⟩

end WalkState

end DomFlow
