import DomFlow.Proofs.Frames
import DomFlow.Proofs.Lists
import DomFlow.Script.Token
import Mathlib.Tactic.Common

/-! # Writes to prototypes

Whether an assignment goes through a prototype is read off the text of its path, which is cut at points and
opening brackets. The pieces are the names of the chain of accesses, but also what keys without a name, calls
and bases without a name leave in the text. Here the test on the text is shown to agree with the chain itself:
it holds exactly if some name of the chain that is not called is the name of a prototype. -/

namespace DomFlow

section

variable {a b cs : List Char} {c : Char}

theorem pathSegments_of_cut (hc : c = '.' ∨ c = '[') :
    pathSegments (a ++ c :: b) = pathSegments a ++ pathSegments b := by
  apply List.splitOnP_append_cons
  rcases hc with rfl | rfl <;> rfl

theorem pathSegments_of_uncut (hcs : '.' ∉ cs ∧ '[' ∉ cs) : pathSegments cs = [cs] := by
  apply List.splitOnP_eq_singleton
  intro c hc
  have hpoint : c ≠ '.' := fun h => hcs.1 (h ▸ hc)
  have hbracket : c ≠ '[' := fun h => hcs.2 (h ▸ hc)
  simp [hpoint, hbracket]

end

/-- Whether a piece of a path is the name of a prototype. -/
def HasPrototypeName (cs : List Char) : Prop := ∃ s ∈ pathSegments cs, ∃ n ∈ prototypeNames, s = n.toList

section

variable {a b cs tail : List Char}

theorem isPrototypePath_iff {path : String} : isPrototypePath path = true ↔ HasPrototypeName path.toList := by
  simp [isPrototypePath, HasPrototypeName]

theorem hasPrototypeName_of_cut {c : Char} (hc : c = '.' ∨ c = '[') :
    HasPrototypeName (a ++ c :: b) ↔ HasPrototypeName a ∨ HasPrototypeName b := by
  simp only [HasPrototypeName, pathSegments_of_cut hc, List.mem_append, or_and_right, exists_or]

/-- All names of prototypes have a letter in common. -/
theorem not_hasPrototypeName_of_notMem (hcs : 'o' ∉ cs) : ¬ HasPrototypeName cs := by
  rintro ⟨s, hs, n, hn, rfl⟩
  have ho : ∀ n ∈ prototypeNames, 'o' ∈ n.toList := by decide
  exact hcs (Lists.mem_of_mem_splitOnP hs (ho n hn)).1

/-- A text of parentheses, as calls add them to a path. -/
def IsCalls (tail : List Char) : Prop := ∀ c ∈ tail, c = '(' ∨ c = ')'

theorem IsCalls.call (h : IsCalls tail) : IsCalls (Script.callSuffix.toList ++ tail) := by
  have hcall : ∀ c ∈ Script.callSuffix.toList, c = '(' ∨ c = ')' := by simp [Script.callSuffix]
  intro c hc
  rcases List.mem_append.mp hc with hc | hc
  · exact hcall c hc
  · exact h c hc

theorem IsCalls.notMem (h : IsCalls tail) {c : Char} (hopen : c ≠ '(') (hclose : c ≠ ')') : c ∉ tail := by
  intro hc
  rcases h c hc with rfl | rfl
  · exact hopen rfl
  · exact hclose rfl

theorem not_hasPrototypeName_calls (ho : 'o' ∉ cs) (htail : IsCalls tail) : ¬ HasPrototypeName (cs ++ tail) := by
  apply not_hasPrototypeName_of_notMem
  rw [List.mem_append, not_or]
  exact ⟨ho, htail.notMem (by decide) (by decide)⟩

/-- A name that is not cut is one piece, and calls behind it make another piece of it. -/
theorem hasPrototypeName_name {n : String} (hn : '.' ∉ n.toList ∧ '[' ∉ n.toList) (htail : IsCalls tail) :
    HasPrototypeName (n.toList ++ tail) ↔ tail = [] ∧ n ∈ prototypeNames := by
  have hone : pathSegments (n.toList ++ tail) = [n.toList ++ tail] := by
    apply pathSegments_of_uncut
    simp only [List.mem_append, not_or]
    exact ⟨⟨hn.1, htail.notMem (by decide) (by decide)⟩, hn.2, htail.notMem (by decide) (by decide)⟩
  rw [HasPrototypeName, hone]
  constructor
  · rintro ⟨s, hs, m, hm, rfl⟩
    have hsplit : m.toList = n.toList ++ tail := List.mem_singleton.mp hs
    have hnone : tail = [] := by
      cases tail with
      | nil => rfl
      | cons c tail =>
        have hplain : ∀ m ∈ prototypeNames, '(' ∉ m.toList ∧ ')' ∉ m.toList := by decide
        have hc : c ∈ m.toList := by simp [hsplit]
        rcases htail c List.mem_cons_self with rfl | rfl
        · exact absurd hc (hplain m hm).1
        · exact absurd hc (hplain m hm).2
    subst hnone
    rw [List.append_nil] at hsplit
    exact ⟨rfl, String.toList_injective hsplit ▸ hm⟩
  · rintro ⟨rfl, hproto⟩
    exact ⟨n.toList ++ [], by simp, n, hproto, by simp⟩

end

theorem o_notMem_positional (d : Text.Decimal) : 'o' ∉ d.positional.toList := by
  have hdigits (n : Nat) : 'o' ∉ Nat.toDigits 10 n := by
    intro ho
    exact absurd (Nat.isDigit_of_mem_toDigits (by decide) (by decide) ho) (by decide)
  have htext : 'o' ∉ d.digitsAndPoint.1 := hdigits _
  rw [Text.Decimal.positional]
  split
  · decide
  · dsimp only
    split
    · simp [htext]
    · split
      · simp [htext]
      · have htake (i : Nat) : 'o' ∉ d.digitsAndPoint.1.take i := fun ho => htext (List.mem_of_mem_take ho)
        have hdrop (i : Nat) : 'o' ∉ d.digitsAndPoint.1.drop i := fun ho => htext (List.mem_of_mem_drop ho)
        simp [htake, hdrop]

theorem o_notMem_positionalText (x : Float) : 'o' ∉ (Text.positionalText x).toList := by
  rw [Text.positionalText]
  split
  · decide
  next negative _ => cases negative <;> decide
  next negative b _ => cases negative <;> simp [o_notMem_positional]

namespace Script

namespace Token

theorem isWordChar_of_first {first : Bool} {c : Char} (h : (if first then isWordStart c else isWordPart c) = true) :
    isWordStart c = true ∨ isWordPart c = true := by
  cases first with
  | true => exact .inl h
  | false => exact .inr h

/-- The characters of a name that is read may all stand in names, also where they were escaped. -/
theorem isWordChar_of_readWord {fuel : Nat} {first escaped : Bool} {cs w r : List Char}
    (h : readWord fuel first cs = some (w, escaped, r)) : ∀ c ∈ w, isWordStart c = true ∨ isWordPart c = true := by
  fun_induction readWord fuel first cs generalizing w escaped r with
  | case1 | case7 | case8 =>
    cases h
    simp
  | case3 | case4 | case6 => cases h
  | case2 _ _ _ c _ _ hc ih | case5 _ _ c _ _ hc ih =>
    obtain ⟨⟨w', escaped', r'⟩, hrest, ⟨⟩⟩ := Option.map_eq_some_iff.mp h
    exact List.forall_mem_cons.mpr ⟨isWordChar_of_first hc, ih hrest⟩

end Token

/-- Whether a text is a name that can be read. -/
def IsWord (n : String) : Prop := ∃ fuel cs escaped r, Token.readWord fuel true cs = some (n.toList, escaped, r)

theorem IsWord.uncut {n : String} (h : IsWord n) : '.' ∉ n.toList ∧ '[' ∉ n.toList := by
  obtain ⟨fuel, cs, escaped, r, hread⟩ := h
  have hword := Token.isWordChar_of_readWord hread
  exact ⟨fun hc => absurd (hword '.' hc) (by decide), fun hc => absurd (hword '[' hc) (by decide)⟩

/-- The key of an access: a name, or any expression; if that spells a text, the text has neither a point nor an
opening bracket. -/
def Key.Plain : Key → Prop
  | .name n | .hidden n => IsWord n
  | .computed e => ∀ s, e.spelled? = some s → '.' ∉ s.toList ∧ '[' ∉ s.toList
  | .str _ | .num _ | .bigint _ => False

def Expr.isNameless : Expr → Bool
  | .ident _ | .thisRef | .member _ _ | .optMember _ _ _ | .call _ _ | .optCall _ _ _ | .superCall _
  | .importCall _ | .paren _ => false
  | _ => true

/-- Chains of accesses and calls, in parentheses or not, over a name, `this` or anything without a name. -/
inductive Expr.IsChain : Expr → Prop where
  | ident {n : String} (hn : IsWord n) : IsChain (.ident n)
  | thisRef : IsChain .thisRef
  | nameless {e : Expr} (he : e.isNameless = true) : IsChain e
  | superCall (args : List Elem) : IsChain (.superCall args)
  | importCall (args : List Elem) : IsChain (.importCall args)
  | member {o : Expr} {k : Key} (ho : IsChain o) (hk : k.Plain) : IsChain (.member o k)
  | optMember {o : Expr} {k : Key} (short : Bool) (ho : IsChain o) (hk : k.Plain) : IsChain (.optMember short o k)
  | call {f : Expr} (args : List Elem) (hf : IsChain f) : IsChain (.call f args)
  | optCall {f : Expr} (short : Bool) (args : List Elem) (hf : IsChain f) : IsChain (.optCall short f args)
  | paren {e : Expr} (he : IsChain e) : IsChain (.paren e)

inductive Target.IsChain : Target → Prop where
  | ident {n : String} (hn : IsWord n) : IsChain (.ident n)
  | member {o : Expr} {k : Key} (ho : o.IsChain) (hk : k.Plain) : IsChain (.member o k)
  | paren {e : Expr} (he : e.IsChain) : IsChain (.paren e)

/-- A name in a chain, and whether it is called at once. -/
structure ChainName where
  text : String
  called : Bool

def Key.chainNames (called : Bool) (k : Key) : List ChainName := k.name?.toList.map fun n => ⟨n, called⟩

/-- The names in a chain: the one that it begins with, and those of properties as far as they are known. -/
def Expr.chainNames (called : Bool) : Expr → List ChainName
  | .ident n => [⟨n, called⟩]
  | .member o k | .optMember _ o k => o.chainNames false ++ k.chainNames called
  | .call f _ | .optCall _ f _ => f.chainNames true
  | .paren e => e.chainNames called
  | _ => []

def Target.chainNames : Target → List ChainName
  | .ident n => [⟨n, false⟩]
  | .member o k => o.chainNames false ++ k.chainNames false
  | .paren e => e.chainNames false
  | .superMember _ | .pattern _ => []

/-- Some name that is not called is the name of a prototype. -/
def NamesPrototype (names : List ChainName) : Prop :=
  ∃ n ∈ names, n.called = false ∧ n.text ∈ ["__proto__", "prototype", "constructor"]

instance (names : List ChainName) : Decidable (NamesPrototype names) :=
  inferInstanceAs (Decidable (∃ n ∈ names, _))

section

variable {names names' : List ChainName} {a tail : List Char} {k : Key} {e : Expr}

theorem namesPrototype_nil : ¬ NamesPrototype [] := by
  simp [NamesPrototype]

theorem namesPrototype_append : NamesPrototype (names ++ names') ↔ NamesPrototype names ∨ NamesPrototype names' := by
  simp only [NamesPrototype, List.mem_append, or_and_right, exists_or]

theorem namesPrototype_singleton {n : String} :
    NamesPrototype [⟨n, !tail.isEmpty⟩] ↔ tail = [] ∧ n ∈ prototypeNames := by
  simp [NamesPrototype, prototypeNames]

theorem Key.Plain.uncut (hk : k.Plain) {n : String} (hn : k.name? = some n) : '.' ∉ n.toList ∧ '[' ∉ n.toList := by
  cases k with
  | name m =>
    cases hn
    exact hk.uncut
  | hidden m =>
    cases hn
    have hm := IsWord.uncut hk
    simpa using hm
  | computed e => exact hk n hn
  | str _ | num _ | bigint _ => cases hk

/-- A key without a name adds a number or a question mark in brackets. -/
theorem Key.suffix_of_nameless (hk : k.name? = none) : ∃ rest, k.suffix.toList = '[' :: rest ∧ 'o' ∉ rest := by
  unfold Key.suffix
  rw [hk]
  dsimp only
  split
  next v => exact ⟨(Text.positionalText v).toList ++ [']'], by simp, by simp [o_notMem_positionalText]⟩
  · exact ⟨['?', ']'], rfl, by decide⟩

/-- An access adds the name of its key to the names of prototypes in a path, unless it is called. -/
theorem Key.hasPrototypeName_suffix (hk : k.Plain) (htail : IsCalls tail) :
    HasPrototypeName (a ++ (k.suffix.toList ++ tail)) ↔
      HasPrototypeName a ∨ NamesPrototype (k.chainNames (!tail.isEmpty)) := by
  cases hname : k.name? with
  | some n =>
    have hsuffix : k.suffix.toList = '.' :: n.toList := by simp [Key.suffix, hname]
    have hnames : k.chainNames (!tail.isEmpty) = [⟨n, !tail.isEmpty⟩] := by rw [Key.chainNames, hname]; rfl
    rw [hsuffix, List.cons_append, hasPrototypeName_of_cut (.inl rfl), hasPrototypeName_name (hk.uncut hname) htail,
      hnames, namesPrototype_singleton]
  | none =>
    obtain ⟨rest, hsuffix, ho⟩ := Key.suffix_of_nameless hname
    have hrest := not_hasPrototypeName_calls ho htail
    have hnames : k.chainNames (!tail.isEmpty) = [] := by rw [Key.chainNames, hname]; rfl
    rw [hsuffix, List.cons_append, hasPrototypeName_of_cut (.inr rfl), hnames]
    simp only [hrest, namesPrototype_nil]

theorem Expr.path_of_isNameless (he : e.isNameless = true) : e.path = unknownBase := by
  cases e <;> first | rfl | cases he

theorem Expr.chainNames_of_isNameless (he : e.isNameless = true) (called : Bool) : e.chainNames called = [] := by
  cases e <;> first | rfl | cases he

/-- The path of a chain with calls behind it has the name of a prototype exactly if the chain has one that is not
called. The induction is over all calls behind a chain, since those of a chain come behind its callee. -/
theorem Expr.IsChain.hasPrototypeName_path (h : e.IsChain) (htail : IsCalls tail) :
    HasPrototypeName (e.path.toList ++ tail) ↔ NamesPrototype (e.chainNames (!tail.isEmpty)) := by
  induction h generalizing tail with
  | ident hn =>
    rw [Expr.path, hasPrototypeName_name hn.uncut htail, Expr.chainNames, namesPrototype_singleton]
  | thisRef => exact iff_of_false (not_hasPrototypeName_calls (by decide) htail) namesPrototype_nil
  | nameless he =>
    rw [Expr.path_of_isNameless he, Expr.chainNames_of_isNameless he]
    exact iff_of_false (not_hasPrototypeName_calls (by decide) htail) namesPrototype_nil
  | superCall args | importCall args =>
    rw [Expr.path, String.toList_append, List.append_assoc, hasPrototypeName_name (by decide) htail.call]
    simp [callSuffix, Expr.chainNames, namesPrototype_nil]
  | @member o k ho hk ih | @optMember o k short ho hk ih =>
    have hbase : HasPrototypeName o.path.toList ↔ NamesPrototype (o.chainNames false) := by
      simpa using ih (show IsCalls [] by simp [IsCalls])
    rw [Expr.path, String.toList_append, List.append_assoc, Key.hasPrototypeName_suffix hk htail, hbase,
      Expr.chainNames, namesPrototype_append]
  | @call f args hf ih | @optCall f short args hf ih =>
    rw [Expr.path, String.toList_append, List.append_assoc, Expr.chainNames]
    exact ih htail.call
  | paren he ih =>
    rw [Expr.path, Expr.chainNames]
    exact ih htail

theorem Target.IsChain.isPrototypePath_iff {t : Target} (h : t.IsChain) :
    ∃ path, t.path? = some path ∧ (isPrototypePath path = true ↔ NamesPrototype t.chainNames) := by
  have hchain {e : Expr} (he : e.IsChain) : isPrototypePath e.path = true ↔ NamesPrototype (e.chainNames false) := by
    rw [DomFlow.isPrototypePath_iff]
    simpa using he.hasPrototypeName_path (show IsCalls [] by simp [IsCalls])
  cases h with
  | ident hn =>
    have hpath := hchain (.ident hn)
    rw [Expr.path, Expr.chainNames] at hpath
    exact ⟨_, rfl, hpath⟩
  | member ho hk =>
    have hpath := hchain (.member ho hk)
    rw [Expr.path, Expr.chainNames] at hpath
    exact ⟨_, rfl, hpath⟩
  | paren he => exact ⟨_, rfl, hchain he⟩

end

end Script

/-- Whether a finding reports a write to a prototype. -/
def Finding.reportsPrototype (f : Finding) : Bool :=
  f.description == "Assignment to prototype-sensitive path " ++ f.sink

theorem Finding.reportsPrototype_assignment (origin path evidence : String) :
    reportsPrototype (Flow.finding ⟨.assignment, origin, path, evidence⟩) = false := by
  rw [reportsPrototype, beq_eq_false_iff_ne]
  intro h
  have hchars := congrArg String.toList h
  simp [Flow.finding, Flow.description] at hchars

namespace WalkState

open Script

variable {p : Patterns} {t : Target}

/-- The walk of the parts of an assignment, up to where its target is checked. -/
def runParts (p : Patterns) (s : WalkState) (op : AssignOp) (t : Target) (v : Expr) : WalkState :=
  s.run p (v.steps p.isSink ++ [Step.note v] ++ t.steps p.isSink (op = .plain))

/-- Where the target is checked, the latest taint is that of the value as it was before the target was walked. -/
theorem latest_runParts (s : WalkState) (op : AssignOp) (t : Target) (v : Expr) :
    (s.runParts p op t v).latest = ((s.run p (v.steps p.isSink)).reading p v).origin := by
  rw [runParts, run_append, run_append, latest, run_pending (t.steps_nested _)]
  exact latest_push _ _

theorem flows_assign {path : String} (hpath : t.path? = some path) (s : WalkState) (op : AssignOp) (v : Expr) :
    (s.run p ((Expr.assign op t v).steps p.isSink)).flows =
      (s.runParts p op t v).flows ++ (s.runParts p op t v).found p (.checkAssign path v) := by
  rw [Expr.steps_assign, hpath, run_append, run_append, run_cons, run_nil, ← step_flows]
  rfl

/-- Of what the check of a target finds, only a write to a prototype is reported as such. -/
theorem filter_reportsPrototype_found (s : WalkState) (path : String) (v : Expr) :
    ((s.found p (.checkAssign path v)).map Flow.finding).filter Finding.reportsPrototype =
      if isPrototypePath path = true then
        [Flow.finding ⟨.prototype, s.latest.getD prototypeSource, path, v.describe⟩]
      else [] := by
  have hassignments : ((if p.isSink path || p.isSink (path ++ "=") then
      s.latest.toList.map fun origin => (⟨.assignment, origin, path, v.describe⟩ : Flow)
      else []).map Flow.finding).filter Finding.reportsPrototype = [] := by
    rw [List.filter_eq_nil_iff]
    intro f hf
    split at hf
    · obtain ⟨flow, hflow, rfl⟩ := List.mem_map.mp hf
      obtain ⟨origin, -, rfl⟩ := List.mem_map.mp hflow
      simp [Finding.reportsPrototype_assignment]
    · cases hf
  rw [found, List.map_append, List.filter_append, hassignments, List.nil_append]
  split
  · exact List.filter_cons_of_pos (by simp [Finding.reportsPrototype, Flow.finding, Flow.description])
  · rfl

/-- An assignment to a chain is tested for prototypes as the chain itself says: the test on the text of its path
holds exactly if some name of the chain that is not called is the name of a prototype. If so, the walk of the
assignment reports it once behind what its parts report, with the taint of the value if it has any, and otherwise
not at all. -/
theorem prototype_write_reported (ht : t.IsChain) :
    ∃ path, t.path? = some path ∧ (isPrototypePath path = true ↔ NamesPrototype t.chainNames) ∧
      ∀ (p : Patterns) (s : WalkState) (op : AssignOp) (v : Expr), ∃ own : List Finding,
        (s.run p ((Expr.assign op t v).steps p.isSink)).findings = (s.runParts p op t v).findings ++ own ∧
        own.filter Finding.reportsPrototype =
          if NamesPrototype t.chainNames then
            [{ source := ((s.run p (v.steps p.isSink)).reading p v).origin.getD "Prototype Assignment"
               sink := path
               description := "Assignment to prototype-sensitive path " ++ path
               evidence := v.describe }]
          else [] := by
  obtain ⟨path, hpath, htest⟩ := ht.isPrototypePath_iff
  refine ⟨path, hpath, htest, fun p s op v => ⟨((s.runParts p op t v).found p (.checkAssign path v)).map Flow.finding,
    ?_, ?_⟩⟩
  · rw [findings, flows_assign hpath, List.map_append, findings]
  · simp only [filter_reportsPrototype_found, latest_runParts, htest]
    rfl

/-- `f().constructor()[0]["prototype"][k]`, where only one of the two names counts, as the other is called. -/
def deepTarget : Target :=
  .member (.member (.member (.call (.member (.call (.ident "f") []) (.name "constructor")) [])
    (.computed (.num 0))) (.computed (.str "prototype"))) (.computed (.ident "k"))

theorem prototype_write_reported_deepTarget : deepTarget.IsChain ∧ NamesPrototype deepTarget.chainNames ∧
    ∃ path, deepTarget.path? = some path ∧ isPrototypePath path = true ∧
      ∀ (p : Patterns) (s : WalkState) (op : AssignOp) (v : Expr), ∃ own : List Finding,
        (s.run p ((Expr.assign op deepTarget v).steps p.isSink)).findings =
          (s.runParts p op deepTarget v).findings ++ own ∧
        (own.filter Finding.reportsPrototype).length = 1 := by
  have hf : IsWord "f" := ⟨2, ['f'], false, [], by decide⟩
  have hconstructor : IsWord "constructor" := ⟨12, "constructor".toList, false, [], by decide⟩
  have hbase : (Expr.call (.member (.call (.ident "f") []) (.name "constructor")) []).IsChain :=
    .call [] (.member (.call [] (.ident hf)) hconstructor)
  have hchain : deepTarget.IsChain := by
    refine .member (.member (.member hbase ?_) ?_) ?_
    · simp [Key.Plain, Expr.spelled?]
    · simp [Key.Plain, Expr.spelled?]
    · simp [Key.Plain, Expr.spelled?]
  have hnames : NamesPrototype deepTarget.chainNames :=
    ⟨⟨"prototype", false⟩, by simp [deepTarget, Target.chainNames, Expr.chainNames, Key.chainNames, Key.name?,
      Expr.spelled?], rfl, by decide⟩
  obtain ⟨path, hpath, htest, hwalk⟩ := prototype_write_reported hchain
  refine ⟨hchain, hnames, path, hpath, htest.mpr hnames, fun p s op v => ?_⟩
  obtain ⟨own, hown, hfilter⟩ := hwalk p s op v
  refine ⟨own, hown, ?_⟩
  rw [hfilter, if_pos hnames]
  rfl

end WalkState

end DomFlow
