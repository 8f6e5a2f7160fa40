import DomFlow.Script.Reads
import Mathlib.Data.List.Basic
import Mathlib.Data.List.Induction
import Mathlib.Data.List.Nodup

/-! # Where an expression reads names

Every identifier of an expression stands at a spot: it is an operand, an argument, a key in brackets, the left
side of an assignment, and so on, and what it stands in has a spot of its own. The identifiers at all spots,
left to right, are more than the dependencies of the expression: one that is only written is not read, and some
spots are passed over although what stands there is read. The dependencies are the others, each once, in the
order in which they first occur. Functions, methods and bodies of classes are not entered. -/

namespace DomFlow.Script

/-- A list has the names of another list, each once, in the order in which they first occur there. -/
structure ListsOnce (list names : List String) : Prop where
  nodup : list.Nodup
  mem_iff (n : String) : n ∈ list ↔ n ∈ names
  ordered : list.Pairwise fun a b => names.idxOf a < names.idxOf b

theorem listsOnce_eraseDups (names : List String) : ListsOnce names.eraseDups names := by
  induction names using List.reverseRecOn with
  | nil => exact ⟨by simp, by simp, by simp⟩
  | append_singleton names n ih =>
    -- A further name leaves the first occurrences of the others where they are.
    have hordered : names.eraseDups.Pairwise fun a b => (names ++ [n]).idxOf a < (names ++ [n]).idxOf b := by
      refine ih.ordered.imp_of_mem fun ha hb hlt => ?_
      rw [List.idxOf_append_of_mem ((ih.mem_iff _).mp ha), List.idxOf_append_of_mem ((ih.mem_iff _).mp hb)]
      exact hlt
    by_cases hn : n ∈ names
    · have heq : (names ++ [n]).eraseDups = names.eraseDups := by
        simp [List.eraseDups_append, List.removeAll, hn]
      rw [heq]
      refine ⟨ih.nodup, fun m => ?_, hordered⟩
      rw [ih.mem_iff, List.mem_append, List.mem_singleton, or_iff_left_of_imp]
      rintro rfl
      exact hn
    · have heq : (names ++ [n]).eraseDups = names.eraseDups ++ [n] := by
        simp [List.eraseDups_append, List.eraseDups_cons, List.removeAll, hn]
      rw [heq]
      refine ⟨?_, fun m => ?_, List.pairwise_append.mpr ⟨hordered, List.pairwise_singleton _ _, ?_⟩⟩
      · refine List.nodup_append.mpr ⟨ih.nodup, List.nodup_singleton n, ?_⟩
        rintro a ha b hb rfl
        exact hn (List.mem_singleton.mp hb ▸ (ih.mem_iff a).mp ha)
      · rw [List.mem_append, List.mem_append, ih.mem_iff]
      · intro a ha b hb
        have ha : a ∈ names := (ih.mem_iff a).mp ha
        obtain rfl := List.mem_singleton.mp hb
        rw [List.idxOf_append_of_mem ha, List.idxOf_append_of_notMem hn]
        exact Nat.lt_add_right _ (List.idxOf_lt_length_iff.mpr ha)

/-- Where in an expression a part of it stands. -/
inductive Spot where
  | operand
  | callee
  | argument
  | spread
  | substitution
  | tag
  | awaited
  /-- The operand of `++` or `--`. -/
  | updated
  /-- The object whose member is read or written. -/
  | base
  /-- A key in brackets of a member that is read. -/
  | memberKey
  /-- A key in brackets of an object literal. -/
  | literalKey
  /-- A property of an object literal that is a name only. -/
  | shorthand
  /-- The value of a property, or the right side of an assignment. -/
  | value
  /-- A name on the left side of `=`, or in a pattern there. -/
  | written
  /-- A key in brackets of a member that is written. -/
  | assignedKey
  /-- A name on the left side of an assignment that reads it first. -/
  | compoundTarget
  /-- The left side of an assignment, in parentheses. -/
  | parenTarget
  /-- The left side of an assignment, if it is a pattern. -/
  | pattern
  /-- A key in brackets of a pattern. -/
  | patternKey
  /-- A default in a pattern. -/
  | patternDefault
  /-- A key in brackets of a member of `super`. -/
  | superKey
  /-- A key in brackets of a method, getter or setter of an object literal. -/
  | methodKey
  | yielded
  /-- What a class extends. -/
  | heritage
deriving DecidableEq, Repr

namespace Spot

def isRead : Spot → Bool
  | .written => false
  | _ => true

/-- Whether what stands at a spot is looked at when dependencies are collected. -/
def isCollected : Spot → Bool
  | .written | .assignedKey | .compoundTarget | .parenTarget | .pattern | .patternKey | .patternDefault
  | .superKey | .methodKey | .yielded | .heritage => false
  | _ => true

theorem isRead_of_isCollected {spot : Spot} (h : spot.isCollected = true) : spot.isRead = true := by
  cases spot with
  | written => exact h
  | _ => rfl

end Spot

/-- An identifier in an expression, with its spot and the spots of what it stands in, outermost first. -/
structure Occurrence where
  path : List Spot
  name : String
deriving DecidableEq, Repr

def inSpot (spot : Spot) (os : List Occurrence) : List Occurrence :=
  os.map fun o => { o with path := spot :: o.path }

/-- The names that occur at such spots only. -/
def namesAt (allowed : Spot → Bool) (os : List Occurrence) : List String :=
  (os.filter fun o => o.path.all allowed).map Occurrence.name

mutual

def Expr.occurrences : Expr → List Occurrence
  | .ident n => [⟨[], n⟩]
  | .template _ es => Expr.allOccurrences .substitution es
  | .tagged tag _ es => inSpot .tag tag.occurrences ++ Expr.allOccurrences .substitution es
  | .array elems => Elem.allOccurrences .operand elems
  | .object props => Property.allOccurrences props
  | .classExpr _ (some parent) _ => inSpot .heritage parent.occurrences
  | .unary _ e => inSpot .operand e.occurrences
  | .update _ _ e => inSpot .updated e.occurrences
  | .binary _ l r => inSpot .operand l.occurrences ++ inSpot .operand r.occurrences
  | .assign op t v => t.occurrences (op = .plain) ++ inSpot .value v.occurrences
  | .cond test yes no =>
    inSpot .operand test.occurrences ++ inSpot .operand yes.occurrences ++ inSpot .operand no.occurrences
  | .call f args => inSpot .callee f.occurrences ++ Elem.allOccurrences .argument args
  | .superCall args => Elem.allOccurrences .argument args
  | .importCall args => Elem.allOccurrences .argument args
  | .new f args => inSpot .callee f.occurrences ++ Elem.allOccurrences .argument args
  | .member o k => inSpot .base o.occurrences ++ k.occurrences .memberKey
  | .superMember k => k.occurrences .superKey
  | .optMember _ o k => inSpot .base o.occurrences ++ k.occurrences .memberKey
  | .optCall _ f args => inSpot .callee f.occurrences ++ Elem.allOccurrences .argument args
  | .seq es => Expr.allOccurrences .operand es
  | .paren e => inSpot .operand e.occurrences
  | .await e => inSpot .awaited e.occurrences
  | .yield _ (some e) => inSpot .yielded e.occurrences
  | _ => []

/-- The identifiers of an expression that denotes a place to be written; no other expression does. -/
def Expr.placeOccurrences (plain : Bool) : Expr → List Occurrence
  | .ident n => [⟨[if plain then .written else .compoundTarget], n⟩]
  | .paren e => e.placeOccurrences plain
  | .member o k => inSpot .base o.occurrences ++ k.occurrences .assignedKey
  | .superMember k => k.occurrences .superKey
  | _ => []

def Expr.allOccurrences (spot : Spot) : List Expr → List Occurrence
  | [] => []
  | e :: r => inSpot spot e.occurrences ++ Expr.allOccurrences spot r

def Elem.allOccurrences (spot : Spot) : List Elem → List Occurrence
  | [] => []
  | .hole :: r => Elem.allOccurrences spot r
  | .item e :: r => inSpot spot e.occurrences ++ Elem.allOccurrences spot r
  | .spread e :: r => inSpot .spread e.occurrences ++ Elem.allOccurrences spot r

def Property.allOccurrences : List Property → List Occurrence
  | [] => []
  | .keyValue k v :: r => k.occurrences .literalKey ++ inSpot .value v.occurrences ++ Property.allOccurrences r
  | .shorthand n :: r => ⟨[.shorthand], n⟩ :: Property.allOccurrences r
  | .cover n d :: r =>
    ⟨[.written], n⟩ :: inSpot .patternDefault d.occurrences ++ Property.allOccurrences r
  | .spread e :: r => inSpot .spread e.occurrences ++ Property.allOccurrences r
  | .method k _ _ _ :: r => k.occurrences .methodKey ++ Property.allOccurrences r
  | .getter k _ :: r => k.occurrences .methodKey ++ Property.allOccurrences r
  | .setter k _ _ :: r => k.occurrences .methodKey ++ Property.allOccurrences r

def Key.occurrences (spot : Spot) : Key → List Occurrence
  | .computed e => inSpot spot e.occurrences
  | _ => []

def Target.occurrences (plain : Bool) : Target → List Occurrence
  | .ident n => [⟨[if plain then .written else .compoundTarget], n⟩]
  | .member o k => inSpot .base o.occurrences ++ k.occurrences .assignedKey
  | .superMember k => k.occurrences .superKey
  | .paren e => inSpot .parenTarget (e.placeOccurrences plain)
  | .pattern p => inSpot .pattern p.occurrences

def Pat.occurrences : Pat → List Occurrence
  | .ident n => [⟨[.written], n⟩]
  | .array elems => Pat.allOccurrences elems
  | .object props => PatProp.allOccurrences props
  | .rest p => p.occurrences
  | .withDefault p d => p.occurrences ++ inSpot .patternDefault d.occurrences
  | .target e => e.placeOccurrences true

def Pat.allOccurrences : List (Option Pat) → List Occurrence
  | [] => []
  | none :: r => Pat.allOccurrences r
  | some p :: r => p.occurrences ++ Pat.allOccurrences r

def PatProp.allOccurrences : List PatProp → List Occurrence
  | [] => []
  | .keyValue k p :: r => k.occurrences .patternKey ++ p.occurrences ++ PatProp.allOccurrences r
  | .shorthand n none :: r => ⟨[.written], n⟩ :: PatProp.allOccurrences r
  | .shorthand n (some d) :: r =>
    ⟨[.written], n⟩ :: inSpot .patternDefault d.occurrences ++ PatProp.allOccurrences r
  | .rest p :: r => p.occurrences ++ PatProp.allOccurrences r

end

section

variable (allowed : Spot → Bool)

@[simp] theorem namesAt_nil : namesAt allowed [] = [] := rfl

@[simp] theorem namesAt_append (os os' : List Occurrence) :
    namesAt allowed (os ++ os') = namesAt allowed os ++ namesAt allowed os' := by
  simp [namesAt]

@[simp] theorem namesAt_cons (o : Occurrence) (os : List Occurrence) :
    namesAt allowed (o :: os) = (if o.path.all allowed then [o.name] else []) ++ namesAt allowed os := by
  by_cases h : o.path.all allowed <;> simp [namesAt, h]

/-- What stands at a spot that is not allowed is left out as a whole. -/
@[simp] theorem namesAt_inSpot (spot : Spot) (os : List Occurrence) :
    namesAt allowed (inSpot spot os) = if allowed spot then namesAt allowed os else [] := by
  by_cases h : allowed spot <;> simp [namesAt, inSpot, List.filter_map, Function.comp_def, h]

end

mutual

theorem Expr.namesAt_collected : ∀ e : Expr, namesAt Spot.isCollected e.occurrences = e.reads
  | .member o k | .optMember _ o k => by
    simp [Expr.reads, Expr.occurrences, Spot.isCollected, Expr.namesAt_collected o,
      Key.namesAt_collected .memberKey k]
  | .call f args | .optCall _ f args | .new f args => by
    simp [Expr.reads, Expr.occurrences, Spot.isCollected, Expr.namesAt_collected f,
      Elem.namesAt_collected .argument rfl args]
  | .superCall args | .importCall args => by
    simp [Expr.reads, Expr.occurrences, Elem.namesAt_collected .argument rfl args]
  | .array elems => by simp [Expr.reads, Expr.occurrences, Elem.namesAt_collected .operand rfl elems]
  | .binary _ l r => by
    simp [Expr.reads, Expr.occurrences, Spot.isCollected, Expr.namesAt_collected l, Expr.namesAt_collected r]
  | .unary _ e | .update _ _ e | .paren e | .await e => by
    simp [Expr.reads, Expr.occurrences, Spot.isCollected, Expr.namesAt_collected e]
  | .assign op t v => by
    simp [Expr.reads, Expr.occurrences, Spot.isCollected, Target.namesAt_collected (op = .plain) t,
      Expr.namesAt_collected v]
  | .cond test yes no => by
    simp [Expr.reads, Expr.occurrences, Spot.isCollected, Expr.namesAt_collected test,
      Expr.namesAt_collected yes, Expr.namesAt_collected no]
  | .seq es => by simp [Expr.reads, Expr.occurrences, Expr.namesAt_allCollected .operand rfl es]
  | .template _ es => by simp [Expr.reads, Expr.occurrences, Expr.namesAt_allCollected .substitution rfl es]
  | .tagged tag _ es => by
    simp [Expr.reads, Expr.occurrences, Spot.isCollected, Expr.namesAt_collected tag,
      Expr.namesAt_allCollected .substitution rfl es]
  | .object props => by simp [Expr.reads, Expr.occurrences, Property.namesAt_collected props]
  | .superMember k => by
    simp [Expr.reads, Expr.occurrences, Spot.isCollected, Key.namesAt_collected .superKey k]
  | .classExpr _ parent _ => by cases parent <;> simp [Expr.reads, Expr.occurrences, Spot.isCollected]
  | .yield _ e => by cases e <;> simp [Expr.reads, Expr.occurrences, Spot.isCollected]
  | .ident _ | .thisRef | .null | .bool _ | .num _ | .bigint _ | .str _ | .regex _ _ | .func _ _ _ _
  | .arrow _ _ _ | .newTarget | .hiddenName _ => rfl

theorem Expr.namesAt_allCollected (spot : Spot) (h : spot.isCollected = true) : ∀ es : List Expr,
    namesAt Spot.isCollected (Expr.allOccurrences spot es) = Expr.allReads es
  | [] => rfl
  | e :: r => by
    simp [Expr.allReads, Expr.allOccurrences, h, Expr.namesAt_collected e, Expr.namesAt_allCollected spot h r]

theorem Elem.namesAt_collected (spot : Spot) (h : spot.isCollected = true) : ∀ elems : List Elem,
    namesAt Spot.isCollected (Elem.allOccurrences spot elems) = Elem.allReads elems
  | [] => rfl
  | .hole :: r => by simp [Elem.allReads, Elem.allOccurrences, Elem.namesAt_collected spot h r]
  | .item e :: r => by
    simp [Elem.allReads, Elem.allOccurrences, h, Expr.namesAt_collected e, Elem.namesAt_collected spot h r]
  | .spread e :: r => by
    simp [Elem.allReads, Elem.allOccurrences, Spot.isCollected, Expr.namesAt_collected e,
      Elem.namesAt_collected spot h r]

theorem Property.namesAt_collected : ∀ props : List Property,
    namesAt Spot.isCollected (Property.allOccurrences props) = Property.allReads props
  | [] => rfl
  | .keyValue k v :: r => by
    simp [Property.allReads, Property.allOccurrences, Spot.isCollected, Key.namesAt_collected .literalKey k,
      Expr.namesAt_collected v, Property.namesAt_collected r]
  | .shorthand _ :: r | .cover _ _ :: r => by
    simp [Property.allReads, Property.allOccurrences, Spot.isCollected, Property.namesAt_collected r]
  | .spread e :: r => by
    simp [Property.allReads, Property.allOccurrences, Spot.isCollected, Expr.namesAt_collected e,
      Property.namesAt_collected r]
  | .method k _ _ _ :: r | .getter k _ :: r | .setter k _ _ :: r => by
    simp [Property.allReads, Property.allOccurrences, Spot.isCollected, Key.namesAt_collected .methodKey k,
      Property.namesAt_collected r]

theorem Key.namesAt_collected (spot : Spot) : ∀ k : Key,
    namesAt Spot.isCollected (k.occurrences spot) = if spot.isCollected then k.reads else []
  | .computed e => by simp [Key.reads, Key.occurrences, Expr.namesAt_collected e]
  | .name _ | .hidden _ | .str _ | .num _ | .bigint _ => by simp [Key.reads, Key.occurrences]

theorem Target.namesAt_collected (plain : Bool) : ∀ t : Target,
    namesAt Spot.isCollected (t.occurrences plain) = t.reads
  | .member o k => by
    simp [Target.reads, Target.occurrences, Spot.isCollected, Expr.namesAt_collected o,
      Key.namesAt_collected .assignedKey k]
  | .superMember k => by
    simp [Target.reads, Target.occurrences, Spot.isCollected, Key.namesAt_collected .superKey k]
  | .ident n => by cases plain <;> rfl
  | .paren _ | .pattern _ => by simp [Target.reads, Target.occurrences, Spot.isCollected]

end

/-- The dependencies of an expression are the names at spots that are looked at, each once and in the order of
their first occurrence. If every identifier that is read is at such a spot, they are just the names that are
read. -/
theorem Expr.dependencies_in_order (e : Expr) :
    ListsOnce e.dependencies (namesAt Spot.isCollected e.occurrences) ∧
      ((∀ o ∈ e.occurrences, o.path.all Spot.isRead = true → o.path.all Spot.isCollected = true) →
        ListsOnce e.dependencies (namesAt Spot.isRead e.occurrences)) := by
  have hcollected : ListsOnce e.dependencies (namesAt Spot.isCollected e.occurrences) := by
    rw [e.namesAt_collected]
    exact listsOnce_eraseDups e.reads
  refine ⟨hcollected, fun h => ?_⟩
  have heq : namesAt Spot.isRead e.occurrences = namesAt Spot.isCollected e.occurrences := by
    unfold namesAt
    refine congrArg _ (List.filter_congr fun o ho => Bool.eq_iff_iff.mpr ⟨h o ho, fun hall => ?_⟩)
    rw [List.all_eq_true] at hall ⊢
    exact fun spot hspot => Spot.isRead_of_isCollected (hall spot hspot)
  rw [heq]
  exact hcollected

/-- `a.b + c[d] + f(a, ...e?.g) + {k: h++, i, [d]: a}` -/
def readsOften : Expr :=
  .binary .add
    (.binary .add
      (.binary .add (.member (.ident "a") (.name "b")) (.member (.ident "c") (.computed (.ident "d"))))
      (.call (.ident "f") [.item (.ident "a"), .spread (.optMember true (.ident "e") (.name "g"))]))
    (.object [.keyValue (.name "k") (.update .increment false (.ident "h")), .shorthand "i",
      .keyValue (.computed (.ident "d")) (.ident "a")])

theorem Expr.dependencies_in_order_readsOften :
    (∀ o ∈ readsOften.occurrences, o.path.all Spot.isRead = true → o.path.all Spot.isCollected = true) ∧
      ListsOnce readsOften.dependencies (namesAt Spot.isRead readsOften.occurrences) ∧
      readsOften.dependencies = ["a", "c", "d", "f", "e", "h", "i"] := by
  have hread : ∀ o ∈ readsOften.occurrences,
      o.path.all Spot.isRead = true → o.path.all Spot.isCollected = true := by
    decide
  exact ⟨hread, readsOften.dependencies_in_order.2 hread, by decide⟩

/-- Spots that are passed over: the key of a member that is written, as in `a[k] = v`, and the name that an
assignment reads first, as in `x += y`. -/
theorem Expr.dependencies_pass_over_reads :
    let assigned := Expr.assign .plain (.member (.ident "a") (.computed (.ident "k"))) (.ident "v")
    let added := Expr.assign (.compound .add) (.ident "x") (.ident "y")
    namesAt Spot.isRead assigned.occurrences = ["a", "k", "v"] ∧ assigned.dependencies = ["a", "v"] ∧
      namesAt Spot.isRead added.occurrences = ["x", "y"] ∧ added.dependencies = ["y"] := by
  decide

end DomFlow.Script
