import DomFlow.Proofs.DistinctKeys
import DomFlow.Proofs.NearestConfig
import Mathlib.Data.Bool.Basic
import Mathlib.Data.List.Basic

/-! # Unknown keys of a configuration

A configuration is read field by field: each field has a key of its own, at the top of the table or in its
table on the sandbox. The keys that are warned about are exactly those that belong to no field. They can be
deleted without any effect, and each of the others decides the field that it belongs to. -/

namespace DomFlow.Toml

namespace Table

variable {k : String} {t : Table}

def remove (key : String) (t : Table) : Table := t.filter fun e => e.1 != key

/-- A table with another value under a key, if it has the key. -/
def alter (key : String) (f : Value → Value) (t : Table) : Table :=
  t.map fun e => if e.1 == key then (e.1, f e.2) else e

theorem lookup_remove (j k : String) (t : Table) :
    (remove k t).lookup j = if j = k then none else t.lookup j := by
  induction t with
  | nil => simp [remove]
  | cons e t ih =>
    obtain ⟨i, v⟩ := e
    rw [remove] at ih
    rw [remove, List.filter_cons, Assoc.lookup_cons]
    by_cases hi : i = k
    · rw [if_neg (by simp [hi]), ih]
      by_cases hj : j = k <;> simp [hi, hj]
    · rw [if_pos (by simp [hi]), Assoc.lookup_cons, ih]
      by_cases hj : j = i <;> simp [hi, hj]

theorem lookup_alter (j k : String) (f : Value → Value) (t : Table) :
    (alter k f t).lookup j = if j = k then (t.lookup k).map f else t.lookup j := by
  induction t with
  | nil => simp [alter]
  | cons e t ih =>
    obtain ⟨i, v⟩ := e
    rw [alter] at ih
    rw [alter, List.map_cons, Assoc.lookup_cons, Assoc.lookup_cons]
    by_cases hi : i = k
    · rw [if_pos (beq_iff_eq.mpr hi), Assoc.lookup_cons, ih]
      by_cases hj : j = k <;> simp [hi, hj]
    · rw [if_neg (mt beq_iff_eq.mp hi), Assoc.lookup_cons, ih]
      by_cases hj : j = i <;> simp [hi, hj, Ne.symm hi]

theorem mem_sortedKeys : k ∈ t.sortedKeys ↔ (t.lookup k).isSome := by
  rw [sortedKeys, ((Assoc.inOrder_perm t).map Prod.fst).mem_iff, Option.isSome_iff_ne_none, Ne, List.lookup_eq_none_iff]
  simp

theorem sortedKeys_sorted (hkeys : (t.map Prod.fst).Nodup) : t.sortedKeys.Pairwise (· < ·) :=
  List.pairwise_map.mpr (Assoc.inOrder_sorted hkeys)

end Table

def Value.changeTable (g : Table → Table) : Value → Value
  | .table t => .table (g t)
  | v => v

end DomFlow.Toml

namespace DomFlow.Config

open Toml (Value Table)

/-- How a record is read from a table: each field has a key of its own, and a default for tables that lack
the key. -/
structure Schema (R : Type) where
  Field : Type
  Datum : Field → Type
  key : Field → String
  read : (f : Field) → Value → Option (Datum f)
  default : R
  get : (f : Field) → R → Datum f
  set : (f : Field) → Datum f → R → R
  key_injective : Function.Injective key
  get_set : ∀ f x r, get f (set f x r) = x
  get_set_of_ne : ∀ f g x r, f ≠ g → get g (set f x r) = get g r
  /-- No field is bound to one value: besides any given one, another can be written. -/
  reads_other : ∀ f x, ∃ v y, read f v = some y ∧ y ≠ x

namespace Schema

variable {R : Type} {S : Schema R} {f : S.Field} {t t' : Table} {r r' : R}

/-- What a table says of a field: what stands under its key, or else the default. -/
def told (S : Schema R) (t : Table) (f : S.Field) : Option (S.Datum f) :=
  fieldOr (S.read f) (S.get f S.default) (t.lookup (S.key f))

/-- A table denotes a record if it says of every field what the field is. -/
def Denotes (S : Schema R) (t : Table) (r : R) : Prop := ∀ f, S.told t f = some (S.get f r)

theorem told_congr (hf : t'.lookup (S.key f) = t.lookup (S.key f)) : S.told t' f = S.told t f := by
  rw [told, told, hf]

theorem denotes_congr (h : ∀ f, S.told t' f = S.told t f) : S.Denotes t' r ↔ S.Denotes t r := by
  simp only [Denotes, h]

theorem Denotes.get_eq (h : S.Denotes t r) (f : S.Field) (h' : S.Denotes t' r')
    (hf : t'.lookup (S.key f) = t.lookup (S.key f)) : S.get f r' = S.get f r := by
  have htold : some (S.get f r') = some (S.get f r) := by rw [← h' f, ← h f, told_congr hf]
  exact Option.some.inj htold

/-- Another value under the key of a field changes that field alone. -/
theorem Denotes.alter (h : S.Denotes t r) (f : S.Field) {w v : Value} {x : S.Datum f} (hw : t.lookup (S.key f) = some w)
    (hread : S.read f v = some x) : S.Denotes (Table.alter (S.key f) (fun _ => v) t) (S.set f x r) := by
  intro g
  by_cases hg : f = g
  · subst hg
    rw [told, Table.lookup_alter, if_pos rfl, hw, S.get_set]
    exact hread
  · have hkey : S.key g ≠ S.key f := fun hkey => hg (S.key_injective hkey).symm
    rw [S.get_set_of_ne f g x r hg, ← h g]
    exact told_congr (by rw [Table.lookup_alter, if_neg hkey])

end Schema

theorem asTexts?_texts (ls : List String) : asTexts? (.array (ls.map .text)) = some ls := by
  induction ls with
  | nil => rfl
  | cons l ls ih =>
    rw [asTexts?] at ih
    rw [asTexts?, List.map_cons, List.mapM_cons, ih]
    rfl

/-- Besides any texts, others can be written. -/
theorem exists_other_texts (ls : List String) : ∃ v ls', asTexts? v = some ls' ∧ ls' ≠ ls := by
  refine ⟨_, "" :: ls, asTexts?_texts ("" :: ls), fun h => ?_⟩
  simpa using congrArg List.length h

theorem exists_other_nat (n : Nat) : ∃ v m, asNat? v = some m ∧ m ≠ n := by
  by_cases hn : n = 0
  · exact ⟨.integer (.ofNat 1), 1, rfl, by simp [hn]⟩
  · exact ⟨.integer (.ofNat 0), 0, rfl, Ne.symm hn⟩

/-- The fields of the options for the sandbox. -/
inductive OptionsField where
  | enabled | timeoutMs | loopLimit | recursionLimit | stackLimit | maxSourceBytes
deriving DecidableEq

def OptionsField.Datum : OptionsField → Type
  | .enabled => Bool
  | .timeoutMs | .loopLimit | .recursionLimit | .stackLimit | .maxSourceBytes => Nat

def OptionsField.key : OptionsField → String
  | .enabled => "enabled"
  | .timeoutMs => "timeout_ms"
  | .loopLimit => "loop_iteration_limit"
  | .recursionLimit => "recursion_limit"
  | .stackLimit => "stack_size_limit"
  | .maxSourceBytes => "max_source_bytes"

def OptionsField.read : (f : OptionsField) → Value → Option f.Datum
  | .enabled => asBool?
  | .timeoutMs | .loopLimit | .recursionLimit | .stackLimit | .maxSourceBytes => asNat?

def OptionsField.get : (f : OptionsField) → Sandbox.Options → f.Datum
  | .enabled, o => o.enabled
  | .timeoutMs, o => o.timeoutMs
  | .loopLimit, o => o.loopLimit
  | .recursionLimit, o => o.recursionLimit
  | .stackLimit, o => o.stackLimit
  | .maxSourceBytes, o => o.maxSourceBytes

def OptionsField.set : (f : OptionsField) → f.Datum → Sandbox.Options → Sandbox.Options
  | .enabled, x, o => { o with enabled := x }
  | .timeoutMs, x, o => { o with timeoutMs := x }
  | .loopLimit, x, o => { o with loopLimit := x }
  | .recursionLimit, x, o => { o with recursionLimit := x }
  | .stackLimit, x, o => { o with stackLimit := x }
  | .maxSourceBytes, x, o => { o with maxSourceBytes := x }

def optionsSchema : Schema Sandbox.Options where
  Field := OptionsField
  Datum := OptionsField.Datum
  key := OptionsField.key
  read := OptionsField.read
  default := {}
  get := OptionsField.get
  set := OptionsField.set
  key_injective f g h := by cases f <;> cases g <;> simp_all [OptionsField.key]
  get_set f x r := by cases f <;> rfl
  get_set_of_ne f g x r h := by cases f <;> cases g <;> first | rfl | exact absurd rfl h
  reads_other f x := by
    cases f with
    | enabled => exact ⟨.bool (!x), !x, rfl, Bool.not_ne_self x⟩
    | timeoutMs | loopLimit | recursionLimit | stackLimit | maxSourceBytes => exact exists_other_nat x

inductive ConfigField where
  | sources | sinks | exclude | sandbox
deriving DecidableEq

def ConfigField.Datum : ConfigField → Type
  | .sources | .sinks => Option (List String)
  | .exclude => List String
  | .sandbox => Sandbox.Options

def ConfigField.key : ConfigField → String
  | .sources => "sources"
  | .sinks => "sinks"
  | .exclude => "exclude"
  | .sandbox => "emulator"

def ConfigField.read : (f : ConfigField) → Value → Option f.Datum
  | .sources | .sinks => fun v => (asTexts? v).map some
  | .exclude => asTexts?
  | .sandbox => asOptions?

def ConfigField.get : (f : ConfigField) → Config → f.Datum
  | .sources, c => c.sources
  | .sinks, c => c.sinks
  | .exclude, c => c.exclude
  | .sandbox, c => c.sandbox

def ConfigField.set : (f : ConfigField) → f.Datum → Config → Config
  | .sources, x, c => { c with sources := x }
  | .sinks, x, c => { c with sinks := x }
  | .exclude, x, c => { c with exclude := x }
  | .sandbox, x, c => { c with sandbox := x }

def configSchema : Schema Config where
  Field := ConfigField
  Datum := ConfigField.Datum
  key := ConfigField.key
  read := ConfigField.read
  default := {}
  get := ConfigField.get
  set := ConfigField.set
  key_injective f g h := by cases f <;> cases g <;> simp_all [ConfigField.key]
  get_set f x r := by cases f <;> rfl
  get_set_of_ne f g x r h := by cases f <;> cases g <;> first | rfl | exact absurd rfl h
  reads_other f x := by
    cases f with
    | sources | sinks =>
      obtain ⟨v, ls, hv, hls⟩ := exists_other_texts (Option.getD x [])
      refine ⟨v, some ls, congrArg (Option.map some) hv, fun h => hls ?_⟩
      rw [← h, Option.getD_some]
    | exclude => exact exists_other_texts x
    | sandbox =>
      refine ⟨.table [("enabled", .bool (!x.enabled))], { enabled := !x.enabled }, rfl, fun h => ?_⟩
      exact Bool.not_ne_self x.enabled (congrArg Sandbox.Options.enabled h)

theorem asOptions?_table_eq_some_iff {s : Table} {o : Sandbox.Options} :
    asOptions? (.table s) = some o ↔ optionsSchema.Denotes s o := by
  rw [asOptions?, optionsFrom?]
  constructor
  · intro h f
    obtain ⟨enabled, henabled, h⟩ := Option.bind_eq_some_iff.mp h
    obtain ⟨timeout, htimeout, h⟩ := Option.bind_eq_some_iff.mp h
    obtain ⟨loops, hloops, h⟩ := Option.bind_eq_some_iff.mp h
    obtain ⟨recursion, hrecursion, h⟩ := Option.bind_eq_some_iff.mp h
    obtain ⟨stack, hstack, h⟩ := Option.bind_eq_some_iff.mp h
    obtain ⟨bytes, hbytes, ⟨⟩⟩ := Option.bind_eq_some_iff.mp h
    cases f <;> assumption
  · intro h
    refine Option.bind_eq_some_iff.mpr ⟨_, h OptionsField.enabled, ?_⟩
    refine Option.bind_eq_some_iff.mpr ⟨_, h OptionsField.timeoutMs, ?_⟩
    refine Option.bind_eq_some_iff.mpr ⟨_, h OptionsField.loopLimit, ?_⟩
    refine Option.bind_eq_some_iff.mpr ⟨_, h OptionsField.recursionLimit, ?_⟩
    refine Option.bind_eq_some_iff.mpr ⟨_, h OptionsField.stackLimit, ?_⟩
    exact Option.bind_eq_some_iff.mpr ⟨_, h OptionsField.maxSourceBytes, rfl⟩

theorem ofTable?_eq_some_iff {t : Table} {c : Config} : ofTable? t = some c ↔ configSchema.Denotes t c := by
  rw [ofTable?]
  constructor
  · intro h f
    obtain ⟨sources, hsources, h⟩ := Option.bind_eq_some_iff.mp h
    obtain ⟨sinks, hsinks, h⟩ := Option.bind_eq_some_iff.mp h
    obtain ⟨exclude, hexclude, h⟩ := Option.bind_eq_some_iff.mp h
    obtain ⟨sandbox, hsandbox, ⟨⟩⟩ := Option.bind_eq_some_iff.mp h
    cases f <;> assumption
  · intro h
    refine Option.bind_eq_some_iff.mpr ⟨_, h ConfigField.sources, ?_⟩
    refine Option.bind_eq_some_iff.mpr ⟨_, h ConfigField.sinks, ?_⟩
    refine Option.bind_eq_some_iff.mpr ⟨_, h ConfigField.exclude, ?_⟩
    exact Option.bind_eq_some_iff.mpr ⟨_, h ConfigField.sandbox, rfl⟩

/-- A field of a configuration, or of its options for the sandbox. -/
inductive Field where
  | ofConfig (f : ConfigField)
  | ofOptions (f : OptionsField)

/-- A key of the table of a configuration, or of its table on the sandbox. -/
inductive Slot where
  | top (key : String)
  | sandbox (key : String)
deriving DecidableEq

/-- The table on the sandbox; empty if there is none. -/
def sandboxTable (t : Table) : Table :=
  match t.lookup "emulator" with
  | some (.table s) => s
  | _ => []

namespace Slot

def key : Slot → String
  | .top k | .sandbox k => k

def value? (t : Table) : Slot → Option Value
  | .top k => t.lookup k
  | .sandbox k => (sandboxTable t).lookup k

def change (g : Table → Table) (t : Table) : Slot → Table
  | .top _ => g t
  | .sandbox _ => Table.alter "emulator" (Value.changeTable g) t

/-- Deletes the key of a slot, with its value. -/
def delete (t : Table) (slot : Slot) : Table := slot.change (Table.remove slot.key) t

def put (v : Value) (t : Table) (slot : Slot) : Table := slot.change (Table.alter slot.key fun _ => v) t

/-- The order of slots: those of the whole table first, then by their keys. -/
def Before : Slot → Slot → Prop
  | .top a, .top b | .sandbox a, .sandbox b => a < b
  | .top _, .sandbox _ => True
  | .sandbox _, .top _ => False

def warning : Slot → String
  | .top k => "Unknown config option: '" ++ k ++ "'"
  | .sandbox k => "Unknown config option in [emulator]: '" ++ k ++ "'"

end Slot

namespace Field

def Datum : Field → Type
  | .ofConfig f => f.Datum
  | .ofOptions f => f.Datum

def slot : Field → Slot
  | .ofConfig f => .top f.key
  | .ofOptions f => .sandbox f.key

def get : (f : Field) → Config → f.Datum
  | .ofConfig f, c => f.get c
  | .ofOptions f, c => f.get c.sandbox

def set : (f : Field) → f.Datum → Config → Config
  | .ofConfig f, x, c => f.set x c
  | .ofOptions f, x, c => { c with sandbox := f.set x c.sandbox }

end Field

/-- The value in the slot of a field decides the field: it is the same in all tables with this value there, and
with another value there it can differ while all else stays. -/
structure Decides (t : Table) (c : Config) (f : Field) : Prop where
  alone : ∀ t' c', f.slot.value? t' = f.slot.value? t → ofTable? t' = some c' → f.get c' = f.get c
  other : ∃ v x, x ≠ f.get c ∧ ofTable? (f.slot.put v t) = some (f.set x c)

/-- Slots that are warned about. -/
def warned (t : Table) : List Slot :=
  (unknownKeys knownKeys t).map .top ++ (unknownKeys knownSandboxKeys (sandboxTable t)).map .sandbox

section

variable {t : Table} {k : String} {slot : Slot} {g : Table → Table}

theorem mem_knownKeys : k ∈ knownKeys ↔ ∃ f : ConfigField, f.key = k := by
  constructor
  · intro h
    simp only [knownKeys, List.mem_cons, List.not_mem_nil, or_false] at h
    rcases h with rfl | rfl | rfl | rfl
    · exact ⟨.sources, rfl⟩
    · exact ⟨.sinks, rfl⟩
    · exact ⟨.exclude, rfl⟩
    · exact ⟨.sandbox, rfl⟩
  · rintro ⟨f, rfl⟩
    cases f <;> decide

theorem mem_knownSandboxKeys : k ∈ knownSandboxKeys ↔ ∃ f : OptionsField, f.key = k := by
  constructor
  · intro h
    simp only [knownSandboxKeys, List.mem_cons, List.not_mem_nil, or_false] at h
    rcases h with rfl | rfl | rfl | rfl | rfl | rfl
    · exact ⟨.enabled, rfl⟩
    · exact ⟨.timeoutMs, rfl⟩
    · exact ⟨.loopLimit, rfl⟩
    · exact ⟨.recursionLimit, rfl⟩
    · exact ⟨.stackLimit, rfl⟩
    · exact ⟨.maxSourceBytes, rfl⟩
  · rintro ⟨f, rfl⟩
    cases f <;> decide

theorem mem_unknownKeys {known : List String} : k ∈ unknownKeys known t ↔ (t.lookup k).isSome ∧ k ∉ known := by
  simp [unknownKeys, Table.mem_sortedKeys]

/-- A slot is warned about if it holds a value and belongs to no field. -/
theorem mem_warned : slot ∈ warned t ↔ (slot.value? t).isSome ∧ ∀ f : Field, f.slot ≠ slot := by
  cases slot with
  | top k =>
    have hfields : (∀ f : Field, f.slot ≠ .top k) ↔ k ∉ knownKeys := by
      rw [mem_knownKeys, not_exists]
      constructor
      · exact fun h f hf => h (.ofConfig f) (congrArg Slot.top hf)
      · rintro h (f | f) hf
        · exact h f (Slot.top.inj hf)
        · cases hf
    simp [warned, mem_unknownKeys, hfields, Slot.value?]
  | sandbox k =>
    have hfields : (∀ f : Field, f.slot ≠ .sandbox k) ↔ k ∉ knownSandboxKeys := by
      rw [mem_knownSandboxKeys, not_exists]
      constructor
      · exact fun h f hf => h (.ofOptions f) (congrArg Slot.sandbox hf)
      · rintro h (f | f) hf
        · cases hf
        · exact h f (Slot.sandbox.inj hf)
    simp [warned, mem_unknownKeys, hfields, Slot.value?]

theorem sandboxTable_of_table {s : Table} (h : t.lookup "emulator" = some (.table s)) : sandboxTable t = s := by
  rw [sandboxTable, h]

theorem sandboxTable_of_none (h : ∀ s, t.lookup "emulator" ≠ some (.table s)) : sandboxTable t = [] := by
  rw [sandboxTable]
  split
  next s hs => exact absurd hs (h s)
  · rfl

theorem unknownKeys_nil (known : List String) : unknownKeys known [] = [] := by
  rw [unknownKeys, Table.sortedKeys, Assoc.inOrder, List.mergeSort_nil, List.map_nil, List.filter_nil]

theorem warnings_eq (t : Table) : warnings t = (warned t).map Slot.warning := by
  rw [warnings, warned, List.map_append, List.map_map, List.map_map]
  split
  next s hs =>
    rw [sandboxTable_of_table hs]
    rfl
  next hnone =>
    rw [sandboxTable_of_none fun s hs => hnone s hs, unknownKeys_nil]
    rfl

theorem keys_sandboxTable (h : (Value.table t).Distinct) : ((sandboxTable t).map Prod.fst).Nodup := by
  rw [sandboxTable]
  split
  next s hs =>
    obtain ⟨before, after, rfl, -⟩ := List.lookup_eq_some_iff.mp hs
    exact (h.of_mem (e := ("emulator", .table s)) (by simp)).keys
  · exact List.nodup_nil

theorem warned_ordered (h : (Value.table t).Distinct) : (warned t).Pairwise Slot.Before := by
  have hsorted {s : Table} (hs : (s.map Prod.fst).Nodup) (known : List String) :
      (unknownKeys known s).Pairwise (· < ·) := (Table.sortedKeys_sorted hs).filter _
  rw [warned, List.pairwise_append]
  refine ⟨List.pairwise_map.mpr (hsorted h.keys _), List.pairwise_map.mpr (hsorted (keys_sandboxTable h) _), ?_⟩
  intro a ha b hb
  obtain ⟨i, -, rfl⟩ := List.mem_map.mp ha
  obtain ⟨j, -, rfl⟩ := List.mem_map.mp hb
  trivial

theorem sandboxTable_change (hg : g [] = []) :
    sandboxTable (Table.alter "emulator" (Value.changeTable g) t) = g (sandboxTable t) := by
  have hlookup := Table.lookup_alter "emulator" "emulator" (Value.changeTable g) t
  rw [if_pos rfl] at hlookup
  by_cases htable : ∃ s, t.lookup "emulator" = some (.table s)
  · obtain ⟨s, hs⟩ := htable
    rw [hs] at hlookup
    rw [sandboxTable_of_table hs, sandboxTable_of_table hlookup]
  · rw [not_exists] at htable
    rw [sandboxTable_of_none htable, hg]
    apply sandboxTable_of_none
    intro s hs
    rw [hlookup] at hs
    obtain ⟨v, hv, hchange⟩ := Option.map_eq_some_iff.mp hs
    cases v with
    | table s' => exact htable s' hv
    | text _ | integer _ | float _ | bool _ | moment _ | array _ => cases hchange

/-- What stands under a key that no option has does not matter to the options. -/
theorem asOptions?_changeTable (hk : ∀ f : OptionsField, f.key ≠ k)
    (hg : ∀ s j, j ≠ k → (g s).lookup j = s.lookup j) (v : Value) :
    asOptions? (v.changeTable g) = asOptions? v := by
  cases v with
  | table s =>
    ext o
    rw [Value.changeTable, asOptions?_table_eq_some_iff, asOptions?_table_eq_some_iff]
    exact Schema.denotes_congr fun f => Schema.told_congr (hg s _ (hk f))
  | text _ | integer _ | float _ | bool _ | moment _ | array _ => rfl

/-- What stands in a slot that belongs to no field does not matter at all. -/
theorem ofTable?_change (hslot : ∀ f : Field, f.slot ≠ slot)
    (hg : ∀ s j, j ≠ slot.key → (g s).lookup j = s.lookup j) : ofTable? (slot.change g t) = ofTable? t := by
  ext c
  rw [ofTable?_eq_some_iff, ofTable?_eq_some_iff]
  apply Schema.denotes_congr
  intro f
  cases slot with
  | top k => exact Schema.told_congr (hg t _ fun hf => hslot (.ofConfig f) (congrArg Slot.top hf))
  | sandbox k =>
    by_cases hf : configSchema.key f = "emulator"
    · obtain rfl : f = ConfigField.sandbox := configSchema.key_injective hf
      have hoptions := asOptions?_changeTable (fun f hf => hslot (.ofOptions f) (congrArg Slot.sandbox hf)) hg
      change fieldOr asOptions? {} ((Table.alter "emulator" (Value.changeTable g) t).lookup "emulator") =
        fieldOr asOptions? {} (t.lookup "emulator")
      rw [Table.lookup_alter, if_pos rfl]
      cases t.lookup "emulator" with
      | none => rfl
      | some v => exact hoptions v
    · exact Schema.told_congr (by rw [Slot.change, Table.lookup_alter, if_neg hf])

theorem ofTable?_delete (hslot : ∀ f : Field, f.slot ≠ slot) : ofTable? (slot.delete t) = ofTable? t :=
  ofTable?_change hslot fun s j hj => by rw [Table.lookup_remove, if_neg hj]

theorem ofTable?_put (hslot : ∀ f : Field, f.slot ≠ slot) (v : Value) : ofTable? (slot.put v t) = ofTable? t :=
  ofTable?_change hslot fun s j hj => by rw [Table.lookup_alter, if_neg hj]

/-- To delete a slot that belongs to no field empties this slot alone. The one slot that holds others, the table
on the sandbox, belongs to a field. -/
theorem isSome_value?_delete (hslot : ∀ f : Field, f.slot ≠ slot) (other : Slot) :
    (other.value? (slot.delete t)).isSome ↔ (other.value? t).isSome ∧ other ≠ slot := by
  cases slot with
  | top k =>
    have hk : "emulator" ≠ k := fun hk => hslot (.ofConfig .sandbox) (congrArg Slot.top hk)
    cases other with
    | top j =>
      rw [Slot.value?, Slot.value?, Slot.delete, Slot.change, Slot.key, Table.lookup_remove]
      by_cases hj : j = k <;> simp [hj]
    | sandbox j =>
      have hsame : sandboxTable (Table.remove k t) = sandboxTable t := by
        rw [sandboxTable, sandboxTable, Table.lookup_remove, if_neg hk]
      simp [Slot.value?, Slot.delete, Slot.change, Slot.key, hsame]
  | sandbox k =>
    cases other with
    | top j =>
      rw [Slot.value?, Slot.value?, Slot.delete, Slot.change, Table.lookup_alter]
      by_cases hj : j = "emulator" <;> simp [hj]
    | sandbox j =>
      rw [Slot.value?, Slot.value?, Slot.delete, Slot.change, sandboxTable_change rfl, Slot.key, Table.lookup_remove]
      by_cases hj : j = k <;> simp [hj]

theorem ofTable?_deleteAll {slots : List Slot} (hslots : ∀ slot ∈ slots, ∀ f : Field, f.slot ≠ slot) :
    ofTable? (slots.foldl Slot.delete t) = ofTable? t := by
  induction slots generalizing t with
  | nil => rfl
  | cons slot slots ih =>
    obtain ⟨hslot, hslots⟩ := List.forall_mem_cons.mp hslots
    rw [List.foldl_cons, ih hslots, ofTable?_delete hslot]

theorem isSome_value?_deleteAll {slots : List Slot} (hslots : ∀ slot ∈ slots, ∀ f : Field, f.slot ≠ slot)
    (other : Slot) :
    (other.value? (slots.foldl Slot.delete t)).isSome ↔ (other.value? t).isSome ∧ other ∉ slots := by
  induction slots generalizing t with
  | nil => simp
  | cons slot slots ih =>
    obtain ⟨hslot, hslots⟩ := List.forall_mem_cons.mp hslots
    rw [List.foldl_cons, ih hslots, isSome_value?_delete hslot, List.mem_cons, not_or, and_assoc]

/-- Without the slots that are warned about, nothing is left to warn about. -/
theorem warnings_deleteAll (t : Table) : warnings ((warned t).foldl Slot.delete t) = [] := by
  have hfree : ∀ slot ∈ warned t, ∀ f : Field, f.slot ≠ slot := fun slot hslot => (mem_warned.mp hslot).2
  rw [warnings_eq, List.map_eq_nil_iff, List.eq_nil_iff_forall_not_mem]
  intro slot hslot
  obtain ⟨hsome, hfields⟩ := mem_warned.mp hslot
  obtain ⟨hsome, hnot⟩ := (isSome_value?_deleteAll hfree slot).mp hsome
  exact hnot (mem_warned.mpr ⟨hsome, hfields⟩)

variable {c : Config}

theorem Decides.ofConfig (h : ofTable? t = some c) (f : ConfigField) (hf : ((Slot.top f.key).value? t).isSome) :
    Decides t c (.ofConfig f) := by
  have hdenotes := ofTable?_eq_some_iff.mp h
  obtain ⟨w, hw⟩ := Option.isSome_iff_exists.mp hf
  constructor
  · intro t' c' hvalue h'
    exact hdenotes.get_eq f (ofTable?_eq_some_iff.mp h') hvalue
  · obtain ⟨v, x, hread, hx⟩ := configSchema.reads_other f (f.get c)
    exact ⟨v, x, hx, ofTable?_eq_some_iff.mpr (hdenotes.alter f hw hread)⟩

/-- A configuration has the options that its table on the sandbox denotes. -/
theorem denotes_sandbox {s : Table} (h : ofTable? t = some c) (hs : t.lookup "emulator" = some (.table s)) :
    optionsSchema.Denotes s c.sandbox := by
  have hsandbox : fieldOr asOptions? {} (t.lookup "emulator") = some c.sandbox :=
    ofTable?_eq_some_iff.mp h ConfigField.sandbox
  rw [hs] at hsandbox
  exact asOptions?_table_eq_some_iff.mp hsandbox

theorem exists_sandboxTable {v : Value} (hv : (Slot.sandbox k).value? t = some v) :
    ∃ s, t.lookup "emulator" = some (.table s) ∧ s.lookup k = some v := by
  by_contra! hnone
  have hno : ∀ s, t.lookup "emulator" ≠ some (.table s) := by
    intro s hs
    rw [Slot.value?, sandboxTable_of_table hs] at hv
    exact hnone s hs hv
  rw [Slot.value?, sandboxTable_of_none hno] at hv
  cases hv

theorem Decides.ofOptions (h : ofTable? t = some c) (f : OptionsField)
    (hf : ((Slot.sandbox f.key).value? t).isSome) : Decides t c (.ofOptions f) := by
  obtain ⟨w, hw⟩ := Option.isSome_iff_exists.mp hf
  obtain ⟨s, hs, hsw⟩ := exists_sandboxTable hw
  have hdenotes := denotes_sandbox h hs
  constructor
  · intro t' c' hvalue h'
    obtain ⟨s', hs', hsw'⟩ := exists_sandboxTable (hvalue.trans hw)
    exact hdenotes.get_eq f (denotes_sandbox h' hs') (hsw'.trans hsw.symm)
  · obtain ⟨v, x, hread, hx⟩ := optionsSchema.reads_other f (f.get c.sandbox)
    refine ⟨v, x, hx, ?_⟩
    have hoptions := asOptions?_table_eq_some_iff.mpr (hdenotes.alter f hsw hread)
    have haltered : configSchema.Denotes (Table.alter "emulator" (fun _ => .table (Table.alter f.key (fun _ => v) s)) t)
        { c with sandbox := f.set x c.sandbox } :=
      (ofTable?_eq_some_iff.mp h).alter ConfigField.sandbox (x := f.set x c.sandbox) hs hoptions
    apply ofTable?_eq_some_iff.mpr
    refine (Schema.denotes_congr fun g => Schema.told_congr ?_).mpr haltered
    change (Table.alter "emulator" (Value.changeTable _) t).lookup _ = _
    rw [Table.lookup_alter, Table.lookup_alter, hs]
    rfl

end

/-- The warnings about a table name exactly the keys that decide nothing. -/
structure WarnsExactly (t : Table) (loaded : Loaded) (slots : List Slot) : Prop where
  warnings_eq : loaded.warnings = slots.map Slot.warning
  ordered : slots.Pairwise Slot.Before
  mem_iff : ∀ slot, slot ∈ slots ↔ (slot.value? t).isSome ∧ ∀ f : Field, f.slot ≠ slot
  /-- Whatever value stands in such a slot, the configuration is the same. -/
  ignored : ∀ slot ∈ slots, ∀ v, ofTable? (slot.put v t) = some loaded.config
  /-- Deleting them deletes nothing else. -/
  kept : ∀ slot, (slot.value? (slots.foldl Slot.delete t)).isSome ↔ (slot.value? t).isSome ∧ slot ∉ slots
  denotes : ofTable? (slots.foldl Slot.delete t) = some loaded.config
  silent : warnings (slots.foldl Slot.delete t) = []
  decides : ∀ slot, (slot.value? t).isSome → slot ∉ slots → ∃ f : Field, f.slot = slot ∧ Decides t loaded.config f

theorem ofText_eq_ok {text : String} {c : Config} (h : ofText text = .ok c) :
    ∃ t, Toml.parse? text = some t ∧ ofTable? t = some c := by
  rw [ofText] at h
  split at h
  next config hconfig =>
    cases h
    exact Option.bind_eq_some_iff.mp hconfig
  · cases h

theorem loadWithWarnings_of_table {files : FileTree} {path text : String} {t : Table} {c : Config}
    (hfile : files.get? path = some (.file (some text))) (ht : Toml.parse? text = some t)
    (hc : ofTable? t = some c) : loadWithWarnings files path = .ok { config := c, warnings := warnings t } := by
  have hconfig : ofText text = .ok c := by rw [ofText, ht, Option.bind_some, hc]
  rw [loadWithWarnings_eq hfile hconfig, warningsOfText, ht]
  rfl

/-- Warnings about unknown keys are exact. Each key of a configuration that is loaded either belongs to no field
and is warned about, or decides the field that it belongs to. Without the keys that are warned about, the same
configuration is loaded, and without warnings. -/
theorem unknown_keys_warned {files : FileTree} {path : String} {loaded : Loaded}
    (h : loadWithWarnings files path = .ok loaded) :
    ∃ text t slots, files.get? path = some (.file (some text)) ∧ Toml.parse? text = some t ∧
      WarnsExactly t loaded slots ∧
      ∀ files' path' text', files'.get? path' = some (.file (some text')) →
        Toml.parse? text' = some (slots.foldl Slot.delete t) →
        loadWithWarnings files' path' = .ok { config := loaded.config, warnings := [] } := by
  obtain ⟨text, hfile, hconfig⟩ := exists_text_of_loadWithWarnings h
  obtain ⟨t, ht, hc⟩ := ofText_eq_ok hconfig
  have hwarnings : loaded.warnings = warnings t := by
    rw [loadWithWarnings_of_table hfile ht hc] at h
    exact (congrArg Loaded.warnings (Except.ok.inj h)).symm
  have hfree : ∀ slot ∈ warned t, ∀ f : Field, f.slot ≠ slot := fun slot hslot => (mem_warned.mp hslot).2
  have hrest : ofTable? ((warned t).foldl Slot.delete t) = some loaded.config := by rw [ofTable?_deleteAll hfree, hc]
  refine ⟨text, t, warned t, hfile, ht, ?_, ?_⟩
  · constructor
    · rw [hwarnings, warnings_eq]
    · exact warned_ordered (Toml.parse?_distinct ht)
    · exact fun slot => mem_warned
    · intro slot hslot v
      rw [ofTable?_put (hfree slot hslot), hc]
    · exact isSome_value?_deleteAll hfree
    · exact hrest
    · exact warnings_deleteAll t
    · intro slot hsome hnot
      have hfield : ∃ f : Field, f.slot = slot := by
        by_contra! hfields
        exact hnot (mem_warned.mpr ⟨hsome, hfields⟩)
      obtain ⟨f, rfl⟩ := hfield
      refine ⟨f, rfl, ?_⟩
      cases f with
      | ofConfig f => exact .ofConfig hc f hsome
      | ofOptions f => exact .ofOptions hc f hsome
  · intro files' path' text' hfile' ht'
    rw [loadWithWarnings_of_table hfile' ht' hrest, warnings_deleteAll]

/-- Known keys among unknown ones, whose values are a number, an array and a table. -/
def mixedKeys : String := "zoom = 1\ncolour = []\n[emulator]\nturbo = \x7b\x7d\nenabled = false"

theorem warnings_mixedKeys {t : Table} (ht : Toml.parse? mixedKeys = some t) :
    warnings t = ["Unknown config option: 'colour'", "Unknown config option: 'zoom'",
      "Unknown config option in [emulator]: 'turbo'"] := by
  have hkeys : (Toml.parse? mixedKeys).map (fun t => (t.map Prod.fst, (sandboxTable t).map Prod.fst)) =
      some (["zoom", "colour", "emulator"], ["turbo", "enabled"]) := by decide +kernel
  rw [ht, Option.map_some, Option.some.injEq, Prod.mk.injEq] at hkeys
  have hwarned : warned t = [.top "colour", .top "zoom", .sandbox "turbo"] := by
    simp [warned, unknownKeys, Table.sortedKeys, Assoc.keys_inOrder, hkeys, knownKeys, knownSandboxKeys, List.mergeSort]
  rw [warnings_eq, hwarned]
  rfl

theorem unknown_keys_warned_mixedKeys :
    loadWithWarnings (.folder [("domxss.toml", .file (some mixedKeys))]) "domxss.toml" = .ok
      { config := { sandbox := { enabled := false } }
        warnings := ["Unknown config option: 'colour'", "Unknown config option: 'zoom'",
          "Unknown config option in [emulator]: 'turbo'"] } ∧
    ∃ (t : Table) (slots : List Slot), Toml.parse? mixedKeys = some t ∧
      slots.map Slot.warning = ["Unknown config option: 'colour'",
        "Unknown config option: 'zoom'", "Unknown config option in [emulator]: 'turbo'"] ∧
      ofTable? (slots.foldl Slot.delete t) = some { sandbox := { enabled := false } } := by
  have hbind : (Toml.parse? mixedKeys).bind ofTable? = some { sandbox := { enabled := false } } := by decide +kernel
  obtain ⟨t, ht, hconfig⟩ := Option.bind_eq_some_iff.mp hbind
  have hfile : FileTree.get? (.folder [("domxss.toml", .file (some mixedKeys))]) "domxss.toml" =
      some (.file (some mixedKeys)) := rfl
  have hloaded := loadWithWarnings_of_table hfile ht hconfig
  rw [warnings_mixedKeys ht] at hloaded
  obtain ⟨text, t', slots, hfile', ht', hexact, -⟩ := unknown_keys_warned hloaded
  obtain rfl : mixedKeys = text := by
    rw [hfile] at hfile'
    cases hfile'
    rfl
  exact ⟨hloaded, t', slots, ht', hexact.warnings_eq.symm, hexact.denotes⟩

end DomFlow.Config
