import DomFlow.Config.Lookup
import DomFlow.Proofs.Paths
import Mathlib.Data.List.Chain

/-! # The nearest configuration

The search for a configuration goes up from a path, one component less at every step, and ends at the empty
path or the root. Its result is the first configuration on the way. Both ways to load it agree, and what lies
farther up never matters, even where the nearest one cannot be used. -/

namespace DomFlow.Config

/-- The nearest configuration: on the way up from a path, the first one that exists. -/
def IsNearest (files : FileTree) (start path : String) : Prop :=
  ∃ before folder after, Path.Lineage start (before ++ folder :: after) ∧ path = Path.join folder fileName ∧
    files.has path = true ∧ ∀ f ∈ before, files.has (Path.join f fileName) = false

section

variable {files : FileTree} {start path : String}

theorem find?_eq_some_iff_isNearest : find? files start = some path ↔ IsNearest files start path := by
  rw [find?, List.find?_map, Option.map_eq_some_iff]
  constructor
  · rintro ⟨folder, hfound, rfl⟩
    obtain ⟨hhas, before, after, hline, hbefore⟩ := List.find?_eq_some_iff_append.mp hfound
    refine ⟨before, folder, after, ?_, rfl, hhas, by simpa using hbefore⟩
    rw [← hline]
    exact Path.lineage_upward start
  · rintro ⟨before, folder, after, hline, rfl, hhas, hbefore⟩
    refine ⟨folder, List.find?_eq_some_iff_append.mpr ?_, rfl⟩
    exact ⟨hhas, before, after, hline.eq_upward.symm, by simpa using hbefore⟩

theorem find?_eq_none_iff_lineage {line : List String} (hline : Path.Lineage start line) :
    find? files start = none ↔ ∀ folder ∈ line, files.has (Path.join folder fileName) = false := by
  rw [find?, ← hline.eq_upward, List.find?_eq_none]
  simp

/-- A file that is read and denotes a configuration. -/
theorem loadWithWarnings_eq {text : String} {config : Config} (hfile : files.get? path = some (.file (some text)))
    (hconfig : ofText text = .ok config) :
    loadWithWarnings files path = .ok { config, warnings := warningsOfText text } := by
  have hread : readText files path = .ok text := by rw [readText, hfile]
  rw [loadWithWarnings, hread]
  simp only [bind, Except.bind, hconfig]
  rfl

/-- Whatever is loaded was read from a file and denotes a configuration. -/
theorem exists_text_of_loadWithWarnings {loaded : Loaded} (h : loadWithWarnings files path = .ok loaded) :
    ∃ text, files.get? path = some (.file (some text)) ∧ ofText text = .ok loaded.config := by
  rw [loadWithWarnings, readText] at h
  split at h
  · next text hfile =>
    refine ⟨text, hfile, ?_⟩
    cases hconfig : ofText text with
    | error e => simp [hconfig, bind, Except.bind] at h
    | ok config =>
      simp only [hconfig, bind, Except.bind, pure, Except.pure, Except.ok.injEq] at h
      rw [← h]
  · simp [bind, Except.bind] at h

/-- Warnings do not change what is loaded, nor whether anything is. -/
theorem load_eq_map_loadWithWarnings : load files path = (loadWithWarnings files path).map Loaded.config := by
  rw [load, loadWithWarnings]
  cases readText files path with
  | error e => rfl
  | ok text =>
    simp only [bind, Except.bind]
    cases ofText text <;> rfl

theorem loadOrDefault_eq_config :
    loadOrDefault files start = (loadOrDefaultWithWarnings files start).config := by
  rw [loadOrDefault, loadOrDefaultWithWarnings]
  cases find? files start with
  | none => rfl
  | some path =>
    simp only [Option.bind_some, load_eq_map_loadWithWarnings]
    cases loadWithWarnings files path <;> rfl

/-- A nearest configuration that can be used is the one that is loaded. -/
theorem loadOrDefaultWithWarnings_of_usable {text : String} {config : Config} (hnear : IsNearest files start path)
    (hfile : files.get? path = some (.file (some text))) (hconfig : ofText text = .ok config) :
    loadOrDefaultWithWarnings files start = { config, warnings := warningsOfText text } := by
  rw [loadOrDefaultWithWarnings, find?_eq_some_iff_isNearest.mpr hnear]
  simp only [loadWithWarnings_eq hfile hconfig]
  rfl

/-- Without a nearest configuration that can be used, the default is loaded. -/
theorem loadOrDefaultWithWarnings_of_unusable
    (h : ∀ path text config, IsNearest files start path → files.get? path = some (.file (some text)) →
      ofText text ≠ .ok config) :
    loadOrDefaultWithWarnings files start = {} := by
  rw [loadOrDefaultWithWarnings]
  cases hfind : find? files start with
  | none => rfl
  | some path =>
    cases hload : loadWithWarnings files path with
    | error e => simp [hload, Except.toOption]
    | ok loaded =>
      obtain ⟨text, hfile, hconfig⟩ := exists_text_of_loadWithWarnings hload
      exact absurd hconfig (h path text loaded.config (find?_eq_some_iff_isNearest.mp hfind) hfile)

end

/-- The search for a configuration ends at the empty path or the root. It finds the nearest one, and nothing
only where there is none. Both ways to load agree on what the nearest one says, or on the default if it cannot be
read or does not denote a configuration. -/
theorem nearest_config_loaded (files : FileTree) (start : String) :
    (∃ line, Path.Lineage start line ∧
      line.IsChain (fun p q => Path.components q = (Path.components p).dropLast) ∧
      (∃ top ∈ line.getLast?, top = "" ∨ Path.components top = ["/"]) ∧
      (find? files start = none ↔ ∀ folder ∈ line, files.has (Path.join folder fileName) = false)) ∧
    (∀ path, find? files start = some path ↔ IsNearest files start path) ∧
    loadOrDefault files start = (loadOrDefaultWithWarnings files start).config ∧
    (∀ path text config, IsNearest files start path → files.get? path = some (.file (some text)) →
      ofText text = .ok config →
      loadOrDefaultWithWarnings files start = { config, warnings := warningsOfText text }) ∧
    ((∀ path text config, IsNearest files start path → files.get? path = some (.file (some text)) →
      ofText text ≠ .ok config) → loadOrDefaultWithWarnings files start = {}) := by
  have hline := Path.lineage_upward start
  refine ⟨⟨_, hline, hline.isChain, hline.getLast?, find?_eq_none_iff_lineage hline⟩, ?_, ?_, ?_, ?_⟩
  · exact fun path => find?_eq_some_iff_isNearest
  · exact loadOrDefault_eq_config
  · exact fun path text config => loadOrDefaultWithWarnings_of_usable
  · exact loadOrDefaultWithWarnings_of_unusable

/-- Two configurations, of which the inner one is malformed. -/
def brokenBelowValid : FileTree :=
  .folder [("a", .folder [("b", .folder []), ("domxss.toml", .file (some "sinks = ["))]),
    ("domxss.toml", .file (some "exclude = [\"dist\"]\nmode = 1"))]

theorem nearest_config_loaded_brokenBelowValid :
    IsNearest brokenBelowValid "a/b" "a/domxss.toml" ∧
    loadOrDefaultWithWarnings brokenBelowValid "a/b" = {} ∧
    IsNearest brokenBelowValid "c" "domxss.toml" ∧
    loadOrDefaultWithWarnings brokenBelowValid "c" =
      { config := { exclude := ["dist"] }, warnings := ["Unknown config option: 'mode'"] } := by
  obtain ⟨-, hfind, -, -, hdefault⟩ := nearest_config_loaded brokenBelowValid "a/b"
  obtain ⟨-, hfind', -, hloaded, -⟩ := nearest_config_loaded brokenBelowValid "c"
  have hinner : find? brokenBelowValid "a/b" = some "a/domxss.toml" := by decide
  have houter : IsNearest brokenBelowValid "c" "domxss.toml" := (hfind' _).mp (by decide)
  have hbroken : ofText "sinks = [" = .error .malformed := by
    have hnone : Toml.parse? "sinks = [" = none := by decide +kernel
    rw [ofText, hnone, Option.bind_none]
  have hvalid : ofText "exclude = [\"dist\"]\nmode = 1" = .ok { exclude := ["dist"] } := by
    have hconfig : (Toml.parse? "exclude = [\"dist\"]\nmode = 1").bind ofTable? = some { exclude := ["dist"] } := by
      decide +kernel
    rw [ofText, hconfig]
  have hwarned : warningsOfText "exclude = [\"dist\"]\nmode = 1" = ["Unknown config option: 'mode'"] := by
    have hkeys : (Toml.parse? "exclude = [\"dist\"]\nmode = 1").map
        (fun t => (t.map Prod.fst, (t.lookup "emulator").isNone)) = some (["exclude", "mode"], true) := by
      decide +kernel
    obtain ⟨t, ht, hkeys⟩ := Option.map_eq_some_iff.mp hkeys
    obtain ⟨hkeys, hnone⟩ := Prod.mk.inj hkeys
    simp [warningsOfText, ht, warnings, Option.isNone_iff_eq_none.mp hnone, unknownKeys, Toml.Table.sortedKeys,
      Assoc.keys_inOrder, hkeys, knownKeys, List.mergeSort]
  refine ⟨(hfind _).mp hinner, hdefault ?_, houter, ?_⟩
  · intro path text config hnear hfile
    have hpath : path = "a/domxss.toml" := by simpa [hinner] using ((hfind path).mpr hnear).symm
    have htext : text = "sinks = [" := by
      rw [hpath] at hfile
      cases hfile
      rfl
    simp [htext, hbroken]
  · rw [hloaded _ _ _ houter rfl hvalid, hwarned]

end DomFlow.Config
