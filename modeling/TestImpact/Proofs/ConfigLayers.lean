import Mathlib.Data.List.Induction
import TestImpact.Config.Layers

/-! What a configuration holds after any number of layers, whatever they are. A layer without a problem
comes down to the settings that it gives. Of each value the last settings that have one count, and
patterns add up. -/

namespace TestImpact.Config

/-! ## Layers one after the other -/

/-- What is put on top of a configuration: a file, which need not be there, or the environment. -/
inductive Layer where
  | file (fs : FileSystem) (path : String)
  | environment (lookup : Environment)

def merge (c : Config) : Layer → Layered
  | .file fs path => c.mergeFile fs path
  | .environment lookup => c.mergeEnvironment lookup

/-- Layers put on top of a configuration one after the other, each without a problem. -/
inductive Merges : Config → List Layer → Config → Prop
  | done {c : Config} : Merges c [] c
  | next {c c' last : Config} {layer : Layer} {layers : List Layer} :
      c.merge layer = ⟨c', none⟩ → Merges c' layers last → Merges c (layer :: layers) last

theorem merges_cons_iff {c last : Config} {layer : Layer} {layers : List Layer} :
    Merges c (layer :: layers) last ↔ ∃ c', c.merge layer = ⟨c', none⟩ ∧ Merges c' layers last :=
  ⟨fun | .next merged merges => ⟨_, merged, merges⟩, fun ⟨_, merged, merges⟩ => .next merged merges⟩

theorem merges_nil_iff {c last : Config} : Merges c [] last ↔ c = last :=
  ⟨fun | .done => rfl, fun | rfl => .done⟩

/-! ## The settings of a layer -/

/-- A variable has a say if it has a value that is more than white space. -/
def Environment.Fills (lookup : Environment) (name value : String) : Prop :=
  lookup name = some value ∧ ∃ c ∈ value.toList, Text.isBlank c = false

/-- The environment sets addresses, the base revision and the count of workers, which is a number if
its variable has a say. -/
structure Environment.Sets (lookup : Environment) (s : Settings) : Prop where
  uiBaseUrl (value : String) : s.uiBaseUrl = some value ↔ lookup.Fills "UI_BASE_URL" value
  apiBaseUrl (value : String) : s.apiBaseUrl = some value ↔ lookup.Fills "API_BASE_URL" value
  baseRef (value : String) : s.baseRef = some value ↔ lookup.Fills "CHANGESCOPE_BASE_REF" value
  workers (n : Nat) : s.workers = some n ↔
    ∃ value, lookup.Fills "CHANGESCOPE_WORKERS" value ∧ readWorkers? value = some n
  readable (value : String) : lookup.Fills "CHANGESCOPE_WORKERS" value → readWorkers? value ≠ none
  outputDir : s.outputDir = none
  tierTimeout : s.tierTimeout = none
  exclude : s.exclude = []

/-- The settings that a layer gives. A layer with a problem gives none. -/
inductive Layer.Sets : Layer → Settings → Prop
  | absent {fs : FileSystem} {path : String} : fs.hasEntry path = false → Sets (.file fs path) {}
  | file {fs : FileSystem} {path document : String} {s : Settings} :
      fs.hasEntry path = true → fs.readText path = .ok document → Settings.parse? document = some s →
        Sets (.file fs path) s
  | environment {lookup : Environment} {s : Settings} :
      lookup.Sets s → Sets (.environment lookup) s

section Environment

variable {lookup : Environment} {s : Settings} {c c' : Config}

theorem filled?_eq_some_iff {name value : String} :
    lookup.filled? name = some value ↔ lookup.Fills name value := by
  simp [Environment.filled?, Environment.Fills, Text.isAllBlank, Option.filter_eq_some_iff]

/-- The variables that have a say give one set of settings, if the count of workers is readable. -/
theorem environment_sets_iff :
    lookup.Sets s ↔
      s = { environmentSettings lookup with
        workers := (lookup.filled? workersVariable).bind readWorkers? } ∧
      ∀ value, lookup.filled? workersVariable = some value → readWorkers? value ≠ none := by
  constructor
  · intro sets
    refine ⟨?_, fun value filled => sets.readable value (filled?_eq_some_iff.1 filled)⟩
    have uiBaseUrl : s.uiBaseUrl = lookup.filled? "UI_BASE_URL" :=
      Option.ext fun value => (sets.uiBaseUrl value).trans filled?_eq_some_iff.symm
    have apiBaseUrl : s.apiBaseUrl = lookup.filled? "API_BASE_URL" :=
      Option.ext fun value => (sets.apiBaseUrl value).trans filled?_eq_some_iff.symm
    have baseRef : s.baseRef = lookup.filled? "CHANGESCOPE_BASE_REF" :=
      Option.ext fun value => (sets.baseRef value).trans filled?_eq_some_iff.symm
    have workers : s.workers = (lookup.filled? workersVariable).bind readWorkers? := by
      refine Option.ext fun n => (sets.workers n).trans ?_
      simp only [Option.bind_eq_some_iff, filled?_eq_some_iff, workersVariable]
    cases s
    rw [Settings.mk.injEq]
    exact ⟨sets.outputDir, baseRef, uiBaseUrl, apiBaseUrl, workers, sets.tierTimeout, sets.exclude⟩
  · rintro ⟨rfl, readable⟩
    refine ⟨fun _ => filled?_eq_some_iff, fun _ => filled?_eq_some_iff, fun _ => filled?_eq_some_iff,
      fun n => ?_, fun value fills => readable value (filled?_eq_some_iff.2 fills), rfl, rfl, rfl⟩
    simp only [Option.bind_eq_some_iff, filled?_eq_some_iff, workersVariable]

/-- The count of workers, put on top by itself, could as well be one of the settings. -/
theorem apply_environmentSettings_workers (n : Nat) :
    (c.apply (environmentSettings lookup)).apply { workers := some n } =
      c.apply { environmentSettings lookup with workers := some n } := by
  simp [apply, environmentSettings]

theorem mergeEnvironment_eq_iff :
    c.mergeEnvironment lookup = ⟨c', none⟩ ↔ ∃ s, lookup.Sets s ∧ c' = c.apply s := by
  simp only [environment_sets_iff, mergeEnvironment]
  cases filled : lookup.filled? workersVariable with
  | none =>
    have same : ({ environmentSettings lookup with workers := none } : Settings) =
        environmentSettings lookup := rfl
    simp [same, eq_comm]
  | some value =>
    cases read : readWorkers? value with
    | none => simp [read]
    | some n => simp [read, apply_environmentSettings_workers, eq_comm]

end Environment

theorem mergeFile_eq_iff {fs : FileSystem} {path : String} {c c' : Config} :
    c.mergeFile fs path = ⟨c', none⟩ ↔ ∃ s, (Layer.file fs path).Sets s ∧ c' = c.apply s := by
  constructor
  · intro merged
    rw [mergeFile] at merged
    cases entry : fs.hasEntry path with
    | false =>
      have same : c = c' := by simpa [entry] using merged
      exact ⟨{}, .absent entry, same.symm.trans c.apply_empty.symm⟩
    | true =>
      cases read : fs.readText path with
      | error cause => simp [entry, read] at merged
      | ok document =>
        cases parsed : Settings.parse? document with
        | none => simp [entry, read, parsed] at merged
        | some s =>
          have same : c.apply s = c' := by simpa [entry, read, parsed] using merged
          exact ⟨s, .file entry read parsed, same.symm⟩
  · rintro ⟨s, sets, rfl⟩
    cases sets with
    | absent entry => simp [mergeFile, entry, apply_empty]
    | file entry read parsed => simp [mergeFile, entry, read, parsed]

/-- A layer is put on top without a problem exactly when it gives settings, and these are put on top. -/
theorem merge_eq_iff {c c' : Config} {layer : Layer} :
    c.merge layer = ⟨c', none⟩ ↔ ∃ s, layer.Sets s ∧ c' = c.apply s := by
  cases layer with
  | file fs path => exact mergeFile_eq_iff
  | environment lookup =>
    refine mergeEnvironment_eq_iff.trans (exists_congr fun s => and_congr_left fun _ => ?_)
    exact ⟨.environment, fun | .environment sets => sets⟩

theorem merges_iff {c last : Config} {layers : List Layer} :
    Merges c layers last ↔
      ∃ sets, List.Forall₂ Layer.Sets layers sets ∧ last = sets.foldl apply c := by
  constructor
  · intro merges
    induction merges with
    | done => exact ⟨[], .nil, rfl⟩
    | next merged _ ih =>
      obtain ⟨s, given, rfl⟩ := merge_eq_iff.1 merged
      obtain ⟨sets, all_given, rfl⟩ := ih
      exact ⟨s :: sets, .cons given all_given, rfl⟩
  · rintro ⟨sets, given, rfl⟩
    induction given generalizing c with
    | nil => exact .done
    | cons first _ ih => exact .next (merge_eq_iff.2 ⟨_, first, rfl⟩) ih

/-! ## The last settings count -/

/-- The value in the last settings that have one. -/
def lastOf {α : Type} (field : Settings → Option α) (sets : List Settings) : Option α :=
  (sets.filterMap field).getLast?

theorem lastOf_concat {α : Type} (field : Settings → Option α) (sets : List Settings) (s : Settings) :
    lastOf field (sets ++ [s]) = (field s <|> lastOf field sets) := by
  cases value : field s <;> simp [lastOf, value]

/-- A configuration at a place, with a count of workers as its default, after settings were put on top
one after the other. -/
structure LastCounts (place : String) (count : Nat) (sets : List Settings) (c : Config) : Prop where
  root : c.root = place
  outputDir : c.outputDir = Path.join place ((lastOf Settings.outputDir sets).getD ".changescope")
  baseRef : c.baseRef = lastOf Settings.baseRef sets
  uiBaseUrl : c.uiBaseUrl = lastOf Settings.uiBaseUrl sets
  apiBaseUrl : c.apiBaseUrl = lastOf Settings.apiBaseUrl sets
  workers : c.workers = ((lastOf Settings.workers sets).map (max 1)).getD count
  some_worker : 1 ≤ c.workers
  tierTimeout : c.tierTimeout = lastOf Settings.tierTimeout sets
  exclude : c.exclude = sets.flatMap Settings.exclude

section LastCounts

variable {place : String} {count : Nat} {sets : List Settings} {c c' : Config}

/-- One more layer on top: its values are the last ones. -/
theorem LastCounts.apply (counts : LastCounts place count sets c) (s : Settings) :
    LastCounts place count (sets ++ [s]) (c.apply s) where
  root := counts.root
  outputDir := by
    rw [lastOf_concat]
    cases value : s.outputDir <;> simp [Config.apply, value, counts.root, counts.outputDir]
  baseRef := by simp [Config.apply, lastOf_concat, counts.baseRef]
  uiBaseUrl := by simp [Config.apply, lastOf_concat, counts.uiBaseUrl]
  apiBaseUrl := by simp [Config.apply, lastOf_concat, counts.apiBaseUrl]
  workers := by
    rw [lastOf_concat]
    cases value : s.workers <;> simp [Config.apply, value, counts.workers]
  some_worker := by
    cases value : s.workers with
    | none => simpa [Config.apply, value] using counts.some_worker
    | some n =>
      show 1 ≤ (s.workers.map (max 1)).getD c.workers
      rw [value]
      exact Nat.le_max_left 1 n
  tierTimeout := by simp [Config.apply, lastOf_concat, counts.tierTimeout]
  exclude := by simp [Config.apply, counts.exclude]

theorem lastCounts_foldl (some_worker : 1 ≤ count) (sets : List Settings) :
    LastCounts place count sets (sets.foldl Config.apply (withRoot place count)) := by
  induction sets using List.reverseRecOn with
  | nil => exact ⟨rfl, rfl, rfl, rfl, rfl, rfl, some_worker, rfl, rfl⟩
  | append_singleton sets s ih =>
    rw [List.foldl_append]
    exact ih.apply s

/-- Nothing of the configuration is left open. -/
theorem LastCounts.unique (counts : LastCounts place count sets c)
    (counts' : LastCounts place count sets c') : c = c' := by
  obtain ⟨root, outputDir, baseRef, uiBaseUrl, apiBaseUrl, workers, -, tierTimeout, exclude⟩ := counts
  obtain ⟨root', outputDir', baseRef', uiBaseUrl', apiBaseUrl', workers', -, tierTimeout', exclude'⟩ := counts'
  cases c
  cases c'
  simp_all

end LastCounts

/-- **In a configuration the last layer counts.** Layers on top of the defaults, none of which has a
problem, give the configuration with the last value that any of them sets, or else the default. There
is always a worker, the root stays, and patterns add up in their order. -/
theorem merges_withRoot_iff {root : String} {workers : Nat} (some_worker : 1 ≤ workers)
    {layers : List Layer} {c : Config} :
    Merges (withRoot root workers) layers c ↔
      ∃ sets, List.Forall₂ Layer.Sets layers sets ∧ LastCounts root workers sets c := by
  rw [merges_iff]
  refine exists_congr fun sets => and_congr_right fun _ => ?_
  have folded : LastCounts root workers sets _ := lastCounts_foldl some_worker sets
  constructor
  · rintro rfl
    exact folded
  · intro counts
    exact counts.unique folded

/-- A project whose file asks for no workers. -/
def idleProject : FileSystem :=
  ⟨.directory [(projectFile, .file (Text.encode "workers = 0\nbase_ref = \"v1\"\n"))], []⟩

def blankRevision : Environment
  | "CHANGESCOPE_BASE_REF" => some " "
  | "UI_BASE_URL" => some "http://page"
  | _ => none

theorem merges_withRoot_iff_idleProject :
    1 ≤ 4 ∧ ∃ c, Merges (withRoot "." 4)
        [.file idleProject "absent.toml", .file idleProject projectFile, .environment blankRevision] c ∧
      c.workers = 1 ∧ c.baseRef = some "v1" ∧ c.uiBaseUrl = some "http://page" ∧
      c.outputDir = "./.changescope" := by
  refine ⟨by decide, _, (merges_withRoot_iff (by decide)).2
    ⟨[{}, { workers := some 0, baseRef := some "v1" }, { uiBaseUrl := some "http://page" }], ?_,
      lastCounts_foldl (by decide) _⟩, rfl, rfl, rfl, by decide +kernel⟩
  refine .cons (.absent (by decide +kernel)) (.cons ?_ (.cons (.environment ?_) .nil))
  · have text : idleProject.readText projectFile = .ok "workers = 0\nbase_ref = \"v1\"\n" := by
      decide +kernel
    exact .file (by decide +kernel) text (by decide +kernel)
  · refine environment_sets_iff.2 ⟨by decide +kernel, fun value filled => ?_⟩
    nomatch filled

/-! ## The layers of a run -/

/-- The user's file, where there is a place for it, the project's file, and the environment. -/
def layersOf (fs : FileSystem) (lookup : Environment) (root : String) : List Layer :=
  ((userFile? lookup).map (Layer.file fs)).toList ++
    [.file fs (Path.join root projectFile), .environment lookup]

/-- The configuration after a layer, or the problem that ends the run. -/
def checked (l : Layered) : Except ConfigError Config :=
  match l.problem with
  | some problem => .error problem
  | none => .ok l.config

theorem checked_eq_ok_iff {l : Layered} {c : Config} : checked l = .ok c ↔ l = ⟨c, none⟩ := by
  obtain ⟨config, problem⟩ := l
  cases problem <;> simp [checked]

theorem checked_bind_eq_ok_iff {l : Layered} {c : Config} {rest : Config → Except ConfigError Config} :
    (checked l >>= rest) = .ok c ↔ ∃ c', l = ⟨c', none⟩ ∧ rest c' = .ok c := by
  obtain ⟨config, problem⟩ := l
  cases problem <;> simp [checked, bind, Except.bind]

theorem root_of_merge {c c' : Config} (layer : Layer) (merged : c.merge layer = ⟨c', none⟩) :
    c'.root = c.root := by
  obtain ⟨s, -, rfl⟩ := merge_eq_iff.1 merged
  exact apply_root c s

/-- A run has a configuration if none of its layers has a problem. -/
theorem load_eq_ok_iff {fs : FileSystem} {lookup : Environment} {root : String} {workers : Nat}
    {c : Config} :
    load fs lookup root workers = .ok c ↔
      Merges (withRoot root workers) (layersOf fs lookup root) c := by
  -- The project's file is looked for at the root, which the user's file does not change.
  have last_two (base : Config) (same : base.root = root) :
      (checked (base.mergeFile fs (Path.join base.root projectFile)) >>= fun c =>
        checked (c.mergeEnvironment lookup)) = .ok c ↔
        Merges base [.file fs (Path.join root projectFile), .environment lookup] c := by
    simp [checked_bind_eq_ok_iff, checked_eq_ok_iff, merges_cons_iff, merges_nil_iff, same, merge]
  cases found : userFile? lookup with
  | none =>
    rw [layersOf, load, found]
    exact last_two (withRoot root workers) rfl
  | some path =>
    rw [layersOf, load, found]
    refine checked_bind_eq_ok_iff.trans (Iff.trans ?_ merges_cons_iff.symm)
    refine exists_congr fun c' => and_congr_right fun merged => last_two c' ?_
    exact root_of_merge (.file fs path) merged

end TestImpact.Config
