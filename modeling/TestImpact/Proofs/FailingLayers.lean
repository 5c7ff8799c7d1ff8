import TestImpact.Proofs.ConfigLayers

/-! What a layer with a problem leaves behind. A file is read as a whole before any of it is put on
top, so a problem changes nothing. The environment has a problem where its count of workers is no
number; this is found last, when the addresses and the base revision are in force already. -/

namespace TestImpact.Config

/-! ## Problems -/

/-- What is wrong with a layer: a file that is there cannot be read or is no document of settings, or
a count of workers is no number. -/
inductive Layer.Fails : Layer → ConfigError → Prop
  | unreadable {fs : FileSystem} {path : String} {cause : FileError} :
      fs.hasEntry path = true → fs.readText path = .error cause →
        Fails (.file fs path) (.unreadable path cause)
  | malformed {fs : FileSystem} {path document : String} :
      fs.hasEntry path = true → fs.readText path = .ok document → Settings.parse? document = none →
        Fails (.file fs path) (.malformed path)
  | invalidCount {lookup : Environment} {value : String} :
      lookup.Fills "CHANGESCOPE_WORKERS" value → readWorkers? value = none →
        Fails (.environment lookup) (.invalidValue "CHANGESCOPE_WORKERS" value)

section

variable {c c' : Config} {problem : ConfigError}

theorem mergeFile_eq_problem_iff {fs : FileSystem} {path : String} :
    c.mergeFile fs path = ⟨c', some problem⟩ ↔ (Layer.file fs path).Fails problem ∧ c' = c := by
  constructor
  · intro merged
    rw [mergeFile] at merged
    cases entry : fs.hasEntry path with
    | false => simp [entry] at merged
    | true =>
      cases read : fs.readText path with
      | error cause =>
        obtain ⟨same, rfl⟩ : c = c' ∧ .unreadable path cause = problem := by
          simpa [entry, read] using merged
        exact ⟨.unreadable entry read, same.symm⟩
      | ok document =>
        cases parsed : Settings.parse? document with
        | none =>
          obtain ⟨same, rfl⟩ : c = c' ∧ .malformed path = problem := by
            simpa [entry, read, parsed] using merged
          exact ⟨.malformed entry read parsed, same.symm⟩
        | some s => simp [entry, read, parsed] at merged
  · rintro ⟨fails, rfl⟩
    cases fails with
    | unreadable entry read => simp [mergeFile, entry, read]
    | malformed entry read parsed => simp [mergeFile, entry, read, parsed]

/-- Of an environment with a problem the other variables stay in force. -/
theorem mergeEnvironment_eq_problem_iff {lookup : Environment} :
    c.mergeEnvironment lookup = ⟨c', some problem⟩ ↔
      (Layer.environment lookup).Fails problem ∧ c' = c.apply (environmentSettings lookup) := by
  constructor
  · intro merged
    rw [mergeEnvironment] at merged
    cases filled : lookup.filled? workersVariable with
    | none => simp [filled] at merged
    | some value =>
      cases read : readWorkers? value with
      | some n => simp [filled, read] at merged
      | none =>
        obtain ⟨same, rfl⟩ : c.apply (environmentSettings lookup) = c' ∧
            .invalidValue workersVariable value = problem := by
          simpa [filled, read] using merged
        exact ⟨.invalidCount (filled?_eq_some_iff.1 filled) read, same.symm⟩
  · rintro ⟨fails, rfl⟩
    cases fails with
    | invalidCount fills read =>
      have filled := filled?_eq_some_iff.2 fills
      simp [mergeEnvironment, workersVariable, filled, read]

end

/-! ## What stays in force -/

/-- The environment says nothing of addresses and the base revision that a configuration does not
hold already. -/
structure Environment.AgreesWith (lookup : Environment) (c : Config) : Prop where
  uiBaseUrl (value : String) : lookup.Fills "UI_BASE_URL" value → c.uiBaseUrl = some value
  apiBaseUrl (value : String) : lookup.Fills "API_BASE_URL" value → c.apiBaseUrl = some value
  baseRef (value : String) : lookup.Fills "CHANGESCOPE_BASE_REF" value → c.baseRef = some value

/-- The environment with a variable unset. -/
def Environment.without (lookup : Environment) (name : String) : Environment :=
  fun other => if other = name then none else lookup other

section

variable {c : Config} {lookup : Environment}

/-- A value on top changes nothing if it is the one that is there. -/
theorem orElse_eq_right_iff {α : Type} {new old : Option α} :
    (new <|> old) = old ↔ ∀ value, new = some value → old = some value := by
  cases new <;> simp [eq_comm]

theorem apply_environmentSettings :
    c.apply (environmentSettings lookup) =
      { c with
        baseRef := lookup.filled? "CHANGESCOPE_BASE_REF" <|> c.baseRef
        uiBaseUrl := lookup.filled? "UI_BASE_URL" <|> c.uiBaseUrl
        apiBaseUrl := lookup.filled? "API_BASE_URL" <|> c.apiBaseUrl } := by
  simp [apply, environmentSettings]

theorem apply_environmentSettings_eq_self_iff :
    c.apply (environmentSettings lookup) = c ↔ lookup.AgreesWith c := by
  have fields : c.apply (environmentSettings lookup) = c ↔
      (lookup.filled? "CHANGESCOPE_BASE_REF" <|> c.baseRef) = c.baseRef ∧
      (lookup.filled? "UI_BASE_URL" <|> c.uiBaseUrl) = c.uiBaseUrl ∧
      (lookup.filled? "API_BASE_URL" <|> c.apiBaseUrl) = c.apiBaseUrl := by
    rw [apply_environmentSettings]
    cases c
    simp
  simp only [fields, orElse_eq_right_iff, filled?_eq_some_iff]
  exact ⟨fun ⟨baseRef, uiBaseUrl, apiBaseUrl⟩ => ⟨uiBaseUrl, apiBaseUrl, baseRef⟩,
    fun agrees => ⟨agrees.baseRef, agrees.uiBaseUrl, agrees.apiBaseUrl⟩⟩

/-- Without a count of workers the environment has no problem. -/
theorem mergeEnvironment_without_workers :
    c.mergeEnvironment (lookup.without workersVariable) =
      ⟨c.apply (environmentSettings lookup), none⟩ := by
  have unset : (lookup.without workersVariable).filled? workersVariable = none := by
    simp [Environment.filled?, Environment.without]
  have others : environmentSettings (lookup.without workersVariable) = environmentSettings lookup := by
    simp [environmentSettings, Environment.filled?, Environment.without, workersVariable]
  rw [mergeEnvironment, unset, others]

end

/-- **A file with a problem leaves the configuration as it was, and the environment only where it agrees
with it.** An environment with a problem has the effect that it has without its count of workers, which
is on the addresses and the base revision. -/
theorem failing_layer_keeps_iff {c c' : Config} {layer : Layer} {problem : ConfigError}
    (failing : c.merge layer = ⟨c', some problem⟩) :
    layer.Fails problem ∧
      (∀ fs path, layer = .file fs path → c' = c) ∧
      ∀ lookup, layer = .environment lookup →
        (c' = c ↔ lookup.AgreesWith c) ∧
        c.mergeEnvironment (lookup.without "CHANGESCOPE_WORKERS") = ⟨c', none⟩ ∧
        c' = { c with
          baseRef := c'.baseRef, uiBaseUrl := c'.uiBaseUrl, apiBaseUrl := c'.apiBaseUrl } := by
  cases layer with
  | file fs path =>
    obtain ⟨fails, same⟩ := mergeFile_eq_problem_iff.1 failing
    exact ⟨fails, fun _ _ _ => same, nofun⟩
  | environment lookup =>
    obtain ⟨fails, rfl⟩ := mergeEnvironment_eq_problem_iff.1 failing
    refine ⟨fails, nofun, fun _ here => ?_⟩
    cases here
    refine ⟨apply_environmentSettings_eq_self_iff, mergeEnvironment_without_workers, ?_⟩
    rw [apply_environmentSettings]

/-- A count of workers that is no number, beside the address of the pages. -/
def manyWorkers : Environment
  | "UI_BASE_URL" => some "http://page"
  | "CHANGESCOPE_WORKERS" => some "many"
  | _ => none

/-- A project whose file has a setting that there is not. -/
def colouredProject : FileSystem :=
  ⟨.directory [(projectFile, .file (Text.encode "workers = 2\ncolour = \"blue\"\n"))], []⟩

/-- A file with an unknown setting changes nothing, nor does a refused environment that tells the address
which the configuration holds. -/
theorem failing_layer_keeps_iff_manyWorkers :
    let c := { withRoot "." 4 with uiBaseUrl := some "http://page" }
    (∃ c', c.merge (.file colouredProject projectFile) =
        ⟨c', some (.malformed projectFile)⟩ ∧ c' = c) ∧
      c.merge (.environment manyWorkers) =
        ⟨c, some (.invalidValue "CHANGESCOPE_WORKERS" "many")⟩ ∧
      manyWorkers.AgreesWith c := by
  intro c
  have refused : c.merge (.environment manyWorkers) =
      ⟨c, some (.invalidValue "CHANGESCOPE_WORKERS" "many")⟩ := by rfl
  have text : colouredProject.readText projectFile = .ok "workers = 2\ncolour = \"blue\"\n" := by
    decide +kernel
  have coloured : c.merge (.file colouredProject projectFile) = ⟨c, some (.malformed projectFile)⟩ :=
    mergeFile_eq_problem_iff.2 ⟨.malformed (by decide +kernel) text (by decide +kernel), rfl⟩
  obtain ⟨-, kept, -⟩ := failing_layer_keeps_iff coloured
  obtain ⟨-, -, environment⟩ := failing_layer_keeps_iff refused
  exact ⟨⟨c, coloured, kept colouredProject projectFile rfl⟩, refused,
    (environment manyWorkers rfl).1.1 rfl⟩

/-- The address of the pages is in force although the environment is refused. -/
theorem refused_environment_in_force :
    let c := withRoot "/repo" 4
    ∃ c', c.merge (.environment manyWorkers) =
        ⟨c', some (.invalidValue "CHANGESCOPE_WORKERS" "many")⟩ ∧
      c.uiBaseUrl = none ∧ c'.uiBaseUrl = some "http://page" ∧ c' ≠ c := by
  refine ⟨_, rfl, rfl, rfl, fun same => ?_⟩
  have address := congrArg Config.uiBaseUrl same
  cases address

end TestImpact.Config
