import GreenticConformance.Env
import GreenticConformance.PackSuite.Verify
import GreenticConformance.RunnerSuite

/-!
# The pack and runner suite

`suites/pack_runner.rs`: verify the exports of a pack, look at its signature and run
a runner on it. Whether the pack must be signed is written down twice: in the
configuration, and in the options of the verification that it holds.

## Main definitions

- `PackRunnerSuiteConfig` — the configuration and its builder
- `runSuite` — the suite

## Main results

- `runSuite_eq_ok` — what a pack has passed, check by check
-/

namespace GreenticConformance.PackRunner

open Assertions Checks Env Host PackSuite RunnerSuite

/-! ## Configuration -/

structure RunnerHarnessConfig where
  binary : Path
  options : RunnerOptions

namespace RunnerHarnessConfig

def new (binary : Path) : RunnerHarnessConfig where
  binary := binary
  options := .default

def withOptions (config : RunnerHarnessConfig) (options : RunnerOptions) : RunnerHarnessConfig :=
  { config with options := options }

end RunnerHarnessConfig

structure PackRunnerSuiteConfig where
  componentPath : Path
  manifestOverride : Option Path
  requireSignature : Bool
  packOptions : PackSuiteOptions
  runner : Option RunnerHarnessConfig

namespace PackRunnerSuiteConfig

variable (config : PackRunnerSuiteConfig)

def new (componentPath : Path) : PackRunnerSuiteConfig where
  componentPath := componentPath
  manifestOverride := none
  requireSignature := true
  packOptions := .default
  runner := none

def withManifestOverride (manifest : Path) : PackRunnerSuiteConfig :=
  { config with manifestOverride := some manifest }

def withPackOptions (options : PackSuiteOptions) : PackRunnerSuiteConfig :=
  { config with packOptions := options }

/-- Both copies of the requirement are dropped. -/
def allowUnsigned : PackRunnerSuiteConfig :=
  { config with
    requireSignature := false
    packOptions := { config.packOptions with requireSignature := false } }

def withRunner (runner : RunnerHarnessConfig) : PackRunnerSuiteConfig :=
  { config with runner := some runner }

def withRunnerBinary (binary : Path) : PackRunnerSuiteConfig := config.withRunner (.new binary)

/-- `from_env`. -/
def fromEnv (world : World) : Except Error PackRunnerSuiteConfig := do
  let componentPath ← requiredEnv world "GREENTIC_PACK_PATH"
  let filled (name : String) : Option Path :=
    ((world.envVar name).filter fun value => !isBlank value).map .ofString
  let config := new (.ofString componentPath)
  let config := (filled "GREENTIC_PACK_MANIFEST").elim config config.withManifestOverride
  let config := (filled "GREENTIC_RUNNER_BIN").elim config config.withRunnerBinary
  return if boolFlag world "ALLOW_UNSIGNED" then config.allowUnsigned else config

/-- The options of the verification, with the manifest of the configuration. -/
def options : PackSuiteOptions :=
  config.manifestOverride.elim config.packOptions config.packOptions.withManifestOverride

end PackRunnerSuiteConfig

/-! ## The suite -/

structure PackRunnerSuiteReport where
  tenant : TenantContext
  componentPath : Path
  packReport : PackReport
  runnerReport : Option RunnerReport

section Suite

variable (world : World) (parsers : Parsers PackManifest) (processes : Processes) (json : SerdeJson)
  (config : PackRunnerSuiteConfig)

/-- The verification of the pack. -/
def verifyPack : Except Error PackReport :=
  withContext (config.options.verifyPackExports world parsers config.componentPath)
    s!"failed to verify pack exports for '{config.componentPath.display}'"

/-- The smoke test, when a runner is configured. -/
def runRunner (componentPath : Path) (runner : Option RunnerHarnessConfig) :
    Except Error (Option RunnerReport) :=
  match runner with
  | some runner => do
    let binary := runner.binary.display
    failIf (world.pathExists runner.binary = false)
      (anyhow s!"runner binary '{binary}' does not exist")
    let report ← withContext
      (runner.options.smokeRunWithMocks world processes json runner.binary componentPath)
      (s!"runner smoke test failed using '{binary}' " ++ s!"and pack '{componentPath.display}'")
    return some report
  | none => .ok none

/-- `run_suite`. Warnings of the verification are only logged. -/
def runSuite : Except Error PackRunnerSuiteReport := do
  let tenant ← TenantContext.detect world
  failIf (world.pathExists config.componentPath = false)
    (anyhow s!"component path '{config.componentPath.display}' does not exist")
  let packReport ← verifyPack world parsers config
  checkIf config.requireSignature (assertSignedPack packReport.manifest.toJson)
  let runnerReport ← runRunner world processes json config.componentPath config.runner
  return {
    tenant := tenant
    componentPath := config.componentPath
    packReport := packReport
    runnerReport := runnerReport }

end Suite

/-! ## What a pack has passed -/

section Passed

variable {world : World} {parsers : Parsers PackManifest} {processes : Processes} {json : SerdeJson}
  {config : PackRunnerSuiteConfig} {report : PackRunnerSuiteReport}

/-- The pack passes every check of the suite. -/
structure Passed (world : World) (parsers : Parsers PackManifest) (processes : Processes)
    (json : SerdeJson) (config : PackRunnerSuiteConfig) (report : PackRunnerSuiteReport) :
    Prop where
  tenant : TenantContext.detect world = .ok report.tenant
  componentExists : world.pathExists config.componentPath = true
  componentPath : report.componentPath = config.componentPath
  verified : config.options.verifyPackExports world parsers config.componentPath =
    .ok report.packReport
  signed : config.requireSignature = true →
    assertSignedPack report.packReport.manifest.toJson = .ok ()
  ran : runRunner world processes json config.componentPath config.runner = .ok report.runnerReport

/-- **Passed packs**: the suite returns the report of a pack that passes its checks. -/
theorem runSuite_eq_ok :
    runSuite world parsers processes json config = .ok report ↔
      Passed world parsers processes json config report := by
  simp only [runSuite, verifyPack, bind_eq_ok, exists_unit, failIf_eq_ok, withContext_eq_ok,
    checkIf_eq_ok, pure_eq_ok, Bool.not_eq_false]
  constructor
  · intro h
    obtain ⟨tenant, htenant, hexists, packReport, hverify, hsigned, runnerReport, hran, rfl⟩ := h
    exact ⟨htenant, hexists, rfl, hverify, hsigned, hran⟩
  · intro h
    obtain ⟨htenant, hexists, hpath, hverify, hsigned, hran⟩ := h
    refine ⟨report.tenant, htenant, hexists, report.packReport, hverify, hsigned,
      report.runnerReport, hran, ?_⟩
    rw [← hpath]

/-- The manifest that the suite looks at: what the file it finds holds. -/
def ReadsManifest (world : World) (parsers : Parsers PackManifest) (config : PackRunnerSuiteConfig)
    (manifest : PackManifest) : Prop :=
  ∃ path data, resolvePackManifest world config.componentPath config.options = .ok path ∧
    world.readToString path = .ok data ∧ parseManifest parsers path data = .ok manifest

theorem ReadsManifest.unique {manifest manifest' : PackManifest}
    (h : ReadsManifest world parsers config manifest)
    (h' : ReadsManifest world parsers config manifest') : manifest = manifest' := by
  obtain ⟨path, data, hresolve, hread, hparse⟩ := h
  obtain ⟨path', data', hresolve', hread', hparse'⟩ := h'
  rw [hresolve] at hresolve'
  cases hresolve'
  rw [hread] at hread'
  cases hread'
  rw [hparse] at hparse'
  exact Except.ok.inj hparse'

/-- The manifest of a report is the one that the suite has read. -/
theorem Passed.readsManifest (h : Passed world parsers processes json config report) :
    ReadsManifest world parsers config report.packReport.manifest := by
  obtain ⟨on, hon⟩ := exists_withFlags config.options
  have hverified := h.verified
  rw [← hon, verifyPackExports_eq_ok] at hverified
  obtain ⟨data, hread, hparse⟩ := hverified.1.read
  have hresolved := hverified.1.resolved
  exact ⟨report.packReport.manifestPath, data, hresolved, hread, hparse⟩

end Passed

namespace Sample

/-- A manifest that exports a flow, without a signature. -/
def exporting : PackManifest :=
  { PackSuite.Sample.manifest with flows := [⟨"main", none, none, none⟩] }

/-- Every file holds the same manifest. -/
def parsersOf (manifest : PackManifest) : Parsers PackManifest where
  yaml _ := .ok manifest
  json _ := .ok manifest

def processes : Processes where
  spawn _ _ := .error "no such program"

def json : SerdeJson where
  fromStr _ := .error "unexpected text"
  stringsFromStr _ := .error "unexpected text"
  toString _ := ""
  toStringPretty _ := .ok ""

end Sample

end GreenticConformance.PackRunner
