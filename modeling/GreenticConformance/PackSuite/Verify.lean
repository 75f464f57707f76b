import GreenticConformance.Checks.Flags
import GreenticConformance.PackSuite.Manifest

/-!
# Pack verification

`verify_pack_exports`: find the manifest of a component, read it, validate it and
compare it with what the runtime adapter lists. Five flags of the options make it
stricter.

## Main definitions

- `PackSuiteOptions.verifyPackExports` — the entry point
- `Flag`, `PackSuiteOptions.withFlags` — the five strictness flags

## Main results

- `flags_independent` — the flags are independent, and no flag changes a report
-/

namespace GreenticConformance.PackSuite

open Checks Host

/-! ## Options -/

/-- `PackRuntimeAdapter`, for an adapter that is a function. -/
abbrev PackRuntimeAdapter := Path → Except Error (List String)

structure PackSuiteOptions where
  manifestOverride : Option Path
  requireFlows : Bool
  runtimeAdapter : Option PackRuntimeAdapter
  requireRuntimeMatch : Bool
  requireSignature : Bool
  requireArtifactsExist : Bool
  requireSupplyChain : Bool

namespace PackSuiteOptions

def default : PackSuiteOptions where
  manifestOverride := none
  requireFlows := true
  runtimeAdapter := none
  requireRuntimeMatch := true
  requireSignature := true
  requireArtifactsExist := false
  requireSupplyChain := false

def withRuntimeAdapter (o : PackSuiteOptions) (adapter : PackRuntimeAdapter) : PackSuiteOptions :=
  { o with runtimeAdapter := some adapter }

def withManifestOverride (o : PackSuiteOptions) (manifest : Path) : PackSuiteOptions :=
  { o with manifestOverride := some manifest }

def allowRuntimeMismatch (o : PackSuiteOptions) : PackSuiteOptions :=
  { o with requireRuntimeMatch := false }

def allowUnsigned (o : PackSuiteOptions) : PackSuiteOptions :=
  { o with requireSignature := false }

def requireArtifacts (o : PackSuiteOptions) : PackSuiteOptions :=
  { o with requireArtifactsExist := true }

/-- The builder method `require_supply_chain`, which has the name of its field. -/
def withRequireSupplyChain (o : PackSuiteOptions) : PackSuiteOptions :=
  { o with requireSupplyChain := true }

end PackSuiteOptions

@[ext]
structure PackReport where
  manifestPath : Path
  manifest : PackManifest
  schemaVersion : PackSchemaVersion
  runtimeFlows : Option (List String)
  warnings : List String

/-! ## Finding the manifest -/

section Verify

variable (world : World)

/-- The file names that `resolve_pack_manifest` looks for in a directory. -/
def manifestNames : List String :=
  ["pack.manifest.json", "pack.manifest.yaml", "pack.manifest.yml", "pack.json", "pack.yaml",
    "pack.yml"]

/-- The manifest of a file: the file itself, or its neighbour with the extension
of a manifest. -/
def manifestOfFile (componentPath : Path) : Option Path :=
  if componentPath.hasExtension ["json", "yaml", "yml"] then
    some componentPath
  else
    (["json", "yaml", "yml"].map componentPath.withExtension).find? world.pathExists

def resolvePackManifest (componentPath : Path) (options : PackSuiteOptions) : Except Error Path :=
  match options.manifestOverride with
  | some overridePath =>
    if world.pathExists overridePath then
      .ok overridePath
    else
      .error (anyhow s!"provided manifest override '{overridePath.display}' does not exist")
  | none =>
    -- unlike an override, a path from the environment may be missing
    let envPath := (world.envVar "GREENTIC_PACK_MANIFEST").map Path.ofString
    let besideFile :=
      if world.isFile componentPath then manifestOfFile world componentPath else none
    let lookupDir :=
      if world.isFile componentPath then
        componentPath.parent.getD (.ofString ".")
      else
        componentPath
    let inDir := (manifestNames.map fun name => lookupDir.join (.ofString name)).find?
      world.pathExists
    match (envPath.filter world.pathExists).or (besideFile.or inDir) with
    | some found => .ok found
    | none => .error (anyhow <| s!"unable to locate a manifest for '{componentPath.display}' –" ++
        "expected one of pack.manifest.(json|yaml) near the component")

/-- `validate_pack_layout`. -/
def validatePackLayout (componentPath : Path) : Except Error Unit :=
  ["flows", "components", "assets", "schemas", "docs"].forM fun dir =>
    let path := componentPath.join (.ofString dir)
    failIf (world.pathExists path ∧ ¬ world.isDir path)
      (anyhow s!"expected '{dir}' to be a directory when present (found file {path.display})")

/-! ## Verification -/

/-- `ensure_runtime_matches_manifest`. -/
def ensureRuntimeMatchesManifest (manifest : PackManifest) (runtimeFlows : List String) :
    Except Error Unit :=
  let manifestSet := (manifest.flows.map PackExport.id).toFinset
  let runtimeSet := runtimeFlows.toFinset
  let missingFromRuntime := manifestSet \ runtimeSet
  let missingFromManifest := runtimeSet \ manifestSet
  failIf (missingFromRuntime ≠ ∅ ∨ missingFromManifest ≠ ∅)
    (anyhow <| "runtime exports do not align with manifest\nmissing in runtime: " ++
      debugStrings (world.hashOrder missingFromRuntime) ++ "\nmissing in manifest: " ++
      debugStrings (world.hashOrder missingFromManifest))

variable (parsers : Parsers PackManifest)

/-- The manifest in the text `data`, by the extension of its file. -/
def parseManifest (manifestPath : Path) (data : String) : Except Error PackManifest :=
  if manifestPath.hasExtension ["yaml", "yml"] then
    withContextOf (parsers.yaml data) s!"manifest {manifestPath.display} is not valid YAML"
  else
    withContextOf (parsers.json data) s!"manifest {manifestPath.display} is not valid JSON"

/-- The runtime's view of the pack, when an adapter is configured. -/
def interrogate (o : PackSuiteOptions) (componentPath : Path) (manifest : PackManifest) :
    Except Error (Option (List String)) :=
  match o.runtimeAdapter with
  | some adapter => do
    let flows ← withContext (adapter componentPath)
      s!"runtime interrogation failed for {componentPath.display}"
    -- without the flag the adapter is still asked, and its answer reported
    checkIf o.requireRuntimeMatch (ensureRuntimeMatchesManifest world manifest flows)
    return some flows
  | none => .ok none

def PackSuiteOptions.verifyPackExports (o : PackSuiteOptions) (componentPath : Path) :
    Except Error PackReport := do
  failIf (world.pathExists componentPath = false)
    (anyhow s!"component path '{componentPath.display}' does not exist")
  validatePackLayout world componentPath
  let manifestPath ← resolvePackManifest world componentPath o
  let manifestData ← withContextOf (world.readToString manifestPath)
    s!"failed to read manifest {manifestPath.display}"
  let manifest ← parseManifest parsers manifestPath manifestData
  let schemaVersion ← withContext (detectPackSchemaVersion manifest)
    s!"manifest {manifestPath.display}"
  let manifestDir := manifestPath.parent.getD (.ofString ".")
  let warnings ← withContext
    (validateManifest world manifest manifestDir o.requireFlows o.requireSignature
      o.requireArtifactsExist o.requireSupplyChain)
    s!"manifest {manifestPath.display}"
  let runtimeFlows ← interrogate world o componentPath manifest
  return {
    manifestPath := manifestPath
    manifest := manifest
    schemaVersion := schemaVersion
    runtimeFlows := runtimeFlows
    warnings := warnings }

end Verify

/-! ## The flags -/

/-- The five flags that make verification stricter. -/
inductive Flag where
  | requireFlows
  | requireSignature
  | requireArtifactsExist
  | requireSupplyChain
  | requireRuntimeMatch
  deriving DecidableEq

/-- The options with exactly the flags in `on` set. -/
def PackSuiteOptions.withFlags (o : PackSuiteOptions) (on : Finset Flag) : PackSuiteOptions where
  manifestOverride := o.manifestOverride
  requireFlows := .requireFlows ∈ on
  runtimeAdapter := o.runtimeAdapter
  requireRuntimeMatch := .requireRuntimeMatch ∈ on
  requireSignature := .requireSignature ∈ on
  requireArtifactsExist := .requireArtifactsExist ∈ on
  requireSupplyChain := .requireSupplyChain ∈ on

/-- Every setting of the options is one of its flags. -/
theorem exists_withFlags (o : PackSuiteOptions) : ∃ on : Finset Flag, o.withFlags on = o := by
  let on : Finset Flag :=
    (if o.requireFlows then {.requireFlows} else ∅) ∪
      (if o.requireSignature then {.requireSignature} else ∅) ∪
      (if o.requireArtifactsExist then {.requireArtifactsExist} else ∅) ∪
      (if o.requireSupplyChain then {.requireSupplyChain} else ∅) ∪
      (if o.requireRuntimeMatch then {.requireRuntimeMatch} else ∅)
  refine ⟨on, ?_⟩
  obtain ⟨_, flows, _, match_, signature, artifacts, supply⟩ := o
  cases flows <;> cases match_ <;> cases signature <;> cases artifacts <;> cases supply <;> rfl

section Flags

variable {world : World} {parsers : Parsers PackManifest} {o : PackSuiteOptions}
  {componentPath : Path} {on on' : Finset Flag} {report : PackReport}

theorem resolvePackManifest_withFlags :
    resolvePackManifest world componentPath (o.withFlags on) =
      resolvePackManifest world componentPath o :=
  rfl

/-- The runtime lists what the manifest exports. -/
def RuntimeMatches (manifest : PackManifest) (runtimeFlows : List String) : Prop :=
  (manifest.flows.map PackExport.id).toFinset = runtimeFlows.toFinset

theorem ensureRuntimeMatchesManifest_eq_ok {manifest : PackManifest} {runtimeFlows : List String} :
    ensureRuntimeMatchesManifest world manifest runtimeFlows = .ok () ↔
      RuntimeMatches manifest runtimeFlows := by
  simp only [ensureRuntimeMatchesManifest, failIf_eq_ok, ne_eq, not_or, not_not,
    Finset.sdiff_eq_empty_iff_subset, RuntimeMatches]
  exact Finset.Subset.antisymm_iff.symm

/-- What the adapter lists, when there is one. -/
def Listed (o : PackSuiteOptions) (componentPath : Path) (runtimeFlows : Option (List String)) :
    Prop :=
  match o.runtimeAdapter with
  | some adapter => ∃ flows, adapter componentPath = .ok flows ∧ some flows = runtimeFlows
  | none => none = runtimeFlows

theorem interrogate_eq_ok {manifest : PackManifest} {runtimeFlows : Option (List String)} :
    interrogate world o componentPath manifest = .ok runtimeFlows ↔
      Listed o componentPath runtimeFlows ∧ (o.requireRuntimeMatch = true →
        ∀ flows, runtimeFlows = some flows → RuntimeMatches manifest flows) := by
  unfold interrogate Listed
  cases o.runtimeAdapter with
  | none =>
    simp only [Except.ok.injEq, iff_self_and]
    intro hnone _ flows hsome
    rw [← hnone] at hsome
    cases hsome
  | some adapter =>
    simp only [bind_eq_ok, exists_unit, withContext_eq_ok, checkIf_eq_ok,
      ensureRuntimeMatchesManifest_eq_ok, pure_eq_ok]
    constructor
    · intro h
      obtain ⟨flows, hlist, hmatch, rfl⟩ := h
      refine ⟨⟨flows, hlist, rfl⟩, fun hrequire flows' hflows => ?_⟩
      cases hflows
      exact hmatch hrequire
    · intro h
      obtain ⟨⟨flows, hlist, rfl⟩, hmatch⟩ := h
      exact ⟨flows, hlist, fun hrequire => hmatch hrequire flows rfl, rfl⟩

/-- The report is the one of the pack, and the pack passes the checks that no flag
controls. -/
structure Reported (world : World) (parsers : Parsers PackManifest) (o : PackSuiteOptions)
    (componentPath : Path) (report : PackReport) : Prop where
  componentExists : world.pathExists componentPath = true
  layout : validatePackLayout world componentPath = .ok ()
  resolved : resolvePackManifest world componentPath o = .ok report.manifestPath
  read : ∃ data, world.readToString report.manifestPath = .ok data ∧
    parseManifest parsers report.manifestPath data = .ok report.manifest
  schema : detectPackSchemaVersion report.manifest = .ok report.schemaVersion
  basic : Basic report.manifest
  warnings : missingSupplyChain report.manifest = report.warnings
  listed : Listed o componentPath report.runtimeFlows

/-- What a flag asks of the pack, in the words of its report. -/
def Flag.requirement (world : World) (report : PackReport) : Flag → Prop
  | requireFlows => report.manifest.flows ≠ []
  | requireSignature => Signed report.manifest
  | requireArtifactsExist =>
    ArtifactsExist world report.manifest (report.manifestPath.parent.getD (.ofString "."))
  | requireSupplyChain => report.manifest.sbom ≠ none ∧ report.manifest.attestations ≠ []
  | requireRuntimeMatch =>
    ∀ flows, report.runtimeFlows = some flows → RuntimeMatches report.manifest flows

/-- **Accepted packs**: a report that no flag enters, and one requirement for each
flag that is on. -/
theorem verifyPackExports_eq_ok :
    (o.withFlags on).verifyPackExports world parsers componentPath = .ok report ↔
      Reported world parsers o componentPath report ∧ ∀ f ∈ on, f.requirement world report := by
  simp only [PackSuiteOptions.verifyPackExports, resolvePackManifest_withFlags, bind_eq_ok,
    exists_unit, failIf_eq_ok, withContext_eq_ok, withContextOf_eq_ok, validateManifest_eq_ok,
    interrogate_eq_ok, pure_eq_ok, Bool.not_eq_false]
  constructor
  · intro h
    obtain ⟨hexists, hlayout, manifestPath, hresolve, data, hread, manifest, hparse, schemaVersion,
      hschema, warnings, ⟨hbasic, hflows, hsigned, hartifacts, hsupply, hwarnings⟩, runtimeFlows,
      ⟨hlisted, hmatch⟩, rfl⟩ := h
    refine ⟨⟨hexists, hlayout, hresolve, ⟨data, hread, hparse⟩, hschema, hbasic, hwarnings,
      hlisted⟩, ?_⟩
    intro f hf
    cases f with
    | requireFlows => exact hflows (decide_eq_true hf)
    | requireSignature => exact hsigned (decide_eq_true hf)
    | requireArtifactsExist => exact hartifacts (decide_eq_true hf)
    | requireSupplyChain => exact hsupply (decide_eq_true hf)
    | requireRuntimeMatch => exact hmatch (decide_eq_true hf)
  · intro h
    obtain ⟨hreport, hflags⟩ := h
    obtain ⟨data, hread, hparse⟩ := hreport.read
    refine ⟨hreport.componentExists, hreport.layout, report.manifestPath, hreport.resolved, data,
      hread, report.manifest, hparse, report.schemaVersion, hreport.schema, report.warnings,
      ⟨hreport.basic, ?_, ?_, ?_, ?_, hreport.warnings⟩, report.runtimeFlows,
      ⟨hreport.listed, ?_⟩, rfl⟩
    · intro hon
      exact hflags .requireFlows (of_decide_eq_true hon)
    · intro hon
      exact hflags .requireSignature (of_decide_eq_true hon)
    · intro hon
      exact hflags .requireArtifactsExist (of_decide_eq_true hon)
    · intro hon
      exact hflags .requireSupplyChain (of_decide_eq_true hon)
    · intro hon
      exact hflags .requireRuntimeMatch (of_decide_eq_true hon)

theorem Listed.unique {flows flows' : Option (List String)} (h : Listed o componentPath flows)
    (h' : Listed o componentPath flows') : flows = flows' := by
  unfold Listed at h h'
  cases hadapter : o.runtimeAdapter with
  | none =>
    simp only [hadapter] at h h'
    exact h.symm.trans h'
  | some adapter =>
    simp only [hadapter] at h h'
    obtain ⟨listed, hlist, rfl⟩ := h
    obtain ⟨listed', hlist', rfl⟩ := h'
    rw [Except.ok.inj (hlist.symm.trans hlist')]

/-- A pack has one report. -/
theorem Reported.unique {report' : PackReport} (h : Reported world parsers o componentPath report)
    (h' : Reported world parsers o componentPath report') : report = report' := by
  have hpath : report.manifestPath = report'.manifestPath :=
    Except.ok.inj (h.resolved.symm.trans h'.resolved)
  have hmanifest : report.manifest = report'.manifest := by
    obtain ⟨data, hread, hparse⟩ := h.read
    obtain ⟨data', hread', hparse'⟩ := h'.read
    rw [hpath] at hread hparse
    have hdata : data = data' := Except.ok.inj (hread.symm.trans hread')
    rw [hdata] at hparse
    exact Except.ok.inj (hparse.symm.trans hparse')
  have hschema : report.schemaVersion = report'.schemaVersion := by
    have hdetect : detectPackSchemaVersion report.manifest = .ok report'.schemaVersion := by
      rw [hmanifest]
      exact h'.schema
    exact Except.ok.inj (h.schema.symm.trans hdetect)
  have hwarnings : report.warnings = report'.warnings := by
    rw [← h.warnings, ← h'.warnings, hmanifest]
  have hflows : report.runtimeFlows = report'.runtimeFlows := h.listed.unique h'.listed
  exact PackReport.ext hpath hmanifest hschema hflows hwarnings

/-- Verification accepts. -/
def Accepts (world : World) (parsers : Parsers PackManifest) (o : PackSuiteOptions)
    (componentPath : Path) : Prop :=
  ∃ report, o.verifyPackExports world parsers componentPath = .ok report

instance : Decidable (Accepts world parsers o componentPath) :=
  decidable_of_iff ((o.verifyPackExports world parsers componentPath).isOk = true) <| by
    unfold Accepts
    cases o.verifyPackExports world parsers componentPath <;> simp [Except.isOk, Except.toBool]

/-- The five flags are one layer each. -/
theorem layered (world : World) (parsers : Parsers PackManifest) (o : PackSuiteOptions)
    (componentPath : Path) :
    Layered fun on => Accepts world parsers (o.withFlags on) componentPath := by
  refine ⟨∃ report, Reported world parsers o componentPath report,
    fun f => ∀ report, Reported world parsers o componentPath report → f.requirement world report,
    fun on => ?_⟩
  simp only [Accepts, verifyPackExports_eq_ok]
  constructor
  · intro h
    obtain ⟨report, hreport, hflags⟩ := h
    refine ⟨⟨report, hreport⟩, fun f hf report' hreport' => ?_⟩
    rw [← hreport.unique hreport']
    exact hflags f hf
  · intro h
    obtain ⟨⟨report, hreport⟩, hflags⟩ := h
    exact ⟨report, hreport, fun f hf => hflags f hf report hreport⟩

/-- **The flags are independent and monotone**, and no flag changes a report. -/
theorem flags_independent (world : World) (parsers : Parsers PackManifest) (o : PackSuiteOptions)
    (componentPath : Path) :
    (∀ on : Finset Flag, Accepts world parsers (o.withFlags on) componentPath ↔
      Accepts world parsers (o.withFlags ∅) componentPath ∧
        ∀ f ∈ on, Accepts world parsers (o.withFlags {f}) componentPath) ∧
    (∀ on on' : Finset Flag, on ⊆ on' →
      Accepts world parsers (o.withFlags on') componentPath →
        Accepts world parsers (o.withFlags on) componentPath) ∧
    ∀ (on on' : Finset Flag) (report report' : PackReport),
      (o.withFlags on).verifyPackExports world parsers componentPath = .ok report →
      (o.withFlags on').verifyPackExports world parsers componentPath = .ok report' →
        report = report' := by
  have hlayered := layered world parsers o componentPath
  refine ⟨fun on => hlayered.accepts_iff, fun on on' hsub => hlayered.anti hsub, ?_⟩
  intro on on' report report' h h'
  exact (verifyPackExports_eq_ok.mp h).1.unique (verifyPackExports_eq_ok.mp h').1

end Flags

namespace Sample

/-- The smallest manifest that is accepted without flags. -/
def manifestText : String := "\x7b\"id\": \"demo\", \"version\": \"0.1.0\"\x7d"

def manifest : PackManifest where
  id := some "demo"
  name := none
  version := some "0.1.0"
  kind := none
  flowTypes := []
  runnerVersion := none
  flowFiles := []
  components := []
  secrets := []
  sbom := none
  attestations := []
  schemaVersion := none
  schema := none
  signature := none
  flows := []

/-- A directory `pack` that holds `manifestText` as its `pack.json`. -/
def world : World where
  pathExists p := p = .ofString "pack" ∨ p = .ofString "pack/pack.json"
  isDir p := p = .ofString "pack"
  isFile p := p = .ofString "pack/pack.json"
  readToString p :=
    if p = .ofString "pack/pack.json" then .ok manifestText else .error "no such file"
  metadata p :=
    if p = .ofString "pack/pack.json" then .ok ⟨true, manifestText.length, 0o644⟩
    else .error "no such file"
  walkDir _ := []
  envVar _ := none
  currentDir := .ok (.ofString "/work")
  hashOrder _ := []

def parsers : Parsers PackManifest where
  yaml text := if text = manifestText then .ok manifest else .error "unexpected text"
  json text := if text = manifestText then .ok manifest else .error "unexpected text"

end Sample

/-- An unsigned manifest is accepted as long as no flag asks for a signature. -/
theorem flags_independent_unsigned :
    Accepts Sample.world Sample.parsers (PackSuiteOptions.default.withFlags ∅) (.ofString "pack") ∧
    ¬ Accepts Sample.world Sample.parsers (PackSuiteOptions.default.withFlags
      {.requireRuntimeMatch, .requireSignature}) (.ofString "pack") := by
  refine ⟨by decide, fun h => ?_⟩
  have hsigned := ((flags_independent _ _ _ _).1 _).mp h |>.2 .requireSignature (by decide)
  exact absurd hsigned (by decide)

end GreenticConformance.PackSuite
