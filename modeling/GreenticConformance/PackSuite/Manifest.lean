import GreenticConformance.Host.Error
import GreenticConformance.Host.Json
import GreenticConformance.Host.Text
import GreenticConformance.Host.World

/-!
# Pack manifests

The manifest of `pack_suite.rs` and its validation, one definition a function.
The body of `validate_manifest` is cut at its blank lines into the blocks that
belong together; each block keeps the order of its checks.

## Main definitions

- `PackManifest` — the manifest
- `validateManifest` — its checks, some of them under a strictness flag

## Main results

- `validateManifest_eq_ok` — what an accepted manifest has passed
-/

namespace GreenticConformance.PackSuite

open Checks Host

/-! ## The manifest -/

structure PackSignature where
  kind : String
  publicKey : String
  signature : String
  deriving DecidableEq

structure PackExport where
  id : String
  path : Option String
  summary : Option String
  schema : Option Json

structure PackManifest where
  id : Option String
  name : Option String
  version : Option String
  kind : Option String
  flowTypes : List String
  runnerVersion : Option String
  flowFiles : List String
  components : List String
  secrets : List String
  sbom : Option String
  attestations : List String
  schemaVersion : Option String
  schema : Option String
  signature : Option PackSignature
  flows : List PackExport

/-! ### As JSON -/

/-- An optional string, as `Serialize` writes it. -/
def optionalJson (value : Option String) : Json := value.elim .null .string

def stringsJson (values : List String) : Json := .array (values.map .string)

/-- `serde_json::to_value` of a signature. -/
def PackSignature.toJson (sig : PackSignature) : Json :=
  .object [("type", .string sig.kind), ("public_key", .string sig.publicKey),
    ("signature", .string sig.signature)]

/-- `serde_json::to_value` of an exported flow. -/
def PackExport.toJson (e : PackExport) : Json :=
  .object [("id", .string e.id), ("path", optionalJson e.path),
    ("summary", optionalJson e.summary), ("schema", e.schema.getD .null)]

/-- `serde_json::to_value` of a manifest. What is missing is written as null. -/
def PackManifest.toJson (m : PackManifest) : Json :=
  .object [("id", optionalJson m.id), ("name", optionalJson m.name),
    ("version", optionalJson m.version), ("kind", optionalJson m.kind),
    ("flow_types", stringsJson m.flowTypes), ("runner_version", optionalJson m.runnerVersion),
    ("flow_files", stringsJson m.flowFiles), ("components", stringsJson m.components),
    ("secrets", stringsJson m.secrets), ("sbom", optionalJson m.sbom),
    ("attestations", stringsJson m.attestations),
    ("schema_version", optionalJson m.schemaVersion), ("schema", optionalJson m.schema),
    ("signature", m.signature.elim .null PackSignature.toJson),
    ("flows", .array (m.flows.map PackExport.toJson))]

inductive PackSchemaVersion where
  | v1
  deriving DecidableEq

/-- `detect_pack_schema_version`. Without a marker, v1 is assumed. -/
def detectPackSchemaVersion (manifest : PackManifest) : Except Error PackSchemaVersion :=
  let hint := manifest.schemaVersion.or manifest.schema
  match hint.map fun raw => toAsciiLowercase (trim raw) with
  | none => .ok .v1
  | some value =>
    if value = "1" ∨ value = "v1" ∨ value = "pack.v1" then
      .ok .v1
    else
      .error (anyhow s!"unknown pack schema version '{value}'")

/-! ## Validation -/

section Validate

variable (world : World) (manifest : PackManifest) (manifestDir : Path)

/-- `if let Some(value) = &field && value.trim().is_empty()`. -/
def failIfBlank (field : Option String) (msg : String) : Except Error Unit :=
  failIf (field.any isBlank) (anyhow msg)

/-- `for entry in entries { if entry.trim().is_empty() { bail!(msg) } }`. -/
def failIfAnyBlank (entries : List String) (msg : String) : Except Error Unit :=
  entries.forM fun entry => failIf (isBlank entry) (anyhow msg)

/-- The identity of the pack, up to its secrets. -/
def validateIdentity : Except Error Unit := do
  let packId ← okOr (manifest.id.or manifest.name)
    (anyhow "pack manifest must declare an id or name")
  failIf (isBlank packId) (anyhow "pack manifest id/name must not be empty")
  failIf (manifest.version.all isBlank) (anyhow "pack manifest must declare a non-empty version")
  failIfBlank manifest.kind "pack manifest kind must not be empty when provided"
  failIfAnyBlank manifest.flowTypes "pack manifest flow_types entries must not be empty"
  failIfBlank manifest.runnerVersion "pack manifest runner_version must not be empty when provided"
  failIfAnyBlank manifest.secrets "pack manifest secrets must not contain empty entries"

/-- The block under `require_signature`. -/
def validateSignature : Except Error Unit := do
  let sig ← okOr manifest.signature (anyhow "pack manifest missing signature block")
  failIf (isBlank sig.kind ∨ isBlank sig.publicKey ∨ isBlank sig.signature)
    (anyhow "pack manifest signature block is incomplete")

/-- What is missing is an error under `require_supply_chain`, else a warning. -/
def missing (requireSupplyChain : Bool) (warnings : List String) (msg : String) :
    Except Error (List String) :=
  if requireSupplyChain then .error (anyhow msg) else .ok (warnings ++ [msg])

def validateSbom (requireSupplyChain : Bool) (warnings : List String) :
    Except Error (List String) :=
  match manifest.sbom with
  | some sbom => do
    failIf (isBlank sbom) (anyhow "pack manifest sbom reference must not be empty when provided")
    return warnings
  | none => missing requireSupplyChain warnings "pack manifest missing sbom reference"

def validateAttestations (requireSupplyChain : Bool) (warnings : List String) :
    Except Error (List String) :=
  if manifest.attestations = [] then
    missing requireSupplyChain warnings "pack manifest missing attestation references"
  else do
    failIfAnyBlank manifest.attestations "pack manifest attestations must not contain empty entries"
    return warnings

def ensurePathExists (root : Path) (relative kind : String) : Except Error Unit :=
  let path := root.join (.ofString relative)
  failIf (world.pathExists path = false)
    (anyhow s!"{kind} path '{relative}' does not exist (resolved to {path.display})")

/-- The loop over the exported flows. -/
def validateExports (requireArtifacts : Bool) : Except Error Unit :=
  forDistinct PackExport.id (fun e => anyhow s!"duplicate flow id '{e.id}'")
    (fun e => failIf (isBlank e.id) (anyhow "found flow with an empty id"))
    (fun e => do
      failIf (e.schema.any fun schema => !schema.isObject)
        (anyhow s!"flow '{e.id}' schema must be a JSON object when provided")
      checkIf requireArtifacts <|
        match e.path with
        | some path => ensurePathExists world manifestDir path "flow"
        | none => .ok ())
    ∅ manifest.flows

/-- The last block under `require_artifacts`. -/
def validateArtifacts : Except Error Unit := do
  manifest.flowFiles.forM fun flowPath => ensurePathExists world manifestDir flowPath "flow"
  manifest.components.forM fun component =>
    ensurePathExists world manifestDir component "component"

/-- `validate_manifest`, with the warnings it pushes as its result. -/
def validateManifest (requireFlows requireSignature requireArtifacts requireSupplyChain : Bool) :
    Except Error (List String) := do
  validateIdentity manifest
  checkIf requireSignature (validateSignature manifest)
  let warnings ← validateSbom manifest requireSupplyChain []
  let warnings ← validateAttestations manifest requireSupplyChain warnings
  failIf (requireFlows ∧ manifest.flows.isEmpty) (anyhow "pack must export at least one flow")
  validateExports world manifest manifestDir requireArtifacts
  checkIf requireArtifacts (validateArtifacts world manifest manifestDir)
  return warnings

end Validate

/-! ## What an accepted manifest has passed -/

variable {world : World} {manifest : PackManifest} {manifestDir : Path}

theorem failIfBlank_eq_ok {field : Option String} {msg : String} :
    failIfBlank field msg = .ok () ↔ ∀ value, field = some value → isBlank value = false := by
  cases field <;> simp [failIfBlank]

theorem failIfAnyBlank_eq_ok {entries : List String} {msg : String} :
    failIfAnyBlank entries msg = .ok () ↔ ∀ entry ∈ entries, isBlank entry = false := by
  simp only [failIfAnyBlank, forM_eq_ok, failIf_eq_ok, Bool.not_eq_true]

/-- The manifest says what the pack is. -/
structure Identified (manifest : PackManifest) : Prop where
  packId : ∃ packId, manifest.id.or manifest.name = some packId ∧ isBlank packId = false
  version : ∃ version, manifest.version = some version ∧ isBlank version = false
  kind : ∀ kind, manifest.kind = some kind → isBlank kind = false
  flowTypes : ∀ flowType ∈ manifest.flowTypes, isBlank flowType = false
  runnerVersion : ∀ version, manifest.runnerVersion = some version → isBlank version = false
  secrets : ∀ secret ∈ manifest.secrets, isBlank secret = false

theorem validateIdentity_eq_ok : validateIdentity manifest = .ok () ↔ Identified manifest := by
  have hversion : ¬ manifest.version.all isBlank = true ↔
      ∃ version, manifest.version = some version ∧ isBlank version = false := by
    cases manifest.version <;> simp
  simp only [validateIdentity, bind_eq_ok, exists_unit, okOr_eq_ok, failIf_eq_ok,
    failIfBlank_eq_ok, failIfAnyBlank_eq_ok, hversion, Bool.not_eq_true]
  constructor
  · intro h
    obtain ⟨packId, hid, hblank, hversion, hkind, hflowTypes, hrunner, hsecrets⟩ := h
    exact ⟨⟨packId, hid, hblank⟩, hversion, hkind, hflowTypes, hrunner, hsecrets⟩
  · intro h
    obtain ⟨packId, hid, hblank⟩ := h.packId
    exact ⟨packId, hid, hblank, h.version, h.kind, h.flowTypes, h.runnerVersion, h.secrets⟩

/-- The manifest is signed: its signature block is there and complete. -/
def Signed (manifest : PackManifest) : Prop :=
  ∃ sig, manifest.signature = some sig ∧ isBlank sig.kind = false ∧
    isBlank sig.publicKey = false ∧ isBlank sig.signature = false

theorem validateSignature_eq_ok : validateSignature manifest = .ok () ↔ Signed manifest := by
  simp only [validateSignature, bind_eq_ok, okOr_eq_ok, failIf_eq_ok, not_or, Bool.not_eq_true,
    Signed]

/-- The references to supply-chain data that are there are not blank. -/
structure SupplyChainNamed (manifest : PackManifest) : Prop where
  sbom : ∀ sbom, manifest.sbom = some sbom → isBlank sbom = false
  attestations : ∀ attestation ∈ manifest.attestations, isBlank attestation = false

/-- The supply-chain data that are not there, as the warnings name them. -/
def missingSupplyChain (manifest : PackManifest) : List String :=
  (if manifest.sbom = none then ["pack manifest missing sbom reference"] else []) ++
    if manifest.attestations = [] then ["pack manifest missing attestation references"] else []

theorem missing_eq_ok {requireSupplyChain : Bool} {warnings result : List String} {msg : String} :
    missing requireSupplyChain warnings msg = .ok result ↔
      requireSupplyChain = false ∧ warnings ++ [msg] = result := by
  cases requireSupplyChain <;> simp [missing]

theorem validateSbom_eq_ok {requireSupplyChain : Bool} {warnings result : List String} :
    validateSbom manifest requireSupplyChain warnings = .ok result ↔
      (∀ sbom, manifest.sbom = some sbom → isBlank sbom = false) ∧
      (requireSupplyChain = true → manifest.sbom ≠ none) ∧
      warnings ++ (if manifest.sbom = none then ["pack manifest missing sbom reference"] else []) =
        result := by
  unfold validateSbom
  cases manifest.sbom with
  | none => simp [missing_eq_ok]
  | some sbom =>
    simp only [bind_eq_ok, exists_unit, failIf_eq_ok, pure_eq_ok]
    simp

theorem validateAttestations_eq_ok {requireSupplyChain : Bool} {warnings result : List String} :
    validateAttestations manifest requireSupplyChain warnings = .ok result ↔
      (∀ attestation ∈ manifest.attestations, isBlank attestation = false) ∧
      (requireSupplyChain = true → manifest.attestations ≠ []) ∧
      warnings ++ (if manifest.attestations = [] then
        ["pack manifest missing attestation references"] else []) = result := by
  unfold validateAttestations
  by_cases h : manifest.attestations = []
  · simp [h, missing_eq_ok]
  · simp only [if_neg h, bind_eq_ok, exists_unit, failIfAnyBlank_eq_ok, pure_eq_ok]
    simp [h]

/-- The exported flows are told apart and described by objects. -/
structure ExportsOk (manifest : PackManifest) : Prop where
  ids : ∀ e ∈ manifest.flows, isBlank e.id = false
  schemas : ∀ e ∈ manifest.flows, ∀ schema, e.schema = some schema → schema.isObject = true
  distinct : (manifest.flows.map PackExport.id).Nodup

/-- A path of the manifest leads to something. -/
def PathOk (world : World) (manifestDir : Path) (relative : String) : Prop :=
  world.pathExists (manifestDir.join (.ofString relative)) = true

theorem ensurePathExists_eq_ok {relative kind : String} :
    ensurePathExists world manifestDir relative kind = .ok () ↔
      PathOk world manifestDir relative := by
  simp only [ensurePathExists, failIf_eq_ok, Bool.not_eq_false, PathOk]

/-- Every path of the manifest leads to something. -/
structure ArtifactsExist (world : World) (manifest : PackManifest) (manifestDir : Path) :
    Prop where
  exports : ∀ e ∈ manifest.flows, ∀ path, e.path = some path → PathOk world manifestDir path
  flowFiles : ∀ path ∈ manifest.flowFiles, PathOk world manifestDir path
  components : ∀ path ∈ manifest.components, PathOk world manifestDir path

theorem validateExports_eq_ok {requireArtifacts : Bool} :
    validateExports world manifest manifestDir requireArtifacts = .ok () ↔
      ExportsOk manifest ∧ (requireArtifacts = true →
        ∀ e ∈ manifest.flows, ∀ path, e.path = some path → PathOk world manifestDir path) := by
  have hschema (e : PackExport) : ¬ (e.schema.any fun schema => !schema.isObject) = true ↔
      ∀ schema, e.schema = some schema → schema.isObject = true := by
    cases e.schema <;> simp
  have hpath (e : PackExport) : (match e.path with
      | some path => ensurePathExists world manifestDir path "flow"
      | none => .ok ()) = .ok () ↔
      ∀ path, e.path = some path → PathOk world manifestDir path := by
    cases e.path <;> simp [ensurePathExists_eq_ok]
  simp only [validateExports, forDistinct_eq_ok, bind_eq_ok, exists_unit, failIf_eq_ok,
    checkIf_eq_ok, hschema, hpath, Finset.notMem_empty, not_false_eq_true, and_true,
    Bool.not_eq_true]
  constructor
  · intro h
    obtain ⟨hall, hdistinct⟩ := h
    refine ⟨⟨fun e he => (hall e he).1, fun e he => (hall e he).2.1, hdistinct⟩, ?_⟩
    intro hrequire e he
    exact (hall e he).2.2 hrequire
  · intro h
    obtain ⟨hok, hpaths⟩ := h
    exact ⟨fun e he => ⟨hok.ids e he, hok.schemas e he, fun hrequire => hpaths hrequire e he⟩,
      hok.distinct⟩

theorem validateArtifacts_eq_ok : validateArtifacts world manifest manifestDir = .ok () ↔
    (∀ path ∈ manifest.flowFiles, PathOk world manifestDir path) ∧
      ∀ path ∈ manifest.components, PathOk world manifestDir path := by
  simp only [validateArtifacts, bind_eq_ok, exists_unit, forM_eq_ok, ensurePathExists_eq_ok]

/-- What every accepted manifest has passed, whatever the flags. -/
structure Basic (manifest : PackManifest) : Prop where
  identified : Identified manifest
  supplyChain : SupplyChainNamed manifest
  exports : ExportsOk manifest

/-- **Accepted manifests**: the basic checks, one more condition for each flag
that is on, and warnings that depend on the manifest only. -/
theorem validateManifest_eq_ok {requireFlows requireSignature requireArtifacts
    requireSupplyChain : Bool} {warnings : List String} :
    validateManifest world manifest manifestDir requireFlows requireSignature requireArtifacts
        requireSupplyChain = .ok warnings ↔
      Basic manifest ∧ (requireFlows = true → manifest.flows ≠ []) ∧
      (requireSignature = true → Signed manifest) ∧
      (requireArtifacts = true → ArtifactsExist world manifest manifestDir) ∧
      (requireSupplyChain = true → manifest.sbom ≠ none ∧ manifest.attestations ≠ []) ∧
      missingSupplyChain manifest = warnings := by
  simp only [validateManifest, bind_eq_ok, exists_unit, checkIf_eq_ok, validateIdentity_eq_ok,
    validateSignature_eq_ok, validateSbom_eq_ok, validateAttestations_eq_ok, failIf_eq_ok,
    validateExports_eq_ok, validateArtifacts_eq_ok, pure_eq_ok, List.isEmpty_iff, not_and]
  constructor
  · intro h
    obtain ⟨hid, hsigned, _, ⟨hsbom, hsbomReq, rfl⟩, _, ⟨hatt, hattReq, rfl⟩, hflows,
      ⟨hexports, hpaths⟩, hartifacts, hwarnings⟩ := h
    refine ⟨⟨hid, ⟨hsbom, hatt⟩, hexports⟩, hflows, hsigned, ?_, ?_, hwarnings⟩
    · intro hrequire
      exact ⟨hpaths hrequire, (hartifacts hrequire).1, (hartifacts hrequire).2⟩
    · intro hrequire
      exact ⟨hsbomReq hrequire, hattReq hrequire⟩
  · intro h
    obtain ⟨hbasic, hflows, hsigned, hartifacts, hsupply, hwarnings⟩ := h
    refine ⟨hbasic.identified, hsigned, _, ⟨hbasic.supplyChain.sbom, ?_, rfl⟩, _,
      ⟨hbasic.supplyChain.attestations, ?_, rfl⟩, hflows, ⟨hbasic.exports, ?_⟩, ?_, hwarnings⟩
    · intro hrequire
      exact (hsupply hrequire).1
    · intro hrequire
      exact (hsupply hrequire).2
    · intro hrequire
      exact (hartifacts hrequire).exports
    · intro hrequire
      exact ⟨(hartifacts hrequire).flowFiles, (hartifacts hrequire).components⟩

end GreenticConformance.PackSuite
