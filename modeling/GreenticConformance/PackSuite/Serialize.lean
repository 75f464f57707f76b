import GreenticConformance.Host.Codecs
import GreenticConformance.PackSuite.Verify

/-!
# Pack manifests as values

How the manifest of `pack_suite.rs` is written and read. Every field of it has a default.

## Main definitions

- `packSignatureCodec`, `packExportCodec`, `packManifestCodec`

## Main results

- `packManifestCodec_roundTrips` — the manifests that are read back
- `pack_rewritten` — a pack with the reported manifest is verified as before
-/

namespace GreenticConformance.PackSuite

open Checks Host Serde

/-! ## Signatures and exports -/

def PackSignature.members (sig : PackSignature) : List (String × Json) :=
  [("type", .string sig.kind), ("public_key", .string sig.publicKey),
    ("signature", .string sig.signature)]

def packSignatureReader : Reader Json PackSignature :=
  .field (required "type" stringCodec []) fun kind =>
  .field (required "public_key" stringCodec []) fun publicKey =>
  .field (required "signature" stringCodec []) fun signature =>
  .done { kind, publicKey, signature }

def packSignatureCodec : Codec Json PackSignature :=
  structCodec PackSignature.members packSignatureReader

def PackExport.members (e : PackExport) : List (String × Json) :=
  [("id", .string e.id), ("path", optionalJson e.path), ("summary", optionalJson e.summary),
    ("schema", e.schema.getD .null)]

def packExportReader : Reader Json PackExport :=
  .field (required "id" stringCodec []) fun id =>
  .field (optional "path" stringCodec) fun path =>
  .field (optional "summary" stringCodec) fun summary =>
  .field (optional "schema" valueCodec) fun schema =>
  .done { id, path, summary, schema }

def packExportCodec : Codec Json PackExport := structCodec PackExport.members packExportReader

/-! ## Manifests -/

def PackManifest.members (m : PackManifest) : List (String × Json) :=
  [("id", optionalJson m.id), ("name", optionalJson m.name), ("version", optionalJson m.version),
    ("kind", optionalJson m.kind), ("flow_types", stringsJson m.flowTypes),
    ("runner_version", optionalJson m.runnerVersion), ("flow_files", stringsJson m.flowFiles),
    ("components", stringsJson m.components), ("secrets", stringsJson m.secrets),
    ("sbom", optionalJson m.sbom), ("attestations", stringsJson m.attestations),
    ("schema_version", optionalJson m.schemaVersion), ("schema", optionalJson m.schema),
    ("signature", m.signature.elim .null PackSignature.toJson),
    ("flows", .array (m.flows.map PackExport.toJson))]

/-- A list of strings that may be missing. -/
def stringsField (name : String) : Field Json (List String) :=
  defaulted name (listCodec stringCodec) []

def packManifestReader : Reader Json PackManifest :=
  .field (optional "id" stringCodec) fun id =>
  .field (optional "name" stringCodec) fun name =>
  .field (optional "version" stringCodec) fun version =>
  .field (optional "kind" stringCodec) fun kind =>
  .field (stringsField "flow_types") fun flowTypes =>
  .field (optional "runner_version" stringCodec) fun runnerVersion =>
  .field (stringsField "flow_files") fun flowFiles =>
  .field (stringsField "components") fun components =>
  .field (stringsField "secrets") fun secrets =>
  .field (optional "sbom" stringCodec) fun sbom =>
  .field (stringsField "attestations") fun attestations =>
  .field (optional "schema_version" stringCodec) fun schemaVersion =>
  .field (optional "schema" stringCodec) fun schema =>
  .field (optional "signature" packSignatureCodec) fun signature =>
  .field (defaulted "flows" (listCodec packExportCodec) []) fun flows =>
  .done { id, name, version, kind, flowTypes, runnerVersion, flowFiles, components, secrets, sbom,
          attestations, schemaVersion, schema, signature, flows }

def packManifestCodec : Codec Json PackManifest :=
  structCodec PackManifest.members packManifestReader

/-- The codec writes what `serde_json::to_value` gives. -/
theorem packManifestCodec_write (m : PackManifest) : packManifestCodec.write m = m.toJson := rfl

/-! ## Reading back -/

theorem packSignature_agrees : Agrees PackSignature.members
    [["type"], ["public_key"], ["signature"]] packSignatureReader [] :=
  .field (required_good stringCodec_stable) fun _ =>
  .field (required_good stringCodec_stable) fun _ =>
  .field (required_good stringCodec_stable) fun _ =>
  .done rfl

theorem packSignatureCodec_stable : packSignatureCodec.Stable :=
  structCodec_stable packSignature_agrees (by decide)

theorem optionalString_good {name : String} : (optional name stringCodec).Good :=
  optional_good stringCodec_stable stringCodec_shows

theorem packExport_agrees : Agrees PackExport.members
    [["id"], ["path"], ["summary"], ["schema"]] packExportReader [] :=
  .field (required_good stringCodec_stable) fun _ =>
  .field optionalString_good fun _ =>
  .field optionalString_good fun _ =>
  .field (optional_good valueCodec_stable valueCodec_shows) fun schema =>
  .done (by cases schema <;> rfl)

theorem packExportCodec_stable : packExportCodec.Stable :=
  structCodec_stable packExport_agrees (by decide)

theorem packExportCodec_roundTrips {e : PackExport} :
    packExportCodec.RoundTrips e ↔ e.schema ≠ some .null := by
  rw [← optionalValue_roundTrips]
  refine (structCodec_roundTrips packExport_agrees (by decide)).trans ?_
  simp only [packExportReader, exists_written_field, exists_written_done]
  constructor
  · rintro ⟨id, _, path, _, summary, _, schema, hschema, rfl⟩
    exact hschema
  · intro hschema
    exact ⟨e.id, rfl, e.path, optionalString_roundTrips _, e.summary, optionalString_roundTrips _,
      e.schema, hschema, rfl⟩

theorem stringsField_good {name : String} : (stringsField name).Good :=
  defaulted_good (listCodec_stable stringCodec_stable) rfl

theorem exportsField_good : (defaulted "flows" (listCodec packExportCodec) []).Good :=
  defaulted_good (listCodec_stable packExportCodec_stable) rfl

/-- The names of the fields of a manifest. -/
def manifestFields : List (List String) :=
  [["id"], ["name"], ["version"], ["kind"], ["flow_types"], ["runner_version"], ["flow_files"],
    ["components"], ["secrets"], ["sbom"], ["attestations"], ["schema_version"], ["schema"],
    ["signature"], ["flows"]]

theorem manifestFields_apart : Apart manifestFields := by decide

theorem packManifest_agrees : Agrees PackManifest.members manifestFields packManifestReader [] :=
  .field optionalString_good fun _ =>
  .field optionalString_good fun _ =>
  .field optionalString_good fun _ =>
  .field optionalString_good fun _ =>
  .field stringsField_good fun _ =>
  .field optionalString_good fun _ =>
  .field stringsField_good fun _ =>
  .field stringsField_good fun _ =>
  .field stringsField_good fun _ =>
  .field optionalString_good fun _ =>
  .field stringsField_good fun _ =>
  .field optionalString_good fun _ =>
  .field optionalString_good fun _ =>
  .field (optional_good packSignatureCodec_stable structCodec_shows) fun _ =>
  .field exportsField_good fun _ =>
  .done rfl

/-- The manifests that are read back from what is written for them. -/
theorem packManifestCodec_roundTrips {m : PackManifest} :
    packManifestCodec.RoundTrips m ↔ ∀ e ∈ m.flows, e.schema ≠ some .null := by
  have hexports : (listCodec packExportCodec).RoundTrips m.flows ↔
      ∀ e ∈ m.flows, e.schema ≠ some .null := by
    simp only [listCodec_roundTrips, packExportCodec_roundTrips]
  have hsignature : (optionCodec packSignatureCodec).RoundTrips m.signature := by
    rw [optionCodec_roundTrips]
    exact fun sig _ => ⟨Json.noConfusion, rfl⟩
  refine (structCodec_roundTrips packManifest_agrees manifestFields_apart).trans ?_
  simp only [packManifestReader, exists_written_field, exists_written_done]
  constructor
  · rintro ⟨id, _, name, _, version, _, kind, _, flowTypes, _, runnerVersion, _, flowFiles, _,
      components, _, secrets, _, sbom, _, attestations, _, schemaVersion, _, schema, _,
      signature, _, flows, hback, rfl⟩
    exact hexports.mp hback
  · intro hflows
    exact ⟨m.id, optionalString_roundTrips _, m.name, optionalString_roundTrips _, m.version,
      optionalString_roundTrips _, m.kind, optionalString_roundTrips _, m.flowTypes,
      strings_roundTrips _, m.runnerVersion, optionalString_roundTrips _, m.flowFiles,
      strings_roundTrips _, m.components, strings_roundTrips _, m.secrets, strings_roundTrips _,
      m.sbom, optionalString_roundTrips _, m.attestations, strings_roundTrips _, m.schemaVersion,
      optionalString_roundTrips _, m.schema, optionalString_roundTrips _, m.signature, hsignature,
      m.flows, hexports.mpr hflows, rfl⟩

/-! ## Rewritten packs -/

section Rewritten

variable {world : World} {parsers : Parsers PackManifest} {serde : SerdeJson}
variable {o : PackSuiteOptions} {componentPath : Path} {report : PackReport}

/-- The world after the manifest of a report has been written as JSON where it was found. -/
def rewritten (world : World) (serde : SerdeJson) (report : PackReport) : World :=
  { world with
    readToString := fun path =>
      if path = report.manifestPath then .ok (serde.toString report.manifest.toJson)
      else world.readToString path }

/-- The checks of the schemas leave no reason why a manifest is not read back. -/
theorem roundTrips_of_basic {m : PackManifest} (h : Basic m) : packManifestCodec.RoundTrips m := by
  rw [packManifestCodec_roundTrips]
  intro e he hnull
  exact absurd (h.exports.schemas e he .null hnull) (by decide)

theorem parseManifest_text (hbasic : Basic report.manifest)
    (hjson : report.manifestPath.hasExtension ["yaml", "yml"] = false)
    (hparses : ParsesText packManifestCodec parsers serde report.manifest.toJson) :
    parseManifest parsers report.manifestPath (serde.toString report.manifest.toJson) =
      .ok report.manifest := by
  have hback : parsers.json (serde.toString report.manifest.toJson) = .ok report.manifest :=
    hparses _ (roundTrips_of_basic hbasic)
  rw [parseManifest, if_neg (by simp [hjson])]
  exact withContextOf_eq_ok.mpr hback

/-- **Rewritten packs**: once a report is given for a pack, its manifest can be replaced by
the JSON of the one that is reported. Under any flags the verification then ends as before. -/
theorem pack_rewritten (hreport : o.verifyPackExports world parsers componentPath = .ok report)
    (hjson : report.manifestPath.hasExtension ["yaml", "yml"] = false)
    (hparses : ParsesText packManifestCodec parsers serde report.manifest.toJson)
    (on : Finset Flag) :
    (o.withFlags on).verifyPackExports (rewritten world serde report) parsers componentPath =
      (o.withFlags on).verifyPackExports world parsers componentPath := by
  obtain ⟨flags, hflags⟩ := exists_withFlags o
  have hreported : Reported world parsers o componentPath report := by
    rw [← hflags] at hreport
    exact (verifyPackExports_eq_ok.mp hreport).1
  obtain ⟨data, hread, hparse⟩ := hreported.read
  have hresolve : resolvePackManifest world componentPath (o.withFlags on) =
      .ok report.manifestPath := hreported.resolved
  have hresolve' : resolvePackManifest (rewritten world serde report) componentPath
      (o.withFlags on) = .ok report.manifestPath := hreported.resolved
  have hread' : (rewritten world serde report).readToString report.manifestPath =
      .ok (serde.toString report.manifest.toJson) := if_pos rfl
  have hparse' := parseManifest_text hreported.basic hjson hparses
  -- apart from its text, nothing about the manifest is asked of the world
  simp only [PackSuiteOptions.verifyPackExports, hresolve, hresolve', ok_bind, hread, hread',
    withContextOf_ok, hparse, hparse']
  rfl

end Rewritten

namespace Sample

/-- The JSON of the sample manifest. -/
def rewrittenText : String :=
  "\x7b\"id\":\"demo\",\"name\":null,\"version\":\"0.1.0\",\"kind\":null,\"flow_types\":[]," ++
  "\"runner_version\":null,\"flow_files\":[],\"components\":[],\"secrets\":[],\"sbom\":null," ++
  "\"attestations\":[],\"schema_version\":null,\"schema\":null,\"signature\":null,\"flows\":[]\x7d"

def rewrittenSerde : SerdeJson where
  fromStr _ := .error "expected value at line 1 column 1"
  stringsFromStr _ := .error "expected value at line 1 column 1"
  toString _ := rewrittenText
  toStringPretty _ := .ok rewrittenText

def rewrittenParsers : Parsers PackManifest where
  yaml := parsers.yaml
  json text := if text = rewrittenText then .ok manifest else parsers.json text

def plainReport : PackReport where
  manifestPath := .ofString "pack/pack.json"
  manifest := manifest
  schemaVersion := .v1
  runtimeFlows := none
  warnings := missingSupplyChain manifest

def unflagged : PackSuiteOptions := PackSuiteOptions.default.withFlags ∅

theorem plainReport_reported :
    unflagged.verifyPackExports world rewrittenParsers (.ofString "pack") = .ok plainReport := by
  rfl

theorem unsigned_refused : (unflagged.withFlags {.requireSignature}).verifyPackExports world
      rewrittenParsers (.ofString "pack") =
    .error ((anyhow "pack manifest missing signature block").context
      "manifest pack/pack.json") := by
  rfl

theorem manifest_parses :
    ParsesText packManifestCodec rewrittenParsers rewrittenSerde manifest.toJson := by
  intro m hread
  have hback : packManifestCodec.RoundTrips manifest := packManifestCodec_roundTrips.mpr nofun
  rw [Codec.RoundTrips, packManifestCodec_write, hread] at hback
  obtain rfl := Option.some.inj hback
  simp only [rewrittenSerde, rewrittenParsers, if_true]

end Sample

/-- The rewritten sample is still refused where a signature is asked for. -/
theorem pack_rewritten_sample :
    (Sample.unflagged.withFlags {.requireSignature}).verifyPackExports
        (rewritten Sample.world Sample.rewrittenSerde Sample.plainReport) Sample.rewrittenParsers
        (.ofString "pack") =
      .error ((anyhow "pack manifest missing signature block").context
        "manifest pack/pack.json") := by
  rw [pack_rewritten Sample.plainReport_reported (by decide) Sample.manifest_parses]
  exact Sample.unsigned_refused

end GreenticConformance.PackSuite
