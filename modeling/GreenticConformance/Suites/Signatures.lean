import GreenticConformance.Suites.PackRunner

/-!
# The two signature checks

A manifest is checked for a signature by the validation of the pack, which reads the
manifest itself and refuses blank fields, and by `assert_signed_pack`, which reads its
JSON and looks for keys only. The JSON of a signature always has the keys.

## Main results

- `assertSignedPack_toJson` — the assertion on the JSON of a manifest
- `signatureChecks_agree_iff` — the two checks agree on a manifest unless its signature
  has a blank field
-/

namespace GreenticConformance.PackRunner

open Assertions Checks Env Host PackSuite RunnerSuite

variable {manifest : PackManifest}

/-- No field of the signature is blank, if there is one. -/
def SignatureFilled (manifest : PackManifest) : Prop :=
  ∀ sig, manifest.signature = some sig → isBlank sig.kind = false ∧
    isBlank sig.publicKey = false ∧ isBlank sig.signature = false

theorem signed_iff : Signed manifest ↔ manifest.signature.isSome ∧ SignatureFilled manifest := by
  constructor
  · intro h
    obtain ⟨sig, hsig, hfilled⟩ := h
    refine ⟨by simp [hsig], fun sig' hsig' => ?_⟩
    rw [hsig] at hsig'
    cases hsig'
    exact hfilled
  · intro h
    obtain ⟨sig, hsig⟩ := Option.isSome_iff_exists.mp h.1
    exact ⟨sig, hsig, h.2 sig hsig⟩

/-- What the JSON of a manifest has under `signature`: null is no object. -/
theorem signature_toJson : (manifest.toJson.get "signature").bind Json.asObject =
    manifest.signature.bind fun sig => sig.toJson.asObject := by
  have hget : manifest.toJson.get "signature" =
      some (manifest.signature.elim .null PackSignature.toJson) := by
    simp [PackManifest.toJson, Json.get, Json.asObject, List.lookup_cons]
  rw [hget]
  cases manifest.signature with
  | none => rfl
  | some sig => rfl

/-- The assertion accepts the JSON of every manifest that has a signature. -/
theorem assertSignedPack_toJson :
    assertSignedPack manifest.toJson = .ok () ↔ manifest.signature.isSome := by
  rw [assertSignedPack_eq_ok, signature_toJson]
  cases manifest.signature with
  | none => simp
  | some sig =>
    have hfields : ∀ field ∈ signatureFields,
        (List.lookup field [("type", Json.string sig.kind), ("public_key", .string sig.publicKey),
          ("signature", .string sig.signature)]).isSome := by
      simp [signatureFields, List.lookup_cons]
    exact iff_of_true ⟨_, rfl, hfields⟩ rfl

/-- The two checks give the same answer on a manifest. -/
def ChecksAgree (manifest : PackManifest) : Prop :=
  assertSignedPack manifest.toJson = .ok () ↔ validateSignature manifest = .ok ()

theorem checksAgree_iff : ChecksAgree manifest ↔ SignatureFilled manifest := by
  unfold ChecksAgree
  rw [assertSignedPack_toJson, validateSignature_eq_ok, signed_iff]
  constructor
  · intro h sig hsig
    exact (h.mp (by simp [hsig])).2 sig hsig
  · intro h
    exact ⟨fun hsome => ⟨hsome, h⟩, fun hsigned => hsigned.1⟩

/-- No suite that requires a signature returns a report on the manifest unless it is
signed, whatever the options of the verification. -/
def OnlySigned (manifest : PackManifest) : Prop :=
  ∀ (world : World) (parsers : Parsers PackManifest) (processes : Processes) (json : SerdeJson)
    (config : PackRunnerSuiteConfig) (report : PackRunnerSuiteReport),
    config.requireSignature = true → ReadsManifest world parsers config manifest →
      runSuite world parsers processes json config = .ok report →
        Signed report.packReport.manifest

theorem onlySigned_of_filled (h : SignatureFilled manifest) : OnlySigned manifest := by
  intro world parsers processes json config report hrequire hreads hrun
  have hpassed := runSuite_eq_ok.mp hrun
  have hmanifest : report.packReport.manifest = manifest := hpassed.readsManifest.unique hreads
  have hassert := hpassed.signed hrequire
  rw [hmanifest] at hassert ⊢
  exact signed_iff.mpr ⟨assertSignedPack_toJson.mp hassert, h⟩

/-- **Signature checks**: the assertion agrees with the validation, and is as good on
its own, exactly on the manifests whose signature has no blank field. -/
theorem signatureChecks_agree_iff (manifest : PackManifest) :
    ChecksAgree manifest ∧ OnlySigned manifest ↔ SignatureFilled manifest := by
  constructor
  · intro h
    exact checksAgree_iff.mp h.1
  · intro h
    exact ⟨checksAgree_iff.mpr h, onlySigned_of_filled h⟩

namespace Sample

/-- A manifest with a signature block of which every field is blank. -/
def blankSigned : PackManifest := { exporting with signature := some ⟨" ", " ", " "⟩ }

/-- The signature is required by the suite, and not by the verification. -/
def config : PackRunnerSuiteConfig :=
  (PackRunnerSuiteConfig.new (.ofString "pack")).withPackOptions
    PackSuiteOptions.default.allowUnsigned

def report : PackRunnerSuiteReport where
  tenant := ⟨"local-tenant", "local-team", "local-user"⟩
  componentPath := .ofString "pack"
  packReport := {
    manifestPath := .ofString "pack/pack.json"
    manifest := blankSigned
    schemaVersion := .v1
    runtimeFlows := none
    warnings := missingSupplyChain blankSigned }
  runnerReport := none

end Sample

/-- On a blank signature the checks differ, and the suite that requires a signature
returns a report. -/
theorem not_checksAgree_blank :
    assertSignedPack Sample.blankSigned.toJson = .ok () ∧
    validateSignature Sample.blankSigned =
      .error (anyhow "pack manifest signature block is incomplete") ∧
    Sample.config.requireSignature = true ∧
    runSuite PackSuite.Sample.world (Sample.parsersOf Sample.blankSigned) Sample.processes
      Sample.json Sample.config = .ok Sample.report ∧
    ¬ Signed Sample.report.packReport.manifest := by
  refine ⟨by rfl, by rfl, rfl, by rfl, ?_⟩
  rw [← validateSignature_eq_ok]
  intro h
  cases h

end GreenticConformance.PackRunner
