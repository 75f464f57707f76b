import GreenticConformance.Suites.PackRunner

/-!
# Chains of builder calls

A configuration of the pack and runner suite is made by a chain of builder calls.
`allow_unsigned` drops both copies of the signature requirement, and
`with_pack_options` brings one of them back, so where `allow_unsigned` stands in the
chain matters.

## Main definitions

- `BuilderCall`, `build` — the chains and what they make
- `allowLast` — a chain with `allow_unsigned` moved to its end

## Main results

- `build_allowLast` — the moved chain makes the same configuration, requirement dropped
- `allowUnsigned_anywhere_iff` — the chains after which moving it changes nothing
-/

namespace GreenticConformance.PackRunner

open Assertions Checks Env Host PackSuite RunnerSuite

/-! ## Chains -/

/-- A builder call on a configuration. -/
inductive BuilderCall where
  | withManifestOverride (manifest : Path)
  | withPackOptions (options : PackSuiteOptions)
  | withRunner (runner : RunnerHarnessConfig)
  | allowUnsigned

namespace BuilderCall

def apply (config : PackRunnerSuiteConfig) : BuilderCall → PackRunnerSuiteConfig
  | withManifestOverride manifest => config.withManifestOverride manifest
  | withPackOptions options => config.withPackOptions options
  | withRunner runner => config.withRunner runner
  | allowUnsigned => config.allowUnsigned

def isAllowUnsigned : BuilderCall → Bool
  | allowUnsigned => true
  | _ => false

/-- The call writes the copy of the requirement that the verification reads. -/
def setsPackSignature : BuilderCall → Bool
  | withPackOptions _ => true
  | allowUnsigned => true
  | _ => false

/-- What such a call writes. -/
def packSignature : BuilderCall → Bool
  | withPackOptions options => options.requireSignature
  | _ => false

end BuilderCall

/-- The configuration that a chain makes. -/
def build (componentPath : Path) (calls : List BuilderCall) : PackRunnerSuiteConfig :=
  calls.foldl BuilderCall.apply (.new componentPath)

/-- The chain with `allow_unsigned` moved to its end. -/
def allowLast (calls : List BuilderCall) : List BuilderCall :=
  calls.filter (fun call => !call.isAllowUnsigned) ++ [.allowUnsigned]

/-- The last call of the chain that writes the requirement of the verification is
`allow_unsigned`, or sets options that do not ask for a signature. -/
def RequirementDropped (calls : List BuilderCall) : Prop :=
  ∀ options,
    (calls.filter BuilderCall.setsPackSignature).getLast? = some (.withPackOptions options) →
    options.requireSignature = false

variable {config : PackRunnerSuiteConfig} {calls : List BuilderCall} {componentPath : Path}

/-! ## What a chain makes -/

/-- Whatever a call does, it does to the configuration without the requirement too. -/
theorem apply_allowUnsigned (call : BuilderCall) :
    (call.apply config.allowUnsigned).allowUnsigned = (call.apply config).allowUnsigned := by
  cases call <;> rfl

theorem foldl_allowUnsigned : (calls.foldl BuilderCall.apply config.allowUnsigned).allowUnsigned =
    (calls.foldl BuilderCall.apply config).allowUnsigned := by
  induction calls generalizing config with
  | nil => rfl
  | cons call calls ih =>
    rw [List.foldl_cons, List.foldl_cons, ← ih, apply_allowUnsigned, ih]

theorem BuilderCall.eq_allowUnsigned {call : BuilderCall} (h : call.isAllowUnsigned = true) :
    call = .allowUnsigned := by
  cases call with
  | allowUnsigned => rfl
  | _ => cases h

/-- Calls of `allow_unsigned` may be left out if it is called at the end. -/
theorem foldl_filter_allowUnsigned :
    ((calls.filter fun call => !call.isAllowUnsigned).foldl BuilderCall.apply
        config).allowUnsigned =
      (calls.foldl BuilderCall.apply config).allowUnsigned := by
  induction calls generalizing config with
  | nil => rfl
  | cons call calls ih =>
    cases hcall : call.isAllowUnsigned with
    | false =>
      rw [List.filter_cons_of_pos (by simp [hcall]), List.foldl_cons, List.foldl_cons, ih]
    | true =>
      rw [List.filter_cons_of_neg (by simp [hcall]), List.foldl_cons, ih,
        BuilderCall.eq_allowUnsigned hcall]
      exact foldl_allowUnsigned.symm

/-- **Moved chains**: they make the configuration of the chain without the
requirement. -/
theorem build_allowLast :
    build componentPath (allowLast calls) = (build componentPath calls).allowUnsigned := by
  simp only [build, allowLast, List.foldl_append, List.foldl_cons, List.foldl_nil]
  exact foldl_filter_allowUnsigned

/-- No call brings the requirement of the suite back. -/
theorem foldl_requireSignature (h : config.requireSignature = false ∨ .allowUnsigned ∈ calls) :
    (calls.foldl BuilderCall.apply config).requireSignature = false := by
  induction calls generalizing config with
  | nil => exact h.resolve_right List.not_mem_nil
  | cons call calls ih =>
    rw [List.foldl_cons]
    apply ih
    rcases h with hnow | hlater
    · left
      cases call <;> first | exact hnow | rfl
    · rcases List.mem_cons.mp hlater with heq | hlater
      · left
        rw [← heq]
        rfl
      · exact .inr hlater

theorem apply_packSignature (call : BuilderCall) :
    (call.apply config).packOptions.requireSignature =
      if call.setsPackSignature then call.packSignature
      else config.packOptions.requireSignature := by
  cases call <;> rfl

/-- The requirement of the verification is the one that was written last. -/
theorem foldl_packSignature : (calls.foldl BuilderCall.apply config).packOptions.requireSignature =
    (calls.filter BuilderCall.setsPackSignature).getLast?.elim config.packOptions.requireSignature
      BuilderCall.packSignature := by
  induction calls using List.reverseRecOn with
  | nil => rfl
  | append_singleton calls call ih =>
    rw [List.foldl_append, List.foldl_cons, List.foldl_nil, List.filter_append, apply_packSignature]
    cases hsets : call.setsPackSignature with
    | false =>
      rw [List.filter_cons_of_neg (by simp [hsets]), List.filter_nil, List.append_nil, ← ih]
      rfl
    | true =>
      rw [List.filter_cons_of_pos hsets, List.filter_nil, List.getLast?_append]
      rfl

/-- After a chain with `allow_unsigned` the verification asks for no signature exactly
if the requirement was dropped last. -/
theorem build_packSignature (componentPath : Path) (h : .allowUnsigned ∈ calls) :
    (build componentPath calls).packOptions.requireSignature = false ↔
      RequirementDropped calls := by
  rw [build, foldl_packSignature]
  cases hlast : (calls.filter BuilderCall.setsPackSignature).getLast? with
  | none =>
    have hnil := List.getLast?_eq_none_iff.mp hlast
    have hmem : BuilderCall.allowUnsigned ∈ calls.filter BuilderCall.setsPackSignature :=
      List.mem_filter.mpr ⟨h, rfl⟩
    rw [hnil] at hmem
    exact absurd hmem List.not_mem_nil
  | some call =>
    unfold RequirementDropped
    rw [hlast]
    cases call <;> simp [BuilderCall.packSignature]

/-! ## Packs without a signature -/

/-- The manifest without its signature. -/
def unsigned (manifest : PackManifest) : PackManifest := { manifest with signature := none }

/-- The same files, read without their signatures. -/
def unsignedParsers (parsers : Parsers PackManifest) : Parsers PackManifest where
  yaml text := unsigned <$> parsers.yaml text
  json text := unsigned <$> parsers.json text

def unsignedReport (report : PackReport) : PackReport :=
  { report with manifest := unsigned report.manifest }

variable {world : World} {parsers : Parsers PackManifest} {processes : Processes} {json : SerdeJson}
  {options : PackSuiteOptions} {path : Path}

theorem parseManifest_unsigned {data : String} :
    parseManifest (unsignedParsers parsers) path data =
      unsigned <$> parseManifest parsers path data := by
  unfold parseManifest unsignedParsers
  by_cases hyaml : path.hasExtension ["yaml", "yml"]
  · rw [if_pos hyaml, if_pos hyaml]
    exact withContextOf_map
  · rw [if_neg hyaml, if_neg hyaml]
    exact withContextOf_map

/-- A verification that asks for no signature does not see whether there is one. -/
theorem verifyPackExports_unsigned (h : options.requireSignature = false) :
    options.verifyPackExports world (unsignedParsers parsers) path =
      unsignedReport <$> options.verifyPackExports world parsers path := by
  have hvalidate (manifest : PackManifest) (dir : Path) :
      validateManifest world (unsigned manifest) dir options.requireFlows options.requireSignature
          options.requireArtifactsExist options.requireSupplyChain =
        validateManifest world manifest dir options.requireFlows options.requireSignature
          options.requireArtifactsExist options.requireSupplyChain := by
    rw [h]
    rfl
  have hinterrogate (manifest : PackManifest) :
      interrogate world options path (unsigned manifest) =
        interrogate world options path manifest :=
    rfl
  have hdetect (manifest : PackManifest) :
      detectPackSchemaVersion (unsigned manifest) = detectPackSchemaVersion manifest :=
    rfl
  simp only [PackSuiteOptions.verifyPackExports, parseManifest_unsigned, bind_map_left, map_bind,
    hvalidate, hinterrogate, hdetect, map_pure]
  rfl

/-- A suite that asks for no signature does not see whether there is one. -/
theorem runSuite_unsigned (hsuite : config.requireSignature = false)
    (hpack : config.options.requireSignature = false) :
    runSuite world (unsignedParsers parsers) processes json config =
      (fun report => { report with packReport := unsignedReport report.packReport }) <$>
        runSuite world parsers processes json config := by
  simp only [runSuite, verifyPack, verifyPackExports_unsigned hpack, withContext_map, bind_map_left,
    map_bind, map_pure, hsuite]
  rfl

theorem options_requireSignature :
    config.options.requireSignature = config.packOptions.requireSignature := by
  unfold PackRunnerSuiteConfig.options
  cases config.manifestOverride <;> rfl

/-- A configuration without the requirement is as `allow_unsigned` makes it. -/
theorem allowUnsigned_eq_self (hsuite : config.requireSignature = false)
    (hpack : config.packOptions.requireSignature = false) : config.allowUnsigned = config := by
  -- what is written is what is there
  obtain ⟨componentPath, manifestOverride, _, ⟨_, _, _, _, _, _, _⟩, runner⟩ := config
  cases hsuite
  cases hpack
  rfl

/-! ## Telling the configurations apart -/

namespace Sample

/-- A world in which every path is a directory. -/
def everywhere : World :=
  { World.empty with
    pathExists := fun _ => true
    isDir := fun _ => true
    readToString := fun _ => .ok "" }

/-- A manifest without a signature, and with a blank reference that is looked at after
the signature. -/
def blankSbom : PackManifest := { PackSuite.Sample.manifest with sbom := some "" }

end Sample

/-- The first check that the sample manifest fails, by whether a signature is asked
for. -/
def firstIssue (requireSignature : Bool) : String :=
  if requireSignature then "pack manifest missing signature block"
  else "pack manifest sbom reference must not be empty when provided"

theorem validateManifest_blankSbom (dir : Path)
    (requireFlows requireSignature requireArtifacts requireSupplyChain : Bool) :
    validateManifest Sample.everywhere Sample.blankSbom dir requireFlows requireSignature
      requireArtifacts requireSupplyChain = .error (anyhow (firstIssue requireSignature)) := by
  cases requireSignature <;> rfl

/-- The suite fails on the sample manifest with an error that tells whether the
verification asks for a signature. -/
theorem runSuite_blankSbom (processes : Processes) (json : SerdeJson)
    (config : PackRunnerSuiteConfig) :
    ∃ manifestPath : Path,
      resolvePackManifest Sample.everywhere config.componentPath config.options = .ok manifestPath ∧
      runSuite Sample.everywhere (Sample.parsersOf Sample.blankSbom) processes json config =
        .error (((anyhow (firstIssue config.packOptions.requireSignature)).context
          s!"manifest {manifestPath.display}").context
          s!"failed to verify pack exports for '{config.componentPath.display}'") := by
  have hresolve : ∃ manifestPath,
      resolvePackManifest Sample.everywhere config.componentPath config.options =
        .ok manifestPath := by
    unfold resolvePackManifest
    cases config.options.manifestOverride with
    | none => exact ⟨_, rfl⟩
    | some manifest => exact ⟨manifest, rfl⟩
  obtain ⟨manifestPath, hresolve⟩ := hresolve
  refine ⟨manifestPath, hresolve, ?_⟩
  have htenant : TenantContext.detect Sample.everywhere =
      .ok (TenantContext.read Sample.everywhere) :=
    TenantContext.detect_eq_ok.mpr ⟨rfl, fun hci => absurd hci (by decide)⟩
  have hlayout : validatePackLayout Sample.everywhere config.componentPath = .ok () := rfl
  have hparse : parseManifest (Sample.parsersOf Sample.blankSbom) manifestPath "" =
      .ok Sample.blankSbom := by
    unfold parseManifest
    by_cases hyaml : manifestPath.hasExtension ["yaml", "yml"]
    · rw [if_pos hyaml]
      rfl
    · rw [if_neg hyaml]
      rfl
  have hverify : config.options.verifyPackExports Sample.everywhere
      (Sample.parsersOf Sample.blankSbom) config.componentPath =
        .error ((anyhow (firstIssue config.packOptions.requireSignature)).context
          s!"manifest {manifestPath.display}") := by
    have hexists : failIf (Sample.everywhere.pathExists config.componentPath = false)
        (anyhow s!"component path '{config.componentPath.display}' does not exist") = .ok () := rfl
    have hread : Sample.everywhere.readToString manifestPath = .ok "" := rfl
    have hdetect : detectPackSchemaVersion Sample.blankSbom = .ok .v1 := rfl
    simp only [PackSuiteOptions.verifyPackExports, hexists, hlayout, hresolve, hread, hparse,
      hdetect, validateManifest_blankSbom, options_requireSignature, ok_bind, error_bind,
      withContext_ok, withContext_error, withContextOf_ok]
  simp only [runSuite, htenant, verifyPack, hverify]
  rfl

/-! ## Moving `allow_unsigned` -/

/-- Moving `allow_unsigned` to the end of the chain changes no result of the suite. -/
def MovesFreely (calls : List BuilderCall) : Prop :=
  ∀ (componentPath : Path) (world : World) (parsers : Parsers PackManifest) (processes : Processes)
    (json : SerdeJson),
    runSuite world parsers processes json (build componentPath calls) =
      runSuite world parsers processes json (build componentPath (allowLast calls))

/-- The suite never fails because a signature is missing: what fails without one fails
in the same way with one. -/
def NeedsNoSignature (calls : List BuilderCall) : Prop :=
  ∀ (componentPath : Path) (world : World) (parsers : Parsers PackManifest) (processes : Processes)
    (json : SerdeJson) (e : Error),
    runSuite world (unsignedParsers parsers) processes json (build componentPath calls) = .error e →
      runSuite world parsers processes json (build componentPath calls) = .error e

theorem movesFreely_of_dropped (hmem : .allowUnsigned ∈ calls) (h : RequirementDropped calls) :
    MovesFreely calls := by
  intro componentPath world parsers processes json
  rw [build_allowLast, allowUnsigned_eq_self]
  · exact foldl_requireSignature (.inr hmem)
  · exact (build_packSignature componentPath hmem).mpr h

theorem needsNoSignature_of_dropped (hmem : .allowUnsigned ∈ calls) (h : RequirementDropped calls) :
    NeedsNoSignature calls := by
  intro componentPath world parsers processes json e herror
  have hsuite : (build componentPath calls).requireSignature = false :=
    foldl_requireSignature (.inr hmem)
  have hpack : (build componentPath calls).options.requireSignature = false :=
    options_requireSignature.trans ((build_packSignature componentPath hmem).mpr h)
  rw [runSuite_unsigned hsuite hpack] at herror
  cases hrun : runSuite world parsers processes json (build componentPath calls) with
  | error e' =>
    rw [hrun] at herror
    exact herror
  | ok report =>
    rw [hrun] at herror
    cases herror

/-- A chain that moves freely asks for no signature: otherwise the two chains stop at
different checks of the sample manifest. -/
theorem dropped_of_movesFreely (hmem : .allowUnsigned ∈ calls) (h : MovesFreely calls) :
    RequirementDropped calls := by
  rw [← build_packSignature (.ofString "pack") hmem]
  have heq := h (.ofString "pack") Sample.everywhere (Sample.parsersOf Sample.blankSbom)
    Sample.processes Sample.json
  obtain ⟨path, hpath, hrun⟩ := runSuite_blankSbom Sample.processes Sample.json
    (build (.ofString "pack") calls)
  obtain ⟨path', hpath', hrun'⟩ := runSuite_blankSbom Sample.processes Sample.json
    (build (.ofString "pack") (allowLast calls))
  rw [hrun, hrun', build_allowLast] at heq
  have hissue : firstIssue (build (.ofString "pack") calls).packOptions.requireSignature =
      firstIssue false := by
    simp only [Error.context, anyhow, Except.error.injEq, Error.mk.injEq, List.cons.injEq] at heq
    exact heq.2.2.1
  cases hrequire : (build (.ofString "pack") calls).packOptions.requireSignature with
  | false => rfl
  | true =>
    rw [hrequire] at hissue
    exact absurd hissue (by decide)

/-- **Moving `allow_unsigned`**: it changes nothing, and no signature is missed,
exactly after the chains whose last word on the requirement drops it. -/
theorem allowUnsigned_anywhere_iff (calls : List BuilderCall) (h : .allowUnsigned ∈ calls) :
    MovesFreely calls ∧ NeedsNoSignature calls ↔ RequirementDropped calls := by
  constructor
  · intro hmoves
    exact dropped_of_movesFreely h hmoves.1
  · intro hdropped
    exact ⟨movesFreely_of_dropped h hdropped, needsNoSignature_of_dropped h hdropped⟩

namespace Sample

/-- `allow_unsigned`, and the default options after it. -/
def overruled : List BuilderCall := [.allowUnsigned, .withPackOptions .default]

end Sample

/-- The default options bring the requirement back. -/
theorem allowUnsigned_anywhere_iff_sample :
    ¬ (MovesFreely Sample.overruled ∧ NeedsNoSignature Sample.overruled) := by
  rw [allowUnsigned_anywhere_iff Sample.overruled (by simp [Sample.overruled])]
  intro h
  exact absurd (h .default rfl) (by decide)

/-- With the default options set last, an unsigned pack is refused for its missing
signature; with `allow_unsigned` moved to the end it is accepted. -/
theorem not_movesFreely_overruled :
    .allowUnsigned ∈ Sample.overruled ∧
    runSuite PackSuite.Sample.world (Sample.parsersOf Sample.exporting) Sample.processes Sample.json
      (build (.ofString "pack") Sample.overruled) =
        .error (((anyhow "pack manifest missing signature block").context
          "manifest pack/pack.json").context "failed to verify pack exports for 'pack'") ∧
    (runSuite PackSuite.Sample.world (Sample.parsersOf Sample.exporting) Sample.processes
      Sample.json (build (.ofString "pack") (allowLast Sample.overruled))).isOk = true := by
  refine ⟨?_, by rfl, by rfl⟩
  simp [Sample.overruled]

end GreenticConformance.PackRunner
