import GreenticConformance.Cli.ComponentVerdict
import GreenticConformance.Cli.DeployerVerdict
import GreenticConformance.Cli.Main
import GreenticConformance.Cli.RunnerVerdict
import GreenticConformance.FlowSuite.WellFormed
import GreenticConformance.RunnerSuite.Fragments

/-!
# Asking for less

The commands have flags that allow more and options that ask for more. A command that
asks for no more than another one passes where that one does. What is expected of the
output of a runner is weakened by leaving parts of the fragment out.

## Main definitions

- `Commands.Relaxes` — the second command asks for no more than the first
- `Lenient` — opening packs asks for no more under the policy for development

## Main results

- `check_relaxed` — a good verdict stays good
-/

namespace GreenticConformance.Cli

open Checks Host
open FlowSuite (Checked FlowDocument FlowValidationOptions validateFlowFolder_eq_ok
  validateFlow_eq_ok)
open PackSuite (Listed PackManifest PackReport PackSuiteOptions Reported resolvePackManifest)
open RunnerSuite (Meets RunnerExpectation RunnerOptions jsonContains contains_trans)

/-! ## Packs -/

/-- A pack that opens under the strict policy opens under the one for development, with the
same content, and its signature is still in order. -/
def Lenient (openPack : Path → SigningPolicy → Except String PackLoad) : Prop :=
  ∀ path pack, openPack path .strict = .ok pack → ∃ pack', openPack path .devOk = .ok pack' ∧
    pack'.manifest = pack.manifest ∧ pack'.sbom = pack.sbom ∧
    (pack.report.signatureOk = true → pack'.report.signatureOk = true)

section Pack

variable {openPack : Path → SigningPolicy → Except String PackLoad} {path : Path}
variable {pack pack' : PackLoad} {dev dev' unsigned unsigned' : Bool}

theorem checkPack_passes : (∃ report, checkPack openPack path dev unsigned = .ok report ∧
      report.packV1Basic = true) ↔
    ∃ pack, openPack path (signingPolicy dev unsigned) = .ok pack ∧
      (performStructuralChecks pack unsigned).issues = [] := by
  simp only [checkPack, bind_eq_ok, mapError_eq_ok, pure_eq_ok]
  constructor
  · rintro ⟨_, ⟨pack, hopen, rfl⟩, hbasic⟩
    dsimp only at hbasic
    rw [List.isEmpty_iff] at hbasic
    exact ⟨pack, hopen, hbasic⟩
  · rintro ⟨pack, hopen, hissues⟩
    refine ⟨_, ⟨pack, hopen, rfl⟩, ?_⟩
    dsimp only
    rw [hissues]
    rfl

/-- The structural checks look at the content, and at whether the signature will do. -/
theorem performStructuralChecks_relaxed (hmanifest : pack'.manifest = pack.manifest)
    (hsbom : pack'.sbom = pack.sbom)
    (hsigned : pack.report.signatureOk = true → pack'.report.signatureOk = true)
    (hunsigned : unsigned ≤ unsigned')
    (h : (performStructuralChecks pack unsigned).issues = []) :
    (performStructuralChecks pack' unsigned').issues = [] := by
  simp only [performStructuralChecks, List.append_eq_nil_iff, issueIf_eq_nil] at h ⊢
  rw [hmanifest, hsbom]
  refine ⟨h.1, ?_⟩
  have hsignature := h.2
  revert hsignature hsigned hunsigned
  cases pack.report.signatureOk <;> cases pack'.report.signatureOk <;> cases unsigned <;>
    cases unsigned' <;> simp

theorem exists_open (hopen : Lenient openPack) (hdev : dev ≤ dev')
    (hunsigned : unsigned ≤ unsigned')
    (h : openPack path (signingPolicy dev unsigned) = .ok pack) :
    ∃ pack', openPack path (signingPolicy dev' unsigned') = .ok pack' ∧
      pack'.manifest = pack.manifest ∧ pack'.sbom = pack.sbom ∧
      (pack.report.signatureOk = true → pack'.report.signatureOk = true) := by
  by_cases hsame : signingPolicy dev' unsigned' = signingPolicy dev unsigned
  · rw [hsame]
    exact ⟨pack, h, rfl, rfl, id⟩
  · -- the policy changes in one direction only
    have hpolicy : signingPolicy dev unsigned = .strict ∧
        signingPolicy dev' unsigned' = .devOk := by
      revert hdev hunsigned hsame
      cases dev <;> cases dev' <;> cases unsigned <;> cases unsigned' <;> decide
    rw [hpolicy.1] at h
    rw [hpolicy.2]
    exact hopen path pack h

theorem checkPack_relaxed (hopen : Lenient openPack) (hdev : dev ≤ dev')
    (hunsigned : unsigned ≤ unsigned')
    (h : ∃ report, checkPack openPack path dev unsigned = .ok report ∧ report.packV1Basic = true) :
    ∃ report, checkPack openPack path dev' unsigned' = .ok report ∧ report.packV1Basic = true := by
  obtain ⟨pack, hpack, hissues⟩ := checkPack_passes.mp h
  obtain ⟨pack', hpack', hmanifest, hsbom, hsigned⟩ := exists_open hopen hdev hunsigned hpack
  exact checkPack_passes.mpr
    ⟨pack', hpack', performStructuralChecks_relaxed hmanifest hsbom hsigned hunsigned hissues⟩

end Pack

/-! ## Flows -/

section Flow

variable {world : World} {parsers : Parsers FlowDocument} {path : Path} {allow allow' : Bool}
variable {extensions extensions' : List String} {o : FlowValidationOptions}

theorem checkFlow_passes : (∃ report, checkFlow world parsers path allow extensions = .ok report ∧
      report.flowV1Basic = true) ↔
    ∃ report,
      (flowOptions allow extensions).validateFlowFolder world parsers path = .ok report := by
  simp only [checkFlow]
  cases (flowOptions allow extensions).validateFlowFolder world parsers path with
  | ok report => exact iff_of_true ⟨_, rfl, rfl⟩ ⟨report, rfl⟩
  | error err =>
    refine iff_of_false ?_ (by simp)
    rintro ⟨_, hreport, hbasic⟩
    obtain rfl := Except.ok.inj hreport
    cases hbasic

/-- Allowing extensions leaves the other options alone. -/
theorem foldl_allowExtension :
    (extensions.foldl FlowValidationOptions.allowExtension o).requireSchema = o.requireSchema ∧
    (extensions.foldl FlowValidationOptions.allowExtension o).validators = o.validators ∧
    ∀ allowed,
      allowed ∈ (extensions.foldl FlowValidationOptions.allowExtension o).allowedExtensions ↔
        allowed ∈ o.allowedExtensions ∨ allowed ∈ extensions.map toAsciiLowercase := by
  induction extensions generalizing o with
  | nil => simp
  | cons extension extensions ih =>
    obtain ⟨hschema, hvalidators, hallowed⟩ := @ih (o.allowExtension extension)
    have hkept : (o.allowExtension extension).requireSchema = o.requireSchema ∧
        (o.allowExtension extension).validators = o.validators := by
      simp only [FlowValidationOptions.allowExtension]
      split <;> exact ⟨rfl, rfl⟩
    rw [List.foldl_cons]
    refine ⟨hschema.trans hkept.1, hvalidators.trans hkept.2, fun allowed => ?_⟩
    rw [hallowed, FlowValidationOptions.mem_allowExtension, List.map_cons, List.mem_cons, or_assoc]

theorem flowOptions_spec : (flowOptions allow extensions).requireSchema = !allow ∧
    (flowOptions allow extensions).validators = [] ∧
    ∀ allowed, allowed ∈ (flowOptions allow extensions).allowedExtensions ↔
      allowed ∈ FlowValidationOptions.default.allowedExtensions ∨
        allowed ∈ extensions.map toAsciiLowercase := by
  unfold flowOptions
  cases allow <;> exact foldl_allowExtension

theorem checkFlow_relaxed (hallow : allow ≤ allow')
    (hsame : ∀ extension, extension ∈ extensions'.map toAsciiLowercase ↔
      extension ∈ extensions.map toAsciiLowercase)
    (h : ∃ report, checkFlow world parsers path allow extensions = .ok report ∧
      report.flowV1Basic = true) :
    ∃ report, checkFlow world parsers path allow' extensions' = .ok report ∧
      report.flowV1Basic = true := by
  rw [checkFlow_passes] at h ⊢
  obtain ⟨report, h⟩ := h
  obtain ⟨hexists, hnonempty, hchecked, hroot⟩ := validateFlowFolder_eq_ok.mp h
  obtain ⟨hschema, hvalidators, hallowed⟩ := @flowOptions_spec allow extensions
  obtain ⟨hschema', hvalidators', hallowed'⟩ := @flowOptions_spec allow' extensions'
  have hselects : (flowOptions allow' extensions').selects =
      (flowOptions allow extensions).selects := by
    funext entry
    rw [FlowValidationOptions.selects, FlowValidationOptions.selects]
    congr 1
    rw [Bool.eq_iff_iff]
    simp only [List.any_eq_true, decide_eq_true_eq, hallowed, hallowed', hsame]
  have hchosen : (flowOptions allow' extensions').chosen world path =
      (flowOptions allow extensions).chosen world path := by
    rw [FlowValidationOptions.chosen, FlowValidationOptions.chosen, hselects]
  refine ⟨report, validateFlowFolder_eq_ok.mpr ⟨hexists, by rwa [hchosen], ?_, hroot⟩⟩
  rw [hchosen]
  refine hchecked.imp fun entry document hdocument => ⟨hdocument.parsed, ?_, ?_⟩
  · have hvalid := validateFlow_eq_ok.mp hdocument.valid
    refine validateFlow_eq_ok.mpr { hvalid with schema := fun hrequire => hvalid.schema ?_ }
    rw [hschema'] at hrequire
    rw [hschema]
    revert hallow hrequire
    cases allow <;> cases allow' <;> simp
  · rw [hvalidators']
    simp

end Flow

/-! ## Components -/

/-- The second command allows all that the first does, and leaves flows to compare and the
operation out or as they are. -/
structure ComponentArgs.Relaxes (c c' : ComponentArgs) : Prop where
  path : c'.path = c.path
  manifest : c'.manifest = c.manifest
  arg : c'.arg = c.arg
  env : c'.env = c.env
  workdir : c'.workdir = c.workdir
  input : c'.input = c.input
  runtimeFlows : c'.runtimeFlows = none ∨ c'.runtimeFlows = c.runtimeFlows
  operation : c'.operation = none ∨ c'.operation = c.operation
  allowRuntimeMismatch : c.allowRuntimeMismatch ≤ c'.allowRuntimeMismatch
  allowUnsigned : c.allowUnsigned ≤ c'.allowUnsigned
  allowNonJsonOutput : c.allowNonJsonOutput ≤ c'.allowNonJsonOutput

section Component

variable {world : World} {processes : Processes} {parsers : Parsers PackManifest}
  {json : SerdeJson} {c c' : ComponentArgs}
variable {runtimeFlows runtimeFlows' : Option (List String)} {report : PackReport}

theorem checkComponent_passes :
    (∃ report, checkComponent world processes parsers json c = .ok report ∧
      report.componentV1WitOnly = true) ↔ ComponentV1 world processes parsers json c := by
  obtain ⟨hreport, hverdict⟩ := checkComponent_verdict world processes parsers json c
  constructor
  · rintro ⟨report, h, hwit⟩
    exact (hverdict report h).1.mp hwit
  · intro h
    obtain ⟨report, hok⟩ : ∃ report,
        checkComponent world processes parsers json c = .ok report := by
      obtain ⟨overrides, hready, ⟨runtimeFlows, _, hparse, -⟩, -⟩ := h
      obtain ⟨metadata, hm, -⟩ := hready.file
      exact hreport.mpr ⟨⟨metadata, hm⟩, fun _ _ => ⟨runtimeFlows, hparse⟩⟩
    exact ⟨report, hok, (hverdict report hok).1.mpr h⟩

theorem packOptions_manifestOverride :
    (c.packOptions runtimeFlows).manifestOverride = c.manifest := by
  unfold ComponentArgs.packOptions
  cases c.manifest <;> cases c.allowRuntimeMismatch <;> cases c.allowUnsigned <;>
    cases runtimeFlows <;> rfl

theorem packOptions_runtimeAdapter : (c.packOptions runtimeFlows).runtimeAdapter =
    runtimeFlows.map fun flows _ => .ok flows := by
  unfold ComponentArgs.packOptions
  cases c.manifest <;> cases c.allowRuntimeMismatch <;> cases c.allowUnsigned <;>
    cases runtimeFlows <;> rfl

theorem listed_packOptions {path : Path} {listed : Option (List String)} :
    Listed (c.packOptions runtimeFlows) path listed ↔ listed = runtimeFlows := by
  unfold Listed
  rw [packOptions_runtimeAdapter]
  cases runtimeFlows with
  | none => exact eq_comm
  | some flows => simp [eq_comm]

/-- Of the options the manifest and what the runtime lists enter a report. -/
theorem reported_relaxed (h : c.Relaxes c')
    (hreported : Reported world parsers (c.packOptions runtimeFlows) (.ofString c.path.display)
      report) :
    Reported world parsers (c'.packOptions runtimeFlows') (.ofString c'.path.display)
      { report with runtimeFlows := runtimeFlows' } := by
  have hresolve : resolvePackManifest world (.ofString c.path.display)
      (c'.packOptions runtimeFlows') =
        resolvePackManifest world (.ofString c.path.display) (c.packOptions runtimeFlows) := by
    rw [resolvePackManifest, resolvePackManifest, packOptions_manifestOverride,
      packOptions_manifestOverride, h.manifest]
  rw [h.path]
  exact { hreported with
    resolved := hresolve.trans hreported.resolved
    listed := listed_packOptions.mpr rfl }

theorem Exports.relaxed (h : c.Relaxes c')
    (hflows : runtimeFlows' = none ∨ runtimeFlows' = runtimeFlows)
    (hexports : Exports world parsers c runtimeFlows report) :
    Exports world parsers c' runtimeFlows' { report with runtimeFlows := runtimeFlows' } where
  reported := reported_relaxed h hexports.reported
  flows := hexports.flows
  signed hoff := hexports.signed (Bool.eq_false_of_le_false (hoff ▸ h.allowUnsigned))
  matched hoff flows hlisted := by
    have hreport := listed_packOptions.mp hexports.reported.listed
    refine hexports.matched (Bool.eq_false_of_le_false (hoff ▸ h.allowRuntimeMismatch)) flows ?_
    obtain rfl | rfl := hflows
    · cases hlisted
    · exact hreport.trans hlisted

theorem Operates.relaxed (h : c.Relaxes c') {overrides : List (String × String)} {op : String}
    {output : Output} (hop : Operates world processes json c overrides op output) :
    Operates world processes json c' overrides op output where
  found := h.path ▸ hop.found
  ran := by
    obtain ⟨payload, hpayload, hran⟩ := hop.ran
    refine ⟨payload, h.input ▸ hpayload, ?_⟩
    rw [invocation_eq] at hran ⊢
    rw [h.path, h.arg, h.workdir]
    exact hran
  success := hop.success
  answer hoff := hop.answer (Bool.eq_false_of_le_false (hoff ▸ h.allowNonJsonOutput))

theorem ComponentV1.relaxed (h : c.Relaxes c')
    (hc : ComponentV1 world processes parsers json c) :
    ComponentV1 world processes parsers json c' := by
  obtain ⟨overrides, hready, ⟨runtimeFlows, report, hparse, hexports⟩, hoperates⟩ := hc
  have hflows : ∃ runtimeFlows', c'.parseRuntimeFlows json = .ok runtimeFlows' ∧
      (runtimeFlows' = none ∨ runtimeFlows' = runtimeFlows) := by
    obtain hnone | hsame := h.runtimeFlows
    · exact ⟨none, by rw [ComponentArgs.parseRuntimeFlows, hnone], .inl rfl⟩
    · refine ⟨runtimeFlows, ?_, .inr rfl⟩
      rw [ComponentArgs.parseRuntimeFlows, hsame]
      exact hparse
  obtain ⟨runtimeFlows', hparse', hflows⟩ := hflows
  refine ⟨overrides, ?_, ⟨runtimeFlows', _, hparse', hexports.relaxed h hflows⟩, fun op hop => ?_⟩
  · rw [h.path, h.workdir, h.env]
    exact hready
  · obtain hnone | hsame := h.operation
    · rw [hnone] at hop
      cases hop
    · rw [hsame] at hop
      obtain ⟨output, hop⟩ := hoperates op hop
      exact ⟨output, hop.relaxed h⟩

end Component

/-! ## Runners -/

/-- The second command allows all that the first does, and of the output it asks for a fragment
of what the first asks for, if anything. -/
structure RunnerArgs.Relaxes (json : SerdeJson) (c c' : RunnerArgs) : Prop where
  path : c'.path = c.path
  pack : c'.pack = c.pack
  stdin : c'.stdin = c.stdin
  arg : c'.arg = c.arg
  env : c'.env = c.env
  workdir : c'.workdir = c.workdir
  allowFailure : c.allowFailure ≤ c'.allowFailure
  requireJsonStdout : c'.requireJsonStdout ≤ c.requireJsonStdout
  expectedEgress : ∀ raw' ∈ c'.expectedEgress, ∃ raw ∈ c.expectedEgress, raw = raw' ∨
    ∃ expected expected', json.fromStr raw = .ok expected ∧ json.fromStr raw' = .ok expected' ∧
      jsonContains expected expected' = true

section Runner

variable {world : World} {processes : Processes} {json : SerdeJson} {c c' : RunnerArgs}
variable {expectation expectation' : RunnerExpectation} {output : Output}

theorem checkRunner_passes : (∃ report, checkRunner world processes json c = .ok report ∧
      report.runnerV1 = true) ↔ RunnerV1 world processes json c := by
  obtain ⟨hreport, hverdict⟩ := checkRunner_verdict world processes json c
  constructor
  · rintro ⟨report, h, hv1⟩
    exact (hverdict report h).mp hv1
  · intro h
    obtain ⟨report, hok⟩ : ∃ report, checkRunner world processes json c = .ok report := by
      obtain ⟨overrides, hready, hsmokes⟩ := h
      obtain ⟨metadata, hm, -⟩ := hready.file
      refine hreport.mpr ⟨⟨metadata, hm⟩, fun _ _ packPath hpack _ => ?_⟩
      obtain ⟨expectation, _, hsmokes⟩ := hsmokes packPath hpack
      exact ⟨expectation, hsmokes.expects⟩
    exact ⟨report, hok, (hverdict report hok).mpr h⟩

/-- What the command asks of the output. -/
structure Expects (json : SerdeJson) (c : RunnerArgs) (expectation : RunnerExpectation) :
    Prop where
  success : expectation.expectSuccess = !c.allowFailure
  isJson : expectation.stdoutMustBeJson = c.requireJsonStdout
  egress : Option.Rel (fun raw expected => json.fromStr raw = .ok expected) c.expectedEgress
    expectation.expectedEgress

theorem parseExpectation_eq_ok :
    c.parseExpectation json = .ok expectation ↔ Expects json c expectation := by
  have hflags : (if c.requireJsonStdout = true then
        (if c.allowFailure = true then RunnerExpectation.default.allowFailure
          else .default).requireJsonStdout
      else if c.allowFailure = true then RunnerExpectation.default.allowFailure else .default) =
      ⟨!c.allowFailure, none, c.requireJsonStdout⟩ := by
    cases c.allowFailure <;> cases c.requireJsonStdout <;> rfl
  obtain ⟨success, egress, isJson⟩ := expectation
  simp only [RunnerArgs.parseExpectation, hflags]
  cases hraw : c.expectedEgress with
  | none =>
    simp only [pure_eq_ok, RunnerExpectation.mk.injEq]
    constructor
    · rintro ⟨rfl, rfl, rfl⟩
      exact ⟨rfl, rfl, hraw ▸ .none⟩
    · rintro ⟨rfl, rfl, hegress⟩
      rw [hraw] at hegress
      cases hegress
      exact ⟨rfl, rfl, rfl⟩
  | some raw =>
    simp only [bind_eq_ok, withContextOf_eq_ok, pure_eq_ok, RunnerExpectation.withExpectedEgress,
      RunnerExpectation.mk.injEq]
    constructor
    · rintro ⟨expected, hexpected, rfl, rfl, rfl⟩
      exact ⟨rfl, rfl, hraw ▸ .some hexpected⟩
    · rintro ⟨rfl, rfl, hegress⟩
      rw [hraw] at hegress
      cases hegress with
      | some hexpected => exact ⟨_, hexpected, rfl, rfl, rfl⟩

/-- An expectation that asks for no more is met where the other one is. -/
theorem meets_relaxed (hsuccess : expectation'.expectSuccess ≤ expectation.expectSuccess)
    (hjson : expectation'.stdoutMustBeJson ≤ expectation.stdoutMustBeJson)
    (hegress : ∀ expected' ∈ expectation'.expectedEgress, ∃ expected ∈ expectation.expectedEgress,
      expected = expected' ∨ jsonContains expected expected' = true)
    (h : Meets json expectation output) : Meets json expectation' output where
  success hon := h.success (hsuccess hon)
  isJson hasked := by
    refine h.isJson (hasked.imp (fun hon => hjson hon) fun hsome => ?_)
    obtain ⟨expected', hexpected'⟩ := Option.isSome_iff_exists.mp hsome
    obtain ⟨expected, hexpected, -⟩ := hegress expected' hexpected'
    exact Option.isSome_iff_exists.mpr ⟨expected, hexpected⟩
  egress expected' parsed hexpected' hparsed := by
    obtain ⟨expected, hexpected, hfragment⟩ := hegress expected' hexpected'
    have hcontains := h.egress expected parsed hexpected hparsed
    obtain rfl | hfragment := hfragment
    · exact hcontains
    · exact contains_trans hcontains hfragment

/-- A command that asks for no more has an expectation that asks for no more. -/
theorem Expects.relaxed (h : c.Relaxes json c') (he : Expects json c expectation) :
    ∃ expectation', Expects json c' expectation' ∧
      expectation'.expectSuccess ≤ expectation.expectSuccess ∧
      expectation'.stdoutMustBeJson ≤ expectation.stdoutMustBeJson ∧
      ∀ expected' ∈ expectation'.expectedEgress, ∃ expected ∈ expectation.expectedEgress,
        expected = expected' ∨ jsonContains expected expected' = true := by
  have hsuccess : (!c'.allowFailure) ≤ expectation.expectSuccess := by
    rw [he.success]
    have hallow := h.allowFailure
    revert hallow
    cases c.allowFailure <;> cases c'.allowFailure <;> decide
  have hjson : c'.requireJsonStdout ≤ expectation.stdoutMustBeJson :=
    he.isJson ▸ h.requireJsonStdout
  cases hraw' : c'.expectedEgress with
  | none => exact ⟨⟨_, none, _⟩, ⟨rfl, rfl, hraw' ▸ .none⟩, hsuccess, hjson, by simp⟩
  | some raw' =>
    obtain ⟨raw, hraw, hfragment⟩ := h.expectedEgress raw' hraw'
    -- the text of the first command is parsed
    obtain ⟨expected, hsome, hexpected⟩ : ∃ expected, expectation.expectedEgress = some expected ∧
        json.fromStr raw = .ok expected := by
      have hegress := he.egress
      rw [Option.mem_def.mp hraw] at hegress
      cases hegress' : expectation.expectedEgress with
      | none =>
        rw [hegress'] at hegress
        cases hegress
      | some expected =>
        rw [hegress'] at hegress
        cases hegress with
        | some hexpected => exact ⟨expected, rfl, hexpected⟩
    obtain ⟨expected', hexpected', hcontains⟩ : ∃ expected', json.fromStr raw' = .ok expected' ∧
        (expected = expected' ∨ jsonContains expected expected' = true) := by
      obtain rfl | ⟨whole, expected', hwhole, hexpected', hcontains⟩ := hfragment
      · exact ⟨expected, hexpected, .inl rfl⟩
      · rw [Except.ok.inj (hwhole.symm.trans hexpected)] at hcontains
        exact ⟨expected', hexpected', .inr hcontains⟩
    refine ⟨⟨_, some expected', _⟩, ⟨rfl, rfl, hraw' ▸ .some hexpected'⟩, hsuccess, hjson, ?_⟩
    intro value hvalue
    obtain rfl := Option.some.inj hvalue
    exact ⟨expected, hsome, hcontains⟩

theorem RunnerV1.relaxed (h : c.Relaxes json c') (hc : RunnerV1 world processes json c) :
    RunnerV1 world processes json c' := by
  obtain ⟨overrides, hready, hsmokes⟩ := hc
  refine ⟨overrides, by rwa [h.path, h.workdir, h.env], fun packPath hpack => ?_⟩
  rw [RunnerArgs.packPath, h.pack] at hpack
  obtain ⟨expectation, output, hpassed⟩ := hsmokes packPath hpack
  obtain ⟨expectation', hexpects', hsuccess, hjson, hegress⟩ :=
    (parseExpectation_eq_ok.mp hpassed.expects).relaxed h
  refine ⟨expectation', output, parseExpectation_eq_ok.mpr hexpects', h.path ▸ hpassed.found,
    hpassed.pack, ?_, meets_relaxed hsuccess hjson hegress hpassed.meets⟩
  have hran := hpassed.ran
  rw [runnerOptions_eq] at hran ⊢
  rw [h.path, h.arg, h.workdir, h.stdin]
  exact hran

end Runner

/-! ## Deployers -/

/-- The second command leaves the configuration out or applies it as the first does. -/
structure DeployerArgs.Relaxes (c c' : DeployerArgs) : Prop where
  path : c'.path = c.path
  config : c'.config = none ∨ c'.config = c.config ∧ c'.arg = c.arg

section Deployer

variable {world : World} {processes : Processes} {c c' : DeployerArgs}

theorem checkDeployer_passes : (∃ report, checkDeployer world processes c = .ok report ∧
      report.deployerV1 = true) ↔ DeployerV1 world processes c := by
  obtain ⟨hreport, hverdict⟩ := checkDeployer_verdict world processes c
  constructor
  · rintro ⟨report, h, hv1⟩
    exact (hverdict report h).1.mp hv1
  · intro h
    obtain ⟨report, hok⟩ : ∃ report, checkDeployer world processes c = .ok report := by
      obtain ⟨⟨metadata, hm, -⟩, ⟨output, hhelps, -⟩, -⟩ := h
      exact hreport.mpr ⟨⟨metadata, hm⟩, fun _ => ⟨output, hhelps⟩⟩
    exact ⟨report, hok, (hverdict report hok).1.mpr h⟩

theorem DeployerV1.relaxed (h : c.Relaxes c') (hc : DeployerV1 world processes c) :
    DeployerV1 world processes c' := by
  obtain ⟨hfilled, ⟨output, hhelps, hsuccess⟩, happlies⟩ := hc
  have hcall (args : List OsStr) : c'.call args = c.call args := by
    rw [DeployerArgs.call, DeployerArgs.call, h.path]
  refine ⟨h.path ▸ hfilled, ⟨output, ?_, hsuccess⟩, fun config hconfig => ?_⟩
  · rw [Helps, hcall]
    exact hhelps
  · obtain hnone | ⟨hsame, harg⟩ := h.config
    · rw [hnone] at hconfig
      cases hconfig
    · rw [hsame] at hconfig
      obtain ⟨first, second, hfound, hexists, happlied, hagain, hstdout⟩ := happlies config hconfig
      have hcalls : c'.applyCall config = c.applyCall config := by
        rw [DeployerArgs.applyCall, DeployerArgs.applyCall, hcall, harg]
      refine ⟨first, second, h.path ▸ hfound, hexists, ?_, ?_, hstdout⟩
      · rw [hcalls]
        exact happlied
      · rw [hcalls]
        exact hagain

end Deployer

/-! ## Commands -/

namespace Commands

/-- The second command asks for no more than the first. The format does not matter. -/
inductive Relaxes (json : SerdeJson) : Commands → Commands → Prop
  | checkPack (path format format') {dev dev' unsigned unsigned'} (hdev : dev ≤ dev')
      (hunsigned : unsigned ≤ unsigned') :
      Relaxes json (.checkPack path dev unsigned format) (.checkPack path dev' unsigned' format')
  | checkFlow (path format format') {allow allow' extensions extensions'} (hallow : allow ≤ allow')
      (hsame : ∀ extension, extension ∈ extensions'.map toAsciiLowercase ↔
        extension ∈ extensions.map toAsciiLowercase) :
      Relaxes json (.checkFlow path allow extensions format)
        (.checkFlow path allow' extensions' format')
  | checkComponent (format format') {c c' : ComponentArgs} (h : c.Relaxes c') :
      Relaxes json (.checkComponent c format) (.checkComponent c' format')
  | checkRunner (format format') {c c' : RunnerArgs} (h : c.Relaxes json c') :
      Relaxes json (.checkRunner c format) (.checkRunner c' format')
  | checkDeployer (format format') {c c' : DeployerArgs} (h : c.Relaxes c') :
      Relaxes json (.checkDeployer c format) (.checkDeployer c' format')

variable {world : World} {processes : Processes} {libraries : Libraries}
variable {command command' : Commands}

/-- The check opens a pack. -/
def opensPack : Commands → Bool
  | .checkPack _ _ _ _ => true
  | _ => false

/-- The check gives a report with a good verdict. -/
def Passes (world : World) (processes : Processes) (libraries : Libraries) (command : Commands) :
    Prop :=
  ∃ report, command.check world processes libraries = .ok report ∧ report.verdict = true

theorem exists_map_iff {α : Type} {r : Except Error α} {f : α → Report} :
    (∃ report, r.map f = .ok report ∧ report.verdict = true) ↔
      ∃ a, r = .ok a ∧ (f a).verdict = true := by
  simp only [map_eq_ok]
  constructor
  · rintro ⟨_, ⟨a, ha, rfl⟩, hverdict⟩
    exact ⟨a, ha, hverdict⟩
  · rintro ⟨a, ha, hverdict⟩
    exact ⟨_, ⟨a, ha, rfl⟩, hverdict⟩

end Commands

/-- **Asking for less.** Where a command passes, every command passes that asks for no more:
with further flags that allow something, with flows of the runtime, an operation or a
configuration left out, or with a fragment of the expected egress. For a pack this is up to
the policy that it is opened under. -/
theorem check_relaxed {world : World} {processes : Processes} {libraries : Libraries}
    {command command' : Commands}
    (hopen : command.opensPack = true → Lenient libraries.openPack)
    (h : command.Relaxes libraries.json command')
    (hpasses : command.Passes world processes libraries) :
    command'.Passes world processes libraries := by
  rw [Commands.Passes] at hpasses ⊢
  cases h with
  | checkPack path format format' hdev hunsigned =>
    simp only [Commands.check, Commands.exists_map_iff, withContext_eq_ok] at hpasses ⊢
    exact checkPack_relaxed (hopen rfl) hdev hunsigned hpasses
  | checkFlow path format format' hallow hsame =>
    simp only [Commands.check, Commands.exists_map_iff, withContext_eq_ok] at hpasses ⊢
    exact checkFlow_relaxed hallow hsame hpasses
  | checkComponent format format' hc =>
    simp only [Commands.check, Commands.exists_map_iff] at hpasses ⊢
    exact checkComponent_passes.mpr ((checkComponent_passes.mp hpasses).relaxed hc)
  | checkRunner format format' hc =>
    simp only [Commands.check, Commands.exists_map_iff] at hpasses ⊢
    exact checkRunner_passes.mpr ((checkRunner_passes.mp hpasses).relaxed hc)
  | checkDeployer format format' hc =>
    simp only [Commands.check, Commands.exists_map_iff] at hpasses ⊢
    exact checkDeployer_passes.mpr ((checkDeployer_passes.mp hpasses).relaxed hc)

namespace Sample

/-- The sample pack with a signature that is trusted. -/
def signedPack : PackLoad :=
  { samplePack with report := { samplePack.report with signatureOk := true } }

def signedLibraries : Libraries := { libraries with openPack := fun _ _ => .ok signedPack }

theorem lenient_signed : Lenient signedLibraries.openPack := by
  intro path pack hpack
  exact ⟨pack, hpack, rfl, rfl, id⟩

end Sample

theorem check_relaxed_signed :
    (Commands.checkPack (.ofString "demo.gtpack") false true .text).Passes Sample.emptyWorld
      Sample.noProcesses Sample.signedLibraries :=
  check_relaxed (fun _ => Sample.lenient_signed)
    (.checkPack _ .json .text le_rfl Bool.false_lt_true.le) ⟨_, rfl, by decide⟩

end GreenticConformance.Cli
