import GreenticConformance.Cli.Ready

/-!
# What the verdict on a component stands for

`check_component` verifies the exports of the component's pack and invokes an operation
of it, and turns the errors of both into issues. Its report is read back here.

## Main definitions

- `Exports`, `Operates` — what the pack exports, and an invocation that goes well
- `ComponentV1` — what the verdict stands for

## Main results

- `checkComponent_verdict` — when there is a report, and what it says
-/

namespace GreenticConformance.Cli

open Checks Host
open ComponentSuite (ComponentInvocationOptions)
open PackSuite (Flag PackManifest PackReport PackSuiteOptions Reported RuntimeMatches Signed
  verifyPackExports_eq_ok)

section Component

variable (world : World) (processes : Processes) (parsers : Parsers PackManifest)
  (json : SerdeJson) (c : ComponentArgs)

/-- What the pack of a component is found to be. -/
structure Exports (runtimeFlows : Option (List String)) (report : PackReport) : Prop where
  reported : Reported world parsers (c.packOptions runtimeFlows) (.ofString c.path.display) report
  flows : report.manifest.flows ≠ []
  signed : c.allowUnsigned = false → Signed report.manifest
  matched : c.allowRuntimeMismatch = false →
    ∀ flows, report.runtimeFlows = some flows → RuntimeMatches report.manifest flows

/-- The operation is run on the input, succeeds and answers. -/
structure Operates (overrides : List (String × String)) (op : String) (output : Output) : Prop where
  found : world.pathExists c.path = true
  ran : ∃ payload, json.fromStr (c.input.getD "\x7b\x7d") = .ok payload ∧
    Ran processes ((c.invocation overrides).command c.path op (json.toString payload)) output
  success : output.status.success = true
  answer : c.allowNonJsonOutput = false →
    ∃ value, json.fromStr (trim output.stdout.toStringLossy) = .ok value

/-- What `component_v1_wit_only` stands for. -/
def ComponentV1 : Prop :=
  ∃ overrides, Ready world c.path c.workdir c.env overrides ∧
    (∃ runtimeFlows report, c.parseRuntimeFlows json = .ok runtimeFlows ∧
      Exports world parsers c runtimeFlows report) ∧
    ∀ op ∈ c.operation, ∃ output, Operates world processes json c overrides op output

variable {world processes parsers json c}
variable {runtimeFlows : Option (List String)} {overrides : List (String × String)} {op : String}
variable {run run' : ComponentRun}

/-- The flags of the pack suite that the flags of the command leave on. -/
def ComponentArgs.flags (c : ComponentArgs) : Finset Flag :=
  {.requireFlows} ∪ (if c.allowUnsigned then ∅ else {.requireSignature}) ∪
    (if c.allowRuntimeMismatch then ∅ else {.requireRuntimeMatch})

theorem packOptions_withFlags :
    (c.packOptions runtimeFlows).withFlags c.flags = c.packOptions runtimeFlows := by
  unfold ComponentArgs.packOptions ComponentArgs.flags
  cases c.manifest <;> cases c.allowUnsigned <;> cases c.allowRuntimeMismatch <;>
    cases runtimeFlows <;> rfl

theorem mem_flags {flag : Flag} : flag ∈ c.flags ↔ flag = .requireFlows ∨
    (c.allowUnsigned = false ∧ flag = .requireSignature) ∨
      c.allowRuntimeMismatch = false ∧ flag = .requireRuntimeMatch := by
  unfold ComponentArgs.flags
  cases c.allowUnsigned <;> cases c.allowRuntimeMismatch <;> simp

theorem verifyPackExports_packOptions {report : PackReport} :
    (c.packOptions runtimeFlows).verifyPackExports world parsers (.ofString c.path.display) =
      .ok report ↔ Exports world parsers c runtimeFlows report := by
  rw [← packOptions_withFlags, verifyPackExports_eq_ok]
  constructor
  · rintro ⟨hreported, hflags⟩
    refine ⟨hreported, hflags .requireFlows (mem_flags.mpr (.inl rfl)), fun hoff => ?_,
      fun hoff => ?_⟩
    · exact hflags .requireSignature (mem_flags.mpr (.inr (.inl ⟨hoff, rfl⟩)))
    · exact hflags .requireRuntimeMatch (mem_flags.mpr (.inr (.inr ⟨hoff, rfl⟩)))
  · intro h
    refine ⟨h.reported, fun flag hflag => ?_⟩
    rcases mem_flags.mp hflag with rfl | ⟨hoff, rfl⟩ | ⟨hoff, rfl⟩
    · exact h.flows
    · exact h.signed hoff
    · exact h.matched hoff

theorem invocation_eq :
    c.invocation overrides = ⟨c.arg, overrides, c.workdir, !c.allowNonJsonOutput⟩ := by
  have hargs : c.arg.foldl ComponentInvocationOptions.addArg .default = ⟨c.arg, [], none, true⟩ :=
    foldl_snoc (fun args => (⟨args, [], none, true⟩ : ComponentInvocationOptions))
      (fun _ _ => rfl) [] c.arg
  rw [ComponentArgs.invocation, hargs, foldl_snoc
    (fun env => (⟨c.arg, env, none, true⟩ : ComponentInvocationOptions)) (fun _ _ => ?_) []
    overrides]
  · cases c.workdir <;> cases c.allowNonJsonOutput <;> rfl
  · rfl

theorem parseOutput_eq_ok {o : ComponentInvocationOptions} {path : Path} {stdout : String} :
    (∃ found, o.parseOutput json path op stdout = .ok found) ↔
      (o.expectJsonOutput = true → ∃ value, json.fromStr (trim stdout) = .ok value) := by
  unfold ComponentInvocationOptions.parseOutput
  cases o.expectJsonOutput with
  | true =>
    simp only [if_true, bind_eq_ok, withContextOf_eq_ok, pure_eq_ok, true_implies]
    rw [exists_comm]
    simp
  | false => simp

theorem invokeGenericComponent_iff : (∃ invocation, (c.invocation overrides).invokeGenericComponent
      world processes json c.path op (c.input.getD "\x7b\x7d") = .ok invocation) ↔
    ∃ output, Operates world processes json c overrides op output := by
  simp only [ComponentInvocationOptions.invokeGenericComponent, bind_eq_ok, exists_unit,
    failIf_eq_ok, withContextOf_eq_ok, pure_eq_ok, Bool.not_eq_false]
  constructor
  · rintro ⟨_, hfound, payload, hpayload, child, hspawn, hwrite, output, hwait, hsuccess, answer,
      hanswer, -⟩
    have hparsed := parseOutput_eq_ok.mp ⟨answer, hanswer⟩
    refine ⟨output, hfound, ⟨payload, hpayload, child, hspawn, fun _ => hwrite, hwait⟩, hsuccess,
      fun hoff => hparsed ?_⟩
    rw [invocation_eq, hoff]
    rfl
  · rintro ⟨output, hfound, ⟨payload, hpayload, child, hspawn, hwrite, hwait⟩, hsuccess, hanswer⟩
    have hexpect : (c.invocation overrides).expectJsonOutput = true →
        c.allowNonJsonOutput = false := by
      rw [invocation_eq]
      simp
    obtain ⟨answer, hparsed⟩ : ∃ answer, (c.invocation overrides).parseOutput json c.path op
        output.stdout.toStringLossy = .ok answer :=
      parseOutput_eq_ok.mpr fun hon => hanswer (hexpect hon)
    exact ⟨_, hfound, payload, hpayload, child, hspawn, hwrite (Option.some_ne_none _), output,
      hwait, hsuccess, answer, hparsed, rfl⟩

/-! ### The steps of the check -/

theorem noteExports_witOnly : (c.noteExports world parsers runtimeFlows run).witOnly = true ↔
    ∃ report, Exports world parsers c runtimeFlows report := by
  simp only [← verifyPackExports_packOptions]
  unfold ComponentArgs.noteExports
  cases (c.packOptions runtimeFlows).verifyPackExports world parsers (.ofString c.path.display) with
  | ok report => exact iff_of_true rfl ⟨report, rfl⟩
  | error err => simp

theorem noteInvocation_witOnly :
    (c.noteInvocation world processes json overrides run).witOnly = true ↔ run.witOnly = true ∧
      ∀ op ∈ c.operation, ∃ output, Operates world processes json c overrides op output := by
  simp only [← invokeGenericComponent_iff]
  unfold ComponentArgs.noteInvocation
  cases c.operation with
  | none => simp
  | some op =>
    simp only [Option.mem_def, Option.some_inj, forall_eq']
    cases (c.invocation overrides).invokeGenericComponent world processes json c.path op
      (c.input.getD "\x7b\x7d") with
    | ok invocation => simp
    | error err => simp

/-- From a run without issues on, hosted is what WIT-only is. -/
theorem noteExports_hosted (h : run.hosted = true) :
    (c.noteExports world parsers runtimeFlows run).hosted =
      (c.noteExports world parsers runtimeFlows run).witOnly := by
  unfold ComponentArgs.noteExports
  cases (c.packOptions runtimeFlows).verifyPackExports world parsers (.ofString c.path.display) with
  | ok report =>
    dsimp only
    rw [h, Bool.or_true]
  | error err => rfl

theorem noteInvocation_hosted (h : run.hosted = run.witOnly) :
    (c.noteInvocation world processes json overrides run).hosted =
      (c.noteInvocation world processes json overrides run).witOnly := by
  unfold ComponentArgs.noteInvocation
  cases c.operation with
  | none => exact h
  | some op =>
    dsimp only
    cases (c.invocation overrides).invokeGenericComponent world processes json c.path op
      (c.input.getD "\x7b\x7d") with
    | ok invocation => exact h
    | error err => rfl

theorem settleHosted_of_eq (h : run.hosted = run.witOnly) :
    ComponentArgs.settleHosted run = run := by
  unfold ComponentArgs.settleHosted
  rw [h, if_neg (by simp)]

theorem noteExports_invokedOperation :
    (c.noteExports world parsers runtimeFlows run).invokedOperation = run.invokedOperation := by
  unfold ComponentArgs.noteExports
  cases (c.packOptions runtimeFlows).verifyPackExports world parsers (.ofString c.path.display) <;>
    rfl

theorem noteInvocation_invokedOperation (h : run.invokedOperation = none) :
    (c.noteInvocation world processes json overrides run).invokedOperation = some op ↔
      c.operation = some op ∧ ∃ output, Operates world processes json c overrides op output := by
  simp only [← invokeGenericComponent_iff]
  unfold ComponentArgs.noteInvocation
  cases c.operation with
  | none => simp [h]
  | some op' =>
    dsimp only
    cases hinvoke : (c.invocation overrides).invokeGenericComponent world processes json c.path op'
        (c.input.getD "\x7b\x7d") with
    | ok invocation =>
      simp only [Option.some_inj]
      refine ⟨fun heq => ⟨heq, invocation, heq ▸ hinvoke⟩, And.left⟩
    | error err =>
      simp only [h, Option.some_inj, reduceCtorEq, false_iff, not_and]
      rintro rfl ⟨invocation, hok⟩
      cases hinvoke.symm.trans hok

/-- What a run that started without issues comes to. -/
theorem exercise_of_nil (hissues : run.issues = []) (hhosted : run.hosted = true)
    (hinvoked : run.invokedOperation = none)
    (h : c.exercise world processes parsers json overrides run = .ok run') :
    ∃ runtimeFlows, c.parseRuntimeFlows json = .ok runtimeFlows ∧
      (run'.witOnly = true ↔ (∃ report, Exports world parsers c runtimeFlows report) ∧
        ∀ op ∈ c.operation, ∃ output, Operates world processes json c overrides op output) ∧
      run'.hosted = run'.witOnly ∧
      ∀ op, run'.invokedOperation = some op ↔
        c.operation = some op ∧ ∃ output, Operates world processes json c overrides op output := by
  simp only [ComponentArgs.exercise, if_pos hissues, bind_eq_ok, pure_eq_ok] at h
  obtain ⟨runtimeFlows, hparse, rfl⟩ := h
  have hnone : (c.noteExports world parsers runtimeFlows run).invokedOperation = none :=
    noteExports_invokedOperation.trans hinvoked
  have hlevel : (c.noteInvocation world processes json overrides
      (c.noteExports world parsers runtimeFlows run)).hosted = _ :=
    noteInvocation_hosted (noteExports_hosted hhosted)
  rw [settleHosted_of_eq hlevel]
  refine ⟨runtimeFlows, hparse, ?_, hlevel, fun op => noteInvocation_invokedOperation hnone⟩
  rw [noteInvocation_witOnly, noteExports_witOnly]

theorem exists_exercise_iff : (∃ run', c.exercise world processes parsers json overrides run =
      .ok run') ↔
    (run.issues = [] → ∃ runtimeFlows, c.parseRuntimeFlows json = .ok runtimeFlows) := by
  unfold ComponentArgs.exercise
  by_cases hissues : run.issues = []
  · rw [if_pos hissues]
    simp only [bind_eq_ok, pure_eq_ok]
    constructor
    · rintro ⟨_, runtimeFlows, hparse, -⟩ _
      exact ⟨runtimeFlows, hparse⟩
    · intro h
      obtain ⟨runtimeFlows, hparse⟩ := h hissues
      exact ⟨_, runtimeFlows, hparse, rfl⟩
  · rw [if_neg hissues]
    exact iff_of_true ⟨run, rfl⟩ fun hnil => absurd hnil hissues

/-- The variables of the check before anything is started. -/
def ComponentArgs.start (c : ComponentArgs) (world : World) (metadata : Metadata) : ComponentRun :=
  let issues :=
    fileIssues "component" metadata ++ workdirIssues world "component" c.workdir ++
      (envOverrides c.env).2
  ⟨issues, issues.isEmpty, issues.isEmpty, none⟩

theorem start_issues {metadata : Metadata} (hm : world.metadata c.path = .ok metadata) :
    (c.start world metadata).issues = [] ↔
      Ready world c.path c.workdir c.env (envOverrides c.env).1 :=
  early_eq_nil hm

/-- **Components.** There is a report on every path that can be looked at, unless nothing is
wrong and the runtime flows are not a list of strings. The component is WIT-only if it was
ready, its pack exports what it should, and the operation ran if there is one; it is hosted
exactly if it is WIT-only; and the operation is reported if it ran, whatever the pack. -/
theorem checkComponent_verdict (world : World) (processes : Processes)
    (parsers : Parsers PackManifest) (json : SerdeJson) (c : ComponentArgs) :
    ((∃ report, checkComponent world processes parsers json c = .ok report) ↔
      (∃ metadata, world.metadata c.path = .ok metadata) ∧
        ∀ overrides, Ready world c.path c.workdir c.env overrides →
          ∃ runtimeFlows, c.parseRuntimeFlows json = .ok runtimeFlows) ∧
    ∀ report, checkComponent world processes parsers json c = .ok report →
      (report.componentV1WitOnly = true ↔ ComponentV1 world processes parsers json c) ∧
      report.componentV1Hosted = report.componentV1WitOnly ∧
      ∀ op, report.invokedOperation = some op ↔ c.operation = some op ∧
        ∃ overrides, Ready world c.path c.workdir c.env overrides ∧
          ∃ output, Operates world processes json c overrides op output := by
  refine ⟨?_, fun report h => ?_⟩
  · simp only [checkComponent, bind_eq_ok, withContextOf_eq_ok, pure_eq_ok]
    constructor
    · rintro ⟨_, metadata, hm, run, hrun, -⟩
      refine ⟨⟨metadata, hm⟩, fun overrides hready => ?_⟩
      rw [← hready.overrides_eq] at hready
      exact exists_exercise_iff.mp ⟨run, hrun⟩ ((start_issues hm).mpr hready)
    · rintro ⟨⟨metadata, hm⟩, hparse⟩
      obtain ⟨run, hrun⟩ : ∃ run, c.exercise world processes parsers json (envOverrides c.env).1
          (c.start world metadata) = .ok run :=
        exists_exercise_iff.mpr fun hnil => hparse _ ((start_issues hm).mp hnil)
      exact ⟨_, metadata, hm, run, hrun, rfl⟩
  · simp only [checkComponent, bind_eq_ok, withContextOf_eq_ok, pure_eq_ok] at h
    obtain ⟨metadata, hm, run, hrun, rfl⟩ := h
    change c.exercise world processes parsers json _ (c.start world metadata) = .ok run at hrun
    rw [ComponentV1, exists_ready_iff]
    simp only [exists_ready_iff]
    by_cases hissues : (c.start world metadata).issues = []
    · have hready := (start_issues hm).mp hissues
      have hhosted : (c.start world metadata).hosted = true := List.isEmpty_iff.mpr hissues
      obtain ⟨runtimeFlows, hparse, hwit, hlevel, hinvoked⟩ :=
        exercise_of_nil hissues hhosted rfl hrun
      refine ⟨?_, hlevel, fun op => ?_⟩
      · rw [hwit]
        constructor
        · rintro ⟨⟨packReport, hexports⟩, hoperates⟩
          exact ⟨hready, ⟨runtimeFlows, packReport, hparse, hexports⟩, hoperates⟩
        · rintro ⟨-, ⟨runtimeFlows', packReport, hparse', hexports⟩, hoperates⟩
          rw [Except.ok.inj (hparse'.symm.trans hparse)] at hexports
          exact ⟨⟨packReport, hexports⟩, hoperates⟩
      · rw [hinvoked op]
        exact and_congr_right fun _ => (and_iff_right hready).symm
    · have hready : ¬ Ready world c.path c.workdir c.env (envOverrides c.env).1 :=
        fun hready => hissues ((start_issues hm).mpr hready)
      have hwit : (c.start world metadata).witOnly = false :=
        Bool.eq_false_iff.mpr fun hempty => hissues (List.isEmpty_iff.mp hempty)
      rw [ComponentArgs.exercise, if_neg hissues] at hrun
      obtain rfl := Except.ok.inj hrun
      refine ⟨?_, rfl, fun op => ?_⟩
      · exact iff_of_false (by simp [hwit]) fun h => hready h.1
      · exact iff_of_false (by simp [ComponentArgs.start]) fun h => hready h.2.1

end Component

end GreenticConformance.Cli
