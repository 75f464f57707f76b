import GreenticConformance.Cli.Checks
import GreenticConformance.Cli.PackChecked
import GreenticConformance.OAuthMock.Strings

/-!
# Before anything is started

The checks of components, runners and deployers look at a file first, and those of
components and runners at the directory to work in and the variables to set. Only when
none of these gave an issue, something is started.

## Main definitions

- `IsFilled`, `Ready` — what is asked before anything is started
- `Ran` — a command was started and has ended

## Main results

- `early_eq_nil` — no issue is found at first exactly if everything is ready
-/

namespace GreenticConformance.Cli

open Checks Host
open OAuthMock (splitOnce_eq_some_iff)

/-! ## Files and variables -/

/-- The text sets a variable: what stands before the first `=` is its name. -/
def IsOverride (raw : String) (setting : String × String) : Prop :=
  raw = setting.1 ++ "=" ++ setting.2 ∧ '=' ∉ setting.1.toList ∧ isBlank setting.1 = false

/-- The path is that of a file with something in it. -/
def IsFilled (world : World) (path : Path) : Prop :=
  ∃ metadata, world.metadata path = .ok metadata ∧ metadata.isFile = true ∧ metadata.len ≠ 0

/-- The file is there, so is the directory to work in, and these variables are to be set. -/
structure Ready (world : World) (path : Path) (workdir : Option Path) (vars : List String)
    (overrides : List (String × String)) : Prop where
  file : IsFilled world path
  workdir : ∀ dir ∈ workdir, world.pathExists dir = true
  env : List.Forall₂ IsOverride vars overrides

section Ready

variable {world : World} {kind raw : String} {path : Path} {workdir : Option Path}
  {metadata : Metadata} {vars : List String} {setting : String × String}
  {overrides : List (String × String)}

theorem parseEnvVar_eq_ok : parseEnvVar raw = .ok setting ↔ IsOverride raw setting := by
  have hsplit : OAuthMock.splitOnce '=' raw = some setting ↔
      raw = setting.1 ++ "=" ++ setting.2 ∧ '=' ∉ setting.1.toList := by
    rw [splitOnce_eq_some_iff, ← String.toList_inj]
    simp [String.toList_append]
  simp only [parseEnvVar, bind_eq_ok, exists_unit, okOr_eq_ok, failIf_eq_ok, pure_eq_ok,
    Bool.not_eq_true]
  constructor
  · rintro ⟨found, hfound, hblank, rfl⟩
    exact ⟨(hsplit.mp hfound).1, (hsplit.mp hfound).2, hblank⟩
  · rintro ⟨hraw, hname, hblank⟩
    exact ⟨setting, hsplit.mpr ⟨hraw, hname⟩, hblank, rfl⟩

theorem parseEnvVars_eq_ok :
    parseEnvVars vars = .ok overrides ↔ List.Forall₂ IsOverride vars overrides := by
  simp only [parseEnvVars, mapM_eq_ok_iff_forall₂, parseEnvVar_eq_ok]

theorem envOverrides_eq_nil :
    (envOverrides vars).2 = [] ↔ List.Forall₂ IsOverride vars (envOverrides vars).1 := by
  unfold envOverrides
  cases hparse : parseEnvVars vars with
  | ok overrides => exact iff_of_true rfl (parseEnvVars_eq_ok.mp hparse)
  | error e =>
    refine iff_of_false (by simp) fun h => ?_
    cases hparse.symm.trans (parseEnvVars_eq_ok.mpr h)

theorem fileIssues_eq_nil :
    fileIssues kind metadata = [] ↔ metadata.isFile = true ∧ metadata.len ≠ 0 := by
  simp [fileIssues]

theorem workdirIssues_eq_nil :
    workdirIssues world kind workdir = [] ↔ ∀ dir ∈ workdir, world.pathExists dir = true := by
  unfold workdirIssues
  cases workdir with
  | none => simp
  | some dir => simp

theorem isFilled_iff (hm : world.metadata path = .ok metadata) :
    IsFilled world path ↔ metadata.isFile = true ∧ metadata.len ≠ 0 := by
  constructor
  · rintro ⟨metadata', hm', hfilled⟩
    rwa [Except.ok.inj (hm.symm.trans hm')]
  · intro hfilled
    exact ⟨metadata, hm, hfilled⟩

/-- No issue is found at first exactly if everything is ready. -/
theorem early_eq_nil (hm : world.metadata path = .ok metadata) :
    fileIssues kind metadata ++ workdirIssues world kind workdir ++ (envOverrides vars).2 = [] ↔
      Ready world path workdir vars (envOverrides vars).1 := by
  rw [List.append_eq_nil_iff, List.append_eq_nil_iff, fileIssues_eq_nil, workdirIssues_eq_nil,
    envOverrides_eq_nil, ← isFilled_iff hm]
  constructor
  · rintro ⟨⟨hfile, hdir⟩, henv⟩
    exact ⟨hfile, hdir, henv⟩
  · rintro ⟨hfile, hdir, henv⟩
    exact ⟨⟨hfile, hdir⟩, henv⟩

theorem Ready.overrides_eq (h : Ready world path workdir vars overrides) :
    (envOverrides vars).1 = overrides := by
  rw [envOverrides, parseEnvVars_eq_ok.mpr h.env]

/-- The variables to be set are those that were parsed. -/
theorem exists_ready_iff {p : List (String × String) → Prop} :
    (∃ overrides, Ready world path workdir vars overrides ∧ p overrides) ↔
      Ready world path workdir vars (envOverrides vars).1 ∧ p (envOverrides vars).1 := by
  constructor
  · rintro ⟨overrides, hready, hp⟩
    rw [hready.overrides_eq]
    exact ⟨hready, hp⟩
  · rintro ⟨hready, hp⟩
    exact ⟨_, hready, hp⟩

end Ready

/-! ## Processes -/

/-- The command is the first that is started, takes its payload, and ends with this output. -/
def Ran (processes : Processes) (command : Command) (output : Output) : Prop :=
  ∃ child, processes.spawn 0 command = .ok child ∧
    (command.stdin ≠ none → child.writeStdin = .ok ()) ∧ child.waitWithOutput = .ok output

theorem output_eq_ok {processes : Processes} {command : Command} {output : Output}
    (h : command.stdin = none) :
    processes.output 0 command = .ok output ↔ Ran processes command output := by
  rw [Processes.output, bind_eq_ok, Ran]
  refine exists_congr fun child => and_congr_right fun _ => ?_
  rw [h]
  simp

/-! ## Options -/

/-- Options that are added one by one are kept in their order. -/
theorem foldl_snoc {α σ : Type*} (g : List α → σ) {f : σ → α → σ}
    (h : ∀ kept added, f (g kept) added = g (kept ++ [added])) (kept added : List α) :
    added.foldl f (g kept) = g (kept ++ added) := by
  have happend : added.foldl (fun kept added => kept ++ [added]) kept = kept ++ added := by
    rw [List.foldl_append_eq_append, ← List.flatMap_def, List.flatMap_singleton']
  rw [← happend]
  exact List.foldl_hom g fun kept added => h kept added

end GreenticConformance.Cli
