import GreenticConformance.Host.Json
import GreenticConformance.Runs.Logged
import Mathlib.Data.List.DropRight
import Mathlib.Data.Rat.Defs

/-!
# Driving the modules of a hosted plan

`ci/tools/run_rp_modules.py`: the driver reads the modules of a plan from the suite's
API, starts each, has the relying party log in and polls the module until it ends.
The suite, the trigger and the clock answer as they like, or raise.

## Main definitions

- `Raised` — exceptions, and the operations of Python on decoded JSON that raise them
- `Suite` — the answers the driver gets
- `ensureModules`, `startModule`, `pollModule`, `driveModules` — the driver
-/

namespace GreenticConformance.HostedPlan

open Host Runs

/-! ## Decoded JSON in Python -/

/-- An exception; `except RuntimeError` tells the first apart from the others. -/
inductive Raised where
  | runtimeError (message : String)
  | attributeError
  | typeError
  | other (description : String)

/-- The truth value of a decoded value. Zero has one text. -/
def truthy : Json → Bool
  | .null => false
  | .bool b => b
  | .number literal => literal ≠ "0"
  | .string s => s ≠ ""
  | .array items => !items.isEmpty
  | .object members => !members.isEmpty

/-- `a or b`. -/
def orElse (a b : Json) : Json := if truthy a then a else b

/-- `value.get(key)`. -/
def get (value : Json) (key : String) : Except Raised Json :=
  match value with
  | .object members => .ok ((members.lookup key).getD .null)
  | _ => .error .attributeError

/-- What `for item in value` goes through. -/
def iterate (value : Json) : Except Raised (List Json) :=
  match value with
  | .array items => .ok items
  | .object members => .ok (members.map fun member => .string member.1)
  | .string s => .ok (s.toList.map fun c => .string (String.singleton c))
  | _ => .error .typeError

/-- `value == s`. -/
def isString (value : Json) (s : String) : Bool := value.asStr = some s

/-- `value in {..}`, of a set of strings: what has no hash cannot be looked up. -/
def isIn (value : Json) (names : List String) : Except Raised Bool :=
  match value with
  | .array _ | .object _ => .error .typeError
  | .string s => .ok (decide (s ∈ names))
  | _ => .ok false

/-! ## The environment -/

/-- A call of the `client`. -/
structure Request where
  method : String
  path : String
  data : Option String
  deriving DecidableEq

/-- The body of a trigger request. -/
structure TriggerPayload where
  moduleId : Json
  clientAlias : String
  issuer : String

/-- What the driver gets to see. Answers depend on the listing that is being driven,
counted from 1, and on how often the same was asked before during that listing. -/
structure Suite where
  client : ℕ → ℕ → Request → Except Raised Json
  triggerRp : ℕ → String → TriggerPayload → Except Raised Unit
  time : ℕ → ℕ → ℚ
  str : Json → String
  urljoin : String → String → String

/-- What the driver does, as far as others see it. -/
inductive Event where
  | processing (name moduleId : Json)
  | request (request : Request) (reply : Except Raised Json)
  | trigger (url : String) (payload : TriggerPayload) (reply : Except Raised Unit)
  | time (now : ℚ)

abbrev Driver (α : Type) := Logged Event Raised α

/-- An entry of the list that `ensure_modules` returns. -/
structure Module where
  id : Json
  name : Json
  status : Json

/-- The keyword arguments of `drive_modules`. -/
structure Arguments where
  planId : String
  clientAlias : String
  triggerUrl : String
  serverBase : String
  failFast : Bool

def acceptableResults : List String := ["PASSED", "WARNING", "REVIEW", "SKIPPED"]

/-- `not (status != "FINISHED" or result not in ACCEPTABLE_RESULTS)`. -/
def isAcceptable (status outcome : Json) : Except Raised Bool :=
  if isString status "FINISHED" then isIn outcome acceptableResults else .ok false

/-! ## The driver -/

section Driver

variable (suite : Suite)

/-- `client(method, path, data=data)`. -/
def call (listing asked : ℕ) (request : Request) : Driver Json :=
  let reply := suite.client listing asked request
  Logged.ask (.request request reply) reply

def planRequest (planId : String) : Request := ⟨"GET", s!"/api/plan/{planId}", none⟩

def infoRequest (moduleId : Json) : Request :=
  let id := suite.str moduleId
  ⟨"GET", s!"/api/info/{id}", none⟩

def startRequest (moduleId : Json) : Request :=
  let id := suite.str moduleId
  ⟨"POST", s!"/api/runner/{id}", some ""⟩

def startAgainRequest (moduleId : Json) : Request :=
  let id := suite.str moduleId
  ⟨"POST", s!"/api/runner/{id}/start", some ""⟩

def startModule (listing : ℕ) (moduleId : Json) : Driver Json :=
  (call suite listing 0 (startRequest suite moduleId)).catching fun
    | .runtimeError _ => call suite listing 0 (startAgainRequest suite moduleId)
    | e => Logged.raise e

/-- `trigger_rp`. -/
def triggerRp (listing : ℕ) (triggerUrl : String) (payload : TriggerPayload) : Driver Unit :=
  let reply := suite.triggerRp listing triggerUrl payload
  Logged.ask (.trigger triggerUrl payload reply) reply

/-- `time.time()`. -/
def now (listing asked : ℕ) : Driver ℚ :=
  let reading := suite.time listing asked
  Logged.ask (.time reading) (.ok reading)

/-- A module that did not end well. -/
def notPassed (failFast : Bool) (message : String) : Driver Bool :=
  if failFast then Logged.raise (.runtimeError message) else pure false

/-- The verdict on a module that has ended. -/
def ended (moduleId : Json) (failFast : Bool) (status outcome : Json) : Driver Bool := do
  let acceptable ← Logged.result (isAcceptable status outcome)
  if acceptable then pure true
  else
    let id := suite.str moduleId
    let status := suite.str status
    let outcome := suite.str outcome
    notPassed failFast s!"Module {id} ended with status={status} result={outcome}"

/-- The loop of `poll_module`, from its n-th round. -/
def pollLoop (listing : ℕ) (moduleId : Json) (failFast : Bool) (deadline : ℚ) :
    ℕ → ℕ → Json → Driver Bool
  | 0, _, _ => Logged.stall
  | fuel + 1, n, lastStatus => do
    let reading ← now suite listing n
    if reading < deadline then
      let info ← call suite listing n (infoRequest suite moduleId)
      let status ← Logged.result (get info "status")
      let outcome ← Logged.result (get info "result")
      let stopped ← Logged.result (isIn status ["FINISHED", "INTERRUPTED"])
      if stopped then ended suite moduleId failFast status outcome
      else pollLoop listing moduleId failFast deadline fuel (n + 1) status
    else
      let id := suite.str moduleId
      let status := suite.str lastStatus
      notPassed failFast s!"Module {id} timed out (last status={status})"

def pollModule (fuel listing : ℕ) (moduleId : Json) (failFast : Bool) : Driver Bool := do
  let start ← now suite listing 0
  pollLoop suite listing moduleId failFast (start + 900) fuel 1 .null

/-- What `ensure_modules` makes of an entry: nothing of one without an id. -/
def normalizeModule (module : Json) : Except Raised (Option Module) := do
  let moduleId ← get module "moduleId"
  let id ← get module "id"
  let fallback ← get module "_id"
  let testModule ← get module "testModule"
  let name ← get module "name"
  let status ← get module "status"
  let chosen := orElse (orElse moduleId id) fallback
  if truthy chosen then return some ⟨chosen, orElse testModule name, status⟩ else return none

def ensureModules (planId : String) : Driver (List Module) := do
  let detail ← call suite 0 0 (planRequest planId)
  let modules ← Logged.result (get detail "modules")
  let entries ← Logged.result (iterate (orElse modules (.array [])))
  let normalized ← Logged.result (entries.mapM normalizeModule)
  if (normalized.filterMap id).isEmpty then
    Logged.raise
      (.runtimeError "Plan contains no modules; ensure run-test-plan.py created them")
  else pure (normalized.filterMap id)

/-- `try: x except RuntimeError: if fail_fast: raise`; nothing, if it was caught. -/
def attempt {α : Type} (failFast : Bool) (x : Driver α) : Driver (Option α) :=
  Logged.catching (do let a ← x; pure (some a)) fun
    | .runtimeError message =>
      if failFast then Logged.raise (.runtimeError message) else pure none
    | e => Logged.raise e

/-- Starts a module with a status, after which it is `WAITING`. -/
def startFrom (listing : ℕ) (moduleId : Json) (stage : String) (status : Json) : Driver Json :=
  if isString status stage then do
    let _ ← startModule suite listing moduleId
    pure (.string "WAITING")
  else pure status

/-- The trigger of a module that waits for it. -/
def triggerWaiting (listing : ℕ) (arguments : Arguments) (issuer : String)
    (moduleId status : Json) : Driver (Option Unit) :=
  if isString status "WAITING" then
    attempt arguments.failFast
      (triggerRp suite listing arguments.triggerUrl ⟨moduleId, arguments.clientAlias, issuer⟩)
  else pure (some ())

/-- The poll of a module, unless its trigger failed: `overall_success` after it. -/
def pollTriggered (fuel listing : ℕ) (failFast overallSuccess : Bool) (moduleId : Json)
    (triggered : Option Unit) : Driver Bool :=
  match triggered with
  | none => pure false
  | some () => do
    let polled ← attempt failFast (pollModule suite fuel listing moduleId failFast)
    pure (polled.elim false fun ok => overallSuccess && ok)

/-- The body of the loop over the modules: `overall_success` after it. -/
def driveModule (fuel listing : ℕ) (arguments : Arguments) (issuer : String)
    (overallSuccess : Bool) (module : Module) : Driver Bool := do
  Logged.note (.processing module.name module.id)
  let info ← call suite listing 0 (infoRequest suite module.id)
  let status ← Logged.result (get info "status")
  let status ← startFrom suite listing module.id "CREATED" status
  let status ← startFrom suite listing module.id "CONFIGURED" status
  let triggered ← triggerWaiting suite listing arguments issuer module.id status
  pollTriggered suite fuel listing arguments.failFast overallSuccess module.id triggered

/-- The loop over the modules, from a listing on. -/
def driveFrom (fuel : ℕ) (arguments : Arguments) (issuer : String) :
    ℕ → Bool → List Module → Driver Bool
  | _, overallSuccess, [] => pure overallSuccess
  | listing, overallSuccess, module :: modules => do
    let overallSuccess ← driveModule suite fuel listing arguments issuer overallSuccess module
    driveFrom fuel arguments issuer (listing + 1) overallSuccess modules

/-- `s.rstrip("/")`. -/
def rstripSlash (s : String) : String := String.ofList (s.toList.rdropWhile (· = '/'))

/-- The issuer that the relying party is told. -/
def issuerOf (arguments : Arguments) : String :=
  let clientAlias := arguments.clientAlias
  suite.urljoin (rstripSlash arguments.serverBase ++ "/") s!"test/a/{clientAlias}/"

def driveModules (fuel : ℕ) (arguments : Arguments) : Driver Bool := do
  let modules ← ensureModules suite arguments.planId
  driveFrom suite fuel arguments (issuerOf suite arguments) 1 true modules

end Driver

end GreenticConformance.HostedPlan
