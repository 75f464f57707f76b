import GreenticConformance.Assertions
import GreenticConformance.Host.World

/-!
# Environment variables

`env.rs`: how the suites read flags and the tenant they run for.

## Main results

- `TenantContext.detect_eq_ok` — which tenants a suite runs for
-/

namespace GreenticConformance.Env

open Assertions Checks Host

section Variables

variable (world : World)

def boolFlag (name : String) : Bool :=
  (world.envVar name).any fun value => toAsciiLowercase value ∈ ["1", "true", "yes"]

/-- A variable without the white space around it, unless nothing is left. -/
def trimmedVar (name : String) : Option String :=
  ((world.envVar name).map trim).filter (· ≠ "")

def requiredEnv (name : String) : Except Error String :=
  okOr (trimmedVar world name) (anyhow s!"environment variable {name} must be set")

def envOrDefault (name default : String) : String := (trimmedVar world name).getD default

def otelExporterEndpoint : Option String := trimmedVar world "OTEL_EXPORTER_OTLP_ENDPOINT"

end Variables

structure TenantContext where
  tenantId : String
  teamId : String
  userId : String
  deriving DecidableEq

def validateTenantCtx (ctx : TenantContext) : Except Error Unit :=
  assertValidTenantCtx ctx.tenantId ctx.teamId ctx.userId

namespace TenantContext

variable {world : World} {ctx : TenantContext}

/-- The tenant as the environment names it. -/
def read (world : World) : TenantContext where
  tenantId := envOrDefault world "TENANT_ID" "local-tenant"
  teamId := envOrDefault world "TEAM_ID" "local-team"
  userId := envOrDefault world "USER_ID" "local-user"

/-- The block under `CI`, where the defaults should not be used. -/
def refuseDefaults (ctx : TenantContext) : Except Error Unit := do
  failIf (ctx.tenantId = "local-tenant") (anyhow "TENANT_ID must be set in CI")
  failIf (ctx.teamId = "local-team") (anyhow "TEAM_ID must be set in CI")
  failIf (ctx.userId = "local-user") (anyhow "USER_ID must be set in CI")

def detect (world : World) : Except Error TenantContext := do
  let ctx := read world
  checkIf (boolFlag world "CI") ctx.refuseDefaults
  validateTenantCtx ctx
  return ctx

/-- A variable or its default is never blank, unless the default is. -/
theorem envOrDefault_filled {name default : String} (hdefault : isBlank default = false) :
    isBlank (envOrDefault world name default) = false := by
  unfold envOrDefault
  cases htrimmed : trimmedVar world name with
  | none => exact hdefault
  | some value =>
    obtain ⟨hmem, hne⟩ := Option.filter_eq_some_iff.mp htrimmed
    obtain ⟨raw, _, rfl⟩ := Option.map_eq_some_iff.mp hmem
    exact isBlank_trim (of_decide_eq_true hne)

/-- The three names of the tenant are filled in by construction, so their check
cannot fail. -/
theorem validate_read : validateTenantCtx (read world) = .ok () := by
  simp only [validateTenantCtx, assertValidTenantCtx, ensureNonEmpty, bind_eq_ok, exists_unit,
    failIf_eq_ok, Bool.not_eq_true]
  refine ⟨?_, ?_, ?_⟩
  · exact envOrDefault_filled (by decide)
  · exact envOrDefault_filled (by decide)
  · exact envOrDefault_filled (by decide)

/-- **Tenants**: a suite runs for the tenant of the environment, which outside of
`CI` may be the default one. -/
theorem detect_eq_ok : detect world = .ok ctx ↔
    ctx = read world ∧ (boolFlag world "CI" = true →
      ctx.tenantId ≠ "local-tenant" ∧ ctx.teamId ≠ "local-team" ∧ ctx.userId ≠ "local-user") := by
  simp only [detect, bind_eq_ok, exists_unit, checkIf_eq_ok, validate_read, refuseDefaults,
    failIf_eq_ok, pure_eq_ok, true_and]
  constructor
  · intro h
    obtain ⟨hdefaults, rfl⟩ := h
    exact ⟨rfl, hdefaults⟩
  · intro h
    obtain ⟨rfl, hdefaults⟩ := h
    exact ⟨hdefaults, rfl⟩

end TenantContext

end GreenticConformance.Env
