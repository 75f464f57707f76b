import GreenticConformance.Assertions
import GreenticConformance.Checks.Firsts
import GreenticConformance.Host.World

/-!
# Telemetry

The assertions of `assertions.rs` on captured spans and on session ids. The parser of
versions is a parameter.

## Main definitions

- `SpanRecord`, `assertOtelAttributes`, `assertSpanAttrs`
- `assertValidSessionIds`

## Main results

- `assertSpanAttrs_eq_ok`, `assertSpanAttrs_eq_error` — which spans pass, and which failure
  is returned
- `assertOtelAttributes_congr` — attributes that are not required do not matter
-/

namespace GreenticConformance.Assertions

open Checks Host

/-! ## Spans -/

/-- `REQUIRED_OTEL_KEYS`. -/
def requiredOtelKeys : List String :=
  ["service.name", "greentic.pack.id", "greentic.pack.version", "greentic.flow.id",
    "greentic.node.id", "greentic.component.name", "greentic.component.version",
    "greentic.tenant.id", "greentic.team.id", "greentic.user.id", "greentic.session.id",
    "greentic.run.status", "greentic.capability", "greentic.artifacts.dir"]

structure SpanRecord where
  name : String
  attributes : List (String × Json)

section Assert

-- `semver::Version::parse`, of which the error is looked at
variable (parseVersion : String → Except String Unit) (json : SerdeJson)

/-- The body of the loop over the keys. -/
def assertOtelAttribute (attrs : List (String × Json)) (key : String) : Except Error Unit := do
  let value ← okOr (attrs.lookup key) (anyhow s!"span missing required attribute '{key}'")
  let asStr ← okOr value.asStr
    (anyhow s!"span attribute '{key}' must be a string (found {json.toString value})")
  failIf (isBlank asStr) (anyhow s!"span attribute '{key}' must not be empty")
  checkIf (key = "greentic.pack.version") <|
    (parseVersion (trim asStr)).mapError fun err =>
      anyhow s!"span attribute 'greentic.pack.version' must be valid semver: {err}"

def assertOtelAttributes (attrs : List (String × Json)) : Except Error Unit :=
  requiredOtelKeys.forM (assertOtelAttribute parseVersion json attrs)

/-- The body of the loop over the spans. -/
def assertSpan (span : SpanRecord) : Except Error Unit :=
  withContext (assertOtelAttributes parseVersion json span.attributes)
    s!"span '{span.name}' missing required telemetry attributes"

def assertSpanAttrs (spans : List SpanRecord) : Except Error Unit := do
  failIf spans.isEmpty (anyhow "no spans captured; telemetry disabled or misconfigured")
  spans.forM (assertSpan parseVersion json)

end Assert

/-! ## Sessions -/

def assertValidSessionIds (sessionId : String) (correlationId threadId : Option String) :
    Except Error Unit := do
  ensureNonEmpty "session_id" sessionId
  match correlationId with
  | some correlationId => ensureNonEmpty "correlation_id" correlationId
  | none => .ok ()
  match threadId with
  | some threadId => ensureNonEmpty "thread_id" threadId
  | none => .ok ()

/-! ## What passes -/

variable {parseVersion : String → Except String Unit} {json : SerdeJson}
variable {attrs : List (String × Json)} {key : String} {span : SpanRecord}
variable {spans : List SpanRecord} {e : Error}

/-- The attribute is a string that says something, and a version where one is asked for. -/
def HasAttribute (parseVersion : String → Except String Unit) (attrs : List (String × Json))
    (key : String) : Prop :=
  ∃ s, attrs.lookup key = some (.string s) ∧ isBlank s = false ∧
    (key = "greentic.pack.version" → parseVersion (trim s) = .ok ())

theorem assertOtelAttribute_eq_ok : assertOtelAttribute parseVersion json attrs key = .ok () ↔
    HasAttribute parseVersion attrs key := by
  simp only [assertOtelAttribute, bind_eq_ok, exists_unit, okOr_eq_ok, failIf_eq_ok, checkIf_eq_ok,
    mapError_eq_ok, decide_eq_true_eq, Bool.not_eq_true, HasAttribute]
  constructor
  · rintro ⟨value, hvalue, s, hs, hblank, hversion⟩
    cases value with
    | string t =>
      obtain rfl := Option.some.inj hs
      exact ⟨t, hvalue, hblank, hversion⟩
    | _ => cases hs
  · rintro ⟨s, hs, hblank, hversion⟩
    exact ⟨.string s, hs, s, rfl, hblank, hversion⟩

theorem assertSpanAttrs_eq_ok : assertSpanAttrs parseVersion json spans = .ok () ↔
    spans ≠ [] ∧ ∀ span ∈ spans, ∀ key ∈ requiredOtelKeys,
      HasAttribute parseVersion span.attributes key := by
  simp only [assertSpanAttrs, assertSpan, assertOtelAttributes, bind_eq_ok, exists_unit,
    failIf_eq_ok, forM_eq_ok, withContext_eq_ok, assertOtelAttribute_eq_ok, Bool.not_eq_true,
    List.isEmpty_eq_false_iff]

/-- **Failures** name the first span with a missing attribute, and the first such attribute
of it. -/
theorem assertSpanAttrs_eq_error (h : spans ≠ []) :
    assertSpanAttrs parseVersion json spans = .error e ↔
      FirstFailure (assertSpan parseVersion json) spans e := by
  have hpass : failIf (spans.isEmpty = true)
      (anyhow "no spans captured; telemetry disabled or misconfigured") = .ok () :=
    failIf_eq_ok.mpr (by rwa [List.isEmpty_iff])
  rw [assertSpanAttrs, hpass]
  exact forM_eq_error

theorem assertSpan_eq_error : assertSpan parseVersion json span = .error e ↔
    ∃ cause, FirstFailure (assertOtelAttribute parseVersion json span.attributes)
        requiredOtelKeys cause ∧
      cause.context s!"span '{span.name}' missing required telemetry attributes" = e := by
  rw [assertSpan, withContext, mapError_eq_error]
  simp only [assertOtelAttributes, forM_eq_error]

/-- Of the attributes of a span the required ones are looked at. -/
theorem assertOtelAttributes_congr {attrs' : List (String × Json)}
    (h : ∀ key ∈ requiredOtelKeys, attrs.lookup key = attrs'.lookup key) :
    assertOtelAttributes parseVersion json attrs =
      assertOtelAttributes parseVersion json attrs' := by
  refine forM_congr fun key hkey => ?_
  rw [assertOtelAttribute, assertOtelAttribute, h key hkey]

end GreenticConformance.Assertions
