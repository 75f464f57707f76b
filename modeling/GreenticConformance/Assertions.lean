import GreenticConformance.Host.Error
import GreenticConformance.Host.Json
import GreenticConformance.Host.Text

/-!
# Assertions

The helpers of `assertions.rs` that the suites call.

## Main results

- `assertSignedPack_eq_ok`, `assertIdempotentSend_eq_ok` — what has passed an assertion
-/

namespace GreenticConformance.Assertions

open Checks Host

/-! ## Signature blocks -/

/-- The keys that `assert_signed_pack` looks for. -/
def signatureFields : List String := ["type", "public_key", "signature"]

def assertSignedPack (manifest : Json) : Except Error Unit := do
  let object ← okOr manifest.asObject (anyhow "pack manifest must be a JSON object")
  let block ← okOr (object.lookup "signature") (anyhow "pack manifest missing signature block")
  let signature ← okOr block.asObject (anyhow "signature block must be an object")
  signatureFields.forM fun field =>
    failIf ((signature.lookup field).isNone) (anyhow s!"signature block missing {field}")

/-- The assertion asks for an object with the three keys, and for nothing about
what is stored under them. -/
theorem assertSignedPack_eq_ok {manifest : Json} :
    assertSignedPack manifest = .ok () ↔
      ∃ signature, (manifest.get "signature").bind Json.asObject = some signature ∧
        ∀ field ∈ signatureFields, (signature.lookup field).isSome := by
  simp only [assertSignedPack, bind_eq_ok, okOr_eq_ok, forM_eq_ok, failIf_eq_ok,
    Bool.not_eq_true, Option.isNone_eq_false_iff, Json.get, Option.bind_eq_some_iff]
  constructor
  · intro h
    obtain ⟨object, hobject, block, hblock, signature, hsignature, hfields⟩ := h
    exact ⟨signature, ⟨block, ⟨object, hobject, hblock⟩, hsignature⟩, hfields⟩
  · intro h
    obtain ⟨signature, ⟨block, ⟨object, hobject, hblock⟩, hsignature⟩, hfields⟩ := h
    exact ⟨object, hobject, block, hblock, signature, hsignature, hfields⟩

/-! ## Messages -/

structure IdempotentMessage where
  id : String
  payloadKind : Option String
  deriving DecidableEq

/-- `IdempotentMessage::from` on an id and a kind. -/
def IdempotentMessage.ofPair (value : String × String) : IdempotentMessage :=
  ⟨value.1, some value.2⟩

/-- `assert_idempotent_send`. Only the ids are compared. -/
def assertIdempotentSend (messages : List IdempotentMessage) : Except Error Unit :=
  forDistinct IdempotentMessage.id
    (fun m => anyhow s!"message {m.id} was sent more than once (expected idempotent send)")
    (fun _ => .ok ()) (fun _ => .ok ()) ∅ messages

theorem assertIdempotentSend_eq_ok {messages : List IdempotentMessage} :
    assertIdempotentSend messages = .ok () ↔ (messages.map IdempotentMessage.id).Nodup := by
  simp [assertIdempotentSend, forDistinct_eq_ok]

/-! ## Tenants -/

def ensureNonEmpty (name value : String) : Except Error Unit :=
  failIf (isBlank value) (anyhow s!"{name} must not be empty or whitespace")

def assertValidTenantCtx (tenantId teamId userId : String) : Except Error Unit := do
  ensureNonEmpty "tenant_id" tenantId
  ensureNonEmpty "team_id" teamId
  ensureNonEmpty "user_id" userId

end GreenticConformance.Assertions
