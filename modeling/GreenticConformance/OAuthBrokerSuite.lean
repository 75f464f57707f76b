import GreenticConformance.Host.Codecs
import GreenticConformance.Host.Error
import GreenticConformance.Host.Text

/-!
# The OAuth broker

`oauth_broker_suite.rs`: the token requests and responses of a broker, how they are written
and read, and their checks. A response carries no tag. It is read as a token if it can be,
and as an error otherwise.

## Main definitions

- `BrokerTokenRequest`, `BrokerTokenResponse`, with `members` and a codec each
- `validateBrokerRequest`, `validateBrokerResponse`

## Main results

- `validateBrokerRequest_eq_ok`, `validateBrokerResponse_eq_ok` — what the checks accept
- `brokerTokenRequest_robust` — a request is read back from every form of it
- `brokerTokenResponse_reread` — what a response is taken for among other members
-/

namespace GreenticConformance.OAuthBrokerSuite

open Checks Host Serde

/-! ## Requests -/

structure BrokerTokenRequest where
  tenant : String
  resourceRef : String
  scopes : List String

def BrokerTokenRequest.members (req : BrokerTokenRequest) : List (String × Json) :=
  [("tenant", stringCodec.write req.tenant), ("resource_ref", stringCodec.write req.resourceRef),
    ("scopes", (listCodec stringCodec).write req.scopes)]

def brokerTokenRequestReader : Reader Json BrokerTokenRequest :=
  .field (required "tenant" stringCodec []) fun tenant =>
  .field (required "resource_ref" stringCodec []) fun resourceRef =>
  .field (required "scopes" (listCodec stringCodec) []) fun scopes =>
  .done { tenant, resourceRef, scopes }

def brokerTokenRequestCodec : Codec Json BrokerTokenRequest :=
  structCodec BrokerTokenRequest.members brokerTokenRequestReader

def validateBrokerRequest (req : BrokerTokenRequest) : Except Error Unit := do
  failIf (isBlank req.tenant) (anyhow "broker request missing tenant")
  failIf (isBlank req.resourceRef) (anyhow "broker request missing resource_ref")
  failIf (req.scopes.isEmpty || req.scopes.any isBlank)
    (anyhow "broker request scopes must be non-empty strings")

/-! ## Responses -/

inductive BrokerTokenResponse where
  | token (accessToken : String) (expiresIn : UInt64)
  | error (error : String) (errorDescription : Option String)

/-- A `u64`. The text of a number is that of its value. -/
def u64Codec : Codec Json UInt64 where
  write n := .number n.toNat.repr
  read
    | .number literal =>
      let n := Nat.ofDigitChars 10 literal.toList 0
      if n.repr = literal ∧ n < 2 ^ 64 then some (UInt64.ofNat n) else none
    | _ => none

namespace BrokerTokenResponse

def members : BrokerTokenResponse → List (String × Json)
  | token accessToken expiresIn =>
    [("access_token", stringCodec.write accessToken), ("expires_in", u64Codec.write expiresIn)]
  | error code errorDescription =>
    [("error", stringCodec.write code),
      ("error_description", (optionCodec stringCodec).write errorDescription)]

def tokenReader : Reader Json BrokerTokenResponse :=
  .field (required "access_token" stringCodec []) fun accessToken =>
  .field (required "expires_in" u64Codec []) fun expiresIn =>
  .done (token accessToken expiresIn)

def errorReader : Reader Json BrokerTokenResponse :=
  .field (required "error" stringCodec []) fun code =>
  .field (optional "error_description" stringCodec) fun errorDescription =>
  .done (error code errorDescription)

/-- `#[serde(untagged)]`: the variants are tried in their order, on an object. -/
def ofMembers (members : List (String × Json)) : Option BrokerTokenResponse :=
  (tokenReader.ofMembers members).or (errorReader.ofMembers members)

end BrokerTokenResponse

open BrokerTokenResponse

def brokerTokenResponseCodec : Codec Json BrokerTokenResponse where
  write res := .object res.members
  read
    | .object members => BrokerTokenResponse.ofMembers members
    | _ => none

def validateBrokerResponse : BrokerTokenResponse → Except Error Unit
  | token accessToken expiresIn => do
    failIf (isBlank accessToken) (anyhow "broker response access_token must not be empty")
    failIf (expiresIn = 0) (anyhow "broker response expires_in must be positive")
  | error code _ =>
    failIf (isBlank code) (anyhow "broker error must include non-empty error code")

/-! ## What the checks accept -/

theorem validateBrokerRequest_eq_ok {req : BrokerTokenRequest} :
    validateBrokerRequest req = .ok () ↔ isBlank req.tenant = false ∧
      isBlank req.resourceRef = false ∧ req.scopes ≠ [] ∧
      ∀ scope ∈ req.scopes, isBlank scope = false := by
  simp only [validateBrokerRequest, bind_eq_ok, exists_unit, failIf_eq_ok, Bool.or_eq_true, not_or,
    Bool.not_eq_true, List.isEmpty_eq_false_iff, List.any_eq_false]

/-- The response is a token that is there and lasts, or an error that is named. -/
def Sound : BrokerTokenResponse → Prop
  | token accessToken expiresIn => isBlank accessToken = false ∧ expiresIn ≠ 0
  | error code _ => isBlank code = false

theorem validateBrokerResponse_eq_ok {res : BrokerTokenResponse} :
    validateBrokerResponse res = .ok () ↔ Sound res := by
  cases res with
  | token _ _ =>
    simp only [validateBrokerResponse, bind_eq_ok, exists_unit, failIf_eq_ok, Bool.not_eq_true,
      Sound]
  | error _ _ => simp only [validateBrokerResponse, failIf_eq_ok, Bool.not_eq_true, Sound]

/-! ## Reading back -/

/-- The names of the fields of a request. -/
def requestNames : List (List String) := [["tenant"], ["resource_ref"], ["scopes"]]

/-- A request is read back from every form of it, whatever it holds. -/
theorem brokerTokenRequest_robust (req : BrokerTokenRequest) :
    Robust brokerTokenRequestCodec BrokerTokenRequest.members requestNames req := by
  have hagrees : Agrees BrokerTokenRequest.members requestNames brokerTokenRequestReader [] :=
    .field (required_good stringCodec_stable) fun _ =>
    .field (required_good stringCodec_stable) fun _ =>
    .field (required_good (listCodec_stable stringCodec_stable)) fun _ =>
    .done rfl
  have hapart : Apart requestNames := by decide
  refine (structCodec_robust_iff hagrees hapart).1.mpr ?_
  refine (structCodec_roundTrips hagrees hapart).mpr ?_
  simp only [brokerTokenRequestReader, exists_written_field, exists_written_done]
  exact ⟨req.tenant, rfl, req.resourceRef, rfl, req.scopes, strings_roundTrips _, rfl⟩

theorem u64Codec_roundTrips (n : UInt64) : u64Codec.RoundTrips n := by
  simp [Codec.RoundTrips, u64Codec, n.toNat_lt]

theorem u64Codec_stable : u64Codec.Stable := fun _ n _ => u64Codec_roundTrips n

/-- The names of the fields of a response. -/
def BrokerTokenResponse.names : BrokerTokenResponse → List (List String)
  | token _ _ => [["access_token"], ["expires_in"]]
  | error _ _ => [["error"], ["error_description"]]

section Token

variable {accessToken : String} {expiresIn : UInt64} {ms extra : List (String × Json)}

theorem token_agrees : Agrees members [["access_token"], ["expires_in"]] tokenReader [] :=
  .field (required_good stringCodec_stable) fun _ =>
  .field (required_good u64Codec_stable) fun _ =>
  .done rfl

theorem error_agrees : Agrees members [["error"], ["error_description"]] errorReader [] :=
  .field (required_good stringCodec_stable) fun _ =>
  .field (optional_good stringCodec_stable stringCodec_shows) fun _ =>
  .done rfl

theorem token_rereads (accessToken : String) (expiresIn : UInt64) :
    Rereads tokenReader members (token accessToken expiresIn) := by
  have hwritten : ∃ ms, Written tokenReader ms (token accessToken expiresIn) := by
    simp only [tokenReader, exists_written_field, exists_written_done]
    exact ⟨accessToken, rfl, expiresIn, u64Codec_roundTrips expiresIn, rfl⟩
  obtain ⟨ms, hwritten⟩ := hwritten
  exact token_agrees.rereads_of_written (by decide) hwritten

theorem error_rereads (code : String) (errorDescription : Option String) :
    Rereads errorReader members (error code errorDescription) := by
  have hwritten : ∃ ms, Written errorReader ms (error code errorDescription) := by
    simp only [errorReader, exists_written_field, exists_written_done]
    exact ⟨code, rfl, errorDescription, optionalString_roundTrips _, rfl⟩
  obtain ⟨ms, hwritten⟩ := hwritten
  exact error_agrees.rereads_of_written (by decide) hwritten

/-- Only a token is read as a token. -/
theorem eq_token_of_ofMembers {res : BrokerTokenResponse}
    (h : tokenReader.ofMembers ms = some res) :
    ∃ accessToken expiresIn, res = token accessToken expiresIn := by
  obtain ⟨accessToken, _, h⟩ := Option.bind_eq_some_iff.mp h
  obtain ⟨expiresIn, _, h⟩ := Option.bind_eq_some_iff.mp h
  exact ⟨accessToken, expiresIn, (Option.some.inj h).symm⟩

/-- Members that are no fields of a token do not matter for one. -/
theorem tokenReader_append (hms : ∀ m ∈ ms, m.1 ∉ ["access_token"] ∧ m.1 ∉ ["expires_in"]) :
    tokenReader.ofMembers (ms ++ extra) = tokenReader.ofMembers extra := by
  rw [ofMembers_perm List.perm_append_comm]
  refine ofMembers_unknown fun m hm hknows => ?_
  obtain ⟨names, hnames, hname⟩ := token_agrees.knows hknows
  rcases List.mem_cons.mp hnames with rfl | hnames
  · exact (hms m hm).1 hname
  · rw [List.mem_singleton.mp hnames] at hname
    exact (hms m hm).2 hname

end Token

section Untagged

variable {res : BrokerTokenResponse} {code : String} {errorDescription : Option String}
variable {extra object : List (String × Json)}

theorem sameField_refl {ns : List (List String)} {ms : List (String × Json)} :
    List.Forall₂ (SameField ns) ms ms :=
  List.forall₂_same.mpr fun _ _ => ⟨rfl, fun _ _ => Iff.rfl⟩

theorem read_object : brokerTokenResponseCodec.read (.object object) =
    (tokenReader.ofMembers object).or (errorReader.ofMembers object) := rfl

/-- The other members of an error are tried as a token first. -/
theorem read_error_object
    (hextra : ∀ m ∈ extra, ∀ names ∈ (error code errorDescription).names, m.1 ∉ names)
    (hperm : ((error code errorDescription).members ++ extra).Perm object) :
    brokerTokenResponseCodec.read (.object object) =
      (tokenReader.ofMembers extra).or (some (error code errorDescription)) := by
  have herror := error_agrees.ofMembers_mixed (error_rereads code errorDescription)
    sameField_refl hextra hperm
  have hms : ∀ m ∈ (error code errorDescription).members,
      m.1 ∉ ["access_token"] ∧ m.1 ∉ ["expires_in"] := by
    intro m hm
    simp only [members, List.mem_cons, List.not_mem_nil, or_false] at hm
    rcases hm with rfl | rfl <;> simp
  rw [read_object, herror, ← ofMembers_perm hperm, tokenReader_append hms]

end Untagged

/-- **Untagged responses**: a token is read back among other members whatever they are, and
an error is if those are not a token by themselves. If they are, that token is read. -/
theorem brokerTokenResponse_reread {res : BrokerTokenResponse}
    {extra object : List (String × Json)}
    (hextra : ∀ m ∈ extra, ∀ names ∈ res.names, m.1 ∉ names)
    (hperm : (res.members ++ extra).Perm object) :
    (brokerTokenResponseCodec.read (.object object) = some res ↔
      ∀ code errorDescription, res = error code errorDescription →
        tokenReader.ofMembers extra = none) ∧
    ∀ code errorDescription other, res = error code errorDescription →
      tokenReader.ofMembers extra = some other →
        (∃ accessToken expiresIn, other = token accessToken expiresIn) ∧
          brokerTokenResponseCodec.read (.object object) = some other := by
  cases res with
  | token accessToken expiresIn =>
    have htoken := token_agrees.ofMembers_mixed (token_rereads accessToken expiresIn)
      sameField_refl hextra hperm
    rw [read_object, htoken]
    exact ⟨iff_of_true rfl (by simp), by simp⟩
  | error code errorDescription =>
    rw [read_error_object hextra hperm]
    constructor
    · constructor
      · intro hor _ _ _
        -- a token among the other members would be read instead
        cases htoken : tokenReader.ofMembers extra with
        | none => rfl
        | some other =>
          obtain ⟨accessToken, expiresIn, rfl⟩ := eq_token_of_ofMembers htoken
          rw [htoken] at hor
          cases hor
      · intro h
        rw [h code errorDescription rfl]
        rfl
    · intro _ _ other _ htoken
      rw [htoken]
      exact ⟨eq_token_of_ofMembers htoken, rfl⟩

namespace Sample

def refused : BrokerTokenResponse := error "invalid_scope" none

def granted : BrokerTokenResponse := token "secret" 3600

end Sample

/-- The token hides the error, wherever their members stand. -/
theorem brokerTokenResponse_reread_refused :
    brokerTokenResponseCodec.read (.object (Sample.granted.members ++ Sample.refused.members)) =
      some Sample.granted :=
  ((brokerTokenResponse_reread (by decide) List.perm_append_comm).2 "invalid_scope" none
    Sample.granted rfl (token_rereads "secret" 3600).1).2

end GreenticConformance.OAuthBrokerSuite
