import GreenticConformance.OAuthMock.TokenStatus

/-!
# Stored grants

The three stores of grants seen as one: what is stored under a grant type and a
key, which grant a token request presents, and what becomes of the stored grants
when a token request fails.

## Main definitions

- `Grant`, `InnerState.grant` — the stored grants
- `Presents` — the grant a token request presents

## Main results

- `failed_token_request` — a failed token request mints nothing
-/

namespace GreenticConformance.OAuthMock

open Runs

/-! ## The three stores as one -/

inductive Grant where
  | code (entry : AuthorizationCode)
  | refresh (entry : RefreshTokenEntry)
  | device (entry : DeviceCodeEntry)

namespace Grant

/-- The client a grant was issued for. -/
def clientId : Grant → String
  | .code entry => entry.clientId
  | .refresh entry => entry.clientId
  | .device entry => entry.clientId

/-- The grant with another status, if it has one. -/
def withStatus (status : DeviceCodeStatus) : Grant → Grant
  | .device entry => .device { entry with status := status }
  | grant => grant

end Grant

/-- What is stored for a grant type under a key. -/
def InnerState.grant (s : InnerState) : GrantType → String → Option Grant
  | .authorizationCode, k => (s.authorizationCodes.lookup k).map .code
  | .clientCredentials, _ => none
  | .refreshToken, k => (s.refreshTokens.lookup k).map .refresh
  | .deviceCode, k => (s.deviceCodes.lookup k).map .device

theorem InnerState.grant_code {s : InnerState} {k : String} {x : Grant} :
    s.grant .authorizationCode k = some x ↔
      ∃ entry, s.authorizationCodes.lookup k = some entry ∧ .code entry = x :=
  Option.map_eq_some_iff

theorem InnerState.grant_refresh {s : InnerState} {k : String} {x : Grant} :
    s.grant .refreshToken k = some x ↔
      ∃ entry, s.refreshTokens.lookup k = some entry ∧ .refresh entry = x :=
  Option.map_eq_some_iff

theorem InnerState.grant_device {s : InnerState} {k : String} {x : Grant} :
    s.grant .deviceCode k = some x ↔
      ∃ entry, s.deviceCodes.lookup k = some entry ∧ .device entry = x :=
  Option.map_eq_some_iff

/-- The form presents the grant of this type and key: an authorization code
counts only in the complete form. -/
def TokenRequest.Presents (B : Build) (request : TokenRequest) : GrantType → String → Prop
  | .authorizationCode, k => ∃ redirectUri codeVerifier,
      Redeems B request k redirectUri codeVerifier
  | .clientCredentials, _ => False
  | .refreshToken, k => request.refreshToken = some k
  | .deviceCode, k => request.deviceCode = some k

theorem TokenRequest.Presents.unique {B : Build} {request : TokenRequest} {g : GrantType}
    {k k' : String} (h : request.Presents B g k) (h' : request.Presents B g k') : k = k' := by
  cases g with
  | authorizationCode =>
    obtain ⟨_, _, hr⟩ := h
    obtain ⟨_, _, hr'⟩ := h'
    exact (hr.unique hr').1
  | clientCredentials => exact h.elim
  | refreshToken => exact Option.some.inj (h.symm.trans h')
  | deviceCode => exact Option.some.inj (h.symm.trans h')

/-- A token request with these credentials presents the grant. -/
def Presents (B : Build) (c : Call) (cred : ClientCredentials) (g : GrantType) (k : String) :
    Prop :=
  ∃ request, TokenCall B c g cred request ∧ request.Presents B g k

theorem Presents.unique {B : Build} {c : Call} {cred cred' : ClientCredentials}
    {g g' : GrantType} {k k' : String} (h : Presents B c cred g k)
    (h' : Presents B c cred' g' k') : cred = cred' ∧ g = g' ∧ k = k' := by
  obtain ⟨request, hc, hp⟩ := h
  obtain ⟨request', hc', hp'⟩ := h'
  obtain ⟨rfl, rfl, rfl⟩ := hc.unique hc'
  exact ⟨rfl, rfl, hp.unique hp'⟩

variable {B : Build} {e : Served} {k : String}

theorem redeemsCode_iff_presents :
    RedeemsCode B e k ↔ ∃ cred, Presents B e.input cred .authorizationCode k := by
  constructor
  · intro h
    obtain ⟨cred, request, r, v, hc, hr⟩ := h
    exact ⟨cred, request, hc, r, v, hr⟩
  · intro h
    obtain ⟨cred, request, hc, r, v, hr⟩ := h
    exact ⟨cred, request, r, v, hc, hr⟩

/-! ## Failed token requests -/

/-- The grant was stored in `s` and is not stored in `s'`. -/
def Gone (s s' : InnerState) (g : GrantType) (k : String) : Prop :=
  s.grant g k ≠ none ∧ s'.grant g k = none

section Failed

variable {g : GrantType} {err : MockError} (h : Steps B e)
  (hend : e.input.request.endpoint = .token)
  (ho : e.output = .http (.error err))

include h hend ho

theorem failed_accessTokens : e.post.accessTokens = e.pre.accessTokens := by
  ext t
  have hi : ¬ IssuesAccess e t := fun ⟨_, ha, _⟩ => not_answers_of_error ho ha
  have hv : ¬ Revokes B e t := fun hr => by cases hend.symm.trans hr.endpoint
  rw [mem_accessTokens_post h]
  simp [hi, hv]

/-- What is stored after a failed token request was stored before it. -/
theorem failed_grant {x : Grant} (hx : e.post.grant g k = some x) :
    ∃ old status, e.pre.grant g k = some old ∧ x = old.withStatus status := by
  cases g with
  | authorizationCode =>
    obtain ⟨entry, hl, rfl⟩ := InnerState.grant_code.mp hx
    have hi : ¬ CodeIssued B e k entry := fun hi => by cases hend.symm.trans hi.endpoint
    obtain ⟨-, hold⟩ := (codes_change h).of_post hi hl
    exact ⟨.code entry, .expired, InnerState.grant_code.mpr ⟨entry, hold, rfl⟩, rfl⟩
  | clientCredentials => cases hx
  | refreshToken =>
    obtain ⟨entry, hl, rfl⟩ := InnerState.grant_refresh.mp hx
    have hi : ¬ RefreshIssued B e k entry := not_refreshIssued_of_error ho k entry
    obtain ⟨-, hold⟩ := (refresh_change h).of_post hi hl
    exact ⟨.refresh entry, .expired, InnerState.grant_refresh.mpr ⟨entry, hold, rfl⟩, rfl⟩
  | deviceCode =>
    obtain ⟨entry, hl, rfl⟩ := InnerState.grant_device.mp hx
    rcases (hl ▸ device_step h k).of_some with ⟨_, _, hs, -⟩ | ⟨-, old, hold, hentry⟩
    · cases hend.symm.trans hs.endpoint
    · exact ⟨.device old, entry.status, InnerState.grant_device.mpr ⟨old, hold, rfl⟩,
        congrArg Grant.device hentry⟩

/-- What a failed token request takes out of a store is the grant it presents. -/
theorem failed_gone (hg : Gone e.pre e.post g k) : ∃ cred, Presents B e.input cred g k := by
  obtain ⟨hpre, hpost⟩ := hg
  obtain ⟨x, hx⟩ := Option.ne_none_iff_exists'.mp hpre
  by_contra hno
  cases g with
  | authorizationCode =>
    obtain ⟨entry, hl, -⟩ := InnerState.grant_code.mp hx
    have hi : ∀ w, ¬ CodeIssued B e k w := fun w hw => by cases hend.symm.trans hw.endpoint
    have hr : ¬ RedeemsCode B e k := fun hr => hno (redeemsCode_iff_presents.mp hr)
    have hkept := InnerState.grant_code.mpr ⟨entry, (codes_change h).kept hr hi hl, rfl⟩
    cases hpost.symm.trans hkept
  | clientCredentials => cases hx
  | refreshToken =>
    obtain ⟨entry, hl, -⟩ := InnerState.grant_refresh.mp hx
    have hi : ∀ w, ¬ RefreshIssued B e k w := not_refreshIssued_of_error ho k
    have hr : ¬ RefreshConsumed B e k := by
      rintro (hp | hv)
      · exact hno hp
      · cases hend.symm.trans hv.endpoint
    have hkept := InnerState.grant_refresh.mpr ⟨entry, (refresh_change h).kept hr hi hl, rfl⟩
    cases hpost.symm.trans hkept
  | deviceCode =>
    obtain ⟨entry, hl, -⟩ := InnerState.grant_device.mp hx
    have hstep := device_step h k
    rw [hl, Option.map_eq_none_iff.mp hpost] at hstep
    cases hstep with
    | lost hp => exact hno ⟨_, hp⟩

end Failed

/-- **A failed token request mints nothing.** It adds no access token and no
grant, changes at most the status of a stored one, and takes out at most the
grant it presents. -/
theorem failed_token_request {s : InnerState} {c : Call} {headers : HeaderMap}
    {request : TokenRequest} {err : MockError} (hc : c.request = .token headers request)
    (ho : ((server B).event s c).output = .http (.error err)) :
    ((server B).event s c).post.accessTokens = s.accessTokens ∧
    (∀ g k x, ((server B).event s c).post.grant g k = some x →
      ∃ old status, s.grant g k = some old ∧ x = old.withStatus status) ∧
    (∀ g k, Gone s ((server B).event s c).post g k → ∃ cred, Presents B c cred g k) ∧
    ∀ g k g' k', Gone s ((server B).event s c).post g k →
      Gone s ((server B).event s c).post g' k' → g = g' ∧ k = k' := by
  have h := steps_event B s c
  have hend : c.request.endpoint = .token := by rw [hc]; rfl
  have hgone {g k} := failed_gone (g := g) (k := k) h hend ho
  refine ⟨failed_accessTokens h hend ho, fun g k x => failed_grant h hend ho, fun g k => hgone,
    fun g k g' k' hg hg' => ?_⟩
  obtain ⟨cred, hp⟩ := hgone hg
  obtain ⟨cred', hp'⟩ := hgone hg'
  exact (hp.unique hp').2

/-! ### A failing signer -/

namespace Sample

/-- A signer that fails on id tokens, after the access token was signed. -/
def encodeAccessOnly (_ : JwtHeader) (claims : Claims) (_ : EncodingKey) : Except String String :=
  match claims with
  | .access claims => .ok ("access." ++ claims.jti)
  | .id _ => .error "InvalidKeyFormat"

/-- A complete redemption whose id token cannot be signed. -/
def unsignedCall : Call :=
  ⟨.token ⟨none⟩ (redeemForm (code "01")), { draws 0 "02" with encode := encodeAccessOnly }⟩

end Sample

open Sample in
/-- The access token that was signed first is not recorded. -/
theorem failed_token_request_unsigned :
    ((server build).event ((server build).run start [authorizeCall]) unsignedCall).post.accessTokens
      = ∅ :=
  by
  have hfailed : ((server build).event ((server build).run start [authorizeCall])
      unsignedCall).output = .http (.error (.serverError "encode id token: InvalidKeyFormat")) :=
    rfl
  exact (failed_token_request rfl hfailed).1

end GreenticConformance.OAuthMock
