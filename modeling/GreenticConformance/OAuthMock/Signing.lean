import GreenticConformance.OAuthMock.Invariant

/-!
# What the server signs and answers

In well-owned states every token is built from a scope set that its client
allows. For answers this is read off the claims; for tokens that are signed and
then thrown away it is a statement about the signer: a step cannot tell apart
two signers that agree on the claims of registered clients within their scopes.

## Main results

- `serve_withEncode` — nothing else is ever signed
- `scope_contract` — the stores, the unreachable errors and the issued tokens
-/

namespace GreenticConformance.OAuthMock

open Runs Handler

variable {B : Build} {d : Draws} {s : InnerState}

/-! ## What is signed -/

/-- Claims that name a registered client and are built from a scope set that it
allows. -/
inductive OwnedClaims (d : Draws) (s : InnerState) : Claims → Prop
  | access {client : ClientConfig} {scope : HashSet String}
      (hc : s.client client.clientId = some client) (hs : scope ⊆ client.allowedScopes) :
      OwnedClaims d s (.access (accessClaims d s client scope))
  | id {client : ClientConfig} {scope : HashSet String} (nonce : Option String)
      (hc : s.client client.clientId = some client) (hs : scope ⊆ client.allowedScopes) :
      OwnedClaims d s (.id (idClaims d s client scope nonce))

/-- The same draws with another signer. -/
def Draws.withEncode (d : Draws)
    (encode : JwtHeader → Claims → EncodingKey → Except String String) : Draws :=
  { d with encode := encode }

/-- The two signers agree on the claims of registered clients. -/
def AgreeOnOwned (d : Draws) (s : InnerState)
    (encode : JwtHeader → Claims → EncodingKey → Except String String) : Prop :=
  ∀ claims, OwnedClaims d s claims →
    encode (jwtHeader s) claims s.signing.encoding =
      d.encode (jwtHeader s) claims s.signing.encoding

variable {encode : JwtHeader → Claims → EncodingKey → Except String String}

theorem issueTokens_withEncode {client : ClientConfig} {scope : HashSet String}
    {nonce : Option String}
    (ha : encode (jwtHeader s) (.access (accessClaims d s client scope)) s.signing.encoding =
      d.encode (jwtHeader s) (.access (accessClaims d s client scope)) s.signing.encoding)
    (hi : encode (jwtHeader s) (.id (idClaims d s client scope nonce)) s.signing.encoding =
      d.encode (jwtHeader s) (.id (idClaims d s client scope nonce)) s.signing.encoding) :
    (issueTokens (d.withEncode encode) client scope nonce).exec s =
      (issueTokens d client scope nonce).exec s := by
  have haccess : issueAccessToken (d.withEncode encode) s client scope =
      issueAccessToken d s client scope := congrArg (Except.mapError _) ha
  have hid : issueIdToken (d.withEncode encode) s client scope nonce =
      issueIdToken d s client scope nonce := congrArg (Except.mapError _) hi
  simp only [issueTokens, exec_get_bind, exec_liftResult_bind, haccess, hid]
  rfl

theorem handleAuthorizationCode_withEncode (hs : WellOwned B s) (ha : AgreeOnOwned d s encode)
    (cred : ClientCredentials) (request : TokenRequest) :
    (handleAuthorizationCode B (d.withEncode encode) cred request).exec s =
      (handleAuthorizationCode B d cred request).exec s := by
  simp only [handleAuthorizationCode, exec_okOr_bind]
  split
  · split
    · simp only [exec_bind (h := pkceVerifier B request), pkceVerifier_exec]
      cases (if B.features.pkce then request.codeVerifier else some "") with
      | none => rfl
      | some v =>
        simp only [exec_get_bind, exec_okOr_bind, exec_modify_bind, exec_failIf_bind]
        split
        · next entry hl =>
          split
          · rfl
          · next he =>
            split
            · rfl
            · rcases checkPkceEntry_exec B v entry with ⟨hx, -⟩ | ⟨msg, hx, -⟩
              · simp only [exec_bind (h := checkPkceEntry B v entry), hx, exec_get_bind,
                  exec_okOr_bind]
                split
                · next client hc =>
                  obtain ⟨hk, hsub⟩ := (not_not.mp he ▸ (hs.codes _ _ hl).owned).client hc
                  exact issueTokens_withEncode (ha _ (.access hk hsub)) (ha _ (.id _ hk hsub))
                · rfl
              · simp only [exec_bind (h := checkPkceEntry B v entry), hx]
        · rfl
    · rfl
  · rfl

theorem handleRefreshToken_withEncode (hs : WellOwned B s) (ha : AgreeOnOwned d s encode)
    (cred : ClientCredentials) (request : TokenRequest) :
    (handleRefreshToken (d.withEncode encode) cred request).exec s =
      (handleRefreshToken d cred request).exec s := by
  simp only [handleRefreshToken, exec_okOr_bind, exec_get_bind, exec_modify_bind, exec_failIf_bind]
  split
  · split
    · next entry hl =>
      split
      · rfl
      · next he =>
        split
        · next client hc =>
          obtain ⟨hk, hsub⟩ := (not_not.mp he ▸ hs.refresh _ _ hl).client hc
          exact issueTokens_withEncode (ha _ (.access hk hsub)) (ha _ (.id _ hk hsub))
        · rfl
    · rfl
  · rfl

theorem handleClientCredentials_withEncode (ha : AgreeOnOwned d s encode)
    (cred : ClientCredentials) (request : TokenRequest) :
    (handleClientCredentials (d.withEncode encode) cred request).exec s =
      (handleClientCredentials d cred request).exec s := by
  simp only [handleClientCredentials, exec_okOr_bind, exec_get_bind, exec_failIf_bind,
    exec_liftResult_bind]
  split
  · next client hc =>
    have hk : s.client client.clientId = some client := by
      rw [InnerState.client_clientId hc]
      exact hc
    have haccess : issueAccessToken (d.withEncode encode) s client
        (scopeOrAllowed client request.scope) =
        issueAccessToken d s client (scopeOrAllowed client request.scope) :=
      congrArg (Except.mapError _) (ha _ (.access hk (scopeOrAllowed_subset _ _)))
    rw [scopeOrAllowed] at haccess
    simp only [haccess]
  · rfl

theorem handleDeviceCode_withEncode (hs : WellOwned B s) (ha : AgreeOnOwned d s encode)
    (cred : ClientCredentials) (request : TokenRequest) :
    (handleDeviceCode (d.withEncode encode) cred request).exec s =
      (handleDeviceCode d cred request).exec s := by
  simp only [handleDeviceCode, exec_okOr_bind, exec_get_bind, exec_modify_bind]
  split
  · next c _ =>
    split
    · next entry hl =>
      split
      · rfl
      · next he =>
        have hrun : (settleDeviceCode (d.withEncode encode) cred entry.scope
            (polledStatus d entry)).exec (s.removeDeviceCode c) =
            (settleDeviceCode d cred entry.scope (polledStatus d entry)).exec
              (s.removeDeviceCode c) := by
          cases polledStatus d entry with
          | approved =>
            -- the one branch that signs
            simp only [settleDeviceCode, exec_get_bind, exec_okOr_bind]
            split
            · next client hc =>
              obtain ⟨hk, hsub⟩ := (not_not.mp he ▸ hs.devices _ _ hl).client hc
              have hi := issueTokens_withEncode (s := s.removeDeviceCode c)
                (ha _ (.access hk hsub)) (ha _ (.id none hk hsub))
              rw [exec_bind, exec_bind, hi]
            · rfl
          | _ => rfl
        change ((settleDeviceCode (d.withEncode encode) cred entry.scope
          (polledStatus d entry)) >>= _).exec _ = _
        rw [exec_bind, exec_bind, hrun]
    · rfl
  · rfl

theorem token_withEncode (hs : WellOwned B s) (ha : AgreeOnOwned d s encode)
    (headers : HeaderMap) (request : TokenRequest) :
    (token B (d.withEncode encode) headers request).exec s =
      (token B d headers request).exec s := by
  simp only [token, exec_liftResult_bind]
  split
  · split
    · exact handleAuthorizationCode_withEncode hs ha _ request
    · exact handleClientCredentials_withEncode ha _ request
    · exact handleRefreshToken_withEncode hs ha _ request
    · exact handleDeviceCode_withEncode hs ha _ request
    · exact handleDeviceCode_withEncode hs ha _ request
    · rfl
  · rfl

/-- **Nothing else is signed**: a step depends on its signer only through the
claims of registered clients within their scopes. -/
theorem serve_withEncode (hs : WellOwned B s) (c : Call) (ha : AgreeOnOwned c.draws s encode) :
    serve B s { c with draws := c.draws.withEncode encode } = serve B s c := by
  obtain ⟨request, d⟩ := c
  cases request with
  | token headers request => exact congrArg (respond _) (token_withEncode hs ha headers request)
  | _ => rfl

/-! ## Answers -/

/-- The tokens of an answer are built from a scope set that the client they
name allows. -/
def OwnedResponse (d : Draws) (s : InnerState) (response : TokenResponse) : Prop :=
  ∃ client scope, s.client client.clientId = some client ∧ scope ⊆ client.allowedScopes ∧
    response.scope = scopeToString scope ∧
    d.encode (jwtHeader s) (.access (accessClaims d s client scope)) s.signing.encoding =
      .ok response.accessToken ∧
    ∀ id, response.idToken = some id → ∃ nonce,
      d.encode (jwtHeader s) (.id (idClaims d s client scope nonce)) s.signing.encoding = .ok id

/-- Answers of well-owned states stay within the scopes of their client. -/
theorem Answers.ownedResponse {e : Served} {response : TokenResponse} (hs : WellOwned B e.pre)
    (h : Steps B e) (ha : Answers e response) : OwnedResponse e.input.draws e.pre response := by
  rcases ha.cases h with ⟨x, hx, rfl⟩ | ⟨cred, request, client, access, hg, rfl⟩
  · obtain ⟨hk, hsub⟩ := (hx.presented.owned hs).client hx.registered
    refine ⟨x.client, x.scope, hk, hsub, rfl, hx.signs.access, fun id hid => ⟨x.nonce, ?_⟩⟩
    obtain rfl := Option.some.inj hid
    exact hx.signs.id
  · have hk : e.pre.client client.clientId = some client := by
      rw [InnerState.client_clientId hg.registered]
      exact hg.registered
    -- this grant answers without an id token
    exact ⟨client, _, hk, scopeOrAllowed_subset _ _, rfl, hg.signs, nofun⟩

/-! ## Errors that cannot occur -/

theorem AuthorizationCodeRun.ne_unknownClient {cred : ClientCredentials} {request : TokenRequest}
    {r : Except MockError TokenResponse} {s' : InnerState} (hs : WellOwned B s)
    (h : AuthorizationCodeRun B d s cred request r s') :
    r ≠ .error (.invalidClient "unknown client") := by
  cases h with
  | orphan hr hl hm hc => exact absurd hc (hm.client ▸ (hs.codes _ _ hl).owned).not_unknown
  | _ => nofun

theorem AuthorizationCodeRun.ne_missingChallenge {cred : ClientCredentials}
    {request : TokenRequest} {r : Except MockError TokenResponse} {s' : InnerState}
    (hs : WellOwned B s) (h : AuthorizationCodeRun B d s cred request r s') :
    r ≠ .error (.invalidGrant "missing code challenge") := by
  cases h with
  | unknown hr hl => exact fun h => absurd h (by decide)
  | mismatch msg hr hl hm hmsg =>
    intro h
    obtain ⟨-, hp, hnone⟩ := hmsg (MockError.invalidGrant.inj (Except.error.inj h))
    obtain ⟨challenge, hsome⟩ := (hs.codes _ _ hl).challenge hp
    cases hnone.symm.trans hsome
  | _ => nofun

theorem RefreshTokenRun.ne_unknownClient {cred : ClientCredentials} {request : TokenRequest}
    {r : Except MockError TokenResponse} {s' : InnerState} (hs : WellOwned B s)
    (h : RefreshTokenRun d s cred request r s') :
    r ≠ .error (.invalidClient "unknown client") := by
  cases h with
  | orphan ht hl he hc => exact absurd hc (he ▸ hs.refresh _ _ hl).not_unknown
  | _ => nofun

theorem DeviceCodeRun.ne_unknownClient {cred : ClientCredentials} {request : TokenRequest}
    {r : Except MockError TokenResponse} {s' : InnerState} (hs : WellOwned B s)
    (h : DeviceCodeRun d s cred request r s') :
    r ≠ .error (.invalidClient "unknown client") := by
  cases h with
  | foreign hd hl hne => exact fun h => absurd h (by decide)
  | orphan hd hl he hst hc => exact absurd hc (he ▸ hs.devices _ _ hl).not_unknown
  | waiting hd hl he hst =>
    intro h
    split at h <;> cases h
  | settled hd hl he hst =>
    intro h
    generalize polledStatus d _ = st at hst
    cases hst <;> cases h
  | _ => nofun

/-! ## The contract -/

/-- **Stores, errors and tokens**: in every reachable state of a default build
every stored grant is one of a registered client within its scopes, the errors
of a missing client or challenge cannot occur after a lookup, and whatever is
signed or answered stays within the scopes of the client it names. -/
theorem scope_contract (hB : B.features = {}) (hs : Reachable B s) :
    WellOwned B s ∧
    (∀ code entry, s.authorizationCodes.lookup code = some entry →
      ∃ challenge, entry.codeChallenge = some challenge) ∧
    (∀ d cred request,
      ((handleAuthorizationCode B d cred request).exec s).1 ≠
        .error (.invalidClient "unknown client") ∧
      ((handleAuthorizationCode B d cred request).exec s).1 ≠
        .error (.invalidGrant "missing code challenge") ∧
      ((handleRefreshToken d cred request).exec s).1 ≠ .error (.invalidClient "unknown client") ∧
      ((handleDeviceCode d cred request).exec s).1 ≠ .error (.invalidClient "unknown client")) ∧
    (∀ c response, Answers ((server B).event s c) response → OwnedResponse c.draws s response) ∧
    ∀ c encode, AgreeOnOwned c.draws s encode →
      serve B s { c with draws := c.draws.withEncode encode } = serve B s c := by
  have hw : WellOwned B s := hs.wellOwned
  refine ⟨hw, fun code entry hl => ?_, fun d cred request => ⟨?_, ?_, ?_, ?_⟩, ?_, ?_⟩
  · exact (hw.codes code entry hl).challenge (by rw [hB])
  · exact (handleAuthorizationCode_run B d s cred request).ne_unknownClient hw
  · exact (handleAuthorizationCode_run B d s cred request).ne_missingChallenge hw
  · exact (handleRefreshToken_run d s cred request).ne_unknownClient hw
  · exact (handleDeviceCode_run d s cred request).ne_unknownClient hw
  · exact fun c response ha => ha.ownedResponse hw (steps_event B s c)
  · exact fun c encode ha => serve_withEncode hw c ha

theorem scope_contract_authorized :
    OwnedCode Sample.build ((server Sample.build).run Sample.start
      [⟨.authorize Sample.authorizeQuery, Sample.draws 0 "01"⟩])
      { clientId := "mock-client", redirectUri := Sample.callback, scope := {"openid", "email"},
        codeChallenge := some Sample.challenge, nonce := some "n-0S6", _createdAt := 0 } :=
  (scope_contract rfl ⟨_, _, Sample.spawned_start, rfl⟩).1.codes (Sample.code "01") _ (by decide)

end GreenticConformance.OAuthMock
