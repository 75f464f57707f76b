import GreenticConformance.OAuthMock.Server
import GreenticConformance.Runs.Ledger

/-!
# What each handler can do

For every handler an inductive predicate lists all of its outcomes: the answer
and the state it leaves, with the guards that lead there. The `_run` theorems
say that the handler has one of these outcomes; later proofs take cases on them
and never unfold a handler.
-/

namespace GreenticConformance.OAuthMock

open Runs

/-! ## Executing handlers -/

namespace Handler

variable {α β : Type} (s : InnerState)

@[simp] theorem exec_pure (a : α) : (pure a : Handler α).exec s = (.ok a, s) := rfl

@[simp] theorem exec_throw (e : MockError) :
    (throw e : Handler α).exec s = (.error e, s) := rfl

theorem exec_bind (h : Handler α) (f : α → Handler β) :
    (h >>= f).exec s = match h.exec s with
      | (.ok a, s') => (f a).exec s'
      | (.error e, s') => (.error e, s') := by
  have hrun : (h >>= f).exec s = match h.exec s with
      | (result, s') =>
        (ExceptT.bindCont f result : StateM InnerState (Except MockError β)) s' := rfl
  rw [hrun]
  rcases h.exec s with ⟨e | a, s'⟩
  · rfl
  · rfl

@[simp] theorem exec_okOr_bind (o : Option α) (e : MockError) (f : α → Handler β) :
    (okOr o e >>= f).exec s = match o with
      | some a => (f a).exec s
      | none => (.error e, s) := by
  cases o <;> rfl

@[simp] theorem exec_failIf_bind (c : Prop) [Decidable c] (e : MockError) (f : Unit → Handler β) :
    (failIf c e >>= f).exec s = if c then (.error e, s) else (f ()).exec s := by
  unfold failIf
  split <;> rfl

@[simp] theorem exec_failIf (c : Prop) [Decidable c] (e : MockError) :
    (failIf c e).exec s = if c then (.error e, s) else (.ok (), s) := by
  unfold failIf
  split <;> rfl

@[simp] theorem exec_liftResult_bind (r : Except MockError α) (f : α → Handler β) :
    (liftResult r >>= f).exec s = match r with
      | .ok a => (f a).exec s
      | .error e => (.error e, s) := by
  cases r <;> rfl

@[simp] theorem exec_liftResult (r : Except MockError α) :
    (liftResult r).exec s = (r, s) := by
  cases r <;> rfl

@[simp] theorem exec_get_bind (f : InnerState → Handler β) :
    (get >>= f).exec s = (f s).exec s := rfl

@[simp] theorem exec_modify_bind (g : InnerState → InnerState) (f : PUnit → Handler β) :
    (modify g >>= f).exec s = (f ⟨⟩).exec (g s) := rfl

end Handler

open Handler

/-! ## State updates -/

namespace InnerState

variable (s : InnerState)

/-- Both tokens of an exchange: the drawn refresh token and the access token. -/
@[simps!] def issue (d : Draws) (client : ClientConfig) (scope : HashSet String)
    (access : String) : InnerState :=
  (s.insertRefreshToken d.generatedCode
    { clientId := client.clientId, scope := scope, _subject := s.user, _issuedAt := d.issuedAt
      }).insertAccessToken access

theorem insertDeviceCode_removeDeviceCode {code : String} {entry : DeviceCodeEntry} :
    (s.removeDeviceCode code).insertDeviceCode code entry = s.insertDeviceCode code entry := by
  simp only [removeDeviceCode, insertDeviceCode, insert_erase]

theorem insertDeviceCode_of_lookup {code : String} {entry : DeviceCodeEntry}
    (h : s.deviceCodes.lookup code = some entry) : s.insertDeviceCode code entry = s := by
  simp only [insertDeviceCode, insert_of_lookup h]

end InnerState

section Outcomes

variable (B : Build) (d : Draws) (s : InnerState)

/-! ## Token issue -/

/-- The two strings that signing returns in an exchange. -/
structure Signs (client : ClientConfig) (scope : HashSet String) (nonce : Option String)
    (access id : String) : Prop where
  access : d.encode (jwtHeader s) (.access (accessClaims d s client scope)) s.signing.encoding =
    .ok access
  id : d.encode (jwtHeader s) (.id (idClaims d s client scope nonce)) s.signing.encoding = .ok id

theorem Signs.unique {d : Draws} {s : InnerState} {client : ClientConfig}
    {scope : HashSet String} {nonce : Option String} {a i a' i' : String}
    (h : Signs d s client scope nonce a i) (h' : Signs d s client scope nonce a' i') :
    a = a' ∧ i = i' :=
  ⟨Except.ok.inj (h.access.symm.trans h'.access), Except.ok.inj (h.id.symm.trans h'.id)⟩

/-- One of the two signings of an exchange fails. -/
def Unsigned (client : ClientConfig) (scope : HashSet String) (nonce : Option String) : Prop :=
  ∀ access id, ¬ Signs d s client scope nonce access id

/-- `jsonwebtoken::encode` returns a token whatever it is given. -/
def SigningSucceeds : Prop := ∀ header claims key, ∃ t, d.encode header claims key = .ok t

theorem Sample.signingSucceeds_draws (now : OffsetDateTime) (suffix : String) :
    SigningSucceeds (Sample.draws now suffix) := by
  intro header claims key
  cases claims <;> exact ⟨_, rfl⟩

theorem SigningSucceeds.signs {d : Draws} (h : SigningSucceeds d) (s : InnerState)
    (client : ClientConfig) (scope : HashSet String) (nonce : Option String) :
    ∃ access id, Signs d s client scope nonce access id := by
  obtain ⟨access, ha⟩ := h (jwtHeader s) (.access (accessClaims d s client scope))
    s.signing.encoding
  obtain ⟨id, hi⟩ := h (jwtHeader s) (.id (idClaims d s client scope nonce)) s.signing.encoding
  exact ⟨access, id, ha, hi⟩

theorem Unsigned.not_signingSucceeds {d : Draws} {s : InnerState} {client : ClientConfig}
    {scope : HashSet String} {nonce : Option String} (h : Unsigned d s client scope nonce) :
    ¬ SigningSucceeds d := by
  intro hs
  obtain ⟨access, id, hsigns⟩ := hs.signs s client scope nonce
  exact h access id hsigns

/-- The answer of an exchange. -/
def exchangeResponse (scope : HashSet String) (access id : String) : TokenResponse where
  tokenType := "Bearer"
  expiresIn := 3600
  accessToken := access
  idToken := some id
  scope := scopeToString scope
  refreshToken := some d.generatedCode

inductive IssueRun (client : ClientConfig) (scope : HashSet String) (nonce : Option String) :
    Except MockError TokenResponse → InnerState → Prop
  | unsigned (msg : String) (h : Unsigned d s client scope nonce) : IssueRun client scope nonce
      (.error (.serverError msg)) s
  | issued (access id : String) (h : Signs d s client scope nonce access id) :
      IssueRun client scope nonce (.ok (exchangeResponse d scope access id))
        (s.issue d client scope access)

/-- A signer that fails once does not always succeed. -/
theorem not_signingSucceeds {header : JwtHeader} {claims : Claims} {key : EncodingKey}
    {err : String} (h : d.encode header claims key = .error err) : ¬ SigningSucceeds d := by
  intro hs
  obtain ⟨t, ht⟩ := hs header claims key
  rw [h] at ht
  cases ht

theorem issueTokens_run (client : ClientConfig) (scope : HashSet String) (nonce : Option String) :
    ∃ r s', (issueTokens d client scope nonce).exec s = (r, s') ∧
      IssueRun d s client scope nonce r s' := by
  simp only [issueTokens, exec_get_bind, exec_liftResult_bind]
  cases ha : d.encode (jwtHeader s) (.access (accessClaims d s client scope))
      s.signing.encoding with
  | error err =>
    simp only [issueAccessToken, ha, Except.mapError]
    exact ⟨_, _, rfl, .unsigned _ fun access id h => nomatch ha.symm.trans h.access⟩
  | ok access =>
    cases hi : d.encode (jwtHeader s) (.id (idClaims d s client scope nonce))
        s.signing.encoding with
    | error err =>
      simp only [issueAccessToken, issueIdToken, ha, hi, Except.mapError]
      exact ⟨_, _, rfl, .unsigned _ fun access id h => nomatch hi.symm.trans h.id⟩
    | ok id =>
      simp only [issueAccessToken, issueIdToken, ha, hi, Except.mapError]
      exact ⟨_, _, rfl, .issued access id ⟨ha, hi⟩⟩

/-! ## Authorization endpoint -/

/-- `authorize` accepts the query of `client`: every check before the code is
generated passes. -/
structure Grants (query : AuthorizeQuery) (client : ClientConfig) : Prop where
  responseType : query.responseType = "code"
  registered : s.client query.clientId = some client
  redirectUri : query.redirectUri ∈ client.redirectUris
  scope : parseScope query.scope ∩ client.allowedScopes ≠ ∅
  pkce : B.features.pkce →
    query.codeChallengeMethod = some "S256" ∧ ∃ challenge, query.codeChallenge = some challenge

/-- The entry that an accepted query stores. -/
def grantedCode (query : AuthorizeQuery) (client : ClientConfig) : AuthorizationCode where
  clientId := client.clientId
  redirectUri := query.redirectUri
  scope := parseScope query.scope ∩ client.allowedScopes
  codeChallenge := query.codeChallenge
  nonce := query.nonce
  _createdAt := d.now

def redirectLocation (query : AuthorizeQuery) (url : B.crates.Url) : String :=
  let redirect := B.crates.appendPair url "code" d.generatedCode
  B.crates.urlToString <| match query.state with
    | some state => B.crates.appendPair redirect "state" state
    | none => redirect

inductive AuthorizeRun (query : AuthorizeQuery) : Except MockError String → InnerState → Prop
  | refused (e : MockError) (h : ∀ client, ¬ Grants B s query client) :
      AuthorizeRun query (.error e) s
  | unparsable {client : ClientConfig} (h : Grants B s query client)
      (hu : B.crates.parseUrl query.redirectUri = none) :
      AuthorizeRun query (.error (.invalidRequest "invalid redirect_uri"))
        (s.insertAuthorizationCode d.generatedCode (grantedCode d query client))
  | redirected {client : ClientConfig} {url : B.crates.Url} (h : Grants B s query client)
      (hu : B.crates.parseUrl query.redirectUri = some url) :
      AuthorizeRun query (.ok (redirectLocation B d query url))
        (s.insertAuthorizationCode d.generatedCode (grantedCode d query client))

/-- What the PKCE block decides about a query; it never writes. -/
theorem checkPkceQuery_exec (query : AuthorizeQuery) :
    ((∀ s, (checkPkceQuery B query).exec s = (.ok (), s)) ∧
      (B.features.pkce → query.codeChallengeMethod = some "S256" ∧
        ∃ challenge, query.codeChallenge = some challenge)) ∨
    ((∃ e, ∀ s, (checkPkceQuery B query).exec s = (.error e, s)) ∧
      ¬ (B.features.pkce → query.codeChallengeMethod = some "S256" ∧
        ∃ challenge, query.codeChallenge = some challenge)) := by
  unfold checkPkceQuery
  by_cases hp : B.features.pkce = true
  · rw [if_pos hp]
    cases hm : query.codeChallengeMethod with
    | none => exact .inr ⟨⟨_, fun _ => rfl⟩, fun h => nomatch (h hp).1⟩
    | some method =>
      by_cases hs : method = "S256"
      · cases hc : query.codeChallenge with
        | none => exact .inr ⟨⟨_, fun _ => by simp [hs]; rfl⟩, fun h => nomatch (h hp).2⟩
        | some challenge => exact .inl ⟨by simp [hs], fun _ => ⟨by rw [hs], challenge, rfl⟩⟩
      · exact .inr ⟨⟨_, fun _ => by simp [hs]; rfl⟩, fun h => hs (Option.some.inj (h hp).1)⟩
  · rw [if_neg hp]
    exact .inl ⟨fun _ => rfl, fun h => absurd h hp⟩

theorem authorize_run (query : AuthorizeQuery) :
    AuthorizeRun B d s query ((authorize B d query).exec s).1 ((authorize B d query).exec s).2 := by
  simp only [authorize, exec_failIf_bind, exec_get_bind, exec_okOr_bind]
  split
  · next hr => exact .refused _ fun _ h => hr h.responseType
  · next hr =>
    split
    · next client hc =>
      split
      · next hu =>
        refine .refused _ fun c h => hu ?_
        obtain rfl := Option.some.inj (hc.symm.trans h.registered)
        exact h.redirectUri
      · next hu =>
        split
        · next hs =>
          refine .refused _ fun c h => ?_
          obtain rfl := Option.some.inj (hc.symm.trans h.registered)
          exact h.scope hs
        · next hs =>
          rcases checkPkceQuery_exec B query with ⟨hx, hp⟩ | ⟨⟨e, hx⟩, hp⟩
          · have hg : Grants B s query client :=
              ⟨not_not.mp hr, hc, not_not.mp hu, hs, hp⟩
            simp only [exec_bind, hx]
            cases hurl : B.crates.parseUrl query.redirectUri with
            | none => exact .unparsable hg hurl
            | some url => exact .redirected hg hurl
          · simp only [exec_bind, hx]
            exact .refused _ fun c h => hp h.pkce
    · next hc => exact .refused _ fun c h => nomatch hc.symm.trans h.registered

/-! ## Authorization code grant -/

variable (credentials : ClientCredentials) (request : TokenRequest)

/-- The request carries everything `handle_authorization_code` asks for before
it takes the guard: the complete form. -/
structure Redeems (code redirectUri codeVerifier : String) : Prop where
  code : request.code = some code
  redirectUri : request.redirectUri = some redirectUri
  codeVerifier : (if B.features.pkce then request.codeVerifier else some "") = some codeVerifier

theorem Redeems.unique {B : Build} {request : TokenRequest} {c r v c' r' v' : String}
    (h : Redeems B request c r v) (h' : Redeems B request c' r' v') : c = c' ∧ r = r' ∧ v = v' :=
  ⟨Option.some.inj (h.code.symm.trans h'.code),
    Option.some.inj (h.redirectUri.symm.trans h'.redirectUri),
    Option.some.inj (h.codeVerifier.symm.trans h'.codeVerifier)⟩

/-- The stored entry answers to this client, redirect URI and verifier. -/
structure Redeemable (entry : AuthorizationCode) (redirectUri codeVerifier : String) : Prop where
  client : entry.clientId = credentials.clientId
  redirectUri : entry.redirectUri = redirectUri
  pkce : B.features.pkce → ∃ challenge, entry.codeChallenge = some challenge ∧
    verifyCodeChallenge B codeVerifier challenge = true

inductive AuthorizationCodeRun : Except MockError TokenResponse → InnerState → Prop
  | incomplete (msg : String) (h : ∀ c r v, ¬ Redeems B request c r v) :
      AuthorizationCodeRun (.error (.invalidRequest msg)) s
  | unknown {c r v : String} (hr : Redeems B request c r v)
      (hl : s.authorizationCodes.lookup c = none) :
      AuthorizationCodeRun (.error (.invalidGrant "invalid authorization code")) s
  | mismatch {c r v : String} {entry : AuthorizationCode} (msg : String)
      (hr : Redeems B request c r v) (hl : s.authorizationCodes.lookup c = some entry)
      (hm : ¬ Redeemable B credentials entry r v)
      (hmsg : msg = "missing code challenge" →
        entry.clientId = credentials.clientId ∧ B.features.pkce ∧ entry.codeChallenge = none) :
      AuthorizationCodeRun (.error (.invalidGrant msg)) (s.removeAuthorizationCode c)
  | orphan {c r v : String} {entry : AuthorizationCode} (hr : Redeems B request c r v)
      (hl : s.authorizationCodes.lookup c = some entry)
      (hm : Redeemable B credentials entry r v) (hc : s.client credentials.clientId = none) :
      AuthorizationCodeRun (.error (.invalidClient "unknown client")) (s.removeAuthorizationCode c)
  | unsigned {c r v : String} {entry : AuthorizationCode} {client : ClientConfig} (msg : String)
      (hr : Redeems B request c r v) (hl : s.authorizationCodes.lookup c = some entry)
      (hm : Redeemable B credentials entry r v)
      (hc : s.client credentials.clientId = some client)
      (hs : Unsigned d s client entry.scope entry.nonce) :
      AuthorizationCodeRun (.error (.serverError msg)) (s.removeAuthorizationCode c)
  | exchanged {c r v access id : String} {entry : AuthorizationCode} {client : ClientConfig}
      (hr : Redeems B request c r v) (hl : s.authorizationCodes.lookup c = some entry)
      (hm : Redeemable B credentials entry r v)
      (hc : s.client credentials.clientId = some client)
      (hs : Signs d s client entry.scope entry.nonce access id) :
      AuthorizationCodeRun (.ok (exchangeResponse d entry.scope access id))
        ((s.removeAuthorizationCode c).issue d client entry.scope access)

theorem pkceVerifier_exec :
    (pkceVerifier B request).exec s =
      match (if B.features.pkce then request.codeVerifier else some "") with
      | some v => (.ok v, s)
      | none => (.error (.invalidRequest "PKCE enabled; code_verifier is required"), s) := by
  unfold pkceVerifier
  split
  · cases request.codeVerifier <;> rfl
  · rfl

/-- What the PKCE block decides about a stored entry; it never writes. -/
theorem checkPkceEntry_exec (codeVerifier : String) (entry : AuthorizationCode) :
    ((∀ s, (checkPkceEntry B codeVerifier entry).exec s = (.ok (), s)) ∧
      (B.features.pkce → ∃ challenge, entry.codeChallenge = some challenge ∧
        verifyCodeChallenge B codeVerifier challenge = true)) ∨
    ∃ msg, (∀ s, (checkPkceEntry B codeVerifier entry).exec s = (.error (.invalidGrant msg), s)) ∧
      ¬ (B.features.pkce → ∃ challenge, entry.codeChallenge = some challenge ∧
        verifyCodeChallenge B codeVerifier challenge = true) ∧
      (msg = "missing code challenge" → B.features.pkce ∧ entry.codeChallenge = none) := by
  unfold checkPkceEntry
  by_cases hp : B.features.pkce = true
  · rw [if_pos hp]
    cases hc : entry.codeChallenge with
    | none =>
      refine .inr ⟨_, fun _ => rfl, fun h => ?_, fun _ => ⟨hp, rfl⟩⟩
      obtain ⟨_, h, -⟩ := h hp
      cases h
    | some challenge =>
      by_cases hv : verifyCodeChallenge B codeVerifier challenge = true
      · exact .inl ⟨by simp [hv], fun _ => ⟨challenge, rfl, hv⟩⟩
      · refine .inr ⟨"code_verifier mismatch", by simp [hv], fun h => ?_,
          fun h => absurd h (by decide)⟩
        obtain ⟨_, h, hv'⟩ := h hp
        exact hv (Option.some.inj h ▸ hv')
  · rw [if_neg hp]
    exact .inl ⟨fun _ => rfl, fun h => absurd h hp⟩

theorem handleAuthorizationCode_run :
    AuthorizationCodeRun B d s credentials request
      ((handleAuthorizationCode B d credentials request).exec s).1
      ((handleAuthorizationCode B d credentials request).exec s).2 := by
  simp only [handleAuthorizationCode, exec_okOr_bind]
  cases hcode : request.code with
  | none => exact .incomplete _ fun c r v h => nomatch hcode.symm.trans h.code
  | some c =>
    cases hredirect : request.redirectUri with
    | none => exact .incomplete _ fun c r v h => nomatch hredirect.symm.trans h.redirectUri
    | some r =>
      simp only [exec_bind (h := pkceVerifier B request), pkceVerifier_exec]
      cases hv : (if B.features.pkce then request.codeVerifier else some "") with
      | none => exact .incomplete _ fun c r v h => nomatch hv.symm.trans h.codeVerifier
      | some v =>
        have hr : Redeems B request c r v := ⟨hcode, hredirect, hv⟩
        simp only [exec_get_bind, exec_okOr_bind]
        cases hl : s.authorizationCodes.lookup c with
        | none => exact .unknown hr hl
        | some entry =>
          simp only [exec_modify_bind, exec_failIf_bind]
          split
          · next hne =>
            exact .mismatch _ hr hl (fun h => hne h.client) fun h => absurd h (by decide)
          · next hclient =>
            split
            · next hne =>
              exact .mismatch _ hr hl (fun h => hne h.redirectUri) fun h => absurd h (by decide)
            · next huri =>
              rcases checkPkceEntry_exec B v entry with ⟨hx, hp⟩ | ⟨msg, hx, hp, hmsg⟩
              · have hm : Redeemable B credentials entry r v :=
                  ⟨not_not.mp hclient, not_not.mp huri, hp⟩
                simp only [exec_bind (h := checkPkceEntry B v entry), hx, exec_get_bind,
                  exec_okOr_bind]
                cases hc : (s.removeAuthorizationCode c).client credentials.clientId with
                | none => exact .orphan hr hl hm hc
                | some client =>
                  obtain ⟨r, s', hx, h⟩ := issueTokens_run d (s.removeAuthorizationCode c) client
                    entry.scope entry.nonce
                  simp only [hx]
                  cases h with
                  | unsigned msg hs =>
                    exact .unsigned msg hr hl hm hc fun a i h => hs a i ⟨h.access, h.id⟩
                  | issued access id hs => exact .exchanged hr hl hm hc ⟨hs.access, hs.id⟩
              · simp only [exec_bind (h := checkPkceEntry B v entry), hx]
                exact .mismatch msg hr hl (fun h => hp h.pkce)
                  fun h => ⟨not_not.mp hclient, hmsg h⟩

/-! ## Client credentials grant -/

/-- The scope rule of the two endpoints that default to everything allowed. -/
def scopeOrAllowed (client : ClientConfig) (scope : Option String) : HashSet String :=
  if parseScope scope = ∅ then client.allowedScopes else parseScope scope ∩ client.allowedScopes

theorem scopeOrAllowed_subset (client : ClientConfig) (scope : Option String) :
    scopeOrAllowed client scope ⊆ client.allowedScopes := by
  unfold scopeOrAllowed
  split
  · exact subset_rfl
  · exact Finset.inter_subset_right

/-- The answer of a client credentials request. -/
def clientCredentialsResponse (scope : HashSet String) (access : String) : TokenResponse where
  tokenType := "Bearer"
  expiresIn := 3600
  accessToken := access
  idToken := none
  scope := scopeToString scope
  refreshToken := none

inductive ClientCredentialsRun : Except MockError TokenResponse → InnerState → Prop
  | unknownClient (hc : s.client credentials.clientId = none) :
      ClientCredentialsRun (.error (.invalidClient "unknown client")) s
  | wrongSecret {client : ClientConfig} (hc : s.client credentials.clientId = some client)
      (hs : client.clientSecret ≠ credentials.clientSecret) :
      ClientCredentialsRun (.error (.invalidClient "invalid client_secret")) s
  | unsigned {client : ClientConfig} (msg : String)
      (hc : s.client credentials.clientId = some client)
      (hs : client.clientSecret = credentials.clientSecret) (hx : ¬ SigningSucceeds d) :
      ClientCredentialsRun (.error (.serverError msg)) s
  | granted {client : ClientConfig} {access : String}
      (hc : s.client credentials.clientId = some client)
      (hs : client.clientSecret = credentials.clientSecret)
      (ha : d.encode (jwtHeader s)
        (.access (accessClaims d s client (scopeOrAllowed client request.scope)))
        s.signing.encoding = .ok access) :
      ClientCredentialsRun
        (.ok (clientCredentialsResponse (scopeOrAllowed client request.scope) access))
        (s.insertAccessToken access)

theorem handleClientCredentials_run :
    ClientCredentialsRun d s credentials request
      ((handleClientCredentials d credentials request).exec s).1
      ((handleClientCredentials d credentials request).exec s).2 := by
  simp only [handleClientCredentials, exec_get_bind, exec_okOr_bind]
  cases hc : s.client credentials.clientId with
  | none => exact .unknownClient hc
  | some client =>
    simp only [exec_failIf_bind]
    split
    · next hs => exact .wrongSecret hc hs
    · next hs =>
      simp only [exec_get_bind, exec_liftResult_bind, issueAccessToken]
      cases ha : d.encode (jwtHeader s)
          (.access (accessClaims d s client (scopeOrAllowed client request.scope)))
          s.signing.encoding with
      | error err =>
        rw [scopeOrAllowed] at ha
        simp only [ha, Except.mapError]
        exact .unsigned _ hc (not_not.mp hs) (not_signingSucceeds d ha)
      | ok access =>
        have ha' := ha
        rw [scopeOrAllowed] at ha'
        simp only [ha', Except.mapError]
        exact .granted hc (not_not.mp hs) ha

/-! ## Refresh token grant -/

inductive RefreshTokenRun : Except MockError TokenResponse → InnerState → Prop
  | missing (h : request.refreshToken = none) :
      RefreshTokenRun (.error (.invalidRequest "missing refresh_token")) s
  | unknown {t : String} (ht : request.refreshToken = some t)
      (hl : s.refreshTokens.lookup t = none) :
      RefreshTokenRun (.error (.invalidGrant "invalid refresh token")) s
  | foreign {t : String} {entry : RefreshTokenEntry} (ht : request.refreshToken = some t)
      (hl : s.refreshTokens.lookup t = some entry) (hne : entry.clientId ≠ credentials.clientId) :
      RefreshTokenRun (.error (.invalidGrant "client mismatch for refresh token"))
        (s.removeRefreshToken t)
  | orphan {t : String} {entry : RefreshTokenEntry} (ht : request.refreshToken = some t)
      (hl : s.refreshTokens.lookup t = some entry) (he : entry.clientId = credentials.clientId)
      (hc : s.client credentials.clientId = none) :
      RefreshTokenRun (.error (.invalidClient "unknown client")) (s.removeRefreshToken t)
  | unsigned {t : String} {entry : RefreshTokenEntry} {client : ClientConfig} (msg : String)
      (ht : request.refreshToken = some t) (hl : s.refreshTokens.lookup t = some entry)
      (he : entry.clientId = credentials.clientId)
      (hc : s.client credentials.clientId = some client)
      (hs : Unsigned d s client entry.scope none) :
      RefreshTokenRun (.error (.serverError msg)) (s.removeRefreshToken t)
  | rotated {t access id : String} {entry : RefreshTokenEntry} {client : ClientConfig}
      (ht : request.refreshToken = some t) (hl : s.refreshTokens.lookup t = some entry)
      (he : entry.clientId = credentials.clientId)
      (hc : s.client credentials.clientId = some client)
      (hs : Signs d s client entry.scope none access id) :
      RefreshTokenRun (.ok (exchangeResponse d entry.scope access id))
        ((s.removeRefreshToken t).issue d client entry.scope access)

theorem handleRefreshToken_run :
    RefreshTokenRun d s credentials request
      ((handleRefreshToken d credentials request).exec s).1
      ((handleRefreshToken d credentials request).exec s).2 := by
  simp only [handleRefreshToken, exec_okOr_bind, exec_get_bind]
  cases ht : request.refreshToken with
  | none => exact .missing ht
  | some t =>
    simp only
    cases hl : s.refreshTokens.lookup t with
    | none => exact .unknown ht hl
    | some entry =>
      simp only [exec_modify_bind, exec_failIf_bind, exec_get_bind, exec_okOr_bind]
      split
      · next hne => exact .foreign ht hl hne
      · next he =>
        cases hc : (s.removeRefreshToken t).client credentials.clientId with
        | none => exact .orphan ht hl (not_not.mp he) hc
        | some client =>
          obtain ⟨r, s', hx, h⟩ :=
            issueTokens_run d (s.removeRefreshToken t) client entry.scope none
          simp only [hx]
          cases h with
          | unsigned msg hs =>
            exact .unsigned msg ht hl (not_not.mp he) hc fun a i h => hs a i ⟨h.access, h.id⟩
          | issued access id hs =>
            exact .rotated ht hl (not_not.mp he) hc ⟨hs.access, hs.id⟩

/-! ## Device code grant -/

/-- What a poll of a device code that is past deciding answers. -/
inductive Settled : DeviceCodeStatus → MockError → Prop
  | denied : Settled .denied .accessDenied
  | expired : Settled .expired .expiredToken
  | completed : Settled .completed (.invalidGrant "device_code already used")

inductive DeviceCodeRun : Except MockError TokenResponse → InnerState → Prop
  | missing (h : request.deviceCode = none) :
      DeviceCodeRun (.error (.invalidRequest "missing device_code")) s
  | unknown {c : String} (hd : request.deviceCode = some c) (hl : s.deviceCodes.lookup c = none) :
      DeviceCodeRun (.error (.invalidGrant "invalid device_code")) s
  | foreign {c : String} {entry : DeviceCodeEntry} (hd : request.deviceCode = some c)
      (hl : s.deviceCodes.lookup c = some entry) (hne : entry.clientId ≠ credentials.clientId) :
      DeviceCodeRun (.error (.invalidClient "client mismatch for device_code")) s
  | waiting {c : String} {entry : DeviceCodeEntry} {n : UInt32}
      (hd : request.deviceCode = some c) (hl : s.deviceCodes.lookup c = some entry)
      (he : entry.clientId = credentials.clientId) (hst : polledStatus d entry = .pending n) :
      DeviceCodeRun (.error (if (n + 1) % 3 = 0 then .slowDown else .authorizationPending))
        (s.insertDeviceCode c { entry with status := .pending (n + 1) })
  | orphan {c : String} {entry : DeviceCodeEntry} (hd : request.deviceCode = some c)
      (hl : s.deviceCodes.lookup c = some entry) (he : entry.clientId = credentials.clientId)
      (hst : polledStatus d entry = .approved) (hc : s.client credentials.clientId = none) :
      DeviceCodeRun (.error (.invalidClient "unknown client")) (s.removeDeviceCode c)
  | unsigned {c : String} {entry : DeviceCodeEntry} {client : ClientConfig} (msg : String)
      (hd : request.deviceCode = some c) (hl : s.deviceCodes.lookup c = some entry)
      (he : entry.clientId = credentials.clientId) (hst : polledStatus d entry = .approved)
      (hc : s.client credentials.clientId = some client)
      (hs : Unsigned d s client entry.scope none) :
      DeviceCodeRun (.error (.serverError msg)) (s.removeDeviceCode c)
  | exchanged {c access id : String} {entry : DeviceCodeEntry} {client : ClientConfig}
      (hd : request.deviceCode = some c) (hl : s.deviceCodes.lookup c = some entry)
      (he : entry.clientId = credentials.clientId) (hst : polledStatus d entry = .approved)
      (hc : s.client credentials.clientId = some client)
      (hs : Signs d s client entry.scope none access id) :
      DeviceCodeRun (.ok (exchangeResponse d entry.scope access id))
        ((s.issue d client entry.scope access).insertDeviceCode c
          { entry with status := .completed })
  | settled {c : String} {entry : DeviceCodeEntry} {e : MockError}
      (hd : request.deviceCode = some c) (hl : s.deviceCodes.lookup c = some entry)
      (he : entry.clientId = credentials.clientId) (hst : Settled (polledStatus d entry) e) :
      DeviceCodeRun (.error e)
        (s.insertDeviceCode c { entry with status := polledStatus d entry })

theorem issue_removeDeviceCode_insertDeviceCode (client : ClientConfig) (scope : HashSet String)
    (access c : String) (entry : DeviceCodeEntry) :
    ((s.removeDeviceCode c).issue d client scope access).insertDeviceCode c entry =
      (s.issue d client scope access).insertDeviceCode c entry := by
  simp only [InnerState.issue, InnerState.removeDeviceCode, InnerState.insertDeviceCode,
    InnerState.insertRefreshToken, InnerState.insertAccessToken, insert_erase]

theorem handleDeviceCode_run :
    DeviceCodeRun d s credentials request
      ((handleDeviceCode d credentials request).exec s).1
      ((handleDeviceCode d credentials request).exec s).2 := by
  simp only [handleDeviceCode, exec_okOr_bind, exec_get_bind]
  cases hd : request.deviceCode with
  | none => exact .missing hd
  | some c =>
    simp only
    cases hl : s.deviceCodes.lookup c with
    | none => exact .unknown hd hl
    | some entry =>
      simp only [exec_modify_bind]
      by_cases he : entry.clientId = credentials.clientId
      · have hsettled : ∀ {st err}, polledStatus d entry = st → Settled st err →
            DeviceCodeRun d s credentials request (.error err)
              (s.insertDeviceCode c { entry with status := st }) := by
          rintro _ err rfl h
          exact .settled hd hl he h
        rw [if_neg (not_not.mpr he), exec_bind]
        cases hst : polledStatus d entry with
        | pending n =>
          simp only [settleDeviceCode, exec_pure, exec_modify_bind, exec_liftResult,
            s.insertDeviceCode_removeDeviceCode]
          exact .waiting hd hl he hst
        | approved =>
          simp only [settleDeviceCode, exec_get_bind, exec_okOr_bind]
          cases hc : (s.removeDeviceCode c).client credentials.clientId with
          | none => exact .orphan hd hl he hst hc
          | some client =>
            obtain ⟨r, s', hx, h⟩ :=
              issueTokens_run d (s.removeDeviceCode c) client entry.scope none
            simp only [exec_bind (h := issueTokens d client entry.scope none), hx]
            cases h with
            | unsigned msg hs =>
              exact .unsigned msg hd hl he hst hc fun a i h => hs a i ⟨h.access, h.id⟩
            | issued access id hs =>
              simp only [exec_pure, exec_modify_bind, exec_liftResult,
                issue_removeDeviceCode_insertDeviceCode]
              exact .exchanged hd hl he hst hc ⟨hs.access, hs.id⟩
        | denied =>
          simp only [settleDeviceCode, exec_pure, exec_modify_bind, exec_liftResult,
            s.insertDeviceCode_removeDeviceCode]
          exact hsettled hst .denied
        | expired =>
          simp only [settleDeviceCode, exec_pure, exec_modify_bind, exec_liftResult,
            s.insertDeviceCode_removeDeviceCode]
          exact hsettled hst .expired
        | completed =>
          simp only [settleDeviceCode, exec_pure, exec_modify_bind, exec_liftResult,
            s.insertDeviceCode_removeDeviceCode]
          exact hsettled hst .completed
      · rw [if_pos he]
        simp only [exec_modify_bind, exec_throw, s.insertDeviceCode_removeDeviceCode,
          s.insertDeviceCode_of_lookup hl]
        exact .foreign hd hl he

end Outcomes

end GreenticConformance.OAuthMock
