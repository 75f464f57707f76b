import GreenticConformance.OAuthMock.Issued

/-!
# Requests for scopes that are not allowed

Three endpoints cut the requested scope down to what the client is allowed. A
request that names scopes of which none is allowed is refused by `authorize`;
`handle_client_credentials` and `device_authorization` answer it and grant the
empty scope.

## Main definitions

- `AsksDisallowed` — an otherwise valid request for scopes that are not allowed
- `ScopedStores` — no client that is allowed a scope holds a grant of none

## Main results

- `scope_rule_iff` — which of these requests are refused, and which runs keep
  every grant scoped
-/

namespace GreenticConformance.OAuthMock

open Runs Handler

variable {B : Build} {s s₀ : InnerState} {c : Call} {e : Served} {calls : List Call}
  {client : ClientConfig} {endpoint : Endpoint} {scope : HashSet String}
  {response : TokenResponse}

/-! ## The rule -/

/-- The scope parameter names scopes, and none that the client is allowed. -/
def NamesDisallowed (client : ClientConfig) (scope : Option String) : Prop :=
  parseScope scope ≠ ∅ ∧ parseScope scope ∩ client.allowedScopes = ∅

/-- Two endpoints grant nothing exactly when the parameter names disallowed
scopes only, or there is nothing to grant by default. -/
theorem scopeOrAllowed_eq_empty_iff (scope : Option String) :
    scopeOrAllowed client scope = ∅ ↔
      NamesDisallowed client scope ∨ (parseScope scope = ∅ ∧ client.allowedScopes = ∅) := by
  unfold scopeOrAllowed NamesDisallowed
  by_cases h : parseScope scope = ∅
  · simp [h]
  · simp [h]

/-- A request that would be served, but for its scope parameter: it names scopes
of which the client is allowed none. -/
inductive AsksDisallowed (B : Build) (s : InnerState) (c : Call) : Endpoint → ClientConfig → Prop
  | authorize {query : AuthorizeQuery} {client : ClientConfig} (hc : c.request = .authorize query)
      (ht : query.responseType = "code") (hreg : s.client query.clientId = some client)
      (hu : query.redirectUri ∈ client.redirectUris)
      (hp : B.features.pkce → query.codeChallengeMethod = some "S256" ∧
        ∃ challenge, query.codeChallenge = some challenge)
      (hs : NamesDisallowed client query.scope) : AsksDisallowed B s c .authorize client
  | clientCredentials {cred : ClientCredentials} {request : TokenRequest} {client : ClientConfig}
      (hc : TokenCall B c .clientCredentials cred request)
      (hreg : s.client cred.clientId = some client)
      (hsec : client.clientSecret = cred.clientSecret)
      (hs : NamesDisallowed client request.scope) : AsksDisallowed B s c .token client
  | deviceAuthorization {request : DeviceAuthorizationRequest} {client : ClientConfig}
      (hc : c.request = .deviceAuthorization request) (hf : B.features.deviceCode)
      (hreg : s.client request.clientId = some client)
      (hs : NamesDisallowed client request.scope) :
      AsksDisallowed B s c .deviceAuthorization client

/-- The event is refused with `invalid_scope` and adds no code, device code or
access token. -/
structure RefusedForScope (e : Served) : Prop where
  output : ∃ msg, e.output = .http (.error (.invalidScope msg))
  codes : e.post.authorizationCodes = e.pre.authorizationCodes
  devices : e.post.deviceCodes = e.pre.deviceCodes
  access : e.post.accessTokens = e.pre.accessTokens

theorem authorize_refusedForScope {query : AuthorizeQuery} (hc : c.request = .authorize query)
    (ht : query.responseType = "code") (hreg : s.client query.clientId = some client)
    (hu : query.redirectUri ∈ client.redirectUris) (hs : NamesDisallowed client query.scope) :
    RefusedForScope ((server B).event s c) := by
  have hrun : (authorize B c.draws query).exec s =
      (.error (.invalidScope "no allowed scopes requested"), s) := by
    simp only [authorize, exec_failIf_bind, exec_get_bind, exec_okOr_bind, ht, hreg, hu, hs.2,
      not_true_eq_false, ne_eq, if_true, if_false]
  have hserve :
      serve B s c = (.http (.error (.invalidScope "no allowed scopes requested")), s) := by
    simp only [serve, hc, hrun]
    rfl
  refine ⟨⟨_, congrArg Prod.fst hserve⟩, ?_, ?_, ?_⟩
  · rw [server_post, hserve]; rfl
  · rw [server_post, hserve]; rfl
  · rw [server_post, hserve]; rfl

/-- The other two endpoints answer, or fail to sign; they never refuse. -/
theorem refusedForScope_iff (ha : AsksDisallowed B s c endpoint client) :
    RefusedForScope ((server B).event s c) ↔ endpoint = .authorize := by
  cases ha with
  | authorize hc ht hreg hu _ hs =>
    exact iff_of_true (authorize_refusedForScope hc ht hreg hu hs) rfl
  | clientCredentials hc hreg hsec _ =>
    refine iff_of_false ?_ nofun
    intro hrefused
    obtain ⟨msg, hout⟩ := hrefused.output
    obtain ⟨a, s', ho, -, hrun⟩ := grantRun_of_steps (steps_event B s c) hc
    rw [ho] at hout
    cases hrun <;> cases hout
  | @deviceAuthorization request _ hc _ _ _ =>
    refine iff_of_false ?_ nofun
    intro hrefused
    obtain ⟨msg, hout⟩ := hrefused.output
    have hrun := deviceAuthorization_run B c.draws s request
    simp only [server_output, serve, hc, respond] at hout
    generalize ((deviceAuthorization B c.draws request).exec s).1 = r at hrun hout
    generalize ((deviceAuthorization B c.draws request).exec s).2 = s' at hrun
    cases hrun <;> cases hout

/-! ## Runs -/

/-- A grant of the client is not empty, if the client is allowed any scope. -/
def Scoped (s : InnerState) (clientId : String) (scope : HashSet String) : Prop :=
  ∀ client, s.client clientId = some client → client.allowedScopes ≠ ∅ → scope ≠ ∅

/-- No client that is allowed a scope holds a grant of none. -/
structure ScopedStores (s : InnerState) : Prop where
  codes : ∀ code entry, s.authorizationCodes.lookup code = some entry →
    Scoped s entry.clientId entry.scope
  refresh : ∀ token entry, s.refreshTokens.lookup token = some entry →
    Scoped s entry.clientId entry.scope
  devices : ∀ code entry, s.deviceCodes.lookup code = some entry →
    Scoped s entry.clientId entry.scope

/-- No client that is allowed a scope is answered with tokens of none. -/
def IssuesScoped (B : Build) (e : Served) : Prop :=
  ∀ client scope response, Issues B e client scope response → client.allowedScopes ≠ ∅ →
    scope ≠ ∅

/-- The event grants a client that is allowed a scope none: the request names
disallowed scopes only and goes to an endpoint that does not refuse it. -/
inductive GrantsNothing (B : Build) (e : Served) : Prop
  | device {client : ClientConfig}
      (ha : AsksDisallowed B e.pre e.input .deviceAuthorization client)
      (hs : client.allowedScopes ≠ ∅)
  | clientCredentials {client : ClientConfig} {access : String}
      (ha : AsksDisallowed B e.pre e.input .token client) (hs : client.allowedScopes ≠ ∅)
      (hx : e.input.draws.encode (jwtHeader e.pre)
        (.access (accessClaims e.input.draws e.pre client ∅)) e.pre.signing.encoding = .ok access)

theorem scoped_post (h : Steps B e) {id : String} :
    Scoped e.post id scope ↔ Scoped e.pre id scope := by
  simp only [Scoped, post_client h]

theorem Spawned.scopedStores (h : Spawned s) : ScopedStores s := by
  obtain ⟨b, baseUrl, signing, rfl⟩ := h
  have hempty {V : Type} {k : String} {v : V} :
      (∅ : HashMap String V).lookup k ≠ some v := by simp
  exact ⟨fun _ _ hl => absurd hl hempty, fun _ _ hl => absurd hl hempty,
    fun _ _ hl => absurd hl hempty⟩

/-- A grant that is presented is one of the presenting client. -/
theorem Presented.scoped {d : Draws} {cred : ClientCredentials} {request : TokenRequest}
    {g : GrantType} {nonce : Option String} (hs : ScopedStores s)
    (h : Presented B s d cred request g scope nonce) : Scoped s cred.clientId scope := by
  cases h with
  | authorizationCode hr hl hm => exact hm.client ▸ hs.codes _ _ hl
  | refreshToken ht hl he => exact he ▸ hs.refresh _ _ hl
  | deviceCode hd hl he hst => exact he ▸ hs.devices _ _ hl

theorem Exchanged.scoped {x : Exchange} (hs : ScopedStores e.pre) (hx : Exchanged B e x) :
    Scoped e.pre x.client.clientId x.scope := by
  rw [InnerState.client_clientId hx.registered]
  exact hx.presented.scoped hs

/-- An endpoint that defaults to everything allowed grants nothing only to a
request for disallowed scopes. -/
theorem namesDisallowed_of_empty {param : Option String} (hs : client.allowedScopes ≠ ∅)
    (h : scopeOrAllowed client param = ∅) : NamesDisallowed client param := by
  rcases (scopeOrAllowed_eq_empty_iff param).mp h with h | h
  · exact h
  · exact absurd h.2 hs

/-- One step: a store stays scoped unless the event grants nothing. -/
theorem ScopedStores.post (h : Steps B e) (hno : ¬ GrantsNothing B e) (hs : ScopedStores e.pre) :
    ScopedStores e.post where
  codes code entry hl := by
    rw [scoped_post h]
    rw [(codes_change h).lookup] at hl
    rcases hl with ⟨query, client, hm, rfl⟩ | ⟨-, hl⟩
    · intro _ _ _
      exact hm.grants.scope
    · exact hs.codes _ _ hl
  refresh token entry hl := by
    rw [scoped_post h]
    rw [(refresh_change h).lookup] at hl
    rcases hl with ⟨x, hx, -, rfl⟩ | ⟨-, hl⟩
    · exact hx.scoped hs
    · exact hs.refresh _ _ hl
  devices code entry hl := by
    rw [scoped_post h]
    rcases (hl ▸ device_step h code).of_some with ⟨request, client, hst, rfl⟩ | ⟨-, old, ho, he⟩
    · intro client' hreg hallowed hempty
      have hid : client.clientId = request.clientId := InnerState.client_clientId hst.registered
      obtain rfl : client = client' := by
        have hsame := hst.registered
        rw [← hid] at hsame
        exact Option.some.inj (hsame.symm.trans hreg)
      exact hno (.device (.deviceAuthorization hst.requested hst.enabled hst.registered
        (namesDisallowed_of_empty hallowed hempty)) hallowed)
    · rw [he]
      exact hs.devices code old ho

theorem issuesScoped (hno : ¬ GrantsNothing B e) (hs : ScopedStores e.pre) : IssuesScoped B e := by
  intro client scope response hi hallowed
  cases hi with
  | @exchanged x hx =>
    have hreg : e.pre.client x.client.clientId = some x.client := by
      rw [InnerState.client_clientId hx.registered]
      exact hx.registered
    exact hx.scoped hs _ hreg hallowed
  | clientCredentials hg =>
    intro hempty
    have hsigned := hg.signs
    rw [hempty] at hsigned
    exact hno (.clientCredentials (.clientCredentials hg.call hg.registered hg.secret
      (namesDisallowed_of_empty hallowed hempty)) hallowed hsigned)

/-- A client credentials request that is entitled to a token is answered with
it. -/
theorem clientGranted_of_signs {cred : ClientCredentials} {request : TokenRequest}
    {access : String} (hc : TokenCall B c .clientCredentials cred request)
    (hreg : s.client cred.clientId = some client) (hsec : client.clientSecret = cred.clientSecret)
    (hx : c.draws.encode (jwtHeader s)
      (.access (accessClaims c.draws s client (scopeOrAllowed client request.scope)))
      s.signing.encoding = .ok access) :
    ClientGranted B ((server B).event s c) cred request client access := by
  refine ⟨hc, hreg, hsec, hx, ?_⟩
  obtain ⟨headers, hrequest, hcred, hgrant⟩ := hc
  have hrun : ((handleClientCredentials c.draws cred request).exec s).1 =
      .ok (clientCredentialsResponse (scopeOrAllowed client request.scope) access) := by
    have hx' := hx
    rw [scopeOrAllowed] at hx'
    simp only [handleClientCredentials, exec_get_bind, exec_okOr_bind, exec_failIf_bind, hreg, hsec,
      ne_eq, not_true_eq_false, if_false, exec_liftResult_bind, issueAccessToken, hx',
      Except.mapError]
    rfl
  have htoken : ((token B c.draws headers request).exec s).1 =
      .ok (clientCredentialsResponse (scopeOrAllowed client request.scope) access) := by
    have hgrant' : request.grantType = "client_credentials" := hgrant
    simp only [token, exec_liftResult_bind, hcred, hgrant']
    exact hrun
  simp only [Answers, server_output, serve, hrequest, respond, htoken]
  rfl

/-- An event that grants nothing stores or answers an empty scope. -/
theorem GrantsNothing.not_scoped (hg : GrantsNothing B ((server B).event s c)) :
    ¬ (ScopedStores ((server B).event s c).post ∧ IssuesScoped B ((server B).event s c)) := by
  intro hboth
  obtain ⟨hstores, hissues⟩ := hboth
  have h := steps_event B s c
  cases hg with
  | @device client ha hallowed =>
    cases ha with
    | @deviceAuthorization request _ hc hf hreg hs =>
      have hempty : scopeOrAllowed client request.scope = ∅ :=
        (scopeOrAllowed_eq_empty_iff _).mpr (.inl hs)
      have hl := lookup_post_of_starts h ⟨hc, hf, hreg, rfl⟩
      have hpost : ((server B).event s c).post.client client.clientId = some client := by
        rw [post_client h, InnerState.client_clientId hreg]
        exact hreg
      exact hstores.devices _ _ hl client hpost hallowed hempty
  | @clientCredentials client access ha hallowed hx =>
    cases ha with
    | @clientCredentials cred request _ hc hreg hsec hs =>
      have hempty : scopeOrAllowed client request.scope = ∅ :=
        (scopeOrAllowed_eq_empty_iff _).mpr (.inl hs)
      have hgranted := clientGranted_of_signs hc hreg hsec (hempty ▸ hx)
      exact hissues _ _ _ (.clientCredentials hgranted) hallowed hempty

/-- **The scope rule.** Of the otherwise valid requests that name disallowed
scopes only, exactly those to `authorize` are refused with `invalid_scope` and
add nothing. A run keeps every grant and every token of the clients that are
allowed a scope non-empty exactly when none of its events answers such a request
elsewhere. -/
theorem scope_rule_iff (h₀ : Spawned s₀) (calls : List Call) :
    (∀ s c endpoint client, AsksDisallowed B s c endpoint client →
      (RefusedForScope ((server B).event s c) ↔ endpoint = .authorize)) ∧
    ((∀ e ∈ (server B).trace s₀ calls, ScopedStores e.post ∧ IssuesScoped B e) ↔
      ∀ e ∈ (server B).trace s₀ calls, ¬ GrantsNothing B e) := by
  refine ⟨fun s c endpoint client ha => refusedForScope_iff ha, ?_, ?_⟩
  · intro hall e he hg
    have hscoped := hall e he
    obtain ⟨is₁, c, is₂, -, rfl⟩ := (server B).exists_of_mem_trace he
    exact hg.not_scoped hscoped
  · intro hno e he
    have hinv := (server B).trace_invariant (I := ScopedStores)
      (fun x hx hs => hs.post (steps_of_mem_trace hx) (hno x hx)) h₀.scopedStores he
    exact ⟨hinv.2, issuesScoped (hno e he) hinv.1⟩

/-! ### Disallowed scopes on the sample server -/

open Sample in
/-- A run that only authorizes keeps every grant scoped. -/
theorem scope_rule_iff_authorized :
    ScopedStores start ∧
      ∀ e ∈ (server build).trace start [authorizeCall],
        ScopedStores e.post ∧ IssuesScoped build e := by
  refine ⟨spawned_start.scopedStores, (scope_rule_iff spawned_start [authorizeCall]).2.mpr ?_⟩
  intro e he hg
  have hinput : e.input = authorizeCall :=
    List.mem_singleton.mp ((server build).input_mem_of_mem_trace he)
  have hend : e.input.request.endpoint = .authorize := by rw [hinput]; rfl
  cases hg with
  | device ha _ =>
    cases ha with
    | deviceAuthorization hc => rw [hc] at hend; cases hend
  | clientCredentials ha _ _ =>
    cases ha with
    | clientCredentials hc => cases hend.symm.trans hc.endpoint

open Sample in
/-- Asked for a scope that the default client is not allowed, the token and the
device authorization endpoint answer with a token and a code of no scope. -/
theorem disallowed_scope_granted :
    (AsksDisallowed build start (clientCredentialsCall mockClient (some "admin")) .token
        mockClient ∧
      Answers ((server build).event start (clientCredentialsCall mockClient (some "admin")))
        (clientCredentialsResponse ∅ (accessToken "01")) ∧
      accessToken "01" ∈
        ((server build).run start [clientCredentialsCall mockClient (some "admin")]).accessTokens) ∧
    AsksDisallowed build start
      ⟨.deviceAuthorization ⟨"mock-client", some "admin"⟩, draws 0 "01"⟩ .deviceAuthorization
      mockClient ∧
    ∃ entry, ((server build).run start
        [⟨.deviceAuthorization ⟨"mock-client", some "admin"⟩, draws 0 "01"⟩]).deviceCodes.lookup
        (code "01") = some entry ∧ entry.clientId = "mock-client" ∧ entry.scope = ∅ := by
  have hs : NamesDisallowed mockClient (some "admin") := by
    constructor <;> decide
  refine ⟨⟨.clientCredentials (tokenCall_clientCredentialsCall _ _) rfl rfl hs, rfl, by decide⟩,
    .deviceAuthorization rfl rfl rfl hs, _, rfl, rfl, by decide⟩

end GreenticConformance.OAuthMock
