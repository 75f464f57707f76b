import GreenticConformance.OAuthMock.History

/-!
# How an event changes the four stores

One law for each store, from the steps of the server: authorization codes and
refresh tokens are ledgers of single-use grants, access tokens come and go with
answers and revocations, and a device code goes through `DeviceStep`.
-/

namespace GreenticConformance.OAuthMock

open Runs

section Endpoints

variable {B : Build} {e : Served}

theorem RedeemsCode.endpoint {code : String} (h : RedeemsCode B e code) :
    e.input.request.endpoint = .token := by
  obtain ⟨_, _, _, _, hc, -⟩ := h
  exact hc.endpoint

theorem CodeIssued.endpoint {code : String} {entry : AuthorizationCode}
    (h : CodeIssued B e code entry) : e.input.request.endpoint = .authorize := by
  obtain ⟨_, _, hm, -⟩ := h
  rw [hm.requested]; rfl

theorem PresentsRefresh.endpoint {t : String} (h : PresentsRefresh B e t) :
    e.input.request.endpoint = .token := by
  obtain ⟨_, _, hc, -⟩ := h
  exact hc.endpoint

theorem Revokes.endpoint {t : String} (h : Revokes B e t) :
    e.input.request.endpoint = .revoke := by
  obtain ⟨_, _, hr, -⟩ := h
  rw [hr]; rfl

theorem RefreshIssued.endpoint {t : String} {entry : RefreshTokenEntry}
    (h : RefreshIssued B e t entry) : e.input.request.endpoint = .token := by
  obtain ⟨_, hx, -⟩ := h
  exact hx.call.endpoint

theorem StartsDevice.endpoint {c : String} {request : DeviceAuthorizationRequest}
    {client : ClientConfig} (h : StartsDevice B e c request client) :
    e.input.request.endpoint = .deviceAuthorization := by
  rw [h.requested]; rfl

theorem PollsDevice.endpoint {c : String} {cred : ClientCredentials} (h : PollsDevice B e c cred) :
    e.input.request.endpoint = .token := by
  obtain ⟨_, hc, -⟩ := h
  exact hc.endpoint

theorem DecidesOn.endpoint {c : String} {status : DeviceCodeStatus} (h : DecidesOn e c status) :
    e.input.request.endpoint = .decision := by
  obtain ⟨_, hd, -⟩ := h
  exact hd.endpoint

/-- A revocation names the token of its body. -/
theorem revokes_iff_namesToken {headers : HeaderMap} {body : HashMap String String} {t : String}
    (hc : e.input.request = .revoke headers body) :
    Revokes B e t ↔ NamesToken B headers body t := by
  constructor
  · intro hrev
    obtain ⟨headers', body', hr, hn⟩ := hrev
    obtain ⟨rfl, rfl⟩ := Request.revoke.inj (hc.symm.trans hr)
    exact hn
  · exact fun hn => ⟨headers, body, hc, hn⟩

theorem revokes_iff_eq {headers : HeaderMap} {body : HashMap String String} {t x : String}
    (hc : e.input.request = .revoke headers body) (hn : NamesToken B headers body t) :
    Revokes B e x ↔ x = t := by
  rw [revokes_iff_namesToken hc]
  exact ⟨fun hx => Option.some.inj (hx.2.symm.trans hn.2), fun heq => heq ▸ hn⟩

/-- A revocation presents no refresh token to the token endpoint. -/
theorem refreshConsumed_iff_revokes {t : String} (h : e.input.request.endpoint = .revoke) :
    RefreshConsumed B e t ↔ Revokes B e t :=
  or_iff_right fun hp => by cases h.symm.trans hp.endpoint

end Endpoints

/-! ## Authorization codes -/

section Codes

variable {B : Build} {e : Served} {cred : ClientCredentials} {request : TokenRequest}

theorem redeemsCode_iff {c r v x : String}
    (hc : TokenCall B e.input .authorizationCode cred request)
    (hr : Redeems B request c r v) : RedeemsCode B e x ↔ x = c := by
  constructor
  · intro hx
    obtain ⟨cred', request', r', v', hc', hr'⟩ := hx
    obtain ⟨-, -, rfl⟩ := hc.unique hc'
    exact Option.some.inj (hr'.code.symm.trans hr.code)
  · rintro rfl
    exact ⟨cred, request, r, v, hc, hr⟩

theorem not_redeemsCode_of_grant {g : GrantType} (hc : TokenCall B e.input g cred request)
    (hg : g ≠ .authorizationCode) (x : String) : ¬ RedeemsCode B e x := by
  intro hx
  obtain ⟨_, _, _, _, hc', -⟩ := hx
  exact hg (hc.unique hc').1

theorem codeIssued_iff {query : AuthorizeQuery} {client : ClientConfig}
    (hc : e.input.request = .authorize query) (hg : Grants B e.pre query client) (x : String)
    (w : AuthorizationCode) : CodeIssued B e x w ↔
      x = e.input.draws.generatedCode ∧ w = grantedCode e.input.draws query client := by
  constructor
  · intro hi
    obtain ⟨query', client', hm, rfl⟩ := hi
    obtain rfl := Request.authorize.inj (hc.symm.trans hm.requested)
    obtain rfl := Option.some.inj (hg.registered.symm.trans hm.grants.registered)
    exact ⟨hm.code.symm, rfl⟩
  · intro heq
    obtain ⟨rfl, rfl⟩ := heq
    exact ⟨query, client, ⟨hc, hg, rfl⟩, rfl⟩

/-- An event that is not an authorize request issues no code, and one that is
not a token request redeems none. -/
theorem codes_quiet {m : HashMap String AuthorizationCode}
    (ha : e.input.request.endpoint ≠ .authorize) (ht : e.input.request.endpoint ≠ .token) :
    IsChange (CodeIssued B e) (RedeemsCode B e) m m :=
  .quiet (fun _ _ h => ha h.endpoint) (fun _ h => ht h.endpoint)

theorem codes_change (h : Steps B e) :
    IsChange (CodeIssued B e) (RedeemsCode B e) e.pre.authorizationCodes
      e.post.authorizationCodes := by
  unfold Steps at h
  generalize e.output = r at h
  generalize e.post = s' at h ⊢
  cases h with
  | read hc => exact codes_quiet (by simp [hc]) (by simp [hc])
  | authorize hc h =>
    have hend : e.input.request.endpoint = .authorize := by rw [hc]; rfl
    have hno : ∀ x, ¬ RedeemsCode B e x := fun x h => by cases hend.symm.trans h.endpoint
    cases h with
    | refused err h =>
      refine .quiet (fun x w hi => ?_) hno
      obtain ⟨query', client, hm, -⟩ := hi
      obtain rfl := Request.authorize.inj (hc.symm.trans hm.requested)
      exact h client hm.grants
    | unparsable hg _ => exact .put (codeIssued_iff hc hg) hno
    | redirected hg _ => exact .put (codeIssued_iff hc hg) hno
  | @token g cred request r' _ hc h =>
    have hi : ∀ x w, ¬ CodeIssued B e x w := fun x w h => by cases hc.endpoint.symm.trans h.endpoint
    cases g with
    | authorizationCode =>
      cases h with
      | incomplete msg h =>
        refine .quiet hi fun x => ?_
        intro hx
        obtain ⟨cred', request', r', v', hc', hr'⟩ := hx
        obtain ⟨-, -, rfl⟩ := hc.unique hc'
        exact h _ _ _ hr'
      | unknown hr hl =>
        have ht := IsChange.take (m := e.pre.authorizationCodes) hi fun x => redeemsCode_iff hc hr
        rwa [erase_of_lookup hl] at ht
      | mismatch msg hr => exact .take hi fun x => redeemsCode_iff hc hr
      | orphan hr => exact .take hi fun x => redeemsCode_iff hc hr
      | unsigned msg hr => exact .take hi fun x => redeemsCode_iff hc hr
      | exchanged hr => exact .take hi fun x => redeemsCode_iff hc hr
    | clientCredentials =>
      have hno := not_redeemsCode_of_grant hc nofun
      cases h <;> exact .quiet hi hno
    | refreshToken =>
      have hno := not_redeemsCode_of_grant hc nofun
      cases h <;> exact .quiet hi hno
    | deviceCode =>
      have hno := not_redeemsCode_of_grant hc nofun
      cases h <;> exact .quiet hi hno
  | tokenRefused err hc hn =>
    refine .quiet (fun x w h => by cases hc.symm.trans h.endpoint) fun x => ?_
    intro hx
    obtain ⟨cred, request, _, _, hc', -⟩ := hx
    exact hn _ _ _ hc'
  | deviceAuthorization hc h =>
    have hend : e.input.request.endpoint = .deviceAuthorization := by rw [hc]; rfl
    cases h <;> exact codes_quiet (by simp [hend]) (by simp [hend])
  | revoke hc h =>
    have hend : e.input.request.endpoint = .revoke := by rw [hc]; rfl
    cases h <;> exact codes_quiet (by simp [hend]) (by simp [hend])
  | decision hc h => cases h <;> exact codes_quiet (by simp [hc.endpoint]) (by simp [hc.endpoint])

end Codes

/-! ## Answers -/

section Answers

variable {B : Build} {e : Served} {response : TokenResponse}

theorem answers_iff {r : Except MockError TokenResponse}
    (ho : e.output = .http (r.map .tokens)) : Answers e response ↔ r = .ok response := by
  unfold Answers
  rw [ho]
  cases r <;> simp [Except.map]

theorem not_answers_of_error {err : MockError} (ho : e.output = .http (.error err)) :
    ¬ Answers e response := by
  unfold Answers
  rw [ho]
  simp

/-- Only token requests are answered with tokens. -/
theorem not_answers_of_endpoint (h : Steps B e) (hend : e.input.request.endpoint ≠ .token) :
    ¬ Answers e response := by
  unfold Steps at h
  unfold Answers
  generalize e.output = r at h ⊢
  generalize e.post = s' at h
  cases h with
  | read hc hr => exact hr response
  | authorize hc h => exact map_ne_tokens nofun _ _
  | token hc h => exact absurd hc.endpoint hend
  | tokenRefused err hc hn => exact absurd hc hend
  | deviceAuthorization hc h => exact map_ne_tokens nofun _ _
  | revoke hc h => exact map_ne_tokens nofun _ _
  | decision hc h => nofun

/-- An answer with tokens is an exchange or a granted client credentials
request. -/
theorem Answers.cases (h : Steps B e) (ha : Answers e response) :
    (∃ x, Exchanged B e x ∧ response = exchangeResponse e.input.draws x.scope x.access x.id) ∨
    ∃ cred request client access, ClientGranted B e cred request client access ∧
      response = clientCredentialsResponse (scopeOrAllowed client request.scope) access := by
  have hend : e.input.request.endpoint = .token := by
    by_contra hne
    exact not_answers_of_endpoint h hne ha
  unfold Steps at h
  generalize ho : e.output = r at h
  generalize e.post = s' at h
  cases h with
  | read hc => cases hc.symm.trans hend
  | authorize hc => rw [hc] at hend; cases hend
  | @token g cred request r' _ hc h =>
    have hr := (answers_iff ho).mp ha
    cases g with
    | authorizationCode =>
      cases h with
      | exchanged hrd hl hm hcl hs =>
        have hx : Exchanged B e ⟨.authorizationCode, cred, request, _, _, _, _, _⟩ :=
          ⟨hc, hcl, .authorizationCode hrd hl hm, hs, ho⟩
        exact .inl ⟨_, hx, (Except.ok.inj hr).symm⟩
      | _ => cases hr
    | clientCredentials =>
      cases h with
      | granted hcl hsec hsig =>
        exact .inr ⟨cred, request, _, _, ⟨hc, hcl, hsec, hsig, ho⟩, (Except.ok.inj hr).symm⟩
      | _ => cases hr
    | refreshToken =>
      cases h with
      | rotated ht hl he hcl hs =>
        have hx : Exchanged B e ⟨.refreshToken, cred, request, _, _, _, _, _⟩ :=
          ⟨hc, hcl, .refreshToken ht hl he, hs, ho⟩
        exact .inl ⟨_, hx, (Except.ok.inj hr).symm⟩
      | _ => cases hr
    | deviceCode =>
      cases h with
      | exchanged hd hl he hst hcl hs =>
        have hx : Exchanged B e ⟨.deviceCode, cred, request, _, _, _, _, _⟩ :=
          ⟨hc, hcl, .deviceCode hd hl he hst, hs, ho⟩
        exact .inl ⟨_, hx, (Except.ok.inj hr).symm⟩
      | _ => cases hr
  | tokenRefused err => exact absurd ha (not_answers_of_error ho)
  | deviceAuthorization hc => rw [hc] at hend; cases hend
  | revoke hc => rw [hc] at hend; cases hend
  | decision hc => cases hc.endpoint.symm.trans hend

/-- A token request of another grant that is answered with tokens is an
exchange. -/
theorem Answers.exchanged {g : GrantType} {cred : ClientCredentials} {request : TokenRequest}
    (h : Steps B e) (hc : TokenCall B e.input g cred request) (hg : g ≠ .clientCredentials)
    (ha : Answers e response) :
    ∃ client scope nonce access id,
      Exchanged B e ⟨g, cred, request, client, scope, nonce, access, id⟩ ∧
      response = exchangeResponse e.input.draws scope access id := by
  rcases ha.cases h with ⟨x, hx, rfl⟩ | ⟨cred', request', client, access, hgranted, -⟩
  · obtain ⟨rfl, rfl, rfl⟩ := hc.unique hx.call
    exact ⟨_, _, _, _, _, hx, rfl⟩
  · exact absurd (hc.unique hgranted.call).1 hg

section Entitled

variable {s s' : InnerState} {d : Draws} {cred : ClientCredentials} {request : TokenRequest}
variable {client : ClientConfig} {access id : String} {r : Except MockError TokenResponse}

/-- A code that is redeemed by the right client yields its tokens: none of the refusals
of the handler applies. -/
theorem AuthorizationCodeRun.eq_ok (h : AuthorizationCodeRun B d s cred request r s')
    {c redirect v : String} {entry : AuthorizationCode} (hr : Redeems B request c redirect v)
    (hl : s.authorizationCodes.lookup c = some entry) (hm : Redeemable B cred entry redirect v)
    (hreg : s.client cred.clientId = some client)
    (hs : Signs d s client entry.scope entry.nonce access id) :
    r = .ok (exchangeResponse d entry.scope access id) := by
  cases h with
  | incomplete msg hno => exact absurd hr (hno _ _ _)
  | unknown hr' hl' =>
    obtain ⟨rfl, -⟩ := hr.unique hr'
    cases hl.symm.trans hl'
  | mismatch msg hr' hl' hm' =>
    obtain ⟨rfl, rfl, rfl⟩ := hr.unique hr'
    obtain rfl := Option.some.inj (hl.symm.trans hl')
    exact absurd hm hm'
  | orphan hr' hl' hm' hcl => cases hreg.symm.trans hcl
  | unsigned msg hr' hl' hm' hcl hno =>
    obtain ⟨rfl, -⟩ := hr.unique hr'
    obtain rfl := Option.some.inj (hl.symm.trans hl')
    obtain rfl := Option.some.inj (hreg.symm.trans hcl)
    exact absurd hs (hno access id)
  | exchanged hr' hl' hm' hcl hs' =>
    obtain ⟨rfl, -⟩ := hr.unique hr'
    obtain rfl := Option.some.inj (hl.symm.trans hl')
    obtain rfl := Option.some.inj (hreg.symm.trans hcl)
    obtain ⟨rfl, rfl⟩ := hs.unique hs'
    rfl

theorem RefreshTokenRun.eq_ok (h : RefreshTokenRun d s cred request r s') {t : String}
    {entry : RefreshTokenEntry} (ht : request.refreshToken = some t)
    (hl : s.refreshTokens.lookup t = some entry) (he : entry.clientId = cred.clientId)
    (hreg : s.client cred.clientId = some client)
    (hs : Signs d s client entry.scope none access id) :
    r = .ok (exchangeResponse d entry.scope access id) := by
  have hsame : ∀ {t' entry'}, request.refreshToken = some t' →
      s.refreshTokens.lookup t' = some entry' → entry = entry' := by
    intro t' entry' ht' hl'
    obtain rfl := Option.some.inj (ht.symm.trans ht')
    exact Option.some.inj (hl.symm.trans hl')
  cases h with
  | missing hno => cases ht.symm.trans hno
  | unknown ht' hl' =>
    obtain rfl := Option.some.inj (ht.symm.trans ht')
    cases hl.symm.trans hl'
  | foreign ht' hl' hne => exact absurd (hsame ht' hl' ▸ he) hne
  | orphan ht' hl' he' hcl => cases hreg.symm.trans hcl
  | unsigned msg ht' hl' he' hcl hno =>
    obtain rfl := hsame ht' hl'
    obtain rfl := Option.some.inj (hreg.symm.trans hcl)
    exact absurd hs (hno access id)
  | rotated ht' hl' he' hcl hs' =>
    obtain rfl := hsame ht' hl'
    obtain rfl := Option.some.inj (hreg.symm.trans hcl)
    obtain ⟨rfl, rfl⟩ := hs.unique hs'
    rfl

theorem DeviceCodeRun.eq_ok (h : DeviceCodeRun d s cred request r s') {c : String}
    {entry : DeviceCodeEntry} (hd : request.deviceCode = some c)
    (hl : s.deviceCodes.lookup c = some entry) (he : entry.clientId = cred.clientId)
    (hst : polledStatus d entry = .approved) (hreg : s.client cred.clientId = some client)
    (hs : Signs d s client entry.scope none access id) :
    r = .ok (exchangeResponse d entry.scope access id) := by
  have hsame : ∀ {c' entry'}, request.deviceCode = some c' →
      s.deviceCodes.lookup c' = some entry' → entry = entry' := by
    intro c' entry' hd' hl'
    obtain rfl := Option.some.inj (hd.symm.trans hd')
    exact Option.some.inj (hl.symm.trans hl')
  cases h with
  | missing hno => cases hd.symm.trans hno
  | unknown hd' hl' =>
    obtain rfl := Option.some.inj (hd.symm.trans hd')
    cases hl.symm.trans hl'
  | foreign hd' hl' hne => exact absurd (hsame hd' hl' ▸ he) hne
  | waiting hd' hl' _ hst' =>
    rw [← hsame hd' hl', hst] at hst'
    cases hst'
  | orphan hd' hl' _ _ hcl => cases hreg.symm.trans hcl
  | unsigned msg hd' hl' _ _ hcl hno =>
    obtain rfl := hsame hd' hl'
    obtain rfl := Option.some.inj (hreg.symm.trans hcl)
    exact absurd hs (hno access id)
  | exchanged hd' hl' _ _ hcl hs' =>
    obtain rfl := hsame hd' hl'
    obtain rfl := Option.some.inj (hreg.symm.trans hcl)
    obtain ⟨rfl, rfl⟩ := hs.unique hs'
    rfl
  | settled hd' hl' _ hst' =>
    rw [← hsame hd' hl', hst] at hst'
    cases hst'

end Entitled

/-- An exchange that a call is entitled to takes place. -/
theorem Accepts.exchanged {x : Exchange} (h : Steps B e) (ha : Accepts B e.pre e.input x) :
    Exchanged B e x := by
  obtain ⟨a, s', ho, -, hrun⟩ := grantRun_of_steps h ha.call
  refine ⟨ha.call, ha.registered, ha.presented, ha.signs, (answers_iff ho).mpr ?_⟩
  obtain ⟨g, cred, request, client, scope, nonce, access, id⟩ := x
  obtain ⟨-, hreg, hp, hs⟩ := ha
  -- the handler finds the same grant
  cases hp with
  | authorizationCode hr hl hm => exact AuthorizationCodeRun.eq_ok hrun hr hl hm hreg hs
  | refreshToken ht hl he => exact RefreshTokenRun.eq_ok hrun ht hl he hreg hs
  | deviceCode hd hl he hst => exact DeviceCodeRun.eq_ok hrun hd hl he hst hreg hs

end Answers

/-! ## Refresh tokens -/

section Refresh

variable {B : Build} {e : Served} {cred : ClientCredentials} {request : TokenRequest}

theorem Presented.unique {s : InnerState} {d : Draws} {g : GrantType}
    {scope scope' : HashSet String}
    {nonce nonce' : Option String} (h : Presented B s d cred request g scope nonce)
    (h' : Presented B s d cred request g scope' nonce') : scope = scope' ∧ nonce = nonce' := by
  cases h with
  | authorizationCode hr hl hm =>
    cases h' with
    | authorizationCode hr' hl' hm' =>
      obtain rfl := Option.some.inj (hr.code.symm.trans hr'.code)
      obtain rfl := Option.some.inj (hl.symm.trans hl')
      exact ⟨rfl, rfl⟩
  | refreshToken ht hl he =>
    cases h' with
    | refreshToken ht' hl' he' =>
      obtain rfl := Option.some.inj (ht.symm.trans ht')
      obtain rfl := Option.some.inj (hl.symm.trans hl')
      exact ⟨rfl, rfl⟩
  | deviceCode hd hl he hst =>
    cases h' with
    | deviceCode hd' hl' he' hst' =>
      obtain rfl := Option.some.inj (hd.symm.trans hd')
      obtain rfl := Option.some.inj (hl.symm.trans hl')
      exact ⟨rfl, rfl⟩

theorem refreshIssued_iff {x : Exchange} (hx : Exchanged B e x) (t : String)
    (w : RefreshTokenEntry) :
    RefreshIssued B e t w ↔ t = e.input.draws.generatedCode ∧ w = x.entry e := by
  constructor
  · intro hi
    obtain ⟨y, hy, rfl, rfl⟩ := hi
    obtain ⟨hg, hcr, hrq⟩ := hx.call.unique hy.call
    have hcl := hx.registered.symm.trans (hcr ▸ hy.registered)
    have hp := hy.presented
    rw [← hg, ← hcr, ← hrq] at hp
    refine ⟨rfl, ?_⟩
    unfold Exchange.entry
    rw [Option.some.inj hcl, (hx.presented.unique hp).1]
  · intro heq
    obtain ⟨rfl, rfl⟩ := heq
    exact ⟨x, hx, rfl, rfl⟩

/-- The refresh tokens that are answered are the ones that are stored. -/
theorem issuesRefresh_iff (h : Steps B e) {t : String} :
    IssuesRefresh e t ↔ ∃ entry, RefreshIssued B e t entry := by
  constructor
  · intro hi
    obtain ⟨response, ha, ht⟩ := hi
    rcases ha.cases h with ⟨x, hx, rfl⟩ | ⟨cred, request, client, access, -, rfl⟩
    · exact ⟨_, x, hx, Option.some.inj ht, rfl⟩
    · -- a client credentials request is answered without a refresh token
      cases ht
  · intro hi
    obtain ⟨entry, x, hx, rfl, -⟩ := hi
    exact ⟨_, hx.output, rfl⟩

theorem not_refreshIssued_of_error {err : MockError} (ho : e.output = .http (.error err))
    (t : String) (w : RefreshTokenEntry) : ¬ RefreshIssued B e t w := by
  intro hi
  obtain ⟨x, hx, -⟩ := hi
  exact not_answers_of_error ho hx.output

theorem refreshConsumed_iff {t x : String} (hc : TokenCall B e.input .refreshToken cred request)
    (ht : request.refreshToken = some t) : RefreshConsumed B e x ↔ x = t := by
  constructor
  · rintro (⟨cred', request', hc', ht'⟩ | hr)
    · obtain ⟨-, -, rfl⟩ := hc.unique hc'
      exact Option.some.inj (ht'.symm.trans ht)
    · cases hc.endpoint.symm.trans hr.endpoint
  · rintro rfl
    exact .inl ⟨cred, request, hc, ht⟩

theorem not_refreshConsumed_of_grant {g : GrantType} (hc : TokenCall B e.input g cred request)
    (hg : g ≠ .refreshToken) (x : String) : ¬ RefreshConsumed B e x := by
  rintro (⟨_, _, hc', -⟩ | hr)
  · exact hg (hc.unique hc').1
  · cases hc.endpoint.symm.trans hr.endpoint

theorem refresh_quiet {m : HashMap String RefreshTokenEntry}
    (hr : e.input.request.endpoint ≠ .revoke) (ht : e.input.request.endpoint ≠ .token) :
    IsChange (RefreshIssued B e) (RefreshConsumed B e) m m :=
  .quiet (fun _ _ h => ht h.endpoint) fun _ h => h.elim (fun h => ht h.endpoint) fun h =>
    hr h.endpoint

/-- A refresh token that is presented is taken, and replaced when all is well. -/
theorem RefreshTokenRun.isChange {r : Except MockError TokenResponse} {s' : InnerState}
    (h : RefreshTokenRun e.input.draws e.pre cred request r s')
    (hc : TokenCall B e.input .refreshToken cred request)
    (ho : e.output = .http (r.map .tokens)) :
    IsChange (RefreshIssued B e) (RefreshConsumed B e) e.pre.refreshTokens s'.refreshTokens := by
  cases h with
  | missing h =>
    refine .quiet (not_refreshIssued_of_error ho) fun x => ?_
    rintro (⟨cred', request', hc', ht'⟩ | hr)
    · obtain ⟨-, -, rfl⟩ := hc.unique hc'
      cases h.symm.trans ht'
    · cases hc.endpoint.symm.trans hr.endpoint
  | unknown ht hl =>
    have hk : IsChange (RefreshIssued B e) (RefreshConsumed B e) e.pre.refreshTokens _ :=
      .take (not_refreshIssued_of_error ho) fun x => refreshConsumed_iff hc ht
    rwa [erase_of_lookup hl] at hk
  | rotated ht hl he hcl hs =>
    exact .takePut (refreshIssued_iff (x := ⟨.refreshToken, cred, request, _, _, _, _, _⟩)
      ⟨hc, hcl, .refreshToken ht hl he, hs, ho⟩) fun x => refreshConsumed_iff hc ht
  | foreign ht => exact .take (not_refreshIssued_of_error ho) fun x => refreshConsumed_iff hc ht
  | orphan ht => exact .take (not_refreshIssued_of_error ho) fun x => refreshConsumed_iff hc ht
  | unsigned msg ht =>
    exact .take (not_refreshIssued_of_error ho) fun x => refreshConsumed_iff hc ht

theorem refresh_change (h : Steps B e) :
    IsChange (RefreshIssued B e) (RefreshConsumed B e) e.pre.refreshTokens
      e.post.refreshTokens := by
  unfold Steps at h
  generalize ho : e.output = r at h
  generalize e.post = s' at h ⊢
  cases h with
  | read hc => exact refresh_quiet (by simp [hc]) (by simp [hc])
  | authorize hc h =>
    have hend : e.input.request.endpoint = .authorize := by rw [hc]; rfl
    cases h <;> exact refresh_quiet (by simp [hend]) (by simp [hend])
  | @token g cred request r' _ hc h =>
    cases g with
    | authorizationCode =>
      have hno := not_refreshConsumed_of_grant hc nofun
      cases h with
      | exchanged hr hl hm hcl hs =>
        exact .put (refreshIssued_iff (x := ⟨.authorizationCode, cred, request, _, _, _, _, _⟩)
          ⟨hc, hcl, .authorizationCode hr hl hm, hs, ho⟩) hno
      | _ => exact .quiet (not_refreshIssued_of_error ho) hno
    | clientCredentials =>
      have hno := not_refreshConsumed_of_grant hc nofun
      have hi : ∀ t w, ¬ RefreshIssued B e t w := by
        rintro t w ⟨x, hx, -⟩
        have hp := hx.presented
        rw [← (hc.unique hx.call).1] at hp
        cases hp
      cases h <;> exact .quiet hi hno
    | refreshToken => exact RefreshTokenRun.isChange h hc ho
    | deviceCode =>
      have hno := not_refreshConsumed_of_grant hc nofun
      cases h with
      | exchanged hd hl he hst hcl hs =>
        exact .put (refreshIssued_iff (x := ⟨.deviceCode, cred, request, _, _, _, _, _⟩)
          ⟨hc, hcl, .deviceCode hd hl he hst, hs, ho⟩) hno
      | _ => exact .quiet (not_refreshIssued_of_error ho) hno
  | tokenRefused err hc hn =>
    refine .quiet (fun t w h => ?_) fun x h => ?_
    · obtain ⟨x, hx, -⟩ := h
      exact hn _ _ _ hx.call
    · rcases h with ⟨_, _, hc', -⟩ | hr
      · exact hn _ _ _ hc'
      · cases hc.symm.trans hr.endpoint
  | deviceAuthorization hc h =>
    have hend : e.input.request.endpoint = .deviceAuthorization := by rw [hc]; rfl
    cases h <;> exact refresh_quiet (by simp [hend]) (by simp [hend])
  | revoke hc h =>
    have hend : e.input.request.endpoint = .revoke := by rw [hc]; rfl
    have hi : ∀ t w, ¬ RefreshIssued B e t w := fun t w h => by cases hend.symm.trans h.endpoint
    cases h with
    | refused err h =>
      refine .quiet hi fun x hx => ?_
      rw [refreshConsumed_iff_revokes hend, revokes_iff_namesToken hc] at hx
      exact h x hx
    | revoked h =>
      refine .take hi fun x => ?_
      rw [refreshConsumed_iff_revokes hend, revokes_iff_eq hc h]
  | decision hc h =>
    cases h <;> exact refresh_quiet (by simp [hc.endpoint]) (by simp [hc.endpoint])

end Refresh

/-! ## Access tokens -/

section Access

variable {B : Build} {e : Served}

theorem issuesAccess_iff {response : TokenResponse} {t : String}
    (ho : e.output = .http ((.ok response : Except MockError TokenResponse).map .tokens)) :
    IssuesAccess e t ↔ t = response.accessToken := by
  constructor
  · intro hi
    obtain ⟨response', ha, rfl⟩ := hi
    rw [Except.ok.inj ((answers_iff ho).mp ha)]
  · rintro rfl
    exact ⟨response, (answers_iff ho).mpr rfl, rfl⟩

theorem access_quiet (hr : e.input.request.endpoint ≠ .revoke)
    (ha : ∀ response, ¬ Answers e response) (t : String) (S : HashSet String) :
    t ∈ S ↔ IssuesAccess e t ∨ (¬ Revokes B e t ∧ t ∈ S) := by
  have hi : ¬ IssuesAccess e t := fun ⟨response, h, _⟩ => ha response h
  have hv : ¬ Revokes B e t := fun h => hr h.endpoint
  simp [hi, hv]

theorem access_put {response : TokenResponse} (hr : e.input.request.endpoint ≠ .revoke)
    (ho : e.output = .http ((.ok response : Except MockError TokenResponse).map .tokens))
    (t : String) (S : HashSet String) :
    t ∈ insert response.accessToken S ↔ IssuesAccess e t ∨ (¬ Revokes B e t ∧ t ∈ S) := by
  have hv : ¬ Revokes B e t := fun h => hr h.endpoint
  simp [issuesAccess_iff ho, hv]

/-- An access token is there after an event that answers with it, and otherwise
if it was there before and the event does not revoke it. -/
theorem mem_accessTokens_post (h : Steps B e) (t : String) :
    t ∈ e.post.accessTokens ↔
      IssuesAccess e t ∨ (¬ Revokes B e t ∧ t ∈ e.pre.accessTokens) := by
  have hno := fun response hend => @not_answers_of_endpoint B e response h hend
  unfold Steps at h
  generalize ho : e.output = r at h
  generalize e.post = s' at h ⊢
  cases h with
  | read hc => exact access_quiet (by simp [hc]) (fun _ => hno _ (by simp [hc])) t _
  | authorize hc h =>
    have hend : e.input.request.endpoint = .authorize := by rw [hc]; rfl
    have hsame := access_quiet (B := B) (by simp [hend]) (fun _ => hno _ (by simp [hend])) t
    cases h <;> exact hsame _
  | @token g cred request r' _ hc h =>
    have hr : e.input.request.endpoint ≠ .revoke := by simp [hc.endpoint]
    cases g with
    | authorizationCode =>
      cases h with
      | exchanged => exact access_put hr ho t _
      | _ => exact access_quiet hr (fun _ => not_answers_of_error ho) t _
    | clientCredentials =>
      cases h with
      | granted => exact access_put hr ho t _
      | _ => exact access_quiet hr (fun _ => not_answers_of_error ho) t _
    | refreshToken =>
      cases h with
      | rotated => exact access_put hr ho t _
      | _ => exact access_quiet hr (fun _ => not_answers_of_error ho) t _
    | deviceCode =>
      cases h with
      | exchanged => exact access_put hr ho t _
      | _ => exact access_quiet hr (fun _ => not_answers_of_error ho) t _
  | tokenRefused err hc hn =>
    exact access_quiet (by simp [hc]) (fun _ => not_answers_of_error ho) t _
  | deviceAuthorization hc h =>
    have hend : e.input.request.endpoint = .deviceAuthorization := by rw [hc]; rfl
    have hsame := access_quiet (B := B) (by simp [hend]) (fun _ => hno _ (by simp [hend])) t
    cases h <;> exact hsame _
  | revoke hc h =>
    have hend : e.input.request.endpoint = .revoke := by rw [hc]; rfl
    have hi : ¬ IssuesAccess e t := fun ⟨_, ha, _⟩ => hno _ (by simp [hend]) ha
    cases h with
    | refused err h =>
      have hv : ¬ Revokes B e t := fun hrev => h t ((revokes_iff_namesToken hc).mp hrev)
      simp [hi, hv]
    | revoked h =>
      have hv := revokes_iff_eq (x := t) hc h
      simp [hi, hv]
  | decision hc h =>
    have hend := hc.endpoint
    have hsame := access_quiet (B := B) (by simp [hend]) (fun _ => hno _ (by simp [hend])) t
    cases h <;> exact hsame _

end Access

/-! ## Device codes -/

section Device

variable {B : Build} {e : Served} {cred : ClientCredentials} {request : TokenRequest}
  {c : String}

theorem DeviceStep.of_endpoint (hd : e.input.request.endpoint ≠ .deviceAuthorization)
    (ht : e.input.request.endpoint ≠ .token) (hx : e.input.request.endpoint ≠ .decision)
    (o : Option DeviceCodeEntry) : DeviceStep B e c o o :=
  .idle (fun _ _ h => hd h.endpoint) (fun _ _ _ _ h => ht h.endpoint) fun _ h => hx h.endpoint

/-- A token request that no owner of `c` polls with leaves `c` alone. -/
theorem DeviceStep.of_token (ht : e.input.request.endpoint = .token) {o : Option DeviceCodeEntry}
    (hp : ∀ entry cred, o = some entry → entry.clientId = cred.clientId →
      ¬ PollsDevice B e c cred) : DeviceStep B e c o o :=
  .idle (fun _ _ h => by cases ht.symm.trans h.endpoint) hp fun _ h => by
    cases ht.symm.trans h.endpoint

theorem not_pollsDevice_of_grant {g : GrantType} (hc : TokenCall B e.input g cred request)
    (hg : g ≠ .deviceCode) (cred' : ClientCredentials) : ¬ PollsDevice B e c cred' := by
  intro hp
  obtain ⟨request', hc', -⟩ := hp
  exact hg (hc.unique hc').1

theorem pollsDevice_iff {x : String} (hc : TokenCall B e.input .deviceCode cred request)
    (hd : request.deviceCode = some x) {cred' : ClientCredentials} :
    PollsDevice B e c cred' ↔ c = x ∧ cred' = cred := by
  constructor
  · intro hp
    obtain ⟨request', hc', hd'⟩ := hp
    obtain ⟨-, rfl, rfl⟩ := hc.unique hc'
    exact ⟨Option.some.inj (hd'.symm.trans hd), rfl⟩
  · intro heq
    obtain ⟨rfl, rfl⟩ := heq
    exact ⟨request, hc, hd⟩

/-- A poll of `x` that rewrites or drops the entry of `x` is a step of every
device code once it is one of `x`. -/
theorem DeviceStep.of_poll {x : String} {m m' : HashMap String DeviceCodeEntry}
    (hc : TokenCall B e.input .deviceCode cred request) (hd : request.deviceCode = some x)
    (hx : DeviceStep B e x (m.lookup x) (m'.lookup x))
    (hne : c ≠ x → m'.lookup c = m.lookup c) :
    DeviceStep B e c (m.lookup c) (m'.lookup c) := by
  by_cases h : c = x
  · exact h ▸ hx
  · rw [hne h]
    exact .of_token hc.endpoint fun _ _ _ _ hp => h ((pollsDevice_iff hc hd).mp hp).1

/-- The other grants leave every device code alone. -/
theorem DeviceStep.of_other_grant {g : GrantType} (hc : TokenCall B e.input g cred request)
    (hg : g ≠ .deviceCode) (o : Option DeviceCodeEntry) : DeviceStep B e c o o :=
  .of_token hc.endpoint fun _ cred' _ _ => not_pollsDevice_of_grant hc hg cred'

/-- A device authorization that does not start `c` leaves it alone. -/
theorem DeviceStep.of_not_starts {request : DeviceAuthorizationRequest}
    (hc : e.input.request = .deviceAuthorization request)
    (hn : ∀ client, ¬ StartsDevice B e c request client) (o : Option DeviceCodeEntry) :
    DeviceStep B e c o o := by
  have hend : e.input.request.endpoint = .deviceAuthorization := by rw [hc]; rfl
  refine .idle (fun request' client h => ?_) (fun _ _ _ _ h => by cases hend.symm.trans h.endpoint)
    fun _ h => by cases hend.symm.trans h.endpoint
  obtain rfl := Request.deviceAuthorization.inj (hc.symm.trans h.requested)
  exact hn client h

/-- A decision that is not about `c` leaves it alone. -/
theorem DeviceStep.of_not_decides (hend : e.input.request.endpoint = .decision)
    (hn : ∀ status, ¬ DecidesOn e c status) (o : Option DeviceCodeEntry) :
    DeviceStep B e c o o :=
  .idle (fun _ _ h => by cases hend.symm.trans h.endpoint)
    (fun _ _ _ _ h => by cases hend.symm.trans h.endpoint) hn

/-- A poll moves the device code it names, and no other. -/
theorem DeviceCodeRun.deviceStep {r : Except MockError TokenResponse} {s' : InnerState}
    (h : DeviceCodeRun e.input.draws e.pre cred request r s')
    (hc : TokenCall B e.input .deviceCode cred request)
    (ho : e.output = .http (r.map .tokens)) :
    DeviceStep B e c (e.pre.deviceCodes.lookup c) (s'.deviceCodes.lookup c) := by
  cases h with
  | missing h =>
    refine .of_token hc.endpoint fun _ _ _ _ hp => ?_
    obtain ⟨request', hc', hd⟩ := hp
    obtain ⟨-, -, rfl⟩ := hc.unique hc'
    cases h.symm.trans hd
  | unknown hd hl =>
    refine .of_token hc.endpoint fun entry cred' ho _ hp => ?_
    obtain ⟨rfl, -⟩ := (pollsDevice_iff hc hd).mp hp
    cases hl.symm.trans ho
  | foreign hd hl hne =>
    refine .of_token hc.endpoint fun entry cred' ho he hp => ?_
    obtain ⟨rfl, rfl⟩ := (pollsDevice_iff hc hd).mp hp
    obtain rfl := Option.some.inj (hl.symm.trans ho)
    exact hne he
  | @waiting x entry n hd hl he hst =>
    refine .of_poll hc hd ?_ fun h => Finmap.lookup_insert_of_ne _ h
    rw [hl, InnerState.insertDeviceCode_deviceCodes, Finmap.lookup_insert]
    exact .polled ⟨request, hc, hd⟩ he (hst ▸ .waiting n) ho
  | @orphan x entry hd hl he hst hcl =>
    refine .of_poll hc hd ?_ fun h => Finmap.lookup_erase_ne h
    rw [hl, InnerState.removeDeviceCode_deviceCodes, Finmap.lookup_erase]
    exact .lost ⟨request, hc, hd⟩ he hst (.inl hcl) ho
  | @unsigned x entry client msg hd hl he hst hcl hs =>
    refine .of_poll hc hd ?_ fun h => Finmap.lookup_erase_ne h
    rw [hl, InnerState.removeDeviceCode_deviceCodes, Finmap.lookup_erase]
    exact .lost ⟨request, hc, hd⟩ he hst (.inr hs.not_signingSucceeds) ho
  | @exchanged x access id entry client hd hl he hst hcl hs =>
    refine .of_poll hc hd ?_ fun h => Finmap.lookup_insert_of_ne _ h
    rw [hl, InnerState.insertDeviceCode_deviceCodes, Finmap.lookup_insert]
    exact .exchanged (x := ⟨.deviceCode, cred, request, client, entry.scope, none, access, id⟩)
      ⟨hc, hcl, .deviceCode hd hl he hst, hs, ho⟩ rfl hd he rfl hst
  | @settled x entry err hd hl he hst =>
    refine .of_poll hc hd ?_ fun h => Finmap.lookup_insert_of_ne _ h
    rw [hl, InnerState.insertDeviceCode_deviceCodes, Finmap.lookup_insert]
    exact .polled ⟨request, hc, hd⟩ he (.settled hst) ho

theorem device_step (h : Steps B e) (c : String) :
    DeviceStep B e c (e.pre.deviceCodes.lookup c) (e.post.deviceCodes.lookup c) := by
  unfold Steps at h
  generalize ho : e.output = r at h
  generalize e.post = s' at h ⊢
  cases h with
  | read hc => exact .of_endpoint (by simp [hc]) (by simp [hc]) (by simp [hc]) _
  | authorize hc h =>
    have hend : e.input.request.endpoint = .authorize := by rw [hc]; rfl
    have hsame : ∀ o, DeviceStep B e c o o :=
      DeviceStep.of_endpoint (by simp [hend]) (by simp [hend]) (by simp [hend])
    cases h <;> exact hsame _
  | @token g cred request r' _ hc h =>
    cases g with
    | authorizationCode => cases h <;> exact .of_other_grant hc nofun _
    | clientCredentials => cases h <;> exact .of_other_grant hc nofun _
    | refreshToken => cases h <;> exact .of_other_grant hc nofun _
    | deviceCode => exact DeviceCodeRun.deviceStep h hc ho
  | tokenRefused err hc hn =>
    refine .of_token hc fun _ _ _ _ hp => ?_
    obtain ⟨_, hc', -⟩ := hp
    exact hn _ _ _ hc'
  | @deviceAuthorization request _ _ hc h =>
    cases h with
    | disabled hf => exact .of_not_starts hc (fun _ h => hf h.enabled) _
    | unknownClient hcl =>
      exact .of_not_starts hc (fun _ h => nomatch hcl.symm.trans h.registered) _
    | started hf hcl =>
      rw [InnerState.insertDeviceCode_deviceCodes, lookup_insert_ite]
      split
      · next hx => exact .started ⟨hc, hf, hcl, hx.symm⟩
      · next hx => exact .of_not_starts hc (fun _ h => hx h.code.symm) _
  | revoke hc h =>
    have hend : e.input.request.endpoint = .revoke := by rw [hc]; rfl
    have hsame : ∀ o, DeviceStep B e c o o :=
      DeviceStep.of_endpoint (by simp [hend]) (by simp [hend]) (by simp [hend])
    cases h <;> exact hsame _
  | @decision status userCode _ _ hc h =>
    cases h with
    | notFound msg h =>
      refine .of_not_decides hc.endpoint (fun status' hd => ?_) _
      obtain ⟨userCode', hc', hf⟩ := hd
      obtain ⟨-, rfl⟩ := hc.unique hc'
      cases h.symm.trans hf
    | @decided x entry h hl hm =>
      rw [InnerState.insertDeviceCode_deviceCodes, lookup_insert_ite]
      split
      · next hx =>
        subst hx
        rw [hl]
        exact .decided ⟨userCode, hc, h⟩
      · next hx =>
        refine .of_not_decides hc.endpoint (fun status' hd => ?_) _
        obtain ⟨userCode', hc', hf⟩ := hd
        obtain ⟨-, rfl⟩ := hc.unique hc'
        exact hx (Option.some.inj (hf.symm.trans h))

theorem not_startsDevice_of_endpoint (h : e.input.request.endpoint ≠ .deviceAuthorization)
    (request : DeviceAuthorizationRequest) (client : ClientConfig) :
    ¬ StartsDevice B e c request client :=
  fun hs => h hs.endpoint

/-- An entry after a step was started by it, or was there before up to its
status. -/
theorem DeviceStep.of_some {o : Option DeviceCodeEntry} {entry : DeviceCodeEntry}
    (h : DeviceStep B e c o (some entry)) :
    (∃ request client, StartsDevice B e c request client ∧
      entry = startedDevice e.input.draws client request.scope) ∨
    ((∀ request client, ¬ StartsDevice B e c request client) ∧
      ∃ old, o = some old ∧ entry = { old with status := entry.status }) := by
  cases h with
  | started hst => exact .inl ⟨_, _, hst, rfl⟩
  | idle hs => exact .inr ⟨hs, entry, rfl, rfl⟩
  | polled hp =>
    have hend := hp.endpoint
    exact .inr ⟨not_startsDevice_of_endpoint (by simp [hend]), _, rfl, rfl⟩
  | exchanged hx =>
    have hend := hx.call.endpoint
    exact .inr ⟨not_startsDevice_of_endpoint (by simp [hend]), _, rfl, rfl⟩
  | decided hd =>
    have hend := hd.endpoint
    exact .inr ⟨not_startsDevice_of_endpoint (by simp [hend]), _, rfl, rfl⟩

theorem StartsDevice.unique {request request' : DeviceAuthorizationRequest}
    {client client' : ClientConfig} (h : StartsDevice B e c request client)
    (h' : StartsDevice B e c request' client') : request = request' ∧ client = client' := by
  obtain rfl := Request.deviceAuthorization.inj (h.requested.symm.trans h'.requested)
  exact ⟨rfl, Option.some.inj (h.registered.symm.trans h'.registered)⟩

theorem lookup_post_of_starts (h : Steps B e) {request : DeviceAuthorizationRequest}
    {client : ClientConfig} (hst : StartsDevice B e c request client) :
    e.post.deviceCodes.lookup c = some (startedDevice e.input.draws client request.scope) := by
  have hstep := device_step h c
  have hend := hst.endpoint
  generalize e.pre.deviceCodes.lookup c = o at hstep
  generalize e.post.deviceCodes.lookup c = o' at hstep ⊢
  cases hstep with
  | started hst' =>
    obtain ⟨rfl, rfl⟩ := hst.unique hst'
    rfl
  | idle hno => exact absurd hst (hno _ _)
  | polled hp => cases hend.symm.trans hp.endpoint
  | exchanged hx => cases hend.symm.trans hx.call.endpoint
  | lost hp => cases hend.symm.trans hp.endpoint
  | decided hd => cases hend.symm.trans hd.endpoint

end Device

end GreenticConformance.OAuthMock
