import GreenticConformance.OAuthMock.DeviceCodes
import GreenticConformance.OAuthMock.Grants

/-!
# Isolation of clients

What a request of one client does to the grants of the others. A device code is
put back when another client polls it; an authorization code or a refresh token
that another client presents is taken out before the clients are compared, and
`revoke` never compares them.

## Main definitions

- `RequestedBy` — the credentials of a token request or a revocation
- `KeepsOthers` — the grants of the other clients are still stored

## Main results

- `client_isolation` — exactly which requests keep the grants of the others
-/

namespace GreenticConformance.OAuthMock

open Runs

/-- The credentials of a request to the token endpoint or to `revoke`. -/
inductive RequestedBy (B : Build) (c : Call) (cred : ClientCredentials) : Prop
  | token {headers : HeaderMap} {request : TokenRequest} (hc : c.request = .token headers request)
      (hx : extractClientCredentials B headers request = .ok cred)
  | revoke {headers : HeaderMap} {body : HashMap String String}
      (hc : c.request = .revoke headers body)
      (hx : extractClientCredentials B headers emptyTokenRequest = .ok cred)

/-- Every grant that `s` holds for a client other than `id` is in `s'` as well. -/
def KeepsOthers (id : String) (s s' : InnerState) : Prop :=
  ∀ g k x, s.grant g k = some x → x.clientId ≠ id → s'.grant g k = some x

/-- The grant is stored for a client other than `id`. -/
def Foreign (s : InnerState) (id : String) (g : GrantType) (k : String) : Prop :=
  ∃ x, s.grant g k = some x ∧ x.clientId ≠ id

/-- The request presents another client's authorization code or refresh token,
or revokes another client's refresh token. -/
inductive TakesForeign (B : Build) (s : InnerState) (c : Call) (cred : ClientCredentials) : Prop
  | presented {g : GrantType} {k : String} (hg : g ≠ .deviceCode) (hp : Presents B c cred g k)
      (hf : Foreign s cred.clientId g k)
  | revoked {headers : HeaderMap} {body : HashMap String String} {t : String}
      (hc : c.request = .revoke headers body) (hn : NamesToken B headers body t)
      (hf : Foreign s cred.clientId .refreshToken t)

/-- The request is entitled to an exchange and draws the key under which
another client's refresh token is stored. -/
def OverwritesForeign (B : Build) (s : InnerState) (c : Call) (cred : ClientCredentials) : Prop :=
  (∃ x, Accepts B s c x) ∧ Foreign s cred.clientId .refreshToken c.draws.generatedCode

variable {B : Build} {e : Served} {cred : ClientCredentials} {g : GrantType} {k : String}

namespace RequestedBy

theorem endpoint {c : Call} (h : RequestedBy B c cred) :
    c.request.endpoint = .token ∨ c.request.endpoint = .revoke := by
  cases h with
  | token hc => exact .inl (by rw [hc]; rfl)
  | revoke hc => exact .inr (by rw [hc]; rfl)

theorem eq_of_tokenCall {c : Call} {cred' : ClientCredentials} {request : TokenRequest}
    (h : RequestedBy B c cred) (hc : TokenCall B c g cred' request) : cred' = cred := by
  obtain ⟨headers', hc', hx', -⟩ := hc
  cases h with
  | token hc hx =>
    obtain ⟨rfl, rfl⟩ := Request.token.inj (hc.symm.trans hc')
    exact Except.ok.inj (hx'.symm.trans hx)
  | revoke hc => cases hc.symm.trans hc'

theorem presents {c : Call} {cred' : ClientCredentials} (h : RequestedBy B c cred)
    (hp : Presents B c cred' g k) : Presents B c cred g k := by
  obtain ⟨request, hc, hr⟩ := hp
  obtain rfl := h.eq_of_tokenCall hc
  exact ⟨request, hc, hr⟩

end RequestedBy

/-- The endpoints in question neither mint codes nor start or decide on device
codes. -/
theorem RequestedBy.endpoint_ne (h : RequestedBy B e.input cred) :
    e.input.request.endpoint ≠ .authorize ∧ e.input.request.endpoint ≠ .deviceAuthorization ∧
      e.input.request.endpoint ≠ .decision := by
  rcases h.endpoint with hend | hend <;> simp [hend]

/-! ## The grants of the others -/

/-- A refresh token that a request stores is one of its own client. -/
theorem issued_clientId (hby : RequestedBy B e.input cred) {entry : RefreshTokenEntry}
    (hi : RefreshIssued B e k entry) : entry.clientId = cred.clientId := by
  obtain ⟨x, hx, -, rfl⟩ := hi
  have hcred := hby.eq_of_tokenCall hx.call
  exact hcred ▸ InnerState.client_clientId hx.registered

/-- A device code of another client is never touched. -/
theorem device_kept_of_foreign (h : Steps B e) (hby : RequestedBy B e.input cred)
    {entry : DeviceCodeEntry} (hl : e.pre.deviceCodes.lookup k = some entry)
    (hne : entry.clientId ≠ cred.clientId) : e.post.deviceCodes.lookup k = some entry := by
  obtain ⟨-, hstart, hdecide⟩ := hby.endpoint_ne
  have hstep := device_step h k
  have hpoll : ∀ {cred'}, PollsDevice B e k cred' → entry.clientId ≠ cred'.clientId := by
    rintro cred' ⟨request, hc, -⟩
    obtain rfl := hby.eq_of_tokenCall hc
    exact hne
  rw [hl] at hstep
  generalize e.post.deviceCodes.lookup k = o at hstep ⊢
  cases hstep with
  | started hs => exact absurd hs.endpoint hstart
  | idle => rfl
  | polled hp he => exact absurd he (hpoll hp)
  | exchanged hx hg hd he => exact absurd he (hpoll ⟨_, hg ▸ hx.call, hd⟩)
  | lost hp he => exact absurd he (hpoll hp)
  | decided hd => exact absurd hd.endpoint hdecide

/-- A request that neither takes nor overwrites a grant of another client keeps
them all. -/
theorem keepsOthers_of_not (h : Steps B e) (hby : RequestedBy B e.input cred)
    (ht : ¬ TakesForeign B e.pre e.input cred) (hw : ¬ OverwritesForeign B e.pre e.input cred) :
    KeepsOthers cred.clientId e.pre e.post := by
  intro g k x hx hne
  have hf : Foreign e.pre cred.clientId g k := ⟨x, hx, hne⟩
  obtain ⟨hmint, -, -⟩ := hby.endpoint_ne
  cases g with
  | authorizationCode =>
    obtain ⟨entry, hl, rfl⟩ := InnerState.grant_code.mp hx
    have hi : ∀ w, ¬ CodeIssued B e k w := fun w hw => hmint hw.endpoint
    have hr : ¬ RedeemsCode B e k := by
      intro hr
      obtain ⟨cred', hp⟩ := redeemsCode_iff_presents.mp hr
      exact ht (.presented (g := .authorizationCode) nofun (hby.presents hp) hf)
    exact InnerState.grant_code.mpr ⟨entry, (codes_change h).kept hr hi hl, rfl⟩
  | clientCredentials => cases hx
  | refreshToken =>
    obtain ⟨entry, hl, rfl⟩ := InnerState.grant_refresh.mp hx
    have hi : ∀ w, ¬ RefreshIssued B e k w := by
      intro w hissued
      obtain ⟨y, hy, hdrawn, -⟩ := hissued
      refine hw ⟨⟨y, hy.accepts⟩, ?_⟩
      rw [hdrawn]
      exact hf
    have hr : ¬ RefreshConsumed B e k := by
      rintro (⟨cred', request, hc, hp⟩ | ⟨headers, body, hc, hn⟩)
      · exact ht (.presented (g := .refreshToken) nofun (hby.presents ⟨request, hc, hp⟩) hf)
      · exact ht (.revoked hc hn hf)
    exact InnerState.grant_refresh.mpr ⟨entry, (refresh_change h).kept hr hi hl, rfl⟩
  | deviceCode =>
    obtain ⟨entry, hl, rfl⟩ := InnerState.grant_device.mp hx
    exact InnerState.grant_device.mpr ⟨entry, device_kept_of_foreign h hby hl hne, rfl⟩

/-- A refresh token of another client that is consumed is gone. -/
theorem not_keepsOthers_of_consumed (h : Steps B e) (hby : RequestedBy B e.input cred)
    (hf : Foreign e.pre cred.clientId .refreshToken k) (hr : RefreshConsumed B e k) :
    ¬ KeepsOthers cred.clientId e.pre e.post := by
  intro hkeep
  obtain ⟨x, hx, hne⟩ := hf
  obtain ⟨entry, hl, rfl⟩ := InnerState.grant_refresh.mp (hkeep _ k x hx hne)
  have hi : ¬ RefreshIssued B e k entry := fun hi => hne (issued_clientId hby hi)
  exact ((refresh_change h).of_post hi hl).1 hr

/-- A request that takes a grant of another client does not keep it. -/
theorem not_keepsOthers_of_takes (h : Steps B e) (hby : RequestedBy B e.input cred)
    (ht : TakesForeign B e.pre e.input cred) : ¬ KeepsOthers cred.clientId e.pre e.post := by
  obtain ⟨hmint, -, -⟩ := hby.endpoint_ne
  cases ht with
  | @presented g k hg hp hf =>
    cases g with
    | authorizationCode =>
      intro hkeep
      obtain ⟨x, hx, hne⟩ := hf
      obtain ⟨entry, hl, -⟩ := InnerState.grant_code.mp (hkeep _ k x hx hne)
      have hi : ¬ CodeIssued B e k entry := fun hi => hmint hi.endpoint
      have hr : RedeemsCode B e k := redeemsCode_iff_presents.mpr ⟨cred, hp⟩
      exact ((codes_change h).of_post hi hl).1 hr
    | clientCredentials =>
      obtain ⟨_, -, hno⟩ := hp
      exact hno.elim
    | refreshToken =>
      obtain ⟨request, hc, hr⟩ := hp
      exact not_keepsOthers_of_consumed h hby hf (.inl ⟨cred, request, hc, hr⟩)
    | deviceCode => exact absurd rfl hg
  | revoked hc hn hf => exact not_keepsOthers_of_consumed h hby hf (.inr ⟨_, _, hc, hn⟩)

/-- A request that overwrites a refresh token of another client does not keep
it. -/
theorem not_keepsOthers_of_overwrites (h : Steps B e) (hby : RequestedBy B e.input cred)
    (hw : OverwritesForeign B e.pre e.input cred) :
    ¬ KeepsOthers cred.clientId e.pre e.post := by
  intro hkeep
  obtain ⟨⟨y, hy⟩, x, hx, hne⟩ := hw
  have hi : RefreshIssued B e e.input.draws.generatedCode (y.entry e) :=
    ⟨y, hy.exchanged h, rfl, rfl⟩
  have hnew := ((refresh_change h).lookup _ _).mpr (.inl hi)
  obtain ⟨entry, hl, rfl⟩ := InnerState.grant_refresh.mp (hkeep _ _ x hx hne)
  obtain rfl := Option.some.inj (hnew.symm.trans hl)
  exact hne (issued_clientId hby hi)

/-- A grant of another client that is stored after a request was stored before
it. -/
theorem grant_of_post (h : Steps B e) (hby : RequestedBy B e.input cred) {x : Grant}
    (hx : e.post.grant g k = some x) (hne : x.clientId ≠ cred.clientId) :
    e.pre.grant g k = some x := by
  obtain ⟨hmint, hstart, -⟩ := hby.endpoint_ne
  cases g with
  | authorizationCode =>
    obtain ⟨entry, hl, rfl⟩ := InnerState.grant_code.mp hx
    have hi : ¬ CodeIssued B e k entry := fun hi => hmint hi.endpoint
    exact InnerState.grant_code.mpr ⟨entry, ((codes_change h).of_post hi hl).2, rfl⟩
  | clientCredentials => cases hx
  | refreshToken =>
    obtain ⟨entry, hl, rfl⟩ := InnerState.grant_refresh.mp hx
    have hi : ¬ RefreshIssued B e k entry := fun hi => hne (issued_clientId hby hi)
    exact InnerState.grant_refresh.mpr ⟨entry, ((refresh_change h).of_post hi hl).2, rfl⟩
  | deviceCode =>
    obtain ⟨entry, hl, rfl⟩ := InnerState.grant_device.mp hx
    rcases (hl ▸ device_step h k).of_some with ⟨_, _, hs, -⟩ | ⟨-, old, hold, hentry⟩
    · exact absurd hs.endpoint hstart
    · have hold_ne : old.clientId ≠ cred.clientId := by
        intro heq
        apply hne
        rw [hentry]
        exact heq
      have hsame := device_kept_of_foreign h hby hold hold_ne
      obtain rfl := Option.some.inj (hl.symm.trans hsame)
      exact InnerState.grant_device.mpr ⟨entry, hold, rfl⟩

/-! ## Runs of one client -/

/-- A request of client `id` that keeps the grants of the others. -/
def KeepingRequest (B : Build) (id : String) (e : Served) : Prop :=
  ∃ cred, cred.clientId = id ∧ RequestedBy B e.input cred ∧
    ¬ TakesForeign B e.pre e.input cred ∧ ¬ OverwritesForeign B e.pre e.input cred

/-- A run of such requests leaves the grants of the others as they are. -/
theorem run_isolated {id : String} {s : InnerState} {calls : List Call}
    (hrun : ∀ e ∈ (server B).trace s calls, KeepingRequest B id e) {x : Grant}
    (hne : x.clientId ≠ id) :
    ((server B).run s calls).grant g k = some x ↔ s.grant g k = some x := by
  induction calls generalizing s with
  | nil => rfl
  | cons c calls ih =>
    rw [Machine.trace_cons] at hrun
    obtain ⟨cred, rfl, hby, ht, hw⟩ := hrun _ List.mem_cons_self
    have hstep := steps_event B s c
    have hrest := ih fun e he => hrun e (List.mem_cons_of_mem _ he)
    rw [Machine.run_cons, hrest]
    constructor
    · intro hx
      exact grant_of_post hstep hby hx hne
    · intro hx
      exact keepsOthers_of_not hstep hby ht hw g k x hx hne

/-- With fresh codes nothing is overwritten. -/
theorem not_overwritesForeign {s₀ : InnerState} {calls : List Call} {c : Call} (h₀ : Spawned s₀)
    (hfresh : FreshCodes (calls ++ [c])) :
    ¬ OverwritesForeign B ((server B).run s₀ calls) c cred := by
  intro hw
  obtain ⟨-, x, hx, -⟩ := hw
  obtain ⟨entry, hl, -⟩ := InnerState.grant_refresh.mp hx
  have hmem := mem_iff_lookup_eq_some.mpr ⟨entry, hl⟩
  rw [refreshLedger.mem_iff_since (h₀.lookup_refresh _)] at hmem
  obtain ⟨a, ha, _, _, -, hdrawn, -⟩ := hmem.exists_mem
  exact hfresh.ne_last ((server B).input_mem_of_mem_trace ha) hdrawn

/-- **Isolation.** A token request or revocation keeps the grants of every other
client exactly when it neither presents or revokes one of their codes or refresh
tokens nor overwrites one of their refresh tokens; and a run of such requests of
one client changes nothing about the grants of the others. -/
theorem client_isolation :
    (∀ s c cred, RequestedBy B c cred →
      (KeepsOthers cred.clientId s ((server B).event s c).post ↔
        ¬ TakesForeign B s c cred ∧ ¬ OverwritesForeign B s c cred)) ∧
    ∀ s calls id, (∀ e ∈ (server B).trace s calls, KeepingRequest B id e) →
      ∀ g k x, x.clientId ≠ id →
        (((server B).run s calls).grant g k = some x ↔ s.grant g k = some x) := by
  refine ⟨fun s c cred hby => ⟨fun hkeep => ⟨?_, ?_⟩, ?_⟩, ?_⟩
  · intro ht
    exact not_keepsOthers_of_takes (steps_event B s c) hby ht hkeep
  · intro hw
    exact not_keepsOthers_of_overwrites (steps_event B s c) hby hw hkeep
  · intro h
    obtain ⟨ht, hw⟩ := h
    exact keepsOthers_of_not (steps_event B s c) hby ht hw
  · intro s calls id hrun g k x hne
    exact run_isolated hrun hne

/-! ### Two clients on the sample server -/

namespace Sample

/-- The redemption of the default client's code by the other client. -/
def foreignRedeemCall : Call :=
  ⟨.token ⟨none⟩ { redeemForm (code "01") with
      clientId := some "other-client", clientSecret := some "other-secret" },
    draws 0 "02"⟩

/-- The poll of the default client's device code by the other client. -/
def foreignPollCall : Call :=
  ⟨.token ⟨none⟩ { pollForm with
      clientId := some "other-client", clientSecret := some "other-secret" },
    draws 0 "02"⟩

end Sample

open Sample in
/-- The code is gone, although the request is refused. -/
theorem code_taken_by_other_client :
    RequestedBy build foreignRedeemCall ⟨"other-client", "other-secret"⟩ ∧
    ¬ KeepsOthers "other-client" ((server build).run start [authorizeCall])
      ((server build).event ((server build).run start [authorizeCall]) foreignRedeemCall).post := by
  refine ⟨.token rfl rfl, fun h => ?_⟩
  cases h .authorizationCode (code "01") _ rfl (by decide)

open Sample in
/-- The device code stays, whatever the other client polls. -/
theorem client_isolation_poll :
    KeepsOthers "other-client" ((server build).run start [deviceCall])
      ((server build).event ((server build).run start [deviceCall]) foreignPollCall).post := by
  refine (client_isolation.1 _ foreignPollCall ⟨"other-client", "other-secret"⟩
    (.token rfl rfl)).mpr ⟨?_, ?_⟩
  · intro ht
    cases ht with
    | @presented g k hg hp hf =>
      obtain ⟨request, hc, -⟩ := hp
      have hpoll : TokenCall build foreignPollCall .deviceCode ⟨"other-client", "other-secret"⟩ _ :=
        ⟨⟨none⟩, rfl, rfl, .inl rfl⟩
      exact hg (hc.unique hpoll).1
    | revoked hc => cases hc
  · exact not_overwritesForeign spawned_start (by decide)

end GreenticConformance.OAuthMock
