import GreenticConformance.OAuthMock.Stores

/-!
# The store invariant

Every stored grant belongs to a registered client and stays within that
client's scopes. The client table never changes, so the invariant is kept by
each of the laws of the stores, and it holds in every state a run reaches.

## Main definitions

- `Owned` — a grant of a registered client, within its scopes
- `WellOwned` — the invariant

## Main results

- `WellOwned.post` — one step
- `Reachable.wellOwned` — a whole run
-/

namespace GreenticConformance.OAuthMock

open Runs

/-- `clientId` is the key of a client of that id that allows `scope`. -/
def Owned (s : InnerState) (clientId : String) (scope : HashSet String) : Prop :=
  ∃ client, s.client clientId = some client ∧ client.clientId = clientId ∧
    scope ⊆ client.allowedScopes

/-- What is known about a stored authorization code. -/
structure OwnedCode (B : Build) (s : InnerState) (entry : AuthorizationCode) : Prop where
  owned : Owned s entry.clientId entry.scope
  redirectUri : ∃ client, s.client entry.clientId = some client ∧
    entry.redirectUri ∈ client.redirectUris
  scope : entry.scope ≠ ∅
  challenge : B.features.pkce → ∃ challenge, entry.codeChallenge = some challenge

/-- **The store invariant.** -/
structure WellOwned (B : Build) (s : InnerState) : Prop where
  codes : ∀ code entry, s.authorizationCodes.lookup code = some entry → OwnedCode B s entry
  refresh : ∀ token entry, s.refreshTokens.lookup token = some entry →
    Owned s entry.clientId entry.scope
  devices : ∀ code entry, s.deviceCodes.lookup code = some entry →
    Owned s entry.clientId entry.scope

variable {B : Build} {e : Served}

/-! ## What an event leaves alone -/

/-- An event writes to the four stores only. -/
theorem post_stores (h : Steps B e) :
    e.post = { e.pre with
      authorizationCodes := e.post.authorizationCodes
      refreshTokens := e.post.refreshTokens
      accessTokens := e.post.accessTokens
      deviceCodes := e.post.deviceCodes } := by
  unfold Steps at h
  generalize e.output = r at h
  generalize e.post = s' at h ⊢
  cases h with
  | read hc => rfl
  | authorize hc h => cases h <;> rfl
  | @token g _ _ _ _ hc h => cases g <;> cases h <;> rfl
  | tokenRefused err hc hn => rfl
  | deviceAuthorization hc h => cases h <;> rfl
  | revoke hc h => cases h <;> rfl
  | decision hc h => cases h <;> rfl

theorem post_clients (h : Steps B e) : e.post.clients = e.pre.clients := by
  rw [post_stores h]

theorem post_client (h : Steps B e) (id : String) : e.post.client id = e.pre.client id := by
  simp only [InnerState.client, post_clients h]

/-- Runs never change the client table. -/
theorem run_clients (s : InnerState) (calls : List Call) :
    ((server B).run s calls).clients = s.clients := by
  induction calls generalizing s with
  | nil => rfl
  | cons c calls ih =>
    rw [Machine.run_cons, ih]
    exact post_clients (steps_event B s c)

/-- Every event of a run sees the clients the run started with. -/
theorem pre_client {s : InnerState} {calls : List Call} (h : e ∈ (server B).trace s calls)
    (id : String) : e.pre.client id = s.client id := by
  obtain ⟨is₁, i, is₂, -, rfl⟩ := (server B).exists_of_mem_trace h
  rw [Machine.event_pre, InnerState.client, run_clients, InnerState.client]

theorem owned_post (h : Steps B e) {id : String} {scope : HashSet String} :
    Owned e.post id scope ↔ Owned e.pre id scope := by
  simp only [Owned, post_client h]

theorem OwnedCode.post (h : Steps B e) {entry : AuthorizationCode}
    (he : OwnedCode B e.pre entry) : OwnedCode B e.post entry where
  owned := (owned_post h).mpr he.owned
  redirectUri := by rw [post_client h]; exact he.redirectUri
  scope := he.scope
  challenge := he.challenge

theorem Owned.client {s : InnerState} {id : String} {scope : HashSet String}
    {client : ClientConfig} (h : Owned s id scope) (hc : s.client id = some client) :
    s.client client.clientId = some client ∧ scope ⊆ client.allowedScopes := by
  obtain ⟨client', hc', hid, hs⟩ := h
  obtain rfl := Option.some.inj (hc'.symm.trans hc)
  exact ⟨hid.symm ▸ hc, hs⟩

/-- The client of an owned grant is registered. -/
theorem Owned.not_unknown {s : InnerState} {id : String} {scope : HashSet String}
    (h : Owned s id scope) : s.client id ≠ none := by
  obtain ⟨client, hc, -⟩ := h
  rw [hc]
  exact Option.some_ne_none client

/-! ## Where new entries come from -/

theorem Owned.of_client {s : InnerState} {id : String} {client : ClientConfig}
    {scope : HashSet String} (hc : s.client id = some client) (hs : scope ⊆ client.allowedScopes) :
    Owned s client.clientId scope := by
  have hid := InnerState.client_clientId hc
  exact ⟨client, hid ▸ hc, rfl, hs⟩

/-- An accepted authorize query grants its client a code within its scopes. -/
theorem Grants.ownedCode {s : InnerState} {query : AuthorizeQuery} {client : ClientConfig}
    (hg : Grants B s query client) (d : Draws) : OwnedCode B s (grantedCode d query client) where
  owned := .of_client hg.registered Finset.inter_subset_right
  redirectUri := by
    have hid := InnerState.client_clientId hg.registered
    refine ⟨client, ?_, hg.redirectUri⟩
    change s.client client.clientId = some client
    rw [hid]
    exact hg.registered
  scope := hg.scope
  challenge hp := (hg.pkce hp).2

/-- A presented grant is one of the presenting client. -/
theorem Presented.owned {s : InnerState} {d : Draws} {cred : ClientCredentials}
    {request : TokenRequest} {g : GrantType} {scope : HashSet String} {nonce : Option String}
    (hs : WellOwned B s) (h : Presented B s d cred request g scope nonce) :
    Owned s cred.clientId scope := by
  cases h with
  | authorizationCode hr hl hm => exact hm.client ▸ (hs.codes _ _ hl).owned
  | refreshToken ht hl he => exact he ▸ hs.refresh _ _ hl
  | deviceCode hd hl he hst => exact he ▸ hs.devices _ _ hl

/-- Presenting a stored grant yields tokens when signing works: its owner is
registered. -/
theorem Presented.yieldsTokens {cred : ClientCredentials} {request : TokenRequest} {g : GrantType}
    {scope : HashSet String} {nonce : Option String}
    (hp : Presented B e.pre e.input.draws cred request g scope nonce) (hw : WellOwned B e.pre)
    (hs : SigningSucceeds e.input.draws) (h : Steps B e) (hc : TokenCall B e.input g cred request) :
    YieldsTokens e := by
  obtain ⟨client, hreg, -, -⟩ := hp.owned hw
  obtain ⟨access, id, hsigns⟩ := hs.signs e.pre client scope nonce
  have hx : Accepts B e.pre e.input ⟨g, cred, request, client, scope, nonce, access, id⟩ :=
    ⟨hc, hreg, hp, hsigns⟩
  exact ⟨_, (hx.exchanged h).output⟩

/-- An exchange stays within the scopes of its client. -/
theorem Exchanged.scope_subset {x : Exchange} (hs : WellOwned B e.pre) (hx : Exchanged B e x) :
    x.scope ⊆ x.client.allowedScopes := by
  exact ((hx.presented.owned hs).client hx.registered).2

/-! ## The invariant along runs -/

theorem WellOwned.post (h : Steps B e) (hs : WellOwned B e.pre) : WellOwned B e.post where
  codes code entry hl := by
    rw [(codes_change h).lookup] at hl
    rcases hl with ⟨query, client, hm, rfl⟩ | ⟨-, hl⟩
    · exact (hm.grants.ownedCode _).post h
    · exact (hs.codes _ _ hl).post h
  refresh token entry hl := by
    rw [(refresh_change h).lookup] at hl
    rw [owned_post h]
    rcases hl with ⟨x, hx, -, rfl⟩ | ⟨-, hl⟩
    · exact .of_client hx.registered (hx.scope_subset hs)
    · exact hs.refresh _ _ hl
  devices code entry hl := by
    rw [owned_post h]
    rcases (hl ▸ device_step h code).of_some with ⟨request, client, hst, rfl⟩ | ⟨-, old, ho, he⟩
    · exact .of_client hst.registered (scopeOrAllowed_subset _ _)
    · rw [he]
      exact hs.devices code old ho

theorem Spawned.wellOwned {s : InnerState} (h : Spawned s) : WellOwned B s := by
  obtain ⟨b, baseUrl, signing, rfl⟩ := h
  have hempty {V : Type} {k : String} {v : V} :
      (∅ : HashMap String V).lookup k ≠ some v := by simp
  exact ⟨fun _ _ hl => absurd hl hempty, fun _ _ hl => absurd hl hempty,
    fun _ _ hl => absurd hl hempty⟩

theorem wellOwned_event (s : InnerState) (c : Call) (hs : WellOwned B s) :
    WellOwned B ((server B).event s c).post :=
  WellOwned.post (steps_event B s c) hs

theorem wellOwned_of_mem_trace {s₀ : InnerState} {calls : List Call} (h₀ : Spawned s₀)
    (h : e ∈ (server B).trace s₀ calls) : WellOwned B e.pre :=
  (Machine.pre_invariant wellOwned_event h₀.wellOwned h).1

theorem Reachable.wellOwned {s : InnerState} (h : Reachable B s) : WellOwned B s := by
  obtain ⟨s₀, calls, h₀, rfl⟩ := h
  exact Machine.run_invariant wellOwned_event h₀.wellOwned calls

end GreenticConformance.OAuthMock
