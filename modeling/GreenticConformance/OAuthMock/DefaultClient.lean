import GreenticConformance.OAuthMock.Invariant

/-!
# The default client

`default_client` hands out the credentials of a client, the first one that the client map
is iterated to. Every server has clients, so there always is one, and it gets its tokens.
Which one it is depends on the order of the map as soon as a second client is configured.

## Main definitions

- `BuilderCall`, `MockServerBuilder.ofCalls` — the builders that the methods make
- `defaultClient`

## Main results

- `defaultClient_works` — the default client in every state of every run
-/

namespace GreenticConformance.OAuthMock

open Runs

/-! ## Builder chains -/

/-- A call of a builder method. -/
inductive BuilderCall where
  | withUser (user : MockUser)
  | withClient (clientId clientSecret : String) (redirectUris scopes : List String)
  | withIssuerSuffix (suffix : String)

namespace BuilderCall

def apply (b : MockServerBuilder) : BuilderCall → MockServerBuilder
  | withUser user => b.withUser user
  | withClient clientId clientSecret redirectUris scopes =>
    b.withClient clientId clientSecret redirectUris scopes
  | withIssuerSuffix suffix => b.withIssuerSuffix suffix

/-- The client that the call configures. -/
def client : BuilderCall → Option String
  | withClient clientId _ _ _ => some clientId
  | _ => none

end BuilderCall

/-- `MockServer::builder`, and a chain of calls. -/
def MockServerBuilder.ofCalls (calls : List BuilderCall) : MockServerBuilder :=
  calls.foldl BuilderCall.apply .default

theorem mem_apply {b : MockServerBuilder} {call : BuilderCall} {id : String} :
    id ∈ (call.apply b).clients.clients ↔ call.client = some id ∨ id ∈ b.clients.clients := by
  cases call with
  | withClient clientId clientSecret redirectUris scopes =>
    have hmem : id ∈ ((BuilderCall.withClient clientId clientSecret redirectUris scopes).apply
        b).clients.clients ↔ id = clientId ∨ id ∈ b.clients.clients := Finmap.mem_insert
    rw [hmem, BuilderCall.client, Option.some.injEq, eq_comm]
  | _ => exact ⟨.inr, fun h => h.resolve_left nofun⟩

theorem mem_foldl {b : MockServerBuilder} {calls : List BuilderCall} {id : String} :
    id ∈ (calls.foldl BuilderCall.apply b).clients.clients ↔
      some id ∈ calls.map BuilderCall.client ∨ id ∈ b.clients.clients := by
  induction calls generalizing b with
  | nil => simp
  | cons call calls ih =>
    rw [List.foldl_cons, ih, mem_apply, List.map_cons, List.mem_cons, eq_comm, or_left_comm,
      or_assoc]

/-- The clients of a builder are the mock client and those of its calls. -/
theorem mem_ofCalls {calls : List BuilderCall} {id : String} :
    id ∈ (MockServerBuilder.ofCalls calls).clients.clients ↔
      id = "mock-client" ∨ some id ∈ calls.map BuilderCall.client := by
  have hdefault : id ∈ MockServerBuilder.default.clients.clients ↔ id = "mock-client" := by
    refine Finmap.mem_insert.trans (or_iff_left ?_)
    exact Finmap.notMem_empty
  rw [MockServerBuilder.ofCalls, mem_foldl, hdefault, or_comm]

/-! ## The default client -/

/-- `default_client`. -/
def defaultClient (order : HashOrder) (s : InnerState) : Option (String × String) :=
  ((order.iter s.clients.clients.keys).filterMap s.client).head?.map fun client =>
    (client.clientId, client.clientSecret)

/-- Any element of a set can be the first one. -/
theorem exists_order {set : HashSet String} {x : String} (hx : x ∈ set) :
    ∃ (order : HashOrder) (rest : List String), order.iter set = x :: rest := by
  refine ⟨⟨fun t => if x ∈ t then x :: (t.erase x).toList else t.toList, fun t => ?_⟩, _, if_pos hx⟩
  by_cases h : x ∈ t
  · rw [if_pos h, ← Multiset.cons_coe, Finset.coe_toList, Finset.erase_val]
    exact Multiset.cons_erase h
  · rw [if_neg h, Finset.coe_toList]

variable {s : InnerState} {order : HashOrder}

/-- The default client is the one whose id the order has first. -/
theorem defaultClient_of_iter {id : String} {rest : List String}
    (h : order.iter s.clients.clients.keys = id :: rest) :
    ∃ client, s.client id = some client ∧ client.clientId = id ∧
      defaultClient order s = some (id, client.clientSecret) := by
  have hmem : id ∈ s.clients.clients := by
    rw [← Finmap.mem_keys, ← order.mem_iter, h]
    exact List.mem_cons_self
  obtain ⟨client, hclient⟩ := Finmap.mem_iff.mp hmem
  have hkeyed := s.clients.keyed id client hclient
  refine ⟨client, hclient, hkeyed, ?_⟩
  have hlookup : s.client id = some client := hclient
  rw [defaultClient, h, List.filterMap_cons, hlookup, List.head?_cons, Option.map_some, hkeyed]

/-- A server with clients has a default client. -/
theorem exists_defaultClient (hne : s.clients.clients.keys.Nonempty) (order : HashOrder) :
    ∃ id client, s.client id = some client ∧ client.clientId = id ∧
      defaultClient order s = some (id, client.clientSecret) := by
  obtain ⟨id, hid⟩ := hne
  cases hiter : order.iter s.clients.clients.keys with
  | nil =>
    rw [← order.mem_iter, hiter] at hid
    exact absurd hid List.not_mem_nil
  | cons first rest => exact ⟨first, defaultClient_of_iter hiter⟩

/-- The form with which a client asks for a token in its own name. -/
def clientForm (credentials : String × String) : TokenRequest :=
  { emptyTokenRequest with
    grantType := "client_credentials"
    clientId := some credentials.1
    clientSecret := some credentials.2 }

/-- A registered client that shows its secret gets a token. -/
theorem token_clientForm {B : Build} {d : Draws} {id : String} {client : ClientConfig}
    (hclient : s.client id = some client) (hsigning : SigningSucceeds d) :
    ∃ tokens, (serve B s ⟨.token ⟨none⟩ (clientForm (id, client.clientSecret)), d⟩).1 =
      .http (.ok (.tokens tokens)) := by
  have hserve : (serve B s ⟨.token ⟨none⟩ (clientForm (id, client.clientSecret)), d⟩).1 =
      .http (((handleClientCredentials d ⟨id, client.clientSecret⟩
        (clientForm (id, client.clientSecret))).exec s).1.map .tokens) := rfl
  rw [hserve]
  have hrun := handleClientCredentials_run d s ⟨id, client.clientSecret⟩
    (clientForm (id, client.clientSecret))
  generalize (handleClientCredentials d ⟨id, client.clientSecret⟩
    (clientForm (id, client.clientSecret))).exec s = r at hrun ⊢
  obtain ⟨r, s'⟩ := r
  cases hrun with
  | unknownClient hc =>
    rw [hclient] at hc
    cases hc
  | wrongSecret hc hs =>
    rw [hclient] at hc
    cases hc
    exact absurd rfl hs
  | unsigned msg hc hs hx => exact absurd hsigning hx
  | granted hc hs ha => exact ⟨_, rfl⟩

/-- **The default client**: in every state of every run of a server that the builder makes,
and in any order of the client map, it is a registered client, and it gets a token with its
credentials. It is sure to be the mock client only if no other client was configured. -/
theorem defaultClient_works (B : Build) (chain : List BuilderCall) (baseUrl : String)
    (signing : SigningKeys) (calls : List Call) :
    let s := (server B).run ((MockServerBuilder.ofCalls chain).spawn baseUrl signing) calls
    (∀ order, ∃ id client, s.client id = some client ∧ client.clientId = id ∧
      defaultClient order s = some (id, client.clientSecret)) ∧
    (∀ order credentials d, defaultClient order s = some credentials → SigningSucceeds d →
      ∃ tokens, (serve B s ⟨.token ⟨none⟩ (clientForm credentials), d⟩).1 =
        .http (.ok (.tokens tokens))) ∧
    ((∀ order credentials, defaultClient order s = some credentials →
        credentials.1 = "mock-client") ↔
      ∀ call ∈ chain, ∀ id, call.client = some id → id = "mock-client") := by
  intro s
  have hmem (id : String) : id ∈ s.clients.clients.keys ↔
      id = "mock-client" ∨ some id ∈ chain.map BuilderCall.client := by
    have hclients : s.clients = (MockServerBuilder.ofCalls chain).clients := run_clients _ calls
    rw [Finmap.mem_keys, hclients, mem_ofCalls]
  have hexists : ∀ order, ∃ id client, s.client id = some client ∧ client.clientId = id ∧
      defaultClient order s = some (id, client.clientSecret) :=
    exists_defaultClient ⟨"mock-client", (hmem _).mpr (.inl rfl)⟩
  refine ⟨hexists, ?_, ?_, ?_⟩
  · intro order credentials d hdefault hsigning
    obtain ⟨id, client, hclient, -, hcredentials⟩ := hexists order
    obtain rfl := Option.some.inj (hdefault.symm.trans hcredentials)
    exact token_clientForm hclient hsigning
  · intro honly call hcall id hid
    -- some order has the client of the call first
    have hin : id ∈ s.clients.clients.keys :=
      (hmem id).mpr (.inr (hid ▸ List.mem_map_of_mem hcall))
    obtain ⟨order, rest, hiter⟩ := exists_order hin
    obtain ⟨client, -, -, hdefault⟩ := defaultClient_of_iter hiter
    exact honly order _ hdefault
  · intro hchain order credentials hdefault
    obtain ⟨id, client, hclient, -, hcredentials⟩ := hexists order
    obtain rfl := Option.some.inj (hdefault.symm.trans hcredentials)
    have hin : id ∈ s.clients.clients.keys :=
      Finmap.mem_keys.mpr (Finmap.mem_iff.mpr ⟨client, hclient⟩)
    rcases (hmem id).mp hin with hmock | hcalled
    · exact hmock
    · obtain ⟨call, hcall, hid⟩ := List.mem_map.mp hcalled
      exact hchain call hcall id hid

end GreenticConformance.OAuthMock
