import GreenticConformance.OAuthMock.AuthorizationCodes
import Mathlib.Logic.Relation

/-!
# Families of refresh tokens

The refresh token of a successful authorization code or device code exchange
starts a family; each successful refresh of a member adds the token it returns.
The store of refresh tokens is a ledger, so a member is refreshed once: a family
is a chain, only its last member can be stored, and the client and the scope
set are handed down unchanged.

## Main definitions

- `Refreshes`, `FamilyRoot`, `InFamily`, `FamilyToken` — families
- `Carries` — an event is for a client and a scope set

## Main results

- `refreshLedger` — the store as a ledger
- `InFamily.carries` — client and scope along a family
- `refresh_contract` — rotation
-/

namespace GreenticConformance.OAuthMock

open Runs

variable {B : Build} {e : Served}

/-! ## The ledger of refresh tokens -/

theorem refreshLedger : Ledger (server B) (·.refreshTokens) (RefreshIssued B)
    (RefreshConsumed B) where
  change s c := refresh_change (steps_event B s c)

theorem FreshCodes.refresh {calls : List Call} (h : FreshCodes calls) (s : InnerState) :
    FreshIssues (RefreshIssued B) ((server B).trace s calls) := by
  refine (h.pairwise s).imp fun {x y} hne t v w hx hy => ?_
  obtain ⟨_, -, hdx, -⟩ := hx
  obtain ⟨_, -, hdy, -⟩ := hy
  exact hne (hdx.trans hdy.symm)

theorem Spawned.lookup_refresh {s : InnerState} (h : Spawned s) (t : String) :
    s.refreshTokens.lookup t = none := by
  obtain ⟨b, baseUrl, signing, rfl⟩ := h
  exact Finmap.lookup_empty t

/-! ## One refresh -/

/-- A refresh token request that is answered with tokens is an exchange. -/
theorem exchanged_of_presents (h : Steps B e) {t : String} (hp : PresentsRefresh B e t)
    (hy : YieldsTokens e) :
    ∃ x, Exchanged B e x ∧ x.grant = .refreshToken ∧ x.request.refreshToken = some t := by
  obtain ⟨cred, request, hc, ht⟩ := hp
  obtain ⟨response, ha⟩ := hy
  obtain ⟨client, scope, nonce, access, id, hx, -⟩ := ha.exchanged h hc nofun
  exact ⟨_, hx, rfl, ht⟩

/-- The stored entry that a refresh presents. -/
theorem Exchanged.refresh_entry {x : Exchange} {t : String} (hx : Exchanged B e x)
    (hg : x.grant = .refreshToken) (ht : x.request.refreshToken = some t) :
    ∃ entry, e.pre.refreshTokens.lookup t = some entry ∧
      entry.clientId = x.credentials.clientId ∧ x.scope = entry.scope := by
  have hp := hx.presented
  obtain ⟨g, cred, request, client, scope, nonce, access, id⟩ := x
  dsimp only at hg ht hp ⊢
  subst hg
  cases hp with
  | refreshToken ht' hl he =>
    obtain rfl := Option.some.inj (ht.symm.trans ht')
    exact ⟨_, hl, he, rfl⟩

/-- A refresh token that is not stored is refused, and nothing changes. -/
theorem refresh_refused (h : Steps B e) {t : String} (hp : PresentsRefresh B e t)
    (hl : e.pre.refreshTokens.lookup t = none) :
    (∃ msg, e.output = .http (.error (.invalidGrant msg))) ∧ e.post = e.pre := by
  obtain ⟨cred, request, hc, ht⟩ := hp
  obtain ⟨a, s', ho, hpost, hrun⟩ := grantRun_of_steps h hc
  rw [ho, hpost]
  have hnone : ∀ {t' entry}, request.refreshToken = some t' →
      e.pre.refreshTokens.lookup t' ≠ some entry := by
    intro t' entry ht' hl'
    obtain rfl := Option.some.inj (ht.symm.trans ht')
    cases hl.symm.trans hl'
  cases hrun with
  | missing hno => cases hno.symm.trans ht
  | unknown => exact ⟨⟨_, rfl⟩, rfl⟩
  | foreign ht' hl' => exact absurd hl' (hnone ht')
  | orphan ht' hl' => exact absurd hl' (hnone ht')
  | unsigned msg ht' hl' => exact absurd hl' (hnone ht')
  | rotated ht' hl' => exact absurd hl' (hnone ht')

/-! ## Families -/

/-- `e'` is a successful refresh, in `run`, of the token that `e` returned. -/
def Refreshes (B : Build) (run : List Served) (e e' : Served) : Prop :=
  e' ∈ run ∧ ∃ t, IssuesRefresh e t ∧ PresentsRefresh B e' t ∧ YieldsTokens e'

/-- `root` is a successful authorization code or device code exchange. -/
structure FamilyRoot (B : Build) (run : List Served) (root : Served) (x : Exchange) : Prop where
  mem : root ∈ run
  exchanged : Exchanged B root x
  grant : x.grant = .authorizationCode ∨ x.grant = .deviceCode

/-- `e` returned a member of the family of `root`. -/
def InFamily (B : Build) (run : List Served) (root e : Served) : Prop :=
  Relation.ReflTransGen (Refreshes B run) root e

/-- The refresh token `t` is a member of the family of `root`. -/
def FamilyToken (B : Build) (run : List Served) (root : Served) (t : String) : Prop :=
  ∃ e, InFamily B run root e ∧ IssuesRefresh e t

/-- Everything the event answers and stores is for this client and scope set. -/
structure Carries (e : Served) (client : ClientConfig) (scope : HashSet String) : Prop where
  response : ∀ response, Answers e response → response.scope = scopeToString scope
  access : ∀ response, Answers e response →
    e.input.draws.encode (jwtHeader e.pre) (.access (accessClaims e.input.draws e.pre client scope))
      e.pre.signing.encoding = .ok response.accessToken
  refresh : ∀ t, IssuesRefresh e t → ∃ entry, e.post.refreshTokens.lookup t = some entry ∧
    entry.clientId = client.clientId ∧ entry.scope = scope

theorem Exchanged.answer {x : Exchange} {response : TokenResponse} (hx : Exchanged B e x)
    (ha : Answers e response) :
    response = exchangeResponse e.input.draws x.scope x.access x.id := by
  have ho := hx.output
  unfold Answers at ha ho
  rw [ho] at ha
  cases ha
  rfl

theorem Exchanged.drawn {x : Exchange} {t : String} (hx : Exchanged B e x)
    (ht : IssuesRefresh e t) : e.input.draws.generatedCode = t := by
  obtain ⟨response, ha, hr⟩ := ht
  rw [hx.answer ha] at hr
  exact Option.some.inj hr

theorem Exchanged.carries {x : Exchange} (h : Steps B e) (hx : Exchanged B e x) :
    Carries e x.client x.scope where
  response response ha := by rw [hx.answer ha]; rfl
  access response ha := by rw [hx.answer ha]; exact hx.signs.access
  refresh t ht := by
    have hi : RefreshIssued B e t (x.entry e) := ⟨x, hx, hx.drawn ht, rfl⟩
    exact ⟨_, ((refresh_change h).lookup t _).mpr (.inl hi), rfl, rfl⟩

section Run

variable {s₀ : InnerState} {calls : List Call} {root : Served} {x₀ : Exchange}

theorem InFamily.mem {run : List Served} (hroot : root ∈ run) (h : InFamily B run root e) :
    e ∈ run := by
  cases h with
  | refl => exact hroot
  | tail _ h => exact h.1

/-- A successful refresh takes the token it presents. -/
theorem Refreshes.takes {e' : Served} {t : String} (h : Steps B e')
    (hp : PresentsRefresh B e' t) (hy : YieldsTokens e') :
    Takes (·.refreshTokens) (RefreshConsumed B) e' t := by
  refine ⟨.inl hp, ?_⟩
  obtain ⟨x, hx, hg, ht⟩ := exchanged_of_presents h hp hy
  obtain ⟨entry, hl, -⟩ := hx.refresh_entry hg ht
  rw [hl]
  exact Option.some_ne_none entry

theorem IssuesRefresh.unique {t t' : String} (h : IssuesRefresh e t) (h' : IssuesRefresh e t') :
    t = t' := by
  obtain ⟨response, ha, ht⟩ := h
  obtain ⟨response', ha', ht'⟩ := h'
  unfold Answers at ha ha'
  rw [ha] at ha'
  cases ha'
  exact Option.some.inj (ht.symm.trans ht')

variable (h₀ : Spawned s₀) (hfresh : FreshCodes calls)

include hfresh

/-- Two events that draw the same value are the same event. -/
theorem eq_of_drawn {e' : Served} (he : e ∈ (server B).trace s₀ calls)
    (he' : e' ∈ (server B).trace s₀ calls)
    (h : e.input.draws.generatedCode = e'.input.draws.generatedCode) : e = e' := by
  by_contra hne
  have : Std.Symm fun x y : Served =>
      x.input.draws.generatedCode ≠ y.input.draws.generatedCode := ⟨fun _ _ => Ne.symm⟩
  exact (hfresh.pairwise s₀).forall he he' hne h

/-- Only the exchange that returned a token issues an entry for it. -/
theorem Exchanged.issued_entry {x : Exchange} {a : Served} {t : String} {entry : RefreshTokenEntry}
    (hx : Exchanged B e x) (he : e ∈ (server B).trace s₀ calls) (ht : IssuesRefresh e t)
    (ha : a ∈ (server B).trace s₀ calls) (hi : RefreshIssued B a t entry) :
    entry = x.entry e := by
  have hdrawn : a.input.draws.generatedCode = t := by
    obtain ⟨_, -, hd, -⟩ := hi
    exact hd
  obtain rfl := eq_of_drawn hfresh he ha ((hx.drawn ht).trans hdrawn.symm)
  exact ((refreshIssued_iff hx t entry).mp hi).2

include h₀

/-- **One refresh** hands client and scope on. -/
theorem Refreshes.exchanged {x : Exchange} {e' : Served} (hx : Exchanged B e x)
    (he : e ∈ (server B).trace s₀ calls) (h : Refreshes B ((server B).trace s₀ calls) e e') :
    ∃ x', Exchanged B e' x' ∧ x'.client = x.client ∧ x'.scope = x.scope := by
  obtain ⟨he', t, ht, hp, hy⟩ := h
  obtain ⟨x', hx', hg, hr⟩ := exchanged_of_presents (steps_of_mem_trace he') hp hy
  obtain ⟨entry, hl, hid, hscope⟩ := hx'.refresh_entry hg hr
  obtain ⟨past, rest, htrace⟩ := List.append_of_mem he'
  obtain ⟨a, ha, hi⟩ :=
    refreshLedger.issued_of_lookup (hfresh.refresh s₀) h₀.lookup_refresh htrace hl
  obtain rfl := hx.issued_entry hfresh he ht (htrace ▸ List.mem_append_left _ ha) hi
  refine ⟨x', hx', ?_, hscope⟩
  -- both clients are looked up under the same id in the same table
  have hreg : s₀.client x'.credentials.clientId = some x'.client := by
    rw [← pre_client he']
    exact hx'.registered
  have hreg₀ : s₀.client x.credentials.clientId = some x.client := by
    rw [← pre_client he]
    exact hx.registered
  have hkey : x.client.clientId = x.credentials.clientId := InnerState.client_clientId hreg₀
  have hsame : x.credentials.clientId = x'.credentials.clientId := hkey.symm.trans hid
  rw [hsame] at hreg₀
  exact Option.some.inj (hreg.symm.trans hreg₀)

/-- Along a family every event is an exchange for the client and scope of the
root. -/
theorem InFamily.exchanged (hroot : FamilyRoot B ((server B).trace s₀ calls) root x₀)
    (h : InFamily B ((server B).trace s₀ calls) root e) :
    ∃ x, Exchanged B e x ∧ x.client = x₀.client ∧ x.scope = x₀.scope := by
  induction h with
  | refl => exact ⟨x₀, hroot.exchanged, rfl, rfl⟩
  | tail hpath hlast ih =>
    obtain ⟨x, hx, hclient, hscope⟩ := ih
    have he := InFamily.mem hroot.mem hpath
    obtain ⟨x', hx', hclient', hscope'⟩ := hlast.exchanged h₀ hfresh hx he
    exact ⟨x', hx', hclient'.trans hclient, hscope'.trans hscope⟩

theorem InFamily.carries (hroot : FamilyRoot B ((server B).trace s₀ calls) root x₀)
    (h : InFamily B ((server B).trace s₀ calls) root e) : Carries e x₀.client x₀.scope := by
  obtain ⟨x, hx, hclient, hscope⟩ := h.exchanged h₀ hfresh hroot
  rw [← hclient, ← hscope]
  exact hx.carries (steps_of_mem_trace (h.mem hroot.mem))

/-! ### A family is a chain -/

theorem refreshes_rightUnique :
    Relator.RightUnique (Refreshes B ((server B).trace s₀ calls)) := by
  intro e e₁ e₂ h₁ h₂
  obtain ⟨hmem₁, t, ht, hp₁, hy₁⟩ := h₁
  obtain ⟨hmem₂, t', ht', hp₂, hy₂⟩ := h₂
  obtain rfl := ht.unique ht'
  by_contra hne
  have honce := (refreshLedger (B := B)).taken_once (hfresh.refresh s₀) h₀.lookup_refresh
  have : Std.Symm fun x y : Served => ∀ k, Takes (·.refreshTokens) (RefreshConsumed B) x k →
      ¬ Takes (·.refreshTokens) (RefreshConsumed B) y k :=
    ⟨fun _ _ h k hy hx => h k hx hy⟩
  exact honce.forall hmem₁ hmem₂ hne t (Refreshes.takes (steps_of_mem_trace hmem₁) hp₁ hy₁)
    (Refreshes.takes (steps_of_mem_trace hmem₂) hp₂ hy₂)

/-- A stored member of a family belongs to the client and scope of the root. -/
theorem InFamily.stored_entry (hroot : FamilyRoot B ((server B).trace s₀ calls) root x₀)
    (h : InFamily B ((server B).trace s₀ calls) root e) {t : String} {entry : RefreshTokenEntry}
    (ht : IssuesRefresh e t)
    (hl : ((server B).run s₀ calls).refreshTokens.lookup t = some entry) :
    entry.clientId = x₀.client.clientId ∧ entry.scope = x₀.scope := by
  obtain ⟨x, hx, hclient, hscope⟩ := h.exchanged h₀ hfresh hroot
  obtain ⟨a, ha, hi⟩ :=
    ((refreshLedger.lookup_iff_since (hfresh.refresh s₀) h₀.lookup_refresh).mp hl).exists_mem
  obtain rfl := hx.issued_entry hfresh (h.mem hroot.mem) ht ha hi
  exact ⟨congrArg ClientConfig.clientId hclient, hscope⟩

/-- A token that was refreshed is not stored any more. -/
theorem Refreshes.not_stored {e' : Served} {t : String}
    (h : Refreshes B ((server B).trace s₀ calls) e e') (ht : IssuesRefresh e t) :
    t ∉ ((server B).run s₀ calls).refreshTokens := by
  obtain ⟨hmem, t', ht', hp, hy⟩ := h
  obtain rfl := ht.unique ht'
  obtain ⟨t₁, t₂, htrace⟩ := List.append_of_mem hmem
  have htakes := Refreshes.takes (steps_of_mem_trace hmem) hp hy
  have hnone := refreshLedger.lookup_none_of_takes (hfresh.refresh s₀) h₀.lookup_refresh htrace
    htakes
  exact Finmap.lookup_eq_none.mp hnone

theorem InFamily.stored_unique {e' : Served} {t t' : String}
    (h : InFamily B ((server B).trace s₀ calls) root e)
    (h' : InFamily B ((server B).trace s₀ calls) root e') (ht : IssuesRefresh e t)
    (ht' : IssuesRefresh e' t') (hs : t ∈ ((server B).run s₀ calls).refreshTokens)
    (hs' : t' ∈ ((server B).run s₀ calls).refreshTokens) : t = t' := by
  have hchain := Relation.ReflTransGen.total_of_right_unique
    (refreshes_rightUnique h₀ hfresh) h h'
  -- the earlier of two members was refreshed, unless they are one
  rcases hchain with hpath | hpath
  · rcases hpath.cases_head with rfl | ⟨_, hnext, -⟩
    · exact ht.unique ht'
    · exact absurd hs (hnext.not_stored h₀ hfresh ht)
  · rcases hpath.cases_head with rfl | ⟨_, hnext, -⟩
    · exact ht.unique ht'
    · exact absurd hs' (hnext.not_stored h₀ hfresh ht')

/-! ### Replays -/

/-- A refresh token that was named or revoked is refused for ever. -/
theorem replay_refused {t₁ t₂ t₃ : List Served} {a x y : Served} {t : String}
    (htrace : (server B).trace s₀ calls = t₁ ++ x :: t₂ ++ y :: t₃) (ha : a ∈ t₁)
    (hi : IssuesRefresh a t) (hx : RefreshConsumed B x t) (hy : PresentsRefresh B y t) :
    (∃ msg, y.output = .http (.error (.invalidGrant msg))) ∧ y.post = y.pre := by
  have hmem {z : Served} (hz : z ∈ t₁ ++ x :: t₂ ++ y :: t₃) : Steps B z :=
    steps_of_mem_trace (htrace ▸ hz)
  obtain ⟨entry, hissued⟩ := (issuesRefresh_iff (hmem (by simp [ha]))).mp hi
  have hnone := refreshLedger.lookup_pre_none_of_consumed (hfresh.refresh s₀) h₀.lookup_refresh
    htrace ha hissued hx
  exact refresh_refused (hmem (by simp)) hy hnone

end Run

/-- **Rotation.** In every state a run reaches, at most one token of a family is
stored; every event and every stored token of the family is for the client and
the scope set of its root; and a refresh token that was named in a refresh token
request or revoked is refused from then on, without any change. -/
theorem refresh_contract {s₀ : InnerState} {calls : List Call} (h₀ : Spawned s₀)
    (hfresh : FreshCodes calls) :
    (∀ root x, FamilyRoot B ((server B).trace s₀ calls) root x →
      (∀ t t', FamilyToken B ((server B).trace s₀ calls) root t →
        FamilyToken B ((server B).trace s₀ calls) root t' →
        t ∈ ((server B).run s₀ calls).refreshTokens →
        t' ∈ ((server B).run s₀ calls).refreshTokens → t = t') ∧
      (∀ e, InFamily B ((server B).trace s₀ calls) root e → Carries e x.client x.scope) ∧
      ∀ t entry, FamilyToken B ((server B).trace s₀ calls) root t →
        ((server B).run s₀ calls).refreshTokens.lookup t = some entry →
        entry.clientId = x.client.clientId ∧ entry.scope = x.scope) ∧
    ∀ t₁ a x t₂ y t₃ t, (server B).trace s₀ calls = t₁ ++ x :: t₂ ++ y :: t₃ → a ∈ t₁ →
      IssuesRefresh a t → RefreshConsumed B x t → PresentsRefresh B y t →
      (∃ msg, y.output = .http (.error (.invalidGrant msg))) ∧ y.post = y.pre := by
  refine ⟨fun root x hroot => ⟨?_, ?_, ?_⟩, ?_⟩
  · rintro t t' ⟨e, he, ht⟩ ⟨e', he', ht'⟩ hs hs'
    exact he.stored_unique h₀ hfresh he' ht ht' hs hs'
  · intro e he
    exact he.carries h₀ hfresh hroot
  · rintro t entry ⟨e, he, ht⟩ hl
    exact he.stored_entry h₀ hfresh hroot ht hl
  · intro t₁ a x t₂ y t₃ t htrace ha hi hx hy
    exact replay_refused h₀ hfresh htrace ha hi hx hy

/-! ### A replay on the sample server -/

namespace Sample

def refreshForm (token : String) : TokenRequest :=
  { form with grantType := "refresh_token", refreshToken := some token }

/-- A refresh of the token drawn as `old`. -/
def refreshCall (old suffix : String) : Call :=
  ⟨.token ⟨none⟩ (refreshForm (code old)), draws 120000000000 suffix⟩

theorem presentsRefresh_refreshCall (s : InnerState) (old suffix : String) :
    PresentsRefresh build ((server build).event s (refreshCall old suffix)) (code old) :=
  ⟨⟨"mock-client", "mock-secret"⟩, refreshForm (code old), ⟨⟨none⟩, rfl, rfl, rfl⟩, rfl⟩

end Sample

open Sample in
/-- The first refresh succeeds, the replay of the old token does not. -/
theorem refresh_contract_replay :
    YieldsTokens ((server build).event ((server build).run start [authorizeCall, redeemCall "02"])
      (refreshCall "02" "03")) ∧
    ∃ msg, ((server build).event ((server build).run start
      [authorizeCall, redeemCall "02", refreshCall "02" "03"]) (refreshCall "02" "04")).output =
        .http (.error (.invalidGrant msg)) := by
  refine ⟨⟨_, rfl⟩, ?_⟩
  have hcontract := @refresh_contract build start
    [authorizeCall, redeemCall "02", refreshCall "02" "03", refreshCall "02" "04"] spawned_start
    (by decide)
  refine (hcontract.2 [_, _] _ _ [] _ [] (code "02") rfl (List.mem_cons_of_mem _ List.mem_cons_self)
    ?_ (.inl ?_) ?_).1
  · exact ⟨_, rfl, rfl⟩
  · exact presentsRefresh_refreshCall _ "02" "03"
  · exact presentsRefresh_refreshCall _ "02" "04"

end GreenticConformance.OAuthMock
