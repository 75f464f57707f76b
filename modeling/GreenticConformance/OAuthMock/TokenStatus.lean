import GreenticConformance.OAuthMock.RefreshFamilies

/-!
# Live tokens

`userinfo` and `introspect` look a token up in the stores. Both stores are
functions of the past: an access token is stored since a token response returned
it and no revocation took it out, and a refresh token is stored since a token
response returned it and no request consumed it.

## Main definitions

- `AccessLive`, `RefreshLive` — a token is live, as a property of the history

## Main results

- `token_status` — what the two endpoints answer, and what changes the answers
-/

namespace GreenticConformance.OAuthMock

open Runs Handler

variable {B : Build} {s s₀ : InnerState} {e : Served} {calls : List Call} {t : String}
  {headers : HeaderMap} {body : HashMap String String} {d : Draws}

/-! ## Live tokens -/

/-- A revocation of `t` was answered with success. -/
def RevokeSucceeds (e : Served) (t : String) : Prop :=
  ∃ headers body, e.input.request = .revoke headers body ∧ body.lookup "token" = some t ∧
    e.output = .http (.ok .ok)

/-- A token response returned `t`, and no successful revocation named it since. -/
def AccessLive (run : List Served) (t : String) : Prop :=
  Since (fun e => IssuesAccess e t) (fun e => ¬ RevokeSucceeds e t) run

/-- A token response returned `t` as a refresh token, and since then no
successful revocation and no refresh token request named it. -/
def RefreshLive (B : Build) (run : List Served) (t : String) : Prop :=
  Since (fun e => IssuesRefresh e t) (fun e => ¬ RevokeSucceeds e t ∧ ¬ PresentsRefresh B e t) run

/-- A revocation succeeds when its credentials can be read and it names a token. -/
theorem revokes_iff (h : Steps B e) : Revokes B e t ↔ RevokeSucceeds e t := by
  constructor
  · intro hrev
    obtain ⟨headers, body, hc, hn⟩ := hrev
    refine ⟨headers, body, hc, hn.2, ?_⟩
    obtain ⟨a, s', ho, -, hrun⟩ := revokeRun_of_steps h hc
    cases hrun with
    | refused err hno => exact absurd hn (hno t)
    | revoked => exact ho
  · intro hsucc
    obtain ⟨headers, body, hc, hb, hout⟩ := hsucc
    refine ⟨headers, body, hc, ?_⟩
    obtain ⟨a, s', ho, -, hrun⟩ := revokeRun_of_steps h hc
    cases hrun with
    | refused err hno => cases hout.symm.trans ho
    | @revoked x hn =>
      obtain rfl := Option.some.inj (hb.symm.trans hn.2)
      exact hn

theorem refreshConsumed_iff_named (h : Steps B e) :
    RefreshConsumed B e t ↔ RevokeSucceeds e t ∨ PresentsRefresh B e t := by
  rw [← revokes_iff h]
  exact or_comm

/-! ## The two stores -/

theorem Spawned.not_mem_accessTokens (h : Spawned s) (t : String) : t ∉ s.accessTokens := by
  obtain ⟨b, baseUrl, signing, rfl⟩ := h
  exact Finset.notMem_empty t

/-- **The access token store remembers** exactly the live access tokens. -/
theorem mem_accessTokens_iff (h₀ : Spawned s₀) :
    t ∈ ((server B).run s₀ calls).accessTokens ↔ AccessLive ((server B).trace s₀ calls) t := by
  have hempty := h₀.not_mem_accessTokens t
  refine Machine.holds_iff_since (F := fun s : InnerState => t ∈ s.accessTokens) hempty ?_
  intro e he
  have h := steps_of_mem_trace he
  rw [← revokes_iff h]
  exact mem_accessTokens_post h t

/-- **The refresh token store remembers** exactly the live refresh tokens. -/
theorem mem_refreshTokens_iff (h₀ : Spawned s₀) :
    t ∈ ((server B).run s₀ calls).refreshTokens ↔ RefreshLive B ((server B).trace s₀ calls) t := by
  rw [refreshLedger.mem_iff_since (h₀.lookup_refresh t) calls]
  refine since_congr (fun e he => ?_) fun e he => ?_
  · exact (issuesRefresh_iff (steps_of_mem_trace he)).symm
  · rw [refreshConsumed_iff_named (steps_of_mem_trace he), not_or]

/-! ## The two endpoints -/

/-- The call is answered with the user. -/
def UserinfoSucceeds (B : Build) (s : InnerState) (c : Call) : Prop :=
  ∃ info, ((server B).event s c).output = .http (.ok (.userinfo info))

/-- The call reports its token as active. -/
def ReportsActive (B : Build) (s : InnerState) (c : Call) : Prop :=
  ∃ info, ((server B).event s c).output = .http (.ok (.introspection info)) ∧ info.active = true

theorem userinfo_exec (ht : extractBearerToken headers = .ok t) :
    ((userinfo headers).exec s).1 = if t ∈ s.accessTokens then
        .ok ⟨s.user.sub, s.user.email, s.user.preferredUsername, s.user.groups⟩
      else .error (.invalidToken "unknown access token") := by
  simp only [userinfo, ht, exec_liftResult_bind, exec_get_bind, exec_failIf_bind]
  by_cases h : t ∈ s.accessTokens
  · rw [if_neg (not_not.mpr h), if_pos h]
    rfl
  · rw [if_pos h, if_neg h]

theorem introspect_exec (hn : NamesToken B headers body t) :
    ((introspect B headers body).exec s).1 = .ok {
      active := decide (t ∈ s.accessTokens ∨ t ∈ s.refreshTokens)
      iss := s.issuer
      clientId := "mock-client"
      scope := scopeToString defaultScope
      tokenType := "Bearer" } := by
  obtain ⟨⟨cred, hx⟩, hb⟩ := hn
  simp only [introspect, hx, hb, exec_liftResult_bind, exec_okOr_bind, exec_get_bind]
  rfl

theorem userinfoSucceeds_iff (ht : extractBearerToken headers = .ok t) :
    UserinfoSucceeds B s ⟨.userinfo headers, d⟩ ↔ t ∈ s.accessTokens := by
  simp only [UserinfoSucceeds, server_output, serve, respond, userinfo_exec ht]
  split
  · next h => exact iff_of_true ⟨_, rfl⟩ h
  · next h =>
    refine iff_of_false ?_ h
    intro hsucc
    obtain ⟨_, h⟩ := hsucc
    cases h

theorem reportsActive_iff (hn : NamesToken B headers body t) :
    ReportsActive B s ⟨.introspect headers body, d⟩ ↔ t ∈ s.accessTokens ∨ t ∈ s.refreshTokens := by
  simp only [ReportsActive, server_output, serve, respond, introspect_exec hn, Except.map]
  constructor
  · intro hreport
    obtain ⟨info, hout, hactive⟩ := hreport
    cases hout
    exact of_decide_eq_true hactive
  · intro h
    exact ⟨_, rfl, decide_eq_true h⟩

/-! ## What changes the answers -/

/-- An event that neither returns nor revokes `t` leaves the answer of `userinfo`
to `t` as it was. -/
theorem userinfo_unchanged (h : Steps B e) (ht : extractBearerToken headers = .ok t)
    (hi : ¬ IssuesAccess e t) (hv : ¬ RevokeSucceeds e t) :
    ((server B).event e.post ⟨.userinfo headers, d⟩).output =
      ((server B).event e.pre ⟨.userinfo headers, d⟩).output := by
  have hmem : t ∈ e.post.accessTokens ↔ t ∈ e.pre.accessTokens := by
    rw [mem_accessTokens_post h, revokes_iff h]
    simp [hi, hv]
  have huser : e.post.user = e.pre.user := by rw [post_stores h]
  simp only [server_output, serve, respond, userinfo_exec ht, hmem, huser]

/-- An event that does not return `t`, revoke it or name it in a refresh token
request leaves the answer of `introspect` to `t` as it was. -/
theorem introspect_unchanged (h : Steps B e) (hn : NamesToken B headers body t)
    (hi : ¬ IssuesAccess e t) (hr : ¬ IssuesRefresh e t) (hv : ¬ RevokeSucceeds e t)
    (hp : ¬ PresentsRefresh B e t) :
    ((server B).event e.post ⟨.introspect headers body, d⟩).output =
      ((server B).event e.pre ⟨.introspect headers body, d⟩).output := by
  have haccess : t ∈ e.post.accessTokens ↔ t ∈ e.pre.accessTokens := by
    rw [mem_accessTokens_post h, revokes_iff h]
    simp [hi, hv]
  have hissued : ∀ w, ¬ RefreshIssued B e t w :=
    fun w hw => hr ((issuesRefresh_iff h).mpr ⟨w, hw⟩)
  have hconsumed : ¬ RefreshConsumed B e t := by
    rw [refreshConsumed_iff_named h]
    exact not_or_intro hv hp
  have hrefresh : t ∈ e.post.refreshTokens ↔ t ∈ e.pre.refreshTokens := by
    simp only [mem_iff_lookup_eq_some, (refresh_change h).lookup]
    simp [hissued, hconsumed]
  have hissuer : e.post.issuer = e.pre.issuer := by rw [post_stores h]
  simp only [server_output, serve, respond, introspect_exec hn, haccess, hrefresh, hissuer]

/-- **The status of tokens.** After every run, `userinfo` accepts exactly the
live access tokens, `introspect` reports exactly the live tokens of both kinds,
and no event other than those a live token is defined by changes an answer. -/
theorem token_status {s₀ : InnerState} (h₀ : Spawned s₀) (calls : List Call) (t : String) :
    (∀ headers d, extractBearerToken headers = .ok t →
      (UserinfoSucceeds B ((server B).run s₀ calls) ⟨.userinfo headers, d⟩ ↔
        AccessLive ((server B).trace s₀ calls) t)) ∧
    (∀ headers body d, NamesToken B headers body t →
      (ReportsActive B ((server B).run s₀ calls) ⟨.introspect headers body, d⟩ ↔
        AccessLive ((server B).trace s₀ calls) t ∨
          RefreshLive B ((server B).trace s₀ calls) t)) ∧
    ∀ e ∈ (server B).trace s₀ calls, ¬ IssuesAccess e t → ¬ RevokeSucceeds e t →
      (∀ headers d, extractBearerToken headers = .ok t →
        ((server B).event e.post ⟨.userinfo headers, d⟩).output =
          ((server B).event e.pre ⟨.userinfo headers, d⟩).output) ∧
      (¬ IssuesRefresh e t → ¬ PresentsRefresh B e t → ∀ headers body d,
        NamesToken B headers body t →
        ((server B).event e.post ⟨.introspect headers body, d⟩).output =
          ((server B).event e.pre ⟨.introspect headers body, d⟩).output) := by
  refine ⟨?_, ?_, ?_⟩
  · intro headers d ht
    rw [userinfoSucceeds_iff ht, mem_accessTokens_iff h₀]
  · intro headers body d hn
    rw [reportsActive_iff hn, mem_accessTokens_iff h₀, mem_refreshTokens_iff h₀]
  · intro e he hi hv
    have h := steps_of_mem_trace he
    refine ⟨?_, ?_⟩
    · intro headers d ht
      exact userinfo_unchanged h ht hi hv
    · intro hr hp headers body d hn
      exact introspect_unchanged h hn hi hr hv hp

/-! ### Tokens of the sample server -/

namespace Sample

/-- The access token that the step drawn as `suffix` returns. -/
def accessToken (suffix : String) : String := "access." ++ (draws 0 suffix).jti

def bearer (token : String) : HeaderMap := ⟨some (.text ("Bearer " ++ token))⟩

/-- The credentials of the default client, in the header. -/
def basic : HeaderMap := ⟨some (.text "Basic bW9jay1jbGllbnQ6bW9jay1zZWNyZXQ=")⟩

def tokenBody (token : String) : HashMap String String := Finmap.singleton "token" token

theorem namesToken_basic (token : String) : NamesToken build basic (tokenBody token) token :=
  ⟨⟨⟨"mock-client", "mock-secret"⟩, by decide⟩, Finmap.lookup_singleton_eq⟩

end Sample

open Sample in
/-- Both tokens of an exchange are live. -/
theorem token_status_exchanged :
    UserinfoSucceeds build ((server build).run start [authorizeCall, redeemCall "02"])
      ⟨.userinfo (bearer (accessToken "02")), draws 0 "03"⟩ ∧
    ReportsActive build ((server build).run start [authorizeCall, redeemCall "02"])
      ⟨.introspect basic (tokenBody (code "02")), draws 0 "04"⟩ := by
  have hstatus (t : String) :=
    token_status (B := build) spawned_start [authorizeCall, redeemCall "02"] t
  constructor
  · refine ((hstatus (accessToken "02")).1 _ _ (by decide)).mpr ?_
    exact ⟨[_], _, [], rfl, ⟨_, rfl, by decide⟩, by simp⟩
  · refine ((hstatus (code "02")).2.1 _ _ _ (namesToken_basic _)).mpr (.inr ?_)
    exact ⟨[_], _, [], rfl, ⟨_, rfl, by decide⟩, by simp⟩

end GreenticConformance.OAuthMock
