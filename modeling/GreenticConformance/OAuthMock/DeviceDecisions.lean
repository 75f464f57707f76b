import GreenticConformance.OAuthMock.DeviceCodes

/-!
# When a device code yields tokens

With distinct codes and a clock that never runs backwards, the answer to a
device code request is a function of the history: who started the device code
and when, and what the latest decision or exchange since then was.

## Main results

- `stored_iff_since` — the stored data as a property of the past
- `approved_iff_latest` — the approved status as the latest decision
- `device_contract` — when a device code yields tokens, and which ones
-/

namespace GreenticConformance.OAuthMock

open Runs

variable {B : Build} {e : Served} {c : String}

/-! ## User codes -/

/-- An argument matches one upper-case code only. -/
theorem toAsciiUppercase_eq_of_matches {s s' u : String}
    (h : eqIgnoreAsciiCase (toAsciiUppercase s) u = true)
    (h' : eqIgnoreAsciiCase (toAsciiUppercase s') u = true) :
    toAsciiUppercase s = toAsciiUppercase s' := by
  have hlower : (s.toList.map Char.toUpper).map Char.toLower =
      (s'.toList.map Char.toUpper).map Char.toLower := by
    simp only [eqIgnoreAsciiCase, toAsciiUppercase, String.toList_ofList, beq_iff_eq] at h h'
    exact h.trans h'.symm
  have hupper := congrArg (List.map Char.toUpper) hlower
  simp only [List.map_map, Function.comp_def, toUpper_toLower_toUpper] at hupper
  exact congrArg String.ofList hupper

/-- The device codes and the user codes that two events draw are distinct. -/
def DistinctStarts (B : Build) (x y : Served) : Prop :=
  ∀ c c' request request' client client', StartsDevice B x c request client →
    StartsDevice B y c' request' client' → c ≠ c' ∧ x.input.draws.userCode ≠ y.input.draws.userCode

instance : Std.Symm (DistinctStarts B) where
  symm x y h c c' request request' client client' hx hy := by
    obtain ⟨hc, hu⟩ := h _ _ _ _ _ _ hy hx
    exact ⟨hc.symm, hu.symm⟩

/-- Device codes and user codes are pairwise distinct. -/
def DistinctDevices (B : Build) (t : List Served) : Prop := t.Pairwise (DistinctStarts B)

section Matching

variable {s₀ : InnerState} {calls : List Call} {past rest : List Served} (h₀ : Spawned s₀)
  (hdistinct : DistinctDevices B ((server B).trace s₀ calls))
  (ht : (server B).trace s₀ calls = past ++ e :: rest)

include h₀ hdistinct ht

/-- With distinct user codes an argument matches one stored device code only. -/
theorem key_eq_of_matches {c' u : String} {entry entry' : DeviceCodeEntry}
    (hl : e.pre.deviceCodes.lookup c = some entry)
    (hl' : e.pre.deviceCodes.lookup c' = some entry') (hm : entry.Matches u)
    (hm' : entry'.Matches u) : c = c' := by
  rw [DistinctDevices, ht] at hdistinct
  obtain ⟨is₁, i, is₂, -, rfl, rfl, -⟩ := (server B).trace_eq_append_cons ht
  obtain ⟨a, ha, request, client, hst, he⟩ := started_of_lookup h₀ is₁ hl
  obtain ⟨a', ha', request', client', hst', he'⟩ := started_of_lookup h₀ is₁ hl'
  by_cases heq : a = a'
  · subst heq
    exact hst.code.symm.trans hst'.code
  · have hpast := (List.pairwise_append.mp hdistinct).1
    have hne := (hpast.forall ha ha' heq _ _ _ _ _ _ hst hst').2
    unfold DeviceCodeEntry.Matches at hm hm'
    rw [he] at hm
    rw [he'] at hm'
    exact absurd (toAsciiUppercase_eq_of_matches hm hm') hne

/-- A decision reaches a stored device code exactly when its argument matches
the user code. -/
theorem decidesOn_iff {entry : DeviceCodeEntry} (hl : e.pre.deviceCodes.lookup c = some entry)
    (status : DeviceCodeStatus) :
    DecidesOn e c status ↔ ∃ u, e.input.request.Decides status u ∧ entry.Matches u := by
  constructor
  · intro h
    obtain ⟨u, hd, hf⟩ := h
    obtain ⟨entry', hl', hm⟩ := findUserCode_eq_some _ _ hf
    obtain rfl := Option.some.inj (hl.symm.trans hl')
    exact ⟨u, hd, hm⟩
  · intro hmatch
    obtain ⟨u, hd, hm⟩ := hmatch
    refine ⟨u, hd, ?_⟩
    cases hf : findUserCode e.input.draws e.pre u with
    | none => exact absurd hm (findUserCode_eq_none _ _ hf hl)
    | some c' =>
      obtain ⟨entry', hl', hm'⟩ := findUserCode_eq_some _ _ hf
      rw [key_eq_of_matches h₀ hdistinct ht hl hl' hm hm']

end Matching

/-! ## The stored data -/

/-- The event starts the device code `c` with the data of `entry`. -/
def StartsEntry (B : Build) (e : Served) (c : String) (entry : DeviceCodeEntry) : Prop :=
  ∃ request client, StartsDevice B e c request client ∧
    startedDevice e.input.draws client request.scope = { entry with status := .pending 0 }

theorem stored_post (hw : WellOwned B e.pre) (hs : SigningSucceeds e.input.draws) (h : Steps B e)
    (c : String) (entry : DeviceCodeEntry) :
    (∃ status, e.post.deviceCodes.lookup c = some { entry with status := status }) ↔
      StartsEntry B e c entry ∨ ((∀ request client, ¬ StartsDevice B e c request client) ∧
        ∃ status, e.pre.deviceCodes.lookup c = some { entry with status := status }) := by
  constructor
  · intro hstored
    obtain ⟨status, hl⟩ := hstored
    rcases (hl ▸ device_step h c).of_some with ⟨request, client, hst, he⟩ | ⟨hno, old, hold, he⟩
    · obtain rfl : status = .pending 0 := congrArg DeviceCodeEntry.status he
      exact .inl ⟨request, client, hst, he.symm⟩
    · refine .inr ⟨hno, old.status, hold.trans ?_⟩
      cases old
      simp only [DeviceCodeEntry.mk.injEq] at he
      simp [he]
  · rintro (⟨request, client, hst, he⟩ | ⟨hno, status, hl⟩)
    · exact ⟨_, (lookup_post_of_starts h hst).trans (congrArg some he)⟩
    · obtain ⟨status', hl', -⟩ := device_step_kept hw hs h hno hl
      exact ⟨status', hl'⟩

section Run

variable {s₀ : InnerState} {calls : List Call} {past rest : List Served}

/-- **Stored data remembers its start.** -/
theorem stored_iff_since (h₀ : Spawned s₀) (hsign : ∀ c ∈ calls, SigningSucceeds c.draws)
    (ht : (server B).trace s₀ calls = past ++ e :: rest) (c : String) (entry : DeviceCodeEntry) :
    (∃ status, e.pre.deviceCodes.lookup c = some { entry with status := status }) ↔
      Since (fun x => StartsEntry B x c entry)
        (fun x => ∀ request client, ¬ StartsDevice B x c request client) past := by
  refine (server B).holds_pre_iff_since
    (F := fun s => ∃ status, s.deviceCodes.lookup c = some { entry with status := status })
    ?_ ht fun x hx => ?_
  · obtain ⟨b, baseUrl, signing, rfl⟩ := h₀
    intro h
    obtain ⟨status, hl⟩ := h
    cases (Finmap.lookup_empty c).symm.trans hl
  · have hmem : x ∈ (server B).trace s₀ calls := by
      rw [ht]
      simp [hx]
    exact stored_post (wellOwned_of_mem_trace h₀ hmem)
      (hsign _ ((server B).input_mem_of_mem_trace hmem)) (steps_of_mem_trace hmem) c entry

/-! ## The latest decision -/

/-- A decision whose argument matches the user code that `a` drew, ignoring
ASCII case. -/
def DecidesFor (a : Served) (status : DeviceCodeStatus) (x : Served) : Prop :=
  ∃ u, x.input.request.Decides status u ∧ eqIgnoreAsciiCase a.input.draws.userCode u = true

/-- The events that count for the device code `c` that `a` started: decisions
on its user code and exchanges of it. -/
def Counts (B : Build) (a : Served) (c : String) (x : Served) : Prop :=
  (∃ status, DecidesFor a status x) ∨ DeviceExchanged B x c

/-- The latest event that counts is an approval. -/
def LatestIsApproval (B : Build) (a : Served) (c : String) (t : List Served) : Prop :=
  Since (DecidesFor a .approved) (fun x => ¬ Counts B a c x) t

theorem not_counts_iff {a x : Served} :
    ¬ Counts B a c x ↔ ¬ DecidesFor a .approved x ∧ ¬ DecidesFor a .denied x ∧
      ¬ DeviceExchanged B x c := by
  constructor
  · intro h
    exact ⟨fun hd => h (.inl ⟨_, hd⟩), fun hd => h (.inl ⟨_, hd⟩), fun hx => h (.inr hx)⟩
  · rintro ⟨ha, hd, hx⟩ (⟨status, u, hdec, hm⟩ | h)
    · rcases hdec.approved_or_denied with rfl | rfl
      · exact ha ⟨u, hdec, hm⟩
      · exact hd ⟨u, hdec, hm⟩
    · exact hx h

/-- The clock never runs backwards. -/
def Nondecreasing (calls : List Call) : Prop :=
  calls.Pairwise fun x y => x.draws.now ≤ y.draws.now

theorem Nondecreasing.trace (h : Nondecreasing calls) (s : InnerState) :
    ((server B).trace s calls).Pairwise fun x y => x.input.draws.now ≤ y.input.draws.now := by
  rw [Nondecreasing, ← (server B).map_input_trace s calls, List.pairwise_map] at h
  exact h

section After

variable (h₀ : Spawned s₀) (hdistinct : DistinctDevices B ((server B).trace s₀ calls))
  (hsign : ∀ c ∈ calls, SigningSucceeds c.draws) {a x : Served} {t₁ u v : List Served}
  (ht : (server B).trace s₀ calls = (t₁ ++ a :: u) ++ x :: v)
  {request : DeviceAuthorizationRequest} {client : ClientConfig}
  (hst : StartsDevice B a c request client)

include hdistinct ht hst

/-- A device code is started once. -/
theorem not_starts_after {y : Served} (hy : y ∈ u ++ x :: v)
    (request' : DeviceAuthorizationRequest) (client' : ClientConfig) :
    ¬ StartsDevice B y c request' client' := by
  intro hs
  rw [DistinctDevices, ht, List.append_assoc] at hdistinct
  have hay : DistinctStarts B a y := rel_of_mem_after hdistinct hy
  exact (hay _ _ _ _ _ _ hst hs).1 rfl

include h₀ hsign

/-- Once started, a device code stays with the data it was started with. -/
theorem stored_after : ∃ status, x.pre.deviceCodes.lookup c =
    some { startedDevice a.input.draws client request.scope with status := status } := by
  refine (stored_iff_since h₀ hsign ht c _).mpr ⟨t₁, a, u, rfl, ⟨request, client, hst, rfl⟩, ?_⟩
  exact fun y hy => not_starts_after hdistinct ht hst (List.mem_append_left _ hy)

theorem decidesOn_iff_decidesFor (status : DeviceCodeStatus) :
    DecidesOn x c status ↔ DecidesFor a status x := by
  obtain ⟨st, hl⟩ := stored_after h₀ hdistinct hsign ht hst
  rw [decidesOn_iff h₀ hdistinct ht hl status]
  rfl

/-- Before the expiry only denials and exchanges clear an approval. -/
theorem keepsApproval_iff (hexp : x.input.draws.now ≤ a.input.draws.now + TimeDuration.minutes 10) :
    KeepsApproval B x c ↔ ¬ DecidesFor a .denied x ∧ ¬ DeviceExchanged B x c := by
  have hdec := decidesOn_iff_decidesFor h₀ hdistinct hsign ht hst .denied
  constructor
  · intro hk
    exact ⟨fun h => hk.deny (hdec.mpr h), hk.exchange⟩
  · intro hno
    obtain ⟨hdeny, hexch⟩ := hno
    refine ⟨not_starts_after hdistinct ht hst (by simp), fun h => hdeny (hdec.mp h), hexch, ?_⟩
    intro entry cred hl _ _
    obtain ⟨status, hl'⟩ := stored_after h₀ hdistinct hsign ht hst
    have hentry := Option.some.inj (hl.symm.trans hl')
    have hin : x.input ∈ calls :=
      (server B).input_mem_of_mem_trace ((server B).mem_trace_of_eq ht)
    refine ⟨hsign _ hin, ?_⟩
    rw [hentry]
    exact hexp

end After

section Contract

variable (h₀ : Spawned s₀) (hnow : Nondecreasing calls)
  (hdistinct : DistinctDevices B ((server B).trace s₀ calls))
  (hsign : ∀ c ∈ calls, SigningSucceeds c.draws)

include h₀ hnow hdistinct hsign

/-- A device code that has not expired is approved exactly when the latest
event that counts for it is an approval. -/
theorem approved_iff_latest {a : Served} {t₁ t₂ : List Served}
    (ht : (server B).trace s₀ calls = (t₁ ++ a :: t₂) ++ e :: rest)
    {request : DeviceAuthorizationRequest} {client : ClientConfig}
    (hst : StartsDevice B a c request client)
    (hexp : e.input.draws.now ≤ a.input.draws.now + TimeDuration.minutes 10) :
    Approved e.pre c ↔ LatestIsApproval B a c t₂ := by
  have hend := hst.endpoint
  have hpa : ¬ DecidesOn a c .approved := not_decidesOn_of_endpoint (by simp [hend]) _
  have hqa : ¬ KeepsApproval B a c := fun hk => hk.start _ _ hst
  have hsplit : Since (fun x => DecidesOn x c .approved) (fun x => KeepsApproval B x c)
      (t₁ ++ a :: t₂) ↔
        Since (fun x => DecidesOn x c .approved) (fun x => KeepsApproval B x c) t₂ := by
    constructor
    · exact fun h => h.after hpa hqa
    · intro h
      have hlong := h.before (t₁ ++ [a])
      rwa [List.append_assoc, List.singleton_append] at hlong
  rw [approved_iff_since h₀ ht, hsplit, since_iff_latest]
  -- between `a` and the request both histories consist of the same events
  have hevents : ∀ x ∈ t₂, (DecidesOn x c .approved ↔ DecidesFor a .approved x) ∧
      (KeepsApproval B x c ↔ ¬ DecidesFor a .denied x ∧ ¬ DeviceExchanged B x c) := by
    intro x hx
    have hclock := hnow.trace (B := B) s₀
    rw [ht, List.pairwise_append] at hclock
    have hxe : x.input.draws.now ≤ e.input.draws.now := hclock.2.2 x (by simp [hx]) e (by simp)
    obtain ⟨u, v, rfl⟩ := List.append_of_mem hx
    have hx' : (server B).trace s₀ calls = (t₁ ++ a :: u) ++ x :: (v ++ e :: rest) := by
      rw [ht]
      simp
    exact ⟨decidesOn_iff_decidesFor h₀ hdistinct hsign hx' hst .approved,
      keepsApproval_iff h₀ hdistinct hsign hx' hst (hxe.trans hexp)⟩
  refine since_congr (fun x hx => (hevents x hx).1) fun x hx => ?_
  obtain ⟨hdec, hkeeps⟩ := hevents x hx
  rw [hkeeps, hdec, not_counts_iff]

end Contract

/-! ## The contract -/

/-- The history lets `cred` exchange the device code `c` at time `now`: it was
started for that client by `request`, has not expired, and was last approved. -/
def Exchangeable (B : Build) (past : List Served) (cred : ClientCredentials) (c : String)
    (now : OffsetDateTime) (request : DeviceAuthorizationRequest) (client : ClientConfig) : Prop :=
  ∃ t₁ a t₂, past = t₁ ++ a :: t₂ ∧ StartsDevice B a c request client ∧
    request.clientId = cred.clientId ∧ now ≤ a.input.draws.now + TimeDuration.minutes 10 ∧
    LatestIsApproval B a c t₂

section Exchange

variable (h₀ : Spawned s₀) (hnow : Nondecreasing calls)
  (hdistinct : DistinctDevices B ((server B).trace s₀ calls))
  (hsign : ∀ c ∈ calls, SigningSucceeds c.draws)
  (ht : (server B).trace s₀ calls = past ++ e :: rest) {cred : ClientCredentials}
  {request : TokenRequest} (hc : TokenCall B e.input .deviceCode cred request)
  (hd : request.deviceCode = some c)

include h₀ hnow hdistinct hsign ht hc hd

/-- Whoever gets tokens presented an exchangeable device code. -/
theorem exchangeable_of_answers {response : TokenResponse} (ha : Answers e response) :
    ∃ dreq client access id, Exchangeable B past cred c e.input.draws.now dreq client ∧
      Signs e.input.draws e.pre client (scopeOrAllowed client dreq.scope) none access id ∧
      response = exchangeResponse e.input.draws (scopeOrAllowed client dreq.scope) access id := by
  have hmem : e ∈ (server B).trace s₀ calls := (server B).mem_trace_of_eq ht
  obtain ⟨entry, client, access, id, hl, he, hpolled, hcl, hs, rfl⟩ :=
    device_answer (steps_of_mem_trace hmem) hc hd ha
  obtain ⟨hle, hap⟩ := polledStatus_eq_approved.mp hpolled
  obtain ⟨t₁, a, t₂, rfl, ⟨dreq, client', hst, hentry⟩, -⟩ :=
    (stored_iff_since h₀ hsign ht c entry).mp ⟨entry.status, hl⟩
  have hid : client'.clientId = entry.clientId := congrArg DeviceCodeEntry.clientId hentry
  have hscope : scopeOrAllowed client' dreq.scope = entry.scope :=
    congrArg DeviceCodeEntry.scope hentry
  have hexp : a.input.draws.now + TimeDuration.minutes 10 = entry.expiresAt :=
    congrArg DeviceCodeEntry.expiresAt hentry
  have hdreq : dreq.clientId = cred.clientId :=
    (InnerState.client_clientId hst.registered).symm.trans (hid.trans he)
  -- the client table is the one the device code was started with
  have ha : a ∈ (server B).trace s₀ calls := by
    rw [ht]
    simp
  have hreg := hst.registered
  rw [pre_client ha, ← pre_client hmem, hdreq, hcl] at hreg
  obtain rfl := Option.some.inj hreg
  rw [← hexp] at hle
  rw [← hscope] at hs ⊢
  have hlatest := (approved_iff_latest h₀ hnow hdistinct hsign ht hst hle).mp ⟨entry, hl, hap⟩
  exact ⟨dreq, client, access, id, ⟨t₁, a, t₂, rfl, hst, hdreq, hle, hlatest⟩, hs, rfl⟩

/-- An exchangeable device code yields tokens. -/
theorem yieldsTokens_of_exchangeable {dreq : DeviceAuthorizationRequest} {client : ClientConfig}
    (hx : Exchangeable B past cred c e.input.draws.now dreq client) : YieldsTokens e := by
  obtain ⟨t₁, a, t₂, rfl, hst, hdreq, hle, hlatest⟩ := hx
  have hmem : e ∈ (server B).trace s₀ calls := (server B).mem_trace_of_eq ht
  obtain ⟨status, hl⟩ := stored_after h₀ hdistinct hsign ht hst
  obtain ⟨entry, hl', hap⟩ := (approved_iff_latest h₀ hnow hdistinct hsign ht hst hle).mpr hlatest
  have hentry := Option.some.inj (hl'.symm.trans hl)
  have howner : entry.clientId = cred.clientId := by
    rw [hentry]
    exact (InnerState.client_clientId hst.registered).trans hdreq
  have happroved : polledStatus e.input.draws entry = .approved := by
    refine polledStatus_eq_approved.mpr ⟨?_, hap⟩
    rw [hentry]
    exact hle
  exact (Presented.deviceCode hd hl' howner happroved).yieldsTokens (wellOwned_of_mem_trace h₀ hmem)
    (hsign _ ((server B).input_mem_of_mem_trace hmem)) (steps_of_mem_trace hmem) hc

end Exchange

/-- A decision leaves every device code with another user code alone. -/
theorem decision_frame (h : Steps B e) {status : DeviceCodeStatus} {u : String}
    (hd : e.input.request.Decides status u) {entry : DeviceCodeEntry}
    (hl : e.pre.deviceCodes.lookup c = some entry) (hm : ¬ entry.Matches u) :
    e.post.deviceCodes.lookup c = some entry := by
  have hend := hd.endpoint
  have hstep := device_step h c
  rw [hl] at hstep
  generalize e.post.deviceCodes.lookup c = o' at hstep ⊢
  cases hstep with
  | started hst => cases hend.symm.trans hst.endpoint
  | idle => rfl
  | polled hp => cases hend.symm.trans hp.endpoint
  | exchanged hx => cases hend.symm.trans hx.call.endpoint
  | lost hp => cases hend.symm.trans hp.endpoint
  | decided hdec =>
    obtain ⟨u', hd', hf⟩ := hdec
    obtain ⟨-, rfl⟩ := hd.unique hd'
    obtain ⟨entry', hl', hm'⟩ := findUserCode_eq_some _ _ hf
    obtain rfl := Option.some.inj (hl.symm.trans hl')
    exact absurd hm' hm

/-- **The contract of device codes.** A device code request yields tokens
exactly when the history makes the code exchangeable, and then tokens of the
scope the code was started with. A decision reaches one device code at most. -/
theorem device_contract (h₀ : Spawned s₀) (hnow : Nondecreasing calls)
    (hdistinct : DistinctDevices B ((server B).trace s₀ calls))
    (hsign : ∀ c ∈ calls, SigningSucceeds c.draws) :
    (∀ past e rest cred request c, (server B).trace s₀ calls = past ++ e :: rest →
      TokenCall B e.input .deviceCode cred request → request.deviceCode = some c →
      (YieldsTokens e ↔ ∃ dreq client,
        Exchangeable B past cred c e.input.draws.now dreq client) ∧
      ∀ response, Answers e response → ∃ dreq client access id,
        Exchangeable B past cred c e.input.draws.now dreq client ∧
        Signs e.input.draws e.pre client (scopeOrAllowed client dreq.scope) none access id ∧
        response = exchangeResponse e.input.draws (scopeOrAllowed client dreq.scope) access id) ∧
    ∀ past e rest status u, (server B).trace s₀ calls = past ++ e :: rest →
      e.input.request.Decides status u →
      (∀ c entry, e.pre.deviceCodes.lookup c = some entry → ¬ entry.Matches u →
        e.post.deviceCodes.lookup c = some entry) ∧
      ∀ c c' entry entry', e.pre.deviceCodes.lookup c = some entry →
        e.pre.deviceCodes.lookup c' = some entry' → entry.Matches u → entry'.Matches u →
          c = c' := by
  refine ⟨fun past e rest cred request c ht hc hd => ⟨⟨?_, ?_⟩, fun response ha => ?_⟩,
    fun past e rest status u ht hdec => ⟨fun c entry hl hm => ?_, ?_⟩⟩
  · intro h
    obtain ⟨response, ha⟩ := h
    obtain ⟨dreq, client, -, -, hx, -⟩ :=
      exchangeable_of_answers h₀ hnow hdistinct hsign ht hc hd ha
    exact ⟨dreq, client, hx⟩
  · intro hx
    obtain ⟨dreq, client, hx⟩ := hx
    exact yieldsTokens_of_exchangeable h₀ hnow hdistinct hsign ht hc hd hx
  · exact exchangeable_of_answers h₀ hnow hdistinct hsign ht hc hd ha
  · exact decision_frame (steps_of_mem_trace ((server B).mem_trace_of_eq ht)) hdec hl hm
  · intro c c' entry entry' hl hl' hm hm'
    exact key_eq_of_matches h₀ hdistinct ht hl hl' hm hm'

end Run

open Sample in
/-- An approved device code of the sample server yields tokens. -/
theorem device_contract_approved :
    YieldsTokens ((server build).event ((server build).run start [deviceCall, approveCall "02"])
      (pollCall 600000000000 "03")) := by
  have hst : StartsDevice build ((server build).event start deviceCall) (code "01")
      { clientId := "mock-client", scope := some "openid profile" }
      { clientId := "mock-client", clientSecret := "mock-secret", redirectUris := {callback},
        allowedScopes := defaultScope } := ⟨rfl, rfl, rfl, rfl⟩
  have happrove : DecidesFor ((server build).event start deviceCall) .approved
      ((server build).event ((server build).event start deviceCall).post (approveCall "02")) :=
    ⟨"ABCD5E01", ⟨rfl, rfl⟩, by decide⟩
  refine ((@device_contract build start [deviceCall, approveCall "02", pollCall 600000000000 "03"]
    spawned_start (by unfold Nondecreasing; decide) ?_ fun c hc => ?_).1 [_, _] _ [] _ _ (code "01")
      rfl ⟨⟨none⟩, rfl, rfl, .inl rfl⟩ rfl).1.mpr ?_
  · -- only the first event starts a device code
    have hno : ∀ e : Served, e.input.request.endpoint ≠ .deviceAuthorization →
        ∀ x, DistinctStarts build x e := by
      intro e hend x _ _ _ _ _ _ _ hs
      exact absurd hs.endpoint hend
    simp only [DistinctDevices, Machine.trace_cons, Machine.trace_nil, List.pairwise_cons,
      List.mem_cons, List.not_mem_nil, or_false, false_imp_iff, implies_true, List.Pairwise.nil,
      and_true, forall_eq, forall_eq_or_imp]
    exact ⟨⟨hno _ (by decide) _, hno _ (by decide) _⟩, hno _ (by decide) _⟩
  · simp only [List.mem_cons, List.not_mem_nil, or_false] at hc
    rcases hc with rfl | rfl | rfl <;> exact signingSucceeds_draws _ _
  · exact ⟨_, _, [], _, [_], rfl, hst, rfl, by decide, [], _, [], rfl, happrove, by simp⟩

open Sample in
/-- An approval that comes before the device code is started does not count,
although its argument matches the user code. -/
theorem device_approved_before_started :
    ¬ (YieldsTokens ((server build).event ((server build).run start [approveCall "00", deviceCall])
          (pollCall 0 "03")) ↔
        ∃ a dreq client, a ∈ (server build).trace start [approveCall "00", deviceCall] ∧
          StartsDevice build a (code "01") dreq client ∧ dreq.clientId = "mock-client" ∧
          (0 : OffsetDateTime) ≤ a.input.draws.now + TimeDuration.minutes 10 ∧
          LatestIsApproval build a (code "01")
            ((server build).trace start [approveCall "00", deviceCall])) := by
  intro h
  have hst : StartsDevice build ((server build).event ((server build).event start
      (approveCall "00")).post deviceCall) (code "01")
      { clientId := "mock-client", scope := some "openid profile" }
      { clientId := "mock-client", clientSecret := "mock-secret", redirectUris := {callback},
        allowedScopes := defaultScope } := ⟨rfl, rfl, rfl, rfl⟩
  have hlatest : LatestIsApproval build ((server build).event ((server build).event start
      (approveCall "00")).post deviceCall) (code "01")
      ((server build).trace start [approveCall "00", deviceCall]) := by
    refine ⟨[], _, [_], rfl, ⟨"ABCD5E01", ⟨rfl, rfl⟩, by decide⟩, fun x hx => ?_⟩
    rw [List.mem_singleton] at hx
    subst hx
    rw [not_counts_iff]
    refine ⟨?_, ?_, not_deviceExchanged_of_endpoint (by decide)⟩
    · intro hd
      obtain ⟨u, hd, -⟩ := hd
      exact hd
    · intro hd
      obtain ⟨u, hd, -⟩ := hd
      exact hd
  obtain ⟨response, ha⟩ := h.mpr ⟨_, _, _, by simp, hst, rfl, by decide, hlatest⟩
  -- the request is answered with `authorization_pending`
  cases ha

end GreenticConformance.OAuthMock
