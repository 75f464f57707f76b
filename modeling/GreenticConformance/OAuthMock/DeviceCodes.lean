import GreenticConformance.OAuthMock.Invariant

/-!
# Device codes

The status of a device code encodes the history of its approvals, denials,
polls and exchanges. Here that encoding is undone: a device code is stored with
the entry it was started with, and it is approved exactly when it was approved
and nothing has cleared the approval since.

## Main results

- `device_kept` — no step loses a device code
- `approved_iff_since` — the approved status as a property of the past
- `device_exchanged_once` — when a device code is exchanged at most once
-/

namespace GreenticConformance.OAuthMock

open Runs

variable {B : Build} {e : Served} {cred : ClientCredentials} {request : TokenRequest} {c : String}

/-! ## One poll -/

theorem polledStatus_eq_approved {d : Draws} {entry : DeviceCodeEntry} :
    polledStatus d entry = .approved ↔ d.now ≤ entry.expiresAt ∧ entry.status = .approved := by
  unfold polledStatus
  by_cases h : d.now > entry.expiresAt
  · rw [if_pos h]
    constructor
    · nofun
    · intro hboth
      obtain ⟨hle, -⟩ := hboth
      exact absurd hle (not_le.mpr h)
  · rw [if_neg h]
    constructor
    · intro hst
      exact ⟨not_lt.mp h, hst⟩
    · exact And.right

/-- A device code request is answered with tokens of the stored entry only. -/
theorem device_answer (h : Steps B e) (hc : TokenCall B e.input .deviceCode cred request)
    (hd : request.deviceCode = some c) {response : TokenResponse} (ha : Answers e response) :
    ∃ entry client access id, e.pre.deviceCodes.lookup c = some entry ∧
      entry.clientId = cred.clientId ∧ polledStatus e.input.draws entry = .approved ∧
      e.pre.client cred.clientId = some client ∧
      Signs e.input.draws e.pre client entry.scope none access id ∧
      response = exchangeResponse e.input.draws entry.scope access id := by
  obtain ⟨client, scope, nonce, access, id, hx, rfl⟩ := ha.exchanged h hc nofun
  cases hx.presented with
  | deviceCode hd' hl he hst =>
    obtain rfl := Option.some.inj (hd.symm.trans hd')
    exact ⟨_, client, access, id, hl, he, hst, hx.registered, hx.signs, rfl⟩

/-- An exchange completes the device code. -/
theorem DeviceExchanged.spec (h : Steps B e) (hx : DeviceExchanged B e c) :
    ∃ entry cred, PollsDevice B e c cred ∧ e.pre.deviceCodes.lookup c = some entry ∧
      entry.clientId = cred.clientId ∧ polledStatus e.input.draws entry = .approved := by
  obtain ⟨⟨cred, request, hc, hd⟩, response, ha⟩ := hx
  obtain ⟨entry, -, -, -, hl, he, hst, -⟩ := device_answer h hc hd ha
  exact ⟨entry, cred, ⟨request, hc, hd⟩, hl, he, hst⟩

/-! ## Stored device codes -/

/-- Every stored device code was started by an event of the run. -/
theorem started_of_lookup {s₀ : InnerState} (h₀ : Spawned s₀) (calls : List Call)
    {entry : DeviceCodeEntry} (hl : ((server B).run s₀ calls).deviceCodes.lookup c = some entry) :
    ∃ a ∈ (server B).trace s₀ calls, ∃ request client, StartsDevice B a c request client ∧
      entry = { startedDevice a.input.draws client request.scope with status := entry.status } := by
  induction calls using List.reverseRecOn generalizing entry with
  | nil =>
    obtain ⟨b, baseUrl, signing, rfl⟩ := h₀
    cases (Finmap.lookup_empty c).symm.trans hl
  | append_singleton calls call ih =>
    rw [Machine.run_concat] at hl
    rw [Machine.trace_concat]
    have hstep := device_step (steps_event B ((server B).run s₀ calls) call) c
    rw [hl] at hstep
    rcases hstep.of_some with ⟨request, client, hst, he⟩ | ⟨-, old, hold, he⟩
    · exact ⟨_, by simp, request, client, hst, by rw [he]⟩
    · obtain ⟨a, ha, request, client, hst, hcore⟩ := ih hold
      refine ⟨a, by simp [ha], request, client, hst, ?_⟩
      rw [he, hcore]

/-- A stored device code was drawn by an earlier call. -/
theorem drawn_of_lookup {s₀ : InnerState} (h₀ : Spawned s₀) {calls : List Call}
    {entry : DeviceCodeEntry} (hl : ((server B).run s₀ calls).deviceCodes.lookup c = some entry) :
    ∃ call ∈ calls, call.draws.generatedCode = c := by
  obtain ⟨a, ha, request, client, hst, -⟩ := started_of_lookup h₀ calls hl
  exact ⟨a.input, (server B).input_mem_of_mem_trace ha, hst.code⟩

/-- What a step does to a stored device code that it does not start again, when
signing works: it stays, and its status changes for a reason. -/
theorem device_step_kept (hw : WellOwned B e.pre) (hs : SigningSucceeds e.input.draws)
    (h : Steps B e) (hno : ∀ request client, ¬ StartsDevice B e c request client)
    {entry : DeviceCodeEntry} (hl : e.pre.deviceCodes.lookup c = some entry) :
    ∃ status, e.post.deviceCodes.lookup c = some { entry with status := status } ∧
      (status ≠ entry.status →
        (∃ cred, PollsDevice B e c cred ∧ cred.clientId = entry.clientId) ∨
        ∃ userCode, e.input.request.Decides status userCode ∧ entry.Matches userCode) := by
  have hstep := device_step h c
  rw [hl] at hstep
  generalize e.post.deviceCodes.lookup c = o' at hstep ⊢
  cases hstep with
  | started hst => exact absurd hst (hno _ _)
  | idle => exact ⟨entry.status, rfl, fun hne => absurd rfl hne⟩
  | polled hp he => exact ⟨_, rfl, fun _ => .inl ⟨_, hp, he.symm⟩⟩
  | exchanged hx hg hc he =>
    have hp := hx.call
    rw [hg] at hp
    exact ⟨_, rfl, fun _ => .inl ⟨_, ⟨_, hp, hc⟩, he.symm⟩⟩
  | lost hp he hst hlost =>
    rcases hlost with hcl | hno
    · exact absurd hcl (he ▸ hw.devices _ _ hl).not_unknown
    · exact absurd hs hno
  | decided hd =>
    obtain ⟨userCode, hdec, hf⟩ := hd
    obtain ⟨entry', hl', hm⟩ := findUserCode_eq_some _ _ hf
    obtain rfl := Option.some.inj (hl.symm.trans hl')
    exact ⟨_, rfl, fun _ => .inr ⟨userCode, hdec, hm⟩⟩

/-- **No device code is lost**: whatever is requested in a reachable state, a
stored device code stays with its data, and its status changes only through
its owner's poll or a decision on its user code. -/
theorem device_kept {s₀ : InnerState} {calls : List Call} {call : Call} (h₀ : Spawned s₀)
    (hfresh : FreshCodes (calls ++ [call])) (hs : SigningSucceeds call.draws) :
    ∀ c entry, ((server B).run s₀ calls).deviceCodes.lookup c = some entry →
      ∃ status, ((server B).event ((server B).run s₀ calls) call).post.deviceCodes.lookup c =
          some { entry with status := status } ∧
        (status ≠ entry.status →
          (∃ cred, PollsDevice B ((server B).event ((server B).run s₀ calls) call) c cred ∧
            cred.clientId = entry.clientId) ∨
          ∃ userCode, call.request.Decides status userCode ∧ entry.Matches userCode) := by
  intro c entry hl
  have hw : WellOwned B ((server B).run s₀ calls) := Reachable.wellOwned ⟨s₀, calls, h₀, rfl⟩
  refine device_step_kept hw hs (steps_event B _ call) (fun request client hst => ?_) hl
  -- a fresh device code is not the key of a stored one
  obtain ⟨call', hmem, hdrawn⟩ := drawn_of_lookup h₀ hl
  exact hfresh.ne_last hmem (hdrawn.trans hst.code.symm)

/-! ### A device code of the sample server -/

namespace Sample

def deviceCall : Call :=
  ⟨.deviceAuthorization { clientId := "mock-client", scope := some "openid profile" }, draws 0 "01"⟩

def pollForm : TokenRequest :=
  { form with
    grantType := "urn:ietf:params:oauth:grant-type:device_code"
    deviceCode := some (code "01") }

def pollCall (now : OffsetDateTime) (suffix : String) : Call :=
  ⟨.token ⟨none⟩ pollForm, draws now suffix⟩

def approveCall (suffix : String) : Call := ⟨.approveDeviceCode "ABCD5E01", draws 0 suffix⟩

def deviceEntry : DeviceCodeEntry where
  clientId := "mock-client"
  scope := {"openid", "profile"}
  _deviceCode := code "01"
  userCode := "ABCD5E01"
  expiresAt := 600000000000
  _interval := 5
  status := .pending 0

theorem pollsDevice_pollCall (s : InnerState) (now : OffsetDateTime) (suffix : String) :
    PollsDevice build ((server build).event s (pollCall now suffix)) (code "01")
      ⟨"mock-client", "mock-secret"⟩ :=
  ⟨pollForm, ⟨⟨none⟩, rfl, rfl, .inl rfl⟩, rfl⟩

end Sample

open Sample in
theorem device_kept_polled :
    ∃ status, ((server build).event ((server build).run start [deviceCall])
        (pollCall 0 "02")).post.deviceCodes.lookup (code "01") =
          some { deviceEntry with status := status } ∧
      (status ≠ .pending 0 →
        (∃ cred, PollsDevice build ((server build).event ((server build).run start [deviceCall])
          (pollCall 0 "02")) (code "01") cred ∧ cred.clientId = "mock-client") ∨
        ∃ userCode, (pollCall 0 "02").request.Decides status userCode ∧
          deviceEntry.Matches userCode) :=
  device_kept spawned_start (by decide) (signingSucceeds_draws _ _) (code "01") deviceEntry
    (by decide)

/-! ## The approved status -/

/-- `c` is stored and approved. -/
def Approved (s : InnerState) (c : String) : Prop :=
  ∃ entry, s.deviceCodes.lookup c = some entry ∧ entry.status = .approved

/-- The event does not clear an approval of `c`. -/
structure KeepsApproval (B : Build) (e : Served) (c : String) : Prop where
  start : ∀ request client, ¬ StartsDevice B e c request client
  deny : ¬ DecidesOn e c .denied
  exchange : ¬ DeviceExchanged B e c
  poll : ∀ entry cred, e.pre.deviceCodes.lookup c = some entry →
    entry.clientId = cred.clientId → PollsDevice B e c cred →
    SigningSucceeds e.input.draws ∧ e.input.draws.now ≤ entry.expiresAt

theorem DecidesOn.unique {status status' : DeviceCodeStatus} (h : DecidesOn e c status)
    (h' : DecidesOn e c status') : status = status' := by
  obtain ⟨_, hd, -⟩ := h
  obtain ⟨_, hd', -⟩ := h'
  exact (hd.unique hd').1

theorem Request.Decides.approved_or_denied {r : Request} {status : DeviceCodeStatus} {u : String}
    (h : r.Decides status u) : status = .approved ∨ status = .denied := by
  cases r with
  | approveDeviceCode => exact .inl h.1
  | denyDeviceCode => exact .inr h.1
  | _ => exact h.elim

theorem PollRefused.ne_approved {st st' : DeviceCodeStatus} {err : MockError}
    (h : PollRefused st st' err) : st ≠ .approved ∧ st' ≠ .approved := by
  cases h with
  | waiting n => exact ⟨nofun, nofun⟩
  | settled h => cases h <;> exact ⟨nofun, nofun⟩

theorem not_decidesOn_of_endpoint (h : e.input.request.endpoint ≠ .decision)
    (status : DeviceCodeStatus) : ¬ DecidesOn e c status :=
  fun hd => h hd.endpoint

/-- What one event does to the approved status: an approval sets it, and what
keeps it leaves it. -/
theorem approved_post (hw : WellOwned B e.pre) (h : Steps B e) (c : String) :
    Approved e.post c ↔ DecidesOn e c .approved ∨ (KeepsApproval B e c ∧ Approved e.pre c) := by
  have hstep := device_step h c
  have hno := @not_decidesOn_of_endpoint e c
  unfold Approved
  generalize ho : e.pre.deviceCodes.lookup c = o at hstep ⊢
  generalize e.post.deviceCodes.lookup c = o' at hstep ⊢
  cases hstep with
  | started hst =>
    refine cleared_iff (by simp [startedDevice]) (hno (by simp [hst.endpoint]) _) ?_
    intro hk
    exact absurd hst (hk.start _ _)
  | idle hs hp hd =>
    have hk : KeepsApproval B e c := by
      refine ⟨hs, hd _, fun hx => ?_, fun entry cred hl he hpoll => ?_⟩
      · obtain ⟨entry, cred, hpoll, hl, he, -⟩ := hx.spec h
        exact hp entry cred (ho.symm.trans hl) he hpoll
      · exact absurd hpoll (hp entry cred (ho.symm.trans hl) he)
    simp [hk, hd]
  | @polled entry cred st err hpoll he hst hout =>
    refine cleared_iff (by simp [hst.ne_approved.2]) (hno (by simp [hpoll.endpoint]) _) ?_
    intro hk hpre
    obtain ⟨_, h, hap⟩ := hpre
    cases h
    -- an approved code that has not expired is not refused
    obtain ⟨-, hle⟩ := hk.poll _ _ ho he hpoll
    exact hst.ne_approved.1 (polledStatus_eq_approved.mpr ⟨hle, hap⟩)
  | @exchanged entry x hx hg hc he =>
    refine cleared_iff (by simp) (hno (by simp [hx.call.endpoint]) _) ?_
    intro hk
    have hcall := hx.call
    rw [hg] at hcall
    exact absurd ⟨⟨_, _, hcall, hc⟩, _, hx.output⟩ hk.exchange
  | @lost entry cred err hpoll he hst hlost =>
    refine cleared_iff (by simp) (hno (by simp [hpoll.endpoint]) _) ?_
    intro hk
    rcases hlost with hcl | hfails
    · -- the client of a stored code is registered
      obtain ⟨client, hcl', -⟩ := hw.devices _ _ ho
      rw [he] at hcl'
      cases hcl.symm.trans hcl'
    · exact absurd (hk.poll _ _ ho he hpoll).1 hfails
  | @decided entry status hd =>
    constructor
    · intro hpost
      obtain ⟨_, h, hap⟩ := hpost
      cases h
      exact .inl (hap ▸ hd)
    · rintro (hd' | ⟨hk, _, h, hap⟩)
      · exact ⟨_, rfl, hd.unique hd'⟩
      · obtain ⟨_, hdec, -⟩ := id hd
        rcases hdec.approved_or_denied with rfl | rfl
        · exact ⟨_, rfl, rfl⟩
        · exact absurd hd hk.deny

/-- **The approved status remembers the decisions.** -/
theorem approved_iff_since {s₀ : InnerState} {calls : List Call} (h₀ : Spawned s₀)
    {past rest : List Served} (ht : (server B).trace s₀ calls = past ++ e :: rest) (c : String) :
    Approved e.pre c ↔
      Since (fun x => DecidesOn x c .approved) (fun x => KeepsApproval B x c) past := by
  refine (server B).holds_pre_iff_since (F := fun s => Approved s c) ?_ ht fun x hx => ?_
  · obtain ⟨b, baseUrl, signing, rfl⟩ := h₀
    intro hap
    obtain ⟨entry, hl, -⟩ := hap
    cases (Finmap.lookup_empty c).symm.trans hl
  · have hmem : x ∈ (server B).trace s₀ calls := by
      rw [ht]
      simp [hx]
    exact approved_post (wellOwned_of_mem_trace h₀ hmem) (steps_of_mem_trace hmem) c

/-! ## Single use -/

theorem not_deviceExchanged_of_endpoint (h : e.input.request.endpoint ≠ .token) :
    ¬ DeviceExchanged B e c := by
  intro hx
  obtain ⟨⟨cred, hp⟩, -⟩ := hx
  exact h hp.endpoint

/-- **A device code is exchanged at most once** in every run in which no
approval reaches a device code that was already exchanged. -/
theorem device_exchanged_once {s₀ : InnerState} {calls : List Call} (h₀ : Spawned s₀)
    (happrove : ((server B).trace s₀ calls).Pairwise fun x y => ∀ c, DeviceExchanged B x c →
      ¬ DecidesOn y c .approved) :
    ((server B).trace s₀ calls).Pairwise fun x y => ∀ c, DeviceExchanged B x c →
      ¬ DeviceExchanged B y c := by
  refine pairwise_of_splits fun t₁ x t₂ y t₃ ht c hx hy => ?_
  have hstep : Steps B y := steps_of_mem_trace ((server B).mem_trace_of_eq ht)
  obtain ⟨entry, cred, -, hl, -, hst⟩ := hy.spec hstep
  have hap : Approved y.pre c := ⟨entry, hl, (polledStatus_eq_approved.mp hst).2⟩
  rw [approved_iff_since h₀ ht] at hap
  -- nothing approves the code from its exchange on
  have hlater : ∀ z ∈ x :: t₂, ¬ DecidesOn z c .approved := by
    intro z hz
    rcases List.mem_cons.mp hz with rfl | hz
    · obtain ⟨⟨cred, hp⟩, -⟩ := hx
      exact not_decidesOn_of_endpoint (by simp [hp.endpoint]) _
    · rw [ht, List.append_assoc] at happrove
      exact rel_of_mem_after happrove (by simp [hz]) c hx
  exact ((hap.of_append hlater).2 x (by simp)).exchange hx

open Sample in
theorem device_exchanged_once_replay :
    ((server build).trace start [approveCall "00", deviceCall, approveCall "02", pollCall 0 "03",
        pollCall 0 "05"]).Pairwise
      fun x y => ∀ c, DeviceExchanged build x c → ¬ DeviceExchanged build y c := by
  refine device_exchanged_once spawned_start ?_
  simp only [Machine.trace_cons, Machine.trace_nil, List.pairwise_cons, List.mem_cons,
    List.not_mem_nil, or_false, false_imp_iff, implies_true, List.Pairwise.nil, and_true,
    forall_eq]
  refine ⟨fun y _ c hx => ?_, fun y _ c hx => ?_, fun y _ c hx => ?_, fun c _ => ?_⟩
  · exact absurd hx (not_deviceExchanged_of_endpoint (by decide))
  · exact absurd hx (not_deviceExchanged_of_endpoint (by decide))
  · exact absurd hx (not_deviceExchanged_of_endpoint (by decide))
  · exact not_decidesOn_of_endpoint (by decide) _

open Sample in
/-- A second approval makes a completed device code yield tokens again. -/
theorem device_exchanged_twice :
    ¬ ((server build).trace start [deviceCall, approveCall "02", pollCall 0 "03",
        approveCall "04", pollCall 0 "05"]).Pairwise
      fun x y => ∀ c, DeviceExchanged build x c → ¬ DeviceExchanged build y c := by
  intro h
  have hpair := @rel_of_mem_after _ _ [_, _] [_, _] _ _ h
    (List.mem_cons_of_mem _ List.mem_cons_self) (code "01")
  exact hpair ⟨⟨_, pollsDevice_pollCall _ _ _⟩, _, rfl⟩ ⟨⟨_, pollsDevice_pollCall _ _ _⟩, _, rfl⟩

end GreenticConformance.OAuthMock
