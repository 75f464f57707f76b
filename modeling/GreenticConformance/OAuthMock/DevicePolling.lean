import GreenticConformance.OAuthMock.DeviceCodes
import GreenticConformance.OAuthMock.Issued

/-!
# Polling a device code

While a device code is undecided and has not expired, its entry counts the polls of its
owner: `poll_count` is their number since the code was issued. Nothing else that happens
in between changes it, and every third poll is answered with `slow_down`.

## Main definitions

- `PollsAs`, `pollCount` — a poll by one client, and their number in a part of a run
- `Undisturbed` — the device code is left undecided, and its owner's polls are in time

## Main results

- `stored_pollCount` — the entry of an undisturbed device code
- `device_poll_answer` — the answer to its next poll
-/

namespace GreenticConformance.OAuthMock

open Runs

variable {B : Build} {e : Served} {c id : String} {d : Draws} {entry : DeviceCodeEntry}

/-! ## Polls -/

/-- A device code request of the client `id` names `c`. -/
def PollsAs (B : Build) (c id : String) (e : Served) : Prop :=
  ∃ cred, PollsDevice B e c cred ∧ cred.clientId = id

/-- The same, as it is read off the request. -/
def pollsAs (B : Build) (c id : String) (e : Served) : Bool :=
  match e.input.request with
  | .token headers request =>
    match extractClientCredentials B headers request with
    | .ok cred =>
      (request.grantType = "urn:ietf:params:oauth:grant-type:device_code" ∨
        request.grantType = "device_code") ∧
        request.deviceCode = some c ∧ cred.clientId = id
    | .error _ => false
  | _ => false

theorem pollsAs_iff : pollsAs B c id e = true ↔ PollsAs B c id e := by
  unfold pollsAs PollsAs PollsDevice TokenCall
  cases hrequest : e.input.request with
  | token headers request =>
    dsimp only
    cases hcred : extractClientCredentials B headers request with
    | error err => simp [hcred]
    | ok cred =>
      simp only [decide_eq_true_eq]
      constructor
      · intro h
        obtain ⟨hgrant, hcode, hid⟩ := h
        exact ⟨cred, ⟨request, ⟨headers, rfl, hcred, hgrant⟩, hcode⟩, hid⟩
      · intro h
        obtain ⟨cred', ⟨request', ⟨headers', heq, hcred', hgrant⟩, hcode⟩, hid⟩ := h
        obtain ⟨rfl, rfl⟩ := Request.token.inj heq
        obtain rfl := Except.ok.inj (hcred.symm.trans hcred')
        exact ⟨hgrant, hcode, hid⟩
  | _ => simp

instance : DecidablePred (PollsAs B c id) := fun _ => decidable_of_iff _ pollsAs_iff

/-- How often the client `id` polled `c`. -/
def pollCount (B : Build) (c id : String) (t : List Served) : ℕ :=
  t.countP fun e => PollsAs B c id e

/-! ## The entry of an undecided code -/

/-- `c` is stored with the entry it was started with, and `n` polls are counted. -/
def Waiting (c : String) (entry : DeviceCodeEntry) (n : ℕ) (s : InnerState) : Prop :=
  s.deviceCodes.lookup c = some { entry with status := .pending (.ofNat n) }

/-- The event does not issue or decide on `c`, and a poll by the owner is in time. -/
structure Undisturbed (B : Build) (c : String) (entry : DeviceCodeEntry) (e : Served) : Prop where
  start : ∀ request client, ¬ StartsDevice B e c request client
  decision : ∀ status, ¬ DecidesOn e c status
  inTime : PollsAs B c entry.clientId e → e.input.draws.now ≤ entry.expiresAt

theorem polledStatus_of_inTime (h : d.now ≤ entry.expiresAt) :
    polledStatus d entry = entry.status := by
  rw [polledStatus, if_neg (not_lt.mpr h)]

/-- The owner's poll is counted and answered by the count, and nothing else is
counted. -/
theorem waiting_step (h : Steps B e) (hu : Undisturbed B c entry e) {n : ℕ}
    (hn : Waiting c entry n e.pre) :
    Waiting c entry (if PollsAs B c entry.clientId e then n + 1 else n) e.post ∧
      (PollsAs B c entry.clientId e → e.output = .http (.error
        (if UInt32.ofNat (n + 1) % 3 = 0 then .slowDown else .authorizationPending))) := by
  unfold Waiting at hn ⊢
  have hstep := device_step h c
  rw [hn] at hstep
  -- the polled status of the owner is the stored one
  have hpending (cred : ClientCredentials) (hp : PollsDevice B e c cred)
      (he : entry.clientId = cred.clientId) :
      polledStatus e.input.draws { entry with status := .pending (.ofNat n) } =
        .pending (.ofNat n) :=
    polledStatus_of_inTime (hu.inTime ⟨cred, hp, he.symm⟩)
  generalize e.post.deviceCodes.lookup c = o' at hstep ⊢
  cases hstep with
  | started hst => exact absurd hst (hu.start _ _)
  | idle _ hp _ =>
    have hother : ¬ PollsAs B c entry.clientId e := by
      rintro ⟨cred, hpoll, hid⟩
      exact hp _ cred rfl hid.symm hpoll
    rw [if_neg hother]
    exact ⟨rfl, fun hpoll => absurd hpoll hother⟩
  | @polled _ cred st err hp he hst ho =>
    rw [if_pos ⟨cred, hp, he.symm⟩]
    rw [hpending cred hp he] at hst
    have hnext : UInt32.ofNat (n + 1) = .ofNat n + 1 := UInt32.ofNat_add n 1
    cases hst with
    | waiting m =>
      rw [hnext]
      exact ⟨rfl, fun _ => ho⟩
    | settled hs => cases hs
  | exchanged hx hg hc he _ hst =>
    have hcall := hx.call
    rw [hg] at hcall
    rw [hpending _ ⟨_, hcall, hc⟩ he] at hst
    cases hst
  | lost hp he hst =>
    rw [hpending _ hp he] at hst
    cases hst
  | decided hd => exact absurd hd (hu.decision _)

/-! ## Runs -/

section Run

variable {s₀ : InnerState} {calls : List Call} {t₁ t₂ rest : List Served} {a : Served}
  {request : DeviceAuthorizationRequest} {client : ClientConfig}

/-- An undisturbed device code counts the polls of its owner since it was issued. -/
theorem stored_pollCount (ht : (server B).trace s₀ calls = t₁ ++ a :: t₂ ++ e :: rest)
    (ha : StartsDevice B a c request client)
    (hu : ∀ x ∈ t₂, Undisturbed B c (startedDevice a.input.draws client request.scope) x) :
    Waiting c (startedDevice a.input.draws client request.scope)
      (pollCount B c client.clientId t₂) e.pre := by
  rw [List.append_assoc, List.cons_append] at ht
  have hsteps : Steps B a := steps_of_mem_trace ((server B).mem_trace_of_eq ht)
  obtain ⟨_, _, later, -, -, -, hlater⟩ := (server B).trace_eq_append_cons ht
  obtain ⟨between, _, _, -, hbetween, rfl, -⟩ := (server B).trace_eq_append_cons hlater
  have hissued : Waiting c (startedDevice a.input.draws client request.scope) 0 a.post :=
    lookup_post_of_starts hsteps ha
  rw [← Nat.zero_add (pollCount B c client.clientId t₂), pollCount, ← hbetween]
  refine (server B).run_counts (fun x hx n hn => ?_) hissued
  exact (waiting_step (steps_of_mem_trace hx) (hu x (hbetween ▸ hx)) hn).1

/-- Below `2 ^ 32` the counter counts without wrapping. -/
theorem ofNat_mod_three {n : ℕ} (hn : n < 2 ^ 32) : UInt32.ofNat n % 3 = 0 ↔ n % 3 = 0 := by
  rw [← UInt32.toNat_inj, UInt32.toNat_mod, UInt32.toNat_ofNat_of_lt' hn]
  rfl

/-- **Polling**: the owner's `n`-th poll of an undisturbed device code is answered with
`slow_down` when 3 divides `n` and with `authorization_pending` otherwise, and leaves
the count at `n`, whatever else was requested in between. -/
theorem device_poll_answer (ht : (server B).trace s₀ calls = t₁ ++ a :: t₂ ++ e :: rest)
    (ha : StartsDevice B a c request client)
    (hu : ∀ x ∈ t₂ ++ [e], Undisturbed B c (startedDevice a.input.draws client request.scope) x)
    (hp : PollsAs B c client.clientId e) {n : ℕ}
    (hn : n = pollCount B c client.clientId (t₂ ++ [e])) (hbound : n < 2 ^ 32) :
    e.output = .http (.error (if n % 3 = 0 then .slowDown else .authorizationPending)) ∧
      Waiting c (startedDevice a.input.draws client request.scope) n e.post := by
  have hsteps : Steps B e := steps_of_mem_trace ((server B).mem_trace_of_eq ht)
  have hstored := stored_pollCount ht ha fun x hx => hu x (by simp [hx])
  have hnext : n = pollCount B c client.clientId t₂ + 1 := by
    rw [hn, pollCount, pollCount, List.countP_append, List.countP_singleton]
    simp [hp]
  obtain ⟨hcounted, hanswer⟩ := waiting_step hsteps (hu e (by simp)) hstored
  refine ⟨?_, ?_⟩
  · rw [hanswer hp, ← hnext]
    simp only [ofNat_mod_three hbound]
  · rw [hnext]
    simpa [startedDevice, hp] using hcounted

end Run

/-! ### The third poll on the sample server -/

namespace Sample

/-- The other client polls the code of the default client. -/
def strayPollCall (suffix : String) : Call :=
  ⟨.token ⟨none⟩
    { pollForm with clientId := some "other-client", clientSecret := some "other-secret" },
    draws 0 suffix⟩

/-- What is requested between the issue of the code and its third poll. -/
def betweenCalls : List Call := [pollCall 0 "02", strayPollCall "03", pollCall 0 "04"]

def issued : Served := (server build).event start deviceCall

def thirdPoll : Served :=
  (server build).event ((server build).run issued.post betweenCalls) (pollCall 0 "05")

theorem undisturbed_token {x : Served} (hend : x.input.request.endpoint = .token)
    (hnow : x.input.draws.now = 0) :
    Undisturbed build (code "01") (startedDevice (draws 0 "01") mockClient (some "openid profile"))
      x where
  start _ _ hs := by cases hend.symm.trans hs.endpoint
  decision _ hd := by cases hend.symm.trans hd.endpoint
  inTime _ := by
    have hlater : (0 : OffsetDateTime) ≤
        (startedDevice (draws 0 "01") mockClient (some "openid profile")).expiresAt := by decide
    rwa [hnow]

/-- The third poll of the owner is told to slow down, with a poll by another client in
between. -/
theorem thirdPoll_slowDown : thirdPoll.output = .http (.error .slowDown) := by
  have ht : (server build).trace start (deviceCall :: betweenCalls ++ [pollCall 0 "05"]) =
      [] ++ issued :: (server build).trace issued.post betweenCalls ++ thirdPoll :: [] := rfl
  have ha : StartsDevice build issued (code "01") ⟨"mock-client", some "openid profile"⟩
      mockClient := ⟨rfl, rfl, rfl, rfl⟩
  refine (device_poll_answer ht ha (fun x hx => ?_) (pollsAs_iff.mp rfl) rfl (by decide)).1
  have hinput : x.input ∈ betweenCalls ++ [pollCall 0 "05"] := by
    have hmem : x ∈ (server build).trace issued.post (betweenCalls ++ [pollCall 0 "05"]) := hx
    exact (server build).input_mem_of_mem_trace hmem
  have hpolls : ∀ call ∈ betweenCalls ++ [pollCall 0 "05"],
      call.request.endpoint = .token ∧ call.draws.now = 0 := by decide
  exact undisturbed_token (hpolls _ hinput).1 (hpolls _ hinput).2

end Sample

end GreenticConformance.OAuthMock
