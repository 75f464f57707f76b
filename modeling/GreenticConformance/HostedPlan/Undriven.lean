import GreenticConformance.HostedPlan.Passed
import Mathlib.Tactic.NormNum

/-!
# Modules that are left undriven

Without `fail_fast` a failure is to count against the verdict and leave the other
modules alone. What a trigger or a poll raises is caught, what a query or a start
raises is not.

## Main definitions

- `AllDriven` — the run goes on to the end and drives every module of the plan
- `Answered` — the answers during a listing from which nothing escapes

## Main results

- `driveModule_returns_iff` — one listing
- `driveModules_allDriven_iff` — a plan
-/

namespace GreenticConformance.HostedPlan

open Checks Host Runs

/-! ## Polls that raise nothing else -/

/-- An outcome that the driver takes in its stride: a value or a `RuntimeError`. -/
def Caught {α : Type} (r : Except Raised α) : Prop :=
  (∃ a, r = .ok a) ∨ ∃ message, r = .error (.runtimeError message)

/-- An answer that says the module goes on. -/
def Pending (reply : Except Raised Json) : Prop :=
  ∃ info, reply = .ok info ∧ info.isObject = true ∧
    isIn (field info "status") ["FINISHED", "INTERRUPTED"] = .ok false

/-- An answer to a poll from which nothing but a `RuntimeError` comes: an object whose
status can be looked up, and its result too where it is. -/
def Readable (reply : Except Raised Json) : Prop :=
  (∃ message, reply = .error (.runtimeError message)) ∨
  ∃ info, reply = .ok info ∧ info.isObject = true ∧
    ∃ stopped, isIn (field info "status") ["FINISHED", "INTERRUPTED"] = .ok stopped ∧
      (stopped = true → ∃ acceptable,
        isAcceptable (field info "status") (field info "result") = .ok acceptable)

/-- The poll that starts at one round gets to another: the deadline has not passed and
the module has not ended. -/
def Reaches (suite : Suite) (listing : ℕ) (moduleId : Json) (deadline : ℚ) (n m : ℕ) : Prop :=
  n ≤ m ∧ (∀ k, n ≤ k → k ≤ m → suite.time listing k < deadline) ∧
    ∀ k, n ≤ k → k < m → Pending (suite.client listing k (infoRequest suite moduleId))

section Polling

variable {suite : Suite} {fuel listing n : ℕ} {moduleId status outcome : Json} {deadline : ℚ}
  {r : Except Raised Bool} {lastStatus : Json}

theorem Reaches.succ {m : ℕ} (h : Reaches suite listing moduleId deadline n m) (hlt : n < m) :
    Reaches suite listing moduleId deadline (n + 1) m :=
  ⟨hlt, fun k hk => h.2.1 k (by omega), fun k hk => h.2.2 k (by omega)⟩

theorem Reaches.prepend {m : ℕ} (h : Reaches suite listing moduleId deadline (n + 1) m)
    (htime : suite.time listing n < deadline)
    (hpending : Pending (suite.client listing n (infoRequest suite moduleId))) :
    Reaches suite listing moduleId deadline n m := by
  obtain ⟨hle, htimes, hpendings⟩ := h
  refine ⟨by omega, fun k hk hkm => ?_, fun k hk hkm => ?_⟩
  · by_cases heq : k = n
    · rw [heq]
      exact htime
    · exact htimes k (by omega) hkm
  · by_cases heq : k = n
    · rw [heq]
      exact hpending
    · exact hpendings k (by omega) hkm

theorem ended_ends :
    (ended suite moduleId false status outcome).Ends r ↔ isAcceptable status outcome = r := by
  rw [ended, Logged.ends_result_bind]
  cases isAcceptable status outcome with
  | error e => simp [eq_comm]
  | ok acceptable => cases acceptable <;> simp [notPassed, pure, Logged.ends_result]

/-- One round of a poll. -/
theorem pollLoop_succ_ends :
    (pollLoop suite listing moduleId false deadline (fuel + 1) n lastStatus).Ends r ↔
      if suite.time listing n < deadline then
        (∃ e, suite.client listing n (infoRequest suite moduleId) = .error e ∧ r = .error e) ∨
        ∃ info, suite.client listing n (infoRequest suite moduleId) = .ok info ∧
          if info.isObject then
            (∃ e, isIn (field info "status") ["FINISHED", "INTERRUPTED"] = .error e ∧
              r = .error e) ∨
            ∃ stopped, isIn (field info "status") ["FINISHED", "INTERRUPTED"] = .ok stopped ∧
              if stopped then isAcceptable (field info "status") (field info "result") = r
              else (pollLoop suite listing moduleId false deadline fuel (n + 1)
                (field info "status")).Ends r
          else r = .error .attributeError
      else r = .ok false := by
  have hget (info : Json) (key : String) : get info key =
      if info.isObject then .ok (field info key) else .error .attributeError := by
    cases info <;> rfl
  rw [pollLoop, now, Logged.ends_ask_bind]
  simp only [reduceCtorEq, false_and, exists_false, Except.ok.injEq, false_or,
    exists_eq_left']
  by_cases htime : suite.time listing n < deadline
  · simp only [htime, if_true, call, Logged.ends_ask_bind, hget]
    apply or_congr_right
    apply exists_congr
    intro info
    apply and_congr_right
    intro _
    cases info.isObject with
    | false => simp [Logged.ends_result_bind]
    | true =>
      simp only [if_true, Logged.ends_result_bind, reduceCtorEq, false_and, exists_false,
        Except.ok.injEq, false_or, exists_eq_left']
      apply or_congr_right
      apply exists_congr
      intro stopped
      apply and_congr_right
      intro _
      cases stopped with
      | true => exact ended_ends
      | false => rfl
  · simp [htime, notPassed, pure, Logged.ends_result, eq_comm]

@[simp] theorem caught_error {α : Type} {e : Raised} :
    Caught (.error e : Except Raised α) ↔ ∃ message, e = .runtimeError message := by
  simp [Caught]

theorem caught_ok {α : Type} (a : α) : Caught (.ok a : Except Raised α) := .inl ⟨a, rfl⟩

theorem caught_runtimeError {α : Type} (message : String) :
    Caught (.error (.runtimeError message) : Except Raised α) := .inr ⟨message, rfl⟩

theorem Caught.ite {α : Type} {p : Prop} [Decidable p] {x y : Except Raised α} (hx : Caught x)
    (hy : Caught y) : Caught (if p then x else y) := by
  by_cases h : p
  · rwa [if_pos h]
  · rwa [if_neg h]

theorem isIn_of_caught {value : Json} {names : List String} (h : Caught (isIn value names)) :
    ∃ found, isIn value names = .ok found := by
  cases value <;> simp [isIn] at h ⊢

theorem isAcceptable_of_caught (h : Caught (isAcceptable status outcome)) :
    ∃ acceptable, isAcceptable status outcome = .ok acceptable := by
  unfold isAcceptable at h ⊢
  by_cases hfinished : isString status "FINISHED"
  · rw [if_pos hfinished] at h ⊢
    exact isIn_of_caught h
  · rw [if_neg hfinished]
    exact ⟨false, rfl⟩

/-- A poll that comes to no harm could read every answer it got. -/
theorem pollLoop_readable
    (h : (pollLoop suite listing moduleId false deadline fuel n lastStatus).Ends r)
    (hcaught : Caught r) {m : ℕ} (hm : Reaches suite listing moduleId deadline n m) :
    Readable (suite.client listing m (infoRequest suite moduleId)) := by
  -- the answer is read in this round, or the poll goes on to the round it is read in
  induction fuel generalizing n lastStatus with
  | zero => exact absurd h.choose_spec Logged.not_returns_stall
  | succ fuel ih =>
    rw [pollLoop_succ_ends, if_pos (hm.2.1 n le_rfl hm.1)] at h
    by_cases heq : n = m
    · subst heq
      obtain ⟨e, herror, rfl⟩ | ⟨info, hinfo, h⟩ := h
      · obtain ⟨message, rfl⟩ := caught_error.mp hcaught
        exact .inl ⟨message, herror⟩
      · by_cases hobject : info.isObject
        · rw [if_pos hobject] at h
          obtain ⟨e, herror, rfl⟩ | ⟨stopped, hstopped, h⟩ := h
          · rw [caught_error, ← caught_error (α := Bool), ← herror] at hcaught
            obtain ⟨found, hfound⟩ := isIn_of_caught hcaught
            exact absurd (hfound.symm.trans herror) (by simp)
          · refine .inr ⟨info, hinfo, hobject, stopped, hstopped, fun htrue => ?_⟩
            rw [if_pos htrue] at h
            exact isAcceptable_of_caught (h ▸ hcaught)
        · rw [if_neg hobject] at h
          simp [h] at hcaught
    · obtain ⟨info, hinfo, hobject, hstopped⟩ := hm.2.2 n le_rfl (lt_of_le_of_ne hm.1 heq)
      rw [hinfo] at h
      simp only [reduceCtorEq, false_and, exists_false, Except.ok.injEq, exists_eq_left', false_or,
        hobject, if_true, hstopped, Bool.false_eq_true, if_false] at h
      exact ih h (hm.succ (lt_of_le_of_ne hm.1 heq))

/-- A poll that can read every answer it gets comes to no harm, once the clock has passed
the deadline. -/
theorem pollLoop_caught {rounds : ℕ} (lastStatus : Json)
    (htime : deadline ≤ suite.time listing (n + rounds))
    (hread : ∀ m, Reaches suite listing moduleId deadline n m →
      Readable (suite.client listing m (infoRequest suite moduleId))) :
    ∃ r, Caught r ∧
      (pollLoop suite listing moduleId false deadline (rounds + 1) n lastStatus).Ends r := by
  induction rounds generalizing n lastStatus with
  | zero =>
    have hpast : ¬ suite.time listing n < deadline := not_lt.mpr htime
    refine ⟨.ok false, caught_ok false, ?_⟩
    rw [pollLoop_succ_ends, if_neg hpast]
  | succ rounds ih =>
    by_cases hnow : suite.time listing n < deadline
    · have hself : Reaches suite listing moduleId deadline n n := by
        refine ⟨le_rfl, fun k hk hkn => ?_, fun k hk hkn => absurd hkn (by omega)⟩
        rw [show k = n by omega]
        exact hnow
      obtain ⟨message, herror⟩ | ⟨info, hinfo, hobject, stopped, hstopped, hacceptable⟩ :=
        hread n hself
      · refine ⟨.error (.runtimeError message), by simp, ?_⟩
        rw [pollLoop_succ_ends, if_pos hnow]
        exact .inl ⟨_, herror, rfl⟩
      · cases stopped with
        | true =>
          obtain ⟨acceptable, hacceptable⟩ := hacceptable rfl
          refine ⟨.ok acceptable, caught_ok acceptable, ?_⟩
          rw [pollLoop_succ_ends, if_pos hnow]
          refine .inr ⟨info, hinfo, ?_⟩
          rw [if_pos hobject]
          exact .inr ⟨true, hstopped, hacceptable⟩
        | false =>
          have hpending : Pending (suite.client listing n (infoRequest suite moduleId)) :=
            ⟨info, hinfo, hobject, hstopped⟩
          have htime' : deadline ≤ suite.time listing (n + 1 + rounds) := by
            rwa [show n + 1 + rounds = n + (rounds + 1) by omega]
          obtain ⟨r, hr, hends⟩ := @ih (n + 1) (field info "status") htime'
            (fun m hm => hread m (hm.prepend hnow hpending))
          refine ⟨r, hr, ?_⟩
          rw [pollLoop_succ_ends, if_pos hnow]
          refine .inr ⟨info, hinfo, ?_⟩
          rw [if_pos hobject]
          exact .inr ⟨false, hstopped, hends⟩
    · refine ⟨.ok false, caught_ok false, ?_⟩
      rw [pollLoop_succ_ends, if_neg hnow]

theorem pollModule_ends : (pollModule suite fuel listing moduleId false).Ends r ↔
    (pollLoop suite listing moduleId false (suite.time listing 0 + 900) fuel 1 .null).Ends r := by
  rw [pollModule, now, Logged.ends_ask_bind]
  simp

/-- What is caught lets the driver go on. -/
theorem attempt_ends {α : Type} {x : Driver α} :
    (∃ o, (attempt false x).Ends (.ok o)) ↔ ∃ r, Caught r ∧ x.Ends r := by
  constructor
  · intro h
    obtain ⟨o, t, h⟩ := h
    obtain ⟨a, _, hx⟩ | ⟨_, _, message, hx⟩ := attempt_ok.mp h
    · exact ⟨.ok a, caught_ok a, t, hx⟩
    · exact ⟨_, caught_error.mpr ⟨message, rfl⟩, t, hx⟩
  · intro h
    obtain ⟨r, ⟨a, rfl⟩ | ⟨message, rfl⟩, t, hx⟩ := h
    · exact ⟨some a, t, attempt_ok.mpr (.inl ⟨a, rfl, hx⟩)⟩
    · exact ⟨none, t, attempt_ok.mpr (.inr ⟨rfl, rfl, message, hx⟩)⟩

end Polling

/-! ## Listings from which nothing escapes -/

section Listing

variable {suite : Suite} {fuel listing : ℕ} {arguments : Arguments} {issuer : String}
  {moduleId : Json} {t : List Event}

/-- The login of a module with this status is triggered. -/
def needsLogin (status : Json) : Bool := needsStart status || isString status "WAITING"

/-- The answers during a listing from which nothing escapes: the query is answered by an
object, one of the two ways to start works if there is need for it, and the polls that
are made can be read, unless the trigger fails and there are none. -/
def Answered (suite : Suite) (arguments : Arguments) (listing : ℕ) (moduleId : Json) : Prop :=
  ∃ info, suite.client listing 0 (infoRequest suite moduleId) = .ok info ∧
    info.isObject = true ∧
    (needsStart (field info "status") = true →
      ∃ request ∈ [startRequest suite moduleId, startAgainRequest suite moduleId],
        ∃ reply, suite.client listing 0 request = .ok reply) ∧
    ((needsLogin (field info "status") = true →
        suite.triggerRp listing arguments.triggerUrl
          (loginPayload arguments (issuerOf suite arguments) moduleId) = .ok ()) →
      ∀ m, Reaches suite listing moduleId (suite.time listing 0 + 900) 1 m →
        Readable (suite.client listing m (infoRequest suite moduleId)))

/-- The suite and the trigger raise nothing but `RuntimeError`. -/
structure RaisesRuntimeErrors (suite : Suite) : Prop where
  client : ∀ listing asked request e, suite.client listing asked request = .error e →
    ∃ message, e = .runtimeError message
  trigger : ∀ listing url payload e, suite.triggerRp listing url payload = .error e →
    ∃ message, e = .runtimeError message

theorem raisesRuntimeErrors_of_caught
    (hclient : ∀ listing asked request, Caught (suite.client listing asked request))
    (htrigger : ∀ listing url payload, Caught (suite.triggerRp listing url payload)) :
    RaisesRuntimeErrors suite where
  client listing asked request _ h := caught_error.mp (h ▸ hclient listing asked request)
  trigger listing url payload _ h := caught_error.mp (h ▸ htrigger listing url payload)

/-- The clock passes the deadline of every poll. -/
def ClockAdvances (suite : Suite) : Prop :=
  ∀ listing, ∃ n, suite.time listing 0 + 900 ≤ suite.time listing (n + 1)

/-- The status after the tests for a start says whether the login is triggered. -/
theorem Starts.waiting_iff {status started : Json}
    (h : Starts suite listing moduleId status started t) :
    isString started "WAITING" = needsLogin status := by
  unfold Starts at h
  by_cases hneeds : needsStart status
  · rw [if_pos hneeds] at h
    rw [h.1, needsLogin, hneeds]
    rfl
  · rw [if_neg hneeds] at h
    rw [h.1, needsLogin, Bool.eq_false_iff.mpr hneeds, Bool.false_or]

/-- A listing that ends has got such answers. -/
theorem driveModule_answered {module : Module} {overallSuccess success : Bool}
    (hkeep : arguments.failFast = false)
    (h : (driveModule suite fuel listing arguments (issuerOf suite arguments) overallSuccess
      module).Returns (.ok success) t) : Answered suite arguments listing module.id := by
  obtain ⟨info, started, triggered, t₁, t₂, t₃, hinfo, hobject, hstarts, htriggered, hpolls,
    rfl⟩ := driveModule_ok.mp h
  refine ⟨info, hinfo, hobject, ?_, ?_⟩
  · intro hneeds
    obtain ⟨request, hrequest, reply, hreply, _⟩ := hstarts.exists_ok hneeds
    exact ⟨request, hrequest, reply, hreply⟩
  · intro hlogin m hm
    have hsome : triggered = some () := by
      rw [triggerWaiting_ok, hstarts.waiting_iff] at htriggered
      by_cases hneeds : needsLogin (field info "status")
      · rw [if_pos hneeds] at htriggered
        obtain ⟨reply, hreply, _, ⟨hsome, _⟩ | ⟨_, _, message, hmessage⟩⟩ := htriggered
        · exact hsome
        · rw [hlogin hneeds, hmessage] at hreply
          cases hreply
      · rw [if_neg hneeds] at htriggered
        exact htriggered.1
    subst hsome
    obtain ⟨hnone, _⟩ | ⟨_, polled, hpolled, _⟩ := pollTriggered_ok.mp hpolls
    · cases hnone
    rw [hkeep] at hpolled
    obtain ⟨r, hcaught, hrun⟩ := attempt_ends.mp ⟨polled, t₃, hpolled⟩
    exact pollLoop_readable (pollModule_ends.mp hrun) hcaught hm

/-- One of the two ways to start works, so the tests for a start go through. -/
theorem starts_of_answered (herrors : RaisesRuntimeErrors suite) {status : Json}
    (hstart : needsStart status = true →
      ∃ request ∈ [startRequest suite moduleId, startAgainRequest suite moduleId],
        ∃ reply, suite.client listing 0 request = .ok reply) :
    ∃ started t, Starts suite listing moduleId status started t := by
  unfold Starts
  by_cases hneeds : needsStart status
  · simp only [hneeds, if_true]
    cases hfirst : suite.client listing 0 (startRequest suite moduleId) with
    | ok reply => exact ⟨_, _, rfl, reply, startModule_ok.mpr (.inl ⟨hfirst, rfl⟩)⟩
    | error e =>
      obtain ⟨message, rfl⟩ := herrors.client _ _ _ _ hfirst
      obtain ⟨request, hrequest, reply, hreply⟩ := hstart hneeds
      simp only [List.mem_cons, List.not_mem_nil, or_false] at hrequest
      rcases hrequest with rfl | rfl
      · exact absurd (hfirst.symm.trans hreply) (by simp)
      · exact ⟨_, _, rfl, reply, startModule_ok.mpr (.inr ⟨message, hfirst, hreply, rfl⟩)⟩
  · simp only [hneeds, Bool.false_eq_true, if_false]
    exact ⟨status, [], rfl, rfl⟩

/-- The trigger goes through, or what it raises is caught. -/
theorem triggerWaiting_returns (listing : ℕ) (issuer : String) (moduleId started : Json)
    (herrors : RaisesRuntimeErrors suite) (hkeep : arguments.failFast = false) :
    ∃ triggered t, (triggerWaiting suite listing arguments issuer moduleId started).Returns
        (.ok triggered) t ∧
      (triggered = some () → isString started "WAITING" = true →
        suite.triggerRp listing arguments.triggerUrl (loginPayload arguments issuer moduleId) =
          .ok ()) := by
  simp only [triggerWaiting_ok]
  by_cases hwaiting : isString started "WAITING"
  · simp only [hwaiting, if_true]
    cases hreply : suite.triggerRp listing arguments.triggerUrl
        (loginPayload arguments issuer moduleId) with
    | ok u => exact ⟨some (), _, ⟨_, rfl, rfl, .inl ⟨rfl, rfl⟩⟩, fun _ _ => rfl⟩
    | error e =>
      obtain ⟨message, rfl⟩ := herrors.trigger _ _ _ _ hreply
      exact ⟨none, _, ⟨_, rfl, rfl, .inr ⟨rfl, hkeep, message, rfl⟩⟩, fun hnone => by cases hnone⟩
  · simp only [hwaiting, Bool.false_eq_true, if_false]
    exact ⟨some (), [], ⟨rfl, rfl⟩, fun _ hfalse => by cases hfalse⟩

/-- With such answers a listing ends. -/
theorem driveModule_returns {module : Module} (overallSuccess : Bool)
    (herrors : RaisesRuntimeErrors suite) (hclock : ClockAdvances suite)
    (hkeep : arguments.failFast = false) (h : Answered suite arguments listing module.id) :
    ∃ fuel success t, (driveModule suite fuel listing arguments (issuerOf suite arguments)
      overallSuccess module).Returns (.ok success) t := by
  obtain ⟨info, hinfo, hobject, hstart, hread⟩ := h
  obtain ⟨started, t₁, hstarts⟩ := starts_of_answered herrors hstart
  obtain ⟨triggered, t₂, htriggered, hlogin⟩ := triggerWaiting_returns listing
    (issuerOf suite arguments) module.id started herrors hkeep
  have hpolls : ∃ fuel success t₃, (pollTriggered suite fuel listing arguments.failFast
      overallSuccess module.id triggered).Returns (.ok success) t₃ := by
    cases triggered with
    | none => exact ⟨0, false, [], pollTriggered_ok.mpr (.inl ⟨rfl, rfl, rfl⟩)⟩
    | some _ =>
      rw [hstarts.waiting_iff] at hlogin
      obtain ⟨rounds, htime⟩ := hclock listing
      rw [Nat.add_comm] at htime
      obtain ⟨r, hcaught, hends⟩ := pollLoop_caught .null htime (hread (hlogin rfl))
      obtain ⟨polled, t₃, hpolled⟩ :=
        attempt_ends.mpr ⟨r, hcaught, pollModule_ends.mpr hends⟩
      rw [hkeep]
      exact ⟨rounds + 1, _, t₃, pollTriggered_ok.mpr (.inr ⟨rfl, polled, hpolled, rfl⟩)⟩
  obtain ⟨fuel, success, t₃, hpolls⟩ := hpolls
  exact ⟨fuel, success, _, driveModule_ok.mpr ⟨info, started, triggered, t₁, t₂, t₃, hinfo,
    hobject, hstarts, htriggered, hpolls, rfl⟩⟩

/-! ### Fuel -/

theorem pollLoop_extends {fuel' n : ℕ} {failFast : Bool} {deadline : ℚ} {lastStatus : Json}
    (h : fuel ≤ fuel') :
    Logged.Extends (pollLoop suite listing moduleId failFast deadline fuel n lastStatus)
      (pollLoop suite listing moduleId failFast deadline fuel' n lastStatus) := by
  induction fuel generalizing fuel' n lastStatus with
  | zero => exact Logged.extends_stall
  | succ fuel ih =>
    obtain ⟨fuel', rfl⟩ : ∃ k, fuel' = k + 1 := ⟨fuel' - 1, by omega⟩
    rw [pollLoop, pollLoop]
    refine .bind .refl fun reading => ?_
    by_cases hdeadline : reading < deadline
    · rw [if_pos hdeadline, if_pos hdeadline]
      refine .bind .refl fun info => .bind .refl fun status => .bind .refl fun outcome => ?_
      refine .bind .refl fun stopped => ?_
      cases stopped with
      | true => exact .refl
      | false => exact ih (by omega)
    · rw [if_neg hdeadline, if_neg hdeadline]
      exact .refl

theorem driveModule_extends {fuel' : ℕ} {module : Module} {overallSuccess : Bool}
    (h : fuel ≤ fuel') :
    Logged.Extends (driveModule suite fuel listing arguments issuer overallSuccess module)
      (driveModule suite fuel' listing arguments issuer overallSuccess module) := by
  rw [driveModule, driveModule]
  refine .bind .refl fun _ => .bind .refl fun _ => .bind .refl fun _ => .bind .refl fun _ => ?_
  refine .bind .refl fun _ => .bind .refl fun triggered => ?_
  cases triggered with
  | none => exact .refl
  | some _ =>
    refine .bind (.catching (.bind ?_ fun _ => .refl)) fun _ => .refl
    exact .bind .refl fun _ => pollLoop_extends h

theorem driveFrom_extends {fuel' : ℕ} {modules : List Module} {overallSuccess : Bool}
    (h : fuel ≤ fuel') :
    Logged.Extends (driveFrom suite fuel arguments issuer listing overallSuccess modules)
      (driveFrom suite fuel' arguments issuer listing overallSuccess modules) := by
  induction modules generalizing listing overallSuccess with
  | nil => exact .refl
  | cons module modules ih =>
    rw [driveFrom, driveFrom]
    exact .bind (driveModule_extends h) fun _ => ih

/-! ### The loop over the modules -/

/-- A loop that ends has got such answers in every listing. -/
theorem driveFrom_answered {modules : List Module} {overallSuccess success : Bool}
    (hkeep : arguments.failFast = false)
    (h : (driveFrom suite fuel arguments (issuerOf suite arguments) listing overallSuccess
      modules).Returns (.ok success) t) {i : ℕ} {module : Module}
    (hi : modules[i]? = some module) : Answered suite arguments (listing + i) module.id := by
  induction modules generalizing listing overallSuccess t i with
  | nil => simp at hi
  | cons first modules ih =>
    rw [driveFrom] at h
    obtain ⟨after, t₁, t₂, hfirst, hrest, rfl⟩ := Logged.returns_bind_ok.mp h
    cases i with
    | zero =>
      obtain rfl : first = module := by simpa using hi
      exact driveModule_answered hkeep hfirst
    | succ i =>
      have hanswered := ih hrest (by simpa using hi)
      rwa [show listing + 1 + i = listing + (i + 1) by omega] at hanswered

/-- With such answers in every listing the loop ends. -/
theorem driveFrom_returns {modules : List Module} (overallSuccess : Bool)
    (herrors : RaisesRuntimeErrors suite) (hclock : ClockAdvances suite)
    (hkeep : arguments.failFast = false)
    (h : ∀ i module, modules[i]? = some module →
      Answered suite arguments (listing + i) module.id) :
    ∃ fuel success t, (driveFrom suite fuel arguments (issuerOf suite arguments) listing
      overallSuccess modules).Returns (.ok success) t := by
  induction modules generalizing listing overallSuccess with
  | nil => exact ⟨0, overallSuccess, [], ⟨rfl, rfl⟩⟩
  | cons first modules ih =>
    obtain ⟨fuel₁, after, t₁, hfirst⟩ :=
      driveModule_returns overallSuccess herrors hclock hkeep (h 0 first rfl)
    have htail : ∀ i module, modules[i]? = some module →
        Answered suite arguments (listing + 1 + i) module.id := by
      intro i module hi
      rw [show listing + 1 + i = listing + (i + 1) by omega]
      exact h (i + 1) module (by simpa using hi)
    obtain ⟨fuel₂, success, t₂, hrest⟩ := ih after htail
    have hfirst' := driveModule_extends (le_max_left fuel₁ fuel₂) _ _ hfirst
    have hrest' := driveFrom_extends (le_max_right fuel₁ fuel₂) _ _ hrest
    exact ⟨max fuel₁ fuel₂, success, t₁ ++ t₂, hfirst'.bind hrest'⟩

end Listing

/-! ## What is done for each module -/

section Driven

variable {suite : Suite} {fuel listing : ℕ} {arguments : Arguments} {issuer : String}
  {moduleId : Json} {t : List Event}

/-- The module was started, triggered and polled, as far as no step failed. -/
def Attempted (suite : Suite) (moduleId status : Json) (t : List Event) : Prop :=
  (needsStart status = true → ∃ reply, .request (startRequest suite moduleId) reply ∈ t) ∧
  ((∃ e, .request (startAgainRequest suite moduleId) (.error e) ∈ t) ∨
    (∃ url payload e, .trigger url payload (.error e) ∈ t) ∨
    (needsLogin status = true → ∃ url payload, .trigger url payload (.ok ()) ∈ t) ∧
      ∃ reading, .time reading ∈ t)

/-- The module was queried, and driven if the query was answered. -/
structure Driven (suite : Suite) (moduleId : Json) (t : List Event) : Prop where
  listed : Listed moduleId t
  driven : ∃ name reply rest,
    t = .processing name moduleId :: .request (infoRequest suite moduleId) reply :: rest ∧
      ∀ info, reply = .ok info → Attempted suite moduleId (field info "status") rest

/-- A module that is to be started is started the first way, whatever comes of it. -/
theorem Starts.tried {status started : Json} (h : Starts suite listing moduleId status started t)
    (hneeds : needsStart status = true) :
    ∃ reply, .request (startRequest suite moduleId) reply ∈ t := by
  rw [Starts, if_pos hneeds] at h
  obtain ⟨_, reply, hstart⟩ := h
  obtain ⟨_, rfl⟩ | ⟨message, _, _, rfl⟩ := startModule_ok.mp hstart
  · exact ⟨.ok reply, by simp⟩
  · exact ⟨.error (.runtimeError message), by simp⟩

/-- A poll looks at the clock. -/
theorem pollModule_time {failFast : Bool} {r : Except Raised Bool}
    (h : (pollModule suite fuel listing moduleId failFast).Returns r t) :
    ∃ reading, .time reading ∈ t := by
  obtain ⟨e, _, herr⟩ | ⟨reading, t₁, t₂, hnow, _, rfl⟩ := Logged.returns_bind.mp h
  · cases (Logged.returns_ask.mp herr).1
  · rw [now, Logged.returns_ask] at hnow
    exact ⟨_, by rw [hnow.2]; exact List.mem_cons_self⟩

/-- A listing that ends has driven its module. -/
theorem driveModule_driven {module : Module} {overallSuccess success : Bool}
    (h : (driveModule suite fuel listing arguments issuer overallSuccess module).Returns
      (.ok success) t) : Driven suite module.id t := by
  refine ⟨driveModule_listed h, ?_⟩
  obtain ⟨info, started, triggered, t₁, t₂, t₃, _, _, hstarts, htriggered, hpolls, rfl⟩ :=
    driveModule_ok.mp h
  refine ⟨module.name, .ok info, _, rfl, ?_⟩
  rintro _ ⟨⟩
  constructor
  · intro hneeds
    obtain ⟨reply, hreply⟩ := hstarts.tried hneeds
    exact ⟨reply, by simp [hreply]⟩
  · right
    rw [triggerWaiting_ok, hstarts.waiting_iff] at htriggered
    obtain ⟨rfl, _, rfl⟩ | ⟨rfl, polled, hpolled, _⟩ := pollTriggered_ok.mp hpolls
    · -- nothing is polled because the trigger failed
      left
      by_cases hneeds : needsLogin (field info "status")
      · rw [if_pos hneeds] at htriggered
        obtain ⟨_, _, rfl, ⟨hsome, _⟩ | ⟨_, _, message, rfl⟩⟩ := htriggered
        · cases hsome
        · exact ⟨arguments.triggerUrl, loginPayload arguments issuer module.id,
            .runtimeError message, by simp⟩
      · rw [if_neg hneeds] at htriggered
        cases htriggered.1
    · right
      constructor
      · intro hneeds
        rw [if_pos hneeds] at htriggered
        obtain ⟨_, _, rfl, ⟨_, rfl⟩ | ⟨hnone, _⟩⟩ := htriggered
        · exact ⟨arguments.triggerUrl, loginPayload arguments issuer module.id, by simp⟩
        · cases hnone
      · have htime : ∃ reading, .time reading ∈ t₃ := by
          obtain ⟨_, _, hrun⟩ | ⟨_, _, _, hrun⟩ := attempt_ok.mp hpolled
          · exact pollModule_time hrun
          · exact pollModule_time hrun
        obtain ⟨reading, hreading⟩ := htime
        exact ⟨reading, by simp [hreading]⟩

end Driven

/-! ## Plans -/

section Plan

variable {suite : Suite} {arguments : Arguments} {detail : Json}

/-- The driver reports a verdict after it has driven every module of the plan, once and in
order, and the verdict is good only if every module was passed. -/
def AllDriven (suite : Suite) (arguments : Arguments) (detail : Json) : Prop :=
  ∃ fuel success segments,
    (driveModules suite fuel arguments).Returns (.ok success)
      (.request (planRequest arguments.planId) (.ok detail) :: segments.flatten) ∧
    List.Forall₂ (fun entry segment =>
      ∃ id, listingId entry = some id ∧ Driven suite id segment) (planListings detail) segments ∧
    (success = true → List.Forall₂ (fun entry segment =>
      ∃ id, listingId entry = some id ∧ Passed suite id segment) (planListings detail) segments)

theorem moduleOf_eq_none {entry : Json} : moduleOf entry = none ↔ listingId entry = none := by
  simp [moduleOf]

theorem moduleOf_eq_some {entry : Json} {module : Module} (h : moduleOf entry = some module) :
    listingId entry = some module.id := by
  obtain ⟨id, hid, rfl⟩ := Option.map_eq_some_iff.mp h
  exact hid

/-- An entry with an id is an object. -/
theorem isObject_of_listingId {entry id : Json} (h : listingId entry = some id) :
    entry.isObject = true := by
  cases entry with
  | object members => rfl
  | _ => cases h

/-- A plan all of whose entries have an id is accepted. -/
theorem ensureModules_returns
    (hplan : suite.client 0 0 (planRequest arguments.planId) = .ok detail)
    (hmodules : planListings detail ≠ [])
    (hids : ∀ entry ∈ planListings detail, listingId entry ≠ none) :
    (ensureModules suite arguments.planId).Returns
      (.ok ((planListings detail).filterMap moduleOf))
      [.request (planRequest arguments.planId) (.ok detail)] := by
  obtain ⟨first, rest, hentries⟩ :
      ∃ first rest, field detail "modules" = .array (first :: rest) := by
    rw [planListings] at hmodules
    cases hmodules' : field detail "modules" with
    | array entries =>
      rw [hmodules'] at hmodules
      obtain ⟨first, rest, rfl⟩ := List.exists_cons_of_ne_nil hmodules
      exact ⟨first, rest, rfl⟩
    | _ => simp [hmodules'] at hmodules
  have hlistings : planListings detail = first :: rest := by rw [planListings, hentries]
  have hdetail : get detail "modules" = .ok (.array (first :: rest)) := by
    rw [get_eq_ok]
    refine ⟨?_, hentries⟩
    cases detail with
    | object members => rfl
    | _ => simp [field, Json.get, Json.asObject] at hentries
  have hnormalized : (first :: rest).mapM normalizeModule =
      .ok ((first :: rest).map moduleOf) := by
    rw [mapM_eq_ok normalizeModule_eq_ok]
    refine ⟨fun entry hentry => ?_, rfl⟩
    obtain ⟨id, hid⟩ := Option.ne_none_iff_exists'.mp (hids entry (hlistings ▸ hentry))
    exact isObject_of_listingId hid
  have hsome : ((first :: rest).filterMap (id ∘ moduleOf)).isEmpty = false := by
    obtain ⟨module, hmodule⟩ := Option.ne_none_iff_exists'.mp
      (fun hnone => hids first (hlistings ▸ List.mem_cons_self) (moduleOf_eq_none.mp hnone))
    simp [hmodule]
  rw [hlistings, ensureModules]
  have hrun := (returns_call.mpr ⟨hplan, rfl⟩ : (call suite 0 0 _).Returns _ _)
  refine Logged.returns_bind_ok.mpr ⟨_, _, [], hrun, ?_, (List.append_nil _).symm⟩
  rw [hdetail]
  simp only [orElse, truthy, iterate]
  refine Logged.returns_bind_ok.mpr ⟨_, [], [], Logged.returns_result.mpr ⟨rfl, rfl⟩, ?_, rfl⟩
  refine Logged.returns_bind_ok.mpr ⟨_, [], [], Logged.returns_result.mpr ⟨rfl, rfl⟩, ?_, rfl⟩
  refine Logged.returns_bind_ok.mpr
    ⟨_, [], [], Logged.returns_result.mpr ⟨hnormalized, rfl⟩, ?_, rfl⟩
  rw [List.filterMap_map, hsome]
  exact Logged.returns_pure.mpr ⟨rfl, rfl⟩

/-- A run that drives every module has got answers from which nothing escapes. -/
theorem AllDriven.answered (hkeep : arguments.failFast = false)
    (hplan : suite.client 0 0 (planRequest arguments.planId) = .ok detail)
    (h : AllDriven suite arguments detail) {i : ℕ} {entry : Json}
    (hi : (planListings detail)[i]? = some entry) :
    ∃ id, listingId entry = some id ∧ Answered suite arguments (i + 1) id := by
  obtain ⟨fuel, success, segments, hrun, hdriven, _⟩ := h
  have hids : ∀ entry ∈ planListings detail, ∃ id, listingId entry = some id := by
    intro entry hentry
    obtain ⟨_, id, hid, _⟩ := exists_forall₂_iff.mp ⟨segments, hdriven⟩ entry hentry
    exact ⟨id, hid⟩
  have hkept : ∀ entry ∈ planListings detail, moduleOf entry ≠ none := by
    intro entry hentry hnone
    obtain ⟨id, hid⟩ := hids entry hentry
    exact absurd (moduleOf_eq_none.mp hnone) (by simp [hid])
  obtain ⟨module, hmodule⟩ := Option.ne_none_iff_exists'.mp (hkept entry (List.mem_of_getElem? hi))
  obtain ⟨modules, t₁, t₂, hmodules, hdrive, _⟩ := Logged.returns_bind_ok.mp hrun
  obtain ⟨detail', hplan', rfl, _⟩ := ensureModules_ok hmodules
  obtain rfl : detail = detail' := by simpa [hplan] using hplan'
  refine ⟨module.id, moduleOf_eq_some hmodule, ?_⟩
  rw [Nat.add_comm]
  refine driveFrom_answered hkeep hdrive ?_
  rw [getElem?_filterMap_of_forall hkept, hi]
  exact hmodule

/-- With answers from which nothing escapes, a run drives every module. -/
theorem allDriven_of_answered (herrors : RaisesRuntimeErrors suite) (hclock : ClockAdvances suite)
    (hkeep : arguments.failFast = false)
    (hplan : suite.client 0 0 (planRequest arguments.planId) = .ok detail)
    (hmodules : planListings detail ≠ [])
    (h : ∀ i entry, (planListings detail)[i]? = some entry →
      ∃ id, listingId entry = some id ∧ Answered suite arguments (i + 1) id) :
    AllDriven suite arguments detail := by
  have hids : ∀ entry ∈ planListings detail, listingId entry ≠ none := by
    intro entry hentry
    obtain ⟨i, hi⟩ := List.mem_iff_getElem?.mp hentry
    obtain ⟨id, hid, _⟩ := h i entry hi
    simp [hid]
  have hkept : ∀ entry ∈ planListings detail, moduleOf entry ≠ none :=
    fun entry hentry => fun hnone => hids entry hentry (moduleOf_eq_none.mp hnone)
  have hanswered : ∀ i module, ((planListings detail).filterMap moduleOf)[i]? = some module →
      Answered suite arguments (1 + i) module.id := by
    intro i module hi
    rw [getElem?_filterMap_of_forall hkept, Option.bind_eq_some_iff] at hi
    obtain ⟨entry, hentry, hmodule⟩ := hi
    obtain ⟨id, hid, hanswered⟩ := h i entry hentry
    obtain rfl : id = module.id := by simpa [hid] using moduleOf_eq_some hmodule
    rwa [Nat.add_comm]
  obtain ⟨fuel, success, t, hdrive⟩ :=
    driveFrom_returns true herrors hclock hkeep hanswered
  obtain ⟨segments, rfl, hsegments, hpassed⟩ := driveFrom_segments hdrive
  refine ⟨fuel, success, segments, (ensureModules_returns hplan hmodules hids).bind hdrive, ?_, ?_⟩
  · refine ((forall₂_filterMap_left hkept).mp hsegments).imp ?_
    intro entry segment hsegment
    obtain ⟨module, hmodule, _, _, _, hrun⟩ := hsegment
    exact ⟨module.id, moduleOf_eq_some hmodule, driveModule_driven hrun⟩
  · intro htrue
    refine ((forall₂_filterMap_left hkept).mp (hpassed htrue).2).imp ?_
    intro entry segment hsegment
    obtain ⟨module, hmodule, hmodulePassed⟩ := hsegment
    exact ⟨module.id, moduleOf_eq_some hmodule, hmodulePassed⟩

end Plan

/-- Without `fail_fast`, and with nothing but `RuntimeError`s raised, every module of the
plan is driven and counted exactly if every entry has an id and the answers during its
listing are such that nothing escapes: the query answered, a start that works where one is
made, and polls that can be read. -/
theorem driveModules_allDriven_iff (suite : Suite) (arguments : Arguments)
    (hkeep : arguments.failFast = false) (herrors : RaisesRuntimeErrors suite)
    (hclock : ClockAdvances suite) {detail : Json}
    (hplan : suite.client 0 0 (planRequest arguments.planId) = .ok detail)
    (hmodules : planListings detail ≠ []) :
    AllDriven suite arguments detail ↔
      ∀ i entry, (planListings detail)[i]? = some entry →
        ∃ id, listingId entry = some id ∧ Answered suite arguments (i + 1) id :=
  ⟨fun h _ _ hi => h.answered hkeep hplan hi,
    allDriven_of_answered herrors hclock hkeep hplan hmodules⟩

theorem sampleSuite_raises : RaisesRuntimeErrors sampleSuite := by
  apply raisesRuntimeErrors_of_caught
  · intro listing asked request
    refine .ite (caught_ok _) (.ite (caught_runtimeError _) (.ite (caught_ok _) ?_))
    exact .ite (caught_ok _) (.ite (caught_ok _) (caught_ok _))
  · intro listing url payload
    exact caught_ok ()

theorem sampleSuite_clock : ClockAdvances sampleSuite := by
  intro listing
  refine ⟨449, ?_⟩
  simp only [sampleSuite]
  norm_num

def sampleDetail : Json := .object [("modules", .array [.object [("id", .string "m1")]])]

theorem driveModules_allDriven_iff_sample :
    AllDriven sampleSuite sampleArguments sampleDetail ↔
      ∀ i entry, (planListings sampleDetail)[i]? = some entry →
        ∃ id, listingId entry = some id ∧ Answered sampleSuite sampleArguments (i + 1) id :=
  driveModules_allDriven_iff sampleSuite sampleArguments rfl sampleSuite_raises sampleSuite_clock
    rfl (by simp [sampleDetail, planListings, field, Json.get, Json.asObject])

/-- A suite that cannot tell the state of the first of two modules. -/
def gatewaySuite : Suite where
  client _ _ request :=
    if request.path = "/api/plan/p1" then
      .ok (.object [("modules", .array
        [.object [("id", .string "m1")], .object [("id", .string "m2")]])])
    else if request.path = "/api/info/m1" then .error (.runtimeError "502 Bad Gateway")
    else .ok (.object [("status", .string "FINISHED"), ("result", .string "PASSED")])
  triggerRp _ _ _ := .ok ()
  time _ asked := 2 * asked
  str value := value.asStr.getD "None"
  urljoin base path := base ++ path

/-- One query that fails ends the run: the second module is not looked at. -/
theorem not_allDriven_gateway :
    sampleArguments.failFast = false ∧ RaisesRuntimeErrors gatewaySuite ∧
      ClockAdvances gatewaySuite ∧
      ∃ detail, gatewaySuite.client 0 0 (planRequest sampleArguments.planId) = .ok detail ∧
        planListings detail ≠ [] ∧ ¬ AllDriven gatewaySuite sampleArguments detail := by
  refine ⟨rfl, raisesRuntimeErrors_of_caught ?_ ?_, ?_, _, rfl, ?_, ?_⟩
  · intro listing asked request
    exact .ite (caught_ok _) (.ite (caught_runtimeError _) (caught_ok _))
  · intro listing url payload
    exact caught_ok ()
  · intro listing
    refine ⟨449, ?_⟩
    simp only [gatewaySuite]
    norm_num
  · simp [planListings, field, Json.get, Json.asObject]
  · intro h
    obtain ⟨id, hid, info, hinfo, _⟩ := h.answered rfl rfl (i := 0) rfl
    obtain rfl : Json.string "m1" = id := Option.some.inj hid
    cases hinfo

end GreenticConformance.HostedPlan
