import GreenticConformance.Checks.Guards
import GreenticConformance.HostedPlan.Driver

/-!
# What happens during a listing

One lemma for each function of the driver says what it does when it returns.

## Main definitions

- `listingId`, `planListings` — what a plan lists
- `Starts` — the two tests for a start
- `Finished`, `EndsFinished` — a module that ended as it should

## Main results

- `driveModule_ok` — the parts of a listing
- `pollModule_logs`, `pollModule_true` — what a poll does, and what a good one has read
-/

namespace GreenticConformance.HostedPlan

open Checks Host Runs

/-! ## Reading values -/

/-- A member of an object, `null` if there is none. -/
def field (value : Json) (key : String) : Json := (value.get key).getD .null

theorem get_eq_ok {value : Json} {key : String} {v : Json} :
    get value key = .ok v ↔ value.isObject = true ∧ field value key = v := by
  cases value <;> simp [get, field, Json.get, Json.isObject, Json.asObject]

theorem isString_iff {value : Json} {s : String} : isString value s = true ↔ value = .string s := by
  cases value <;> simp [isString, Json.asStr]

theorem isIn_eq_ok {value : Json} {names : List String} :
    isIn value names = .ok true ↔ ∃ s ∈ names, value = .string s := by
  cases value <;> simp [isIn]

/-- The id of an entry, the first of three members that is set. -/
def listingId (entry : Json) : Option Json :=
  ([field entry "moduleId", field entry "id", field entry "_id"]).find? truthy

/-- The entries of a plan. -/
def planListings (detail : Json) : List Json :=
  match field detail "modules" with
  | .array entries => entries
  | _ => []

/-! ## The parts of a listing -/

section Parts

variable {suite : Suite} {fuel listing n : ℕ} {moduleId status : Json} {failFast : Bool}
  {t : List Event} {deadline : ℚ} {arguments : Arguments} {issuer : String}

theorem returns_call {request : Request} {r : Except Raised Json} :
    (call suite listing n request).Returns r t ↔
      suite.client listing n request = r ∧ t = [.request request r] := by
  rw [call, Logged.returns_ask]
  constructor
  · rintro ⟨rfl, rfl⟩
    exact ⟨rfl, rfl⟩
  · rintro ⟨rfl, rfl⟩
    exact ⟨rfl, rfl⟩

/-- The module is started before its login is triggered. -/
def needsStart (status : Json) : Bool := isString status "CREATED" || isString status "CONFIGURED"

/-- What a start that succeeds does: a call, and another one if the first fails. -/
theorem startModule_ok {reply : Json} :
    (startModule suite listing moduleId).Returns (.ok reply) t ↔
      (suite.client listing 0 (startRequest suite moduleId) = .ok reply ∧
        t = [.request (startRequest suite moduleId) (.ok reply)]) ∨
      ∃ message, suite.client listing 0 (startRequest suite moduleId) =
          .error (.runtimeError message) ∧
        suite.client listing 0 (startAgainRequest suite moduleId) = .ok reply ∧
        t = [.request (startRequest suite moduleId) (.error (.runtimeError message)),
          .request (startAgainRequest suite moduleId) (.ok reply)] := by
  rw [startModule, Logged.returns_catching_ok]
  apply or_congr returns_call
  constructor
  · rintro ⟨e, t₁, t₂, h₁, h₂, rfl⟩
    cases e with
    | runtimeError message =>
      rw [returns_call] at h₁ h₂
      exact ⟨message, h₁.1, h₂.1, by rw [h₁.2, h₂.2]; rfl⟩
    | _ => simp at h₂
  · rintro ⟨message, h₁, h₂, rfl⟩
    exact ⟨.runtimeError message, [_], [_], returns_call.mpr ⟨h₁, rfl⟩,
      returns_call.mpr ⟨h₂, rfl⟩, rfl⟩

/-- The two tests for a start, one after the other. -/
def Starts (suite : Suite) (listing : ℕ) (moduleId status started : Json) (t : List Event) : Prop :=
  if needsStart status then started = .string "WAITING" ∧
    ∃ reply, (startModule suite listing moduleId).Returns (.ok reply) t
  else started = status ∧ t = []

theorem startFrom_ok {stage : String} {started : Json} :
    (startFrom suite listing moduleId stage status).Returns (.ok started) t ↔
      if isString status stage then started = .string "WAITING" ∧
        ∃ reply, (startModule suite listing moduleId).Returns (.ok reply) t
      else started = status ∧ t = [] := by
  unfold startFrom
  by_cases h : isString status stage
  · simp only [h, if_true, Logged.returns_bind_ok, Logged.returns_pure, Except.ok.injEq]
    constructor
    · rintro ⟨reply, t₁, _, hstart, ⟨rfl, rfl⟩, rfl⟩
      exact ⟨rfl, reply, by rwa [List.append_nil]⟩
    · rintro ⟨rfl, reply, hstart⟩
      exact ⟨reply, t, [], hstart, ⟨rfl, rfl⟩, (List.append_nil t).symm⟩
  · simp [h, eq_comm]

theorem starts_iff {started : Json} :
    Starts suite listing moduleId status started t ↔ ∃ mid t₁ t₂,
      (startFrom suite listing moduleId "CREATED" status).Returns (.ok mid) t₁ ∧
      (startFrom suite listing moduleId "CONFIGURED" mid).Returns (.ok started) t₂ ∧
      t = t₁ ++ t₂ := by
  simp only [startFrom_ok, Starts, needsStart, Bool.or_eq_true]
  have hwaiting : isString (.string "WAITING") "CONFIGURED" = false := by decide
  by_cases hcreated : isString status "CREATED"
  · simp only [hcreated, true_or, if_true]
    constructor
    · rintro ⟨hs, hstart⟩
      exact ⟨_, t, [], ⟨rfl, hstart⟩, by simp [hwaiting, hs], by simp⟩
    · rintro ⟨mid, t₁, t₂, ⟨rfl, hstart⟩, h₂, rfl⟩
      simp only [hwaiting, Bool.false_eq_true, if_false] at h₂
      exact ⟨h₂.1, by rw [h₂.2, List.append_nil]; exact hstart⟩
  · simp only [hcreated, Bool.false_eq_true, false_or, if_false]
    constructor
    · intro h
      exact ⟨status, [], t, ⟨rfl, rfl⟩, h, rfl⟩
    · rintro ⟨mid, t₁, t₂, ⟨rfl, rfl⟩, h₂, rfl⟩
      exact h₂

/-- What `attempt` makes of a program: its value, or nothing if it raised. -/
theorem attempt_ok {α : Type} {x : Driver α} {o : Option α} :
    (attempt failFast x).Returns (.ok o) t ↔
      (∃ a, o = some a ∧ x.Returns (.ok a) t) ∨
      o = none ∧ failFast = false ∧ ∃ message, x.Returns (.error (.runtimeError message)) t := by
  rw [attempt, Logged.returns_catching_ok]
  apply or_congr
  · simp only [Logged.returns_bind_ok, Logged.returns_pure, Except.ok.injEq]
    constructor
    · rintro ⟨a, t₁, _, hx, ⟨rfl, rfl⟩, rfl⟩
      exact ⟨a, rfl, by rwa [List.append_nil]⟩
    · rintro ⟨a, rfl, hx⟩
      exact ⟨a, t, [], hx, ⟨rfl, rfl⟩, (List.append_nil t).symm⟩
  · simp only [Logged.returns_bind_pure_error]
    constructor
    · rintro ⟨e, t₁, t₂, hx, hhandler, rfl⟩
      cases e with
      | runtimeError message =>
        cases failFast with
        | true => simp at hhandler
        | false =>
          simp only [Bool.false_eq_true, if_false, Logged.returns_pure, Except.ok.injEq] at hhandler
          exact ⟨hhandler.1.symm, rfl, message, by rwa [hhandler.2, List.append_nil]⟩
      | _ => simp at hhandler
    · rintro ⟨rfl, rfl, message, hx⟩
      exact ⟨.runtimeError message, t, [], hx, ⟨rfl, rfl⟩, (List.append_nil t).symm⟩

/-- The payload that triggers the login of a module. -/
def loginPayload (arguments : Arguments) (issuer : String) (moduleId : Json) : TriggerPayload :=
  ⟨moduleId, arguments.clientAlias, issuer⟩

/-- What the trigger of a module does, when it does not raise. -/
theorem triggerWaiting_ok {o : Option Unit} :
    (triggerWaiting suite listing arguments issuer moduleId status).Returns (.ok o) t ↔
      if isString status "WAITING" then
        ∃ reply, suite.triggerRp listing arguments.triggerUrl
            (loginPayload arguments issuer moduleId) = reply ∧
          t = [.trigger arguments.triggerUrl (loginPayload arguments issuer moduleId) reply] ∧
          (o = some () ∧ reply = .ok () ∨ o = none ∧ arguments.failFast = false ∧
            ∃ message, reply = .error (.runtimeError message))
      else o = some () ∧ t = [] := by
  unfold triggerWaiting
  by_cases h : isString status "WAITING"
  · simp only [h, if_true, attempt_ok, triggerRp, Logged.returns_ask, loginPayload]
    constructor
    · rintro (⟨_, rfl, hreply, rfl⟩ | ⟨rfl, hff, message, hreply, rfl⟩)
      · exact ⟨_, rfl, rfl, .inl ⟨rfl, hreply⟩⟩
      · exact ⟨_, rfl, rfl, .inr ⟨rfl, hff, message, hreply⟩⟩
    · rintro ⟨_, rfl, rfl, ⟨rfl, hreply⟩ | ⟨rfl, hff, message, hreply⟩⟩
      · exact .inl ⟨(), rfl, hreply, rfl⟩
      · exact .inr ⟨rfl, hff, message, hreply, rfl⟩
  · simp [h, eq_comm]

/-- What is left of a listing after the trigger. -/
theorem pollTriggered_ok {overallSuccess success : Bool} {triggered : Option Unit} :
    (pollTriggered suite fuel listing failFast overallSuccess moduleId triggered).Returns
        (.ok success) t ↔
      (triggered = none ∧ success = false ∧ t = []) ∨
      triggered = some () ∧ ∃ polled,
        (attempt failFast (pollModule suite fuel listing moduleId failFast)).Returns
          (.ok polled) t ∧
        success = polled.elim false fun ok => overallSuccess && ok := by
  cases triggered with
  | none => simp [pollTriggered, eq_comm]
  | some _ =>
    simp only [pollTriggered, Logged.returns_bind_ok, Logged.returns_pure, Except.ok.injEq,
      reduceCtorEq, false_and, false_or, true_and]
    constructor
    · rintro ⟨polled, t₁, _, hpolled, ⟨rfl, rfl⟩, rfl⟩
      exact ⟨polled, by rwa [List.append_nil], rfl⟩
    · rintro ⟨polled, hpolled, rfl⟩
      exact ⟨polled, t, [], hpolled, ⟨rfl, rfl⟩, (List.append_nil t).symm⟩

/-- The parts of a listing that ends without an exception. -/
theorem driveModule_ok {module : Module} {overallSuccess success : Bool} :
    (driveModule suite fuel listing arguments issuer overallSuccess module).Returns
        (.ok success) t ↔
      ∃ info started triggered t₁ t₂ t₃,
        suite.client listing 0 (infoRequest suite module.id) = .ok info ∧
        info.isObject = true ∧
        Starts suite listing module.id (field info "status") started t₁ ∧
        (triggerWaiting suite listing arguments issuer module.id started).Returns
          (.ok triggered) t₂ ∧
        (pollTriggered suite fuel listing arguments.failFast overallSuccess module.id
          triggered).Returns (.ok success) t₃ ∧
        t = .processing module.name module.id ::
          .request (infoRequest suite module.id) (.ok info) :: (t₁ ++ t₂ ++ t₃) := by
  constructor
  · intro h
    rw [driveModule] at h
    obtain ⟨_, _, _, hnote, h₁, rfl⟩ := Logged.returns_bind_ok.mp h
    obtain ⟨info, _, _, hinfo, h₂, rfl⟩ := Logged.returns_bind_ok.mp h₁
    obtain ⟨status, _, _, hstatus, h₃, rfl⟩ := Logged.returns_bind_ok.mp h₂
    obtain ⟨mid, t₁, _, hmid, h₄, rfl⟩ := Logged.returns_bind_ok.mp h₃
    obtain ⟨started, t₂, _, hstarted, h₅, rfl⟩ := Logged.returns_bind_ok.mp h₄
    obtain ⟨triggered, t₃, t₄, htriggered, hpolls, rfl⟩ := Logged.returns_bind_ok.mp h₅
    rw [Logged.returns_note] at hnote
    rw [returns_call] at hinfo
    rw [Logged.returns_result, get_eq_ok] at hstatus
    obtain ⟨⟨hobject, rfl⟩, rfl⟩ := hstatus
    refine ⟨info, started, triggered, t₁ ++ t₂, t₃, t₄, hinfo.1, hobject,
      starts_iff.mpr ⟨mid, t₁, t₂, hmid, hstarted, rfl⟩, htriggered, hpolls, ?_⟩
    simp [hnote.2, hinfo.2]
  · intro h
    obtain ⟨info, started, triggered, _, t₃, t₄, hinfo, hobject, hstarts, htriggered, hpolls,
      rfl⟩ := h
    obtain ⟨mid, t₁, t₂, hmid, hstarted, rfl⟩ := starts_iff.mp hstarts
    have hstatus : (Logged.result (get info "status") : Driver Json).Returns
        (.ok (field info "status")) [] :=
      Logged.returns_result.mpr ⟨get_eq_ok.mpr ⟨hobject, rfl⟩, rfl⟩
    suffices hrun : (driveModule suite fuel listing arguments issuer overallSuccess module).Returns
        (.ok success) ([.processing module.name module.id] ++
          ([.request (infoRequest suite module.id) (.ok info)] ++
            ([] ++ (t₁ ++ (t₂ ++ (t₃ ++ t₄)))))) by
      simpa using hrun
    exact (Logged.returns_note.mpr ⟨rfl, rfl⟩).bind <| (returns_call.mpr ⟨hinfo, rfl⟩).bind <|
      hstatus.bind <| hmid.bind <| hstarted.bind <| htriggered.bind hpolls

end Parts

/-! ## Polling -/

section Polling

variable {suite : Suite} {fuel listing n : ℕ} {moduleId status outcome : Json} {failFast : Bool}
  {t : List Event} {deadline : ℚ}

/-- What a poll does: it looks at the clock and at the module. -/
def IsPoll (suite : Suite) (moduleId : Json) (e : Event) : Prop :=
  (∃ reading, e = .time reading) ∨ ∃ reply, e = .request (infoRequest suite moduleId) reply

theorem pollLoop_logs {lastStatus : Json} :
    (pollLoop suite listing moduleId failFast deadline fuel n lastStatus).Logs
      (IsPoll suite moduleId) := by
  induction fuel generalizing n lastStatus with
  | zero => exact Logged.logs_stall
  | succ fuel ih =>
    have hnot (message : String) : (notPassed failFast message).Logs (IsPoll suite moduleId) := by
      cases failFast <;> exact Logged.logs_result
    rw [pollLoop]
    refine .bind (Logged.logs_ask (.inl ⟨_, rfl⟩)) fun reading => ?_
    by_cases hdeadline : reading < deadline
    · rw [if_pos hdeadline]
      refine .bind (Logged.logs_ask (.inr ⟨_, rfl⟩)) fun info => ?_
      refine .bind Logged.logs_result fun status => .bind Logged.logs_result fun outcome => ?_
      refine .bind Logged.logs_result fun stopped => ?_
      cases stopped with
      | true =>
        rw [if_pos rfl, ended]
        refine .bind Logged.logs_result fun acceptable => ?_
        cases acceptable with
        | true => exact Logged.logs_result
        | false => exact hnot _
      | false => exact ih
    · rw [if_neg hdeadline]
      exact hnot _

theorem pollModule_logs :
    (pollModule suite fuel listing moduleId failFast).Logs (IsPoll suite moduleId) :=
  Logged.Logs.bind (Logged.logs_ask (.inl ⟨_, rfl⟩)) fun _ => pollLoop_logs

/-- The module has ended as it should. -/
def Finished (info : Json) : Prop :=
  field info "status" = .string "FINISHED" ∧
    ∃ outcome ∈ acceptableResults, field info "result" = .string outcome

theorem notPassed_ok {message : String} {success : Bool} :
    (notPassed failFast message).Returns (.ok success) t ↔
      failFast = false ∧ success = false ∧ t = [] := by
  cases failFast <;> simp [notPassed, eq_comm]

theorem isAcceptable_true : isAcceptable status outcome = .ok true ↔
    status = .string "FINISHED" ∧ ∃ s ∈ acceptableResults, outcome = .string s := by
  rw [isAcceptable]
  by_cases h : isString status "FINISHED"
  · rw [if_pos h, isIn_eq_ok, isString_iff.mp h]
    simp
  · have hne : status ≠ .string "FINISHED" := fun heq => h (isString_iff.mpr heq)
    simp [h, hne]

theorem ended_true (h : (ended suite moduleId failFast status outcome).Returns (.ok true) t) :
    status = .string "FINISHED" ∧ (∃ s ∈ acceptableResults, outcome = .string s) ∧ t = [] := by
  rw [ended] at h
  obtain ⟨acceptable, t₁, t₂, h₁, h₂, rfl⟩ := Logged.returns_bind_ok.mp h
  rw [Logged.returns_result] at h₁
  cases acceptable with
  | false => exact absurd (notPassed_ok.mp h₂).2.1 (by decide)
  | true =>
    rw [if_pos rfl, Logged.returns_pure] at h₂
    obtain ⟨hfinished, houtcome⟩ := isAcceptable_true.mp h₁.1
    exact ⟨hfinished, houtcome, by rw [h₁.2, h₂.2]; rfl⟩

/-- What was read last is that the module ended as it should. -/
def EndsFinished (suite : Suite) (moduleId : Json) (t : List Event) : Prop :=
  ∃ pre info, t = pre ++ [.request (infoRequest suite moduleId) (.ok info)] ∧ Finished info

theorem EndsFinished.append {t₁ : List Event} (h : EndsFinished suite moduleId t) :
    EndsFinished suite moduleId (t₁ ++ t) := by
  obtain ⟨pre, info, rfl, hfinished⟩ := h
  exact ⟨t₁ ++ pre, info, (List.append_assoc _ _ _).symm, hfinished⟩

theorem pollLoop_true {lastStatus : Json}
    (h : (pollLoop suite listing moduleId failFast deadline fuel n lastStatus).Returns
      (.ok true) t) : EndsFinished suite moduleId t := by
  induction fuel generalizing n lastStatus t with
  | zero => exact absurd h Logged.not_returns_stall
  | succ fuel ih =>
    rw [pollLoop] at h
    obtain ⟨reading, t₁, t₂, _, h₁, rfl⟩ := Logged.returns_bind_ok.mp h
    by_cases hdeadline : reading < deadline
    · rw [if_pos hdeadline] at h₁
      obtain ⟨info, _, t₃, hinfo, h₂, rfl⟩ := Logged.returns_bind_ok.mp h₁
      obtain ⟨status, _, t₄, hstatus, h₃, rfl⟩ := Logged.returns_bind_ok.mp h₂
      obtain ⟨outcome, _, t₅, houtcome, h₄, rfl⟩ := Logged.returns_bind_ok.mp h₃
      obtain ⟨stopped, _, t₆, hstopped, h₅, rfl⟩ := Logged.returns_bind_ok.mp h₄
      rw [returns_call] at hinfo
      rw [Logged.returns_result, get_eq_ok] at hstatus houtcome
      rw [Logged.returns_result] at hstopped
      cases stopped with
      | true =>
        obtain ⟨hfinished, hacceptable, rfl⟩ := ended_true h₅
        refine ⟨t₁, info, ?_, hstatus.1.2.trans hfinished, ?_⟩
        · rw [hinfo.2, hstatus.2, houtcome.2, hstopped.2]
          rfl
        · obtain ⟨s, hs, houtcome'⟩ := hacceptable
          exact ⟨s, hs, houtcome.1.2.trans houtcome'⟩
      | false => exact (ih h₅).append.append.append.append.append
    · rw [if_neg hdeadline] at h₁
      exact absurd (notPassed_ok.mp h₁).2.1 (by decide)

/-- A poll that succeeds has last read that the module ended as it should. -/
theorem pollModule_true
    (h : (pollModule suite fuel listing moduleId failFast).Returns (.ok true) t) :
    EndsFinished suite moduleId t := by
  obtain ⟨start, t₁, t₂, _, h₁, rfl⟩ := Logged.returns_bind_ok.mp h
  exact (pollLoop_true h₁).append

end Polling

end GreenticConformance.HostedPlan
