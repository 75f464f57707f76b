import GreenticConformance.HostedPlan.Listings

/-!
# No false pass

The log of a run falls into one part for each module that was driven. A run that
reports success has driven every module of the plan to an acceptable end.

## Main definitions

- `statusReads` — what was read of a module
- `Passed` — a listing whose module was driven to an acceptable end

## Main results

- `driveFrom_segments` — the parts of a run
- `driveModules_passed` — a run that reports success
-/

namespace GreenticConformance.HostedPlan

open Checks Host Runs

/-! ## Listings that were passed -/

section Passed

variable {suite : Suite} {fuel listing : ℕ} {arguments : Arguments} {issuer : String}
  {t : List Event}

/-- What was read of a module, in order. -/
def statusReads (suite : Suite) (moduleId : Json) (t : List Event) : List Json :=
  t.filterMap fun
    | .request request (.ok info) =>
      if request = infoRequest suite moduleId then some info else none
    | _ => none

def isTrigger : Event → Bool
  | .trigger .. => true
  | _ => false

def isProcessing : Event → Bool
  | .processing .. => true
  | _ => false

/-- The part of the log that belongs to a module. -/
def Listed (moduleId : Json) (t : List Event) : Prop :=
  ∃ name rest, t = .processing name moduleId :: rest ∧ ∀ e ∈ rest, isProcessing e = false

/-- The login was triggered once and with success, after a start that succeeded unless
the module was waiting for it. -/
def LoggedIn (suite : Suite) (moduleId : Json) (stage : String) (t : List Event) : Prop :=
  ∃ before url payload after, t = before ++ .trigger url payload (.ok ()) :: after ∧
    payload.moduleId = moduleId ∧ (∀ e ∈ before ++ after, isTrigger e = false) ∧
    (stage ≠ "WAITING" →
      ∃ request ∈ [startRequest suite moduleId, startAgainRequest suite moduleId],
        ∃ reply, .request request (.ok reply) ∈ before)

/-- A listing that ended with the module passed. -/
structure Passed (suite : Suite) (moduleId : Json) (t : List Event) : Prop where
  listed : Listed moduleId t
  last : ∃ info, (statusReads suite moduleId t).getLast? = some info ∧ Finished info
  login : ∀ first, (statusReads suite moduleId t).head? = some first →
    ∀ stage ∈ ["CREATED", "CONFIGURED", "WAITING"], field first "status" = .string stage →
      LoggedIn suite moduleId stage t

theorem statusReads_append {moduleId : Json} {t₁ t₂ : List Event} :
    statusReads suite moduleId (t₁ ++ t₂) =
      statusReads suite moduleId t₁ ++ statusReads suite moduleId t₂ :=
  List.filterMap_append

theorem EndsFinished.last {moduleId : Json} (h : EndsFinished suite moduleId t) :
    ∃ info, (statusReads suite moduleId t).getLast? = some info ∧ Finished info := by
  obtain ⟨pre, info, rfl, hfinished⟩ := h
  refine ⟨info, ?_, hfinished⟩
  have hread : statusReads suite moduleId [.request (infoRequest suite moduleId) (.ok info)] =
      [info] := by
    simp [statusReads]
  rw [statusReads_append, hread, List.getLast?_append]
  rfl

/-- A start asks for nothing but a start. -/
def IsStart (suite : Suite) (moduleId : Json) (e : Event) : Prop :=
  ∃ request ∈ [startRequest suite moduleId, startAgainRequest suite moduleId],
    ∃ reply, e = .request request reply

theorem Starts.isStart {moduleId status started : Json}
    (h : Starts suite listing moduleId status started t) :
    ∀ e ∈ t, IsStart suite moduleId e := by
  unfold Starts at h
  by_cases hneeds : needsStart status
  · rw [if_pos hneeds] at h
    obtain ⟨_, reply, hstart⟩ := h
    obtain ⟨_, rfl⟩ | ⟨message, _, _, rfl⟩ := startModule_ok.mp hstart
    · simp [IsStart]
    · simp [IsStart]
  · rw [if_neg hneeds] at h
    simp [h.2]

/-- A module that was started was started by one of the two calls. -/
theorem Starts.exists_ok {moduleId status started : Json}
    (h : Starts suite listing moduleId status started t) (hneeds : needsStart status = true) :
    ∃ request ∈ [startRequest suite moduleId, startAgainRequest suite moduleId],
      ∃ reply, suite.client listing 0 request = .ok reply ∧ .request request (.ok reply) ∈ t := by
  rw [Starts, if_pos hneeds] at h
  obtain ⟨_, reply, hstart⟩ := h
  obtain ⟨hreply, rfl⟩ | ⟨message, _, hreply, rfl⟩ := startModule_ok.mp hstart
  · exact ⟨startRequest suite moduleId, by simp, reply, hreply, by simp⟩
  · exact ⟨startAgainRequest suite moduleId, by simp, reply, hreply, by simp⟩

theorem pollTriggered_isPoll {moduleId : Json} {failFast overallSuccess success : Bool}
    {triggered : Option Unit}
    (h : (pollTriggered suite fuel listing failFast overallSuccess moduleId triggered).Returns
      (.ok success) t) : ∀ e ∈ t, IsPoll suite moduleId e := by
  obtain ⟨_, _, rfl⟩ | ⟨_, polled, hpolled, _⟩ := pollTriggered_ok.mp h
  · simp
  · obtain ⟨ok, _, hrun⟩ | ⟨_, _, message, hrun⟩ := attempt_ok.mp hpolled
    · exact pollModule_logs _ _ hrun
    · exact pollModule_logs _ _ hrun

/-- A listing begins where the driver turns to the module, and only there. -/
theorem driveModule_listed {module : Module} {overallSuccess success : Bool}
    (h : (driveModule suite fuel listing arguments issuer overallSuccess module).Returns
      (.ok success) t) : Listed module.id t := by
  obtain ⟨info, started, triggered, t₁, t₂, t₃, _, _, hstarts, htriggered, hpolls, rfl⟩ :=
    driveModule_ok.mp h
  refine ⟨module.name, _, rfl, ?_⟩
  intro e he
  simp only [List.mem_cons, List.mem_append] at he
  rcases he with rfl | (he | he) | he
  · rfl
  · obtain ⟨_, _, _, rfl⟩ := hstarts.isStart e he
    rfl
  · rw [triggerWaiting_ok] at htriggered
    by_cases hwaiting : isString started "WAITING"
    · rw [if_pos hwaiting] at htriggered
      obtain ⟨reply, _, rfl, _⟩ := htriggered
      rw [List.mem_singleton.mp he]
      rfl
    · rw [if_neg hwaiting] at htriggered
      simp [htriggered.2] at he
  · obtain ⟨_, rfl⟩ | ⟨_, rfl⟩ := pollTriggered_isPoll hpolls e he
    · rfl
    · rfl

/-- After the tests for a start, a module that is to log in waits for it. -/
theorem Starts.waiting {moduleId status started : Json}
    (h : Starts suite listing moduleId status started t) {stage : String}
    (hstage : stage ∈ ["CREATED", "CONFIGURED", "WAITING"]) (hstatus : status = .string stage) :
    started = .string "WAITING" ∧ (stage ≠ "WAITING" → needsStart status = true) := by
  subst hstatus
  simp only [List.mem_cons, List.not_mem_nil, or_false] at hstage
  rcases hstage with rfl | rfl | rfl
  · exact ⟨h.1, fun _ => rfl⟩
  · exact ⟨h.1, fun _ => rfl⟩
  · exact ⟨h.1, fun hne => absurd rfl hne⟩

/-- A trigger that did not fail, of a module that waits for it. -/
theorem triggerWaiting_some {moduleId started : Json} (hstarted : started = .string "WAITING")
    (h : (triggerWaiting suite listing arguments issuer moduleId started).Returns
      (.ok (some ())) t) :
    t = [.trigger arguments.triggerUrl (loginPayload arguments issuer moduleId) (.ok ())] := by
  rw [triggerWaiting_ok, if_pos (isString_iff.mpr hstarted)] at h
  obtain ⟨reply, _, rfl, ⟨_, rfl⟩ | ⟨hnone, _⟩⟩ := h
  · rfl
  · exact absurd hnone (by simp)

/-- A listing that leaves the flag set has found it set, and the module was passed. -/
theorem driveModule_true {module : Module} {overallSuccess : Bool}
    (h : (driveModule suite fuel listing arguments issuer overallSuccess module).Returns
      (.ok true) t) : overallSuccess = true ∧ Passed suite module.id t := by
  have hlisted := driveModule_listed h
  obtain ⟨info, started, triggered, t₁, t₂, t₃, _, _, hstarts, htriggered, hpolls, rfl⟩ :=
    driveModule_ok.mp h
  have hispoll := pollTriggered_isPoll hpolls
  obtain ⟨_, hfalse, _⟩ | ⟨rfl, polled, hpolled, htrue⟩ := pollTriggered_ok.mp hpolls
  · exact absurd hfalse (by decide)
  obtain ⟨ok, rfl, hrun⟩ | ⟨rfl, _⟩ := attempt_ok.mp hpolled
  swap
  · cases htrue
  obtain ⟨hoverall, rfl⟩ := (Bool.and_eq_true _ _).mp htrue.symm
  refine ⟨hoverall, hlisted, ?_, ?_⟩
  · have hends := @EndsFinished.append _ _ _ (.processing module.name module.id ::
      .request (infoRequest suite module.id) (.ok info) :: (t₁ ++ t₂)) (pollModule_true hrun)
    exact hends.last
  · intro first hfirst stage hstage hstatus
    obtain rfl : info = first := by simpa [statusReads] using hfirst
    obtain ⟨hwaiting, hneeds⟩ := hstarts.waiting hstage hstatus
    refine ⟨.processing module.name module.id ::
      .request (infoRequest suite module.id) (.ok info) :: t₁, arguments.triggerUrl,
      loginPayload arguments issuer module.id, t₃, ?_, rfl, ?_, ?_⟩
    · simp [triggerWaiting_some hwaiting htriggered]
    · intro e he
      simp only [List.cons_append, List.mem_cons, List.mem_append] at he
      rcases he with rfl | rfl | he | he
      · rfl
      · rfl
      · obtain ⟨_, _, _, rfl⟩ := hstarts.isStart e he
        rfl
      · obtain ⟨_, rfl⟩ | ⟨_, rfl⟩ := hispoll e he
        · rfl
        · rfl
    · intro hstart
      obtain ⟨request, hrequest, reply, _, hmem⟩ := hstarts.exists_ok (hneeds hstart)
      exact ⟨request, hrequest, reply, by simp [hmem]⟩

/-- The loop's log has one part for each module, and the flag is set at the end only if
it was at the start and every module was passed. -/
theorem driveFrom_segments {modules : List Module} {overallSuccess success : Bool}
    (h : (driveFrom suite fuel arguments issuer listing overallSuccess modules).Returns
      (.ok success) t) :
    ∃ segments, t = segments.flatten ∧
      List.Forall₂ (fun module segment => ∃ listing before after,
        (driveModule suite fuel listing arguments issuer before module).Returns
          (.ok after) segment) modules segments ∧
      (success = true → overallSuccess = true ∧
        List.Forall₂ (fun module segment => Passed suite module.id segment) modules segments) := by
  induction modules generalizing listing overallSuccess t with
  | nil =>
    rw [driveFrom, Logged.returns_pure, Except.ok.injEq] at h
    obtain ⟨rfl, rfl⟩ := h
    exact ⟨[], rfl, .nil, fun htrue => ⟨htrue, .nil⟩⟩
  | cons module modules ih =>
    rw [driveFrom] at h
    obtain ⟨after, t₁, t₂, hmodule, hrest, rfl⟩ := Logged.returns_bind_ok.mp h
    obtain ⟨segments, rfl, hsegments, hpassed⟩ := ih hrest
    refine ⟨t₁ :: segments, rfl, .cons ⟨listing, _, after, hmodule⟩ hsegments, ?_⟩
    intro htrue
    obtain ⟨rfl, hrestPassed⟩ := hpassed htrue
    obtain ⟨hoverall, hmodulePassed⟩ := driveModule_true hmodule
    exact ⟨hoverall, .cons hmodulePassed hrestPassed⟩

end Passed

/-! ## The modules of a plan -/

section Plan

variable {suite : Suite} {fuel : ℕ} {arguments : Arguments} {planId : String} {t : List Event}

/-- What `ensure_modules` keeps of an entry that has an id. -/
def moduleOf (entry : Json) : Option Module :=
  (listingId entry).map fun id =>
    ⟨id, orElse (field entry "testModule") (field entry "name"), field entry "status"⟩

/-- The first of three values that is set, as `or` finds it. -/
theorem find?_truthy (a b c : Json) : ([a, b, c].find? truthy) =
    if truthy (orElse (orElse a b) c) then some (orElse (orElse a b) c) else none := by
  by_cases ha : truthy a
  · simp [orElse, ha]
  · by_cases hb : truthy b
    · simp [orElse, ha, hb]
    · by_cases hc : truthy c
      · simp [orElse, ha, hb, hc]
      · simp [orElse, ha, hb, hc]

theorem normalizeModule_eq_ok (entry : Json) (o : Option Module) :
    normalizeModule entry = .ok o ↔ entry.isObject = true ∧ o = moduleOf entry := by
  have hget (key : String) : get entry key =
      if entry.isObject then .ok (field entry key) else .error .attributeError := by
    cases entry <;> rfl
  rw [moduleOf, listingId, find?_truthy]
  simp only [normalizeModule, hget]
  cases entry.isObject with
  | false => simp [bind, Except.bind]
  | true =>
    simp only [if_true, true_and]
    by_cases hid : truthy (orElse (orElse (field entry "moduleId") (field entry "id"))
        (field entry "_id"))
    · simp [bind, Except.bind, pure, Except.pure, hid, eq_comm]
    · simp [bind, Except.bind, pure, Except.pure, hid, eq_comm]

/-- Only a list has entries that are objects: what else can be gone through gives strings. -/
theorem planListings_of_iterate {detail : Json} {entries : List Json}
    (h : iterate (orElse (field detail "modules") (.array [])) = .ok entries)
    (hobjects : ∀ entry ∈ entries, entry.isObject = true) : planListings detail = entries := by
  rw [planListings]
  cases hmodules : field detail "modules" with
  | array items =>
    rw [hmodules] at h
    cases items with
    | nil => simpa [orElse, truthy, iterate] using h
    | cons item items => simpa [orElse, truthy, iterate] using h
  | object members =>
    rw [hmodules] at h
    cases members with
    | nil => simpa [orElse, truthy, iterate] using h
    | cons member members =>
      simp only [orElse, truthy, List.isEmpty_cons, Bool.not_false, if_true, iterate,
        List.map_cons, Except.ok.injEq] at h
      subst h
      exact absurd (hobjects _ List.mem_cons_self) (by simp [Json.isObject, Json.asObject])
  | string s =>
    rw [hmodules] at h
    by_cases hs : s = ""
    · simpa [orElse, truthy, iterate, hs] using h
    · simp only [orElse, truthy, ne_eq, hs, not_false_eq_true, decide_true, if_true, iterate,
        Except.ok.injEq] at h
      subst h
      cases hchars : s.toList with
      | nil => exact absurd (String.toList_eq_nil_iff.mp hchars) hs
      | cons c cs =>
        rw [hchars] at hobjects
        exact absurd (hobjects _ List.mem_cons_self) (by simp [Json.isObject, Json.asObject])
  | number literal =>
    rw [hmodules] at h
    by_cases hzero : literal = "0"
    · simpa [orElse, truthy, iterate, hzero] using h
    · simp [orElse, truthy, iterate, hzero] at h
  | bool b =>
    rw [hmodules] at h
    cases b with
    | false => simpa [orElse, truthy, iterate] using h
    | true => simp [orElse, truthy, iterate] at h
  | null => simpa [hmodules, orElse, truthy, iterate] using h

/-- A plan that is accepted lists objects, and the modules are those with an id. -/
theorem ensureModules_ok {modules : List Module}
    (h : (ensureModules suite planId).Returns (.ok modules) t) :
    ∃ detail, suite.client 0 0 (planRequest planId) = .ok detail ∧
      modules = (planListings detail).filterMap moduleOf ∧
      t = [.request (planRequest planId) (.ok detail)] := by
  rw [ensureModules] at h
  obtain ⟨detail, _, _, hdetail, h₁, rfl⟩ := Logged.returns_bind_ok.mp h
  obtain ⟨value, _, _, hvalue, h₂, rfl⟩ := Logged.returns_bind_ok.mp h₁
  obtain ⟨entries, _, _, hentries, h₃, rfl⟩ := Logged.returns_bind_ok.mp h₂
  obtain ⟨normalized, _, _, hnormalized, h₄, rfl⟩ := Logged.returns_bind_ok.mp h₃
  rw [returns_call] at hdetail
  rw [Logged.returns_result] at hvalue hentries hnormalized
  rw [get_eq_ok] at hvalue
  obtain ⟨⟨_, rfl⟩, rfl⟩ := hvalue
  obtain ⟨hobjects, rfl⟩ := (mapM_eq_ok normalizeModule_eq_ok).mp hnormalized.1
  rw [List.filterMap_map] at h₄
  by_cases hempty : (entries.filterMap (id ∘ moduleOf)).isEmpty
  · rw [if_pos hempty, Logged.returns_raise] at h₄
    cases h₄.1
  · rw [if_neg hempty, Logged.returns_pure, Except.ok.injEq] at h₄
    refine ⟨detail, hdetail.1, ?_, ?_⟩
    · rw [planListings_of_iterate hentries.1 hobjects]
      exact h₄.1.symm
    · rw [hdetail.2, hentries.2, hnormalized.2, h₄.2]
      rfl

end Plan

/-- A run that reports success: the log of it is the plan and one part for each listing
that has an id, and each of them was passed. -/
theorem driveModules_passed (suite : Suite) (fuel : ℕ) (arguments : Arguments) (t : List Event)
    (h : (driveModules suite fuel arguments).Returns (.ok true) t) :
    ∃ detail segments,
      t = .request (planRequest arguments.planId) (.ok detail) :: segments.flatten ∧
      List.Forall₂ (Passed suite) ((planListings detail).filterMap listingId) segments := by
  rw [driveModules] at h
  obtain ⟨modules, _, _, hmodules, hdrive, rfl⟩ := Logged.returns_bind_ok.mp h
  obtain ⟨detail, _, rfl, rfl⟩ := ensureModules_ok hmodules
  obtain ⟨segments, rfl, _, hpassed⟩ := driveFrom_segments hdrive
  refine ⟨detail, segments, rfl, ?_⟩
  have hids : (planListings detail).filterMap listingId =
      ((planListings detail).filterMap moduleOf).map Module.id := by
    rw [List.map_filterMap]
    congr 1
    funext entry
    simp [moduleOf, Function.comp_def]
  rw [hids, List.forall₂_map_left_iff]
  exact (hpassed rfl).2

/-- A suite with one module, which is started the second way and polled twice. -/
def sampleSuite : Suite where
  client _ asked request :=
    if request.path = "/api/plan/p1" then
      .ok (.object [("modules", .array [.object [("id", .string "m1")]])])
    else if request.path = "/api/runner/m1" then .error (.runtimeError "405")
    else if request.path = "/api/runner/m1/start" then .ok (.object [])
    else if asked = 0 then .ok (.object [("status", .string "CREATED")])
    else if asked = 1 then .ok (.object [("status", .string "RUNNING")])
    else .ok (.object [("status", .string "FINISHED"), ("result", .string "PASSED")])
  triggerRp _ _ _ := .ok ()
  time _ asked := 2 * asked
  str value := value.asStr.getD "None"
  urljoin base path := base ++ path

def sampleArguments : Arguments where
  planId := "p1"
  clientAlias := "rp"
  triggerUrl := "https://rp.test/login"
  serverBase := "https://suite.test"
  failFast := false

theorem driveModules_passed_sample :
    ∃ t, (driveModules sampleSuite 3 sampleArguments).Returns (.ok true) t ∧
      ∃ detail segments,
        t = .request (planRequest "p1") (.ok detail) :: segments.flatten ∧
        List.Forall₂ (Passed sampleSuite) ((planListings detail).filterMap listingId)
          segments := by
  obtain ⟨t, h⟩ := Logged.value_eq_some.mp
    (by decide +kernel : (driveModules sampleSuite 3 sampleArguments).value = some true)
  exact ⟨t, h, driveModules_passed sampleSuite 3 sampleArguments t h⟩

end GreenticConformance.HostedPlan
