import GreenticConformance.HostedPlan.Passed
import GreenticConformance.Runs.Together

/-!
# Stopping at the first failure

With `--fail-fast` the driver raises where it would otherwise note a failure and go on.
Up to there the two runs do the same, so that fail-fast may cut a run short but cannot
turn its verdict around.

## Main definitions

- `Verdict` — a failure of one run, and the exception it is in the other

## Main results

- `driveModule_together` — a listing, under the two settings
- `driveModules_cutShort` — a whole run, under the two settings
-/

namespace GreenticConformance.HostedPlan

open Host Runs Runs.Logged

/-- The outcomes of a listing with and without fail-fast. -/
def Verdict (r s : Except Raised Bool) : Prop :=
  r = s ∧ r ≠ .ok false ∨ (∃ message, r = .error (.runtimeError message)) ∧ s = .ok false

/-- The outcomes of an attempt with and without fail-fast. -/
def Tried (r s : Except Raised (Option Unit)) : Prop :=
  (r = s ∧ r ≠ .ok none) ∨ (∃ message, r = .error (.runtimeError message)) ∧ s = .ok none

namespace Arguments

/-- The arguments with `--fail-fast`. -/
def fast (arguments : Arguments) : Arguments := { arguments with failFast := true }

/-- The arguments without it. -/
def slow (arguments : Arguments) : Arguments := { arguments with failFast := false }

end Arguments

section

variable {suite : Suite} {fuel listing n : ℕ} {moduleId status outcome : Json}
  {arguments : Arguments} {issuer message : String}

theorem verdict_true : Verdict (.ok true) (.ok true) := .inl ⟨rfl, by simp⟩

theorem verdict_error (e : Raised) : Verdict (.error e) (.error e) := .inl ⟨rfl, by simp⟩

theorem verdict_raised (message : String) :
    Verdict (.error (.runtimeError message)) (.ok false) := .inr ⟨⟨message, rfl⟩, rfl⟩

/-! ## A poll -/

theorem notPassed_together : Together Verdict (notPassed true message) (notPassed false message) :=
  together_result (verdict_raised message)

theorem ended_together :
    Together Verdict (ended suite moduleId true status outcome)
      (ended suite moduleId false status outcome) := by
  refine together_bind_self _ verdict_error fun acceptable => ?_
  cases acceptable with
  | true => exact together_result verdict_true
  | false => exact notPassed_together

theorem pollLoop_together {deadline : ℚ} {lastStatus : Json} :
    Together Verdict (pollLoop suite listing moduleId true deadline fuel n lastStatus)
      (pollLoop suite listing moduleId false deadline fuel n lastStatus) := by
  induction fuel generalizing n lastStatus with
  | zero => exact .stall
  | succ fuel ih =>
    refine together_bind_self _ verdict_error fun reading => ?_
    by_cases hlt : reading < deadline
    · rw [if_pos hlt, if_pos hlt]
      refine together_bind_self _ verdict_error fun info => ?_
      refine together_bind_self _ verdict_error fun status => ?_
      refine together_bind_self _ verdict_error fun outcome => ?_
      refine together_bind_self _ verdict_error fun stopped => ?_
      cases stopped with
      | true => exact ended_together
      | false => exact ih
    · rw [if_neg hlt, if_neg hlt]
      exact notPassed_together

theorem pollModule_together :
    Together Verdict (pollModule suite fuel listing moduleId true)
      (pollModule suite fuel listing moduleId false) :=
  together_bind_self _ verdict_error fun _ => pollLoop_together

/-! ## A listing -/

/-- What fail-fast raises again, the other run takes for nothing. -/
theorem attempt_together {x : Driver Unit} : Together Tried (attempt true x) (attempt false x) := by
  have hvalue : Together (fun r s => r = s ∧ r ≠ .ok none)
      (do let a ← x; pure (some a)) (do let a ← x; pure (some a)) := by
    refine together_bind_self x (fun e => ⟨rfl, by simp⟩) fun a => ?_
    exact together_result ⟨rfl, by simp⟩
  refine hvalue.catching ?_
  rintro r s ⟨rfl, hsome⟩
  match r with
  | .ok o => exact together_result (.inl ⟨rfl, hsome⟩)
  | .error (.runtimeError message) => exact together_result (.inr ⟨⟨message, rfl⟩, rfl⟩)
  | .error .attributeError => exact together_result (.inl ⟨rfl, by simp⟩)
  | .error .typeError => exact together_result (.inl ⟨rfl, by simp⟩)
  | .error (.other _) => exact together_result (.inl ⟨rfl, by simp⟩)

theorem triggerWaiting_together {started : Json} :
    Together Tried (triggerWaiting suite listing arguments.fast issuer moduleId started)
      (triggerWaiting suite listing arguments.slow issuer moduleId started) := by
  unfold triggerWaiting
  by_cases hwaiting : isString started "WAITING"
  · rw [if_pos hwaiting, if_pos hwaiting]
    exact attempt_together
  · rw [if_neg hwaiting, if_neg hwaiting]
    exact together_result (.inl ⟨rfl, by simp⟩)

/-- What a poll that was attempted makes of the flag, which was set before. -/
def flagOf (polled : Option Bool) : Bool := polled.elim false fun ok => true && ok

/-- An exception of another class is raised under both settings. -/
theorem error_of_other {e : Raised} {s : Except Raised (Option Bool)}
    (he : ∀ message, e ≠ .runtimeError message) (h : Verdict (.error e) (s.map flagOf)) :
    s = .error e := by
  obtain ⟨heq, _⟩ | ⟨⟨message, hraised⟩, _⟩ := h
  · cases s with
    | ok o => cases heq
    | error e' =>
      cases heq
      rfl
  · exact absurd (Except.error.inj hraised) (he message)

theorem attempt_poll_together {x y : Driver Bool} (h : Together Verdict x y) :
    Together (fun r s => Verdict (r.map flagOf) (s.map flagOf)) (attempt true x)
      (attempt false y) := by
  have hvalue : Together (fun r s => Verdict (r.map flagOf) (s.map flagOf))
      (do let a ← x; pure (some a)) (do let a ← y; pure (some a)) := by
    refine h.bind ?_
    rintro r s (⟨rfl, htrue⟩ | ⟨⟨message, rfl⟩, rfl⟩)
    · match r with
      | .ok true => exact together_result verdict_true
      | .ok false => exact absurd rfl htrue
      | .error e => exact together_result (verdict_error e)
    · exact together_result (verdict_raised message)
  refine hvalue.catching ?_
  intro r s hverdict
  match r, s with
  | .ok o, .ok o' => exact together_result hverdict
  | .ok o, .error e => exact absurd hverdict (by simp [Verdict, Except.map])
  | .error (.runtimeError message), .ok o => exact together_result hverdict
  | .error (.runtimeError message), .error e =>
    obtain ⟨heq, _⟩ | ⟨_, hfalse⟩ := hverdict
    · cases heq
      exact together_result (verdict_raised message)
    · cases hfalse
  | .error .attributeError, s =>
    obtain rfl := error_of_other (by simp) hverdict
    exact together_result (verdict_error _)
  | .error .typeError, s =>
    obtain rfl := error_of_other (by simp) hverdict
    exact together_result (verdict_error _)
  | .error (.other _), s =>
    obtain rfl := error_of_other (by simp) hverdict
    exact together_result (verdict_error _)

theorem pollTriggered_together :
    Together Verdict (pollTriggered suite fuel listing true true moduleId (some ()))
      (pollTriggered suite fuel listing false true moduleId (some ())) := by
  refine (attempt_poll_together pollModule_together).bind ?_
  intro r s hverdict
  match r, s with
  | .ok o, .ok o' => exact together_result hverdict
  | .ok o, .error e => exact together_result hverdict
  | .error e, .ok o => exact together_result hverdict
  | .error e, .error e' => exact together_result hverdict

theorem driveModule_together {module : Module} :
    Together Verdict (driveModule suite fuel listing arguments.fast issuer true module)
      (driveModule suite fuel listing arguments.slow issuer true module) := by
  refine together_bind_self _ verdict_error fun _ => ?_
  refine together_bind_self _ verdict_error fun info => ?_
  refine together_bind_self _ verdict_error fun status => ?_
  refine together_bind_self _ verdict_error fun status => ?_
  refine together_bind_self _ verdict_error fun status => ?_
  refine triggerWaiting_together.bind ?_
  rintro r s (⟨rfl, hsome⟩ | ⟨⟨message, rfl⟩, rfl⟩)
  · match r with
    | .ok (some ()) => exact pollTriggered_together
    | .ok none => exact absurd rfl hsome
    | .error e => exact together_result (verdict_error e)
  · exact together_result (verdict_raised message)

/-! ## A run -/

/-- A loop that has seen a failure does not report success. -/
theorem driveFrom_false {modules : List Module} {r : Except Raised Bool} {t : List Event}
    (h : (driveFrom suite fuel arguments issuer listing false modules).Returns r t) :
    r ≠ .ok true := by
  rintro rfl
  obtain ⟨_, _, _, htrue⟩ := driveFrom_segments h
  exact absurd (htrue rfl).1 (by decide)

/-- What the log of one run says about another one. -/
structure CutShort (x y : Driver Bool) : Prop where
  returns : ∀ s u, y.Returns s u → ∃ r t, x.Returns r t
  verdict : ∀ r t, x.Returns r t → r ≠ .ok false ∧ (y.Returns r t ∨
    (∃ message, r = .error (.runtimeError message)) ∧
      ∀ s u, y.Returns s u → t <+: u ∧ s ≠ .ok true)

theorem cutShort_bind_self {α : Type} {f g : α → Driver Bool} {x : Driver α}
    (h : ∀ a t, x.Returns (.ok a) t → CutShort (f a) (g a)) : CutShort (x >>= f) (x >>= g) := by
  constructor
  · intro s u hy
    obtain ⟨e, rfl, herror⟩ | ⟨a, t₁, t₂, hok, hnext, rfl⟩ := returns_bind.mp hy
    · exact ⟨_, _, herror.bind_error⟩
    · obtain ⟨r, t, hx⟩ := (h a t₁ hok).returns s t₂ hnext
      exact ⟨r, _, hok.bind hx⟩
  · intro r t hx
    obtain ⟨e, rfl, herror⟩ | ⟨a, t₁, t₂, hok, hnext, rfl⟩ := returns_bind.mp hx
    · exact ⟨by simp, .inl herror.bind_error⟩
    · obtain ⟨htrue, hsame | ⟨hraised, hlonger⟩⟩ := (h a t₁ hok).verdict r t₂ hnext
      · exact ⟨htrue, .inl (hok.bind hsame)⟩
      · refine ⟨htrue, .inr ⟨hraised, ?_⟩⟩
        intro s u hy
        obtain ⟨e, rfl, herror⟩ | ⟨b, u₁, u₂, hok', hnext', rfl⟩ := returns_bind.mp hy
        · cases (hok.unique herror).1
        · obtain ⟨heq, rfl⟩ := hok.unique hok'
          cases heq
          obtain ⟨hpart, hfalse⟩ := hlonger s u₂ hnext'
          exact ⟨(List.prefix_append_right_inj t₁).mpr hpart, hfalse⟩

/-- After the first failure only one of the two goes on. -/
theorem cutShort_bind {x y : Driver Bool} {f g : Bool → Driver Bool} (h : Together Verdict x y)
    (htrue : CutShort (f true) (g true)) (hfalse : ∀ r t, (g false).Returns r t → r ≠ .ok true) :
    CutShort (x >>= f) (y >>= g) := by
  cases h with
  | stall => exact cutShort_bind_self fun _ _ h => absurd h not_returns_stall
  | @both r s t hverdict =>
    obtain ⟨rfl, hne⟩ | ⟨⟨message, rfl⟩, rfl⟩ := hverdict
    · refine cutShort_bind_self fun a u hok => ?_
      obtain ⟨rfl, _⟩ := hok
      cases a with
      | true => exact htrue
      | false => exact absurd rfl hne
    · have hraised : (done (.error (.runtimeError message)) t >>= f).Returns
          (.error (.runtimeError message)) t := Returns.bind_error ⟨rfl, rfl⟩
      refine ⟨fun _ _ _ => ⟨_, _, hraised⟩, ?_⟩
      intro r u hx
      obtain ⟨rfl, rfl⟩ := hraised.unique hx
      refine ⟨by simp, .inr ⟨⟨message, rfl⟩, ?_⟩⟩
      intro s v hy
      rw [done_bind] at hy
      obtain ⟨v', hnext, rfl⟩ := returns_after.mp hy
      exact ⟨List.prefix_append t v', hfalse s v' hnext⟩

theorem driveFrom_cutShort {modules : List Module} :
    CutShort (driveFrom suite fuel arguments.fast issuer listing true modules)
      (driveFrom suite fuel arguments.slow issuer listing true modules) := by
  induction modules generalizing listing with
  | nil =>
    refine ⟨fun _ _ _ => ⟨_, _, returns_pure.mpr ⟨rfl, rfl⟩⟩, ?_⟩
    intro r t h
    refine ⟨?_, .inl h⟩
    rw [driveFrom, returns_pure] at h
    simp [← h.1]
  | cons module modules ih => exact cutShort_bind driveModule_together ih fun _ _ => driveFrom_false

theorem driveModules_cutShort :
    CutShort (driveModules suite fuel arguments.fast) (driveModules suite fuel arguments.slow) :=
  cutShort_bind_self fun _ _ _ => driveFrom_cutShort

end

end GreenticConformance.HostedPlan
