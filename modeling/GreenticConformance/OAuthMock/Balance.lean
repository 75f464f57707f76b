import GreenticConformance.OAuthMock.DeviceCodes
import GreenticConformance.OAuthMock.RefreshFamilies
import GreenticConformance.Runs.Balance

/-!
# How much the server keeps

The stores of single-use grants are ledgers, so their sizes can be read off a run: what was
issued, less what was taken out. Device codes are never taken out.

## Main results

- `stores_balance` — the sizes of the stores after a run
-/

namespace GreenticConformance.OAuthMock

open Runs

variable {B : Build} {s₀ : InnerState} {calls : List Call} {e : Served}

/-! ## Device codes -/

/-- What a call does to the keys of the stored device codes, when signing works. -/
theorem device_keys_post (hw : WellOwned B e.pre) (hs : SigningSucceeds e.input.draws)
    (h : Steps B e) (c : String) : c ∈ e.post.deviceCodes ↔
      (∃ request client, StartsDevice B e c request client) ∨ c ∈ e.pre.deviceCodes := by
  have hstep := device_step h c
  rw [mem_iff_lookup_eq_some, mem_iff_lookup_eq_some]
  generalize ho : e.pre.deviceCodes.lookup c = o at hstep ⊢
  generalize e.post.deviceCodes.lookup c = o' at hstep ⊢
  cases hstep with
  | started hst => exact iff_of_true ⟨_, rfl⟩ (.inl ⟨_, _, hst⟩)
  | idle hns _ _ =>
    refine (or_iff_right ?_).symm
    rintro ⟨request, client, hst⟩
    exact hns request client hst
  | polled => exact iff_of_true ⟨_, rfl⟩ (.inr ⟨_, rfl⟩)
  | exchanged => exact iff_of_true ⟨_, rfl⟩ (.inr ⟨_, rfl⟩)
  | @lost entry cred err hpoll he hst hlost =>
    rcases hlost with hcl | hfails
    · -- the client of a stored code is registered
      obtain ⟨client, hcl', -⟩ := hw.devices _ _ ho
      rw [he] at hcl'
      cases hcl.symm.trans hcl'
    · exact absurd hs hfails
  | decided => exact iff_of_true ⟨_, rfl⟩ (.inr ⟨_, rfl⟩)

open Classical in
/-- Every start of the run, and nothing else, adds a device code. -/
theorem device_card (h₀ : Spawned s₀) (hfresh : FreshCodes calls)
    (hsign : ∀ c ∈ calls, SigningSucceeds c.draws) :
    ((server B).run s₀ calls).deviceCodes.keys.card = ((server B).trace s₀ calls).countP fun e =>
      decide (∃ c request client, StartsDevice B e c request client) := by
  induction calls using List.reverseRecOn with
  | nil =>
    obtain ⟨b, baseUrl, signing, rfl⟩ := h₀
    rfl
  | append_singleton calls call ih =>
    have hpast : FreshCodes calls := by
      rw [FreshCodes, List.map_append] at hfresh
      exact hfresh.of_append_left
    have hmem : (server B).event ((server B).run s₀ calls) call ∈
        (server B).trace s₀ (calls ++ [call]) := by
      rw [Machine.trace_concat]
      simp
    have hkeys := device_keys_post (wellOwned_of_mem_trace h₀ hmem) (hsign call (by simp))
      (steps_event B ((server B).run s₀ calls) call)
    rw [Machine.run_concat, Machine.trace_concat, List.countP_append, List.countP_singleton,
      ← ih hpast fun c hc => hsign c (by simp [hc])]
    simp only [decide_eq_true_eq]
    by_cases hstart : ∃ c request client,
        StartsDevice B ((server B).event ((server B).run s₀ calls) call) c request client
    · rw [if_pos hstart]
      obtain ⟨c, request, client, hst⟩ := hstart
      -- the code is the one that the call has drawn, which nobody has drawn before
      have hnew : c ∉ ((server B).run s₀ calls).deviceCodes := by
        intro hold
        obtain ⟨entry, hl⟩ := mem_iff_lookup_eq_some.mp hold
        obtain ⟨call', hc', hdrawn⟩ := drawn_of_lookup h₀ hl
        exact hfresh.ne_last hc' (hdrawn.trans hst.code.symm)
      rw [← Finset.card_insert_of_notMem (s := Finmap.keys _) (a := c) (by rwa [Finmap.mem_keys])]
      congr 1
      ext x
      rw [Finset.mem_insert, Finmap.mem_keys, Finmap.mem_keys, hkeys x]
      refine or_congr_left ⟨?_, ?_⟩
      · rintro ⟨request', client', hst'⟩
        exact hst'.code.symm.trans hst.code
      · rintro rfl
        exact ⟨request, client, hst⟩
    · rw [if_neg hstart, Nat.add_zero]
      congr 1
      ext x
      rw [Finmap.mem_keys, Finmap.mem_keys, hkeys x]
      refine or_iff_right ?_
      rintro ⟨request, client, hst⟩
      exact hstart ⟨x, request, client, hst⟩

/-! ## All stores -/

open Classical in
/-- **Nothing piles up but what is outstanding.** After a run, the authorization codes that
are stored and those that redemptions took are together the granted ones; the refresh tokens
that are stored and those that refreshes and revocations took are together the issued ones;
and there is one device code for every device authorization that was answered. -/
theorem stores_balance (h₀ : Spawned s₀) (hfresh : FreshCodes calls)
    (hsign : ∀ c ∈ calls, SigningSucceeds c.draws) :
    ((server B).run s₀ calls).authorizationCodes.keys.card +
        ((server B).trace s₀ calls).countP (fun e =>
          decide (∃ code, RedeemsCode B e code ∧ e.pre.authorizationCodes.lookup code ≠ none)) =
      ((server B).trace s₀ calls).countP (fun e =>
        decide (∃ code query client, MintsCode B e code query client)) ∧
    ((server B).run s₀ calls).refreshTokens.keys.card +
        ((server B).trace s₀ calls).countP (fun e =>
          decide (∃ t, RefreshConsumed B e t ∧ e.pre.refreshTokens.lookup t ≠ none)) =
      ((server B).trace s₀ calls).countP (fun e => decide (∃ x, Exchanged B e x)) ∧
    ((server B).run s₀ calls).deviceCodes.keys.card =
      ((server B).trace s₀ calls).countP fun e =>
        decide (∃ c request client, StartsDevice B e c request client) := by
  have hminted : ∀ e, (∃ code entry, CodeIssued B e code entry) ↔
      ∃ code query client, MintsCode B e code query client := by
    intro e
    constructor
    · rintro ⟨code, entry, query, client, hm, -⟩
      exact ⟨code, query, client, hm⟩
    · rintro ⟨code, query, client, hm⟩
      exact ⟨code, _, hm.entry⟩
  have hissued : ∀ e, (∃ t entry, RefreshIssued B e t entry) ↔ ∃ x, Exchanged B e x := by
    intro e
    constructor
    · rintro ⟨t, entry, x, hx, -⟩
      exact ⟨x, hx⟩
    · rintro ⟨x, hx⟩
      exact ⟨_, _, x, hx, rfl, rfl⟩
  refine ⟨?_, ?_, device_card h₀ hfresh hsign⟩
  · simp only [← hminted]
    exact codeLedger.card_add_countP (hfresh.codes s₀) h₀.lookup_codes
  · simp only [← hissued]
    exact refreshLedger.card_add_countP (hfresh.refresh s₀) h₀.lookup_refresh

open Sample Classical in
/-- A device code is approved and exchanged, and its refresh token is refreshed: one refresh
token is left of the two. -/
theorem stores_balance_sample :
    ((server build).run start [deviceCall, approveCall "02", pollCall 0 "03",
        refreshCall "03" "04"]).refreshTokens.keys.card +
      ((server build).trace start [deviceCall, approveCall "02", pollCall 0 "03",
        refreshCall "03" "04"]).countP (fun e =>
          decide (∃ t, RefreshConsumed build e t ∧ e.pre.refreshTokens.lookup t ≠ none)) =
      ((server build).trace start [deviceCall, approveCall "02", pollCall 0 "03",
        refreshCall "03" "04"]).countP fun e => decide (∃ x, Exchanged build e x) := by
  refine (stores_balance spawned_start (by decide) ?_).2.1
  simp only [List.forall_mem_cons]
  exact ⟨signingSucceeds_draws _ _, signingSucceeds_draws _ _, signingSucceeds_draws _ _,
    signingSucceeds_draws _ _, by simp⟩

end GreenticConformance.OAuthMock
