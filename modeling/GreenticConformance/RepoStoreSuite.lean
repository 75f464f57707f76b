import GreenticConformance.Checks.Guards
import GreenticConformance.Checks.Rows
import GreenticConformance.Host.Error
import GreenticConformance.Host.Text

/-!
# Repositories, stores and distributors

`repo_store_suite.rs`: the metadata of a repository, the subscriptions of a store and
the target state of a distributor, each with its check.

## Main definitions

- `validateRepoMetadata`, `validateStoreSubscriptions`, `validateDistributorTarget`
- `Resolves` — a pack and version that stand for one entry of the metadata

## Main results

- `validateRepoMetadata_eq_ok`, `validateStoreSubscriptions_eq_ok`,
  `validateDistributorTarget_eq_ok` — what each check accepts
- `distributor_checks_compose` — what the three accept together
-/

namespace GreenticConformance.RepoStoreSuite

open Checks Host

/-! ## The rows -/

structure RepoPackDescriptor where
  packId : String
  packVersion : String
  deriving DecidableEq

structure StoreSubscription where
  tenant : String
  team : String
  user : String
  packId : String
  packVersion : String
  enabled : Bool
  deriving DecidableEq

structure DistributorTarget where
  packId : String
  packVersion : String
  enabled : Bool
  deriving DecidableEq

/-- The pair a hash set holds for a row. -/
def RepoPackDescriptor.key (d : RepoPackDescriptor) : String × String := (d.packId, d.packVersion)

def StoreSubscription.key (s : StoreSubscription) : String × String := (s.packId, s.packVersion)

def DistributorTarget.key (t : DistributorTarget) : String × String := (t.packId, t.packVersion)

/-! ## The checks -/

def validateRepoMetadata (descriptors : List RepoPackDescriptor) : Except Error Unit :=
  forDistinct RepoPackDescriptor.key
    (fun d => anyhow s!"duplicate repo metadata entry for {d.packId} {d.packVersion}")
    (fun d => do
      failIf (isBlank d.packId) (anyhow "repo metadata entry missing pack_id")
      failIf (isBlank d.packVersion)
        (anyhow s!"repo metadata entry missing pack_version for {d.packId}"))
    (fun _ => .ok ()) ∅ descriptors

def validateStoreSubscriptions (subs : List StoreSubscription) : Except Error Unit :=
  subs.forM fun s => do
    failIf (isBlank s.tenant || isBlank s.team || isBlank s.user)
      (anyhow "store subscription must include tenant/team/user")
    failIf (isBlank s.packId) (anyhow "store subscription missing pack_id")
    failIf (isBlank s.packVersion) (anyhow "store subscription missing pack_version")

section Target

variable (order : HashOrder (String × String))

def validateDistributorTarget (target : List DistributorTarget)
    (metadata : List RepoPackDescriptor) (subs : List StoreSubscription) :
    Except Error Unit := do
  let allowed := (metadata.map RepoPackDescriptor.key).toFinset
  let requested := ((subs.filter StoreSubscription.enabled).map StoreSubscription.key).toFinset
  let targets := ((target.filter DistributorTarget.enabled).map DistributorTarget.key).toFinset
  (order.toList targets).forM fun key =>
    let pid := key.1
    let ver := key.2
    failIf (key ∉ allowed) (anyhow s!"distributor target references unknown pack {pid}@{ver}")
  (order.toList requested).forM fun key =>
    let pid := key.1
    let ver := key.2
    failIf (key ∉ targets) (anyhow s!"distributor target missing requested pack {pid}@{ver}")

end Target

/-! ## What the checks accept -/

theorem validateRepoMetadata_eq_ok {descriptors : List RepoPackDescriptor} :
    validateRepoMetadata descriptors = .ok () ↔
      (∀ d ∈ descriptors, isBlank d.packId = false ∧ isBlank d.packVersion = false) ∧
        (descriptors.map RepoPackDescriptor.key).Nodup := by
  simp only [validateRepoMetadata, forDistinct_eq_ok, bind_eq_ok, exists_unit, failIf_eq_ok,
    Bool.not_eq_true, Finset.notMem_empty, not_false_eq_true, and_true]

theorem validateStoreSubscriptions_eq_ok {subs : List StoreSubscription} :
    validateStoreSubscriptions subs = .ok () ↔
      ∀ s ∈ subs, (isBlank s.tenant = false ∧ isBlank s.team = false ∧ isBlank s.user = false) ∧
        isBlank s.packId = false ∧ isBlank s.packVersion = false := by
  simp only [validateStoreSubscriptions, forM_eq_ok, bind_eq_ok, exists_unit, failIf_eq_ok,
    Bool.or_eq_true, not_or, Bool.not_eq_true, and_assoc]

section Target

variable {order : HashOrder (String × String)} {target : List DistributorTarget}
  {metadata : List RepoPackDescriptor} {subs : List StoreSubscription}

theorem validateDistributorTarget_eq_ok :
    validateDistributorTarget order target metadata subs = .ok () ↔
      (∀ t ∈ target, t.enabled = true → ∃ d ∈ metadata, d.key = t.key) ∧
        ∀ s ∈ subs, s.enabled = true → ∃ t ∈ target, t.enabled = true ∧ t.key = s.key := by
  simp only [validateDistributorTarget, bind_eq_ok, exists_unit, forM_eq_ok, failIf_eq_ok,
    not_not, order.mem_toList, List.mem_toFinset, List.mem_map, List.mem_filter, and_assoc]
  constructor
  · intro h
    exact ⟨fun t ht hon => h.1 t.key ⟨t, ht, hon, rfl⟩,
      fun s hs hon => h.2 s.key ⟨s, hs, hon, rfl⟩⟩
  · intro h
    constructor
    · intro key htarget
      obtain ⟨t, ht, hon, rfl⟩ := htarget
      exact h.1 t ht hon
    · intro key hrequested
      obtain ⟨s, hs, hon, rfl⟩ := hrequested
      exact h.2 s hs hon

end Target

/-! ## The three together -/

/-- The pair of the pack and its version is that of one entry of the metadata. -/
def Resolves (metadata : List RepoPackDescriptor) (key : String × String) : Prop :=
  ∃ d ∈ metadata, d.key = key ∧ (metadata.filter fun e => e.key = key) = [d] ∧
    isBlank d.packId = false ∧ isBlank d.packVersion = false

/-- In accepted metadata, what occurs at all stands for one entry. -/
theorem resolves_of_mem {metadata : List RepoPackDescriptor} {key : String × String}
    (hmetadata : validateRepoMetadata metadata = .ok ()) (hmem : ∃ d ∈ metadata, d.key = key) :
    Resolves metadata key := by
  rw [validateRepoMetadata_eq_ok] at hmetadata
  obtain ⟨d, hd, hkey, hfilter⟩ := filter_key_eq_singleton hmetadata.2 hmem
  exact ⟨d, hd, hkey, hfilter, hmetadata.1 d hd⟩

/-- The verdict on a target reads the live rows and no more. -/
theorem validateDistributorTarget_congr {order order' : HashOrder (String × String)}
    {target target' : List DistributorTarget} {metadata metadata' : List RepoPackDescriptor}
    {subs subs' : List StoreSubscription}
    (htarget : Rearranged DistributorTarget.enabled target target')
    (hmetadata : metadata.Perm metadata')
    (hsubs : Rearranged StoreSubscription.enabled subs subs') :
    validateDistributorTarget order target metadata subs = .ok () ↔
      validateDistributorTarget order' target' metadata' subs' = .ok () := by
  rw [validateDistributorTarget_eq_ok, validateDistributorTarget_eq_ok]
  have hknown (key : String × String) :
      (∃ d ∈ metadata, d.key = key) ↔ ∃ d ∈ metadata', d.key = key := by
    simp only [hmetadata.mem_iff]
  have hoffered (key : String × String) := htarget.exists_iff (p := fun t => t.key = key)
  apply and_congr
  · simp only [hknown]
    exact ⟨fun h t ht hon => h t ((htarget.mem_iff hon).mpr ht) hon,
      fun h t ht hon => h t ((htarget.mem_iff hon).mp ht) hon⟩
  · simp only [hoffered]
    exact ⟨fun h s hs hon => h s ((hsubs.mem_iff hon).mpr hs) hon,
      fun h s hs hon => h s ((hsubs.mem_iff hon).mp hs) hon⟩

/-- With accepted metadata and subscriptions, a target is accepted when what it
installs is known and what is subscribed to is installed. Then each of the two stands
for one entry of the metadata. The verdict sees the live rows only. -/
theorem distributor_checks_compose (order : HashOrder (String × String))
    {metadata : List RepoPackDescriptor} {subs : List StoreSubscription}
    (hmetadata : validateRepoMetadata metadata = .ok ())
    (hsubs : validateStoreSubscriptions subs = .ok ()) (target : List DistributorTarget) :
    (validateDistributorTarget order target metadata subs = .ok () ↔
      (∀ t ∈ target, t.enabled = true → ∃ d ∈ metadata, d.key = t.key) ∧
        ∀ s ∈ subs, s.enabled = true → ∃ t ∈ target, t.enabled = true ∧ t.key = s.key) ∧
    (validateDistributorTarget order target metadata subs = .ok () →
      (∀ s ∈ subs, s.enabled = true → Resolves metadata s.key ∧
        isBlank s.tenant = false ∧ isBlank s.team = false ∧ isBlank s.user = false) ∧
        ∀ t ∈ target, t.enabled = true → Resolves metadata t.key) ∧
    ∀ order' target' metadata' subs', Rearranged DistributorTarget.enabled target target' →
      metadata.Perm metadata' → Rearranged StoreSubscription.enabled subs subs' →
      (validateDistributorTarget order target metadata subs = .ok () ↔
        validateDistributorTarget order' target' metadata' subs' = .ok ()) := by
  refine ⟨validateDistributorTarget_eq_ok, ?_, ?_⟩
  · intro haccept
    rw [validateDistributorTarget_eq_ok] at haccept
    have htarget : ∀ t ∈ target, t.enabled = true → Resolves metadata t.key :=
      fun t ht hon => resolves_of_mem hmetadata (haccept.1 t ht hon)
    refine ⟨?_, htarget⟩
    intro s hs hon
    obtain ⟨t, ht, hton, hkey⟩ := haccept.2 s hs hon
    rw [validateStoreSubscriptions_eq_ok] at hsubs
    exact ⟨hkey ▸ htarget t ht hton, (hsubs s hs).1⟩
  · intro order' target' metadata' subs' htarget hperm hrows
    exact validateDistributorTarget_congr htarget hperm hrows

/-- Two versions of a pack, of which a tenant has subscribed to one. -/
def sampleMetadata : List RepoPackDescriptor := [⟨"demo", "1.0.0"⟩, ⟨"demo", "1.1.0"⟩]

def sampleSubscriptions : List StoreSubscription :=
  [⟨"acme", "core", "ada", "demo", "1.1.0", true⟩, ⟨"acme", "core", "bob", "gone", "0.1.0", false⟩]

def sampleTarget : List DistributorTarget := [⟨"demo", "1.1.0", true⟩, ⟨"gone", "0.1.0", false⟩]

theorem distributor_checks_compose_sample :
    (∀ s ∈ sampleSubscriptions, s.enabled = true → Resolves sampleMetadata s.key ∧
      isBlank s.tenant = false ∧ isBlank s.team = false ∧ isBlank s.user = false) ∧
      ∀ t ∈ sampleTarget, t.enabled = true → Resolves sampleMetadata t.key := by
  have hmetadata : validateRepoMetadata sampleMetadata = .ok () := by decide
  have hsubs : validateStoreSubscriptions sampleSubscriptions = .ok () := by decide
  have hcompose := distributor_checks_compose ⟨Finset.toList, Finset.mem_toList⟩ hmetadata hsubs
    sampleTarget
  exact hcompose.2.1 (hcompose.1.mpr (by decide))

end GreenticConformance.RepoStoreSuite
