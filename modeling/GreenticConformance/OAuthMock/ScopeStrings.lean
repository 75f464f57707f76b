import GreenticConformance.OAuthMock.Issued
import GreenticConformance.Words.Pieces

/-!
# Scope strings

A scope string names the set of its words. `scope_to_string` prints a set in one way,
whatever order the set is iterated in, and `parse_scope` reads the set back as long as
its elements are words.

## Main definitions

- `IsWord`, `HasWord` — the words, and the words of a string
- `WordScopes` — every client allows words only

## Main results

- `parseScope_scopeToString` — a set of words is read back
- `scopeToString_parseScope_eq_iff` — strings with the same words are printed alike
- `scopeStrings_roundTrip` — the laws together, and what they say about issued tokens
-/

namespace GreenticConformance.OAuthMock

open Runs Words

variable {S : HashSet String} {x y w : String}

/-! ## Words -/

/-- A string that a scope string can name. -/
def IsWord (w : String) : Prop := w ≠ "" ∧ Free isWhitespace w.toList

instance : Decidable (IsWord w) :=
  inferInstanceAs (Decidable (w ≠ "" ∧ Free isWhitespace w.toList))

/-- The string is one of the words of `x`: white space or an end on either side. -/
def HasWord (x w : String) : Prop := w ≠ "" ∧ Piece isWhitespace w.toList x.toList

theorem HasWord.isWord (h : HasWord x w) : IsWord w := ⟨h.1, h.2.1⟩

theorem mem_splitWhitespace : w ∈ splitWhitespace x ↔ HasWord x w := by
  unfold splitWhitespace HasWord
  simp only [List.mem_map, List.mem_filter, decide_eq_true_eq, mem_splitOnP_iff]
  constructor
  · rintro ⟨letters, ⟨hpiece, hne⟩, rfl⟩
    rw [String.toList_ofList]
    exact ⟨fun h => hne (by simpa using congrArg String.toList h), hpiece⟩
  · rintro ⟨hne, hpiece⟩
    exact ⟨w.toList, ⟨hpiece, fun h => hne (by simpa using h)⟩, String.ofList_toList⟩

theorem mem_parseScope : w ∈ parseScope (some x) ↔ HasWord x w := by
  rw [parseScope, List.mem_toFinset, mem_splitWhitespace]

/-- Words that are joined by spaces come apart again. -/
theorem splitWhitespace_intercalate {ws : List String} (h : ∀ w ∈ ws, IsWord w) :
    splitWhitespace (" ".intercalate ws) = ws := by
  unfold splitWhitespace
  by_cases hws : ws = []
  · rw [hws]
    rfl
  · have hfree : ∀ w ∈ ws.map String.toList, Free isWhitespace w := by
      intro letters hletters
      obtain ⟨w, hw, rfl⟩ := List.mem_map.mp hletters
      exact (h w hw).2
    have hsplit : (" ".intercalate ws).toList.splitOnP isWhitespace = ws.map String.toList := by
      rw [String.toList_intercalate]
      exact splitOnP_intercalate rfl hfree (by simpa using hws)
    rw [hsplit, List.filter_eq_self.mpr, List.map_map]
    · exact List.map_id'' (fun _ => String.ofList_toList) ws
    · intro letters hletters
      obtain ⟨w, hw, rfl⟩ := List.mem_map.mp hletters
      simpa using (h w hw).1

/-! ## Printing -/

theorem mem_sorted : w ∈ sorted S ↔ w ∈ S := by
  rw [← Multiset.mem_coe, coe_sorted, Finset.mem_val]

theorem sorted_pairwise (S : HashSet String) : (sorted S).Pairwise (· ≤ ·) := by
  obtain ⟨m, hm⟩ := S
  induction m using Quotient.inductionOn with
  | h l => exact List.pairwise_insertionSort _ l

/-- A set is printed alike whatever the order it is iterated in. -/
theorem intercalate_insertionSort_iter (o : HashOrder) (S : HashSet String) :
    " ".intercalate ((o.iter S).insertionSort (· ≤ ·)) = scopeToString S := by
  have hperm : (o.iter S).Perm (sorted S) := by
    rw [← Multiset.coe_eq_coe, o.iter_val, coe_sorted]
  have hsorted : (o.iter S).insertionSort (· ≤ ·) = sorted S :=
    List.Perm.eq_of_pairwise' (List.pairwise_insertionSort _ _) (sorted_pairwise S)
      ((List.perm_insertionSort _ _).trans hperm)
  rw [hsorted, scopeToString]

theorem parseScope_scopeToString (h : ∀ w ∈ S, IsWord w) :
    parseScope (some (scopeToString S)) = S := by
  have hsorted : ∀ w ∈ sorted S, IsWord w := fun w hw => h w (mem_sorted.mp hw)
  ext w
  rw [parseScope, scopeToString, splitWhitespace_intercalate hsorted, List.mem_toFinset,
    mem_sorted]

theorem parseScope_reparse (x : String) :
    parseScope (some (scopeToString (parseScope (some x)))) = parseScope (some x) :=
  parseScope_scopeToString fun _ hw => (mem_parseScope.mp hw).isWord

/-- Strings are printed alike when they have the same words. -/
theorem scopeToString_parseScope_eq_iff :
    scopeToString (parseScope (some x)) = scopeToString (parseScope (some y)) ↔
      ∀ w, HasWord x w ↔ HasWord y w := by
  constructor
  · intro h w
    rw [← mem_parseScope, ← mem_parseScope, ← parseScope_reparse x, h, parseScope_reparse y]
  · intro h
    apply congrArg
    ext w
    rw [mem_parseScope, mem_parseScope, h]

/-! ## Issued tokens -/

variable {B : Build} {s₀ : InnerState} {e : Served} {calls : List Call} {client : ClientConfig}
  {scope : HashSet String} {response : TokenResponse}

/-- Every client allows words only. -/
def WordScopes (table : ClientTable) : Prop :=
  ∀ id client, table.clients.lookup id = some client → ∀ w ∈ client.allowedScopes, IsWord w

theorem wordScopes_empty : WordScopes .empty := fun id _ h =>
  nomatch (Finmap.lookup_empty id).symm.trans h

theorem WordScopes.insert {table : ClientTable} (h : WordScopes table)
    (hc : ∀ w ∈ client.allowedScopes, IsWord w) : WordScopes (table.insert client) := by
  intro id found hfound
  change (table.clients.insert client.clientId client).lookup id = some found at hfound
  rw [lookup_insert_ite] at hfound
  by_cases hid : id = client.clientId
  · rw [if_pos hid] at hfound
    exact Option.some.inj hfound ▸ hc
  · rw [if_neg hid] at hfound
    exact h id found hfound

/-- The scope strings of an answer, and of the tokens in it, name the elements of the
scope. -/
structure ShowsScope (e : Served) (client : ClientConfig) (scope : HashSet String)
    (response : TokenResponse) : Prop where
  shown : parseScope (some response.scope) = scope
  accessToken : e.input.draws.encode (jwtHeader e.pre)
      (.access (accessClaims e.input.draws e.pre client scope)) e.pre.signing.encoding =
    .ok response.accessToken ∧
    parseScope (some (accessClaims e.input.draws e.pre client scope).scope) = scope
  idToken : ∀ id, response.idToken = some id → ∃ nonce,
    e.input.draws.encode (jwtHeader e.pre) (.id (idClaims e.input.draws e.pre client scope nonce))
        e.pre.signing.encoding = .ok id ∧
      parseScope (some (idClaims e.input.draws e.pre client scope nonce).scope) = scope

/-- The id token carries the scope it was issued for. -/
theorem Issues.signed_id (h : Issues B e client scope response) {id : String}
    (hid : response.idToken = some id) : ∃ nonce,
      e.input.draws.encode (jwtHeader e.pre)
        (.id (idClaims e.input.draws e.pre client scope nonce)) e.pre.signing.encoding =
        .ok id := by
  cases h with
  | exchanged hx =>
    obtain rfl := Option.some.inj hid
    exact ⟨_, hx.signs.id⟩
  | clientCredentials hg => exact nomatch hid

theorem Issues.scope_subset (hs : WellOwned B e.pre) (h : Issues B e client scope response) :
    scope ⊆ client.allowedScopes := by
  cases h with
  | exchanged hx => exact hx.scope_subset hs
  | clientCredentials hg => exact scopeOrAllowed_subset _ _

/-- Clients that allow words only are issued scopes of words. -/
theorem Issues.isWord (h₀ : Spawned s₀) (hwords : WordScopes s₀.clients)
    (he : e ∈ (server B).trace s₀ calls) (h : Issues B e client scope response) :
    ∀ w ∈ scope, IsWord w := by
  intro w hw
  obtain ⟨_, cred, _, -, hclient⟩ := h.registered
  rw [pre_client he] at hclient
  exact hwords cred.clientId client hclient w (h.scope_subset (wellOwned_of_mem_trace h₀ he) hw)

theorem Issues.showsScope (h₀ : Spawned s₀) (hwords : WordScopes s₀.clients)
    (he : e ∈ (server B).trace s₀ calls) (h : Issues B e client scope response) :
    ShowsScope e client scope response := by
  have hread : parseScope (some (scopeToString scope)) = scope :=
    parseScope_scopeToString (h.isWord h₀ hwords he)
  refine ⟨?_, ⟨h.signed, hread⟩, fun id hid => ?_⟩
  · rw [h.response_scope, hread]
  · obtain ⟨nonce, hsigned⟩ := h.signed_id hid
    exact ⟨nonce, hsigned, hread⟩

/-- **Scope strings**: a set of words is read back from its string, two strings are
printed alike exactly when they have the same words, what is printed stays as it is,
and no iteration order shows. So every scope string in an answer names the scope that
was granted when the builder allows words only. -/
theorem scopeStrings_roundTrip :
    (∀ S : HashSet String, (∀ w ∈ S, IsWord w) → parseScope (some (scopeToString S)) = S) ∧
    (∀ x y, scopeToString (parseScope (some x)) = scopeToString (parseScope (some y)) ↔
      ∀ w, HasWord x w ↔ HasWord y w) ∧
    (∀ x, scopeToString (parseScope (some (scopeToString (parseScope (some x))))) =
      scopeToString (parseScope (some x))) ∧
    (∀ (o : HashOrder) S,
      " ".intercalate ((o.iter S).insertionSort (· ≤ ·)) = scopeToString S) ∧
    ∀ (B : Build) s₀ calls e response, Spawned s₀ → WordScopes s₀.clients →
      e ∈ (server B).trace s₀ calls → Answers e response →
      (∃ client scope, Issues B e client scope response) ∧
      ∀ client scope, Issues B e client scope response → ShowsScope e client scope response := by
  refine ⟨fun S => parseScope_scopeToString, fun x y => scopeToString_parseScope_eq_iff,
    fun x => ?_, intercalate_insertionSort_iter, ?_⟩
  · rw [parseScope_reparse]
  · intro B s₀ calls e response h₀ hwords he ha
    exact ⟨ha.issues (steps_of_mem_trace he), fun client scope h => h.showsScope h₀ hwords he⟩

namespace Sample

theorem wordScopes_start : WordScopes start.clients :=
  (wordScopes_empty.insert (by decide)).insert (by decide)

/-- The default client is issued its three scopes, which the answer names. -/
theorem showsScope_default :
    ShowsScope ((server build).event start (clientCredentialsCall mockClient none)) mockClient
      defaultScope (clientCredentialsResponse defaultScope (accessToken "01")) := by
  have hg : ClientGranted build ((server build).event start (clientCredentialsCall mockClient none))
      ⟨"mock-client", "mock-secret"⟩ (clientCredentialsForm mockClient none) mockClient
      (accessToken "01") :=
    ⟨tokenCall_clientCredentialsCall _ _, rfl, rfl, rfl, rfl⟩
  have ha : Answers ((server build).event start (clientCredentialsCall mockClient none))
      (clientCredentialsResponse defaultScope (accessToken "01")) := rfl
  exact (scopeStrings_roundTrip.2.2.2.2 build start [clientCredentialsCall mockClient none] _ _
    spawned_start wordScopes_start (by simp) ha).2 _ _ (.clientCredentials hg)

end Sample

end GreenticConformance.OAuthMock
