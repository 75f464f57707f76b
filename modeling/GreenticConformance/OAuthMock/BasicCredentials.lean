import GreenticConformance.Checks.Guards
import GreenticConformance.OAuthMock.Server

/-!
# Basic credentials

A client names itself in an `Authorization` header: `Basic`, and the base64 text of its
id and its secret with a colon in between. Whatever credentials are read from a header
stand in it in that way, and a header that is no such one is refused: the form fields
are read without a header only.

## Main definitions

- `CarriesBasic` — the header of some credentials

## Main results

- `extractClientCredentials_eq_ok_iff` — the credentials read are those carried
- `basicCredentials_roundTrip` — the encoded credentials are read back, and only they
-/

namespace GreenticConformance.OAuthMock

variable {B : Build} {value : HeaderValue} {request : TokenRequest} {cred : ClientCredentials}

/-- `id ':' secret`, in bytes. -/
def ClientCredentials.bytes (cred : ClientCredentials) : ByteArray :=
  (cred.clientId ++ ":" ++ cred.clientSecret).toUTF8

/-- The header is the text of these credentials, of which the id has no colon. -/
def CarriesBasic (B : Build) (value : HeaderValue) (cred : ClientCredentials) : Prop :=
  ∃ encoded, value = .text ("Basic " ++ encoded) ∧
    B.crates.standardDecode encoded = some cred.bytes ∧ ':' ∉ cred.clientId.toList

/-! ## Reading a header -/

/-- The text of the credentials is split where it was put together. -/
theorem splitOnce_credentials {id secret decoded : String} :
    splitOnce ':' decoded = some (id, secret) ↔
      decoded = id ++ ":" ++ secret ∧ ':' ∉ id.toList := by
  rw [splitOnce_eq_some_iff, ← String.toList_inj]
  simp [String.toList_append]

theorem extractClientCredentials_of_carries (h : CarriesBasic B value cred)
    (request : TokenRequest) : extractClientCredentials B ⟨some value⟩ request = .ok cred := by
  obtain ⟨encoded, rfl, hdecoded, hid⟩ := h
  have hutf8 : String.fromUTF8? cred.bytes =
      some (cred.clientId ++ ":" ++ cred.clientSecret) := fromUTF8?_eq_some_iff.mpr rfl
  have hsplit := splitOnce_credentials.mpr
    ⟨rfl (a := cred.clientId ++ ":" ++ cred.clientSecret), hid⟩
  simp only [extractClientCredentials, HeaderValue.toStr, Checks.ok_bind, stripPrefix_append,
    hdecoded, hutf8, hsplit]

/-- A header gives the credentials it carries, or is refused whatever is in the form. -/
theorem carries_or_refused (B : Build) (value : HeaderValue) :
    (∃ cred, CarriesBasic B value cred) ∨
      ∃ msg, ∀ request, extractClientCredentials B ⟨some value⟩ request =
        .error (.invalidClient msg) := by
  cases value with
  | binary b => exact .inr ⟨"invalid Authorization header", fun _ => rfl⟩
  | text auth =>
    simp only [extractClientCredentials, HeaderValue.toStr, Checks.ok_bind]
    cases hencoded : stripPrefix "Basic " auth with
    | none => exact .inr ⟨"invalid Authorization header", fun _ => rfl⟩
    | some encoded =>
      cases hdecoded : B.crates.standardDecode encoded with
      | none =>
        simp only [hdecoded, Checks.error_bind]
        exact .inr ⟨"invalid basic auth", fun _ => rfl⟩
      | some bytes =>
        simp only [hdecoded]
        cases hutf8 : String.fromUTF8? bytes with
        | none =>
          simp only [Checks.error_bind]
          exact .inr ⟨"invalid utf8 basic auth", fun _ => rfl⟩
        | some decoded =>
          dsimp only
          cases hsplit : splitOnce ':' decoded with
          | none => exact .inr ⟨"invalid Authorization header", fun _ => rfl⟩
          | some pair =>
            obtain ⟨id, secret⟩ := pair
            obtain ⟨rfl, hid⟩ := splitOnce_credentials.mp hsplit
            refine .inl ⟨⟨id, secret⟩, encoded, ?_, ?_, hid⟩
            · rw [stripPrefix_eq_some_iff.mp hencoded]
            · rw [hdecoded, fromUTF8?_eq_some_iff.mp hutf8]
              rfl

theorem extractClientCredentials_eq_ok_iff :
    extractClientCredentials B ⟨some value⟩ request = .ok cred ↔ CarriesBasic B value cred := by
  refine ⟨fun h => ?_, fun h => extractClientCredentials_of_carries h request⟩
  rcases carries_or_refused B value with ⟨cred', hcarries⟩ | ⟨msg, hrefused⟩
  · have hread := extractClientCredentials_of_carries hcarries request
    exact Except.ok.inj (hread.symm.trans h) ▸ hcarries
  · exact nomatch (hrefused request).symm.trans h

/-- **Basic credentials**: an id without a colon and any secret are read back from
their header whatever the form says; what is read from a header stands in it; and any
other header is refused, without a look at the form. -/
theorem basicCredentials_roundTrip (B : Build) (encode : ByteArray → String)
    (hencode : ∀ bytes, B.crates.standardDecode (encode bytes) = some bytes) :
    (∀ id secret request, ':' ∉ id.toList →
      extractClientCredentials B
        ⟨some (.text ("Basic " ++ encode (id ++ ":" ++ secret).toUTF8))⟩ request =
        .ok ⟨id, secret⟩) ∧
    (∀ value request cred, extractClientCredentials B ⟨some value⟩ request = .ok cred →
      ∃ encoded, value = .text ("Basic " ++ encoded) ∧
        B.crates.standardDecode encoded =
          some (cred.clientId ++ ":" ++ cred.clientSecret).toUTF8 ∧
        ':' ∉ cred.clientId.toList) ∧
    ∀ value, (∀ cred, ¬ CarriesBasic B value cred) →
      ∃ msg, ∀ request, extractClientCredentials B ⟨some value⟩ request =
        .error (.invalidClient msg) := by
  refine ⟨fun id secret request hid => ?_, fun value request cred h => ?_, fun value h => ?_⟩
  · have hcarries : CarriesBasic B (.text ("Basic " ++ encode (id ++ ":" ++ secret).toUTF8))
        ⟨id, secret⟩ := ⟨encode (id ++ ":" ++ secret).toUTF8, rfl, hencode _, hid⟩
    exact extractClientCredentials_of_carries hcarries request
  · exact extractClientCredentials_eq_ok_iff.mp h
  · exact (carries_or_refused B value).resolve_left fun hex => hex.elim h

/-! ### The default client on the sample server -/

namespace Sample

/-- The base64 text of the default client's credentials. -/
def basicText : String := "bW9jay1jbGllbnQ6bW9jay1zZWNyZXQ="

/-- The encoder of base64 on these credentials; elsewhere some code that is no base64
text of anything. -/
def standardEncode (bytes : ByteArray) : String :=
  if bytes.data = "mock-client:mock-secret".toUTF8.data then basicText
  else "=" ++ String.ofList (bytes.data.toList.map fun b => Char.ofNat b.toNat)

def standardDecode (s : String) : Option ByteArray :=
  if s = basicText then some "mock-client:mock-secret".toUTF8
  else (stripPrefix "=" s).map fun code =>
    ⟨(code.toList.map fun c => UInt8.ofNat c.toNat).toArray⟩

theorem ofNat_toNat_ofNat (b : UInt8) : UInt8.ofNat (Char.ofNat b.toNat).toNat = b := by
  have hvalid : b.toNat.isValidChar := by
    have := b.toNat_lt
    exact .inl (by omega)
  rw [Char.ofNat, dif_pos hvalid]
  exact UInt8.ofNat_toNat

theorem standardDecode_encode (bytes : ByteArray) :
    standardDecode (standardEncode bytes) = some bytes := by
  unfold standardEncode standardDecode
  by_cases hbytes : bytes.data = "mock-client:mock-secret".toUTF8.data
  · rw [if_pos hbytes, if_pos rfl, ← ByteArray.ext hbytes]
  · rw [if_neg hbytes, if_neg, stripPrefix_append, Option.map_some, String.toList_ofList,
      List.map_map]
    · have hcode : (fun c : Char => UInt8.ofNat c.toNat) ∘ (fun b : UInt8 => Char.ofNat b.toNat) =
          id := by
        funext b
        exact ofNat_toNat_ofNat b
      rw [hcode, List.map_id]
    · intro heq
      -- base64 text does not start with padding
      have hhead := congrArg (fun s => s.toList.head?) heq
      simp [String.toList_append, basicText] at hhead

/-- The sample server with the two. -/
def basicBuild : Build :=
  { build with crates := { crates with standardDecode := standardDecode } }

theorem basicCredentials_mockClient :
    extractClientCredentials basicBuild
        ⟨some (.text ("Basic " ++ standardEncode ("mock-client" ++ ":" ++ "mock-secret").toUTF8))⟩
        emptyTokenRequest =
      .ok ⟨"mock-client", "mock-secret"⟩ :=
  (basicCredentials_roundTrip basicBuild standardEncode standardDecode_encode).1 _ _ _ (by decide)

end Sample

end GreenticConformance.OAuthMock
