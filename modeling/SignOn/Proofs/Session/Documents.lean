import Mathlib.Data.List.Basic
import SignOn.Proofs.Session.Backends

/-!
# Documents of requests and clients in their normal form

A document may spell a record in many ways: fields left out or empty, a text or an object in the
place of a list, repeated elements. What is written of the record that was read is its normal form:
it reads as the same record and is written as it is (`documents_normalised`). Requests that were
built from parameters, and clients of rows with texts as redirect addresses, have one.
-/

namespace SignOn

/-- A document that is read and written again is in a form that reads as the same value, and that
does not change any more. -/
def Document.Normalises (read : Json → Except Document.Fault α)
    (write : α → Except Document.Fault Json) : Prop :=
  ∀ document value written, read document = .ok value → write value = .ok written →
    read written = .ok value ∧ (read written >>= write) = .ok written

theorem Document.normalises_of_inverse {read : Json → Except Document.Fault α}
    {write : α → Except Document.Fault Json}
    (h : ∀ {value written}, write value = .ok written → read written = .ok value) :
    Normalises read write := by
  intro document value written _ hw
  have hread : read written = .ok value := h hw
  refine ⟨hread, ?_⟩
  rw [hread]
  exact hw

theorem Json.ofOption_inj {f : α → Json} (hf : ∀ {a b}, f a = f b ↔ a = b)
    (hnull : ∀ a, f a ≠ .null) {a b : Option α} : ofOption f a = ofOption f b ↔ a = b := by
  refine ⟨fun h => ?_, fun h => h ▸ rfl⟩
  cases a with
  | none =>
    cases b with
    | none => rfl
    | some b => exact absurd h.symm (hnull b)
  | some a =>
    cases b with
    | none => exact absurd h (hnull a)
    | some b => rw [hf.mp h]

theorem Json.map_text_inj {first second : List String} :
    first.map Json.text = second.map Json.text ↔ first = second :=
  (List.map_injective_iff.mpr fun _ _ h => Json.text.inj h).eq_iff

theorem AtomMap.ofAssoc_text_inj {first second : Assoc String} :
    AtomMap.ofAssoc (first.mapValues Json.text) = AtomMap.ofAssoc (second.mapValues Json.text) ↔
      first = second := by
  refine ⟨fun h => ?_, fun h => h ▸ rfl⟩
  have hentries := congrArg AtomMap.entries h
  simp only [AtomMap.ofAssoc, Assoc.mapValues, List.map_map] at hentries
  refine Assoc.ext ((List.map_injective_iff.mpr ?_) hentries)
  rintro ⟨k, v⟩ ⟨k', v'⟩ heq
  cases heq
  rfl

theorem Request.toRecord_injective : Function.Injective toRecord := by
  intro r s h
  have htext {a b : Option String} : Json.ofOption .text a = Json.ofOption .text b ↔ a = b :=
    Json.ofOption_inj (by simp) (by simp)
  have hint {a b : Option Int} : Json.ofOption .int a = Json.ofOption .int b ↔ a = b :=
    Json.ofOption_inj (by simp) (by simp)
  simp only [toRecord, Record.mk.injEq, Json.text.injEq, htext, hint, Json.map_text_inj,
    AtomMap.ofAssoc_text_inj] at h
  cases r
  cases s
  simp_all

theorem Request.Record.IsBuilt.written {record : Request.Record} (h : record.IsBuilt) :
    ∃ written, record.toJson = .ok written ∧ Record.ofJson written = .ok record := by
  obtain ⟨written, hw⟩ := Record.toJson_ok h.isTextual.ordered
  exact ⟨written, hw, Record.ofJson_toJson hw⟩

theorem Client.written_toRecord {client : Client} (h : client.redirectUris.IsTextual) :
    ∃ written, client.toRecord.toJson = .ok written ∧
      Record.ofJson written = .ok client.toRecord := by
  have hordered : client.toRecord.redirectUris.ordered?.isSome = true := h.ordered
  obtain ⟨written, hw⟩ := Record.toJson_ok hordered
  exact ⟨written, hw, Record.ofJson_toJson hw⟩

theorem Client.client?_toRecord (client : Client) : client.toRecord.client? = some client := by
  obtain ⟨clientId, redirectUris, defaultMaxAge, subjectType⟩ := client
  cases defaultMaxAge <;> rfl

/-- Reading and writing bring every document of a request or of a client into its normal form, which
they keep from then on. A request that was built from parameters, and a client of a row with texts
as redirect addresses, are written and read back as they were. -/
theorem documents_normalised :
    Document.Normalises Request.Record.ofJson Request.Record.toJson ∧
    Document.Normalises Client.Record.ofJson Client.Record.toJson ∧
    (∀ parameters request, Request.ofParameters parameters = .ok request →
      ∃ written, request.toRecord.toJson = .ok written ∧
        ∀ other : Request, Request.Record.ofJson written = .ok other.toRecord ↔ other = request) ∧
    (∀ (row : Client.Row) client, row.client = .ok client → client.redirectUris.IsTextual →
      ∃ written, client.toRecord.toJson = .ok written ∧
        Client.Record.ofJson written = .ok client.toRecord ∧
        client.toRecord.client? = some client) := by
  refine ⟨Document.normalises_of_inverse Request.Record.ofJson_toJson,
    Document.normalises_of_inverse Client.Record.ofJson_toJson,
    fun parameters request hr => ?_, fun row client _ ht => ?_⟩
  · have hbuilt : request.toRecord.IsBuilt := ⟨parameters, request, hr, rfl⟩
    obtain ⟨written, hw, hread⟩ := hbuilt.written
    refine ⟨written, hw, fun other => ?_⟩
    rw [hread, Except.ok.injEq, Request.toRecord_injective.eq_iff, eq_comm]
  · obtain ⟨written, hw, hread⟩ := Client.written_toRecord ht
    exact ⟨written, hw, hread, client.client?_toRecord⟩

/-- A request in an odd spelling: a text for a list of prompts, an object for a list of values,
equal elements and equal keys of different kinds. -/
def oddDocument : Json :=
  .object [("prompt", .text "no"), ("client_id", .int 7),
    ("scopes", .array [.int 2, .bool true, .int 1]),
    ("acr_values", .object [("b", .null), ("a", .null)]),
    ("extensions", .array [.array [.bool true, .text "y"], .array [.int 1, .text "z"], .text "kv"])]

def oddRequest : Request.Record where
  clientId := .int 7
  redirectUri := .null
  state := .null
  scopes := .ofList [.bool true, .int 2]
  prompt := [.text "n", .text "o"]
  maxAge := .null
  acrValues := [.text "b", .text "a"]
  responseType := .null
  nonce := .null
  loginHint := .null
  extensions := .ofList [(.bool true, .text "z"), (.text "k", .text "v")]

theorem oddDocument_normalised : ∃ written,
    Request.Record.ofJson oddDocument = .ok oddRequest ∧ oddRequest.toJson = .ok written ∧
      Request.Record.ofJson written = .ok oddRequest ∧
      (Request.Record.ofJson written >>= Request.Record.toJson) = .ok written := by
  have hread : Request.Record.ofJson oddDocument = .ok oddRequest :=
    eq_ok_of_toOption (by decide +kernel)
  obtain ⟨written, hw⟩ : ∃ written, oddRequest.toJson = .ok written :=
    Request.Record.toJson_ok (by decide +kernel)
  exact ⟨written, hread, hw, documents_normalised.1 oddDocument oddRequest written hread hw⟩

end SignOn
