import SignOn.Proofs.Json.AtomLaws
import SignOn.Request.Basic

/-!
# Parameters that read alike

Neither the order of the parameters nor the spacing of the ones that are trimmed or cut into words
means anything (`SameReading`). Of two maps that read alike both make a request, and the two differ
in the order of the extensions at most, or both fail in the same way (`ofParameters_alike`).
-/

namespace SignOn

-- ---------------------------------------------------------------------------
-- Maps in another order
-- ---------------------------------------------------------------------------

theorem Entries.get?_eq_some_iff {entries : List (String × α)} {key : String} {value : α}
    (h : (entries.map Prod.fst).Nodup) :
    get? key entries = some value ↔ (key, value) ∈ entries := by
  induction entries with
  | nil => simp [get?]
  | cons entry rest ih =>
    obtain ⟨k, v⟩ := entry
    rw [List.map_cons, List.nodup_cons] at h
    rw [get?, List.mem_cons, Prod.mk.injEq]
    split
    · next hk =>
      subst hk
      have hnew : (k, value) ∉ rest := fun hm => h.1 (List.mem_map.mpr ⟨_, hm, rfl⟩)
      simp [hnew, eq_comm]
    · next hk => simp [ih h.2, Ne.symm hk]

namespace Assoc

variable {m n : Assoc α} {key : String} {p : String → Bool}

theorem get?_eq_some_iff : m.get? key = some value ↔ (key, value) ∈ m.entries :=
  Entries.get?_eq_some_iff m.nodup

theorem get?_of_perm (h : m.entries.Perm n.entries) (key : String) : m.get? key = n.get? key :=
  Option.ext fun value => by rw [get?_eq_some_iff, get?_eq_some_iff, h.mem_iff]

theorem get?_filterKeys (m : Assoc α) (h : p key = true) :
    (m.filterKeys p).get? key = m.get? key :=
  Option.ext fun value => by simp [get?_eq_some_iff, filterKeys, h]

end Assoc

-- ---------------------------------------------------------------------------
-- What a reading makes of the parameters
-- ---------------------------------------------------------------------------

namespace Request

def spacedNames : List String :=
  ["client_id", "scope", "prompt", "acr_values"]

/-- Two maps of parameters that differ in the order of their entries and in the spacing of some. -/
structure SameReading (first second : Assoc String) : Prop where
  others : (first.filterKeys (!spacedNames.contains ·)).entries.Perm
    (second.filterKeys (!spacedNames.contains ·)).entries
  clientId_eq : Text.trim ((first.get? "client_id").getD "") =
    Text.trim ((second.get? "client_id").getD "")
  /-- Scopes may be repeated, and be listed in any order. -/
  scope_iff : ∀ word, word ∈ Text.words ((first.get? "scope").getD "") ↔
    word ∈ Text.words ((second.get? "scope").getD "")
  prompt_eq : Text.words ((first.get? "prompt").getD "") =
    Text.words ((second.get? "prompt").getD "")
  acrValues_eq : Text.words ((first.get? "acr_values").getD "") =
    Text.words ((second.get? "acr_values").getD "")

/-- Two requests that are equal up to the order of their extensions. -/
structure Alike (first second : Request) : Prop where
  eq : second = { first with extensions := second.extensions }
  extensions : first.extensions.entries.Perm second.extensions.entries

variable {first second : Assoc String}

theorem SameReading.of_perm (h : first.entries.Perm second.entries) :
    SameReading first second where
  others := h.filter _
  clientId_eq := by rw [Assoc.get?_of_perm h]
  scope_iff word := by rw [Assoc.get?_of_perm h]
  prompt_eq := by rw [Assoc.get?_of_perm h]
  acrValues_eq := by rw [Assoc.get?_of_perm h]

theorem SameReading.get?_eq (h : SameReading first second) (name : String)
    (hn : spacedNames.contains name = false) : first.get? name = second.get? name := by
  have hkept : (!spacedNames.contains name) = true := by rw [hn]; rfl
  have heq := Assoc.get?_of_perm h.others name
  rwa [Assoc.get?_filterKeys first hkept, Assoc.get?_filterKeys second hkept] at heq

/-- Every name whose spacing means nothing is defined, and so is no extension. -/
theorem SameReading.extensions (h : SameReading first second) :
    (first.filterKeys (!definedNames.contains ·)).entries.Perm
      (second.filterKeys (!definedNames.contains ·)).entries := by
  have hspaced (name : String) : (!definedNames.contains name && !spacedNames.contains name) =
      !definedNames.contains name := by
    have hsub : ∀ name ∈ spacedNames, name ∈ definedNames := by decide
    rw [Bool.eq_iff_iff]
    simpa using fun hn hs => hn (hsub name hs)
  have hperm := h.others.filter fun entry => !definedNames.contains entry.1
  simp only [Assoc.filterKeys, List.filter_filter, hspaced] at hperm
  exact hperm

theorem ofParameters_alike (h : SameReading first second) :
    (∃ fault, ofParameters first = .error fault ∧ ofParameters second = .error fault) ∨
      ∃ request other, ofParameters first = .ok request ∧ ofParameters second = .ok other ∧
        request.Alike other := by
  unfold ofParameters tokens
  simp only [h.clientId_eq, h.get?_eq "max_age" rfl]
  split
  · exact .inl ⟨_, rfl, rfl⟩
  · cases readMaxAge (second.get? "max_age") with
    | error fault => exact .inl ⟨fault, rfl, rfl⟩
    | ok maxAge =>
      refine .inr ⟨_, _, rfl, rfl, ?_, h.extensions⟩
      simp only [AtomSet.ofTexts_congr h.scope_iff, h.prompt_eq, h.acrValues_eq,
        h.get?_eq "redirect_uri" rfl, h.get?_eq "state" rfl, h.get?_eq "response_type" rfl,
        h.get?_eq "nonce" rfl, h.get?_eq "login_hint" rfl]

end Request

end SignOn
