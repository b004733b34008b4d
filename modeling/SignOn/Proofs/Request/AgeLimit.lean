import SignOn.Proofs.Text.NumeralLaws
import SignOn.Request.Basic

/-!
# The age limit of a request

`SetsLimit` says which age limit a parameter sets and `BadLimit` what is wrong with one that sets
none, both in terms of the grammar of numerals. A request that names a client gets the limit that is
set, or it fails for what is wrong with it, and for nothing else (`ofParameters_maxAge`).
-/

namespace SignOn.Request

open Text (isBlank)
open Text.Numeral (Digits IsNumeral)

/-- The age limit that a parameter sets, if any. -/
inductive SetsLimit : Option String → Option Int → Prop
  | absent : SetsLimit none none
  | blank (h : ∀ c ∈ text.toList, isBlank c = true) : SetsLimit (some text) none
  | limit (h : IsNumeral text n) (hn : 0 ≤ n) : SetsLimit (some text) (some n)

/-- What is wrong with a parameter that sets no age limit. -/
inductive BadLimit : Option String → Fault → Prop
  | negative (h : IsNumeral text n) (hn : n < 0) : BadLimit (some text) (.maxAgeNegative n)
  | unread (hb : ∃ c ∈ text.toList, isBlank c = false) (h : ∀ n, ¬ IsNumeral text n) :
    BadLimit (some text) (.maxAgeNotInteger text)

section
variable {text : String} {value : Option String} {limit : Option Int} {fault : Fault}

theorem trim_ne_empty_of_numeral {n : Int} (h : IsNumeral text n) : Text.trim text ≠ "" := by
  intro hempty
  have hread := Text.Numeral.read_trim_eq_ok.mpr h
  rw [hempty] at hread
  cases hread

theorem readMaxAge_of_numeral {n : Int} (h : IsNumeral text n) :
    readMaxAge (some text) = if n < 0 then .error (.maxAgeNegative n) else .ok (some n) := by
  simp only [readMaxAge, if_neg (trim_ne_empty_of_numeral h), Text.Numeral.read_trim_eq_ok.mpr h]

theorem readMaxAge_of_unread (hb : Text.trim text ≠ "") (h : ∀ n, ¬ IsNumeral text n) :
    readMaxAge (some text) = .error (.maxAgeNotInteger text) := by
  cases hr : Text.Numeral.read (Text.trim text) with
  | ok n => exact absurd (Text.Numeral.read_trim_eq_ok.mp hr) (h n)
  | error cause => simp only [readMaxAge, if_neg hb, hr]

theorem readMaxAge_cases (value : Option String) :
    (∃ limit, SetsLimit value limit ∧ readMaxAge value = .ok limit) ∨
      ∃ fault, BadLimit value fault ∧ readMaxAge value = .error fault := by
  cases value with
  | none => exact .inl ⟨none, .absent, rfl⟩
  | some text =>
    by_cases hb : Text.trim text = ""
    · exact .inl ⟨none, .blank (Text.trim_eq_empty_iff.mp hb), by rw [readMaxAge, if_pos hb]⟩
    · by_cases h : ∃ n, IsNumeral text n
      · obtain ⟨n, h⟩ := h
        rw [readMaxAge_of_numeral h]
        by_cases hn : n < 0
        · exact .inr ⟨_, .negative h hn, if_pos hn⟩
        · exact .inl ⟨_, .limit h (Int.not_lt.mp hn), if_neg hn⟩
      · have hnone : ∀ n, ¬ IsNumeral text n := fun n hn => h ⟨n, hn⟩
        exact .inr ⟨_, .unread (Text.trim_ne_empty_iff.mp hb) hnone, readMaxAge_of_unread hb hnone⟩

theorem SetsLimit.read_eq (h : SetsLimit value limit) : readMaxAge value = .ok limit := by
  cases h with
  | absent => rfl
  | blank h => rw [readMaxAge, if_pos (Text.trim_eq_empty_iff.mpr h)]
  | limit h hn => rw [readMaxAge_of_numeral h, if_neg (Int.not_lt.mpr hn)]

theorem BadLimit.read_eq (h : BadLimit value fault) : readMaxAge value = .error fault := by
  cases h with
  | negative h hn => rw [readMaxAge_of_numeral h, if_pos hn]
  | unread hb h => exact readMaxAge_of_unread (Text.trim_ne_empty_iff.mpr hb) h

theorem readMaxAge_eq_ok : readMaxAge value = .ok limit ↔ SetsLimit value limit := by
  refine ⟨fun h => ?_, SetsLimit.read_eq⟩
  rcases readMaxAge_cases value with ⟨limit, hs, hr⟩ | ⟨fault, hb, hr⟩
  · cases h.symm.trans hr
    exact hs
  · cases h.symm.trans hr

theorem readMaxAge_eq_error : readMaxAge value = .error fault ↔ BadLimit value fault := by
  refine ⟨fun h => ?_, BadLimit.read_eq⟩
  rcases readMaxAge_cases value with ⟨limit, hs, hr⟩ | ⟨fault, hb, hr⟩
  · cases h.symm.trans hr
  · cases h.symm.trans hr
    exact hb

end

variable {parameters : Assoc String}

theorem maxAge_ofParameters (h : Text.trim ((parameters.get? "client_id").getD "") ≠ "") :
    (ofParameters parameters).map maxAge = readMaxAge (parameters.get? "max_age") := by
  simp only [ofParameters, if_neg h]
  cases readMaxAge (parameters.get? "max_age") <;> rfl

/-- A request that names a client has the age limit that its parameter sets, which is not negative.
Where the parameter sets none the request fails, for what is wrong with the limit and for nothing
else. -/
theorem ofParameters_maxAge
    (hclient : ∃ id, parameters.get? "client_id" = some id ∧ ∃ c ∈ id.toList, isBlank c = false) :
    (∀ limit, (ofParameters parameters).map maxAge = .ok limit ↔
      SetsLimit (parameters.get? "max_age") limit) ∧
    ((∀ limit, ¬ SetsLimit (parameters.get? "max_age") limit) →
      ∃ fault, ofParameters parameters = .error fault) ∧
    ∀ fault, ofParameters parameters = .error fault ↔
      BadLimit (parameters.get? "max_age") fault := by
  obtain ⟨id, hid, hnonblank⟩ := hclient
  have hread : (ofParameters parameters).map maxAge = readMaxAge (parameters.get? "max_age") := by
    apply maxAge_ofParameters
    rw [hid]
    exact Text.trim_ne_empty_iff.mpr hnonblank
  have herror (fault : Fault) : ofParameters parameters = .error fault ↔
      BadLimit (parameters.get? "max_age") fault := by
    rw [← readMaxAge_eq_error, ← hread]
    cases ofParameters parameters <;> simp [Except.map]
  refine ⟨fun limit => by rw [hread, readMaxAge_eq_ok], fun hnone => ?_, herror⟩
  rcases readMaxAge_cases (parameters.get? "max_age") with ⟨limit, hs, -⟩ | ⟨fault, hb, -⟩
  · exact absurd hs (hnone limit)
  · exact ⟨fault, (herror fault).mpr hb⟩

/-- Blanks around a numeral of digits from three scripts. -/
def oddLimit : Assoc String :=
  .ofList [("client_id", " web"), ("max_age", "\u2003+٠_٤２\x1f")]

theorem oddLimit_maxAge : oddLimit.get? "client_id" = some " web" ∧
    (ofParameters oddLimit).map maxAge = .ok (some 42) := by
  have hclient : oddLimit.get? "client_id" = some " web" := by decide +kernel
  have hlimit : oddLimit.get? "max_age" = some "\u2003+٠_٤２\x1f" := by decide +kernel
  have hdigits : Digits ['٠', '_', '٤', '２'] [0, 4, 2] :=
    .join (by decide +kernel) (.digit (by decide +kernel) (.last (by decide +kernel)))
  have hnumeral : IsNumeral "\u2003+٠_٤２\x1f" 42 :=
    ⟨['\u2003'], _, ['\x1f'], by decide +kernel, List.forall_mem_singleton.mpr (by decide),
      .plus hdigits (by decide), List.forall_mem_singleton.mpr (by decide)⟩
  have hmaxAge := (ofParameters_maxAge ⟨_, hclient, 'w', by decide +kernel, by decide⟩).1 (some 42)
  rw [hlimit] at hmaxAge
  exact ⟨hclient, hmaxAge.mpr (.limit hnumeral (by decide))⟩

end SignOn.Request
