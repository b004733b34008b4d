import Mathlib.Data.Nat.Digits.Defs
import SignOn.Proofs.Text.BlankLaws
import SignOn.Text.Numeral

/-!
# Which texts are numerals

`Digits` and `Denotes` are the grammar of integer numerals, with the number that each one writes. A
trimmed text is read as an integer just when the text is a numeral of it among blanks
(`read_trim_eq_ok`). So a text is a numeral of one integer at most (`IsNumeral.unique`).
-/

namespace SignOn.Text

theorem isBlank_of_digit {c : Char} {d : Nat} (h : digitValue? c = some d) : isBlank c = false := by
  have htable : ∀ first ∈ digitZeros, ∀ k < 10, isBlank (Char.ofNat (first + k)) = false := by
    decide +kernel
  obtain ⟨first, hfind, -⟩ := Option.map_eq_some_iff.mp h
  have hrange := List.find?_some hfind
  simp only [decide_eq_true_eq] at hrange
  have hrow := htable first (List.mem_of_find?_eq_some hfind) (c.toNat - first) (by omega)
  rwa [Nat.add_sub_cancel' hrange.1, Char.ofNat_toNat] at hrow

namespace Numeral

/-- Decimal digits of any script with single underscores between some of them. The numbers are their
values, in order. -/
inductive Digits : List Char → List Nat → Prop
  | last (h : digitValue? c = some d) : Digits [c] [d]
  | digit (h : digitValue? c = some d) (hs : Digits s ds) : Digits (c :: s) (d :: ds)
  | join (h : digitValue? c = some d) (hs : Digits s ds) : Digits (c :: '_' :: s) (d :: ds)

/-- The number that the values of digits write, the highest place first. -/
def number (ds : List Nat) : Nat :=
  Nat.ofDigits 10 ds.reverse

/-- The text is a numeral of the integer: digits, not too many, perhaps behind a sign. -/
inductive Denotes : List Char → Int → Prop
  | plain (h : Digits s ds) (hl : ds.length ≤ maxDigits) : Denotes s (number ds)
  | plus (h : Digits s ds) (hl : ds.length ≤ maxDigits) : Denotes ('+' :: s) (number ds)
  | minus (h : Digits s ds) (hl : ds.length ≤ maxDigits) : Denotes ('-' :: s) (-number ds)

-- ---------------------------------------------------------------------------
-- Groups of digits
-- ---------------------------------------------------------------------------

section
variable {s : List Char} {ds : List Nat} {c : Char}

theorem ne_mark_of_digit {d : Nat} (h : digitValue? c = some d) : c ≠ '_' ∧ c ≠ '+' ∧ c ≠ '-' := by
  have hne {mark : Char} (hm : digitValue? mark = none) : c ≠ mark := by
    rintro rfl
    cases hm.symm.trans h
  exact ⟨hne (by decide +kernel), hne (by decide +kernel), hne (by decide +kernel)⟩

theorem splitOn_digit {d : Nat} (h : digitValue? c = some d) (s : List Char) :
    (c :: s).splitOn '_' = (s.splitOn '_').modifyHead (c :: ·) := by
  rw [List.splitOn_cons_eq_if_modifyHead, if_neg (by simpa using (ne_mark_of_digit h).1)]

theorem splitOn_join {d : Nat} (h : digitValue? c = some d) (s : List Char) :
    (c :: '_' :: s).splitOn '_' = [c] :: s.splitOn '_' := by
  have hjoin : '_' ∉ [c] := by simpa using (ne_mark_of_digit h).1.symm
  exact List.splitOn_append_cons_self_of_not_mem hjoin s

theorem Digits.groups (h : Digits s ds) :
    [] ∉ s.splitOn '_' ∧ (s.splitOn '_').flatten.map digitValue? = ds.map some := by
  induction h with
  | last h => simp [splitOn_digit h, h]
  | @digit c d s ds h hs ih =>
    rw [splitOn_digit h]
    obtain ⟨first, rest, hsplit⟩ := List.exists_cons_of_ne_nil (List.splitOn_ne_nil '_' s)
    rw [hsplit] at ih ⊢
    obtain ⟨hgroups, hvalues⟩ := ih
    refine ⟨?_, by simpa [h] using hvalues⟩
    simpa using fun hm => hgroups (List.mem_cons_of_mem _ hm)
  | join h hs ih =>
    rw [splitOn_join h]
    simpa [h] using ih

theorem Digits.isDigitOrJoin (h : Digits s ds) : ∀ c ∈ s, isDigitOrJoin c = true := by
  have hdigit {c : Char} {d : Nat} (h : digitValue? c = some d) :
      Numeral.isDigitOrJoin c = true := by
    simp [Numeral.isDigitOrJoin, isDigit, h]
  induction h with
  | last h => simpa using hdigit h
  | digit h hs ih => simpa using ⟨hdigit h, ih⟩
  | join h hs ih => simpa using ⟨hdigit h, by decide, ih⟩

theorem splitOn_of_join (s : List Char) : ('_' :: s).splitOn '_' = [] :: s.splitOn '_' := by
  rw [List.splitOn_cons_eq_if_modifyHead, if_pos (beq_self_eq_true _)]

/-- The first group is empty at most at the start of the text or before an underscore there. -/
theorem digits_of_groups (hs : ∀ c ∈ s, isDigitOrJoin c = true)
    (hgroups : [] ∉ (s.splitOn '_').tail) :
    s = [] ∨ (∃ rest ds, s = '_' :: rest ∧ Digits rest ds) ∨ ∃ ds, Digits s ds := by
  induction s with
  | nil => exact .inl rfl
  | cons c s ih =>
    rw [List.forall_mem_cons] at hs
    by_cases hc : c = '_'
    · subst hc
      rw [splitOn_of_join, List.tail_cons] at hgroups
      rcases ih hs.2 (hgroups ∘ List.mem_of_mem_tail) with
        rfl | ⟨rest, ds, rfl, -⟩ | ⟨ds, hds⟩
      · exact absurd (by simp) hgroups
      · exact absurd (by simp [splitOn_of_join]) hgroups
      · exact .inr (.inl ⟨s, ds, rfl, hds⟩)
    · obtain ⟨d, hd⟩ : ∃ d, digitValue? c = some d := by
        simpa [isDigitOrJoin, isDigit, hc, Option.isSome_iff_exists] using hs.1
      rw [splitOn_digit hd, List.tail_modifyHead] at hgroups
      rcases ih hs.2 hgroups with rfl | ⟨rest, ds, rfl, hds⟩ | ⟨ds, hds⟩
      · exact .inr (.inr ⟨[d], .last hd⟩)
      · exact .inr (.inr ⟨d :: ds, .join hd hds⟩)
      · exact .inr (.inr ⟨d :: ds, .digit hd hds⟩)

theorem exists_digits (hs : ∀ c ∈ s, isDigitOrJoin c = true)
    (hgroups : [] ∉ s.splitOn '_') : ∃ ds, Digits s ds := by
  rcases digits_of_groups hs (hgroups ∘ List.mem_of_mem_tail) with rfl | ⟨rest, ds, rfl, -⟩ | h
  · exact absurd (by simp) hgroups
  · exact absurd (by simp [splitOn_of_join]) hgroups
  · exact h

theorem valueOf_eq_number (h : s.map digitValue? = ds.map some) : valueOf s = number ds := by
  calc valueOf s = (s.map digitValue?).foldl (fun n d => 10 * n + d.getD 0) 0 := by
        rw [valueOf, List.foldl_map]
    _ = ds.foldl (fun n d => 10 * n + d) 0 := by
        rw [h, List.foldl_map]
        rfl
    _ = number ds := by
        rw [number, Nat.ofDigits_eq_foldr, List.foldr_reverse]
        simp [Nat.add_comm]

theorem Digits.length_groups (h : Digits s ds) : (s.splitOn '_').flatten.length = ds.length := by
  rw [← List.length_map digitValue?, h.groups.2, List.length_map]

theorem readGroups_eq_ok {n : Nat} : readGroups s = .ok n ↔
    ∃ ds, Digits s ds ∧ ds.length ≤ maxDigits ∧ number ds = n := by
  constructor
  · intro h
    simp only [readGroups] at h
    split at h
    · cases h
    · split at h
      · cases h
      · split at h
        · cases h
        · next hempty hlong hrest =>
          have hall : ∀ c ∈ s, isDigitOrJoin c = true :=
            List.dropWhile_eq_nil_iff.mp (by simpa using hrest)
          rw [List.takeWhile_eq_self_iff.mpr hall] at hempty hlong h
          obtain ⟨ds, hds⟩ := exists_digits hall (by simpa using hempty)
          refine ⟨ds, hds, ?_, ?_⟩
          · rw [hds.length_groups] at hlong
            omega
          · rw [← valueOf_eq_number hds.groups.2]
            exact Except.ok.inj h
  · rintro ⟨ds, hds, hlength, rfl⟩
    obtain ⟨hgroups, hvalues⟩ := hds.groups
    have hall := hds.isDigitOrJoin
    have hfull : (s.splitOn '_').any (·.isEmpty) = false := by
      rw [List.any_eq_false]
      intro group hm hempty
      rw [List.isEmpty_iff.mp hempty] at hm
      exact hgroups hm
    simp only [readGroups, List.takeWhile_eq_self_iff.mpr hall, List.dropWhile_eq_nil_iff.mpr hall,
      hfull, hds.length_groups]
    rw [if_neg (by simp), if_neg (by omega), if_neg (by simp), valueOf_eq_number hvalues]

-- ---------------------------------------------------------------------------
-- Signs and blanks
-- ---------------------------------------------------------------------------

theorem Digits.splitSign_eq (h : Digits s ds) : splitSign s = (false, s) := by
  obtain ⟨c, d, rest, rfl, hd⟩ : ∃ c d rest, s = c :: rest ∧ digitValue? c = some d := by
    cases h with
    | last h => exact ⟨_, _, _, rfl, h⟩
    | digit h hs => exact ⟨_, _, _, rfl, h⟩
    | join h hs => exact ⟨_, _, _, rfl, h⟩
  obtain ⟨-, hplus, hminus⟩ := ne_mark_of_digit hd
  simp [splitSign, hplus, hminus]

theorem denotes_iff {n : Int} : Denotes s n ↔ ∃ ds, Digits (splitSign s).2 ds ∧
    ds.length ≤ maxDigits ∧ n = if (splitSign s).1 then -(number ds : Int) else number ds := by
  constructor
  · intro h
    cases h with
    | @plain _ ds h hl => exact ⟨ds, by rw [h.splitSign_eq]; exact ⟨h, hl, rfl⟩⟩
    | @plus rest ds h hl => exact ⟨ds, h, hl, rfl⟩
    | @minus rest ds h hl => exact ⟨ds, h, hl, rfl⟩
  · rintro ⟨ds, h, hl, rfl⟩
    unfold splitSign at h ⊢
    split at h
    · exact .plus h hl
    · exact .minus h hl
    · exact .plain h hl

theorem read_eq_ok {text : String} {n : Int} :
    read text = .ok n ↔ Denotes (trimBy isPadding text.toList) n := by
  rw [denotes_iff, read]
  simp only
  constructor
  · intro h
    split at h
    · cases h
    · next n hn =>
      obtain ⟨ds, hds, hl, rfl⟩ := readGroups_eq_ok.mp hn
      exact ⟨ds, hds, hl, (Except.ok.inj h).symm⟩
  · rintro ⟨ds, hds, hl, rfl⟩
    rw [readGroups_eq_ok.mpr ⟨ds, hds, hl, rfl⟩]

theorem Digits.not_isBlank (h : Digits s ds) : ∀ c ∈ s, isBlank c = false := by
  induction h with
  | last h => simpa using isBlank_of_digit h
  | digit h hs ih => simpa using ⟨isBlank_of_digit h, ih⟩
  | join h hs ih => simpa using ⟨isBlank_of_digit h, by decide, ih⟩

theorem Denotes.not_isBlank {n : Int} (h : Denotes s n) : ∀ c ∈ s, isBlank c = false := by
  cases h with
  | plain h hl => exact h.not_isBlank
  | plus h hl => simpa using ⟨by decide, h.not_isBlank⟩
  | minus h hl => simpa using ⟨by decide, h.not_isBlank⟩

theorem Denotes.ne_nil {n : Int} (h : Denotes s n) : s ≠ [] := by
  cases h with
  | plain h hl => cases h <;> simp
  | plus h hl => simp
  | minus h hl => simp

def IsNumeral (text : String) (n : Int) : Prop :=
  ∃ before numeral after, text.toList = before ++ numeral ++ after ∧
    (∀ c ∈ before, isBlank c = true) ∧ Denotes numeral n ∧ ∀ c ∈ after, isBlank c = true

/-- Spaces that a trimmed text may still have around it are blanks, so it has none. -/
theorem trimBy_isPadding_trim (text : String) :
    trimBy isPadding (trim text).toList = trimBy isBlank text.toList := by
  have htrim : IsTrim isPadding (trimBy isBlank text.toList) :=
    (isTrim_trimBy isBlank _).of_imp fun c hc => (Bool.and_eq_true_iff.mp hc).1
  rw [trim, String.toList_ofList, htrim.trimBy_eq]

theorem read_trim_eq_ok {text : String} {n : Int} :
    read (trim text) = .ok n ↔ IsNumeral text n := by
  rw [read_eq_ok, trimBy_isPadding_trim]
  constructor
  · intro h
    obtain ⟨before, after, hparts, hbefore, hafter⟩ := trimBy_parts isBlank text.toList
    exact ⟨before, _, after, hparts, hbefore, h, hafter⟩
  · rintro ⟨before, numeral, after, hparts, hbefore, h, hafter⟩
    have htrim : IsTrim isBlank numeral := .of_forall h.not_isBlank
    rwa [hparts, trimBy_between hbefore htrim h.ne_nil hafter]

theorem IsNumeral.unique {text : String} {n m : Int} (h : IsNumeral text n)
    (h' : IsNumeral text m) : n = m :=
  Except.ok.inj ((read_trim_eq_ok.mpr h).symm.trans (read_trim_eq_ok.mpr h'))

end

end Numeral

end SignOn.Text
