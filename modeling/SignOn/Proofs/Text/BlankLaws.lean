import Mathlib.Data.List.DropRight
import Mathlib.Data.List.TakeWhile
import SignOn.Text.Cut

/-!
# Trimmed text

A text is its trimmed part between characters of the class at which it is trimmed (`trimBy_parts`),
and nothing else between such characters is trimmed to it (`trimBy_between`).
-/

namespace SignOn.Text

/-- No character of the class stands at an end. -/
structure IsTrim (p : Char → Bool) (s : List Char) : Prop where
  head : ∀ c, s.head? = some c → p c = false
  last : ∀ c, s.getLast? = some c → p c = false

section
variable {p q : Char → Bool} {s before after : List Char}

theorem trimBy_eq_rdropWhile (p : Char → Bool) (s : List Char) :
    trimBy p s = (s.dropWhile p).rdropWhile p :=
  rfl

theorem trimBy_parts (p : Char → Bool) (s : List Char) :
    ∃ before after, s = before ++ trimBy p s ++ after ∧
      (∀ c ∈ before, p c = true) ∧ ∀ c ∈ after, p c = true := by
  refine ⟨s.takeWhile p, (s.dropWhile p).rtakeWhile p, ?_, fun c hc => ?_, fun c hc => ?_⟩
  · rw [trimBy_eq_rdropWhile, List.append_assoc, List.rdropWhile_append_rtakeWhile,
      List.takeWhile_append_dropWhile]
  · exact List.mem_takeWhile_imp hc
  · exact List.mem_rtakeWhile_imp hc

theorem dropWhile_of_head (h : ∀ c, s.head? = some c → p c = false) : s.dropWhile p = s := by
  cases s with
  | nil => rfl
  | cons c rest => rw [List.dropWhile_cons_of_neg (by simp [h c rfl])]

theorem trimBy_between (hbefore : ∀ c ∈ before, p c = true) (h : IsTrim p s) (hne : s ≠ [])
    (hafter : ∀ c ∈ after, p c = true) : trimBy p (before ++ s ++ after) = s := by
  have hstart : (before ++ s ++ after).dropWhile p = s ++ after := by
    rw [List.append_assoc, List.dropWhile_append_of_pos hbefore]
    refine dropWhile_of_head fun c hc => h.head c ?_
    rwa [List.head?_append_of_ne_nil _ hne] at hc
  have hend : (s ++ after).reverse.dropWhile p = s.reverse := by
    rw [List.reverse_append, List.dropWhile_append_of_pos (by simpa using hafter)]
    refine dropWhile_of_head fun c hc => h.last c ?_
    rwa [List.head?_reverse] at hc
  rw [trimBy, hstart, hend, List.reverse_reverse]

theorem IsTrim.trimBy_eq (h : IsTrim p s) : trimBy p s = s := by
  by_cases hne : s = []
  · rw [hne]
    rfl
  · have hnone : ∀ c ∈ ([] : List Char), p c = true := by simp
    simpa using trimBy_between hnone h hne hnone

theorem isTrim_trimBy (p : Char → Bool) (s : List Char) : IsTrim p (trimBy p s) where
  head c hc := by
    rw [trimBy_eq_rdropWhile] at hc
    have hne : (s.dropWhile p).rdropWhile p ≠ [] := by
      intro hnil
      simp [hnil] at hc
    obtain ⟨after, hafter⟩ := List.rdropWhile_prefix p (s.dropWhile p)
    have hhead : (s.dropWhile p).head? = some c := by
      rw [← hafter, List.head?_append_of_ne_nil _ hne, hc]
    have hnot := List.head?_dropWhile_not p s
    simpa [hhead] using hnot
  last c hc := by
    rw [trimBy_eq_rdropWhile] at hc
    obtain ⟨hne, rfl⟩ := List.mem_getLast?_eq_getLast hc
    simpa using List.rdropWhile_last_not p _ hne

theorem IsTrim.of_imp (h : IsTrim p s) (hq : ∀ c, q c = true → p c = true) : IsTrim q s where
  head c hc := Bool.eq_false_iff.mpr fun hqc => by cases (h.head c hc).symm.trans (hq c hqc)
  last c hc := Bool.eq_false_iff.mpr fun hqc => by cases (h.last c hc).symm.trans (hq c hqc)

theorem IsTrim.of_forall (h : ∀ c ∈ s, p c = false) : IsTrim p s where
  head c hc := h c (List.mem_of_head? hc)
  last c hc := h c (List.mem_of_getLast? hc)

theorem trimBy_eq_nil_iff : trimBy p s = [] ↔ ∀ c ∈ s, p c = true := by
  constructor
  · intro h c hc
    obtain ⟨before, after, hs, hbefore, hafter⟩ := trimBy_parts p s
    rw [h, List.append_nil] at hs
    rw [hs] at hc
    exact (List.mem_append.mp hc).elim (hbefore c) (hafter c)
  · intro h
    rw [trimBy, List.dropWhile_eq_nil_iff.mpr h]
    rfl

end

theorem trim_eq_empty_iff {text : String} :
    trim text = "" ↔ ∀ c ∈ text.toList, isBlank c = true := by
  rw [← trimBy_eq_nil_iff, trim, String.ofList_eq_empty_iff]

theorem trim_ne_empty_iff {text : String} :
    trim text ≠ "" ↔ ∃ c ∈ text.toList, isBlank c = false := by
  simp [trim_eq_empty_iff]

end SignOn.Text
