import SignOn.Decision
import SignOn.Proofs.Time.WholeSeconds

/-!
# Overdue logins

A login is overdue from the microsecond on at which the limit and one more second have passed. For
spans of less than 2³³ seconds the rounding of the quotient plays no part in that
(`ofAge_forces_iff`): a login that is overdue stays so, and is so for every smaller limit.
-/

namespace SignOn.Decision

variable {limit : Int} {last now : Instant}

theorem lt_wholeSeconds_iff (hs : Time.IsShort (now.since last)) :
    limit < Time.wholeSeconds (now.since last) ↔
      (limit + 1) * Time.microsPerSecond ≤ now.since last := by
  have hpos : (0 : Int) < Time.microsPerSecond := by decide
  rw [Time.wholeSeconds_eq hs, ← Int.add_one_le_iff, Int.le_ediv_iff_mul_le hpos]

theorem ofAge_of_short (hs : Time.IsShort (now.since last)) :
    ofAge (some limit) (some last) now =
      if (limit + 1) * Time.microsPerSecond ≤ now.since last then .reauthenticate .age
      else .proceed := by
  simp only [ofAge, lt_wholeSeconds_iff hs]

theorem ofAge_eq_reauthenticate (hs : Time.IsShort (now.since last)) :
    ofAge (some limit) (some last) now = .reauthenticate .age ↔
      (limit + 1) * Time.microsPerSecond ≤ now.since last := by
  rw [ofAge_of_short hs]
  split
  · next hdue => simp [hdue]
  · next hdue => simp [hdue]

/-- A limit of any sign forces a new login exactly when one second more than the limit has passed,
to the microsecond. Once forced, it stays forced later on, and it is forced by every smaller
limit. -/
theorem ofAge_forces_iff (limit : Int) (last now : Instant)
    (hs : Time.IsShort (now.since last)) :
    (ofAge (some limit) (some last) now = .reauthenticate .age ↔
        (limit + 1) * 1000000 ≤ now.micros - last.micros) ∧
      (ofAge (some limit) (some last) now ≠ .reauthenticate .age →
        ofAge (some limit) (some last) now = .proceed) ∧
      (ofAge (some limit) (some last) now = .reauthenticate .age →
        ∀ lower later, lower ≤ limit → now.micros ≤ later.micros →
          Time.IsShort (later.since last) →
          ofAge (some lower) (some last) later = .reauthenticate .age) := by
  refine ⟨ofAge_eq_reauthenticate hs, fun hn => ?_, fun hdue lower later hlower hlater hs' => ?_⟩
  · rw [ne_eq, ofAge_eq_reauthenticate hs] at hn
    rw [ofAge_of_short hs, if_neg hn]
  · rw [ofAge_eq_reauthenticate hs] at hdue
    rw [ofAge_eq_reauthenticate hs']
    calc (lower + 1) * (Time.microsPerSecond : Int) ≤ (limit + 1) * Time.microsPerSecond := by
          unfold Time.microsPerSecond
          omega
      _ ≤ now.since last := hdue
      _ ≤ later.since last := Int.sub_le_sub_right hlater _

def earlyLogin : Instant := ⟨-1⟩

/-- The last instant that is less than 2³³ seconds after the early login. -/
def lateRequest : Instant := ⟨8589934591999998⟩

/-- One microsecond is missing of the last second, which does not count yet. -/
theorem lateRequest_forces_iff :
    Time.IsShort (lateRequest.since earlyLogin) ∧
      (ofAge (some 8589934591) (some earlyLogin) lateRequest = .reauthenticate .age ↔
        (8589934591 + 1) * 1000000 ≤ lateRequest.micros - earlyLogin.micros) ∧
      ofAge (some 8589934591) (some earlyLogin) lateRequest = .proceed ∧
      ofAge (some 8589934590) (some earlyLogin) lateRequest = .reauthenticate .age := by
  have hs : Time.IsShort (lateRequest.since earlyLogin) := by decide
  obtain ⟨hiff, hproceeds, -⟩ := ofAge_forces_iff 8589934591 earlyLogin lateRequest hs
  have hforced := (ofAge_forces_iff 8589934590 earlyLogin lateRequest hs).1
  exact ⟨hs, hiff, hproceeds (by rw [ne_eq, hiff]; decide), hforced.mpr (by decide)⟩

-- From 2³⁴ seconds on a second can count as whole before it is.
example : Time.wholeSeconds (17179869184 * 1000000 + 999999) = 17179869185 := by decide +kernel

end SignOn.Decision
