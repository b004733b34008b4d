import SignOn.Text.Utf8

/-!
# UTF-8 reads back

The bytes of a character lead the decoder from between two characters to between two characters,
and give that character (`decodeFrom_encodeChar`). So decoding undoes encoding (`decode_encode`).
-/

namespace SignOn.Text.Utf8

-- ---------------------------------------------------------------------------
-- Steps by the value of a byte
-- ---------------------------------------------------------------------------

theorem step_ascii (h : n < 0x80) : step none (UInt8.ofNat n) = ([Char.ofNat n], none) := by
  have hlt : UInt8.ofNat n < 0x80 := by
    rw [UInt8.lt_iff_toNat_lt, UInt8.toNat_ofNat', Nat.mod_eq_of_lt (by omega)]
    exact h
  have hn : (UInt8.ofNat n).toNat = n := by rw [UInt8.toNat_ofNat', Nat.mod_eq_of_lt (by omega)]
  rw [step, begin, if_pos hlt, hn]

theorem lead?_ofNat (h : n < 256) : lead? (UInt8.ofNat n) =
    if 0xc2 ≤ n ∧ n ≤ 0xdf then some ⟨1, 0x80, 0xbf, n - 0xc0⟩
    else if n = 0xe0 then some ⟨2, 0xa0, 0xbf, 0⟩
    else if n = 0xed then some ⟨2, 0x80, 0x9f, 0xd⟩
    else if 0xe1 ≤ n ∧ n ≤ 0xef then some ⟨2, 0x80, 0xbf, n - 0xe0⟩
    else if n = 0xf0 then some ⟨3, 0x90, 0xbf, 0⟩
    else if n = 0xf4 then some ⟨3, 0x80, 0x8f, 4⟩
    else if 0xf1 ≤ n ∧ n ≤ 0xf3 then some ⟨3, 0x80, 0xbf, n - 0xf0⟩
    else none := by
  simp only [lead?, UInt8.le_iff_toNat_le, ← UInt8.toNat_inj, UInt8.toNat_ofNat',
    Nat.mod_eq_of_lt h, UInt8.reduceToNat, Nat.reducePow]

theorem step_lead (h : n < 256) (hn : 0x80 ≤ n) (hp : lead? (UInt8.ofNat n) = some p) :
    step none (UInt8.ofNat n) = ([], some p) := by
  have hge : ¬ UInt8.ofNat n < 0x80 := by
    rw [UInt8.lt_iff_toNat_lt, UInt8.toNat_ofNat', Nat.mod_eq_of_lt h]
    exact Nat.not_lt.mpr hn
  rw [step, begin, if_neg hge, hp]

theorem step_continuation (p : Partial) (h : n < 64) (hlow : p.low.toNat ≤ n + 0x80)
    (hhigh : n + 0x80 ≤ p.high.toNat) :
    step (some p) (UInt8.ofNat (n + 0x80)) =
      if p.owed ≤ 1 then ([Char.ofNat (p.bits * 64 + n)], none)
      else ([], some ⟨p.owed - 1, 0x80, 0xbf, p.bits * 64 + n⟩) := by
  have hn : (UInt8.ofNat (n + 0x80)).toNat = n + 0x80 := by
    rw [UInt8.toNat_ofNat', Nat.mod_eq_of_lt (by omega)]
  have hrange : p.low ≤ UInt8.ofNat (n + 0x80) ∧ UInt8.ofNat (n + 0x80) ≤ p.high := by
    rw [UInt8.le_iff_toNat_le, UInt8.le_iff_toNat_le, hn]
    exact ⟨hlow, hhigh⟩
  rw [step, continue?, if_pos hrange]
  simp only [hn, Nat.add_sub_cancel]

-- ---------------------------------------------------------------------------
-- Characters
-- ---------------------------------------------------------------------------

theorem decodeFrom_cons (h : step state b = (out, next)) (rest : List UInt8) :
    decodeFrom state (b :: rest) = out ++ decodeFrom next rest := by
  cases state <;> rw [decodeFrom, h]

theorem lead?_two (h : 0x80 ≤ v) (h' : v ≤ 0x7ff) :
    lead? (UInt8.ofNat (v / 64 % 0x20 + 0xc0)) = some ⟨1, 0x80, 0xbf, v / 64⟩ := by
  have hq : v / 64 % 0x20 = v / 64 := Nat.mod_eq_of_lt (by omega)
  rw [hq, lead?_ofNat (by omega), if_pos (by omega), Nat.add_sub_cancel]

/-- The range of the second byte leaves out overlong forms and surrogates. -/
theorem lead?_three (h : 0x7ff < v) (h' : v ≤ 0xffff) (hs : v < 0xd800 ∨ 0xdfff < v) :
    ∃ low high, lead? (UInt8.ofNat (v / 4096 % 0x10 + 0xe0)) = some ⟨2, low, high, v / 4096⟩ ∧
      low.toNat ≤ v / 64 % 0x40 + 0x80 ∧ v / 64 % 0x40 + 0x80 ≤ high.toNat := by
  have hq : v / 4096 % 0x10 = v / 4096 := Nat.mod_eq_of_lt (by omega)
  rw [hq, lead?_ofNat (by omega), if_neg (by omega)]
  by_cases hlow : v / 4096 = 0
  · refine ⟨0xa0, 0xbf, by simp [hlow], ?_, ?_⟩ <;> simp only [UInt8.reduceToNat] <;> omega
  · rw [if_neg (by omega)]
    by_cases hhigh : v / 4096 = 0xd
    · refine ⟨0x80, 0x9f, by simp [hhigh], ?_, ?_⟩ <;> simp only [UInt8.reduceToNat] <;> omega
    · refine ⟨0x80, 0xbf, ?_, ?_, ?_⟩
      · rw [if_neg (by omega), if_pos (by omega), Nat.add_sub_cancel]
      all_goals simp only [UInt8.reduceToNat]; omega

/-- The range of the second byte leaves out overlong forms and what is no code point. -/
theorem lead?_four (h : 0xffff < v) (h' : v < 0x110000) :
    ∃ low high, lead? (UInt8.ofNat (v / 262144 % 0x08 + 0xf0)) =
        some ⟨3, low, high, v / 262144⟩ ∧
      low.toNat ≤ v / 4096 % 0x40 + 0x80 ∧ v / 4096 % 0x40 + 0x80 ≤ high.toNat := by
  have hq : v / 262144 % 0x08 = v / 262144 := Nat.mod_eq_of_lt (by omega)
  rw [hq, lead?_ofNat (by omega), if_neg (by omega), if_neg (by omega), if_neg (by omega),
    if_neg (by omega)]
  by_cases hlow : v / 262144 = 0
  · refine ⟨0x90, 0xbf, by simp [hlow], ?_, ?_⟩ <;> simp only [UInt8.reduceToNat] <;> omega
  · rw [if_neg (by omega)]
    by_cases hhigh : v / 262144 = 4
    · refine ⟨0x80, 0x8f, by simp [hhigh], ?_, ?_⟩ <;> simp only [UInt8.reduceToNat] <;> omega
    · refine ⟨0x80, 0xbf, ?_, ?_, ?_⟩
      · rw [if_neg (by omega), if_pos (by omega), Nat.add_sub_cancel]
      all_goals simp only [UInt8.reduceToNat]; omega

/-- A byte that is owed, with at least one more to come. -/
theorem decodeFrom_owed {low high : UInt8} (h : n < 64) (hlow : low.toNat ≤ n + 0x80)
    (hhigh : n + 0x80 ≤ high.toNat) (owed bits : Nat) (rest : List UInt8) :
    decodeFrom (some ⟨owed + 2, low, high, bits⟩) (UInt8.ofNat (n + 0x80) :: rest) =
      decodeFrom (some ⟨owed + 1, 0x80, 0xbf, bits * 64 + n⟩) rest := by
  have hs := step_continuation ⟨owed + 2, low, high, bits⟩ h hlow hhigh
  rw [if_neg (by simp)] at hs
  exact decodeFrom_cons hs rest

theorem decodeFrom_last {low high : UInt8} (h : n < 64) (hlow : low.toNat ≤ n + 0x80)
    (hhigh : n + 0x80 ≤ high.toNat) (bits : Nat) (rest : List UInt8) :
    decodeFrom (some ⟨1, low, high, bits⟩) (UInt8.ofNat (n + 0x80) :: rest) =
      Char.ofNat (bits * 64 + n) :: decodeFrom none rest := by
  have hs := step_continuation ⟨1, low, high, bits⟩ h hlow hhigh
  rw [if_pos (by simp)] at hs
  exact decodeFrom_cons hs rest

theorem decodeFrom_lead (h : n < 256) (hn : 0x80 ≤ n) (hp : lead? (UInt8.ofNat n) = some p)
    (rest : List UInt8) :
    decodeFrom none (UInt8.ofNat n :: rest) = decodeFrom (some p) rest :=
  decodeFrom_cons (step_lead h hn hp) rest

theorem decodeFrom_encodeChar (c : Char) (rest : List UInt8) :
    decodeFrom none (String.utf8EncodeChar c ++ rest) = c :: decodeFrom none rest := by
  have hvalid : c.val.toNat < 0xd800 ∨ 0xdfff < c.val.toNat ∧ c.val.toNat < 0x110000 := c.valid
  have hc : Char.ofNat c.val.toNat = c := Char.ofNat_toNat c
  unfold String.utf8EncodeChar
  generalize c.val.toNat = v at hvalid hc
  -- the cases are the lengths; in each the bits of the bytes make up the code point again
  simp only
  split
  · have hs := decodeFrom_cons (step_ascii (n := v) (by omega)) rest
    rwa [hc] at hs
  split
  · simp only [List.cons_append, List.nil_append]
    rw [decodeFrom_lead (by omega) (by omega) (lead?_two (by omega) (by omega)),
      decodeFrom_last (by omega) (by simp) (by simp; omega)]
    rw [show v / 64 * 64 + v % 64 = v by omega, hc]
  split
  · obtain ⟨low, high, hlead, hlow, hhigh⟩ := lead?_three (v := v) (by omega) (by omega) (by omega)
    simp only [List.cons_append, List.nil_append]
    rw [decodeFrom_lead (by omega) (by omega) hlead, decodeFrom_owed (by omega) hlow hhigh,
      decodeFrom_last (by omega) (by simp) (by simp; omega)]
    rw [show (v / 4096 * 64 + v / 64 % 64) * 64 + v % 64 = v by omega, hc]
  · obtain ⟨low, high, hlead, hlow, hhigh⟩ := lead?_four (v := v) (by omega) (by omega)
    simp only [List.cons_append, List.nil_append]
    rw [decodeFrom_lead (by omega) (by omega) hlead, decodeFrom_owed (by omega) hlow hhigh,
      decodeFrom_owed (by omega) (by simp) (by simp; omega),
      decodeFrom_last (by omega) (by simp) (by simp; omega)]
    rw [show ((v / 262144 * 64 + v / 4096 % 64) * 64 + v / 64 % 64) * 64 + v % 64 = v by omega, hc]

theorem decode_encode (s : List Char) : decode (encode s) = s := by
  induction s with
  | nil => rfl
  | cons c rest ih =>
    simp only [decode, encode, List.flatMap_cons] at ih ⊢
    rw [decodeFrom_encodeChar, ih]

end SignOn.Text.Utf8
