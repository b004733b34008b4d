import SignOn.Proofs.Text.Utf8Laws
import SignOn.Uri.Basic
import SignOn.Uri.Form

/-!
# Form encoding reads back

An encoded text is made of ASCII characters without delimiters (`isEncoded_encodeText`), and its
units are the bytes of the text (`units_encodeText`). So what `encode` writes `decode` reads back,
pair by pair (`decode_encode`), also when it is sent as bytes (`decodeBytes_encode`).
-/

namespace SignOn.Uri.Form

open Text (Utf8.encode)

-- ---------------------------------------------------------------------------
-- The characters of an encoded text
-- ---------------------------------------------------------------------------

def isEncoded (c : Char) : Bool :=
  isPlain c || c == '+' || c == '%'

theorem toNat_lt_of_isPlain {c : Char} (h : isPlain c = true) : c.toNat < 0x80 := by
  have hle (d : Char) (hd : c ≤ d) : c.toNat ≤ d.toNat := hd
  simp only [isPlain, Bool.or_eq_true, Bool.and_eq_true, decide_eq_true_eq, beq_iff_eq] at h
  rcases h with (((((⟨-, h⟩ | ⟨-, h⟩) | ⟨-, h⟩) | rfl) | rfl) | rfl) | rfl
  · exact Nat.lt_of_le_of_lt (hle _ h) (by decide)
  · exact Nat.lt_of_le_of_lt (hle _ h) (by decide)
  · exact Nat.lt_of_le_of_lt (hle _ h) (by decide)
  all_goals decide

theorem toNat_lt_of_isEncoded {c : Char} (h : isEncoded c = true) : c.toNat < 0x80 := by
  simp only [isEncoded, Bool.or_eq_true, beq_iff_eq] at h
  rcases h with (h | rfl) | rfl
  · exact toNat_lt_of_isPlain h
  all_goals decide

theorem isPlain_upperHexDigit (n : Nat) (h : n < 16) :
    isPlain (Nat.digitChar n).toUpper = true := by
  have all : ∀ n : Fin 16, isPlain (Nat.digitChar n).toUpper = true := by decide
  exact all ⟨n, h⟩

theorem percent_eq (b : UInt8) : percent b =
    ['%', (Nat.digitChar (b.toNat / 16 % 16)).toUpper, (Nat.digitChar (b.toNat % 16)).toUpper] :=
  rfl

theorem isEncoded_percent (b : UInt8) : ∀ c ∈ percent b, isEncoded c = true := by
  intro c hc
  rw [percent_eq] at hc
  simp only [List.mem_cons, List.not_mem_nil, or_false] at hc
  rcases hc with rfl | rfl | rfl
  · rfl
  · simp [isEncoded, isPlain_upperHexDigit _ (Nat.mod_lt _ (by decide))]
  · simp [isEncoded, isPlain_upperHexDigit _ (Nat.mod_lt _ (by decide))]

theorem isEncoded_encodeText (s : String) : ∀ c ∈ encodeText s, isEncoded c = true := by
  intro c hc
  obtain ⟨d, -, hd⟩ := List.mem_flatMap.mp hc
  unfold encodeChar at hd
  split at hd
  · rw [List.mem_singleton.mp hd]
    rfl
  split at hd
  · next hplain =>
    rw [List.mem_singleton.mp hd]
    simp [isEncoded, hplain]
  · obtain ⟨b, -, hb⟩ := List.mem_flatMap.mp hd
    exact isEncoded_percent b c hb

theorem not_mem_encodeText {c : Char} (h : isEncoded c = false) (s : String) :
    c ∉ encodeText s := by
  intro hc
  cases h.symm.trans (isEncoded_encodeText s c hc)

-- ---------------------------------------------------------------------------
-- Texts
-- ---------------------------------------------------------------------------

theorem hexValue?_percent (b : UInt8) :
    Text.hexValue? [(Nat.digitChar (b.toNat / 16 % 16)).toUpper,
      (Nat.digitChar (b.toNat % 16)).toUpper] = some b.toNat := by
  have hb : b.toNat < 256 := b.toNat_lt
  simp only [Text.hexValue?, List.foldl_cons, List.foldl_nil, Option.bind_some,
    Text.hexDigit?_upper_digitChar _ (Nat.mod_lt _ (by decide : 0 < 16)), Option.map_some,
    Option.some.injEq]
  omega

theorem units_percent (b : UInt8) (rest : List Char) :
    units (percent b ++ rest) = .byte b :: units rest := by
  rw [percent_eq]
  simp only [List.cons_append, List.nil_append, units, hexValue?_percent, UInt8.ofNat_toNat]

theorem units_plain {c : Char} (h : isPlain c = true) (rest : List Char) :
    units (c :: rest) = .byte (UInt8.ofNat c.toNat) :: units rest := by
  have hplus : c ≠ '+' := by
    rintro rfl
    cases h
  have hpercent : c ≠ '%' := by
    rintro rfl
    cases h
  rw [units, if_pos (toNat_lt_of_isPlain h)]
  · exact hplus
  · exact fun _ _ _ hc _ => hpercent hc

theorem utf8EncodeChar_ascii {c : Char} (h : c.toNat < 0x80) :
    String.utf8EncodeChar c = [UInt8.ofNat c.toNat] := by
  have hle : c.val.toNat ≤ 0x7f := Nat.le_of_lt_succ h
  simp only [String.utf8EncodeChar, if_pos hle]
  rfl

theorem units_flatMap_percent (bytes : List UInt8) (rest : List Char) :
    units (bytes.flatMap percent ++ rest) = bytes.map .byte ++ units rest := by
  induction bytes with
  | nil => rfl
  | cons b bytes ih => rw [List.flatMap_cons, List.append_assoc, units_percent, ih]; rfl

theorem units_encodeChar (c : Char) (rest : List Char) :
    units (encodeChar c ++ rest) = (String.utf8EncodeChar c).map .byte ++ units rest := by
  unfold encodeChar
  split
  · next h =>
    subst h
    rfl
  split
  · next h =>
    rw [utf8EncodeChar_ascii (toNat_lt_of_isPlain h)]
    exact units_plain h rest
  · exact units_flatMap_percent _ rest

theorem units_encodeText (s : String) :
    units (encodeText s) = (Utf8.encode s.toList).map .byte := by
  have h : ∀ cs : List Char, units (cs.flatMap encodeChar) = (Utf8.encode cs).map .byte := by
    intro cs
    induction cs with
    | nil => rfl
    | cons c cs ih =>
      rw [List.flatMap_cons, units_encodeChar, ih, Utf8.encode, Utf8.encode, List.flatMap_cons,
        List.map_append]
  exact h s.toList

theorem decodeUnits_bytes (state : Text.Utf8.State) (bytes : List UInt8) :
    decodeUnits state (bytes.map .byte) = Text.Utf8.decodeFrom state bytes := by
  induction bytes generalizing state with
  | nil => cases state <;> rfl
  | cons b rest ih =>
    rw [List.map_cons]
    cases state <;> rw [decodeUnits, Text.Utf8.decodeFrom, ih]

theorem decodeText_encodeText (s : String) : decodeText (encodeText s) = s := by
  have h := Text.Utf8.decode_encode s.toList
  rw [Text.Utf8.decode] at h
  rw [decodeText, units_encodeText, decodeUnits_bytes, h, String.ofList_toList]

-- ---------------------------------------------------------------------------
-- Pairs
-- ---------------------------------------------------------------------------

theorem decodePair_encodePair (pair : String × String) : decodePair (encodePair pair) = pair := by
  rw [decodePair, encodePair, Text.cut_append_cons (not_mem_encodeText rfl pair.1)]
  simp only [Option.getD_some, decodeText_encodeText]

theorem not_mem_encodePair (pair : String × String) : '&' ∉ encodePair pair := by
  rw [encodePair, List.mem_append, List.mem_cons]
  rintro (h | h | h)
  · exact not_mem_encodeText rfl pair.1 h
  · cases h
  · exact not_mem_encodeText rfl pair.2 h

theorem encodePair_isEmpty (pair : String × String) : (encodePair pair).isEmpty = false := by
  rw [encodePair]
  cases encodeText pair.1 <;> rfl

theorem decode_encode (pairs : List (String × String)) : decode (encode pairs) = pairs := by
  cases pairs with
  | nil => rfl
  | cons pair rest =>
    have hsplit : (encode (pair :: rest)).splitOn '&' = (pair :: rest).map encodePair := by
      refine List.splitOn_intercalate '&' ?_ (by simp)
      rintro _ hl
      obtain ⟨other, -, rfl⟩ := List.mem_map.mp hl
      exact not_mem_encodePair other
    have hkept : ((pair :: rest).map encodePair).filter (!·.isEmpty) =
        (pair :: rest).map encodePair := by
      refine List.filter_eq_self.mpr ?_
      rintro _ hl
      obtain ⟨other, -, rfl⟩ := List.mem_map.mp hl
      simp [encodePair_isEmpty]
    have hid : decodePair ∘ encodePair = id := funext decodePair_encodePair
    rw [decode, hsplit, hkept, List.map_map, hid, List.map_id]

-- ---------------------------------------------------------------------------
-- Bytes
-- ---------------------------------------------------------------------------

theorem mem_intercalate {c : Char} {pieces : List (List Char)}
    (h : c ∈ ['&'].intercalate pieces) : c = '&' ∨ ∃ piece ∈ pieces, c ∈ piece := by
  induction pieces with
  | nil => simp [List.intercalate] at h
  | cons piece rest ih =>
    cases rest with
    | nil => exact .inr ⟨piece, List.mem_cons_self .., by simpa [List.intercalate] using h⟩
    | cons next rest =>
      have hcons : ['&'].intercalate (piece :: next :: rest) =
          piece ++ '&' :: ['&'].intercalate (next :: rest) := by
        simp [List.intercalate]
      rw [hcons, List.mem_append, List.mem_cons] at h
      rcases h with h | h | h
      · exact .inr ⟨piece, List.mem_cons_self .., h⟩
      · exact .inl h
      · exact (ih h).imp id fun ⟨found, hf, hc⟩ => ⟨found, List.mem_cons_of_mem _ hf, hc⟩

theorem mem_encode {c : Char} {pairs : List (String × String)} (h : c ∈ encode pairs) :
    isEncoded c = true ∨ c = '=' ∨ c = '&' := by
  rcases mem_intercalate h with rfl | ⟨piece, hp, hc⟩
  · exact .inr (.inr rfl)
  · obtain ⟨pair, -, rfl⟩ := List.mem_map.mp hp
    rw [encodePair, List.mem_append, List.mem_cons] at hc
    rcases hc with hc | rfl | hc
    · exact .inl (isEncoded_encodeText _ c hc)
    · exact .inr (.inl rfl)
    · exact .inl (isEncoded_encodeText _ c hc)

theorem mem_encode_marks {c : Char} {pairs : List (String × String)} (h : c ∈ encode pairs) :
    c ≠ ':' ∧ c ≠ '#' ∧ isLineBreak c = false := by
  rcases mem_encode h with hc | rfl | rfl
  · have hmarks : ∀ d ∈ [':', '#', '\t', '\n', '\r'], c ≠ d := by
      rintro d hd rfl
      simp only [List.mem_cons, List.not_mem_nil, or_false] at hd
      rcases hd with rfl | rfl | rfl | rfl | rfl <;> cases hc
    simp only [isLineBreak, Bool.or_eq_false_iff, beq_eq_false_iff_ne]
    exact ⟨hmarks _ (by simp), hmarks _ (by simp), ⟨hmarks _ (by simp), hmarks _ (by simp)⟩,
      hmarks _ (by simp)⟩
  · exact ⟨by decide, by decide, rfl⟩
  · exact ⟨by decide, by decide, rfl⟩

theorem ofBytes_encode {s : List Char} (h : ∀ c ∈ s, c.toNat < 0x80) :
    ofBytes (Utf8.encode s) = s := by
  induction s with
  | nil => rfl
  | cons c rest ih =>
    have hc := h c (List.mem_cons_self ..)
    have hn : (UInt8.ofNat c.toNat).toNat = c.toNat := by
      rw [UInt8.toNat_ofNat', Nat.mod_eq_of_lt (by omega)]
    have hrest := ih fun d hd => h d (List.mem_cons_of_mem _ hd)
    simp only [ofBytes, Utf8.encode, List.flatMap_cons, utf8EncodeChar_ascii hc, List.map_append,
      List.map_cons, List.map_nil, hn, Char.ofNat_toNat] at hrest ⊢
    rw [hrest]
    rfl

theorem decodeBytes_encode (pairs : List (String × String)) :
    decodeBytes (Text.Utf8.encodeString (String.ofList (encode pairs))) = pairs := by
  have hascii : ∀ c ∈ encode pairs, c.toNat < 0x80 := by
    intro c hc
    rcases mem_encode hc with h | rfl | rfl
    · exact toNat_lt_of_isEncoded h
    all_goals decide
  rw [decodeBytes, Text.Utf8.encodeString, String.toList_ofList, ofBytes_encode hascii,
    decode_encode]

end SignOn.Uri.Form
