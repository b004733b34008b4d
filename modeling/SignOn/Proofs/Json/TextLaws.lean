import SignOn.Json.Parser
import SignOn.Json.Printer

/-!
# Texts read back

A text is read back from its quoted form, whatever its characters are and whatever follows it
(`readText_escaped`). Items that read back do so as a list (`readItems_printItems`), and a document
that lists texts is read as it was written (`parse_render_texts`).
-/

namespace SignOn.Json

-- ---------------------------------------------------------------------------
-- Code points
-- ---------------------------------------------------------------------------

/-- The code points that the escape of a character is read as: the character, or the two halves of
its surrogate pair. -/
def units (c : Char) : List Nat :=
  if c.toNat ≤ 0xffff then [c.toNat]
  else [0xd800 + (c.toNat - 0x10000) / 0x400, 0xdc00 + (c.toNat - 0x10000) % 0x400]

theorem charsOf_cons {c : Char} (points : List Nat) :
    charsOf (c.toNat :: points) = c :: charsOf points := by
  have hc := not_isSurrogate_toNat c
  cases points with
  | nil => simp [charsOf, charsOf.loneChar, hc]
  | cons n rest => simp [charsOf, charsOf.loneChar, hc]

theorem charsOf_units_append (c : Char) (points : List Nat) :
    charsOf (units c ++ points) = c :: charsOf points := by
  unfold units
  split
  · exact charsOf_cons points
  · next hwide =>
    have hc : c.toNat < 0xd800 ∨ 0xdfff < c.toNat ∧ c.toNat < 0x110000 := c.valid
    have hhigh : isHighSurrogate (0xd800 + (c.toNat - 0x10000) / 0x400) = true := by
      simp only [isHighSurrogate, decide_eq_true_eq]
      omega
    have hlow : isLowSurrogate (0xdc00 + (c.toNat - 0x10000) % 0x400) = true := by
      simp only [isLowSurrogate, decide_eq_true_eq]
      omega
    have hjoin : joinSurrogates (0xd800 + (c.toNat - 0x10000) / 0x400)
        (0xdc00 + (c.toNat - 0x10000) % 0x400) = c := by
      have hpoint : 0x10000 + (0xd800 + (c.toNat - 0x10000) / 0x400 - 0xd800) * 0x400 +
          (0xdc00 + (c.toNat - 0x10000) % 0x400 - 0xdc00) = c.toNat := by
        omega
      rw [joinSurrogates, hpoint, Char.ofNat_toNat]
    simp [charsOf, hhigh, hlow, hjoin]

theorem charsOf_flatMap_units (s : List Char) : charsOf (s.flatMap units) = s := by
  induction s with
  | nil => rfl
  | cons c rest ih => rw [List.flatMap_cons, charsOf_units_append, ih]

-- ---------------------------------------------------------------------------
-- Escapes
-- ---------------------------------------------------------------------------

def withPoints (points : List Nat) (read : Option (List Nat × List Char)) :
    Option (List Nat × List Char) :=
  read.map fun (later, rest) => (points ++ later, rest)

theorem readPoints_escapeUnit {n : Nat} (h : n ≤ 0xffff) (rest : List Char) :
    readPoints (escapeUnit n ++ rest) = withPoints [n] (readPoints rest) := by
  have hvalue := Text.hexValue?_hexDigits 4 n
  have hlength := Text.length_hexDigits 4 n
  have hmod : n % Nat.pow 16 4 = n := Nat.mod_eq_of_lt (Nat.lt_succ_of_le h)
  rw [hmod] at hvalue
  unfold escapeUnit
  match hd : Text.hexDigits 4 n, hlength with
  | [a, b, c, d], _ =>
    rw [hd] at hvalue
    simp [readPoints, hvalue, withPoints]

theorem readPoints_plain {c : Char} (hquote : c ≠ '"') (hslash : c ≠ '\\') (hc : 0x20 ≤ c.toNat)
    (rest : List Char) : readPoints (c :: rest) = withPoints [c.toNat] (readPoints rest) := by
  have hcontrol : ¬ c.toNat < 0x20 := by omega
  simp [readPoints, hslash, hcontrol, withPoints]

theorem readPoints_escapeChar (c : Char) (rest : List Char) :
    readPoints (escapeChar c ++ rest) = withPoints (units c) (readPoints rest) := by
  have hc : c.toNat < 0xd800 ∨ 0xdfff < c.toNat ∧ c.toNat < 0x110000 := c.valid
  unfold escapeChar
  iterate 7
    split
    · next h => subst h; rfl
  split
  · next hquote hslash _ _ _ _ _ hplain =>
    have hunits : units c = [c.toNat] := if_pos (by omega)
    rw [hunits]
    exact readPoints_plain hquote hslash hplain.1 rest
  split
  · next hnarrow =>
    have hunits : units c = [c.toNat] := if_pos hnarrow
    rw [hunits]
    exact readPoints_escapeUnit hnarrow rest
  · next hwide =>
    rw [units, if_neg hwide, List.append_assoc, readPoints_escapeUnit (by omega),
      readPoints_escapeUnit (by omega)]
    cases readPoints rest <;> rfl

theorem readPoints_escaped (s rest : List Char) :
    readPoints (s.flatMap escapeChar ++ '"' :: rest) = some (s.flatMap units, rest) := by
  induction s with
  | nil => rfl
  | cons c s ih =>
    rw [List.flatMap_cons, List.append_assoc, readPoints_escapeChar, ih]
    rfl

theorem readText_escaped (s : String) (rest : List Char) :
    readText (s.toList.flatMap escapeChar ++ '"' :: rest) = some (s, rest) := by
  simp only [readText, readPoints_escaped, Option.map_some, charsOf_flatMap_units,
    String.ofList_toList]

-- ---------------------------------------------------------------------------
-- Values
-- ---------------------------------------------------------------------------

/-- A value that is read back in one step, whatever follows it. -/
def ReadsBack (room : Nat) (value : Json) : Prop :=
  ∀ fuel rest, readValue room (fuel + 1) (value.print ++ rest) = .ok (value, rest)

section
variable {room fuel : Nat}

theorem skipSpace_cons {c : Char} (h : isSpace c = false) (rest : List Char) :
    skipSpace (c :: rest) = c :: rest :=
  List.dropWhile_cons_of_neg (by simp [h])

theorem readsBack_text (room : Nat) (s : String) : ReadsBack room (.text s) := by
  intro fuel rest
  have hprint : (Json.text s).print ++ rest =
      '"' :: (s.toList.flatMap escapeChar ++ '"' :: rest) := by
    simp [print, printText]
  rw [hprint, readValue, skipSpace_cons (by decide)]
  simp only [readText_escaped]

theorem readValue_space (room fuel : Nat) (rest : List Char) :
    readValue room fuel (' ' :: rest) = readValue room fuel rest := by
  cases fuel with
  | zero => simp only [readValue]
  | succ fuel =>
    have hskip : skipSpace (' ' :: rest) = skipSpace rest := List.dropWhile_cons_of_pos (by decide)
    simp only [readValue, hskip]

theorem readItems_space (room fuel : Nat) (rest : List Char) :
    readItems room fuel (' ' :: rest) = readItems room fuel rest := by
  cases fuel with
  | zero => simp only [readItems]
  | succ fuel => simp only [readItems, readValue_space]

theorem readItems_more {s : List Char} {item : Json}
    (h : readValue room fuel s = .ok (item, ',' :: rest)) :
    readItems room (fuel + 1) s =
      (readItems room fuel rest).map fun (items, rest) => (item :: items, rest) := by
  rw [readItems, h]
  simp only [Except.bind, skipSpace_cons (by decide : isSpace ',' = false)]

theorem readItems_last {s : List Char} {item : Json}
    (h : readValue room fuel s = .ok (item, ']' :: rest)) :
    readItems room (fuel + 1) s = .ok ([item], rest) := by
  rw [readItems, h]
  simp only [Except.bind, skipSpace_cons (by decide : isSpace ']' = false)]

/-- An item takes two steps, one for its place in the list and one for itself. -/
theorem readItems_printItems {items : List Json} (hne : items ≠ [])
    (h : ∀ item ∈ items, ReadsBack room item) (hfuel : items.length < fuel) (rest : List Char) :
    readItems room fuel (printItems items ++ ']' :: rest) = .ok (items, rest) := by
  induction items generalizing fuel with
  | nil => exact absurd rfl hne
  | cons item later ih =>
    obtain ⟨fuel, rfl⟩ : ∃ f, fuel = f + 2 := ⟨fuel - 2, by rw [List.length_cons] at hfuel; omega⟩
    rw [List.forall_mem_cons] at h
    cases later with
    | nil => exact readItems_last (h.1 fuel _)
    | cons next later =>
      have hlater : readItems room (fuel + 1) (printItems (next :: later) ++ ']' :: rest) =
          .ok (next :: later, rest) :=
        ih (by simp) h.2 (by simpa using hfuel)
      have hitem : readValue room (fuel + 1) (printItems (item :: next :: later) ++ ']' :: rest) =
          .ok (item, ',' :: ' ' :: (printItems (next :: later) ++ ']' :: rest)) := by
        rw [printItems, List.append_assoc]
        · exact h.1 fuel _
        · simp
      rw [readItems_more hitem, readItems_space, hlater]
      rfl

end

theorem printItems_texts_cons (text : String) (later : List String) :
    ∃ s, printItems ((text :: later).map .text) = '"' :: s := by
  cases later with
  | nil => exact ⟨_, rfl⟩
  | cons next later => exact ⟨_, rfl⟩

theorem length_le_length_printItems (texts : List String) :
    texts.length ≤ (printItems (texts.map .text)).length := by
  induction texts with
  | nil => exact Nat.le_refl 0
  | cons text later ih =>
    cases later with
    | nil => simp [printItems, print, printText]
    | cons next later =>
      simp only [List.map_cons, List.length_cons] at ih ⊢
      simp only [printItems, List.length_append, List.length_cons]
      omega

/-- Fuel: one step for the array, two for each item. -/
theorem readValue_print_texts (room : Nat) {fuel : Nat} {texts : List String}
    (hfuel : texts.length < fuel) (rest : List Char) :
    readValue (room + 1) (fuel + 1) ((Json.array (texts.map .text)).print ++ rest) =
      .ok (.array (texts.map .text), rest) := by
  have hprint : (Json.array (texts.map .text)).print ++ rest =
      '[' :: (printItems (texts.map .text) ++ ']' :: rest) := by
    simp [print]
  rw [hprint, readValue, skipSpace_cons (by decide)]
  cases texts with
  | nil =>
    simp only [List.map_nil, printItems, List.nil_append,
      skipSpace_cons (by decide : isSpace ']' = false)]
  | cons text later =>
    have hread : ∀ item ∈ (text :: later).map Json.text, ReadsBack room item := by
      intro item hitem
      obtain ⟨text, -, rfl⟩ := List.mem_map.mp hitem
      exact readsBack_text room text
    have hitems : readItems room fuel (printItems ((text :: later).map .text) ++ ']' :: rest) =
        .ok ((text :: later).map .text, rest) :=
      readItems_printItems (by simp) hread (by simpa using hfuel) rest
    obtain ⟨s, hs⟩ := printItems_texts_cons text later
    rw [hs, List.cons_append] at hitems ⊢
    simp only [skipSpace_cons (by decide : isSpace '"' = false)]
    change (readItems room fuel ('"' :: (s ++ ']' :: rest))).map _ = _
    rw [hitems]
    rfl

theorem parse_render_texts (texts : List String) :
    parse (Json.array (texts.map .text)).render = .ok (.array (texts.map .text)) := by
  have hlength := length_le_length_printItems texts
  have hprint : (Json.array (texts.map .text)).print.length =
      (printItems (texts.map .text)).length + 2 := by
    simp [print]
  have hread : readValue (989 + 1) (2 * (Json.array (texts.map .text)).print.length + 1)
      ((Json.array (texts.map .text)).print ++ []) = .ok (.array (texts.map .text), []) :=
    readValue_print_texts 989 (by omega) []
  rw [List.append_nil] at hread
  rw [parse, render, String.toList_ofList, maxDepth, hread]
  rfl

end SignOn.Json
