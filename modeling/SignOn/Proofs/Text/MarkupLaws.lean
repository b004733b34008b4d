import SignOn.LoginPage

/-!
# What escaped text means

An escaped text has no bracket and no quotation mark in it, each of its ampersands begins one of the
five references, and reading the references gives the text back (`means_escape`).
-/

namespace SignOn.Text.Markup

def references : List String :=
  ["amp;", "lt;", "gt;", "quot;", "#x27;"]

/-- The characters that end a text in an element, or a value between quotation marks. -/
def marks : List Char :=
  ['<', '>', '"', '\'']

/-- `hole` stands for a text and for nothing else, in an element and in an attribute. -/
structure Means (hole text : String) : Prop where
  no_mark : ∀ c ∈ marks, c ∉ hole.toList
  reference : ∀ before after, hole.toList = before ++ '&' :: after →
    ∃ name ∈ references, name.toList <+: after
  unescape_eq : unescape hole = text

theorem escapeChar_cases (c : Char) :
    (escapeChar c = [c] ∧ c ∉ marks ∧ c ≠ '&') ∨
      ∃ name ∈ references, escapeChar c = '&' :: name.toList := by
  unfold escapeChar
  split
  · exact .inr ⟨"amp;", by decide, rfl⟩
  · exact .inr ⟨"lt;", by decide, rfl⟩
  · exact .inr ⟨"gt;", by decide, rfl⟩
  · exact .inr ⟨"quot;", by decide, rfl⟩
  · exact .inr ⟨"#x27;", by decide, rfl⟩
  · next hamp hlt hgt hquot hapos =>
    refine .inl ⟨rfl, ?_, hamp⟩
    simp only [marks, List.mem_cons, List.not_mem_nil, or_false, not_or]
    exact ⟨hlt, hgt, hquot, hapos⟩

theorem not_mem_reference {name : String} {c : Char} (h : name ∈ references)
    (hc : c ∈ '&' :: marks) : c ∉ name.toList := by
  have hall : references.all (fun name => ('&' :: marks).all (!name.toList.contains ·)) = true := by
    decide +kernel
  have hname := List.all_eq_true.mp (List.all_eq_true.mp hall name h) c hc
  simpa using hname

theorem not_mem_escapeChars {c : Char} (h : c ∈ marks) (s : List Char) : c ∉ escapeChars s := by
  rw [escapeChars, List.mem_flatMap]
  rintro ⟨d, -, hc⟩
  rcases escapeChar_cases d with ⟨hd, hmark, -⟩ | ⟨name, hname, hd⟩
  · rw [hd, List.mem_singleton] at hc
    exact hmark (hc ▸ h)
  · rw [hd, List.mem_cons] at hc
    rcases hc with rfl | hc
    · revert h
      decide
    · exact not_mem_reference hname (List.mem_cons_of_mem _ h) hc

theorem reference_of_escapeChars {s before after : List Char}
    (h : escapeChars s = before ++ '&' :: after) : ∃ name ∈ references, name.toList <+: after := by
  induction s generalizing before with
  | nil => simp [escapeChars] at h
  | cons c rest ih =>
    rw [escapeChars, List.flatMap_cons, ← escapeChars] at h
    rcases escapeChar_cases c with ⟨hc, -, hne⟩ | ⟨name, hname, hc⟩
    · rw [hc] at h
      cases before with
      | nil => exact absurd (List.cons.inj h).1 hne
      | cons d before => exact ih (List.cons.inj h).2
    · rw [hc] at h
      cases before with
      | nil => exact ⟨name, hname, _, (List.cons.inj h).2⟩
      | cons d before =>
        -- the reference has no other ampersand, so that this one comes after it
        rcases List.append_eq_append_iff.mp (List.cons.inj h).2 with
          ⟨between, -, h⟩ | ⟨inside, hinside, h⟩
        · exact ih h
        · cases inside with
          | nil =>
            have hrest : escapeChars rest = [] ++ '&' :: after := h.symm
            exact ih hrest
          | cons d inside =>
            refine absurd ?_ (not_mem_reference hname (List.mem_cons_self ..))
            rw [hinside, ← (List.cons.inj h).1]
            simp

theorem unescapeChars_cons {c : Char} (h : c ≠ '&') (rest : List Char) :
    unescapeChars (c :: rest) = c :: unescapeChars rest := by
  rw [unescapeChars] <;> simp [h]

theorem unescapeChars_escapeChar (c : Char) (rest : List Char) :
    unescapeChars (escapeChar c ++ rest) = c :: unescapeChars rest := by
  unfold escapeChar
  split
  · rfl
  · rfl
  · rfl
  · rfl
  · rfl
  · next hamp _ _ _ _ => exact unescapeChars_cons hamp rest

theorem unescapeChars_escapeChars (s : List Char) : unescapeChars (escapeChars s) = s := by
  induction s with
  | nil => rfl
  | cons c rest ih =>
    rw [escapeChars, List.flatMap_cons, ← escapeChars, unescapeChars_escapeChar, ih]

theorem means_escape (text : String) : Means (escape text) text where
  no_mark c hc := by
    rw [escape, String.toList_ofList]
    exact not_mem_escapeChars hc text.toList
  reference before after h := by
    rw [escape, String.toList_ofList] at h
    exact reference_of_escapeChars h
  unescape_eq := by
    rw [unescape, escape, String.toList_ofList, unescapeChars_escapeChars, String.ofList_toList]

end SignOn.Text.Markup
