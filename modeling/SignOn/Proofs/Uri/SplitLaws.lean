import SignOn.Uri.Basic

/-!
# The parts of an address

What a split gives has a lower-case scheme, an authority that was accepted, and no part with a
character that would end it earlier (`IsSplit`). An absolute address with such parts is read back
from its text (`split_join`), so that a part may be replaced and the others stay what they were.
-/

namespace SignOn

-- ---------------------------------------------------------------------------
-- Cutting
-- ---------------------------------------------------------------------------

namespace Text

theorem cut_append {c : Char} {before : List Char} (h : c ∉ before) (after : List Char) :
    cut c (before ++ after) = (before ++ (cut c after).1, (cut c after).2) := by
  induction before with
  | nil => rfl
  | cons x rest ih =>
    simp only [List.mem_cons, not_or] at h
    simp [cut, Ne.symm h.1, ih h.2]

theorem eq_append_cut {c : Char} {s before after : List Char} (h : cut c s = (before, some after)) :
    s = before ++ c :: after := by
  induction s generalizing before with
  | nil => cases h
  | cons x rest ih =>
    unfold cut at h
    split at h
    · next hx =>
      cases h
      rw [hx]
      rfl
    · simp only [Prod.mk.injEq] at h
      obtain ⟨rfl, hsome⟩ := h
      rw [List.cons_append, ← ih (Prod.ext rfl hsome)]

theorem eq_cut {c : Char} {s before : List Char} (h : cut c s = (before, none)) : before = s := by
  induction s generalizing before with
  | nil => cases h; rfl
  | cons x rest ih =>
    unfold cut at h
    split at h
    · cases h
    · simp only [Prod.mk.injEq] at h
      obtain ⟨rfl, hnone⟩ := h
      exact congrArg (x :: ·) (ih (Prod.ext rfl hnone))

theorem mem_of_mem_cut_fst {c d : Char} {s : List Char} (h : d ∈ (cut c s).1) : d ∈ s := by
  rcases hc : cut c s with ⟨before, _ | after⟩ <;> rw [hc] at h
  · rwa [eq_cut hc] at h
  · rw [eq_append_cut hc]
    exact List.mem_append_left _ h

theorem mem_of_mem_cut_snd {c d : Char} {s : List Char} (h : d ∈ (cut c s).2.getD []) : d ∈ s := by
  rcases hc : cut c s with ⟨before, _ | after⟩ <;> rw [hc] at h
  · cases h
  · rw [eq_append_cut hc]
    exact List.mem_append_right _ (List.mem_cons_of_mem _ h)

end Text

namespace Uri

-- ---------------------------------------------------------------------------
-- Schemes
-- ---------------------------------------------------------------------------

theorem isSchemeChar_of_isScheme {scheme : List Char} (h : isScheme scheme = true) :
    ∀ c ∈ scheme, isSchemeChar c = true := by
  cases scheme with
  | nil => cases h
  | cons c rest =>
    simp only [isScheme, Bool.and_eq_true, List.all_eq_true] at h
    intro d hd
    rcases List.mem_cons.mp hd with rfl | hd
    · simp [isSchemeChar, h.1]
    · exact h.2 d hd

theorem toNat_of_isAsciiLetter {c : Char} (h : isAsciiLetter c = true) : 0x20 < c.toNat := by
  have hle (d : Char) (hd : d ≤ c) : d.toNat ≤ c.toNat := hd
  simp only [isAsciiLetter, Bool.or_eq_true, Bool.and_eq_true, decide_eq_true_eq] at h
  rcases h with ⟨h, -⟩ | ⟨h, -⟩
  · exact Nat.lt_of_lt_of_le (by decide) (hle _ h)
  · exact Nat.lt_of_lt_of_le (by decide) (hle _ h)

/-- Lower case is a letter again if it differs, and has no lower case of its own. -/
theorem toLower_cases (c : Char) : c.toLower = c ∨
    isAsciiLetter c = true ∧ isAsciiLetter c.toLower = true ∧ c.toLower.toLower = c.toLower := by
  by_cases h : 'A' ≤ c ∧ c ≤ 'Z'
  · have all : ∀ n : Fin 26, isAsciiLetter (Char.ofNat (65 + n)) = true ∧
        isAsciiLetter (Char.ofNat (65 + n)).toLower = true ∧
        (Char.ofNat (65 + n)).toLower.toLower = (Char.ofNat (65 + n)).toLower := by decide
    have hlow : 65 ≤ c.toNat := h.1
    have hhigh : c.toNat ≤ 90 := h.2
    have hc : Char.ofNat (65 + (c.toNat - 65)) = c := by
      rw [Nat.add_sub_cancel' hlow, Char.ofNat_toNat]
    have hn := all ⟨c.toNat - 65, by omega⟩
    rw [hc] at hn
    exact .inr hn
  · exact .inl (dif_neg h)

theorem isSchemeChar_toLower {c : Char} (h : isSchemeChar c = true) :
    isSchemeChar c.toLower = true := by
  rcases toLower_cases c with hc | ⟨-, hl, -⟩
  · rwa [hc]
  · simp [isSchemeChar, hl]

theorem isAsciiLetter_toLower {c : Char} (h : isAsciiLetter c = true) :
    isAsciiLetter c.toLower = true := by
  rcases toLower_cases c with hc | ⟨-, hl, -⟩
  · rwa [hc]
  · exact hl

theorem map_toLower_map_toLower (s : List Char) :
    (s.map Char.toLower).map Char.toLower = s.map Char.toLower := by
  rw [List.map_map]
  refine List.map_congr_left fun c _ => ?_
  rcases toLower_cases c with hc | ⟨-, -, hc⟩
  · exact congrArg Char.toLower hc
  · exact hc

section
variable {scheme : List Char} (hs : isScheme scheme = true)

include hs in
theorem isScheme_map_toLower : isScheme (scheme.map Char.toLower) = true := by
  cases scheme with
  | nil => cases hs
  | cons c rest =>
    simp only [isScheme, Bool.and_eq_true, List.all_eq_true] at hs
    simp only [List.map_cons, isScheme, Bool.and_eq_true, List.all_eq_true, List.mem_map,
      forall_exists_index, and_imp, forall_apply_eq_imp_iff₂]
    exact ⟨isAsciiLetter_toLower hs.1, fun d hd => isSchemeChar_toLower (hs.2 d hd)⟩

include hs in
theorem not_isLineBreak_of_scheme : ∀ c ∈ scheme, isLineBreak c = false := by
  intro c hc
  have h := isSchemeChar_of_isScheme hs c hc
  cases hb : isLineBreak c with
  | false => rfl
  | true =>
    simp only [isLineBreak, Bool.or_eq_true, beq_iff_eq] at hb
    rcases hb with (rfl | rfl) | rfl <;> cases h

include hs in
theorem clean_of_scheme (rest : List Char) :
    clean (scheme ++ rest) = scheme ++ rest.filter (!isLineBreak ·) := by
  have hstart : (scheme ++ rest).dropWhile (fun c => decide (c.toNat ≤ 0x20)) = scheme ++ rest := by
    cases scheme with
    | nil => cases hs
    | cons c tail =>
      simp only [isScheme, Bool.and_eq_true] at hs
      have hc := toNat_of_isAsciiLetter hs.1
      rw [List.cons_append, List.dropWhile_cons_of_neg]
      simpa using hc
  rw [clean, hstart, List.filter_append]
  congr 1
  refine List.filter_eq_self.mpr fun c hc => ?_
  simp [not_isLineBreak_of_scheme hs c hc]

include hs in
theorem splitScheme_eq (rest : List Char) :
    splitScheme (scheme ++ ':' :: rest) = (scheme.map Char.toLower, rest) := by
  have hcolon : ':' ∉ scheme := fun hm => by
    cases isSchemeChar_of_isScheme hs _ hm
  rw [splitScheme, Text.cut_append_cons hcolon]
  simp only [hs, ↓reduceIte]

end

theorem splitScheme_cases (s : List Char) : splitScheme s = ([], s) ∨
    ∃ scheme rest, isScheme scheme = true ∧ s = scheme ++ ':' :: rest ∧
      splitScheme s = (scheme.map Char.toLower, rest) := by
  rcases hc : Text.cut ':' s with ⟨before, _ | after⟩
  · exact .inl (by rw [splitScheme, hc])
  · cases hs : isScheme before with
    | false => exact .inl (by simp [splitScheme, hc, hs])
    | true =>
      have heq := Text.eq_append_cut hc
      exact .inr ⟨before, after, hs, heq, by rw [heq, splitScheme_eq hs]⟩

-- ---------------------------------------------------------------------------
-- Authorities
-- ---------------------------------------------------------------------------

/-- A text that ends an authority: nothing, or one of the marks and what follows it. -/
def EndsAuthority (s : List Char) : Prop :=
  ∀ c, s.head? = some c → endsAuthority c = true

theorem EndsAuthority.append {s rest : List Char} (hs : EndsAuthority s) (hr : EndsAuthority rest) :
    EndsAuthority (s ++ rest) := by
  intro c hc
  cases s with
  | nil => exact hr c hc
  | cons d tail => exact hs c hc

theorem splitAuthority_eq {host rest : List Char} (hh : ∀ c ∈ host, endsAuthority c = false)
    (hr : EndsAuthority rest) : splitAuthority ('/' :: '/' :: (host ++ rest)) = (host, rest) := by
  have hpos : ∀ c ∈ host, (!endsAuthority c) = true := fun c hc => by simp [hh c hc]
  rw [splitAuthority, List.takeWhile_append_of_pos hpos, List.dropWhile_append_of_pos hpos]
  cases rest with
  | nil => simp
  | cons c tail =>
    simp [hr c rfl]

theorem splitAuthority_cases (s : List Char) : splitAuthority s = ([], s) ∨
    ∃ host rest, s = '/' :: '/' :: (host ++ rest) ∧ (∀ c ∈ host, endsAuthority c = false) ∧
      EndsAuthority rest ∧ splitAuthority s = (host, rest) := by
  unfold splitAuthority
  split
  · next rest =>
    refine .inr ⟨_, _, by rw [List.takeWhile_append_dropWhile], ?_, ?_, rfl⟩
    · intro c hc
      simpa using List.all_eq_true.mp List.all_takeWhile c hc
    · intro c hc
      have hnot := List.head?_dropWhile_not (!endsAuthority ·) rest
      rw [hc] at hnot
      simpa using hnot
  · exact .inl rfl

-- ---------------------------------------------------------------------------
-- Paths
-- ---------------------------------------------------------------------------

def marked (mark : Char) (s : List Char) : List Char :=
  if s.isEmpty then [] else mark :: s

theorem cut_marked (mark : Char) (s : List Char) :
    Text.cut mark (marked mark s) = ([], if s.isEmpty then none else some s) := by
  unfold marked
  cases s with
  | nil => rfl
  | cons c rest => simp [Text.cut]

theorem mem_marked {c mark : Char} {s : List Char} (h : c ∈ marked mark s) : c = mark ∨ c ∈ s := by
  unfold marked at h
  split at h
  · cases h
  · exact List.mem_cons.mp h

theorem endsAuthority_marked {mark : Char} (h : endsAuthority mark = true) (s : List Char) :
    EndsAuthority (marked mark s) := by
  intro c hc
  cases s with
  | nil => cases hc
  | cons d rest =>
    cases hc
    exact h

theorem splitPath_eq {path query : List Char} (hm : '?' ∉ path) (hh : '#' ∉ path)
    (hq : '#' ∉ query) (fragment : List Char) :
    splitPath (path ++ marked '?' query ++ marked '#' fragment) = (path, query, fragment) := by
  have hhash : '#' ∉ path ++ marked '?' query := by
    rw [List.mem_append]
    rintro (hc | hc)
    · exact hh hc
    · rcases mem_marked hc with hc | hc
      · cases hc
      · exact hq hc
  rw [splitPath, Text.cut_append hhash, cut_marked, List.append_nil]
  simp only
  rw [Text.cut_append hm, cut_marked, List.append_nil]
  cases query <;> cases fragment <;> rfl

section
variable {s path query fragment : List Char} (h : splitPath s = (path, query, fragment))

include h in
theorem not_mem_of_splitPath : '?' ∉ path ∧ '#' ∉ path ∧ '#' ∉ query := by
  simp only [splitPath, Prod.mk.injEq] at h
  obtain ⟨rfl, rfl, -⟩ := h
  have hhash := Text.not_mem_cut_fst '#' s
  exact ⟨Text.not_mem_cut_fst _ _, fun hm => hhash (Text.mem_of_mem_cut_fst hm),
    fun hm => hhash (Text.mem_of_mem_cut_snd hm)⟩

include h in
theorem mem_of_splitPath {c : Char} (hc : c ∈ path ∨ c ∈ query ∨ c ∈ fragment) : c ∈ s := by
  simp only [splitPath, Prod.mk.injEq] at h
  obtain ⟨rfl, rfl, rfl⟩ := h
  rcases hc with hc | hc | hc
  · exact Text.mem_of_mem_cut_fst (Text.mem_of_mem_cut_fst hc)
  · exact Text.mem_of_mem_cut_fst (Text.mem_of_mem_cut_snd hc)
  · exact Text.mem_of_mem_cut_snd hc

include h in
theorem endsAuthority_of_splitPath (hs : EndsAuthority s) : EndsAuthority path := by
  have hpath := not_mem_of_splitPath h
  simp only [splitPath, Prod.mk.injEq] at h
  obtain ⟨rfl, -⟩ := h
  cases s with
  | nil => intro c hc; cases hc
  | cons c rest =>
    intro d hd
    have hc := hs c rfl
    by_cases hhash : c = '#'
    · subst hhash
      cases hd
    by_cases hmark : c = '?'
    · subst hmark
      simp [Text.cut] at hd
    · simp only [Text.cut, hhash, hmark, ↓reduceIte, List.head?_cons, Option.some.injEq] at hd
      rwa [← hd]

end

-- ---------------------------------------------------------------------------
-- Addresses
-- ---------------------------------------------------------------------------

structure IsSplit (uri : Uri) : Prop where
  scheme : uri.scheme ≠ [] → isScheme uri.scheme = true ∧ uri.scheme.map Char.toLower = uri.scheme
  authority : ∀ c ∈ uri.authority, endsAuthority c = false
  brackets : checkBrackets uri.authority = .ok ()
  compatibility : checkCompatibility uri.authority = .ok ()
  path : uri.authority ≠ [] → EndsAuthority uri.path
  pathMarks : '?' ∉ uri.path ∧ '#' ∉ uri.path
  query : '#' ∉ uri.query
  unbroken : ∀ c, c ∈ uri.authority ∨ c ∈ uri.path ∨ c ∈ uri.query ∨ c ∈ uri.fragment →
    isLineBreak c = false

theorem not_isLineBreak_of_clean {s : List Char} {c : Char} (h : c ∈ clean s) :
    isLineBreak c = false := by
  simpa using (List.mem_filter.mp h).2

theorem isSplit_of_split {s : List Char} {uri : Uri} (h : split s = .ok uri) : uri.IsSplit := by
  rw [split] at h
  have hclean : ∀ c ∈ clean s, isLineBreak c = false := fun c => not_isLineBreak_of_clean
  rcases hscheme : splitScheme (clean s) with ⟨scheme, rest⟩
  rcases hauthority : splitAuthority rest with ⟨authority, behind⟩
  rcases hpath : splitPath behind with ⟨path, query, fragment⟩
  simp only [hscheme, hauthority, hpath] at h
  split at h
  · cases h
  · cases h
  next hb hc =>
  cases h
  have hmarks := not_mem_of_splitPath hpath
  have hs : (scheme ≠ [] → isScheme scheme = true ∧ scheme.map Char.toLower = scheme) ∧
      ∀ c ∈ rest, isLineBreak c = false := by
    rcases splitScheme_cases (clean s) with hs | ⟨raw, after, hraw, heq, hs⟩
    · cases hscheme.symm.trans hs
      exact ⟨fun hne => absurd rfl hne, hclean⟩
    · cases hscheme.symm.trans hs
      refine ⟨fun _ => ⟨isScheme_map_toLower hraw, map_toLower_map_toLower raw⟩, fun c hc => ?_⟩
      refine hclean c ?_
      rw [heq]
      exact List.mem_append_right _ (List.mem_cons_of_mem _ hc)
  obtain ⟨ha, he, hbehind⟩ : (∀ c ∈ authority, endsAuthority c = false) ∧
      (authority ≠ [] → EndsAuthority behind) ∧
      ∀ c, c ∈ authority ∨ c ∈ behind → isLineBreak c = false := by
    rcases splitAuthority_cases rest with ha | ⟨host, tail, heq, hhost, htail, ha⟩
    · cases hauthority.symm.trans ha
      exact ⟨by simp, fun hne => absurd rfl hne, by simpa using hs.2⟩
    · cases hauthority.symm.trans ha
      refine ⟨hhost, fun _ => htail, fun c hc => hs.2 c ?_⟩
      rw [heq]
      exact List.mem_cons_of_mem _ (List.mem_cons_of_mem _ (List.mem_append.mpr hc))
  exact ⟨hs.1, ha, hb, hc, fun hne => endsAuthority_of_splitPath hpath (he hne),
    ⟨hmarks.1, hmarks.2.1⟩, hmarks.2.2,
    fun c hc => hbehind c (hc.imp id fun hc => mem_of_splitPath hpath hc)⟩

section
variable {uri : Uri} (ha : uri.isAbsolute = true)

include ha in
theorem ne_nil_of_isAbsolute : uri.scheme ≠ [] ∧ uri.authority ≠ [] := by
  simpa [isAbsolute] using ha

theorem IsSplit.head_path (h : uri.IsSplit) (ha : uri.authority ≠ []) :
    uri.path = [] ∨ uri.path.head? = some '/' := by
  cases hp : uri.path with
  | nil => exact .inl rfl
  | cons c rest =>
    have hc := h.path ha c (by rw [hp]; rfl)
    simp only [endsAuthority, Bool.or_eq_true, beq_iff_eq] at hc
    have hmarks := h.pathMarks
    rw [hp] at hmarks
    rcases hc with (rfl | rfl) | rfl
    · exact .inr rfl
    · exact absurd (List.mem_cons_self ..) hmarks.1
    · exact absurd (List.mem_cons_self ..) hmarks.2

include ha in
theorem join_eq (h : uri.IsSplit) :
    uri.join = uri.scheme ++ ':' :: '/' :: '/' ::
      (uri.authority ++ (uri.path ++ marked '?' uri.query ++ marked '#' uri.fragment)) := by
  obtain ⟨hscheme, hauthority⟩ := ne_nil_of_isAbsolute ha
  have hw : uri.writesAuthority = true := by simp [writesAuthority, hauthority]
  have hp : (uri.path.isEmpty || uri.path.head? == some '/') = true := by
    rcases h.head_path hauthority with hp | hp <;> simp [hp]
  have hs : uri.scheme.isEmpty = false := by simpa using hscheme
  simp [join, hw, hp, hs, marked]

include ha in
/-- An absolute address is read back from its text. -/
theorem split_join (h : uri.IsSplit) : split uri.join = .ok uri := by
  obtain ⟨hne, hauthority⟩ := ne_nil_of_isAbsolute ha
  obtain ⟨hscheme, hlower⟩ := h.scheme hne
  have hkept : (':' :: '/' :: '/' :: (uri.authority ++
        (uri.path ++ marked '?' uri.query ++ marked '#' uri.fragment))).filter (!isLineBreak ·) =
      ':' :: '/' :: '/' :: (uri.authority ++
        (uri.path ++ marked '?' uri.query ++ marked '#' uri.fragment)) := by
    refine List.filter_eq_self.mpr fun c hc => ?_
    rw [Bool.not_eq_true']
    simp only [List.mem_cons, List.mem_append] at hc
    rcases hc with rfl | rfl | rfl | hc | (hc | hc) | hc
    · rfl
    · rfl
    · rfl
    · exact h.unbroken c (.inl hc)
    · exact h.unbroken c (.inr (.inl hc))
    · rcases mem_marked hc with rfl | hc
      · rfl
      · exact h.unbroken c (.inr (.inr (.inl hc)))
    · rcases mem_marked hc with rfl | hc
      · rfl
      · exact h.unbroken c (.inr (.inr (.inr hc)))
  have hbehind : EndsAuthority (uri.path ++ marked '?' uri.query ++ marked '#' uri.fragment) :=
    ((h.path hauthority).append (endsAuthority_marked rfl _)).append (endsAuthority_marked rfl _)
  rw [join_eq ha h, split, clean_of_scheme hscheme, hkept, splitScheme_eq hscheme, hlower]
  simp only
  rw [splitAuthority_eq h.authority hbehind]
  simp only
  rw [splitPath_eq h.pathMarks.1 h.pathMarks.2 h.query]
  simp only [h.brackets, h.compatibility]

end

end Uri

end SignOn
