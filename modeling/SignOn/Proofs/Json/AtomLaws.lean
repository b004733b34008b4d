import SignOn.Json.AtomMap

/-!
# Sets of texts

The set of some texts has each of them (`AtomSet.mem_ofTexts`) and no other atom, so that it can be
listed in order. Texts that are the same, in whatever order and however often, make the same set
(`AtomSet.ofTexts_congr`).
-/

namespace SignOn.AtomSet

variable {a b : Atom} {atoms : List Atom}

theorem mem_insertSorted_of_mem (h : b ∈ atoms) : b ∈ insertSorted a atoms := by
  induction atoms with
  | nil => cases h
  | cons c rest ih =>
    unfold insertSorted
    split
    · exact List.mem_cons_of_mem _ h
    · split
      · rcases List.mem_cons.mp h with rfl | h
        · exact List.mem_cons_self ..
        · exact List.mem_cons_of_mem _ (ih h)
      · exact h

/-- An atom is put into a list unless another one there counts as it. -/
theorem mem_insertSorted_self (h : ∀ b ∈ atoms, a.same b = true → a = b) :
    a ∈ insertSorted a atoms := by
  induction atoms with
  | nil => exact List.mem_singleton_self a
  | cons b rest ih =>
    rw [List.forall_mem_cons] at h
    unfold insertSorted
    split
    · exact List.mem_cons_self ..
    · next hab =>
      split
      · exact List.mem_cons_of_mem _ (ih h.2)
      · next hba =>
        rw [h.1 (by simp [Atom.same, hab, hba])]
        exact List.mem_cons_self ..

theorem mem_foldl_insert_of_mem {set : AtomSet} (atoms : List Atom) (h : a ∈ set.atoms) :
    a ∈ (atoms.foldl insert set).atoms := by
  induction atoms generalizing set with
  | nil => exact h
  | cons b rest ih => exact ih (mem_insertSorted_of_mem h)

theorem mem_foldl_insert_texts {set : AtomSet} {texts : List String} {s : String}
    (hset : ∀ a ∈ set.atoms, ∃ t, a = .text t) (h : s ∈ texts) :
    .text s ∈ ((texts.map Atom.text).foldl insert set).atoms := by
  induction texts generalizing set with
  | nil => cases h
  | cons t rest ih =>
    rcases List.mem_cons.mp h with rfl | h
    · have hinserted : .text s ∈ (set.insert (.text s)).atoms := by
        refine mem_insertSorted_self fun b hb hsame => ?_
        obtain ⟨u, rfl⟩ := hset b hb
        rw [Atom.text_same_iff.mp hsame]
      have hkept := mem_foldl_insert_of_mem (rest.map Atom.text) hinserted
      exact hkept
    · refine ih (fun a ha => ?_) h
      rcases mem_insertSorted ha with rfl | ha
      · exact ⟨t, rfl⟩
      · exact hset a ha

theorem mem_foldl_insert {set : AtomSet} {atoms : List Atom}
    (h : a ∈ (atoms.foldl insert set).atoms) : a ∈ set.atoms ∨ a ∈ atoms := by
  induction atoms generalizing set with
  | nil => exact .inl h
  | cons b rest ih =>
    rcases ih h with h | h
    · rcases mem_insertSorted h with rfl | h
      · exact .inr (List.mem_cons_self ..)
      · exact .inl h
    · exact .inr (List.mem_cons_of_mem _ h)

theorem eq_text_of_mem_ofTexts {texts : List String} (h : a ∈ (ofTexts texts).atoms) :
    a = .text a.letters := by
  rcases mem_foldl_insert h with h | h
  · cases h
  · obtain ⟨s, -, rfl⟩ := List.mem_map.mp h
    rfl

theorem mem_ofTexts {texts : List String} : a ∈ ofTexts texts ↔ ∃ s ∈ texts, a = .text s := by
  constructor
  · intro h
    rcases mem_foldl_insert h with h | h
    · cases h
    · obtain ⟨s, hs, rfl⟩ := List.mem_map.mp h
      exact ⟨s, hs, rfl⟩
  · rintro ⟨s, hs, rfl⟩
    exact mem_foldl_insert_texts (fun a ha => nomatch ha) hs

theorem ordered?_ofTexts (texts : List String) :
    (ofTexts texts).ordered? = some (ofTexts texts).atoms := by
  have hkind : ∀ a ∈ (ofTexts texts).atoms, a.kind = .text := fun a ha => by
    rw [eq_text_of_mem_ofTexts ha]
    rfl
  unfold ordered?
  split
  · next he => rw [he]
  · next a rest he =>
    rw [he] at hkind ⊢
    have ha := hkind a (List.mem_cons_self ..)
    rw [if_pos]
    rw [List.all_eq_true]
    intro b hb
    simp [ha, hkind b (List.mem_cons_of_mem _ hb)]

theorem nodup (set : AtomSet) : set.atoms.Nodup :=
  set.sorted.imp fun {a b} hbefore heq => by
    subst heq
    exact Atom.not_before_self a hbefore

theorem eq_of_mem_iff {s t : AtomSet} (h : ∀ a, a ∈ s ↔ a ∈ t) : s = t := by
  have hperm : s.atoms.Perm t.atoms := (List.perm_ext_iff_of_nodup s.nodup t.nodup).mpr h
  refine AtomSet.ext (hperm.eq_of_pairwise (fun a b _ _ hab hba => ?_) s.sorted t.sorted)
  exact absurd (Atom.before_trans hab hba) (Atom.not_before_self a)

theorem ofTexts_congr {texts others : List String} (h : ∀ s, s ∈ texts ↔ s ∈ others) :
    ofTexts texts = ofTexts others :=
  eq_of_mem_iff fun a => by simp only [mem_ofTexts, h]

end SignOn.AtomSet
