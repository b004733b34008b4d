import Mathlib.Data.List.Induction
import Mathlib.Data.List.TakeWhile
import SignOn.Proofs.Http.RequestLaws
import SignOn.Request.Basic

/-!
# Parameters in the query and in a form

The path of an address does not depend on a query that was encoded (`addressPath_of_encoded`), and
pairs are read back from a query and from a form (`parameters_asQuery`, `parameters_asForm`). A name
has its first value among the single values of the parameters, and the names stand in the order in
which they appear first (`get?_singleValues_group`, `keys_singleValues_group`).
-/

namespace SignOn

-- ---------------------------------------------------------------------------
-- What follows a path
-- ---------------------------------------------------------------------------

theorem Text.cut_append_right {c : Char} {tail : List Char} (h : c ∉ tail) (s : List Char) :
    cut c (s ++ tail) =
      match cut c s with
      | (before, none) => (before ++ tail, none)
      | (before, some after) => (before, some (after ++ tail)) := by
  rcases hc : cut c s with ⟨before, _ | after⟩
  · rw [← eq_cut hc, cut_of_not_mem]
    rw [List.mem_append, not_or]
    refine ⟨?_, h⟩
    have hbefore := not_mem_cut_fst c s
    rwa [hc] at hbefore
  · have hbefore := not_mem_cut_fst c s
    rw [hc] at hbefore
    rw [eq_append_cut hc, List.append_assoc, List.cons_append, cut_append_cons hbefore]

namespace Uri

/-- A query with its question mark, or nothing. No part of an address but the query ends in it. -/
structure IsQueryPart (tail : List Char) : Prop where
  head : ∀ c, tail.head? = some c → c = '?'
  plain : ∀ c ∈ tail, c ≠ ':' ∧ c ≠ '#' ∧ isLineBreak c = false

section
variable {tail : List Char} (ht : IsQueryPart tail)

include ht in
theorem IsQueryPart.endsAuthority : EndsAuthority tail := by
  intro c hc
  rw [ht.head c hc]
  rfl

include ht in
theorem clean_append {s : List Char} (hs : ∃ c ∈ s, 0x20 < c.toNat) :
    clean (s ++ tail) = clean s ++ tail := by
  have hstart : s.dropWhile (fun c => decide (c.toNat ≤ 0x20)) ≠ [] := by
    obtain ⟨c, hc, hlt⟩ := hs
    intro hnil
    have hle := List.dropWhile_eq_nil_iff.mp hnil c hc
    simp only [decide_eq_true_eq] at hle
    omega
  have hkept : tail.filter (!isLineBreak ·) = tail :=
    List.filter_eq_self.mpr fun c hc => by simp [(ht.plain c hc).2.2]
  rw [clean, List.dropWhile_append, if_neg (by simpa using hstart), List.filter_append, hkept]
  rfl

include ht in
theorem splitScheme_append (s : List Char) :
    splitScheme (s ++ tail) = ((splitScheme s).1, (splitScheme s).2 ++ tail) := by
  have hcolon : ':' ∉ tail := fun hc => (ht.plain _ hc).1 rfl
  rw [splitScheme, splitScheme, Text.cut_append_right hcolon]
  rcases Text.cut ':' s with ⟨before, _ | after⟩
  · rfl
  · cases hs : isScheme before <;> simp [hs]

theorem splitAuthority_of_relative {s : List Char} (h : ∀ rest, s ≠ '/' :: '/' :: rest) :
    splitAuthority s = ([], s) := by
  unfold splitAuthority
  split
  · exact absurd rfl (h _)
  · rfl

include ht in
theorem splitAuthority_append (s : List Char) :
    splitAuthority (s ++ tail) = ((splitAuthority s).1, (splitAuthority s).2 ++ tail) := by
  by_cases hs : ∃ rest, s = '/' :: '/' :: rest
  · obtain ⟨rest, rfl⟩ := hs
    rcases splitAuthority_cases ('/' :: '/' :: rest) with h | ⟨host, behind, heq, hhost, hbehind, h⟩
    · -- a text with two slashes in front is longer than what follows them
      have hlength := congrArg (fun parts : List Char × List Char => parts.2.length) h
      have hle := (List.dropWhile_sublist (!Uri.endsAuthority ·) (l := rest)).length_le
      simp only [splitAuthority, List.length_cons] at hlength
      omega
    · rw [h, heq, List.cons_append, List.cons_append, List.append_assoc,
        splitAuthority_eq hhost (hbehind.append ht.endsAuthority)]
  · have hrelative : ∀ rest, s ≠ '/' :: '/' :: rest := fun rest h => hs ⟨rest, h⟩
    have hwhole : ∀ rest, s ++ tail ≠ '/' :: '/' :: rest := by
      intro rest h
      rcases s with _ | ⟨c, _ | ⟨d, more⟩⟩
      · cases ht.head '/' (by rw [← List.nil_append tail, h]; rfl)
      · rw [List.singleton_append, List.cons.injEq] at h
        cases ht.head '/' (by rw [h.2]; rfl)
      · simp only [List.cons_append, List.cons.injEq] at h
        exact hrelative more (by rw [h.1, h.2.1])
    rw [splitAuthority_of_relative hrelative, splitAuthority_of_relative hwhole]

include ht in
theorem cut_mark_append (s : List Char) : (Text.cut '?' (s ++ tail)).1 = (Text.cut '?' s).1 := by
  rcases hc : Text.cut '?' s with ⟨before, _ | after⟩
  · have hmark : '?' ∉ s := by
      rw [← Text.eq_cut hc]
      simpa [hc] using Text.not_mem_cut_fst '?' s
    have htail : (Text.cut '?' tail).1 = [] := by
      cases tail with
      | nil => rfl
      | cons c rest => simp [Text.cut, ht.head c rfl]
    rw [Text.cut_append hmark, htail, List.append_nil, Text.eq_cut hc]
  · have hmark : '?' ∉ before := by simpa [hc] using Text.not_mem_cut_fst '?' s
    rw [Text.eq_append_cut hc, List.append_assoc, List.cons_append, Text.cut_append_cons hmark]

include ht in
theorem splitPath_append (s : List Char) : (splitPath (s ++ tail)).1 = (splitPath s).1 := by
  have hhash : '#' ∉ tail := fun hc => (ht.plain _ hc).2.1 rfl
  rw [splitPath, splitPath, Text.cut_append_right hhash]
  rcases Text.cut '#' s with ⟨before, _ | after⟩
  · exact cut_mark_append ht before
  · rfl

include ht in
theorem split_append_path {s : List Char} (hs : ∃ c ∈ s, 0x20 < c.toNat) :
    (split (s ++ tail)).map Uri.path = (split s).map Uri.path := by
  rw [split, split, clean_append ht hs, splitScheme_append ht]
  simp only [splitAuthority_append ht, splitPath_append ht]
  cases checkBrackets (splitAuthority (splitScheme (clean s)).2).1 with
  | error cause => rfl
  | ok _ => cases checkCompatibility (splitAuthority (splitScheme (clean s)).2).1 <;> rfl

end

end Uri

theorem Entries.mem_put {key : String} {value : α} {entries : List (String × α)}
    {entry : String × α} (h : entry ∈ put key value entries) :
    entry = (key, value) ∨ entry ∈ entries := by
  induction entries with
  | nil => exact .inl (List.mem_singleton.mp h)
  | cons first rest ih =>
    obtain ⟨k, v⟩ := first
    rw [put] at h
    split at h
    · next hk =>
      rcases List.mem_cons.mp h with rfl | h
      · exact .inl (by rw [hk])
      · exact .inr (List.mem_cons_of_mem _ h)
    · rcases List.mem_cons.mp h with rfl | h
      · exact .inr (List.mem_cons_self ..)
      · exact (ih h).imp id (List.mem_cons_of_mem _)

namespace Http

-- ---------------------------------------------------------------------------
-- Addresses
-- ---------------------------------------------------------------------------

theorem Request.addressPath_eq_map (request : Request) : request.addressPath =
    (((Uri.split request.address.toList).map Uri.path).map String.ofList).mapError .uri := by
  unfold addressPath
  cases Uri.split request.address.toList <;> rfl

theorem isQueryPart_encode (pairs : List (String × String)) :
    Uri.IsQueryPart ('?' :: Uri.Form.encode pairs) where
  head := by
    intro c hc
    exact (Option.some.inj hc).symm
  plain := by
    intro c hc
    rcases List.mem_cons.mp hc with rfl | hc
    · exact ⟨by decide, by decide, rfl⟩
    · exact Uri.Form.mem_encode_marks hc

/-- The pairs of a query play no part in the path of an address. -/
theorem Request.addressPath_of_encoded {request : Request} {pairs : List (String × String)}
    (h : request.query = String.ofList (Uri.Form.encode pairs)) :
    request.addressPath = { request with query := "" }.addressPath := by
  by_cases hq : request.query = ""
  · rw [← hq]
  rw [addressPath_eq_map, addressPath_eq_map]
  let bare : Request := { request with query := "" }
  have hpart : Uri.IsQueryPart ('?' :: Uri.Form.encode pairs) := isQueryPart_encode pairs
  have haddress : request.address.toList = bare.address.toList ++ '?' :: Uri.Form.encode pairs := by
    have hencoded : ¬ String.ofList (Uri.Form.encode pairs) = "" := by rwa [← h]
    simp [bare, address, addressOf, h, hencoded]
  have hslash : ∃ c ∈ bare.address.toList, 0x20 < c.toNat := by
    refine ⟨'/', ?_, by decide⟩
    simp only [bare, address, addressOf]
    split
    · next hp =>
      simp only [String.toList_append, List.mem_append]
      exact .inl (.inr (List.mem_of_mem_head? hp))
    · simp
  rw [haddress, Uri.split_append_path hpart hslash]

-- ---------------------------------------------------------------------------
-- Grouped pairs
-- ---------------------------------------------------------------------------

theorem group_concat (pairs : List (String × String)) (name value : String) :
    group (pairs ++ [(name, value)]) =
      (group pairs).put name (((group pairs).get? name).getD [] ++ [value]) := by
  simp [group, List.foldl_append]

theorem keys_group (pairs : List (String × String)) :
    (group pairs).keys = (pairs.map Prod.fst).eraseDups := by
  induction pairs using List.reverseRecOn with
  | nil => rfl
  | append_singleton pairs pair ih =>
    obtain ⟨name, value⟩ := pair
    rw [group_concat, List.map_append, List.eraseDups_append, ← ih]
    have hkeys : ((group pairs).put name (((group pairs).get? name).getD [] ++ [value])).keys =
        if name ∈ (group pairs).keys then (group pairs).keys else (group pairs).keys ++ [name] :=
      Entries.keys_put ..
    have hmem : name ∈ (group pairs).keys ↔ name ∈ pairs.map Prod.fst := by
      rw [ih, List.mem_eraseDups]
    rw [hkeys]
    by_cases hname : name ∈ pairs.map Prod.fst
    · rw [if_pos (hmem.mpr hname)]
      simp [List.removeAll, hname]
    · rw [if_neg fun h => hname (hmem.mp h)]
      simp [List.removeAll, hname, List.eraseDups_cons]

theorem head?_get?_group (pairs : List (String × String)) (name : String) :
    ((group pairs).get? name).bind List.head? = pairs.lookup name := by
  induction pairs using List.reverseRecOn with
  | nil => rfl
  | append_singleton pairs pair ih =>
    obtain ⟨key, value⟩ := pair
    rw [group_concat, List.lookup_append, ← ih, Assoc.get?_put]
    by_cases h : name = key
    · subst h
      cases (group pairs).get? name <;> simp
    · have hother : (name == key) = false := by simpa using h
      simp [h, List.lookup_cons, hother]

theorem ne_nil_of_mem_group {pairs : List (String × String)} :
    ∀ entry ∈ (group pairs).entries, entry.2 ≠ [] := by
  induction pairs using List.reverseRecOn with
  | nil => simp [group]
  | append_singleton pairs pair ih =>
    intro entry hentry
    rw [group_concat] at hentry
    rcases Entries.mem_put hentry with rfl | hentry
    · simp
    · exact ih entry hentry

end Http

-- ---------------------------------------------------------------------------
-- Single values
-- ---------------------------------------------------------------------------

namespace Request

/-- The entries that single values are made of. -/
def firstEntries (parameters : Parameters) : List (String × String) :=
  parameters.filterMap fun (name, values) => values.head?.map (name, ·)

section
variable {parameters : Parameters} (h : ∀ entry ∈ parameters, entry.2 ≠ [])

include h in
theorem keys_firstEntries : (firstEntries parameters).map Prod.fst = parameters.map Prod.fst := by
  induction parameters with
  | nil => rfl
  | cons entry rest ih =>
    obtain ⟨name, values⟩ := entry
    obtain ⟨value, more, rfl⟩ := List.exists_cons_of_ne_nil (h _ (List.mem_cons_self ..))
    have hrest := ih fun other ho => h other (List.mem_cons_of_mem _ ho)
    simpa [firstEntries] using hrest

include h in
theorem get?_firstEntries (name : String) :
    Entries.get? name (firstEntries parameters) =
      (Entries.get? name parameters).bind List.head? := by
  induction parameters with
  | nil => rfl
  | cons entry rest ih =>
    obtain ⟨key, values⟩ := entry
    obtain ⟨value, more, rfl⟩ := List.exists_cons_of_ne_nil (h _ (List.mem_cons_self ..))
    have hrest := ih fun other ho => h other (List.mem_cons_of_mem _ ho)
    by_cases hk : key = name
    · simp [firstEntries, Entries.get?, hk]
    · simpa [firstEntries, Entries.get?, hk] using hrest

end

theorem singleValues_group_entries (pairs : List (String × String)) :
    (singleValues (Http.group pairs).entries).entries =
      firstEntries (Http.group pairs).entries := by
  refine Assoc.ofList_entries_of_nodup ?_
  have hvalues : ∀ entry ∈ (Http.group pairs).entries, entry.2 ≠ [] := Http.ne_nil_of_mem_group
  have hkeys := keys_firstEntries hvalues
  rw [firstEntries] at hkeys
  rw [hkeys]
  exact (Http.group pairs).nodup

theorem keys_singleValues_group (pairs : List (String × String)) :
    (singleValues (Http.group pairs).entries).keys = (pairs.map Prod.fst).eraseDups := by
  rw [Assoc.keys, singleValues_group_entries, keys_firstEntries Http.ne_nil_of_mem_group]
  exact Http.keys_group pairs

theorem get?_singleValues_group (pairs : List (String × String)) (name : String) :
    (singleValues (Http.group pairs).entries).get? name = pairs.lookup name := by
  rw [Assoc.get?, singleValues_group_entries, get?_firstEntries Http.ne_nil_of_mem_group]
  exact Http.head?_get?_group pairs name

end Request

-- ---------------------------------------------------------------------------
-- Pairs in a query and in a form
-- ---------------------------------------------------------------------------

namespace Http.Request

def asQuery (request : Request) (pairs : List (String × String)) : Request :=
  { request with method := "GET", query := String.ofList (Uri.Form.encode pairs) }

/-- The request as a form, with some pairs in its query and some in its body. -/
def asForm (request : Request) (query body : List (String × String)) : Request :=
  { request with
    method := "POST"
    query := String.ofList (Uri.Form.encode query)
    contentType := some formType
    body := Text.Utf8.encodeString (String.ofList (Uri.Form.encode body)) }

variable (request : Request) (query body pairs : List (String × String))

theorem addressPath_asForm :
    (request.asForm query body).addressPath = (request.asQuery pairs).addressPath := by
  have hform : (request.asForm query body).query = String.ofList (Uri.Form.encode query) := rfl
  have hquery : (request.asQuery pairs).query = String.ofList (Uri.Form.encode pairs) := rfl
  rw [addressPath_of_encoded hform, addressPath_of_encoded hquery]
  rfl

theorem parameters_asQuery : (request.asQuery pairs).parameters = .ok (group pairs) := by
  have hpairs : (request.asQuery pairs).queryPairs = pairs := Uri.Form.decodeBytes_encode pairs
  rw [parameters_of_get rfl, hpairs]

theorem formPairs_asForm : (request.asForm query body).formPairs =
    if maxFields < body.length then .error (.tooManyFields maxFields) else .ok body := by
  have htype : mediaType (request.asForm query body).contentTypeText = formType :=
    (by decide +kernel : mediaType (headerText formType) = formType)
  have hpairs : Uri.Form.decodeBytes (request.asForm query body).body = body :=
    Uri.Form.decodeBytes_encode body
  rw [formPairs, if_pos htype]
  simp only [hpairs]

theorem postsForm_asForm : (request.asForm query body).postsForm = true :=
  (by decide +kernel : ("POST" == "POST" &&
    formType.toList.isPrefixOf (headerText formType).toList) = true)

theorem parameters_asForm (h : (request.asForm query body).formPairs = .ok body) :
    (request.asForm query body).parameters = .ok (group (query ++ body)) := by
  have hpairs : (request.asForm query body).queryPairs = query := Uri.Form.decodeBytes_encode query
  rw [parameters, parameterPairs, if_pos (request.postsForm_asForm query body), h, hpairs]
  rfl

theorem parameters_asForm_of_long (h : maxFields < body.length) :
    (request.asForm query body).parameters = .error (.tooManyFields maxFields) := by
  rw [parameters, parameterPairs, if_pos (request.postsForm_asForm query body), formPairs_asForm,
    if_pos h]
  rfl

end Http.Request

end SignOn
