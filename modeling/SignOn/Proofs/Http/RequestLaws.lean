import SignOn.Http.Form
import SignOn.Proofs.Uri.FormLaws
import SignOn.Proofs.Uri.SplitLaws

/-!
# Requests whose address is plain

At an origin that is a scheme and a host, a plain path is what the address of a request is read
back as, whatever its query (`addressPath_eq`). The parameters of a `GET` request are those of its
query, and distinct names with one value each are the parameters that they were
(`singleValues_group`).
-/

namespace SignOn

-- ---------------------------------------------------------------------------
-- Addresses
-- ---------------------------------------------------------------------------

namespace Http

def IsOrigin (origin : String) : Prop :=
  ∃ scheme host, origin.toList = scheme ++ ':' :: '/' :: '/' :: host ∧
    Uri.isScheme scheme = true ∧
    (∀ c ∈ host, Uri.endsAuthority c = false ∧ Uri.isLineBreak c = false) ∧
    Uri.checkBrackets host = .ok () ∧ Uri.checkCompatibility host = .ok ()

def pathMarks : List Char :=
  ['/', ':', '@', '!', '$', '&', '\'', '(', ')', '*', '+', ',', ';', '=']

def isPathChar (c : Char) : Bool :=
  Uri.Form.isPlain c || pathMarks.contains c

structure IsPlainPath (path : String) : Prop where
  slash : path.toList.head? = some '/'
  plain : ∀ c ∈ path.toList, isPathChar c = true

theorem not_isLineBreak_of_path {c : Char} (h : isPathChar c = true) :
    Uri.isLineBreak c = false := by
  cases hb : Uri.isLineBreak c with
  | false => rfl
  | true =>
    simp only [Uri.isLineBreak, Bool.or_eq_true, beq_iff_eq] at hb
    rcases hb with (rfl | rfl) | rfl <;> cases h

theorem not_mem_of_path {c : Char} {path : List Char} (hc : isPathChar c = false)
    (h : ∀ c ∈ path, isPathChar c = true) : c ∉ path :=
  fun hm => by cases hc.symm.trans (h c hm)

end Http

namespace Uri

section
variable {scheme host path rest : List Char}

/-- What follows a path is nothing or begins with a question mark. -/
theorem splitPath_fst (hp : ∀ c ∈ path, Http.isPathChar c = true)
    (hr : rest = [] ∨ rest.head? = some '?') : (splitPath (path ++ rest)).1 = path := by
  have hhash : '#' ∉ path := Http.not_mem_of_path rfl hp
  have hmark : '?' ∉ path := Http.not_mem_of_path rfl hp
  rw [splitPath, Text.cut_append hhash]
  simp only
  rw [Text.cut_append hmark]
  cases rest with
  | nil => simp [Text.cut]
  | cons c tail =>
    rcases hr with hr | hr
    · cases hr
    · cases hr
      simp [Text.cut]

theorem split_path (hs : isScheme scheme = true)
    (hh : ∀ c ∈ host, endsAuthority c = false ∧ isLineBreak c = false)
    (hb : checkBrackets host = .ok ()) (hc : checkCompatibility host = .ok ())
    (hslash : path.head? = some '/') (hp : ∀ c ∈ path, Http.isPathChar c = true)
    (hr : rest = [] ∨ rest.head? = some '?') :
    ∃ uri, split (scheme ++ ':' :: '/' :: '/' :: (host ++ (path ++ rest))) = .ok uri ∧
      uri.path = path := by
  have hkept : ('/' :: '/' :: (host ++ (path ++ rest))).filter (!isLineBreak ·) =
      '/' :: '/' :: (host ++ (path ++ rest.filter (!isLineBreak ·))) := by
    have hhost : host.filter (!isLineBreak ·) = host :=
      List.filter_eq_self.mpr fun c hc => by simp [(hh c hc).2]
    have hpath : path.filter (!isLineBreak ·) = path :=
      List.filter_eq_self.mpr fun c hc => by simp [Http.not_isLineBreak_of_path (hp c hc)]
    rw [List.filter_cons_of_pos (by decide), List.filter_cons_of_pos (by decide),
      List.filter_append, List.filter_append, hhost, hpath]
  have hrest : rest.filter (!isLineBreak ·) = [] ∨
      (rest.filter (!isLineBreak ·)).head? = some '?' := by
    cases rest with
    | nil => exact .inl rfl
    | cons c tail =>
      rcases hr with hr | hr
      · cases hr
      · cases hr
        exact .inr rfl
  have hends : EndsAuthority (path ++ rest.filter (!isLineBreak ·)) := by
    cases path with
    | nil => cases hslash
    | cons c tail =>
      cases hslash
      intro c hc
      cases hc
      rfl
  have hsplit := splitPath_fst hp hrest
  rcases hparts : splitPath (path ++ rest.filter (!isLineBreak ·)) with ⟨read, query, fragment⟩
  rw [hparts] at hsplit
  refine ⟨⟨scheme.map Char.toLower, host, read, query, fragment⟩, ?_, hsplit⟩
  rw [split, clean_of_scheme hs, List.filter_cons_of_pos (by decide), hkept, splitScheme_eq hs]
  simp only
  rw [splitAuthority_eq (fun c hc => (hh c hc).1) hends]
  simp only [hparts, hb, hc]

end

end Uri

namespace Http

theorem addressPath_eq {request : Request} (ho : IsOrigin request.origin)
    (hp : IsPlainPath request.path) : request.addressPath = .ok request.path := by
  obtain ⟨scheme, host, horigin, hs, hh, hb, hc⟩ := ho
  let rest := if request.query = "" then [] else '?' :: request.query.toList
  have hrest : rest = [] ∨ rest.head? = some '?' := by
    by_cases h : request.query = ""
    · exact .inl (if_pos h)
    · exact .inr (by simp [rest, h])
  have haddress : request.address.toList =
      scheme ++ ':' :: '/' :: '/' :: (host ++ (request.path.toList ++ rest)) := by
    rw [Request.address, addressOf, if_pos hp.slash]
    by_cases h : request.query = ""
    · simp [rest, h, horigin]
    · simp [rest, h, horigin]
  obtain ⟨uri, hsplit, hpath⟩ := Uri.split_path hs hh hb hc hp.slash hp.plain hrest
  rw [Request.addressPath, haddress, hsplit]
  simp only [hpath, String.ofList_toList]

-- ---------------------------------------------------------------------------
-- Parameters
-- ---------------------------------------------------------------------------

theorem parameters_of_get {request : Request} (h : request.method = "GET") :
    request.parameters = .ok (group request.queryPairs) := by
  have hpost : request.postsForm = false := by
    rw [Request.postsForm, h]
    rfl
  rw [Request.parameters, Request.parameterPairs, hpost]
  rfl

theorem foldl_group {pairs : List (String × String)} (values : Assoc (List String))
    (h : (values.keys ++ pairs.map Prod.fst).Nodup) :
    (pairs.foldl (fun values (name, value) =>
        values.put name ((values.get? name).getD [] ++ [value])) values).entries =
      values.entries ++ pairs.map fun pair => (pair.1, [pair.2]) := by
  induction pairs generalizing values with
  | nil => simp
  | cons pair rest ih =>
    obtain ⟨name, value⟩ := pair
    have hname : name ∉ values.keys := fun hin =>
      (List.nodup_append.mp h).2.2 _ hin _ (List.mem_cons_self ..) rfl
    have hnone : values.get? name = none := Entries.get?_of_not_mem hname
    have hput : (values.put name [value]).entries = values.entries ++ [(name, [value])] :=
      Entries.put_of_not_mem hname _
    rw [List.foldl_cons]
    simp only [hnone, Option.getD_none, List.nil_append]
    rw [ih, hput]
    · simp
    · simpa [Assoc.keys, hput] using h

theorem group_entries {pairs : List (String × String)} (h : (pairs.map Prod.fst).Nodup) :
    (group pairs).entries = pairs.map fun pair => (pair.1, [pair.2]) :=
  foldl_group ∅ h

end Http

theorem Request.singleValues_group (parameters : Assoc String) :
    Request.singleValues (Http.group parameters.entries).entries = parameters := by
  rw [Request.singleValues, Http.group_entries parameters.nodup, List.filterMap_map]
  show Assoc.ofList (parameters.entries.filterMap some) = parameters
  rw [List.filterMap_some]
  exact Assoc.ext (Assoc.ofList_entries_of_nodup parameters.nodup)

end SignOn
