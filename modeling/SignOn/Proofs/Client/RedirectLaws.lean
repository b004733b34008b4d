import SignOn.Proofs.HandoffLaws
import SignOn.Proofs.Interception.Verdict
import SignOn.Proofs.Uri.FormLaws
import SignOn.Proofs.Uri.SplitLaws

/-!
# Where a redirect goes

Pairs that are appended to an absolute address are read back behind those of its query, and every
other part of the address stays (`split_appendQuery`). A denial redirects to such an address made of
the one that the request names (`denial_cases`), which is one that its client has registered.
-/

namespace SignOn

-- ---------------------------------------------------------------------------
-- Appended pairs
-- ---------------------------------------------------------------------------

theorem Uri.Form.decode_append (query rest : List Char) :
    decode (query ++ '&' :: rest) = decode query ++ decode rest := by
  simp [decode, List.splitOn_append_cons_self]

theorem Request.nonEmpty_inj {first second : Option String} :
    nonEmpty first = nonEmpty second ↔
      first = second ∨ nonEmpty first = none ∧ nonEmpty second = none := by
  have hkept (value : Option String) : nonEmpty value = none ∨ nonEmpty value = value := by
    cases value with
    | none => exact .inl rfl
    | some text => by_cases ht : text = "" <;> simp [nonEmpty, Option.filter, ht]
  grind

namespace Client.Redirect

/-- `target` is the address `asked` with pairs behind its query. -/
structure Extends (asked target : Uri) (pairs : List (String × String)) : Prop where
  scheme_eq : target.scheme = asked.scheme
  authority_eq : target.authority = asked.authority
  path_eq : target.path = asked.path
  fragment_eq : target.fragment = asked.fragment
  query_eq : Uri.Form.decode target.query = Uri.Form.decode asked.query ++ pairs

def extendedQuery (query : List Char) (pairs : List (String × String)) : List Char :=
  if query.isEmpty then Uri.Form.encode pairs else query ++ '&' :: Uri.Form.encode pairs

theorem decode_extendedQuery (query : List Char) (pairs : List (String × String)) :
    Uri.Form.decode (extendedQuery query pairs) = Uri.Form.decode query ++ pairs := by
  cases query with
  | nil => exact Uri.Form.decode_encode pairs
  | cons c rest =>
    rw [extendedQuery, if_neg (by simp), Uri.Form.decode_append, Uri.Form.decode_encode]

theorem mem_extendedQuery {c : Char} {query : List Char} {pairs : List (String × String)}
    (h : c ∈ extendedQuery query pairs) : c ∈ query ∨ c ≠ '#' ∧ Uri.isLineBreak c = false := by
  unfold extendedQuery at h
  split at h
  · exact .inr (Uri.Form.mem_encode_marks h).2
  · rcases List.mem_append.mp h with h | h
    · exact .inl h
    · rcases List.mem_cons.mp h with rfl | h
      · exact .inr ⟨by decide, rfl⟩
      · exact .inr (Uri.Form.mem_encode_marks h).2

theorem isSplit_extended {asked : Uri} (h : asked.IsSplit) (pairs : List (String × String)) :
    Uri.IsSplit { asked with query := extendedQuery asked.query pairs } := by
  refine ⟨h.scheme, h.authority, h.brackets, h.compatibility, h.path, h.pathMarks, ?_, ?_⟩
  · intro hc
    rcases mem_extendedQuery hc with hc | ⟨hc, -⟩
    · exact h.query hc
    · exact hc rfl
  · rintro c (hc | hc | hc | hc)
    · exact h.unbroken c (.inl hc)
    · exact h.unbroken c (.inr (.inl hc))
    · rcases mem_extendedQuery hc with hc | ⟨-, hc⟩
      · exact h.unbroken c (.inr (.inr (.inl hc)))
      · exact hc
    · exact h.unbroken c (.inr (.inr (.inr hc)))

theorem split_appendQuery {uri : String} {asked : Uri} (h : Uri.split uri.toList = .ok asked)
    (ha : asked.isAbsolute = true) (pairs : List (String × String)) :
    ∃ address target, appendQuery uri pairs = .ok address ∧
      Uri.split address.toList = .ok target ∧ Extends asked target pairs := by
  let target : Uri := { asked with query := extendedQuery asked.query pairs }
  have hsplit : target.IsSplit := isSplit_extended (Uri.isSplit_of_split h) pairs
  have happend : appendQuery uri pairs = .ok (String.ofList target.join) := by
    rw [appendQuery, h]
    rfl
  refine ⟨_, target, happend, ?_,
    ⟨rfl, rfl, rfl, rfl, decode_extendedQuery asked.query pairs⟩⟩
  rw [String.toList_ofList]
  exact Uri.split_join (show target.isAbsolute = true from ha) hsplit

-- ---------------------------------------------------------------------------
-- Error answers
-- ---------------------------------------------------------------------------

theorem errorParameters_eq (error : String) (state : Option String) :
    errorParameters error state =
      ("error", error) :: ((Request.nonEmpty state).map ("state", ·)).toList := by
  cases state with
  | none => rfl
  | some state => by_cases h : state = "" <;> simp [errorParameters, Request.nonEmpty, Option.filter, h]

theorem errorParameters_inj {error : String} {first second : Option String} :
    errorParameters error first = errorParameters error second ↔
      Request.nonEmpty first = Request.nonEmpty second := by
  rw [errorParameters_eq, errorParameters_eq]
  cases Request.nonEmpty first <;> cases Request.nonEmpty second <;> simp

section
variable {uri : String} {asked : Uri} (h : Uri.split uri.toList = .ok asked)
  (ha : asked.isAbsolute = true)

include h ha in
theorem appendQuery_inj {first second : List (String × String)} :
    appendQuery uri first = appendQuery uri second ↔ first = second := by
  refine ⟨fun heq => ?_, congrArg _⟩
  obtain ⟨address, target, happend, hsplit, hfirst⟩ := split_appendQuery h ha first
  obtain ⟨other, target', happend', hsplit', hsecond⟩ := split_appendQuery h ha second
  rw [happend, happend'] at heq
  cases heq
  cases hsplit.symm.trans hsplit'
  exact List.append_cancel_left (hfirst.query_eq.symm.trans hsecond.query_eq)

include h ha in
/-- Appending adds the pairs and nothing else, so an error answer tells the state. -/
theorem appendQuery_adds :
    (∀ pairs, ∃ address target, appendQuery uri pairs = .ok address ∧
        Uri.split address.toList = .ok target ∧ Extends asked target pairs) ∧
      ∀ error first second, errorUri uri error first = errorUri uri error second ↔
        first = second ∨ Request.nonEmpty first = none ∧ Request.nonEmpty second = none := by
  refine ⟨split_appendQuery h ha, fun error first second => ?_⟩
  rw [errorUri, errorUri, appendQuery_inj h ha, errorParameters_inj, Request.nonEmpty_inj]

end

/-- An address whose query has an escape that is none, an empty piece and a name alone. -/
def oddAddress : String := "HTTPS://rp/cb?tenant=%zz&&flag#top"

theorem oddAddress_appendQuery_adds :
    ∃ address target, appendQuery oddAddress [("", "a+b&c"), ("error", "")] = .ok address ∧
      Uri.split address.toList = .ok target ∧
      (target.scheme, target.authority, target.path, target.fragment) =
        ("https".toList, "rp".toList, "/cb".toList, "top".toList) ∧
      Uri.Form.decode target.query =
        [("tenant", "%zz"), ("flag", ""), ("", "a+b&c"), ("error", "")] ∧
      errorUri oddAddress "e" (some "&state=") ≠ errorUri oddAddress "e" none := by
  let asked : Uri :=
    ⟨"https".toList, "rp".toList, "/cb".toList, "tenant=%zz&&flag".toList, "top".toList⟩
  have hsplit : Uri.split oddAddress.toList = .ok asked := eq_ok_of_toOption (by decide +kernel)
  have hquery : Uri.Form.decode asked.query = [("tenant", "%zz"), ("flag", "")] := by
    decide +kernel
  obtain ⟨hadds, herror⟩ := appendQuery_adds hsplit (by decide)
  obtain ⟨address, target, happend, htarget, he⟩ := hadds [("", "a+b&c"), ("error", "")]
  refine ⟨address, target, happend, htarget, ?_, ?_, ?_⟩
  · rw [he.scheme_eq, he.authority_eq, he.path_eq, he.fragment_eq]
  · rw [he.query_eq, hquery]
    rfl
  · rw [ne_eq, herror]
    decide

-- ---------------------------------------------------------------------------
-- Registered addresses
-- ---------------------------------------------------------------------------

theorem resolve_eq_ok {candidate uri : String} {client : Client} :
    resolve candidate client = .ok uri ↔ candidate = uri ∧
      (∃ asked, Uri.split uri.toList = .ok asked ∧ asked.isAbsolute = true) ∧
      .text uri ∈ client.redirectUris := by
  unfold resolve
  cases hs : Uri.split candidate.toList with
  | error cause =>
    simp only [reduceCtorEq, false_iff]
    rintro ⟨rfl, ⟨asked, h, -⟩, -⟩
    cases hs.symm.trans h
  | ok asked =>
    cases ha : asked.isAbsolute with
    | false =>
      simp only [ha, Bool.not_false, ↓reduceIte, reduceCtorEq, false_iff]
      rintro ⟨rfl, ⟨other, h, habsolute⟩, -⟩
      cases hs.symm.trans h
      cases ha.symm.trans habsolute
    | true =>
      simp only [ha, Bool.not_true, Bool.false_eq_true, ↓reduceIte]
      by_cases hm : .text candidate ∈ client.redirectUris
      · simp only [hm, not_true_eq_false, ↓reduceIte, Except.ok.injEq]
        constructor
        · rintro rfl
          exact ⟨rfl, ⟨asked, hs, ha⟩, hm⟩
        · exact fun h => h.1
      · simp only [hm, not_false_eq_true, ↓reduceIte, reduceCtorEq, false_iff]
        rintro ⟨rfl, -, hregistered⟩
        exact hm hregistered

end Client.Redirect

/-- The column of a row is a list of these addresses. -/
def Client.Row.Registers (row : Row) (addresses : List String) : Prop :=
  Json.parse row.redirectUris = .ok (.array (addresses.map .text))

theorem Client.Row.Registers.client_eq {row : Row} {addresses : List String}
    (h : row.Registers addresses) :
    row.client = (SubjectType.ofJson (.text row.subjectType)).map fun subjectType =>
      ⟨row.clientId, .ofTexts addresses, row.defaultMaxAge, subjectType⟩ := by
  have hatoms := Document.atomsOf_toJson (addresses.map .text)
  rw [List.map_map] at hatoms
  have hitems : Document.atomsOf (addresses.map .text) = .ok (addresses.map .text) := hatoms
  rw [Client.Row.client, show Json.parse row.redirectUris = _ from h]
  change (Document.atomsOf (addresses.map .text)).bind _ = _
  rw [hitems]
  rfl

theorem Client.Row.Registers.redirectUris_eq {row : Row} {addresses : List String} {found : Client}
    (h : row.Registers addresses) (hc : row.client = .ok found) :
    found.redirectUris = .ofTexts addresses := by
  rw [h.client_eq, map_eq_ok] at hc
  obtain ⟨subjectType, -, rfl⟩ := hc
  rfl

theorem Client.Row.Registers.mem {row : Row} {addresses : List String} {found : Client}
    (h : row.Registers addresses) (hc : row.client = .ok found)
    (hm : .text address ∈ found.redirectUris) : address ∈ addresses := by
  rw [h.redirectUris_eq hc] at hm
  rcases AtomSet.mem_foldl_insert hm with hm | hm
  · cases hm
  · obtain ⟨other, ho, heq⟩ := List.mem_map.mp hm
    cases heq
    exact ho

-- ---------------------------------------------------------------------------
-- Denials
-- ---------------------------------------------------------------------------

/-- A denial is an error page, or a redirect to the address of the request, which its client has
registered. -/
theorem Decision.denial_cases (request : Request) (client : Client) :
    denial request client = forbidden ∨
      ∃ address asked target parts, Request.nonEmpty request.redirectUri = some address ∧
        .text address ∈ client.redirectUris ∧ Uri.split address.toList = .ok asked ∧
        asked.isAbsolute = true ∧ denial request client = .redirect target ∧
        Uri.split target.toList = .ok parts ∧
        Client.Redirect.Extends asked parts
          (("error", "login_required") ::
            ((Request.nonEmpty request.state).map ("state", ·)).toList) := by
  have hd := deny_eq request client
  unfold deny at hd
  cases hn : Request.nonEmpty request.redirectUri with
  | none =>
    rw [hn] at hd
    exact .inl (Except.ok.inj hd).symm
  | some address =>
    simp only [hn] at hd
    cases hr : Client.Redirect.resolve address client with
    | error cause =>
      rw [hr] at hd
      exact .inl (Except.ok.inj hd).symm
    | ok uri =>
      obtain ⟨rfl, ⟨asked, hs, ha⟩, hm⟩ := Client.Redirect.resolve_eq_ok.mp hr
      obtain ⟨target, parts, happend, hparts, hext⟩ :=
        Client.Redirect.split_appendQuery hs ha
          (Client.Redirect.errorParameters Client.Redirect.loginRequired request.state)
      rw [Client.Redirect.errorParameters_eq] at hext
      simp only [hr, Client.Redirect.errorUri, happend] at hd
      exact .inr ⟨address, asked, target, parts, rfl, hm, hs, ha, (Except.ok.inj hd).symm, hparts,
        hext⟩

end SignOn
