import SignOn.Proofs.Client.RedirectLaws
import SignOn.Proofs.Database.SeedLaws
import SignOn.Proofs.Json.TextLaws
import SignOn.Proofs.Text.NumeralLaws

/-!
# The client of an environment

The row that seeding makes of an environment describes a client with the addresses and the age limit
that the environment gives (`Seed.Describes`). A request finds it by an identifier that is trimmed,
while the row has the identifier as it stands in the environment: a request reaches the client just
when there are no blanks around the identifier (`Seed.reaches_iff`).
-/

namespace SignOn

-- ---------------------------------------------------------------------------
-- Rows of addresses
-- ---------------------------------------------------------------------------

theorem Client.Row.registers_ofAddresses (clientId : String) (addresses : List String)
    (maxAge : Option Int) : (ofAddresses clientId addresses maxAge).Registers addresses :=
  Json.parse_render_texts addresses

theorem Client.Row.client_ofAddresses (clientId : String) (addresses : List String)
    (maxAge : Option Int) : (ofAddresses clientId addresses maxAge).client =
      .ok ⟨clientId, .ofTexts addresses, maxAge, .shared⟩ :=
  (registers_ofAddresses clientId addresses maxAge).client_eq

section
variable {db : Database} {row other : Client.Row} {clientId : String}

theorem Database.row?_withClient_self (h : db.clients.row? row.clientId = none) :
    (db.withClient row).clients.row? row.clientId = some row := by
  rw [withClient_of_absent h]
  unfold Client.Registry.row? at h ⊢
  rw [List.find?_append, h]
  simp

theorem Database.row?_withClient (h : db.clients.row? clientId = some other) (row : Client.Row) :
    (db.withClient row).clients.row? clientId = some other := by
  unfold withClient
  split
  · unfold Client.Registry.row? at h ⊢
    rw [List.find?_append, h]
    rfl
  · exact h

end

-- ---------------------------------------------------------------------------
-- Identifiers and integers
-- ---------------------------------------------------------------------------

theorem Text.Numeral.isNumeral_of_read {text : String} {n : Int} (h : read text = .ok n) :
    IsNumeral text n := by
  obtain ⟨before, after, hparts, hbefore, hafter⟩ := trimBy_parts isPadding text.toList
  have hblank {c : Char} (hc : isPadding c = true) : isBlank c = true :=
    (Bool.and_eq_true_iff.mp hc).1
  exact ⟨before, _, after, hparts, fun c hc => hblank (hbefore c hc), read_eq_ok.mp h,
    fun c hc => hblank (hafter c hc)⟩

theorem Text.trim_trim (text : String) : trim (trim text) = trim text := by
  rw [trim, trim, String.toList_ofList, (isTrim_trimBy isBlank text.toList).trimBy_eq]

theorem Request.clientId_of_ofParameters {parameters : Assoc String}
    (h : ofParameters parameters = .ok request) :
    request.clientId = Text.trim ((parameters.get? "client_id").getD "") := by
  simp only [ofParameters] at h
  split at h
  · cases h
  · obtain ⟨maxAge, -, rfl⟩ := map_eq_ok.mp h
    rfl

theorem Interceptor.trim_of_readRequest {registry : Client.Registry} {parameters : Assoc String}
    (h : readRequest registry parameters = .ok (request, client)) :
    Text.trim client.clientId = client.clientId := by
  obtain ⟨hrequest, hlookup⟩ := readRequest_eq_ok.mp h
  rw [Client.Registry.clientId_of_lookup hlookup, Request.clientId_of_ofParameters hrequest,
    Text.trim_trim]

/-- The parameters of a request that names a client and nothing else. -/
def Request.naming (clientId : String) : Assoc String :=
  .ofList [("client_id", clientId)]

theorem Request.get?_naming (clientId : String) :
    (naming clientId).get? "client_id" = some clientId :=
  Assoc.get?_put_self ∅ "client_id" clientId

theorem Request.clientId_of_naming {clientId : String}
    (h : ofParameters (naming clientId) = .ok request) : request.clientId = Text.trim clientId := by
  rw [clientId_of_ofParameters h, get?_naming]
  rfl

theorem Request.ofParameters_naming {clientId : String} (h : Text.trim clientId ≠ "") :
    ∃ request, ofParameters (naming clientId) = .ok request := by
  have hlimit : (naming clientId).get? "max_age" = none :=
    Assoc.get?_put_of_ne ∅ (show "max_age" ≠ "client_id" by decide) clientId
  simp only [ofParameters, get?_naming, Option.getD_some, if_neg h, hlimit]
  exact ⟨_, rfl⟩

-- ---------------------------------------------------------------------------
-- The client of an environment
-- ---------------------------------------------------------------------------

namespace Database.Seed

def pieces (value : String) : List String :=
  (value.toList.splitOn ',').map String.ofList

theorem mem_addresses {value address : String} :
    address ∈ addresses value ↔
      ∃ piece ∈ pieces value, Text.trim piece ≠ "" ∧ address = Text.trim piece := by
  simp only [addresses, pieces, List.mem_filter, List.mem_map, bne_iff_ne, exists_exists_and_eq_and]
  constructor
  · rintro ⟨⟨piece, hpiece, rfl⟩, hne⟩
    exact ⟨piece, hpiece, hne, rfl⟩
  · rintro ⟨piece, hpiece, hne, rfl⟩
    exact ⟨⟨piece, hpiece, rfl⟩, hne⟩

/-- The variable of the redirect addresses: the plural one counts where the other is absent or
empty. -/
inductive InEffect (env : Environment) : String → Prop
  | single (h : env.get? "IDP_REDIRECT_URI" = some value) (hne : value ≠ "") : InEffect env value
  | plural (hempty : ∀ text, env.get? "IDP_REDIRECT_URI" = some text → text = "")
    (h : env.get? "IDP_REDIRECT_URIS" = some value) : InEffect env value

/-- An environment names a client and an address of it at least. -/
structure Configures (env : Environment) (clientId value : String) : Prop where
  clientId_eq : env.get? "IDP_CLIENT_ID" = some clientId
  clientId_ne : clientId ≠ ""
  inEffect : InEffect env value
  address : ∃ piece ∈ pieces value, Text.trim piece ≠ ""

/-- The age limit that a variable sets, if any. -/
inductive SetsLimit : Option String → Option Int → Prop
  | absent : SetsLimit none none
  | blank (h : ∀ c ∈ text.toList, Text.isBlank c = true) : SetsLimit (some text) none
  | limit (h : Text.Numeral.IsNumeral text n) : SetsLimit (some text) (some n)

/-- A client is the one that an environment configures. -/
structure Describes (env : Environment) (clientId value : String) (client : Client) : Prop where
  clientId_eq : client.clientId = clientId
  redirectUris : ∀ a, a ∈ client.redirectUris ↔
    ∃ piece ∈ pieces value, Text.trim piece ≠ "" ∧ a = .text (Text.trim piece)
  maxAge : SetsLimit (env.get? "IDP_CLIENT_DEFAULT_MAX_AGE") client.defaultMaxAge

section
variable {hasher : Hasher} {env : Environment} {db after : Database} {clientId value : String}
  {limit : Option Int}

theorem InEffect.variable_eq (h : InEffect env value) (hne : value ≠ "") :
    redirectVariable env = some value := by
  unfold redirectVariable Environment.nonEmpty?
  cases h with
  | single h _ => simp [h, hne]
  | plural hempty h =>
    cases hsingle : env.get? "IDP_REDIRECT_URI" with
    | none => simp [h, hne]
    | some text => simp [hempty text hsingle, h, hne]

theorem addresses_ne_nil (h : ∃ piece ∈ pieces value, Text.trim piece ≠ "") :
    addresses value ≠ [] := by
  obtain ⟨piece, hpiece, hne⟩ := h
  exact List.ne_nil_of_mem (mem_addresses.mpr ⟨piece, hpiece, hne, rfl⟩)

theorem Configures.client?_eq (h : Configures env clientId value) (maxAge : Option Int) :
    client? env maxAge = some (.ofAddresses clientId (addresses value) maxAge) := by
  have haddresses := addresses_ne_nil h.address
  have hvalue : redirectVariable env = some value := by
    refine h.inEffect.variable_eq ?_
    rintro rfl
    exact haddresses rfl
  have hid : env.nonEmpty? "IDP_CLIENT_ID" = some clientId := by
    rw [Environment.nonEmpty?, h.clientId_eq]
    simp [h.clientId_ne]
  rw [client?, hid, hvalue]
  simp [haddresses]

theorem setsLimit_of_readInteger {value : Option String} (h : readInteger value = .ok limit) :
    SetsLimit value limit := by
  cases value with
  | none =>
    cases h
    exact .absent
  | some text =>
    simp only [readInteger] at h
    split at h
    · next hblank =>
      cases h
      exact .blank (Text.trim_eq_empty_iff.mp hblank)
    · split at h
      · cases h
      · next n hread =>
        cases h
        exact .limit (Text.Numeral.isNumeral_of_read hread)

theorem Configures.row_of_run (h : Configures env clientId value)
    (habsent : ∀ row ∈ db.clients, row.clientId ≠ clientId)
    (hrun : run hasher env db = .ok () after) :
    ∃ client, after.clients.lookup clientId = .ok (some client) ∧
      Describes env clientId value client := by
  obtain ⟨maxAge, hread, -, rfl⟩ := run_eq_ok.mp hrun
  let row : Client.Row := .ofAddresses clientId (addresses value) maxAge
  let users : Database := (user? hasher env).toList.foldl withUser db
  have hnone : users.clients.row? row.clientId = none := by
    rw [foldl_withUser_clients]
    exact List.find?_eq_none.mpr fun other hother heq =>
      habsent other hother (eq_of_beq heq)
  have hadded : added hasher env maxAge db = (users.withClient row).withClient developmentRow := by
    rw [added, h.client?_eq]
    rfl
  have hrow : (added hasher env maxAge db).clients.row? clientId = some row := by
    rw [hadded]
    exact row?_withClient (row?_withClient_self hnone) developmentRow
  refine ⟨_, Client.Registry.lookup_eq_some.mpr
    ⟨row, hrow, Client.Row.client_ofAddresses clientId (addresses value) maxAge⟩, rfl, ?_,
    setsLimit_of_readInteger hread⟩
  intro a
  rw [AtomSet.mem_ofTexts]
  constructor
  · rintro ⟨address, haddress, rfl⟩
    obtain ⟨piece, hpiece, hne, rfl⟩ := mem_addresses.mp haddress
    exact ⟨piece, hpiece, hne, rfl⟩
  · rintro ⟨piece, hpiece, hne, rfl⟩
    exact ⟨_, mem_addresses.mpr ⟨piece, hpiece, hne, rfl⟩, rfl⟩

/-- A request reaches the client of an environment just when there are no blanks around its
identifier. -/
theorem reaches_iff (h : Configures env clientId value)
    (habsent : ∀ row ∈ db.clients, row.clientId ≠ clientId)
    (hrun : run hasher env db = .ok () after) :
    (∃ request client,
      Interceptor.readRequest after.clients (Request.naming clientId) = .ok (request, client) ∧
        Describes env clientId value client) ↔ Text.trim clientId = clientId := by
  constructor
  · rintro ⟨request, client, hread, hclient⟩
    rw [← hclient.clientId_eq]
    exact Interceptor.trim_of_readRequest hread
  · intro htrim
    obtain ⟨client, hlookup, hclient⟩ := h.row_of_run habsent hrun
    obtain ⟨request, hrequest⟩ := Request.ofParameters_naming (htrim.symm ▸ h.clientId_ne)
    have hid : request.clientId = clientId :=
      (Request.clientId_of_naming hrequest).trans htrim
    exact ⟨request, client, Interceptor.readRequest_eq_ok.mpr ⟨hrequest, hid ▸ hlookup⟩, hclient⟩

end

/-- An environment whose client has two addresses, one of them twice. -/
def webEnvironment : Environment :=
  [("IDP_CLIENT_ID", "web"), ("IDP_REDIRECT_URI", ""),
    ("IDP_REDIRECT_URIS", " https://rp/é ,, https://rp/b,https://rp/é"),
    ("IDP_CLIENT_DEFAULT_MAX_AGE", " 60 ")]

def nearbyTable : Database :=
  { clients := [.ofAddresses " web" ["https://other/"] none] }

theorem webEnvironment_reaches :
    Configures webEnvironment "web" " https://rp/é ,, https://rp/b,https://rp/é" ∧
      ∃ after, run .plain webEnvironment nearbyTable = .ok () after ∧ ∃ request client,
        Interceptor.readRequest after.clients (Request.naming "web") = .ok (request, client) ∧
          Describes webEnvironment "web" " https://rp/é ,, https://rp/b,https://rp/é" client := by
  have hconfigures :
      Configures webEnvironment "web" " https://rp/é ,, https://rp/b,https://rp/é" :=
    ⟨rfl, by decide, .plural (fun text h => (Option.some.inj h).symm) rfl, by decide +kernel⟩
  have habsent : ∀ row ∈ nearbyTable.clients, row.clientId ≠ "web" := by
    rw [nearbyTable, List.forall_mem_singleton]
    decide
  have hrun : run .plain webEnvironment nearbyTable =
      .ok () (added .plain webEnvironment (some 60) nearbyTable) := by
    refine run_eq_ok.mpr ⟨some 60, eq_ok_of_toOption (by decide +kernel), ?_, rfl⟩
    rw [hconfigures.client?_eq]
    rintro row ⟨⟩ -
    decide
  exact ⟨hconfigures, _, hrun, (reaches_iff hconfigures habsent hrun).mpr (by decide +kernel)⟩

def paddedEnvironment : Environment :=
  [("IDP_CLIENT_ID", " web "), ("IDP_REDIRECT_URI", "https://rp/cb")]

/-- The request that names the client of such an environment finds none. -/
theorem padded_client_unreachable : Configures paddedEnvironment " web " "https://rp/cb" ∧
    ∃ after, run .plain paddedEnvironment {} = .ok () after ∧
      Interceptor.readRequest after.clients (Request.naming " web ") =
        .error (.unknownClient "web") := by
  have hconfigures : Configures paddedEnvironment " web " "https://rp/cb" :=
    ⟨rfl, by decide, .single rfl (by decide), by decide +kernel⟩
  have hrun : run .plain paddedEnvironment {} = .ok () (added .plain paddedEnvironment none {}) := by
    refine run_eq_ok.mpr ⟨none, rfl, ?_, rfl⟩
    rw [hconfigures.client?_eq]
    rintro row ⟨⟩ -
    rfl
  refine ⟨hconfigures, _, hrun, ?_⟩
  decide +kernel

end Database.Seed

end SignOn
