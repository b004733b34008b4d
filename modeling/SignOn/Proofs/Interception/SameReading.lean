import SignOn.Proofs.Interception.DecisionTable
import SignOn.Proofs.Request.SameReading

/-!
# Interceptions of parameters that read alike

Requests that are equal up to the order of their extensions are judged alike, and what taking them
up makes of a session is the same up to that order and the parameters (`accepted_alike`). So the
interception of either of two maps of parameters that read alike gives the same decision and leaves
the same session (`intercept_alike`).
-/

namespace SignOn

open Session (State Store)

structure Request.Record.Alike (first second : Record) : Prop where
  eq : second = { first with extensions := second.extensions }
  extensions : first.extensions.entries.Perm second.extensions.entries

theorem Request.Record.Alike.refl (record : Record) : record.Alike record :=
  ⟨rfl, .refl _⟩

theorem Request.Alike.toRecord {request other : Request} (h : request.Alike other) :
    request.toRecord.Alike other.toRecord where
  eq := by
    rw [h.eq]
    rfl
  extensions := (h.extensions.map _).map _

/-- Two states that are equal up to the parameters and the order of the extensions. -/
structure Session.State.Alike (first second : State) : Prop where
  eq : second = { first with pending := second.pending, parameters := second.parameters }
  pending : Option.Rel Request.Record.Alike first.pending second.pending
  parameters_isSome : first.parameters.isSome = second.parameters.isSome

theorem Session.State.Alike.refl (state : State) : state.Alike state where
  eq := rfl
  pending := by
    cases state.pending with
    | none => exact .none
    | some record => exact .some (.refl record)
  parameters_isSome := rfl

namespace Interceptor

section
variable {request other : Request} (h : request.Alike other)
include h

theorem verdict_alike (interceptor : Interceptor) (state : State) (client : Client) :
    interceptor.verdict state request client = interceptor.verdict state other client := by
  rw [h.eq]
  rfl

theorem settled_alike (state : State) (first second : Assoc String) (client : Client)
    (decision : Decision) :
    (state.settled first request client decision).Alike
      (state.settled second other client decision) := by
  have hhint : other.loginHint = request.loginHint := by rw [h.eq]
  have hwants : other.toRecord.wantsLogin = request.toRecord.wantsLogin := by
    rw [h.toRecord.eq]
    rfl
  cases decision with
  | redirect uri => exact ⟨by simp only [State.settled, hhint], .none, rfl⟩
  | refuse status message => exact ⟨by simp only [State.settled, hhint], .none, rfl⟩
  | reauthenticate reason =>
    exact ⟨by simp only [State.settled, hhint, hwants], .some h.toRecord, rfl⟩
  | proceed => exact ⟨by simp only [State.settled, hhint, hwants], .some h.toRecord, rfl⟩

theorem accepted_alike (interceptor : Interceptor) (state : State) (first second : Assoc String)
    (client : Client) :
    (interceptor.accepted state first request client).Alike
      (interceptor.accepted state second other client) := by
  rw [accepted_eq_settled, accepted_eq_settled, verdict_alike h]
  exact settled_alike h state first second client _

end

theorem readRequest_alike {first second : Assoc String} (h : Request.SameReading first second)
    (registry : Client.Registry) :
    (∃ cause, readRequest registry first = .error cause ∧
      readRequest registry second = .error cause) ∨
    ∃ request other client, readRequest registry first = .ok (request, client) ∧
      readRequest registry second = .ok (other, client) ∧ request.Alike other := by
  unfold readRequest
  rcases Request.ofParameters_alike h with
    ⟨fault, hfirst, hsecond⟩ | ⟨request, other, hfirst, hsecond, halike⟩
  · rw [hfirst, hsecond]
    exact .inl ⟨_, rfl, rfl⟩
  · have hfind : findClient registry other = findClient registry request := by
      unfold findClient
      rw [halike.eq]
    rw [hfirst, hsecond]
    simp only [hfind]
    cases findClient registry request with
    | error cause => exact .inl ⟨cause, rfl, rfl⟩
    | ok client => exact .inr ⟨request, other, client, rfl, rfl, halike⟩

theorem unread_alike (cause : Failure) (first second : Assoc String) :
    (unread cause first).map Interception.decision? =
      (unread cause second).map Interception.decision? := by
  cases cause <;> rfl

/-- Parameters that are not rejected are left unread for the sake of a row of the registry. -/
theorem unread_eq_error {registry : Client.Registry} {parameters : Assoc String}
    {failure : Failure}
    (hr : readRequest registry parameters = .error cause)
    (hu : unread cause parameters = .error failure) :
    ∃ clientId fault, registry.lookup clientId = .error fault := by
  unfold readRequest at hr
  split at hr
  · cases hr
    cases hu
  · next request hrequest =>
    unfold findClient at hr
    cases hl : registry.lookup request.clientId with
    | error fault => exact ⟨_, fault, hl⟩
    | ok found =>
      rw [hl] at hr
      cases found with
      | none =>
        cases hr
        cases hu
      | some client => cases hr

section
variable {interceptor : Interceptor} {takes : State → Bool} {given other : Request.Parameters}
  (h : Request.SameReading (Request.singleValues given) (Request.singleValues other))
  (hs : Starts (takes · = true) interceptor.registry)

include h hs in
theorem intercept_writes_alike (path : String) (sid : Session.Id) (state : State) :
    ∃ result result' written written',
      Session.Writes takes sid (interceptor.intercept path given sid) state written result ∧
      Session.Writes takes sid (interceptor.intercept path other sid) state written' result' ∧
      result.map Interception.decision? = result'.map Interception.decision? ∧
      (written.getLastD state).Alike (written'.getLastD state) ∧
      ∀ failure, result = .error failure →
        ∃ clientId fault, interceptor.registry.lookup clientId = .error fault := by
  cases hc : covers interceptor.authorizePath path with
  | false =>
    exact ⟨_, _, _, _, unconcerned_writes hc, unconcerned_writes hc, rfl, .refl state, by simp⟩
  | true =>
    cases hp : state.pending with
    | some pending =>
      exact ⟨_, _, _, _, resumed_writes hc hp, resumed_writes hc hp, rfl, .refl state, by simp⟩
    | none =>
      rcases readRequest_alike h interceptor.registry with
        ⟨cause, hfirst, hsecond⟩ | ⟨request, request', client, hfirst, hsecond, halike⟩
      · exact ⟨_, _, _, _, unread_writes hc hp hfirst, unread_writes hc hp hsecond,
          unread_alike .., .refl state, fun _ => unread_eq_error hfirst⟩
      · have hid := Client.Registry.clientId_of_lookup (readRequest_eq_ok.mp hfirst).2
        have hid' := Client.Registry.clientId_of_lookup (readRequest_eq_ok.mp hsecond).2
        have ht := hs _ request client hfirst { state with loginHint := request.loginHint }
        have ht' := hs _ request' client hsecond { state with loginHint := request'.loginHint }
        refine ⟨_, _, _, _, read_writes hc hp hfirst (accept_writes interceptor hid ht),
          read_writes hc hp hsecond (accept_writes interceptor hid' ht'), ?_, ?_, by simp⟩
        · rw [verdict_alike halike]
        · rw [getLastD_acceptedStates, getLastD_acceptedStates]
          exact accepted_alike halike interceptor state _ _ client

end

end Interceptor

def Client.Registry.IsTyped (registry : Registry) : Prop :=
  ∀ row ∈ registry, ∃ subjectType, SubjectType.ofJson (.text row.subjectType) = .ok subjectType

theorem Client.Registry.IsTyped.lookup_ne_error {registry : Registry} (h : registry.IsTyped)
    (hrows : ∀ row ∈ registry, ∃ addresses, row.Registers addresses) (clientId : String)
    (fault : Document.Fault) : registry.lookup clientId ≠ .error fault := by
  unfold lookup
  cases hr : registry.row? clientId with
  | none => exact nofun
  | some row =>
    have hrow := List.mem_of_find?_eq_some hr
    obtain ⟨addresses, haddresses⟩ := hrows row hrow
    obtain ⟨subjectType, hsubject⟩ := h row hrow
    simp only [haddresses.client_eq, hsubject]
    exact nofun

namespace Interceptor

/-- Two runs from one store decide alike and leave one session alike. No other session is
touched. -/
structure RunsAlike (store : Store) (sid : Session.Id)
    (first second : EStateM.Result Failure Store Interception) : Prop where
  decision_eq : (resultOf first).map Interception.decision? =
    (resultOf second).map Interception.decision?
  state_alike : ((stateOf first).state sid).Alike ((stateOf second).state sid)
  frame : ∀ other, other ≠ sid → (stateOf first).state other = store.state other ∧
    (stateOf second).state other = store.state other

/-- Parameters that read alike make requests that are equal up to the order of their extensions, or
fail alike, and their interceptions from one store run alike. -/
theorem intercept_alike {first second : Assoc String}
    (h : Request.SameReading first second) :
    ((∃ fault, Request.ofParameters first = .error fault ∧
        Request.ofParameters second = .error fault) ∨
      ∃ request other, Request.ofParameters first = .ok request ∧
        Request.ofParameters second = .ok other ∧ request.Alike other) ∧
    ∀ (interceptor : Interceptor) (given other : Request.Parameters) (path : String)
      (sid : Session.Id) (store : Store), Request.singleValues given = first →
      Request.singleValues other = second →
      (∀ row ∈ interceptor.registry, ∃ addresses, row.Registers addresses) → store.Healthy →
      RunsAlike store sid (interceptor.intercept path given sid store)
        (interceptor.intercept path other sid store) ∧
      (interceptor.registry.IsTyped → ∃ interception after,
        interceptor.intercept path given sid store = .ok interception after) := by
  refine ⟨Request.ofParameters_alike h, ?_⟩
  rintro interceptor given other path sid store rfl rfl hrows hhealthy
  have htextual := Client.Registry.isTextual_of_registers hrows
  have hs : Starts (store.takes · = true) interceptor.registry :=
    fun _ _ _ hread state => store.takes_of_listable (htextual.starts _ _ _ hread state)
  obtain ⟨result, result', written, written', hw, hw', hdecision, halike, hfailure⟩ :=
    intercept_writes_alike h hs path sid (store.state sid)
  obtain ⟨after, hrun, hu⟩ := hw.run hhealthy
  obtain ⟨after', hrun', hu'⟩ := hw'.run hhealthy
  rw [hrun, hrun']
  refine ⟨⟨?_, ?_, fun session hother => ?_⟩, fun htyped => ?_⟩
  · rw [resultOf_ending, resultOf_ending, hdecision]
  · rw [stateOf_ending, stateOf_ending, hu.state_eq, hu'.state_eq]
    exact halike
  · rw [stateOf_ending, stateOf_ending]
    exact ⟨hu.frame session hother, hu'.frame session hother⟩
  · cases result with
    | ok interception => exact ⟨interception, after, rfl⟩
    | error failure =>
      obtain ⟨clientId, fault, hlookup⟩ := hfailure failure rfl
      exact absurd hlookup (htyped.lookup_ne_error hrows clientId fault)

-- The same request with its parameters in two orders, spaced in two ways.
def spacedParameters : Request.Parameters :=
  [("client_id", [" web\t", "app"]), ("ui", ["x"]), ("scope", ["openid  profile\n"]),
    ("prompt", ["consent\u00a0login"]), ("theme", [" dark"]), ("max_age", ["60"])]

def packedParameters : Request.Parameters :=
  [("theme", [" dark"]), ("max_age", ["60"]), ("scope", ["profile openid profile"]),
    ("client_id", ["web"]), ("prompt", ["\u2003consent login"]), ("ui", ["x", ""])]

theorem spacedParameters_sameReading : Request.SameReading
    (Request.singleValues spacedParameters) (Request.singleValues packedParameters) where
  others := by decide +kernel
  clientId_eq := by decide +kernel
  scope_iff word := by
    have hspaced : Text.words (((Request.singleValues spacedParameters).get? "scope").getD "") =
      ["openid", "profile"] := by decide +kernel
    have hpacked : Text.words (((Request.singleValues packedParameters).get? "scope").getD "") =
      ["profile", "openid", "profile"] := by decide +kernel
    rw [hspaced, hpacked]
    simp only [List.mem_cons, List.not_mem_nil, or_false]
    grind
  prompt_eq := by decide +kernel
  acrValues_eq := by decide +kernel

theorem spacedParameters_alike :
    resultOf (strictInterceptor.intercept "/profile/oidc/authorize" packedParameters "s"
        returningStore) = .ok (.decided (.reauthenticate .age) "web") ∧
    RunsAlike returningStore "s"
      (strictInterceptor.intercept "/profile/oidc/authorize" spacedParameters "s" returningStore)
      (strictInterceptor.intercept "/profile/oidc/authorize" packedParameters "s"
        returningStore) := by
  have hrows : ∀ row ∈ strictInterceptor.registry, ∃ addresses, row.Registers addresses := by
    intro row hrow
    rw [strictInterceptor, List.mem_singleton] at hrow
    exact ⟨["https://rp/cb"], hrow ▸ eq_ok_of_toOption (by decide +kernel)⟩
  have hhealthy : returningStore.Healthy := ⟨rfl, trivial⟩
  refine ⟨eq_ok_of_toOption (by decide +kernel), ?_⟩
  exact ((intercept_alike spacedParameters_sameReading).2 strictInterceptor spacedParameters
    packedParameters "/profile/oidc/authorize" "s" returningStore rfl rfl hrows hhealthy).1

end Interceptor

end SignOn
