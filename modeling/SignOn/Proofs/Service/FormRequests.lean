import SignOn.Proofs.Http.FormLaws
import SignOn.Proofs.Service.Mediation
import SignOn.Proofs.Service.Reentry

/-!
# Authorization requests in forms

Two requests that have the same cookie, the same sender and the same parameters under the authorize
path are intercepted alike (`intercept_congr`), and what an exchange leaves pending is made of the
parameters that were sent (`Lawful.stores_sent`). So a form is answered as the query that has the
pairs of both of its parts, whatever the service has stored and whichever of its stores fails
(`form_answered_as_query`). A form with too many pairs is not answered at all
(`handle_of_tooManyFields`).
-/

namespace SignOn

namespace Service

section
variable {settings : Settings} {service : Service} {request other : Http.Request}

theorem intercept_congr (hpath : request.addressPath = other.addressPath)
    (hparameters : request.parameters = other.parameters) (hip : request.ip = other.ip)
    (sid : Session.Id) : intercept settings request sid = intercept settings other sid := by
  unfold intercept
  rw [hpath, hparameters, hip]

theorem serve_eq_authorize
    (h : route settings request.method request.path = .endpoint .authorize) (sid : Session.Id) :
    serve settings request sid = authorize settings sid request.ip := by
  unfold serve
  rw [h]

/-- Requests to the authorize path differ in their parameters only. -/
theorem handle_congr (hpath : request.addressPath = other.addressPath)
    (hparameters : request.parameters = other.parameters) (hip : request.ip = other.ip)
    (hcookie : request.cookieHeader = other.cookieHeader)
    (hr : route settings request.method request.path = .endpoint .authorize)
    (hr' : route settings other.method other.path = .endpoint .authorize) :
    handle settings request = handle settings other := by
  have hopen : request.cookie? settings.cookieName = other.cookie? settings.cookieName := by
    unfold Http.Request.cookie?
    rw [hcookie]
  have hrespond (sid : Session.Id) : respond settings request sid = respond settings other sid := by
    unfold respond
    rw [intercept_congr hpath hparameters hip, serve_eq_authorize hr, serve_eq_authorize hr', hip]
  unfold handle
  simp only [hopen, hrespond]

end

/-- A session that was idle keeps, with a request that is pending now, the parameters that were sent
and that the request is built of. -/
theorem Exchange.Lawful.stores_sent {settings : Settings} {e : Exchange} (h : e.Lawful settings)
    (hidle : e.entered.pending = none) (hp : e.left.pending = some pending) :
    ∃ parameters request, e.Sends settings parameters ∧ e.left.parameters = some parameters ∧
      Request.ofParameters parameters = .ok request ∧ pending = request.toRecord := by
  have hs := h.stays_of_pending (by simp [hp])
  rw [hs.left_eq] at hp ⊢
  rcases h.passes_or_sends with hpass | ⟨parameters, request, client, ht, hsends⟩
  · rw [hpass.found_eq] at hp
    cases hidle.symm.trans hp
  · have hk := ht.keepsRequest (ht.not_denied (by simp [hp]))
    obtain rfl := Option.some.inj (hk.pending_eq.symm.trans hp)
    exact ⟨parameters, request, hsends, hk.parameters_eq,
      (Interceptor.readRequest_eq_ok.mp hk.read).1, rfl⟩

variable {settings : Settings} {request : Http.Request} {query body : List (String × String)}

/-- A form that its parser reads is answered as the query of all its pairs, from every state of the
service. The first value of a name is used, and the names are in the order in which they appear. On
a healthy store these are the parameters that a session keeps with the request that they make. -/
theorem form_answered_as_query (service : Service) (hpath : request.path = settings.authorizePath)
    (hread : (request.asForm query body).formPairs = .ok body) :
    handle settings (request.asForm query body) service =
        handle settings (request.asQuery (query ++ body)) service ∧
      ∃ used : Assoc String,
        used.keys = ((query ++ body).map Prod.fst).eraseDups ∧
        (∀ name, used.get? name = (query ++ body).lookup name) ∧
        (request.asForm query body).parameters.map (Request.singleValues ·.entries) = .ok used ∧
        (request.asQuery (query ++ body)).parameters.map (Request.singleValues ·.entries) =
          .ok used ∧
        (service.store.Healthy → ∀ sid, (service.store.state sid).pending = none →
          let after := stateOf (handle settings (request.asForm query body) service)
          ∀ pending, (after.store.state sid).pending = some pending →
            (after.store.state sid).parameters = some used ∧
            ∃ built, Request.ofParameters used = .ok built ∧ pending = built.toRecord) := by
  have hform := request.parameters_asForm query body hread
  have hquery := request.parameters_asQuery (query ++ body)
  refine ⟨?_, Request.singleValues (Http.group (query ++ body)).entries,
    Request.keys_singleValues_group _, Request.get?_singleValues_group _, ?_, ?_, ?_⟩
  · have hroute {method : String} (hm : method ∈ Endpoint.authorize.methods) :
        route settings method request.path = .endpoint .authorize := by
      rw [hpath, route_authorize settings hm]
    have hpost : "POST" ∈ Endpoint.authorize.methods := by decide
    have hget : "GET" ∈ Endpoint.authorize.methods := by decide
    rw [handle_congr (request.addressPath_asForm query body _) (hform.trans hquery.symm) rfl rfl
      (hroute hpost) (hroute hget)]
  · rw [hform]
    rfl
  · rw [hquery]
    rfl
  · intro hhealthy sid hidle after pending hp
    let e := exchange settings service (request.asForm query body)
    have hl : e.Lawful settings := exchange_lawful hhealthy settings _
    obtain ⟨entries, -, hm⟩ := hl.answered
    have hsid : sid = e.sid := by
      refine Classical.byContradiction fun hother => ?_
      have hframe : after.store.state sid = service.store.state sid := hm.store.frame sid hother
      cases hidle.symm.trans (hframe ▸ hp)
    subst hsid
    obtain ⟨parameters, built, ⟨path, sent, -, -, hsent, rfl⟩, hstored, hbuilt, rfl⟩ :=
      hl.stores_sent hidle hp
    cases hsent.symm.trans hform
    exact ⟨hstored, built, hbuilt, rfl⟩

def oddForm : Http.Request :=
  { origin := "http://idp.test", path := "/profile/oidc/authorize" }

theorem oddForm_answered_as_query :
    let query := [("client_id", "web"), ("", "é"), ("scope", "")]
    let body := [("scope", "openid"), ("client_id", "app"), ("", "")]
    handle {} (oddForm.asForm query body) demo = handle {} (oddForm.asQuery (query ++ body)) demo ∧
      ∃ used : Assoc String,
        ((stateOf (handle {} (oddForm.asForm query body) demo)).store.state "0").parameters =
          some used ∧
        used.keys = ["client_id", "", "scope"] ∧ used.get? "client_id" = some "web" ∧
        used.get? "" = some "é" ∧ used.get? "scope" = some "" := by
  intro query body
  have hread : (oddForm.asForm query body).formPairs = .ok body := by
    rw [Http.Request.formPairs_asForm]
    rfl
  obtain ⟨hsame, used, hkeys, hvalues, -, -, hstores⟩ :=
    @form_answered_as_query {} oddForm query body demo rfl hread
  have hpending : ((stateOf (handle {} (oddForm.asForm query body) demo)).store.state
      "0").pending.isSome = true := by decide +kernel
  obtain ⟨pending, hp⟩ := Option.isSome_iff_exists.mp hpending
  have hstored := (hstores demo_isFresh.healthy "0" rfl pending hp).1
  exact ⟨hsame, used, hstored, hkeys.trans (by decide +kernel), hvalues _, hvalues _, hvalues _⟩

/-- A form with more pairs than a form may have changes nothing but the supply of identifiers. -/
theorem handle_of_tooManyFields {path : String} (service : Service)
    (hpath : (request.asForm query body).addressPath = .ok path)
    (hc : Interceptor.covers settings.authorizePath path = true)
    (hlong : Http.maxFields < body.length) :
    handle settings (request.asForm query body) service =
      .error (.tooManyFields Http.maxFields) (service.opened settings request) := by
  have hform := request.parameters_asForm_of_long query body hlong
  obtain ⟨issued, newSession, hopen⟩ := openSession_run settings service request
  have hopened : service.opened settings request = { service with issued } := by
    rw [opened, hopen]
    rfl
  have hintercept : intercept settings (request.asForm query body)
      (service.sessionOf settings request) { service with issued } =
        .error (.tooManyFields Http.maxFields) { service with issued } := by
    unfold intercept
    have hraise : raise (.ok path) { service with issued } = .ok path { service with issued } := rfl
    rw [hpath, hform]
    refine (run_bind hraise).trans ?_
    simp only [hc, ↓reduceIte]
    exact run_bind_error rfl
  have hrespond : respond settings (request.asForm query body) (service.sessionOf settings request)
      { service with issued } =
        .error (.tooManyFields Http.maxFields) { service with issued } :=
    run_bind_error hintercept
  rw [hopened]
  exact (run_bind hopen).trans (run_bind_error hrespond)

end Service

end SignOn
