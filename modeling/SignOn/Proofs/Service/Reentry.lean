import SignOn.Http.Reply
import SignOn.Proofs.Http.RequestLaws
import SignOn.Proofs.Service.SessionSteps

/-!
# The way back to the authorize path

The address by which a browser comes back is written so that the parameters are read back from its
query (`reentryQuery_pairs`), and a location header leaves it as it is (`location_reentry`). What a
request to a known path comes to is `Lawful.unconcerned_of` outside the authorize path and
`Lawful.takesUp_of` under it.
-/

namespace SignOn

-- ---------------------------------------------------------------------------
-- Paths
-- ---------------------------------------------------------------------------

/-- The login path is not under the authorize path, and no character of either is escaped. -/
structure Settings.HasPlainPaths (settings : Settings) : Prop where
  authorize : Http.IsPlainPath settings.authorizePath
  login : Http.IsPlainPath settings.loginPath
  apart : Interceptor.covers settings.authorizePath settings.loginPath = false

structure Http.Request.GoesTo (request : Http.Request) (method path : String) : Prop where
  method_eq : request.method = method
  path_eq : request.path = path
  origin : IsOrigin request.origin

theorem Http.Request.GoesTo.addressPath_eq {request : Http.Request} {method path : String}
    (h : request.GoesTo method path) (hp : IsPlainPath path) : request.addressPath = .ok path := by
  rw [← h.path_eq] at hp ⊢
  exact Http.addressPath_eq h.origin hp

theorem Http.IsPlainPath.ne_empty {path : String} (h : IsPlainPath path) : path ≠ "" := by
  rintro rfl
  cases h.slash

theorem Interceptor.covers_self {path : String} (h : path ≠ "") : covers path path = true := by
  simp [covers, h]

theorem Interceptor.not_prefix_of_not_covers {path other : String} (h : covers path other = false)
    (hne : other ≠ "") (rest : String) : other ≠ path ++ rest := by
  rintro rfl
  have hprefix : path.toList.isPrefixOf (path.toList ++ rest.toList) = true :=
    List.isPrefixOf_iff_prefix.mpr (List.prefix_append ..)
  simp [covers, hne, hprefix] at h

namespace Service

theorem route_authorize (settings : Settings) {method : String}
    (h : method ∈ Endpoint.authorize.methods) :
    route settings method settings.authorizePath = .endpoint .authorize := by
  have hmethod : Endpoint.authorize.methods.contains method = true := List.contains_iff_mem.mpr h
  simp only [route, Endpoint.all, Endpoint.isAt, Endpoint.path, BEq.rfl, Bool.true_or,
    List.filter_cons_of_pos, List.find?_cons_of_pos, hmethod]

theorem route_login {settings : Settings} (h : settings.HasPlainPaths) :
    route settings "POST" settings.loginPath = .endpoint .login := by
  have hne := Interceptor.not_prefix_of_not_covers h.apart h.login.ne_empty
  have hself : settings.loginPath ≠ settings.authorizePath := by
    simpa using hne ""
  simp [route, Endpoint.all, Endpoint.isAt, Endpoint.path, Endpoint.methods, hself, hne "\n"]

end Service

-- ---------------------------------------------------------------------------
-- Location headers
-- ---------------------------------------------------------------------------

def Http.Reply.reentryQuery (parameters : List (String × String)) : String :=
  String.ofList (Uri.Form.encode parameters)

theorem Http.Reply.quoteLocation_eq {address : String}
    (h : ∀ c ∈ address.toList, quoteChar c = [c]) : quoteLocation address = address := by
  have hid : ∀ s : List Char, (∀ c ∈ s, quoteChar c = [c]) → s.flatMap quoteChar = s := by
    intro s hs
    induction s with
    | nil => rfl
    | cons c rest ih =>
      rw [List.flatMap_cons, hs c (List.mem_cons_self ..),
        ih fun d hd => hs d (List.mem_cons_of_mem _ hd)]
      rfl
  rw [quoteLocation, hid _ h, String.ofList_toList]

theorem Http.Reply.quoteChar_of_path {c : Char} (h : isPathChar c = true) : quoteChar c = [c] := by
  have hmarks : pathMarks.all keptInLocation.contains = true := rfl
  rw [isPathChar, Bool.or_eq_true, List.contains_iff_mem] at h
  rcases h with h | h
  · simp [quoteChar, h]
  · have hkept := List.all_eq_true.mp hmarks c h
    rw [quoteChar, hkept, Bool.or_true, if_pos rfl]

theorem Http.Reply.quoteChar_of_encode {c : Char} {parameters : List (String × String)}
    (h : c ∈ Uri.Form.encode parameters) : quoteChar c = [c] := by
  rcases Uri.Form.mem_encode h with h | rfl | rfl
  · simp only [Uri.Form.isEncoded, Bool.or_eq_true, beq_iff_eq] at h
    rcases h with (h | rfl) | rfl
    · simp [quoteChar, h]
    all_goals rfl
  all_goals rfl

theorem Http.Reply.location_reentry {settings : Settings} (h : settings.HasPlainPaths)
    (parameters : List (String × String)) (newSession : Option String) :
    (ofAnswer settings (.reentry parameters) newSession).location =
      some (settings.authorizePath ++ "?" ++ reentryQuery parameters) := by
  refine congrArg some (quoteLocation_eq fun c hc => ?_)
  rw [reentryAddress, String.toList_append, String.toList_append, List.mem_append,
    List.mem_append] at hc
  rcases hc with (hc | hc) | hc
  · exact quoteChar_of_path (h.authorize.plain c hc)
  · rw [List.mem_singleton.mp hc]
    rfl
  · rw [String.toList_ofList] at hc
    exact quoteChar_of_encode hc

theorem Http.Reply.reentryQuery_pairs (parameters : List (String × String)) :
    Uri.Form.decodeBytes (Text.Utf8.encodeString (reentryQuery parameters)) = parameters :=
  Uri.Form.decodeBytes_encode parameters

theorem Http.Request.GoesTo.parameters_eq {request : Http.Request} {path : String}
    (h : request.GoesTo "GET" path) {parameters : Assoc String}
    (hq : request.query = Http.Reply.reentryQuery parameters.entries) :
    request.parameters = .ok (group parameters.entries) := by
  rw [parameters_of_get h.method_eq, queryPairs, hq, Http.Reply.reentryQuery_pairs]

-- ---------------------------------------------------------------------------
-- Exchanges with a known path
-- ---------------------------------------------------------------------------

namespace Service

variable {settings : Settings} {e : Exchange} {path : String} {request : Request} {client : Client}

theorem Exchange.Lawful.unconcerned_of (h : e.Lawful settings)
    (hpath : e.request.addressPath = .ok path)
    (hc : Interceptor.covers settings.authorizePath path = false) :
    e.interception = .ok .unconcerned ∧ e.found = e.entered := by
  have hi := h.intercepted
  generalize e.interception = interception at hi ⊢
  generalize e.found = found at hi ⊢
  cases hi with
  | unreadAddress hpath' => cases hpath.symm.trans hpath'
  | unreadParameters hpath' hc' =>
    cases hpath.symm.trans hpath'
    cases hc.symm.trans hc'
  | read hpath' hparameters ho =>
    cases hpath.symm.trans hpath'
    cases ho with
    | unconcerned => exact ⟨rfl, rfl⟩
    | _ hc' => cases hc.symm.trans hc'

theorem Exchange.Lawful.takesUp_of (h : e.Lawful settings)
    (hpath : e.request.addressPath = .ok path)
    (hc : Interceptor.covers settings.authorizePath path = true) {parameters : Assoc String}
    (hparameters : e.request.parameters = .ok (Http.group parameters.entries))
    (hidle : e.entered.pending = none)
    (hread : Interceptor.readRequest e.before.database.clients parameters = .ok (request, client))
    (ht : e.before.store.takes (e.entered.started request parameters client) = true) :
    e.TakesUp settings request client parameters := by
  have hi := h.intercepted
  generalize hinterception : e.interception = interception at hi
  generalize hfound : e.found = found at hi
  cases hi with
  | unreadAddress hpath' => cases hpath.symm.trans hpath'
  | unreadParameters hpath' hc' hparameters' => cases hparameters.symm.trans hparameters'
  | read hpath' hparameters' ho =>
    cases hpath.symm.trans hpath'
    cases hparameters.symm.trans (hparameters' hc)
    have hsingle := Request.singleValues_group parameters
    cases ho with
    | unconcerned hc' => cases hc.symm.trans hc'
    | resumed _ hp => cases hidle.symm.trans hp
    | rejected _ _ hr =>
      rw [hsingle] at hr
      cases hread.symm.trans hr
    | failed _ _ hr =>
      rw [hsingle] at hr
      cases hread.symm.trans hr
    | refused _ _ hr ht' =>
      rw [hsingle] at hr ht'
      cases hread.symm.trans hr
      cases ht.symm.trans ht'
    | decided _ _ hr =>
      rw [hsingle] at hr hfound
      cases hread.symm.trans hr
      exact ⟨hidle, hread, hinterception, hfound⟩

end Service

end SignOn
