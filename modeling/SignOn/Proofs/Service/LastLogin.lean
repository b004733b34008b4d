import SignOn.Proofs.Service.SessionSteps

/-!
# The last login of a session

A session remembers when its last login was, and whose it was until a login is forced (`Logins`).
No exchange writes either in any other way (`Lawful.found_login`, `Logins.left`), so a hand-off
names the user and the time of the last login, which nothing has forced away and which is not
older than logins live (`session_login`).
-/

namespace SignOn.Service

open Session (State)

/-- A login succeeds: the answer is the way back to the authorize path. -/
def Exchange.IsLogin (e : Exchange) : Prop :=
  ∃ parameters, e.answer = .ok (.reentry parameters)

/-- A login succeeds with the name and the password of a user. -/
structure Exchange.IsLoginOf (settings : Settings) (e : Exchange) (user : User) : Prop where
  reaches : e.Reaches settings .login
  isLogin : e.IsLogin
  authenticated : Authenticates e.before.hasher e.before.database.users e.request user

def Exchange.ForcesLogin (e : Exchange) : Prop :=
  ∃ reason clientId, e.interception = .ok (.decided (.reauthenticate reason) clientId)

/-- `x` is the last login of a session, and `since` are the exchanges after it. -/
structure LastLogin (settings : Settings) (own : List Exchange) (x : Exchange) (user : User)
    (since : List Exchange) : Prop where
  split : ∃ earlier, own = earlier ++ x :: since
  login : x.IsLoginOf settings user
  last : ∀ y ∈ since, ¬ y.IsLogin

/-- What a session knows of its logins. -/
inductive Logins (settings : Settings) (own : List Exchange) (state : State) : Prop
  | never (hn : ∀ y ∈ own, ¬ y.IsLogin) (ht : state.loginTime = none)
      (hs : state.subject = none)
  | known (hx : LastLogin settings own x user since) (ht : state.loginTime = some x.before.now)
      (hs : state.subject = some user.username) (hf : ∀ y ∈ since, ¬ y.ForcesLogin)
  | forced (hx : LastLogin settings own x user since) (ht : state.loginTime = some x.before.now)
      (hs : state.subject = none) (hf : ∃ y ∈ since, y.ForcesLogin)

variable {settings : Settings} {first service : Service} {own history : List Exchange}
  {e x : Exchange} {state : State} {user : User} {request : Request} {client : Client}
  {parameters : Assoc String} {pending : Request.Record}

-- ---------------------------------------------------------------------------
-- The interception
-- ---------------------------------------------------------------------------

theorem Exchange.TakesUp.forcesLogin_iff (h : e.TakesUp settings request client parameters) :
    e.ForcesLogin ↔ ∃ reason,
      (e.before.interceptor settings).verdict e.entered request client = .reauthenticate reason := by
  simp only [ForcesLogin, h.decided, Except.ok.injEq, Interception.decided.injEq]
  constructor
  · rintro ⟨reason, clientId, hv, -⟩
    exact ⟨reason, hv⟩
  · rintro ⟨reason, hv⟩
    exact ⟨reason, client.clientId, hv, rfl⟩

/-- An interception leaves the login as it is, or forgets whose it was. -/
theorem Exchange.Lawful.found_login (h : e.Lawful settings) :
    e.found.loginTime = e.entered.loginTime ∧
      (¬ e.ForcesLogin ∧ e.found.subject = e.entered.subject ∨
        e.ForcesLogin ∧ e.found.subject = none) := by
  rcases h.passes_or_takesUp with hpass | ⟨request, client, parameters, ht⟩
  · have hnot : ¬ e.ForcesLogin := by
      rintro ⟨reason, clientId, hi⟩
      exact hpass.undecided _ _ hi
    rw [hpass.found_eq]
    exact ⟨rfl, .inl ⟨hnot, rfl⟩⟩
  · refine ⟨ht.loginTime_eq, ?_⟩
    rw [ht.forcesLogin_iff, ht.found_eq, Interceptor.accepted]
    cases (e.before.interceptor settings).verdict e.entered request client with
    | reauthenticate reason => exact .inr ⟨⟨reason, rfl⟩, rfl⟩
    | _ => exact .inl ⟨by simp, rfl⟩

-- ---------------------------------------------------------------------------
-- The end of an exchange
-- ---------------------------------------------------------------------------

theorem Exchange.Lawful.logsIn_of_reentry {parameters : List (String × String)}
    (h : e.Lawful settings) (ha : e.answer = .ok (.reentry parameters)) :
    ∃ pending user, e.LogsIn settings pending user := by
  obtain ⟨entries, hanswered, -⟩ := h.answered
  rcases h.left_cases with hs | ⟨pending, hc⟩ | hl
  · exfalso
    generalize e.interception = interception at hanswered
    generalize e.left = left at hanswered
    generalize hresult : e.answer = result at hanswered
    have hanswer : result = .ok (.reentry parameters) := hresult.symm.trans ha
    cases hanswered with
    | failed cause => cases hanswer
    | stopped hd =>
      cases hanswer
      obtain ⟨decision, -, hd⟩ := Option.bind_eq_some_iff.mp hd
      cases ofDecision?_movesInteraction hd
    | served hthrough hv =>
      cases hv with
      | kept hr hn hplain => cases hplain _ hanswer
      | shown => cases hanswer
      | completed =>
        rw [handoffAnswer] at hanswer
        split at hanswer <;> cases hanswer
      | loggedIn hr hp hu => exact hs.no_login _ ⟨⟨_, ha⟩, hp⟩
  · rw [hc.answer_eq, handoffAnswer] at ha
    split at ha <;> cases ha
  · exact hl

theorem Exchange.LogsIn.isLoginOf (h : e.LogsIn settings pending user) :
    e.IsLoginOf settings user :=
  ⟨h.reaches, ⟨_, h.answer_eq⟩, h.authenticated⟩

theorem LastLogin.append (h : LastLogin settings own x user since) (hn : ¬ e.IsLogin) :
    LastLogin settings (own ++ [e]) x user (since ++ [e]) := by
  obtain ⟨⟨earlier, hsplit⟩, hlogin, hlast⟩ := h
  refine ⟨⟨earlier, by simp [hsplit]⟩, hlogin, ?_⟩
  exact List.forall_mem_append.mpr ⟨hlast, List.forall_mem_singleton.mpr hn⟩

theorem LastLogin.of_isLoginOf (h : e.IsLoginOf settings user) :
    LastLogin settings (own ++ [e]) e user [] :=
  ⟨⟨own, rfl⟩, h, by simp⟩

theorem Logins.stayed (h : Logins settings own e.entered) (hl : e.Lawful settings)
    (hn : ¬ e.IsLogin) (ht : state.loginTime = e.found.loginTime)
    (hs : state.subject = e.found.subject) :
    Logins settings (own ++ [e]) state := by
  obtain ⟨hfound, hsubject⟩ := hl.found_login
  rw [hfound] at ht
  cases h with
  | never hnever htime hsub =>
    refine .never ?_ (ht.trans htime) ?_
    · exact List.forall_mem_append.mpr ⟨hnever, List.forall_mem_singleton.mpr hn⟩
    · rcases hsubject with ⟨-, he⟩ | ⟨-, he⟩
      · rw [hs, he, hsub]
      · rw [hs, he]
  | known hx htime hsub hf =>
    rcases hsubject with ⟨hnot, he⟩ | ⟨hforced, he⟩
    · exact .known (hx.append hn) (ht.trans htime) (by rw [hs, he, hsub])
        (List.forall_mem_append.mpr ⟨hf, List.forall_mem_singleton.mpr hnot⟩)
    · exact .forced (hx.append hn) (ht.trans htime) (hs.trans he) ⟨e, by simp, hforced⟩
  | forced hx htime hsub hf =>
    obtain ⟨y, hy, hyf⟩ := hf
    refine .forced (hx.append hn) (ht.trans htime) ?_ ⟨y, List.mem_append_left _ hy, hyf⟩
    rcases hsubject with ⟨-, he⟩ | ⟨-, he⟩
    · rw [hs, he, hsub]
    · rw [hs, he]

theorem Logins.left (h : Logins settings own e.entered) (hl : e.Lawful settings) :
    Logins settings (own ++ [e]) e.left := by
  rcases hl.left_cases with hs | ⟨pending, hc⟩ | ⟨pending, user, hlogin⟩
  · refine h.stayed hl ?_ (by rw [hs.left_eq]) (by rw [hs.left_eq])
    rintro ⟨parameters, ha⟩
    obtain ⟨pending, user, hin⟩ := hl.logsIn_of_reentry ha
    exact hs.no_login pending hin.logsInFor
  · refine h.stayed hl ?_ (by rw [hc.left_eq]; rfl) (by rw [hc.left_eq]; rfl)
    rintro ⟨parameters, ha⟩
    obtain ⟨asked, user, hin⟩ := hl.logsIn_of_reentry ha
    exact hc.no_login asked hin.logsInFor
  · refine .known (.of_isLoginOf hlogin.isLoginOf) ?_ ?_ (by simp)
    · rw [hlogin.left_eq]
      rfl
    · rw [hlogin.left_eq]
      rfl

theorem Run.logins (h : Run settings first history service) (hf : first.IsFresh)
    (sid : Session.Id) : Logins settings (ofSession sid history) (service.store.state sid) :=
  h.session_inv (motive := Logins settings) hf (.never (by simp) rfl rfl)
    (fun _ _ _ _ hl ih => ih.left hl) sid

-- ---------------------------------------------------------------------------
-- Hand-offs
-- ---------------------------------------------------------------------------

theorem handoffAnswer_login (h : handoffAnswer pending state = .ok (.handoff handoff)) :
    handoff.subject = state.subject ∧
      handoff.authTime = state.loginTime.map Instant.epochSeconds := by
  unfold handoffAnswer at h
  split at h
  · next made hmade =>
    cases h
    obtain ⟨scope, -, rfl⟩ := map_eq_ok.mp hmade
    exact ⟨rfl, rfl⟩
  · cases h

theorem Logins.of_subject (h : Logins settings own state) (hs : state.subject = some name) :
    ∃ x user since, LastLogin settings own x user since ∧ (∀ y ∈ since, ¬ y.ForcesLogin) ∧
      user.username = name ∧ state.loginTime = some x.before.now := by
  cases h with
  | never _ _ hs' => cases hs.symm.trans hs'
  | forced _ _ hs' _ => cases hs.symm.trans hs'
  | known hx ht hs' hf => exact ⟨_, _, _, hx, hf, Option.some.inj (hs'.symm.trans hs), ht⟩

theorem Exchange.Completes.login (hc : e.Completes settings pending) (hl : e.Lawful settings)
    (h : Logins settings own e.entered) (ha : e.answer = .ok (.handoff handoff)) :
    ∃ x user since, LastLogin settings own x user since ∧
      (∀ y ∈ since ++ [e], ¬ y.ForcesLogin) ∧ handoff.subject = some user.username ∧
      handoff.authTime = some x.before.now.epochSeconds ∧
      e.before.now.since x.before.now ≤ settings.sessionTimeout * Time.microsPerSecond := by
  obtain ⟨name, login, hname, hlogin, hexpired⟩ := (Session.Login.Clock.isLive_eq _ _).mp hc.live
  obtain ⟨hsubject, htime⟩ := handoffAnswer_login (hc.answer_eq.symm.trans ha)
  obtain ⟨hfound, ⟨hnot, he⟩ | ⟨-, he⟩⟩ := hl.found_login
  · obtain ⟨x, user, since, hx, hf, rfl, hentered⟩ := h.of_subject (he.symm.trans hname)
    obtain rfl : login = x.before.now :=
      Option.some.inj (hlogin.symm.trans (hfound.trans hentered))
    refine ⟨x, user, since, hx, ?_, by rw [hsubject, hname], by rw [htime, hlogin]; rfl, ?_⟩
    · exact List.forall_mem_append.mpr ⟨hf, List.forall_mem_singleton.mpr hnot⟩
    · exact Int.not_lt.mp (of_decide_eq_false hexpired)
  · cases he.symm.trans hname

/-- In every session the time of the login is that of the last login, the subject is its user until
a login is forced and nobody from then on, and every hand-off names the user and the time of a last
login that is still live. -/
theorem session_login (hf : first.IsFresh) (h : Run settings first history service) :
    (∀ sid, Logins settings (ofSession sid history) (service.store.state sid)) ∧
      ∀ earlier e later handoff, history = earlier ++ e :: later →
        e.answer = .ok (.handoff handoff) →
        ∃ x user since, LastLogin settings (ofSession e.sid earlier) x user since ∧
          (∀ y ∈ since ++ [e], ¬ y.ForcesLogin) ∧ handoff.subject = some user.username ∧
          handoff.authTime = some x.before.now.epochSeconds ∧
          e.before.now.since x.before.now ≤ settings.sessionTimeout * Time.microsPerSecond := by
  refine ⟨h.logins hf, ?_⟩
  rintro earlier e later handoff rfl ha
  have hl := h.lawful hf
  obtain ⟨pending, hc⟩ := hl.completes_of_handsOff ⟨handoff, ha⟩
  exact hc.login hl (h.before.1.logins hf e.sid) ha

-- A login that is forced away by the age limit of the next request, and made again.
def renewedSteps : List Step :=
  [.request (ask "client_id=web"), .request logIn, .clock ⟨3600000000⟩,
    .request (ask "client_id=web&max_age=60"), .request logIn]

def renewedExchange : Exchange :=
  exchange {} (replay {} demo renewedSteps).2 (ask "client_id=web&max_age=60")

theorem renewedExchange_session_login :
    renewedExchange.answer = .ok (.handoff (demoHandoff "web" 3600 false)) ∧
      ∃ x user since,
        LastLogin {} (ofSession renewedExchange.sid (replay {} demo renewedSteps).1) x user since ∧
        (∀ y ∈ since ++ [renewedExchange], ¬ y.ForcesLogin) ∧ some "ada" = some user.username ∧
        some 3600 = some x.before.now.epochSeconds ∧
        renewedExchange.before.now.since x.before.now ≤
          ({} : Settings).sessionTimeout * Time.microsPerSecond := by
  have hrun : Run {} demo ((replay {} demo renewedSteps).1 ++ [renewedExchange])
      renewedExchange.after := .request (run_replay ..) _
  have ha : renewedExchange.answer = .ok (.handoff (demoHandoff "web" 3600 false)) :=
    eq_ok_of_toOption (by decide +kernel)
  exact ⟨ha, (session_login demo_isFresh hrun).2 _ _ [] _ rfl ha⟩

end SignOn.Service
