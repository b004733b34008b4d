import SignOn.Proofs.Session.Backends
import SignOn.Proofs.Time.WholeSeconds

/-!
# The rules of an interception

`Interceptor.Decides` lists the rules by which a request is decided and `Session.State.settled` what
the decision leaves of the session, field by field. For a login whose time is not too far away the
verdict is what the rules say (`decides_iff`), so that an interception of an idle session decides a
request of a known client by these rules and leaves the session settled (`intercept_decides`).
-/

namespace SignOn

open Session (State Store)

-- ---------------------------------------------------------------------------
-- The rules
-- ---------------------------------------------------------------------------

/-- More whole seconds have passed since the last login than a request allows: its own limit, or
else that of its client. -/
def Interceptor.Overdue (interceptor : Interceptor) (state : State) (request : Request)
    (client : Client) : Prop :=
  ∃ limit last, request.maxAge.or client.defaultMaxAge = some limit ∧
    state.loginTime = some last ∧
    limit < interceptor.clock.now.since last / Time.microsPerSecond

/-- The decision on a request of a client in a session. The token `none` goes before `login`, and
every other token decides nothing. -/
inductive Interceptor.Decides (interceptor : Interceptor) (state : State) (request : Request)
    (client : Client) : Decision → Prop
  | passive (hn : Request.noneToken ∈ request.prompt)
      (hl : interceptor.clock.isLive state = true) :
    Decides interceptor state request client .proceed
  | told (hn : Request.noneToken ∈ request.prompt) (hl : interceptor.clock.isLive state = false)
      (ha : Request.nonEmpty request.redirectUri = some address)
      (hr : Client.Redirect.resolve address client = .ok uri)
      (ht : Client.Redirect.errorUri uri "login_required" request.state = .ok target) :
    Decides interceptor state request client (.redirect target)
  | forbidden (hn : Request.noneToken ∈ request.prompt)
      (hl : interceptor.clock.isLive state = false)
      (hr : ∀ address uri, Request.nonEmpty request.redirectUri = some address →
        Client.Redirect.resolve address client ≠ .ok uri) :
    Decides interceptor state request client (.refuse 403 "Access Denied")
  | promptForced (hn : Request.noneToken ∉ request.prompt)
      (hp : Request.loginToken ∈ request.prompt) (hm : state.loginForced = false) :
    Decides interceptor state request client (.reauthenticate .prompt)
  | ageForced (hn : Request.noneToken ∉ request.prompt)
      (hp : Request.loginToken ∉ request.prompt ∨ state.loginForced = true)
      (ho : interceptor.Overdue state request client) :
    Decides interceptor state request client (.reauthenticate .age)
  | proceeds (hn : Request.noneToken ∉ request.prompt)
      (hp : Request.loginToken ∉ request.prompt ∨ state.loginForced = true)
      (ho : ¬ interceptor.Overdue state request client) :
    Decides interceptor state request client .proceed

/-- What a decision on a request leaves of a session. The marker that excused a request is used
up. -/
def Session.State.settled (state : State) (parameters : Assoc String) (request : Request)
    (client : Client) : Decision → State
  | .redirect _ | .refuse .. =>
    { pending := none, parameters := none, client := none
      loginHint := request.loginHint
      loginForced := false
      subject := state.subject
      loginTime := state.loginTime }
  | .reauthenticate reason =>
    { pending := some request.toRecord, parameters := some parameters, client := some client.toRecord
      loginHint := request.loginHint
      loginForced := reason == .prompt || state.loginForced && !request.toRecord.wantsLogin
      subject := none
      loginTime := state.loginTime }
  | .proceed =>
    { pending := some request.toRecord, parameters := some parameters, client := some client.toRecord
      loginHint := request.loginHint
      loginForced := state.loginForced && !request.toRecord.wantsLogin
      subject := state.subject
      loginTime := state.loginTime }

-- ---------------------------------------------------------------------------
-- Verdicts by the rules
-- ---------------------------------------------------------------------------

theorem Request.isPassive_iff (request : Request) :
    request.toRecord.isPassive = true ↔ noneToken ∈ request.prompt := by
  rw [Record.isPassive, prompts_toRecord, List.contains_iff_mem]

theorem Request.wantsLogin_iff (request : Request) :
    request.toRecord.wantsLogin = true ↔
      loginToken ∈ request.prompt ∧ noneToken ∉ request.prompt := by
  rw [Record.wantsLogin, Bool.and_eq_true, prompts_toRecord, List.contains_iff_mem,
    Bool.not_eq_true', ← isPassive_iff, Bool.not_eq_true]

section
variable {request : Request} {client : Client} {address uri target : String}

theorem Decision.denial_of_resolve (ha : Request.nonEmpty request.redirectUri = some address)
    (hr : Client.Redirect.resolve address client = .ok uri)
    (ht : Client.Redirect.errorUri uri "login_required" request.state = .ok target) :
    denial request client = .redirect target := by
  have hd : deny (some client) request.redirectUri request.state Client.Redirect.resolve =
      .ok (.redirect target) := by
    simp only [deny, ha, hr, Client.Redirect.loginRequired, ht, Except.map]
  exact Except.ok.inj ((deny_eq request client).symm.trans hd)

theorem Decision.denial_of_not_resolve
    (hr : ∀ address uri, Request.nonEmpty request.redirectUri = some address →
      Client.Redirect.resolve address client ≠ .ok uri) :
    denial request client = forbidden := by
  have hd : deny (some client) request.redirectUri request.state Client.Redirect.resolve =
      .ok forbidden := by
    unfold deny
    split
    · next client address hc ha =>
      cases hc
      cases hresolve : Client.Redirect.resolve address client with
      | error cause => rfl
      | ok uri => exact absurd hresolve (hr address uri ha)
    · rfl
  exact Except.ok.inj ((deny_eq request client).symm.trans hd)

end

namespace Interceptor

variable {interceptor : Interceptor} {state : State} {request : Request} {client : Client}
  {decision : Decision}

/-- Within 2³³ seconds of the login its age is judged exactly. -/
theorem ofAge_eq (hs : ∀ last, state.loginTime = some last →
      Time.IsShort (interceptor.clock.now.since last)) :
    (interceptor.Overdue state request client →
      Decision.ofAge (Decision.ageLimit request.maxAge client.defaultMaxAge) state.loginTime
        interceptor.clock.now = .reauthenticate .age) ∧
    (¬ interceptor.Overdue state request client →
      Decision.ofAge (Decision.ageLimit request.maxAge client.defaultMaxAge) state.loginTime
        interceptor.clock.now = .proceed) := by
  unfold Overdue Decision.ofAge Decision.ageLimit
  split
  · next limit last hlimit hlast =>
    rw [Time.wholeSeconds_eq (hs last hlast)]
    simp [hlimit, hlast]
  · next hn =>
    refine ⟨?_, fun _ => rfl⟩
    rintro ⟨limit, last, hlimit, hlast, -⟩
    exact absurd hlast (hn limit last hlimit)

theorem Decides.verdict_eq (h : interceptor.Decides state request client decision)
    (hs : ∀ last, state.loginTime = some last →
      Time.IsShort (interceptor.clock.now.since last)) :
    interceptor.verdict state request client = decision := by
  have hactive (hn : Request.noneToken ∉ request.prompt) :
      request.toRecord.isPassive = false := by
    rwa [← Request.isPassive_iff, Bool.not_eq_true] at hn
  have hexcused (hp : Request.loginToken ∉ request.prompt ∨ state.loginForced = true) :
      ¬ (request.toRecord.wantsLogin = true ∧ state.loginForced = false) := by
    rintro ⟨hw, hm⟩
    rcases hp with hp | hp
    · exact hp ((Request.wantsLogin_iff request).mp hw).1
    · cases hm.symm.trans hp
  cases h with
  | passive hn hl => rw [verdict_of_passive ((Request.isPassive_iff request).mpr hn), if_pos hl]
  | told hn hl ha hr ht =>
    rw [verdict_of_passive ((Request.isPassive_iff request).mpr hn), hl, if_neg Bool.false_ne_true,
      Decision.denial_of_resolve ha hr ht]
  | forbidden hn hl hr =>
    rw [verdict_of_passive ((Request.isPassive_iff request).mpr hn), hl, if_neg Bool.false_ne_true,
      Decision.denial_of_not_resolve hr]
    rfl
  | promptForced hn hp hm =>
    exact verdict_of_unforced ((Request.wantsLogin_iff request).mpr ⟨hp, hn⟩) hm
  | ageForced hn hp ho => rw [verdict_of_age (hactive hn) (hexcused hp), (ofAge_eq hs).1 ho]
  | proceeds hn hp ho => rw [verdict_of_age (hactive hn) (hexcused hp), (ofAge_eq hs).2 ho]

theorem exists_decides (interceptor : Interceptor) (state : State) (request : Request)
    (client : Client) : ∃ decision, interceptor.Decides state request client decision := by
  by_cases hn : Request.noneToken ∈ request.prompt
  · cases hl : interceptor.clock.isLive state with
    | true => exact ⟨_, .passive hn hl⟩
    | false =>
      by_cases hr : ∃ address uri, Request.nonEmpty request.redirectUri = some address ∧
          Client.Redirect.resolve address client = .ok uri
      · obtain ⟨address, uri, ha, hr⟩ := hr
        obtain ⟨target, ht⟩ :=
          Client.Redirect.errorUri_of_resolve hr Client.Redirect.loginRequired request.state
        exact ⟨_, .told hn hl ha hr ht⟩
      · exact ⟨_, .forbidden hn hl fun address uri ha hu => hr ⟨address, uri, ha, hu⟩⟩
  · by_cases hp : Request.loginToken ∉ request.prompt ∨ state.loginForced = true
    · by_cases ho : interceptor.Overdue state request client
      · exact ⟨_, .ageForced hn hp ho⟩
      · exact ⟨_, .proceeds hn hp ho⟩
    · rw [not_or, Classical.not_not, Bool.not_eq_true] at hp
      exact ⟨_, .promptForced hn hp.1 hp.2⟩

theorem decides_iff (hs : ∀ last, state.loginTime = some last →
      Time.IsShort (interceptor.clock.now.since last)) :
    interceptor.Decides state request client decision ↔
      decision = interceptor.verdict state request client := by
  refine ⟨fun h => (h.verdict_eq hs).symm, ?_⟩
  rintro rfl
  obtain ⟨decision, hd⟩ := exists_decides interceptor state request client
  rw [hd.verdict_eq hs]
  exact hd

-- ---------------------------------------------------------------------------
-- Settled sessions
-- ---------------------------------------------------------------------------

theorem judged_of_excused (state : State)
    (hn : ¬ (request.toRecord.wantsLogin = true ∧ state.loginForced = false)) :
    state.judged request =
      { state with loginForced := state.loginForced && !request.toRecord.wantsLogin } := by
  rw [Session.State.judged]
  cases hw : request.toRecord.wantsLogin with
  | false => simp
  | true =>
    have hm : state.loginForced = true := by simpa [hw] using hn
    simp [hm]

theorem accepted_eq_settled (interceptor : Interceptor) (state : State) (parameters : Assoc String)
    (request : Request) (client : Client) :
    interceptor.accepted state parameters request client =
      state.settled parameters request client (interceptor.verdict state request client) := by
  let started := state.started request parameters client
  have hprompt : interceptor.verdict state request client = .reauthenticate .prompt ↔
      request.toRecord.wantsLogin = true ∧ started.loginForced = false := verdict_eq_prompt_iff
  rw [accepted]
  generalize interceptor.verdict state request client = decision at hprompt ⊢
  cases decision with
  | redirect uri => rfl
  | refuse status message => rfl
  | proceed =>
    rw [judged_of_excused started (mt hprompt.mpr (by simp))]
    rfl
  | reauthenticate reason =>
    cases reason with
    | age =>
      rw [judged_of_excused started (mt hprompt.mpr (by simp))]
      rfl
    | prompt =>
      obtain ⟨hw, hm⟩ := hprompt.mp rfl
      have hj : started.judged request = { started with loginForced := true } := by
        simp [Session.State.judged, hw, hm]
      rw [hj]
      rfl

-- ---------------------------------------------------------------------------
-- Interceptions of idle sessions
-- ---------------------------------------------------------------------------

section
variable {store : Store} {sid : Session.Id} {path : String} {parameters : Request.Parameters}

theorem Outcome.eq_decided {takes : State → Bool} {result : Except Failure Interception}
    {found : State} (h : interceptor.Outcome takes path parameters state result found)
    (hidle : state.pending = none) (hpath : covers interceptor.authorizePath path = true)
    (hread : readRequest interceptor.registry (Request.singleValues parameters) =
      .ok (request, client))
    (htakes : takes (state.started request (Request.singleValues parameters) client) = true) :
    result = .ok (.decided (interceptor.verdict state request client) client.clientId) ∧
      found = interceptor.accepted state (Request.singleValues parameters) request client := by
  cases h with
  | unconcerned hc => cases hc.symm.trans hpath
  | resumed hc hp => cases hp.symm.trans hidle
  | rejected hc hp hr clientId => cases hr.symm.trans hread
  | failed hc hp hr => cases hr.symm.trans hread
  | refused hc hp hr ht =>
    cases hr.symm.trans hread
    cases ht.symm.trans htakes
  | decided hc hp hr ht =>
    cases hr.symm.trans hread
    exact ⟨rfl, rfl⟩

/-- The interception of a request to a path under the authorize path, by a session that is idle and
a request of a client whose addresses are texts, decides by the rules and leaves the session
settled. -/
theorem intercept_decides (h : store.Healthy) (interceptor : Interceptor) (sid : Session.Id)
    (hidle : (store.state sid).pending = none)
    (hpath : covers interceptor.authorizePath path = true)
    (hrequest : Request.ofParameters (Request.singleValues parameters) = .ok request)
    (hclient : interceptor.registry.lookup request.clientId = .ok (some client))
    (htexts : client.redirectUris.IsTextual)
    (hshort : ∀ last, (store.state sid).loginTime = some last →
      Time.IsShort (interceptor.clock.now.since last)) :
    ∃ decision after,
      interceptor.intercept path parameters sid store =
        .ok (.decided decision client.clientId) after ∧
      (∀ other, interceptor.Decides (store.state sid) request client other ↔ other = decision) ∧
      store.Updated after sid
        ((store.state sid).settled (Request.singleValues parameters) request client decision) := by
  have hread := readRequest_eq_ok.mpr ⟨hrequest, hclient⟩
  have hbuilt : request.toRecord.IsBuilt := ⟨_, request, hrequest, rfl⟩
  have htakes : store.takes
      ((store.state sid).started request (Request.singleValues parameters) client) = true :=
    store.takes_of_listable (State.isListable_started hbuilt.isTextual htexts
      { store.state sid with loginHint := request.loginHint } (Request.singleValues parameters))
  obtain ⟨result, after, state, hrun, hu, ho⟩ := intercept_run h interceptor sid path parameters
  obtain ⟨rfl, rfl⟩ := ho.eq_decided hidle hpath hread htakes
  rw [accepted_eq_settled] at hu
  exact ⟨_, after, hrun, fun other => decides_iff hshort, hu⟩

end

-- A request that comes back with the marker of its first pass, when the login is older than its
-- client allows.
def strictInterceptor : Interceptor where
  authorizePath := "/profile/oidc/authorize"
  registry := [.ofAddresses "web" ["https://rp/cb"] (some 60)]
  clock := ⟨⟨61000000⟩, 28800⟩

def strictClient : Client where
  clientId := "web"
  redirectUris := .ofTexts ["https://rp/cb"]
  defaultMaxAge := some 60

def returningRequest : Request where
  clientId := "web"
  prompt := ["consent", "login"]

def returningParameters : Request.Parameters :=
  [("client_id", ["web"]), ("prompt", ["consent login", "none"])]

def returningState : State where
  loginForced := true
  subject := some "ada"
  loginTime := some ⟨0⟩

def returningStore : Store where
  sessions := .memory ((∅ : Assoc State).put "s" returningState)

-- A passive request of a session without a login, which names an address of its client.
def unseenRequest : Request where
  clientId := "web"
  redirectUri := some "https://rp/cb"
  state := some "a b&c"
  prompt := ["none"]

def unseenParameters : Request.Parameters :=
  [("client_id", ["web"]), ("prompt", ["none"]), ("redirect_uri", ["https://rp/cb"]),
    ("state", ["a b&c"])]

def strangerStore : Store where
  sessions := .memory ∅

theorem strictInterceptor_decides :
    (resultOf (strictInterceptor.intercept "/profile/oidc/authorize/again" returningParameters "s"
        returningStore) = .ok (.decided (.reauthenticate .age) "web") ∧
    ∃ decision after,
      strictInterceptor.intercept "/profile/oidc/authorize/again" returningParameters "s"
          returningStore = .ok (.decided decision "web") after ∧
      (∀ other, strictInterceptor.Decides (returningStore.state "s") returningRequest strictClient
        other ↔ other = decision) ∧
      returningStore.Updated after "s" ((returningStore.state "s").settled
        (Request.singleValues returningParameters) returningRequest strictClient decision)) ∧
    (resultOf (strictInterceptor.intercept "/profile/oidc/authorize" unseenParameters "s"
        strangerStore) =
      .ok (.decided (.redirect "https://rp/cb?error=login_required&state=a+b%26c") "web") ∧
    ∃ decision after,
      strictInterceptor.intercept "/profile/oidc/authorize" unseenParameters "s" strangerStore =
        .ok (.decided decision "web") after ∧
      (∀ other, strictInterceptor.Decides (strangerStore.state "s") unseenRequest strictClient
        other ↔ other = decision) ∧
      strangerStore.Updated after "s" ((strangerStore.state "s").settled
        (Request.singleValues unseenParameters) unseenRequest strictClient decision)) := by
  have hpath : covers strictInterceptor.authorizePath "/profile/oidc/authorize" = true := by
    decide +kernel
  have hpath' : covers strictInterceptor.authorizePath "/profile/oidc/authorize/again" = true := by
    decide +kernel
  have hreturning : Request.ofParameters (Request.singleValues returningParameters) =
      .ok returningRequest := eq_ok_of_toOption (by decide +kernel)
  have hpassive : Request.ofParameters (Request.singleValues unseenParameters) =
      .ok unseenRequest := eq_ok_of_toOption (by decide +kernel)
  have hclient : strictInterceptor.registry.lookup "web" = .ok (some strictClient) :=
    eq_ok_of_toOption (by decide +kernel)
  have htexts : strictClient.redirectUris.IsTextual := AtomSet.isTextual_ofTexts _
  have hhealthy : returningStore.Healthy := ⟨rfl, trivial⟩
  have hhealthy' : strangerStore.Healthy := ⟨rfl, trivial⟩
  refine ⟨⟨eq_ok_of_toOption (by decide +kernel), ?_⟩, eq_ok_of_toOption (by decide +kernel), ?_⟩
  · refine intercept_decides hhealthy strictInterceptor "s" rfl hpath' hreturning hclient htexts
      fun last hlast => ?_
    cases hlast
    decide +kernel
  · exact intercept_decides hhealthy' strictInterceptor "s" rfl hpath hpassive hclient htexts
      fun last hlast => nomatch hlast

end Interceptor

end SignOn
