import SignOn.Proofs.HandoffLaws
import SignOn.Proofs.Service.SessionSteps

/-!
# Requests that are left pending

A request is judged when it is taken up and not again while it is pending. An exchange that takes a
request up and does not reach the authorize endpoint leaves it pending, and whatever happens to the
clock, the next exchange that does reach the endpoint finds it so. That is the one way in which a
request that must not lead to a login page gets one (`showsLoginForm_of_passive_iff`), and the one
way in which a hand-off rests on a login that is too old (`handsOff_of_overdue_iff`).
-/

namespace SignOn

open Session (State)

def Json.int? : Json → Option Int
  | .int n => some n
  | _ => none

/-- The age limit of the pending request: its own, or that of its client. -/
def Session.State.ageLimit (state : State) : Option Int :=
  Decision.ageLimit (state.pending.bind (·.maxAge.int?)) (state.client.bind (·.defaultMaxAge.int?))

theorem Json.int?_ofOption (n : Option Int) : (Json.ofOption .int n).int? = n := by
  cases n <;> rfl

theorem Session.State.ageLimit_eq {state : State} {request : Request} {client : Client}
    (hp : state.pending = some request.toRecord) (hc : state.client = some client.toRecord) :
    state.ageLimit = Decision.ageLimit request.maxAge client.defaultMaxAge := by
  simp only [ageLimit, hp, hc, Option.bind_some]
  rw [← Json.int?_ofOption request.maxAge, ← Json.int?_ofOption client.defaultMaxAge]
  rfl

theorem Session.Login.Clock.isLive_congr {clock : Session.Login.Clock} {s t : State}
    (hs : s.subject = t.subject) (ht : s.loginTime = t.loginTime) :
    clock.isLive s = clock.isLive t := by
  simp only [isLive, hs, ht]

namespace Service

variable {settings : Settings} {first service : Service} {earlier later : List Exchange}
  {e x : Exchange} {request : Request} {client : Client} {parameters : Assoc String}
  {pending : Request.Record}

-- ---------------------------------------------------------------------------
-- What an exchange leaves pending
-- ---------------------------------------------------------------------------

section
variable (h : e.TakesUp settings request client parameters)
include h

theorem Exchange.TakesUp.not_denied (hp : e.found.pending ≠ none) :
    ((e.before.interceptor settings).verdict e.entered request client).isDenial = false := by
  cases hd : ((e.before.interceptor settings).verdict e.entered request client).isDenial with
  | false => rfl
  | true => exact absurd (h.found_of_denial hd).1 hp

theorem Exchange.TakesUp.live_of_passive (hp : e.found.pending ≠ none)
    (hpassive : request.toRecord.isPassive = true) :
    (e.before.clock settings).isLive e.found = true := by
  have hd := h.not_denied hp
  rw [Interceptor.verdict_of_passive hpassive] at hd
  cases hl : (e.before.interceptor settings).clock.isLive e.entered with
  | false => simp [hl, Decision.denial_isDenial] at hd
  | true =>
    have hv : (e.before.interceptor settings).verdict e.entered request client = .proceed := by
      rw [Interceptor.verdict_of_passive hpassive, if_pos hl]
    rw [h.found_eq, Interceptor.accepted, hv]
    exact hl

theorem Exchange.TakesUp.proceeds (hp : e.found.pending ≠ none) (hs : e.found.subject ≠ none) :
    (e.before.interceptor settings).verdict e.entered request client = .proceed := by
  have hd := h.not_denied hp
  cases hv : (e.before.interceptor settings).verdict e.entered request client with
  | proceed => rfl
  | reauthenticate reason =>
    rw [h.found_eq, Interceptor.accepted, hv] at hs
    exact absurd rfl hs
  | redirect uri => simp [hv, Decision.isDenial] at hd
  | refuse status message => simp [hv, Decision.isDenial] at hd

theorem Exchange.TakesUp.within_limit (hp : e.found.pending ≠ none) (hs : e.found.subject ≠ none)
    (hpassive : request.toRecord.isPassive = false) (hm : e.found.ageLimit = some limit)
    (hl : e.found.loginTime = some last) :
    Time.wholeSeconds (e.before.now.since last) ≤ limit := by
  have hv := h.proceeds hp hs
  have hk := h.keepsRequest (h.not_denied hp)
  rw [Session.State.ageLimit_eq hk.pending_eq hk.client_eq] at hm
  rw [h.loginTime_eq] at hl
  by_cases hw : request.toRecord.wantsLogin = true ∧ e.entered.loginForced = false
  · rw [Interceptor.verdict_of_unforced hw.1 hw.2] at hv
    cases hv
  · rw [Interceptor.verdict_of_age hpassive hw, hm, hl, Decision.ofAge] at hv
    split at hv
    · cases hv
    · next hle => exact Int.not_lt.mp hle

end

/-- What an exchange finds pending it takes up itself, or it was pending before. -/
theorem Run.found_pending (h : Run settings first (earlier ++ e :: later) service)
    (hf : first.IsFresh) (hp : e.found.pending ≠ none) :
    (∃ request client parameters, e.TakesUp settings request client parameters) ∨
      ∃ x request client,
        StandsSince settings (ofSession e.sid earlier) e.found x request client := by
  rcases (h.lawful hf).passes_or_takesUp with hpass | ht
  · have hentered : e.entered.pending ≠ none := by
      rw [hpass.found_eq] at hp
      exact hp
    rw [hpass.kept hentered]
    exact .inr (h.before.1.pending_since hf e.sid hentered)
  · exact .inl ht

/-- An exchange that left its session as it found it did not reach the endpoint with a live
login. -/
theorem StandsSince.not_reaches {own : List Exchange} {state : State}
    (h : StandsSince settings own state x request client) (hr : x.Reaches settings .authorize) :
    (x.before.clock settings).isLive state = false := by
  obtain ⟨a, b, parameters, -, hx, -, hp, rfl, hleft⟩ := h
  have hpending : x.left.pending ≠ none := by
    rw [hleft x (List.mem_cons_self ..), hp]
    simp
  have hs := hx.stays_of_pending hpending
  exact hs.not_live (hs.form_iff.mpr ⟨hr, by simp [hp]⟩)

-- ---------------------------------------------------------------------------
-- Requests that must not lead to a login page
-- ---------------------------------------------------------------------------

/-- A request with the prompt `none` leads to a login page exactly when it was taken up with a live
login by an exchange that did not reach the authorize endpoint, and the login ran out since. -/
theorem showsLoginForm_of_passive_iff (hf : first.IsFresh)
    (h : Run settings first (earlier ++ e :: later) service)
    (hp : e.found.pending = some pending) (hpassive : pending.isPassive = true) :
    e.ShowsLoginForm ↔
      e.Reaches settings .authorize ∧ (e.before.clock settings).isLive e.found = false ∧
        ∃ x request client,
          StandsSince settings (ofSession e.sid earlier) e.found x request client ∧
          (x.before.clock settings).isLive e.found = true ∧ ¬ x.Reaches settings .authorize := by
  have hne : e.found.pending ≠ none := by simp [hp]
  rw [(h.lawful hf).showsLoginForm_iff]
  constructor
  · rintro ⟨hr, -, hl⟩
    refine ⟨hr, hl, ?_⟩
    rcases h.found_pending hf hne with ⟨request, client, parameters, ht⟩ | ⟨x, request, client, hx⟩
    · have hpending := (ht.keepsRequest (ht.not_denied hne)).pending_eq
      obtain rfl := Option.some.inj (hp.symm.trans hpending)
      cases hl.symm.trans (ht.live_of_passive hne hpassive)
    · refine ⟨x, request, client, hx, ?_⟩
      have hlive : (x.before.clock settings).isLive e.found = true := by
        obtain ⟨a, b, parameters, -, -, ht, hpending, hfound, -⟩ := hx
        obtain rfl := Option.some.inj (hp.symm.trans hpending)
        rw [← hfound]
        exact ht.live_of_passive (by rw [hfound]; exact hne) hpassive
      refine ⟨hlive, fun hr' => ?_⟩
      cases hlive.symm.trans (hx.not_reaches hr')
  · rintro ⟨hr, hl, -⟩
    exact ⟨hr, hne, hl⟩

-- A login of a plain request, a `HEAD` request with the prompt `none`, and time until the login has
-- run out.
def passiveSteps : List Step :=
  [.request (ask "client_id=web"), .request logIn,
    .request (ask "client_id=web&prompt=none" "HEAD"), .clock ⟨28801000000⟩]

def passiveExchange : Exchange :=
  exchange {} (replay {} demo passiveSteps).2 (ask "client_id=web&prompt=none")

theorem passiveExchange_run :
    Run {} demo ((replay {} demo passiveSteps).1 ++ [passiveExchange]) passiveExchange.after :=
  .request (run_replay {} demo passiveSteps) _

theorem passiveExchange_pending :
    ∃ pending, passiveExchange.found.pending = some pending ∧ pending.isPassive = true := by
  have h : passiveExchange.found.pending.any (·.isPassive) = true := by decide +kernel
  simpa [Option.any_eq_true] using h

theorem passiveExchange_showsLoginForm_iff :
    ∃ pending, passiveExchange.found.pending = some pending ∧ pending.isPassive = true ∧
      (passiveExchange.ShowsLoginForm ↔
        passiveExchange.Reaches {} .authorize ∧
          (passiveExchange.before.clock {}).isLive passiveExchange.found = false ∧
          ∃ x request client,
            StandsSince {} (ofSession passiveExchange.sid (replay {} demo passiveSteps).1)
              passiveExchange.found x request client ∧
            (x.before.clock {}).isLive passiveExchange.found = true ∧
            ¬ x.Reaches {} .authorize) := by
  obtain ⟨pending, hp, hpassive⟩ := passiveExchange_pending
  exact ⟨pending, hp, hpassive,
    showsLoginForm_of_passive_iff demo_isFresh passiveExchange_run hp hpassive⟩

/-- A request with the prompt `none` can lead to a login page. -/
theorem passive_request_shown_login_form :
    ¬ ∀ (first service : Service) (earlier later : List Exchange) (e : Exchange)
      (pending : Request.Record), first.IsFresh →
      Run {} first (earlier ++ e :: later) service → e.ShowsLoginForm →
      e.found.pending = some pending → pending.isPassive = false := by
  intro h
  obtain ⟨pending, hp, hpassive⟩ := passiveExchange_pending
  have hform : passiveExchange.ShowsLoginForm :=
    ⟨.text "web", none, eq_ok_of_toOption (by decide +kernel)⟩
  have hn := h _ _ _ _ _ pending demo_isFresh passiveExchange_run hform hp
  cases hn.symm.trans hpassive

-- ---------------------------------------------------------------------------
-- Requests with an age limit
-- ---------------------------------------------------------------------------

theorem Exchange.TakesUp.handoffAnswer_eq (h : e.TakesUp settings request client parameters)
    (state : State) : ∃ handoff, handoffAnswer request.toRecord state = .ok (.handoff handoff) := by
  rw [handoffAnswer, Handoff.ofRequest_eq (Interceptor.readRequest_eq_ok.mp h.read).1]
  exact ⟨_, rfl⟩

/-- A hand-off rests on a login that is older than the age limit exactly when the request was taken
up in time by an exchange that did not complete it, and is completed later without a judgement. -/
theorem handsOff_of_overdue_iff (hf : first.IsFresh)
    (h : Run settings first (earlier ++ e :: later) service)
    (hp : e.found.pending = some pending) (hpassive : pending.isPassive = false)
    (hm : e.found.ageLimit = some limit) (hl : e.found.loginTime = some last)
    (hover : limit < Time.wholeSeconds (e.before.now.since last)) :
    e.HandsOff ↔
      e.Reaches settings .authorize ∧ (e.before.clock settings).isLive e.found = true ∧
        ∃ x request client,
          StandsSince settings (ofSession e.sid earlier) e.found x request client ∧
          Time.wholeSeconds (x.before.now.since last) ≤ limit ∧
          ¬ (x.Reaches settings .authorize ∧ (x.before.clock settings).isLive e.found = true) := by
  have hne : e.found.pending ≠ none := by simp [hp]
  have he := h.lawful hf
  constructor
  · intro hh
    obtain ⟨_, hc⟩ := he.completes_of_handsOff hh
    refine ⟨hc.reaches, hc.live, ?_⟩
    obtain ⟨subject, _, hsubject, -, -⟩ := (Session.Login.Clock.isLive_eq _ _).mp hc.live
    have hs : e.found.subject ≠ none := by simp [hsubject]
    rcases h.found_pending hf hne with ⟨request, client, parameters, ht⟩ | ⟨x, request, client, hx⟩
    · have hpending := (ht.keepsRequest (ht.not_denied hne)).pending_eq
      obtain rfl := Option.some.inj (hp.symm.trans hpending)
      exact absurd (ht.within_limit hne hs hpassive hm hl) (Int.not_le.mpr hover)
    · refine ⟨x, request, client, hx, ?_, ?_⟩
      · obtain ⟨a, b, parameters, -, -, ht, hpending, hfound, -⟩ := hx
        obtain rfl := Option.some.inj (hp.symm.trans hpending)
        rw [← hfound] at hne hs hm hl
        exact ht.within_limit hne hs hpassive hm hl
      · rintro ⟨hr, hlive⟩
        cases hlive.symm.trans (hx.not_reaches hr)
  · rintro ⟨hr, hlive, x, request, client, ⟨a, b, parameters, -, -, ht, hpending, -, -⟩, -, -⟩
    have hc := he.completes_iff.mpr ⟨hr, hpending, hlive⟩
    obtain ⟨handoff, hh⟩ := ht.handoffAnswer_eq e.found
    exact ⟨handoff, hc.answer_eq.trans hh⟩

-- A login, a `HEAD` request that asks for a login of the last minute, and an hour.
def overdueSteps : List Step :=
  [.request (ask "client_id=web"), .request logIn,
    .request (ask "client_id=web&max_age=60" "HEAD"), .clock ⟨3600000000⟩]

def overdueExchange : Exchange :=
  exchange {} (replay {} demo overdueSteps).2 (ask "client_id=web&max_age=60")

theorem overdueExchange_run :
    Run {} demo ((replay {} demo overdueSteps).1 ++ [overdueExchange]) overdueExchange.after :=
  .request (run_replay {} demo overdueSteps) _

theorem overdueExchange_pending :
    ∃ pending, overdueExchange.found.pending = some pending ∧ pending.isPassive = false := by
  have h : overdueExchange.found.pending.any (!·.isPassive) = true := by decide +kernel
  simpa [Option.any_eq_true] using h

theorem overdueExchange_age :
    overdueExchange.found.ageLimit = some 60 ∧ overdueExchange.found.loginTime = some ⟨0⟩ ∧
      60 < Time.wholeSeconds (overdueExchange.before.now.since ⟨0⟩) := by
  decide +kernel

theorem overdueExchange_handsOff_iff :
    ∃ pending, overdueExchange.found.pending = some pending ∧ pending.isPassive = false ∧
      overdueExchange.found.ageLimit = some 60 ∧ overdueExchange.found.loginTime = some ⟨0⟩ ∧
      60 < Time.wholeSeconds (overdueExchange.before.now.since ⟨0⟩) ∧
      (overdueExchange.HandsOff ↔
        overdueExchange.Reaches {} .authorize ∧
          (overdueExchange.before.clock {}).isLive overdueExchange.found = true ∧
          ∃ x request client,
            StandsSince {} (ofSession overdueExchange.sid (replay {} demo overdueSteps).1)
              overdueExchange.found x request client ∧
            Time.wholeSeconds (x.before.now.since ⟨0⟩) ≤ 60 ∧
            ¬ (x.Reaches {} .authorize ∧
              (x.before.clock {}).isLive overdueExchange.found = true)) := by
  obtain ⟨pending, hp, hpassive⟩ := overdueExchange_pending
  obtain ⟨hm, hl, hover⟩ := overdueExchange_age
  exact ⟨pending, hp, hpassive, hm, hl, hover,
    handsOff_of_overdue_iff demo_isFresh overdueExchange_run hp hpassive hm hl hover⟩

theorem overdueExchange_handsOff : overdueExchange.HandsOff :=
  ⟨demoHandoff "web" 0 false, eq_ok_of_toOption (by decide +kernel)⟩

/-- A hand-off can rest on a login that is older than the age limit. -/
theorem handoff_after_age_limit :
    ¬ ∀ (first service : Service) (earlier later : List Exchange) (e : Exchange)
      (pending : Request.Record) (limit : Int) (last : Instant), first.IsFresh →
      Run {} first (earlier ++ e :: later) service → e.HandsOff →
      e.found.pending = some pending → pending.isPassive = false →
      e.found.ageLimit = some limit → e.found.loginTime = some last →
      Time.wholeSeconds (e.before.now.since last) ≤ limit := by
  intro h
  obtain ⟨pending, hp, hpassive⟩ := overdueExchange_pending
  obtain ⟨hm, hl, hover⟩ := overdueExchange_age
  exact Int.not_le.mpr hover
    (h _ _ _ _ _ pending _ _ demo_isFresh overdueExchange_run overdueExchange_handsOff hp hpassive
      hm hl)

end Service

end SignOn
