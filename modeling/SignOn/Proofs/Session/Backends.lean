import SignOn.Proofs.Client.RedirectLaws
import SignOn.Proofs.Interception.Coupling

/-!
# Memory and table as session stores

Two healthy stores agree when every session has the same state in both, one that has a row
(`Store.Agree`). Stores that agree couple, be they kept in memory or in a table (`coupling_agree`),
so that every operation comes to the same end on them that is only asked to store what has a row.
`Call` lists the named operations.
-/

namespace SignOn

-- ---------------------------------------------------------------------------
-- What a table takes
-- ---------------------------------------------------------------------------

def AtomSet.IsTextual (set : AtomSet) : Prop :=
  ∀ a ∈ set, ∃ s, a = .text s

theorem AtomSet.IsTextual.ordered {set : AtomSet} (h : set.IsTextual) :
    set.ordered?.isSome = true := by
  have hkind : ∀ a ∈ set.atoms, a.kind = .text := by
    intro a ha
    obtain ⟨s, rfl⟩ := h a ha
    rfl
  unfold ordered?
  cases hset : set.atoms with
  | nil => rfl
  | cons a rest =>
    rw [hset] at hkind
    have hall : rest.all (·.kind == a.kind) = true := by
      simp only [List.all_eq_true, beq_iff_eq]
      intro b hb
      rw [hkind b (List.mem_cons_of_mem _ hb), hkind a (List.mem_cons_self ..)]
    simp [hall]

theorem AtomSet.isTextual_ofTexts (texts : List String) : (ofTexts texts).IsTextual :=
  fun a ha => ⟨a.letters, eq_text_of_mem_ofTexts ha⟩

def Request.Record.IsBuilt (record : Record) : Prop :=
  ∃ parameters request, ofParameters parameters = .ok request ∧ request.toRecord = record

theorem Request.Record.IsBuilt.isTextual {record : Record} (h : record.IsBuilt) :
    record.scopes.IsTextual := by
  obtain ⟨parameters, request, hr, rfl⟩ := h
  show request.scopes.IsTextual
  rw [scopes_of_ofParameters hr]
  exact AtomSet.isTextual_ofTexts _

def Client.Registry.IsTextual (registry : Registry) : Prop :=
  ∀ row ∈ registry, ∀ found, row.client = .ok found → found.redirectUris.IsTextual

theorem Client.Registry.IsTextual.of_lookup {registry : Registry} {clientId : String}
    {found : Client} (h : registry.IsTextual) (hl : registry.lookup clientId = .ok (some found)) :
    found.redirectUris.IsTextual := by
  obtain ⟨row, hrow, hc⟩ := lookup_eq_some.mp hl
  exact h row (List.mem_of_find?_eq_some hrow) found hc

theorem Client.Registry.isTextual_of_registers {registry : Registry}
    (h : ∀ row ∈ registry, ∃ addresses, row.Registers addresses) : registry.IsTextual := by
  intro row hrow found hc
  obtain ⟨addresses, hr⟩ := h row hrow
  rw [hr.redirectUris_eq hc]
  exact AtomSet.isTextual_ofTexts addresses

namespace Session

theorem State.isListable_of {state : State}
    (hp : ∀ record, state.pending = some record → record.scopes.IsTextual)
    (hc : ∀ record, state.client = some record → record.redirectUris.IsTextual) :
    state.isListable = true := by
  rw [isListable, Bool.and_eq_true]
  constructor
  · cases hpending : state.pending with
    | none => rfl
    | some record => exact (hp record hpending).ordered
  · cases hclient : state.client with
    | none => rfl
    | some record => exact (hc record hclient).ordered

/-- A state with a request that was built and a client that has texts as redirect addresses. -/
structure State.IsProper (state : State) : Prop where
  pending : ∀ record, state.pending = some record → record.IsBuilt
  client : ∀ record, state.client = some record → record.redirectUris.IsTextual

theorem State.IsProper.isListable {state : State} (h : state.IsProper) : state.isListable = true :=
  isListable_of (fun record hr => (h.pending record hr).isTextual) h.client

theorem State.isListable_started {request : Request.Record} {client : Client.Record}
    (hr : request.scopes.IsTextual) (hc : client.redirectUris.IsTextual) (state : State)
    (parameters : Assoc String) :
    { state with pending := some request, parameters := some parameters
                 client := some client : State }.isListable = true := by
  refine isListable_of (fun record h => ?_) fun record h => ?_
  · cases h
    exact hr
  · cases h
    exact hc

theorem State.steady_isListable : Steady (State.isListable · = true) where
  congr := by
    intro s t hp _ hc h
    rw [isListable, hp, hc]
    exact h
  idle := by
    intro state hp hc
    rw [isListable, hp, hc]
    rfl

-- ---------------------------------------------------------------------------
-- Stores that agree
-- ---------------------------------------------------------------------------

/-- Every session has the same state in two healthy stores, one that has a row. -/
structure Store.Agree (first second : Store) : Prop where
  first_healthy : first.Healthy
  second_healthy : second.Healthy
  state_eq : ∀ sid, first.state sid = second.state sid
  listable : ∀ sid, (first.state sid).isListable = true

variable {first second : Store} {sid : Id} {state : State}

theorem Store.takes_of_listable (store : Store) (h : state.isListable = true) :
    store.takes state = true := by
  unfold takes
  cases store.sessions with
  | memory states => rfl
  | table rows => exact h

theorem Store.Agree.updated (h : first.Agree second) (hl : state.isListable = true)
    (hf : first.Updated first' sid state) (hs : second.Updated second' sid state) :
    first'.Agree second' := by
  refine ⟨hf.healthy, hs.healthy, fun other => ?_, fun other => ?_⟩
  · by_cases ho : other = sid
    · rw [ho, hf.state_eq, hs.state_eq]
    · rw [hf.frame other ho, hs.frame other ho, h.state_eq other]
  · by_cases ho : other = sid
    · rw [ho, hf.state_eq, hl]
    · rw [hf.frame other ho, h.listable other]

theorem couples_save (sid : Id) (hl : state.isListable = true) :
    Couples Store.Agree (save sid state) fun _ => True := by
  intro first second h
  obtain ⟨first', hf, uf⟩ := save_run h.first_healthy sid (first.takes_of_listable hl)
  obtain ⟨second', hs, us⟩ := save_run h.second_healthy sid (second.takes_of_listable hl)
  exact ⟨.ok (), first', second', hf, hs, h.updated hl uf us, fun _ _ => trivial⟩

theorem coupling_agree : Coupling Store.Agree (State.isListable · = true) where
  load := by
    intro sid first second h
    refine ⟨.ok (first.state sid), first, second, load_run h.first_healthy, ?_, h, fun state hs => ?_⟩
    · rw [h.state_eq sid]
      exact load_run h.second_healthy
    · cases hs
      exact h.listable sid
  update := by
    intro sid change hc first second h
    have hl := hc _ (h.listable sid)
    obtain ⟨first', hf, uf⟩ := update_run h.first_healthy change (first.takes_of_listable hl)
    rw [h.state_eq sid] at hl uf
    obtain ⟨second', hs, us⟩ := update_run h.second_healthy change (second.takes_of_listable hl)
    exact ⟨.ok (), first', second', hf, hs, h.updated hl uf us, fun _ _ => trivial⟩

-- ---------------------------------------------------------------------------
-- Named operations
-- ---------------------------------------------------------------------------

inductive Call : Type → Type
  | pending? (sid : Id) : Call (Option Request.Record)
  | startInteraction (sid : Id) (request : Request.Record) (parameters : Assoc String)
      (client : Client.Record) : Call Unit
  | parameters? (sid : Id) : Call (Option (Assoc String))
  | client? (sid : Id) : Call (Option Client.Record)
  | replaceClient (sid : Id) (client : Client.Record) : Call Unit
  | endInteraction (sid : Id) (keepMarker : Bool) : Call Unit
  | loginHint? (sid : Id) : Call (Option String)
  | putLoginHint (sid : Id) (hint : Option String) : Call Unit
  | isLoginForced (sid : Id) : Call Bool
  | markLoginForced (sid : Id) (forced : Bool) : Call Unit
  | subject? (sid : Id) : Call (Option String)
  | loginTime? (sid : Id) : Call (Option Instant)
  | putLogin (sid : Id) (subject : String) (time : Option Instant) : Call Unit
  | forgetSubject (sid : Id) : Call Unit

def Call.run : Call α → StoreM α
  | .pending? sid => Session.pending? sid
  | .startInteraction sid request parameters client =>
    Session.startInteraction sid request parameters client
  | .parameters? sid => Session.parameters? sid
  | .client? sid => Session.client? sid
  | .replaceClient sid client => Session.replaceClient sid client
  | .endInteraction sid keepMarker => Session.endInteraction sid keepMarker
  | .loginHint? sid => Session.loginHint? sid
  | .putLoginHint sid hint => Session.putLoginHint sid hint
  | .isLoginForced sid => Session.isLoginForced sid
  | .markLoginForced sid forced => Session.markLoginForced sid forced
  | .subject? sid => Session.subject? sid
  | .loginTime? sid => Session.loginTime? sid
  | .putLogin sid subject time => Session.putLogin sid subject time
  | .forgetSubject sid => Session.forgetSubject sid

/-- Requests are built from parameters, and clients have texts as redirect addresses. -/
def Call.IsProper : Call α → Prop
  | .startInteraction _ request _ client => request.IsBuilt ∧ client.redirectUris.IsTextual
  | .replaceClient _ client => client.redirectUris.IsTextual
  | _ => True

theorem couples_replaceClient (sid : Id) {client : Client.Record}
    (hc : client.redirectUris.IsTextual) :
    Couples Store.Agree (replaceClient sid client) fun _ => True := by
  have hupdate : Couples Store.Agree (update sid fun state =>
      { state with client := some client }) fun _ => True := by
    refine coupling_agree.update sid _ fun state hs => ?_
    simp only [State.isListable, Bool.and_eq_true] at hs ⊢
    exact ⟨hs.1, hc.ordered⟩
  refine .bind ((coupling_agree.session sid).read State.pending) fun pending _ => ?_
  cases pending with
  | none => exact hupdate
  | some pending =>
    simp only
    split
    · exact .bind (Q := fun _ => True) (.throw _) fun _ _ => hupdate
    · exact hupdate

theorem Call.couples (call : Call α) (h : call.IsProper) :
    Couples Store.Agree call.run fun _ => True := by
  have hread {β : Type} (sid : Id) (f : State → β) := (coupling_agree.session sid).read f
  have hkeep (sid : Id) :=
    @CouplingAt.keep _ _ sid (coupling_agree.session sid) State.steady_isListable
  cases call with
  | pending? sid => exact hread sid State.pending
  | startInteraction sid request parameters client =>
    exact (coupling_agree.session sid).startInteraction fun state =>
      State.isListable_started h.1.isTextual h.2 state parameters
  | parameters? sid => exact hread sid State.parameters
  | client? sid => exact hread sid State.client
  | replaceClient sid client => exact couples_replaceClient sid h
  | endInteraction sid keepMarker =>
    exact (coupling_agree.session sid).endInteraction State.steady_isListable keepMarker
  | loginHint? sid => exact hread sid State.loginHint
  | putLoginHint sid hint => exact hkeep sid (fun _ => rfl) (fun _ => rfl) fun _ => rfl
  | isLoginForced sid => exact hread sid State.loginForced
  | markLoginForced sid forced => exact hkeep sid (fun _ => rfl) (fun _ => rfl) fun _ => rfl
  | subject? sid => exact hread sid State.subject
  | loginTime? sid => exact hread sid State.loginTime
  | putLogin sid subject time => exact hkeep sid (fun _ => rfl) (fun _ => rfl) fun _ => rfl
  | forgetSubject sid => exact hkeep sid (fun _ => rfl) (fun _ => rfl) fun _ => rfl

end Session

theorem Client.Registry.IsTextual.starts {registry : Registry} (h : registry.IsTextual) :
    Interceptor.Starts (Session.State.isListable · = true) registry := by
  intro parameters request client hr state
  obtain ⟨hrequest, hlookup⟩ := Interceptor.readRequest_eq_ok.mp hr
  have hbuilt : request.toRecord.IsBuilt := ⟨parameters, request, hrequest, rfl⟩
  exact Session.State.isListable_started hbuilt.isTextual (h.of_lookup hlookup) state parameters

end SignOn
