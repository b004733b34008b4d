import SignOn.Handoff
import SignOn.Proofs.Json.AtomLaws
import SignOn.Proofs.Session.RowLaws
import SignOn.Request.Basic

/-!
# Hand-offs of requests that were built from parameters

The scopes of such a request are texts, so that they can be listed in order and the hand-off never
fails (`Handoff.ofRequest_eq`).
-/

namespace SignOn

-- ---------------------------------------------------------------------------
-- Hand-offs
-- ---------------------------------------------------------------------------

theorem Request.scopes_of_ofParameters {parameters : Assoc String}
    (h : Request.ofParameters parameters = .ok request) :
    request.scopes = .ofTexts (Request.tokens (parameters.get? "scope")) := by
  unfold Request.ofParameters at h
  simp only at h
  split at h
  · cases h
  · obtain ⟨maxAge, -, rfl⟩ := map_eq_ok.mp h
    rfl

namespace Handoff

theorem texts_of_text {atoms : List Atom} (h : ∀ a ∈ atoms, a = .text a.letters) :
    texts atoms = .ok (atoms.map Atom.letters) := by
  induction atoms with
  | nil => rfl
  | cons a rest ih =>
    rw [h a (List.mem_cons_self ..)]
    simp [texts, ih fun b hb => h b (List.mem_cons_of_mem _ hb), Except.map, Atom.letters]

/-- The scopes in order, with one space between two of them. -/
def scopeLine (scopes : AtomSet) : String :=
  " ".intercalate (scopes.atoms.map Atom.letters)

theorem scopeText_ofTexts (texts : List String) :
    scopeText (.ofTexts texts) = .ok (scopeLine (.ofTexts texts)) := by
  rw [scopeText, AtomSet.ordered?_ofTexts]
  simp only
  rw [texts_of_text fun a ha => AtomSet.eq_text_of_mem_ofTexts ha]
  rfl

theorem ofRequest_eq {parameters : Assoc String}
    (h : Request.ofParameters parameters = .ok request) (subject : Option String)
    (login : Option Instant) :
    ofRequest request.toRecord subject login =
      .ok { clientId := request.toRecord.clientId
            subject
            authTime := login.map Instant.epochSeconds
            redirectUri := request.toRecord.redirectUri
            state := request.toRecord.state
            scope := scopeLine request.scopes
            nonce := request.toRecord.nonce
            acrValues := request.toRecord.acrValues
            forced := request.toRecord.prompts Request.loginToken
            passive := request.toRecord.prompts Request.noneToken } := by
  have hs : scopeText request.toRecord.scopes = .ok (scopeLine request.scopes) := by
    show scopeText request.scopes = _
    rw [Request.scopes_of_ofParameters h, scopeText_ofTexts]
  rw [ofRequest, hs]
  rfl

end Handoff

end SignOn
