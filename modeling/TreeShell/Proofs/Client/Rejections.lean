import TreeShell.Client.Exchange

namespace TreeShell.Client

namespace Complaint

def hasLastStep : Json → Bool
  | .array steps => !steps.isEmpty
  | .string text => text ≠ ""
  | _ => false

def isSensible : Json → Bool
  | .object fields => (Json.field? "loc" fields).all hasLastStep
  | _ => false

def listedIssues (document : Json) : List Json :=
  match document.get? "detail" with
  | some (.array issues) => issues
  | _ => []

def makesSense (body : Http.Payload) : Bool :=
  match body.read with
  | .ok (some document) => (listedIssues document).all isSensible
  | .error .tooDeep => false
  | _ => true

theorem isOk_mapM {ε α β : Type} (f : α → Except ε β) (values : List α) :
    (values.mapM f).isOk = values.all fun value => (f value).isOk := by
  induction values with
  | nil => rfl
  | cons value rest ih =>
    rw [List.mapM_cons, List.all_cons, ← ih]
    cases f value with
    | error fault => rfl
    | ok first => cases rest.mapM f <;> rfl

theorem isOk_lastStep (place : Json) : (lastStep place).isOk = hasLastStep place := by
  cases place with
  | array steps =>
    unfold lastStep hasLastStep
    rcases List.eq_nil_or_concat steps with rfl | ⟨front, step, rfl⟩
    · rfl
    · simp [Except.isOk, Except.toBool]
  | string text =>
    unfold lastStep hasLastStep
    by_cases empty : text = ""
    · rw [empty]
      rfl
    · have filled : text.toList ≠ [] := by simpa using empty
      simp [List.getLast?_eq_some_getLast filled, empty, Except.isOk, Except.toBool]
  | _ => rfl

theorem isOk_issueLine (issue : Json) : (issueLine issue).isOk = isSensible issue := by
  cases issue with
  | object fields =>
    unfold issueLine isSensible
    dsimp only
    cases Json.field? "loc" fields with
    | none => rfl
    | some place =>
      rw [Option.all_some, ← isOk_lastStep]
      dsimp only
      cases lastStep place <;> rfl
  | _ => rfl

theorem isOk_ofIssues (issues : List Json) : (ofIssues issues).isOk = issues.all isSensible := by
  have lines := isOk_mapM issueLine issues
  simp only [isOk_issueLine] at lines
  rw [← lines, ofIssues]
  cases issues.mapM issueLine <;> rfl

theorem isOk_ofDocument (document : Json) :
    (ofDocument document).isOk = (listedIssues document).all isSensible := by
  cases document with
  | object fields =>
    unfold ofDocument listedIssues
    dsimp only [Json.get?]
    cases Json.field? "detail" fields with
    | none => rfl
    | some detail =>
      cases detail with
      | array issues => exact isOk_ofIssues issues
      | _ => rfl
  | _ => rfl

theorem isOk_ofResponse (response : Http.Response) :
    (ofResponse response).isOk = makesSense response.body := by
  unfold ofResponse makesSense
  cases response.body.read with
  | error stop => cases stop <;> rfl
  | ok found =>
    cases found with
    | none => rfl
    | some document => exact isOk_ofDocument document

end Complaint

namespace Rejection

/-- A kind belongs to a status: it carries the status, or is the one that stands for it. -/
def Kind.Suits (status : Nat) : Kind → Prop
  | invalid => status = 422
  | notFound => status = 404
  | server code => code = status ∧ 500 ≤ status
  | other code _ => code = status ∧ status ≠ 422 ∧ status ≠ 404 ∧ status < 500

theorem Kind.Suits.status_eq {status : Nat} {kind : Kind} (suits : kind.Suits status) :
    kind.status = status := by
  cases kind with
  | invalid => exact congrArg Nat.cast (Eq.symm suits)
  | notFound => exact congrArg Nat.cast (Eq.symm suits)
  | server code => exact suits.1
  | other code errorType => exact suits.1

theorem Kind.suits_ofStatus (status : Nat) (errorType : Json) :
    (ofStatus status errorType).Suits status := by
  unfold ofStatus
  split
  · assumption
  split
  · assumption
  split
  · exact ⟨rfl, by assumption⟩
  · exact ⟨rfl, by assumption, by assumption, by omega⟩

end Rejection

theorem decode_of_makesSense {response : Http.Response} (failed : ¬ response.isSuccess)
    (sense : Complaint.makesSense response.body) :
    ∃ rejection, decode response = .error (.failure (.rejected rejection)) ∧
      rejection.kind.Suits response.status := by
  rw [← Complaint.isOk_ofResponse] at sense
  unfold decode Rejection.ofResponse
  rw [if_neg failed]
  cases told : Complaint.ofResponse response with
  | error flaw =>
    rw [told] at sense
    cases sense
  | ok complaint => exact ⟨_, rfl, Rejection.Kind.suits_ofStatus _ _⟩

theorem decode_of_baffling {response : Http.Response} (failed : ¬ response.isSuccess)
    (baffling : ¬ Complaint.makesSense response.body) :
    ∃ flaw, decode response = .error (.flaw flaw) := by
  rw [← Complaint.isOk_ofResponse] at baffling
  unfold decode Rejection.ofResponse
  rw [if_neg failed]
  cases told : Complaint.ofResponse response with
  | error flaw => exact ⟨flaw, rfl⟩
  | ok complaint =>
    rw [told] at baffling
    exact absurd rfl baffling

/-- An error answer becomes a rejection of its status, and of the kind that its status says, exactly
    when sense can be made of its body; otherwise the flaw of the body comes out. -/
theorem decode_rejects_iff (response : Http.Response) (failed : ¬ response.isSuccess) :
    ((∃ rejection, decode response = .error (.failure (.rejected rejection)) ∧
        rejection.kind.Suits response.status ∧ rejection.kind.status = response.status) ↔
      Complaint.makesSense response.body) ∧
    (¬ Complaint.makesSense response.body → ∃ flaw, decode response = .error (.flaw flaw)) := by
  refine ⟨⟨?_, ?_⟩, decode_of_baffling failed⟩
  · rintro ⟨rejection, rejected, _⟩
    apply Classical.byContradiction
    intro baffling
    obtain ⟨flaw, flawed⟩ := decode_of_baffling failed baffling
    rw [flawed] at rejected
    cases rejected
  · intro sense
    obtain ⟨rejection, rejected, suits⟩ := decode_of_makesSense failed sense
    exact ⟨rejection, rejected, suits, suits.status_eq⟩

/-- An issue with a text for a place, of which the last letter is taken, and one without anything. -/
def oddlyListed : Http.Response where
  status := 503
  body := .text "\x7b\"detail\": [\x7b\"loc\": \"body\", \"msg\": null\x7d, \x7b\x7d]\x7d" 3

theorem decode_rejects_oddly_listed :
    ∃ rejection, decode oddlyListed = .error (.failure (.rejected rejection)) ∧
      rejection.kind.Suits 503 ∧ rejection.kind.status = 503 := by
  have failed : ¬ oddlyListed.isSuccess := by decide
  exact (decode_rejects_iff oddlyListed failed).1.mpr (by decide +kernel)

def numberListed : Http.Response where
  status := 422
  body := .text "\x7b\"detail\": [1]\x7d" 2

theorem decode_baffled_number_listed :
    ¬ numberListed.isSuccess ∧
      ∀ rejection, decode numberListed ≠ .error (.failure (.rejected rejection)) := by
  have failed : ¬ numberListed.isSuccess := by decide
  refine ⟨failed, ?_⟩
  have baffling : ¬ Complaint.makesSense numberListed.body := by decide +kernel
  obtain ⟨flaw, flawed⟩ := decode_of_baffling failed baffling
  intro rejection rejected
  rw [flawed] at rejected
  cases rejected

end TreeShell.Client
