import TreeShell.Proofs.Command.Single

namespace TreeShell.Command

variable {ctx : Context} {world : World} {tree : Tree} {word : String}
  {step : Tree → String → Except Setback OperandResult}

abbrev Call := World → Except Fault Reply × World

def Call.andThen (first next : Call) : Call := fun world =>
  match first world with
  | (.ok reply, after) => if reply.output = "" then next after else (.ok reply, after)
  | (.error fault, after) => (.error fault, after)

def inTurn (call : String → Call) : List String → Call
  | [] => fun world => (.ok (.text ""), world)
  | word :: rest => (call word).andThen (inTurn call rest)

theorem andThen_of_quiet {first next : Call} {reply : Reply} {after : World}
    (answered : first world = (.ok reply, after)) (quiet : reply.output = "") :
    first.andThen next world = next after := by
  rw [Call.andThen, answered]
  exact if_pos quiet

theorem andThen_of_said {first next : Call} {reply : Reply} {after : World}
    (answered : first world = (.ok reply, after)) (said : reply.output ≠ "") :
    first.andThen next world = (.ok reply, after) := by
  rw [Call.andThen, answered]
  exact if_neg said

theorem andThen_congr {first other next later : Call} (same : first world = other world)
    (quiet : ∀ reply after, other world = (.ok reply, after) → reply.output = "" →
      next after = later after) :
    first.andThen next world = other.andThen later world := by
  rcases outcome : other world with ⟨fault | reply, after⟩
  · rw [Call.andThen, Call.andThen, same, outcome]
  · rw [outcome] at same
    by_cases silent : reply.output = ""
    · rw [andThen_of_quiet same silent, andThen_of_quiet outcome silent]
      exact quiet reply after outcome silent
    · rw [andThen_of_said same silent, andThen_of_said outcome silent]

def handling (step : Tree → String → Except Setback OperandResult) (words : List String) : Call :=
  fun world =>
    match eachOperand step world.tree words with
    | .ok (tree, complaint) => (.ok (.text (complaint.getD "")), { world with tree })
    | .error setback => (.error setback.fault, { world with tree := setback.tree })

theorem handling_eq {words : List String} {after : Tree} {complaint : Option String}
    (handled : eachOperand step world.tree words = .ok (after, complaint)) :
    handling step words world = (.ok (.text (complaint.getD "")), { world with tree := after }) := by
  rw [handling, handled]

theorem editing_handling {edit : Context → Tree → Except Setback (Tree × Reply)}
    {words : List String}
    (same : edit ctx world.tree = report (eachOperand step world.tree words)) :
    Handler.editing edit ctx world = handling step words world := by
  rw [Handler.editing, handling, same]
  cases eachOperand step world.tree words <;> rfl

def Spoken (outcome : Except Setback OperandResult) : Prop :=
  ∃ after complaint, outcome = .ok (after, complaint) ∧ complaint ≠ some ""

theorem spoken_done (after : Tree) : Spoken (.ok (after, none)) := ⟨after, none, rfl, nofun⟩

theorem Refused.spoken {outcome : Except Setback OperandResult} (refused : Refused tree outcome) :
    Spoken outcome := by
  obtain ⟨complaint, filled, rfl⟩ := refused
  exact ⟨tree, some complaint, rfl, fun same => filled (Option.some.inj same)⟩

theorem Settled.spoken {outcome : Except Setback OperandResult} (settled : Settled tree outcome) :
    Spoken outcome := by
  rcases settled with refused | ⟨after, rfl⟩
  · exact refused.spoken
  · exact spoken_done after

theorem spoken_eachOperand (spoken : ∀ tree word, Spoken (step tree word)) (tree : Tree)
    (words : List String) : Spoken (eachOperand step tree words) := by
  induction words generalizing tree with
  | nil => exact spoken_done tree
  | cons word rest ih =>
    obtain ⟨after, complaint, handled, filled⟩ := spoken tree word
    rw [eachOperand, handled]
    cases complaint with
    | none => exact ih after
    | some text => exact ⟨after, some text, rfl, filled⟩

theorem handling_keeps (property : Tree → Prop) (spoken : ∀ tree word, Spoken (step tree word))
    {words : List String}
    (one : ∀ word ∈ words, ∀ tree result, property tree → step tree word = .ok result →
      property result.1)
    (before : property world.tree) : property (handling step words world).2.tree := by
  obtain ⟨after, complaint, handled, _⟩ := spoken_eachOperand spoken world.tree words
  rw [handling_eq handled]
  exact eachOperand_keeps one before handled

theorem eachOperand_append (step : Tree → String → Except Setback OperandResult) (tree : Tree)
    (first rest : List String) :
    eachOperand step tree (first ++ rest) =
      match eachOperand step tree first with
      | .ok (after, none) => eachOperand step after rest
      | stopped => stopped := by
  induction first generalizing tree with
  | nil => rfl
  | cons word others ih =>
    rw [List.cons_append, eachOperand, eachOperand]
    rcases step tree word with fault | ⟨after, _ | complaint⟩
    · rfl
    · exact ih after
    · rfl

theorem handling_append (spoken : ∀ tree word, Spoken (step tree word))
    (first rest : List String) :
    handling step (first ++ rest) = (handling step first).andThen (handling step rest) := by
  funext world
  obtain ⟨after, complaint, handled, filled⟩ := spoken_eachOperand spoken world.tree first
  have whole := eachOperand_append step world.tree first rest
  rw [handled] at whole
  cases complaint with
  | some text =>
    have said : text ≠ "" := fun same => filled (congrArg some same)
    rw [handling_eq whole, andThen_of_said (handling_eq handled) said]
  | none =>
    rw [andThen_of_quiet (handling_eq handled) rfl, handling, whole]
    rfl

theorem handled_of_quiet (spoken : ∀ tree word, Spoken (step tree word)) {words : List String}
    {reply : Reply} {after : World} (answered : handling step words world = (.ok reply, after))
    (quiet : reply.output = "") : eachOperand step world.tree words = .ok (after.tree, none) := by
  obtain ⟨last, complaint, handled, filled⟩ := spoken_eachOperand spoken world.tree words
  rw [handling_eq handled] at answered
  cases answered
  rw [handled]
  cases complaint with
  | none => rfl
  | some text => exact absurd (congrArg some quiet) filled

/-- Where single calls are single steps, as long as something holds that every step keeps, calls in
    turn handle all their words. -/
theorem inTurn_eq_handling (holds : Tree → Prop) {call : String → Call} {words : List String}
    (spoken : ∀ tree word, Spoken (step tree word))
    (one : ∀ word ∈ words, ∀ world : World, holds world.tree →
      call word world = handling step [word] world)
    (keeps : ∀ word ∈ words, ∀ tree result, holds tree → step tree word = .ok result →
      holds result.1)
    (here : holds world.tree) : inTurn call words world = handling step words world := by
  induction words generalizing world with
  | nil => rfl
  | cons word rest ih =>
    have first : word ∈ word :: rest := List.mem_cons_self ..
    rw [inTurn, ← List.singleton_append, handling_append spoken]
    apply andThen_congr (one word first world here)
    intro reply after handled _
    have kept : holds (handling step [word] world).2.tree := by
      refine handling_keeps holds spoken ?_ here
      intro other member
      exact keeps other (List.mem_singleton.mp member ▸ first)
    rw [handled] at kept
    exact ih (fun other member => one other (List.mem_cons_of_mem _ member))
      (fun other member => keeps other (List.mem_cons_of_mem _ member)) kept

namespace Context

def flags (ctx : Context) : List String := ctx.args.filter (·.toList.head? = some '-')

def withOperands (ctx : Context) (operands : List String) : Context :=
  { ctx with args := ctx.flags ++ operands }

variable {operands : List String}

theorem operands_withOperands (plain : ∀ word ∈ operands, word.toList.head? ≠ some '-') :
    (ctx.withOperands operands).operands = operands := by
  have noFlag : ctx.flags.filter (·.toList.head? ≠ some '-') = [] := by
    simp [flags]
  have all : operands.filter (·.toList.head? ≠ some '-') = operands := by
    simpa [List.filter_eq_self] using plain
  rw [withOperands, Context.operands, List.filter_append, noFlag, all, List.nil_append]

theorem hasFlag_withOperands (plain : ∀ word ∈ operands, word.toList.head? ≠ some '-')
    {names : List String} (dashed : ∀ name ∈ names, name.toList.head? = some '-') :
    (ctx.withOperands operands).hasFlag names = ctx.hasFlag names := by
  have passed (name : String) (member : name ∈ names) :
      name ∈ ctx.flags ++ operands ↔ name ∈ ctx.args := by
    have dash := dashed name member
    have other : name ∉ operands := fun inside => plain name inside dash
    simp [flags, other, dash]
  rw [Bool.eq_iff_iff, hasFlag, hasFlag, List.any_eq_true, List.any_eq_true]
  simp only [List.contains_iff_mem]
  exact exists_congr fun name => and_congr_right (passed name)

theorem plain_of_mem_operands (member : word ∈ ctx.operands) : word.toList.head? ≠ some '-' := by
  simpa using (List.mem_filter.mp member).2

theorem plain_singleton (member : word ∈ ctx.operands) :
    ∀ other ∈ [word], other.toList.head? ≠ some '-' := by
  simpa using plain_of_mem_operands member

end Context

end TreeShell.Command
