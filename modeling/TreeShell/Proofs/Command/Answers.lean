import TreeShell.Proofs.Command.Builtin

namespace TreeShell.Command

theorem answered_read {tree : Tree} {path : Path} (present : tree.hasFile path) :
    Answered (tree.read path) := by
  obtain ⟨content, found⟩ := Tree.hasFile_iff_content?.mp present
  rw [Tree.read, found]
  exact answered_ok content

def argumentAt (args : List String) (position : Nat) : Except Fault String :=
  match args[position]? with
  | some word => .ok word
  | none => .error .missingArgument

theorem argumentAt_append (before : List String) (word : String) (rest : List String) :
    argumentAt (before ++ word :: rest) before.length = .ok word := by simp [argumentAt]

namespace FindRequest

def readFrom (args : List String) (position : Nat) (request : FindRequest) :
    Except Fault FindRequest :=
  if position < args.length then do
    let word ← argumentAt args position
    if word = "-name" ∧ position + 1 < args.length then
      let pattern ← argumentAt args (position + 1)
      readFrom args (position + 2) { request with pattern := some pattern }
    else if position = 0 ∧ word.toList.head? ≠ some '-' then
      readFrom args (position + 1) { request with place := word }
    else readFrom args (position + 1) request
  else .ok request
termination_by args.length - position

theorem readFrom_length (args : List String) (request : FindRequest) :
    readFrom args args.length request = .ok request := by
  rw [readFrom, if_neg (Nat.lt_irrefl _)]

theorem readFrom_name (before : List String) (next : String) (rest : List String)
    (request : FindRequest) :
    readFrom (before ++ "-name" :: next :: rest) before.length request =
      readFrom (before ++ "-name" :: next :: rest) (before.length + 2)
        { request with pattern := some next } := by
  have here := argumentAt_append before "-name" (next :: rest)
  have there : argumentAt (before ++ "-name" :: next :: rest) (before.length + 1) = .ok next := by
    simpa using argumentAt_append (before ++ ["-name"]) next rest
  rw [readFrom, here, if_pos (by simp)]
  dsimp only [Bind.bind, Except.bind]
  rw [there, if_pos ⟨rfl, by simp⟩]

theorem readFrom_other {word : String} {rest : List String} (other : word = "-name" → rest = [])
    (before : List String) (request : FindRequest) :
    readFrom (before ++ word :: rest) before.length request =
      readFrom (before ++ word :: rest) (before.length + 1)
        { request with place :=
          if before = [] ∧ word.toList.head? ≠ some '-' then word else request.place } := by
  have last : ¬ (word = "-name" ∧ before.length + 1 < (before ++ word :: rest).length) := by
    rintro ⟨name, more⟩
    rw [other name, List.length_append, List.length_singleton] at more
    exact Nat.lt_irrefl _ more
  rw [readFrom, argumentAt_append, if_pos (by simp)]
  dsimp only [Bind.bind, Except.bind]
  simp only [if_neg last, List.length_eq_zero_iff]
  split <;> rfl

theorem scan_other {word : String} {rest : List String} (other : word = "-name" → rest = [])
    (request : FindRequest) : request.scan (word :: rest) = request.scan rest := by
  cases rest with
  | nil => rfl
  | cons next rest => rw [scan, if_neg fun name => List.cons_ne_nil _ _ (other name)]

/-- Behind the first argument only name flags count. -/
theorem readFrom_append (before : List String) (filled : before ≠ []) (rest : List String)
    (request : FindRequest) :
    readFrom (before ++ rest) before.length request = .ok (request.scan rest) := by
  induction request, rest using scan.induct generalizing before with
  | case1 request =>
    rw [List.append_nil]
    exact readFrom_length before request
  | case2 request word =>
    rw [readFrom_other (fun _ => rfl), if_neg fun first => filled first.1, scan]
    simpa using readFrom_length (before ++ [word]) request
  | case3 request next rest ih =>
    rw [readFrom_name, scan, if_pos rfl]
    simpa using ih (before ++ ["-name", next]) (by simp)
  | case4 request word next rest name ih =>
    have other : word = "-name" → next :: rest = [] := fun same => absurd same name
    rw [readFrom_other other, if_neg fun first => filled first.1, scan_other other]
    simpa using ih (before ++ [word]) (by simp)

theorem readFrom_zero (args : List String) :
    readFrom args 0 ⟨Path.here, none⟩ = .ok (ofArgs args) := by
  cases args with
  | nil => exact readFrom_length [] _
  | cons word rest =>
    by_cases name : word = "-name" ∧ rest ≠ []
    · obtain ⟨rfl, more⟩ := name
      obtain ⟨next, rest, rfl⟩ := List.exists_cons_of_ne_nil more
      exact (readFrom_name [] next rest _).trans
        (readFrom_append ["-name", next] (List.cons_ne_nil _ _) rest _)
    · have other : word = "-name" → rest = [] := fun same =>
        Classical.not_not.mp fun more => name ⟨same, more⟩
      rw [ofArgs, scan_other other]
      refine (readFrom_other other [] _).trans ?_
      refine (readFrom_append [word] (List.cons_ne_nil _ _) rest _).trans ?_
      by_cases flag : word.toList.head? = some '-' <;> simp [flag]

end FindRequest

theorem answered_catOne (ctx : Context) (tree : Tree) (word : String) :
    Answered (catOne ctx tree word) := by
  unfold catOne
  dsimp only
  split
  · rename_i present
    exact answered_read present
  split <;> exact answered_ok _

theorem answered_grepOne (ctx : Context) (tree : Tree) (pattern word : String) :
    Answered (grepOne ctx tree pattern word) := by
  unfold grepOne
  dsimp only
  split
  · rename_i present
    exact (answered_read present).map _
  · exact answered_ok _

theorem answered_extraRow {ctx : Context} {name : String} (listed : name ∈ ctx.commands.keys) :
    Answered (extraRow ctx name) := by
  obtain ⟨summary, found⟩ :=
    (ctx.commands.contains_iff_get? name).mp ((ctx.commands.contains_iff name).mpr listed)
  have known : ctx.summary name = .ok summary := by rw [Context.summary, found]
  rw [extraRow, known]
  exact answered_ok _

end TreeShell.Command

namespace TreeShell.Builtin

open Command

theorem answered_run (builtin : Builtin) (ctx : Context) (world : World) :
    Answered (builtin.run ctx world).1 := by
  cases builtin with
  | ls =>
    unfold run Command.ls
    dsimp only
    split <;> exact answered_ok _
  | cd =>
    unfold run Command.cd Handler.asking
    dsimp only
    split
    · exact answered_ok _
    · split <;> exact answered_ok _
  | cat =>
    unfold run Command.cat Handler.asking
    dsimp only
    split
    · exact answered_ok _
    · exact (answered_mapM fun word _ => answered_catOne ctx world.tree word).map _
  | touch =>
    exact answered_editing (answered_operands (answered_eachOperand (fun _ _ => answered_ok _) ..))
  | mkdir =>
    exact answered_editing (answered_operands (answered_eachOperand (fun _ _ => answered_ok _) ..))
  | rm =>
    exact answered_editing (answered_operands (answered_eachOperand (fun _ _ => answered_ok _) ..))
  | cp => exact answered_editing (Transfer.answered_edit .copy ctx world.tree)
  | mv => exact answered_editing (Transfer.answered_edit .move ctx world.tree)
  | find =>
    unfold run Command.find Handler.asking
    dsimp only
    split <;> exact answered_ok _
  | grep =>
    unfold run Command.grep Handler.asking
    dsimp only
    split
    · exact (answered_mapM fun word _ => answered_grepOne ctx world.tree _ word).map _
    · exact answered_ok _
  | node =>
    unfold run Command.node Handler.asking
    dsimp only
    split
    · exact answered_ok _
    · split <;> exact answered_ok _
  | help =>
    unfold run Command.help Handler.asking
    dsimp only
    split
    · exact answered_ok _
    split
    · exact answered_ok _
    · refine Answered.map (answered_mapM fun name member => ?_) _
      exact answered_extraRow (List.mem_filter.mp member).1
  | _ => exact answered_ok _

end TreeShell.Builtin
