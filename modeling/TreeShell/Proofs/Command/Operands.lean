import TreeShell.Command.Basic
import TreeShell.Proofs.Tree.Change

namespace TreeShell.Command

open TreeShell.Tree (Change Run)

def Answered {ε α : Type} (outcome : Except ε α) : Prop := ∃ value, outcome = .ok value

section Answered

variable {ε α β : Type} {outcome : Except ε α}

theorem answered_ok (value : α) : Answered (.ok value : Except ε α) := ⟨value, rfl⟩

theorem Answered.map (answered : Answered outcome) (f : α → β) : Answered (outcome.map f) := by
  obtain ⟨value, rfl⟩ := answered
  exact answered_ok (f value)

theorem Answered.bind (answered : Answered outcome) {next : α → Except ε β}
    (later : ∀ value, Answered (next value)) : Answered (outcome >>= next) := by
  obtain ⟨value, rfl⟩ := answered
  exact later value

theorem answered_mapM {f : α → Except ε β} {values : List α}
    (each : ∀ value ∈ values, Answered (f value)) : Answered (values.mapM f) := by
  induction values with
  | nil => exact answered_ok []
  | cons value rest ih =>
    obtain ⟨first, done⟩ := each value (List.mem_cons_self ..)
    obtain ⟨others, after⟩ := ih fun other member => each other (List.mem_cons_of_mem _ member)
    rw [List.mapM_cons, done, after]
    exact answered_ok _

end Answered

theorem bind_eq_ok {ε α β : Type} {first : Except ε α} {next : α → Except ε β} {result : β} :
    (first >>= next) = .ok result ↔ ∃ value, first = .ok value ∧ next value = .ok result := by
  cases first with
  | error fault => simp [Bind.bind, Except.bind]
  | ok value => simp [Bind.bind, Except.bind]

namespace Context

def Reaches (ctx : Context) (path : Path) : Prop :=
  ∃ word ∈ ctx.args, Path.Within path (ctx.resolve word)

def ReachesAbove (ctx : Context) (path : Path) : Prop :=
  ∃ word ∈ ctx.operands, path ∈ Path.ancestors (ctx.resolve word)

theorem mem_args_of_mem_operands {ctx : Context} {word : String} (member : word ∈ ctx.operands) :
    word ∈ ctx.args := (List.mem_filter.mp member).1

theorem reaches_resolve {ctx : Context} {word : String} (member : word ∈ ctx.args) :
    ctx.Reaches (ctx.resolve word) := ⟨word, member, Path.Within.refl _⟩

theorem Reaches.of_within {ctx : Context} {path top : Path} (reached : ctx.Reaches top)
    (within : Path.Within path top) : ctx.Reaches path := by
  obtain ⟨word, member, inside⟩ := reached
  exact ⟨word, member, within.trans inside⟩

structure Typed (ctx : Context) : Prop where
  relative : ¬ Path.Absolute ctx.cwd
  filled : ∀ word ∈ ctx.args, word ≠ ""

end Context

def Refused (tree : Tree) (outcome : Except Setback OperandResult) : Prop :=
  ∃ complaint, complaint ≠ "" ∧ outcome = .ok (tree, some complaint)

theorem append_ne_empty {ends : String} (filled : ends ≠ "") (before : String) :
    before ++ ends ≠ "" := by simp [filled]

theorem Refused.answered {tree : Tree} {outcome : Except Setback OperandResult}
    (refused : Refused tree outcome) : Answered outcome := by
  obtain ⟨complaint, _, same⟩ := refused
  exact ⟨_, same⟩

theorem refused_saying {ends : String} (filled : ends ≠ "") (tree : Tree) (before : String) :
    Refused tree (.ok (tree, some (before ++ ends))) := ⟨_, append_ne_empty filled before, rfl⟩

variable {closed : Prop} {kind : Change → Prop}

theorem eachOperand_keeps {step : Tree → String → Except Setback OperandResult} {words : List String}
    {property : Tree → Prop}
    (one : ∀ word ∈ words, ∀ tree result, property tree → step tree word = .ok result →
      property result.1)
    {tree : Tree} {result : OperandResult} (before : property tree)
    (handled : eachOperand step tree words = .ok result) : property result.1 := by
  induction words generalizing tree with
  | nil =>
    cases handled
    exact before
  | cons word rest ih =>
    have first := one word (List.mem_cons_self ..) tree
    cases outcome : step tree word with
    | error setback =>
      simp only [eachOperand, outcome] at handled
      cases handled
    | ok handledOne =>
      obtain ⟨middle, complaint⟩ := handledOne
      have kept := first _ before outcome
      simp only [eachOperand, outcome] at handled
      cases complaint with
      | some text =>
        cases handled
        exact kept
      | none =>
        have others := fun other member => one other (List.mem_cons_of_mem _ member)
        exact ih others kept handled

theorem answered_eachOperand {step : Tree → String → Except Setback OperandResult}
    (one : ∀ tree word, Answered (step tree word)) (tree : Tree) (words : List String) :
    Answered (eachOperand step tree words) := by
  induction words generalizing tree with
  | nil => exact answered_ok _
  | cons word rest ih =>
    obtain ⟨⟨middle, complaint⟩, done⟩ := one tree word
    rw [eachOperand, done]
    cases complaint with
    | some text => exact answered_ok _
    | none => exact ih middle

theorem eachOperand_run {step : Tree → String → Except Setback OperandResult} {words : List String}
    (one : ∀ word ∈ words, ∀ tree result, tree.Fit closed → step tree word = .ok result →
      Run closed kind tree result.1)
    {tree : Tree} {result : OperandResult} (fit : tree.Fit closed)
    (handled : eachOperand step tree words = .ok result) : Run closed kind tree result.1 := by
  refine eachOperand_keeps ?_ (.refl : Run closed kind tree tree) handled
  intro word member middle after run handledOne
  exact run.trans (one word member middle after (run.fit fit) handledOne)

theorem report_eq_ok {handled : Except Setback OperandResult} {tree : Tree} {reply : Reply}
    (reported : report handled = .ok (tree, reply)) :
    ∃ complaint, handled = .ok (tree, complaint) := by
  cases handled with
  | error setback => cases reported
  | ok result =>
    cases reported
    exact ⟨result.2, rfl⟩

theorem answered_operands {missing : Prop} [Decidable missing] {tree : Tree} {complaint : String}
    {handled : Except Setback OperandResult} (answered : Answered handled) :
    Answered (if missing then .ok (tree, .text complaint) else report handled) := by
  split
  · exact answered_ok _
  · exact answered.map _

section Editing

variable {edit : Context → Tree → Except Setback (Tree × Reply)} {ctx : Context} {world : World}

theorem answered_editing (edited : Answered (edit ctx world.tree)) :
    Answered (Handler.editing edit ctx world).1 := by
  obtain ⟨result, done⟩ := edited
  rw [Handler.editing, done]
  exact answered_ok result.2

theorem editing_run (edited : Answered (edit ctx world.tree))
    (run : ∀ tree reply, edit ctx world.tree = .ok (tree, reply) →
      Run closed kind world.tree tree) :
    Run closed kind world.tree (Handler.editing edit ctx world).2.tree := by
  obtain ⟨⟨tree, reply⟩, done⟩ := edited
  rw [Handler.editing, done]
  exact run tree reply done

end Editing

end TreeShell.Command
