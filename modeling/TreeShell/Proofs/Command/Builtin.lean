import TreeShell.Command.Builtin
import TreeShell.Proofs.Command.Transfer
import TreeShell.Proofs.Invocation

namespace TreeShell.Builtin

open Command (Context Makes)
open TreeShell.Tree (Change Run)

theorem ofName?_name (builtin : Builtin) : ofName? builtin.name = some builtin := by
  cases builtin <;> decide

theorem name_of_ofName? {name : String} {builtin : Builtin} (found : ofName? name = some builtin) :
    name = builtin.name := by
  have same := List.find?_some found
  exact (of_decide_eq_true same).symm

theorem ofName?_eq_some {name : String} {builtin : Builtin} :
    ofName? name = some builtin ↔ name = builtin.name := by
  constructor
  · exact name_of_ofName?
  · rintro rfl
    exact ofName?_name builtin

theorem registry_get? {η : Type} (handler : Builtin → η) (name : String) :
    (registry handler).get? name = (ofName? (Text.lower name)).map handler := by
  have once : ((all.map fun builtin => (builtin.name,
      (⟨handler builtin, builtin.summary⟩ : Registration η))).map Prod.fst).Nodup := by
    rw [List.map_map]
    exact (by decide : (all.map Builtin.name).Nodup)
  unfold registry Registry.get? OrderedMap.get?
  dsimp only
  rw [OrderedMap.entries_ofList once, OrderedMap.find?_map Builtin.name, Option.map_map]
  rfl

theorem registry_get?_name {η : Type} (handler : Builtin → η) (invocation : Invocation) :
    (registry handler).get? invocation.name = (ofName? invocation.name).map handler := by
  rw [registry_get?, invocation.lower_name]

/-- The changes that a built-in command may make. -/
def Edits (ctx : Context) : Builtin → Change → Prop
  | touch, change | rm, change | cp, change | mv, change => ctx.Reaches change.path
  | mkdir, change => Makes ctx change
  | _, _ => False

variable {closed : Prop} {ctx : Context} {world : World}

theorem ls_tree (ctx : Context) (world : World) : (Command.ls ctx world).2.tree = world.tree := by
  unfold Command.ls
  dsimp only
  split <;> rfl

theorem run_run (typed : ctx.Typed) (fit : world.tree.Fit closed) (builtin : Builtin)
    (normal : builtin = mkdir → "-p" ∈ ctx.args → ∀ word ∈ ctx.operands,
      Path.Normal (ctx.resolve word)) :
    Run closed (builtin.Edits ctx) world.tree (builtin.run ctx world).2.tree := by
  cases builtin with
  | touch => exact Command.touch_run typed fit
  | mkdir => exact Command.mkdir_run typed fit (normal rfl)
  | rm => exact Command.rm_run fit
  | cp => exact Command.Transfer.run_run typed fit
  | mv => exact Command.Transfer.run_run typed fit
  | ls =>
    rw [run, ls_tree]
    exact .refl
  | _ => exact .refl

theorem still_of_asking {answer : Context → Tree → Except Fault Reply} {reply : Reply}
    (still : answer ctx world.tree = .ok reply → reply.newDirectory = none)
    (replied : (Command.Handler.asking answer ctx world).1 = .ok reply) :
    reply.newDirectory = none := still replied

theorem still_of_telling {answer : Context → Reply} {reply : Reply}
    (still : (answer ctx).newDirectory = none)
    (replied : (Command.Handler.telling answer ctx world).1 = .ok reply) :
    reply.newDirectory = none := by
  cases replied
  exact still

theorem still_of_editing {edit : Context → Tree → Except Command.Setback (Tree × Reply)}
    (still : ∀ tree reply, edit ctx world.tree = .ok (tree, reply) → reply.newDirectory = none)
    {reply : Reply} (replied : (Command.Handler.editing edit ctx world).1 = .ok reply) :
    reply.newDirectory = none := by
  unfold Command.Handler.editing at replied
  cases edited : edit ctx world.tree with
  | error fault =>
    rw [edited] at replied
    cases replied
  | ok result =>
    rw [edited] at replied
    cases replied
    exact still _ _ edited

theorem still_of_map {α : Type} {found : Except Fault α} {present : α → Reply}
    (still : ∀ value, (present value).newDirectory = none) {reply : Reply}
    (replied : found.map present = .ok reply) : reply.newDirectory = none := by
  cases found with
  | error fault => cases replied
  | ok value =>
    cases replied
    exact still value

theorem still_of_report {handled : Except Command.Setback Command.OperandResult} {tree : Tree} {reply : Reply}
    (reported : Command.report handled = .ok (tree, reply)) : reply.newDirectory = none := by
  cases handled with
  | error fault => cases reported
  | ok result =>
    cases reported
    rfl

theorem still_of_operands {missing : Prop} [Decidable missing] {complaint : String}
    {handled : Except Command.Setback Command.OperandResult} {tree after : Tree} {reply : Reply}
    (edited : (if missing then .ok (tree, .text complaint) else Command.report handled) =
      .ok (after, reply)) : reply.newDirectory = none := by
  split at edited
  · cases edited
    rfl
  · exact still_of_report edited

theorem still_of_transfer {transfer : Command.Transfer} {reply : Reply}
    (replied : (transfer.run ctx world).1 = .ok reply) : reply.newDirectory = none := by
  refine still_of_editing ?_ replied
  intro tree reply edited
  unfold Command.Transfer.edit at edited
  split at edited
  · cases edited
    rfl
  · cases edited
    rfl
  · exact still_of_operands edited

theorem newDirectory_eq_none {builtin : Builtin} (other : builtin ≠ cd) {reply : Reply}
    (replied : (builtin.run ctx world).1 = .ok reply) : reply.newDirectory = none := by
  cases builtin with
  | cd => exact absurd rfl other
  | ls =>
    unfold run Command.ls at replied
    dsimp only at replied
    split at replied <;> cases replied <;> rfl
  | cat =>
    refine still_of_asking (fun answered => ?_) replied
    split at answered
    · cases answered
      rfl
    · exact still_of_map (fun _ => rfl) answered
  | touch => exact still_of_editing (fun _ _ => still_of_operands) replied
  | mkdir => exact still_of_editing (fun _ _ => still_of_operands) replied
  | rm => exact still_of_editing (fun _ _ => still_of_operands) replied
  | cp => exact still_of_transfer replied
  | mv => exact still_of_transfer replied
  | find =>
    refine still_of_asking (fun answered => ?_) replied
    dsimp only at answered
    split at answered <;> cases answered <;> rfl
  | grep =>
    refine still_of_asking (fun answered => ?_) replied
    split at answered
    · exact still_of_map (fun _ => rfl) answered
    · cases answered
      rfl
  | npm => exact still_of_telling (by split <;> rfl) replied
  | node =>
    refine still_of_asking (fun answered => ?_) replied
    split at answered
    · cases answered
      rfl
    · split at answered <;> cases answered <;> rfl
  | gh => exact still_of_telling (by split <;> rfl) replied
  | git => exact still_of_telling (by split <;> rfl) replied
  | help =>
    refine still_of_asking (fun answered => ?_) replied
    split at answered
    · cases answered
      unfold Command.helpTopic
      dsimp only
      split <;> rfl
    · dsimp only at answered
      split at answered
      · cases answered
        rfl
      · exact still_of_map (fun _ => rfl) answered
  | man =>
    refine still_of_telling ?_ replied
    split
    · rfl
    · split <;> rfl
  | _ =>
    cases replied
    rfl

theorem exists_resolveMove {builtin : Builtin} {reply : Reply}
    (replied : (builtin.run ctx world).1 = .ok reply) {path : Path}
    (moved : reply.newDirectory = some path) : ∃ word, path = Path.resolveMove word ctx.cwd := by
  by_cases moves : builtin = cd
  · subst moves
    unfold run Command.cd Command.Handler.asking at replied
    dsimp only at replied
    split at replied
    · cases replied
      cases moved
      exact ⟨"/", rfl⟩
    · rename_i word rest args
      split at replied
      · cases replied
        cases moved
        exact ⟨word, rfl⟩
      · cases replied
        cases moved
        exact ⟨Path.here, rfl⟩
  · rw [newDirectory_eq_none moves replied] at moved
    cases moved

end TreeShell.Builtin
