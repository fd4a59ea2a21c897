import TreeShell.Proofs.Command.Copying

namespace TreeShell.Command

variable {ctx : Context} {world : World} {tree : Tree} {source target : Path} {word : String}

/-! ## Operands of the editing commands -/

def Settled (tree : Tree) (outcome : Except Setback OperandResult) : Prop :=
  Refused tree outcome ∨ ∃ after, outcome = .ok (after, none)

theorem settled_touchOne (ctx : Context) (tree : Tree) (word : String) :
    Settled tree (.ok (touchOne ctx tree word)) := by
  unfold touchOne
  dsimp only
  split
  · exact .inl (refused_saying (by decide) _ _)
  · split
    · exact .inr ⟨_, rfl⟩
    · exact .inr ⟨_, rfl⟩

theorem settled_mkdirOne (ctx : Context) (parents : Bool) (tree : Tree) (word : String) :
    Settled tree (.ok (mkdirOne ctx parents tree word)) := by
  unfold mkdirOne
  dsimp only
  split
  · split
    · exact .inr ⟨_, rfl⟩
    · exact .inl (refused_saying (by decide) _ _)
  split
  · exact .inl (refused_saying (by decide) _ _)
  split
  · exact .inr ⟨_, rfl⟩
  split
  · exact .inl (refused_saying (by decide) _ _)
  split
  · exact .inl (refused_saying (by decide) _ _)
  · exact .inr ⟨_, rfl⟩

theorem settled_rmOne (ctx : Context) (recursive force : Bool) (tree : Tree) (word : String) :
    Settled tree (.ok (rmOne ctx recursive force tree word)) := by
  unfold rmOne
  dsimp only
  split
  · exact .inr ⟨_, rfl⟩
  split
  · split
    · exact .inl (refused_saying (by decide) _ _)
    split
    · exact .inl (refused_saying (by decide) _ _)
    · exact .inr ⟨_, rfl⟩
  · split
    · exact .inr ⟨_, rfl⟩
    · exact .inl (refused_saying (by decide) _ _)

/-! ## One source of a transfer -/

namespace Transfer

inductive Carried (transfer : Transfer) (tree : Tree) (source target : Path) : Tree → Prop
  | still (present : tree.hasFile source) (same : target = source) :
    Carried transfer tree source target tree
  | file (content : String) (other : target ≠ source)
    (stored : tree.content? source = some content) (houses : tree.Houses target) :
    Carried transfer tree source target
      (if transfer = .move then ((tree.writeFile target content).2.removeFile source).2
        else (tree.writeFile target content).2)
  | folder (copied : Tree) (passes : Passes tree source target)
    (holds : Copied source target (tree.filesBelow source) (withFolders tree source target) copied) :
    Carried transfer tree source target
      (if transfer = .move then (copied.removeDirectory source true).2 else copied)

theorem carried_file (transfer : Transfer) (command : String) (destination : Destination)
    (present : tree.hasFile source) (target : Path) :
    Refused tree (transfer.file command destination tree source target) ∨
      ∃ after, transfer.file command destination tree source target = .ok (after, none) ∧
        transfer.Carried tree source target after := by
  rcases file_cases transfer command destination present target with
    refused | ⟨same, done⟩ | ⟨content, other, stored, houses, done⟩
  · exact .inl refused
  · exact .inr ⟨tree, done, .still present same⟩
  · exact .inr ⟨_, done, .file content other stored houses⟩

theorem carried_folder (transfer : Transfer) (command : String) (destination : Destination)
    (valid : tree.Valid) (word : String) (present : tree.hasDirectory source)
    (normal : source ≠ "" → Path.Normal target) :
    Refused tree (transfer.folder command destination tree word source target) ∨
      ∃ after, transfer.folder command destination tree word source target = .ok (after, none) ∧
        transfer.Carried tree source target after := by
  rcases folder_cases transfer command destination word present target with
    refused | ⟨passes, done⟩
  · exact .inl refused
  · obtain ⟨copied, complete, holds⟩ := passes.copyTree valid (normal passes.source_ne_root)
    rw [complete] at done
    exact .inr ⟨_, done, .folder copied passes holds⟩

theorem carried_one (transfer : Transfer) (recursive : Bool) (destination : Destination)
    (valid : tree.Valid) (word : String)
    (normal : ctx.resolve word ≠ "" → Path.Normal (destination.target (ctx.resolve word))) :
    Refused tree (transfer.one ctx recursive destination tree word) ∨
      ∃ after, transfer.one ctx recursive destination tree word = .ok (after, none) ∧
        transfer.Carried tree (ctx.resolve word) (destination.target (ctx.resolve word)) after := by
  unfold one
  dsimp only
  by_cases isFile : tree.hasFile (ctx.resolve word)
  · rw [if_pos isFile]
    exact carried_file transfer ctx.name destination isFile _
  rw [if_neg isFile]
  by_cases isDirectory : tree.hasDirectory (ctx.resolve word)
  · rw [if_pos isDirectory]
    split
    · exact carried_folder transfer ctx.name destination valid word isDirectory normal
    · exact .inl (refused_saying (by decide) _ _)
  · rw [if_neg isDirectory]
    exact .inl (refused_saying (by decide) _ _)

def Destination.ofWord (ctx : Context) (tree : Tree) (word : String) : Destination :=
  ⟨word, ctx.resolve word, tree.hasDirectory (ctx.resolve word)⟩

theorem Destination.normal_target (normal : Path.Normal ctx.cwd) (tree : Tree) (word : String)
    {source : String} (nested : ctx.resolve source ≠ "") :
    Path.Normal ((Destination.ofWord ctx tree word).target (ctx.resolve source)) := by
  have sourceNormal : Path.Normal (ctx.resolve source) := Path.normal_resolve normal source
  have placeNormal : Path.Normal (ctx.resolve word) := Path.normal_resolve normal word
  unfold Destination.target Destination.ofWord
  split
  · have name := Path.isCanonical_of_isName (sourceNormal.isName_baseName nested)
    exact .inr (Path.isCanonical_join placeNormal name)
  · exact placeNormal

end Transfer

/-! ## Commands with one operand -/

theorem eachOperand_single (step : Tree → String → Except Setback OperandResult) (tree : Tree)
    (word : String) : eachOperand step tree [word] = step tree word := by
  unfold eachOperand
  cases step tree word with
  | error fault => rfl
  | ok result =>
    obtain ⟨after, complaint⟩ := result
    cases complaint <;> rfl

theorem editing_report {edit : Context → Tree → Except Setback (Tree × Reply)} {after : Tree}
    {complaint : Option String} (handled : edit ctx world.tree = report (.ok (after, complaint))) :
    Handler.editing edit ctx world =
      (.ok (.text (complaint.getD "")), { world with tree := after }) := by
  rw [Handler.editing, handled]
  rfl

/-- A call answers, and if it has anything to say it has changed nothing of the tree. -/
def AllOrNothing (world : World) (outcome : Except Fault Reply × World) : Prop :=
  ∃ reply, outcome.1 = .ok reply ∧ (reply.output ≠ "" → outcome.2.tree = world.tree)

theorem allOrNothing_editing {edit : Context → Tree → Except Setback (Tree × Reply)}
    {handled : Except Setback OperandResult} (settled : Settled world.tree handled)
    (same : edit ctx world.tree = report handled) :
    AllOrNothing world (Handler.editing edit ctx world) := by
  rcases settled with ⟨complaint, _, rfl⟩ | ⟨after, rfl⟩
  · rw [editing_report same]
    exact ⟨_, rfl, fun _ => rfl⟩
  · rw [editing_report same]
    exact ⟨_, rfl, fun said => absurd rfl said⟩

theorem allOrNothing_touch (args : ctx.args = [word]) : AllOrNothing world (touch ctx world) := by
  apply allOrNothing_editing (settled_touchOne ctx world.tree word)
  simp only [args, List.isEmpty_cons, Bool.false_eq_true, if_false, eachOperand_single]

theorem allOrNothing_mkdir (operands : ctx.operands = [word]) :
    AllOrNothing world (mkdir ctx world) := by
  apply allOrNothing_editing (settled_mkdirOne ctx (ctx.hasFlag ["-p"]) world.tree word)
  simp only [operands, List.isEmpty_cons, Bool.false_eq_true, if_false, eachOperand_single]

theorem allOrNothing_rm (operands : ctx.operands = [word]) : AllOrNothing world (rm ctx world) := by
  apply allOrNothing_editing (settled_rmOne ctx (ctx.hasFlag ["-r", "-R", "-rf", "-fr"])
    (ctx.hasFlag ["-f", "-rf", "-fr"]) world.tree word)
  simp only [operands, List.isEmpty_cons, Bool.false_eq_true, if_false, eachOperand_single]

namespace Transfer

theorem run_pair {destination : String} (transfer : Transfer)
    (operands : ctx.operands = [word, destination]) (world : World) :
    transfer.run ctx world = Handler.editing (fun ctx tree => report
      (transfer.one ctx (transfer = .move || ctx.hasFlag ["-r", "-R"])
        (.ofWord ctx tree destination) tree word)) ctx world := by
  unfold Transfer.run Handler.editing Transfer.edit
  simp only [operands, List.dropLast, List.getLastD, List.getLast, eachOperand_single]
  rfl

theorem allOrNothing_run {destination : String} (valid : world.tree.Valid)
    (normal : Path.Normal ctx.cwd) (operands : ctx.operands = [word, destination])
    (transfer : Transfer) : AllOrNothing world (transfer.run ctx world) := by
  rw [run_pair transfer operands]
  refine allOrNothing_editing ?_ rfl
  rcases carried_one transfer (transfer = .move || ctx.hasFlag ["-r", "-R"])
    (.ofWord ctx world.tree destination) valid word
    (Destination.normal_target normal world.tree destination) with refused | ⟨after, done, _⟩
  · exact .inl refused
  · exact .inr ⟨after, done⟩

end Transfer

/-- A call with one operand, of which `touch` takes every argument for one, that has anything to say
    leaves the tree as it was, and so does a transfer of one source. A copy of a subtree that has
    passed its checks is complete, so no transfer ends with a part of a copy. -/
theorem complaint_keeps_tree (valid : world.tree.issues = []) (normal : Path.Normal ctx.cwd) :
    (∀ word, ctx.args = [word] → AllOrNothing world (touch ctx world)) ∧
    (∀ word, ctx.operands = [word] →
      AllOrNothing world (mkdir ctx world) ∧ AllOrNothing world (rm ctx world)) ∧
    (∀ source destination, ctx.operands = [source, destination] →
      AllOrNothing world (cp ctx world) ∧ AllOrNothing world (mv ctx world)) ∧
    ∀ source target, Path.Normal target → Transfer.Passes world.tree source target →
      ∃ after, Transfer.copyTree world.tree source target = .ok (true, after) := by
  have sound := Tree.issues_eq_nil.mp valid
  refine ⟨fun _ => allOrNothing_touch, ?_, ?_, ?_⟩
  · intro word operands
    exact ⟨allOrNothing_mkdir operands, allOrNothing_rm operands⟩
  · intro source destination operands
    exact ⟨Transfer.allOrNothing_run sound normal operands .copy,
      Transfer.allOrNothing_run sound normal operands .move⟩
  · intro source target targetNormal passes
    obtain ⟨after, complete, _⟩ := passes.copyTree sound targetNormal
    exact ⟨after, complete⟩

def placeAndTime : Environment :=
  ⟨Environment.defaultUsername, none, .still ⟨2025, 3, 7, 14, 5, 9, .unknown⟩⟩

def rootContext (name : String) (args : List String) : Context :=
  ⟨name, args, "", placeAndTime, [], .empty⟩

def crowded : World where
  tree := ⟨["", "docs", "docs/guides", "src", "src/docs"],
    .ofList [("docs/intro.md", "hi"), ("docs/guides/setup.md", "run"), ("src/docs/guides", "")]⟩
  clock := placeAndTime.clock
  sizes := ⟨#[], 0⟩

theorem complaint_keeps_tree_crowded :
    (cp (rootContext "cp" ["-r", "docs", "src"]) crowded).1.toOption.map Reply.output =
        some "cp: cannot overwrite non-directory 'src/docs/guides' with directory" ∧
      (cp (rootContext "cp" ["-r", "docs", "src"]) crowded).2.tree = crowded.tree := by
  have said : (cp (rootContext "cp" ["-r", "docs", "src"]) crowded).1.toOption.map Reply.output =
      some "cp: cannot overwrite non-directory 'src/docs/guides' with directory" := by
    decide +kernel
  have valid : crowded.tree.issues = [] := by decide +kernel
  have kept := @complaint_keeps_tree (rootContext "cp" ["-r", "docs", "src"]) crowded valid
    (.inl rfl)
  obtain ⟨reply, answered, keeps⟩ := (kept.2.2.1 "docs" "src" (by decide)).1
  rw [answered] at said
  have output : reply.output =
      "cp: cannot overwrite non-directory 'src/docs/guides' with directory" :=
    Option.some.inj said
  exact ⟨by rw [answered]; exact said, keeps (by rw [output]; decide)⟩

end TreeShell.Command
