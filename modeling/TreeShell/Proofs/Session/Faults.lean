import TreeShell.Proofs.Command.Answers
import TreeShell.Proofs.Glob
import TreeShell.Proofs.Session.Sound

namespace TreeShell

namespace Registry

variable {η : Type} {base registry next : Registry η}

/-- A registry on which further commands have been registered, one after the other. -/
inductive Grown (base : Registry η) : Registry η → Prop
  | refl : Grown base base
  | register {registry next : Registry η} (grown : Grown base registry) {name : String} {handler : η}
      {summary : String} (registered : registry.register name handler summary = .ok next) :
      Grown base next

theorem get?_register {name : String} {handler : η} {summary : String}
    (registered : registry.register name handler summary = .ok next) {other : String} {old : η}
    (found : registry.get? other = some old) : next.get? other = some old := by
  unfold register at registered
  dsimp only at registered
  split at registered
  · cases registered
  split at registered
  · cases registered
  rename_i fresh
  cases registered
  obtain ⟨registration, known, same⟩ := Option.map_eq_some_iff.mp found
  have apart : Text.lower other ≠ Text.lower name := by
    intro taken
    rw [taken] at known
    exact fresh ((registry.commands.contains_iff_get? _).mpr ⟨registration, known⟩)
  rw [get?, OrderedMap.get?_insert, if_neg apart]
  exact found

theorem Grown.get? (grown : base.Grown registry) {name : String} {handler : η}
    (found : base.get? name = some handler) : registry.get? name = some handler := by
  induction grown with
  | refl => exact found
  | register _ registered ih => exact get?_register registered ih

end Registry

namespace Session

open Command (FindRequest)

variable {session : Session}

def Fails (session : Session) (invocation : Invocation) (cwd : Path) (fault : Fault) : Prop :=
  invocation.name ≠ "" ∧ ∃ handler, session.registry.get? invocation.name = some handler ∧
    (handler (session.context invocation cwd) session.world).1 = .error fault

theorem registry_grown (grown : (Builtin.registry Builtin.run).Grown session.registry)
    {invocation : Invocation} {builtin : Builtin} (named : invocation.name = builtin.name) :
    session.registry.get? invocation.name = some builtin.run := by
  apply grown.get?
  rw [Builtin.registry_get?_name, Builtin.ofName?_eq_some.mpr named]
  rfl

theorem name_ne_of_fails (grown : (Builtin.registry Builtin.run).Grown session.registry)
    {invocation : Invocation} {cwd : Path} {fault : Fault}
    (fails : session.Fails invocation cwd fault) (builtin : Builtin) :
    invocation.name ≠ builtin.name := by
  intro named
  obtain ⟨_, handler, found, failed⟩ := fails
  rw [registry_grown grown named, Option.some.injEq] at found
  obtain ⟨reply, answered⟩ :=
    builtin.answered_run (session.context invocation cwd) session.world
  rw [← found, answered] at failed
  cases failed

/-- Built-in commands answer in every context, on valid trees and others: `find` asks for no argument
    that is not there, and the expression it makes of a glob can be read. On a valid tree a name of
    theirs gets that answer whatever else is registered, and a fault is shown only for other names. -/
theorem builtins_answer (grown : (Builtin.registry Builtin.run).Grown session.registry)
    (valid : session.tree.issues = []) (invocation : Invocation) (cwd : Path) :
    (∀ (builtin : Builtin) (ctx : Command.Context) (world : World),
      ∃ reply, (builtin.run ctx world).1 = .ok reply) ∧
    (∀ args, FindRequest.readFrom args 0 ⟨Path.here, none⟩ = .ok (FindRequest.ofArgs args)) ∧
    (∀ pattern, ∃ pieces, Regex.read (Glob.regex pattern) = some pieces ∧
      ∀ name, Glob.isMatch pattern name ↔ Regex.Accepts pieces name.toList) ∧
    (∀ builtin : Builtin, invocation.name = builtin.name → ∃ reply world,
      builtin.run (session.context invocation cwd) session.world = (.ok reply, world) ∧
        session.dispatch invocation cwd = (reply, session.withWorld world)) ∧
    ∀ fault, session.Fails invocation cwd fault →
      (session.dispatch invocation cwd).1 = faultReply fault ∧
        ∀ builtin : Builtin, invocation.name ≠ builtin.name := by
  refine ⟨Builtin.answered_run, FindRequest.readFrom_zero, Glob.read_regex, ?_, ?_⟩
  · intro builtin named
    have filled : invocation.name ≠ "" := by
      rw [named]
      cases builtin <;> decide
    have dispatched := dispatch_found filled (registry_grown grown named) valid cwd
    obtain ⟨reply, answered⟩ :=
      builtin.answered_run (session.context invocation cwd) session.world
    rw [answered] at dispatched
    exact ⟨reply, _, Prod.ext answered rfl, dispatched⟩
  · intro fault fails
    have others := name_ne_of_fails grown fails
    obtain ⟨filled, handler, found, failed⟩ := fails
    rw [dispatch_found filled found valid, failed]
    exact ⟨rfl, others⟩

def boom : Command.Handler := fun _ world => (.error (.other "RuntimeError" "kaput"), world)

def armed : Session :=
  { seeded with registry := ⟨(Builtin.registry Builtin.run).commands.insert "boom" ⟨boom, ""⟩⟩ }

theorem builtins_answer_armed :
    (Builtin.registry Builtin.run).Grown armed.registry ∧ armed.tree.issues = [] ∧
      (armed.dispatch (Invocation.parse "BOOM now") "docs").1 =
        faultReply (.other "RuntimeError" "kaput") ∧
      ∃ reply world, armed.dispatch (Invocation.parse "find '' -name '*('") "/odd//" =
        (reply, armed.withWorld world) := by
  have facts : (Invocation.parse "BOOM now").name = "boom" ∧ Text.lower "boom" = "boom" ∧
      (Builtin.registry Builtin.run).commands.contains "boom" = false ∧
      (Invocation.parse "find '' -name '*('").name = Builtin.find.name := by decide +kernel
  obtain ⟨named, lower, fresh, find⟩ := facts
  have registered : (Builtin.registry Builtin.run).register "boom" boom "" =
      .ok armed.registry := by
    simp only [Registry.register, lower, fresh]
    rfl
  have grown : (Builtin.registry Builtin.run).Grown armed.registry := .register .refl registered
  have valid : armed.tree.issues = [] := Tree.issues_eq_nil.mpr (seed_fit True).valid
  have known : armed.registry.get? "boom" = some boom := by
    rw [Registry.get?, lower]
    exact congrArg _ (OrderedMap.get?_insert ..)
  have fails : armed.Fails (Invocation.parse "BOOM now") "docs" (.other "RuntimeError" "kaput") := by
    rw [Fails, named]
    exact ⟨by decide, boom, known, rfl⟩
  have failing := builtins_answer grown valid (Invocation.parse "BOOM now") "docs"
  have finding := builtins_answer grown valid (Invocation.parse "find '' -name '*('") "/odd//"
  obtain ⟨reply, world, _, dispatched⟩ := finding.2.2.2.1 .find find
  exact ⟨grown, valid, (failing.2.2.2.2 _ fails).1, reply, world, dispatched⟩

end Session

end TreeShell
