import Mathlib.Data.List.DropRight
import TreeShell.Proofs.Session.Sound

namespace TreeShell.Session

inductive Trace
  | nothing
  | entry (left : HistoryEntry)
  | wipe
  deriving DecidableEq, Repr

namespace Trace

def isWipe : Trace → Bool
  | wipe => true
  | _ => false

def entry? : Trace → Option HistoryEntry
  | entry left => some left
  | _ => none

def sinceWipe (traces : List Trace) : List HistoryEntry :=
  (traces.rtakeWhile (!·.isWipe)).filterMap entry?

def onto (history : List HistoryEntry) (limit : Nat) : Trace → List HistoryEntry
  | nothing => history
  | entry left => record history limit left
  | wipe => []

end Trace

/-- A reset wipes the history, and so does a line whose command asks to clear the screen. Any other
    line leaves an entry unless it is blank. -/
def traceOf (session : Session) : Step → Trace
  | .reset => .wipe
  | .execute line directory =>
    if (session.replyTo line directory).clearScreen then .wipe
    else if Text.trim line = "" then .nothing
    else .entry ⟨Text.trim line, session.place directory, (session.execute line directory).1.output⟩

section Steps

variable {session : Session} {line : String} {directory : Option Path}

theorem exists_withWorld_dispatch (session : Session) (invocation : Invocation) (cwd : Path) :
    ∃ world, (session.dispatch invocation cwd).2 = session.withWorld world := by
  have same : session = session.withWorld session.world := rfl
  unfold dispatch
  split
  · exact ⟨_, same⟩
  · split
    · exact ⟨_, same⟩
    · split
      · split
        · exact ⟨_, rfl⟩
        · exact ⟨_, rfl⟩
      · exact ⟨_, same⟩

theorem exists_withWorld_afterCommand (session : Session) (line : String)
    (directory : Option Path) :
    ∃ world, session.afterCommand line directory = session.withWorld world :=
  session.exists_withWorld_dispatch (Invocation.parse line) (session.place directory)

theorem execute_of_clear (clears : (session.replyTo line directory).clearScreen) :
    (session.execute line directory).2.history = [] ∧
      (session.execute line directory).2.tree = (session.afterCommand line directory).tree := by
  simp only [execute_eq, if_pos clears, and_self]

theorem execute_of_not_clear (shows : ¬ (session.replyTo line directory).clearScreen) :
    (session.execute line directory).2.history =
      if Text.trim line = "" then (session.afterCommand line directory).history
      else record (session.afterCommand line directory).history
        (session.afterCommand line directory).maxHistory
        ⟨Text.trim line, session.place directory, (session.execute line directory).1.output⟩ := by
  simp only [execute_eq, if_neg shows]

theorem execute_maxHistory (session : Session) (line : String) (directory : Option Path) :
    (session.execute line directory).2.maxHistory = session.maxHistory := by
  obtain ⟨world, same⟩ := session.exists_withWorld_afterCommand line directory
  have kept : (session.afterCommand line directory).maxHistory = session.maxHistory := by
    rw [same]
    rfl
  rw [execute_eq]
  dsimp only
  split <;> exact kept

theorem maxHistory_apply (session : Session) (step : Step) :
    (step.apply session).maxHistory = session.maxHistory := by
  cases step with
  | execute line directory => exact session.execute_maxHistory line directory
  | reset => rfl

theorem history_apply (session : Session) (step : Step) :
    (step.apply session).history =
      (session.traceOf step).onto session.history session.maxHistory := by
  cases step with
  | reset => rfl
  | execute line directory =>
    rw [Step.apply, traceOf]
    by_cases clears : (session.replyTo line directory).clearScreen
    · rw [if_pos clears]
      exact (execute_of_clear clears).1
    · obtain ⟨world, same⟩ := session.exists_withWorld_afterCommand line directory
      rw [if_neg clears, execute_of_not_clear clears, same]
      by_cases blank : Text.trim line = ""
      · rw [if_pos blank, if_pos blank]
        rfl
      · rw [if_neg blank, if_neg blank]
        rfl

end Steps

structure Turn where
  commands : Registry Command.Handler
  step : Step

namespace Turn

def equip (session : Session) (turn : Turn) : Session := { session with registry := turn.commands }

def apply (session : Session) (turn : Turn) : Session := turn.step.apply (turn.equip session)

end Turn

def played (session : Session) (turns : List Turn) : Session := turns.foldl Turn.apply session

def traces : Session → List Turn → List Trace
  | _, [] => []
  | session, turn :: rest =>
    (turn.equip session).traceOf turn.step :: traces (turn.apply session) rest

theorem played_append_singleton (session : Session) (turns : List Turn) (turn : Turn) :
    session.played (turns ++ [turn]) = turn.apply (session.played turns) := by
  rw [played, List.foldl_append]
  rfl

theorem traces_append_singleton (session : Session) (turns : List Turn) (turn : Turn) :
    session.traces (turns ++ [turn]) =
      session.traces turns ++ [(turn.equip (session.played turns)).traceOf turn.step] := by
  induction turns generalizing session with
  | nil => rfl
  | cons first rest ih =>
    rw [List.cons_append, traces, traces, ih, List.cons_append]
    rfl

theorem played_maxHistory (session : Session) (turns : List Turn) :
    (session.played turns).maxHistory = session.maxHistory := by
  induction turns generalizing session with
  | nil => rfl
  | cons turn rest ih =>
    rw [played, List.foldl_cons, ← played, ih, Turn.apply, maxHistory_apply]
    rfl

/-- Entries that fell out of a history before make no difference to what it keeps later. -/
theorem record_rtake (entries : List HistoryEntry) (limit : Nat) (entry : HistoryEntry) :
    record (entries.rtake limit) limit entry = (entries ++ [entry]).rtake limit := by
  have whole (history : List HistoryEntry) :
      record history limit entry = (history ++ [entry]).rtake limit := rfl
  rw [whole]
  cases limit with
  | zero => rw [List.rtake_zero, List.rtake_zero]
  | succ room =>
    have again : (entries.rtake (room + 1)).rtake room = entries.rtake room := by
      simp only [List.rtake_eq_reverse_take_reverse, List.reverse_reverse, List.take_take,
        Nat.min_eq_left (Nat.le_succ room)]
    rw [List.rtake_concat_succ, List.rtake_concat_succ, again]

theorem onto_rtake (traces : List Trace) (limit : Nat) (trace : Trace) :
    trace.onto ((Trace.sinceWipe traces).rtake limit) limit =
      (Trace.sinceWipe (traces ++ [trace])).rtake limit := by
  unfold Trace.sinceWipe
  cases trace with
  | nothing =>
    rw [List.rtakeWhile_concat_pos _ _ _ rfl, List.filterMap_append]
    exact congrArg (List.rtake · limit) (List.append_nil _).symm
  | entry left =>
    rw [List.rtakeWhile_concat_pos _ _ _ rfl, List.filterMap_append]
    exact record_rtake _ limit left
  | wipe =>
    rw [List.rtakeWhile_concat_neg _ _ _ Bool.false_ne_true]
    exact (List.rtake_nil limit).symm

/-- After any turns of a session that started without history, its history is the latest part of
    what the lines since the last reset or clear left. A line that clears leaves no entry, and it
    redirects nothing. -/
theorem history_played {session : Session} (fresh : session.history = []) (turns : List Turn) :
    (session.played turns).history =
        (Trace.sinceWipe (session.traces turns)).rtake session.maxHistory ∧
      ∀ commands line directory,
        let next := Turn.equip (session.played turns) ⟨commands, .execute line directory⟩
        (next.replyTo line directory).clearScreen →
          (next.execute line directory).2.history = [] ∧
            (next.execute line directory).2.tree = (next.afterCommand line directory).tree := by
  refine ⟨?_, fun _ _ _ clears => execute_of_clear clears⟩
  -- The last turn acts on a history that is cut already.
  induction turns using List.reverseRecOn with
  | nil => exact fresh.trans (List.rtake_nil _).symm
  | append_singleton turns turn ih =>
    have limit : (turn.equip (session.played turns)).maxHistory = session.maxHistory :=
      session.played_maxHistory turns
    have before : (turn.equip (session.played turns)).history =
        (Trace.sinceWipe (session.traces turns)).rtake session.maxHistory := ih
    rw [played_append_singleton, Turn.apply, history_apply, limit, before, onto_rtake,
      traces_append_singleton]

def brief : Session := { seeded with maxHistory := 2 }

theorem history_played_brief :
    let lines := ["echo a", "clear > log", " nosuch\t", "", "echo b > log", "cat log"]
    (brief.played (lines.map fun line => ⟨brief.registry, .execute line none⟩)).history =
      [⟨"echo b > log", "", ""⟩, ⟨"cat log", "", "b"⟩] := by
  intro lines
  rw [(history_played rfl _).1]
  decide +kernel

end TreeShell.Session
