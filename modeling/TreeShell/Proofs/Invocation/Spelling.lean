import TreeShell.Proofs.Invocation.Typed

namespace TreeShell.Words

structure QuotedRun where
  quote : Char
  body : List Char
  isQuote : isQuote quote
  free : quote ∉ body

inductive Segment
  | bare (run : List Char) (filled : run ≠ []) (plain : ∀ c ∈ run, ¬ isQuote c ∧ c ≠ ' ')
  | quoted (run : QuotedRun)

namespace Segment

def typed : Segment → List Char
  | bare run _ _ => run
  | quoted run => run.quote :: (run.body ++ [run.quote])

def value : Segment → List Char
  | bare run _ _ => run
  | quoted run => run.body

end Segment

structure Word where
  segments : List Segment
  filled : segments ≠ []

namespace Word

def typed (word : Word) : List Char := word.segments.flatMap Segment.typed

def value (word : Word) : List Char := word.segments.flatMap Segment.value

def prepend (segment : Segment) (word : Word) : Word :=
  ⟨segment :: word.segments, List.cons_ne_nil _ _⟩

end Word

inductive Ending
  | nothing
  | last (word : Word)
  | opened (before : List Segment) (run : QuotedRun)

namespace Ending

def typed : Ending → List Char
  | nothing => []
  | last word => word.typed
  | opened before run => before.flatMap Segment.typed ++ run.quote :: run.body

def values : Ending → List (List Char)
  | nothing => []
  | last word => [word.value]
  | opened before run => [before.flatMap Segment.value ++ run.body]

def prepend (segment : Segment) : Ending → Ending
  | nothing => last ⟨[segment], List.cons_ne_nil _ _⟩
  | last word => last (word.prepend segment)
  | opened before run => opened (segment :: before) run

end Ending

/-- A command as it is spelled: the number of spaces in front of it, the words that have spaces
    behind them, each with the number of its spaces after the first, and its end. -/
structure Spelling where
  leading : Nat
  spaced : List (Word × Nat)
  ending : Ending

namespace Spelling

def spaces (count : Nat) : List Char := List.replicate count ' '

def typedWord (word : Word × Nat) : List Char := word.1.typed ++ ' ' :: spaces word.2

def typed (spelling : Spelling) : List Char :=
  spaces spelling.leading ++ (spelling.spaced.flatMap typedWord ++ spelling.ending.typed)

def text (spelling : Spelling) : String := String.ofList spelling.typed

def values (spelling : Spelling) : List (List Char) :=
  spelling.spaced.map (·.1.value) ++ spelling.ending.values

def words (spelling : Spelling) : List String :=
  (spelling.values.filter (· ≠ [])).map String.ofList

end Spelling

theorem scan_typed (segment : Segment) (begun rest : List Char) :
    scan none begun (segment.typed ++ rest) = scan none (begun ++ segment.value) rest := by
  cases segment with
  | bare run _ plain => exact scan_plain plain begun rest
  | quoted run =>
    have inside := scan_inside run.isQuote run.free begun rest
    simp only [Segment.typed, List.cons_append, List.append_assoc, List.nil_append]
    rw [scan, if_pos ⟨run.isQuote, .inl rfl⟩, if_pos rfl, inside]
    rfl

theorem scan_segments (segments : List Segment) (begun rest : List Char) :
    scan none begun (segments.flatMap Segment.typed ++ rest) =
      scan none (begun ++ segments.flatMap Segment.value) rest := by
  induction segments generalizing begun with
  | nil => rw [List.flatMap_nil, List.flatMap_nil, List.nil_append, List.append_nil]
  | cons segment others ih =>
    rw [List.flatMap_cons, List.flatMap_cons, List.append_assoc, scan_typed, ih, List.append_assoc]

theorem scan_open {quote : Char} {body : List Char} (free : quote ∉ body) (begun : List Char) :
    scan (some quote) begun body = finish (begun ++ body) := by
  induction body generalizing begun with
  | nil => rw [scan, List.append_nil]
  | cons c body ih =>
    rw [List.mem_cons, not_or] at free
    simp [scan, free.1, ih free.2]

theorem scan_ending (ending : Ending) :
    scan none [] ending.typed = ending.values.flatMap finish := by
  cases ending with
  | nothing => rfl
  | last word =>
    have whole := scan_segments word.segments [] []
    rw [List.append_nil, List.nil_append, scan] at whole
    rw [Ending.typed, Word.typed, whole, Ending.values, List.flatMap_singleton, Word.value]
  | opened before run =>
    rw [Ending.typed, scan_segments, scan, if_pos ⟨run.isQuote, .inl rfl⟩, if_pos rfl,
      scan_open run.free, Ending.values, List.flatMap_singleton, List.nil_append]

theorem scan_spaced (spaced : List (Word × Nat)) (rest : List Char) :
    scan none [] (spaced.flatMap Spelling.typedWord ++ rest) =
      (spaced.map (·.1.value)).flatMap finish ++ scan none [] rest := by
  induction spaced with
  | nil => rfl
  | cons word others ih =>
    rw [List.flatMap_cons, Spelling.typedWord, Word.typed, List.append_assoc, List.append_assoc,
      scan_segments, List.cons_append, scan_space, Spelling.spaces, scan_spaces, ih,
      List.map_cons, List.flatMap_cons, List.append_assoc]
    rfl

theorem flatMap_finish (values : List (List Char)) :
    values.flatMap finish = (values.filter (· ≠ [])).map String.ofList := by
  induction values with
  | nil => rfl
  | cons value others ih =>
    rw [List.flatMap_cons, ih]
    by_cases empty : value = [] <;> simp [finish, empty]

theorem ofText_text (spelling : Spelling) : ofText spelling.text = spelling.words := by
  rw [ofText, Spelling.text, String.toList_ofList, Spelling.typed, Spelling.spaces, scan_spaces,
    scan_spaced, scan_ending, ← List.flatMap_append, flatMap_finish]
  rfl

theorem Ending.typed_prepend (segment : Segment) (ending : Ending) :
    (ending.prepend segment).typed = segment.typed ++ ending.typed := by
  cases ending with
  | nothing => simp [prepend, typed, Word.typed]
  | last word => simp [prepend, typed, Word.typed, Word.prepend]
  | opened before run => simp [prepend, typed]

namespace Spelling

/-- The spelling with a segment in front: it begins the first word, or is a word of its own where
    spaces follow. -/
def prepend (segment : Segment) : Spelling → Spelling
  | ⟨more + 1, spaced, ending⟩ => ⟨0, (⟨[segment], List.cons_ne_nil _ _⟩, more) :: spaced, ending⟩
  | ⟨0, (word, more) :: others, ending⟩ => ⟨0, (word.prepend segment, more) :: others, ending⟩
  | ⟨0, [], ending⟩ => ⟨0, [], ending.prepend segment⟩

theorem typed_prepend (segment : Segment) (spelling : Spelling) :
    (spelling.prepend segment).typed = segment.typed ++ spelling.typed := by
  obtain ⟨leading, spaced, ending⟩ := spelling
  cases leading with
  | succ more =>
    simp [prepend, typed, typedWord, spaces, Word.typed, List.replicate_succ]
  | zero =>
    cases spaced with
    | nil => simp [prepend, typed, spaces, Ending.typed_prepend]
    | cons word others =>
      simp [prepend, typed, typedWord, spaces, Word.typed, Word.prepend]

theorem exists_typed (text : List Char) : ∃ spelling : Spelling, spelling.typed = text := by
  -- A quoted run is taken off whole, so what is left is shorter but need not be the tail.
  induction size : text.length using Nat.strong_induction_on generalizing text with
  | _ count ih =>
  cases text with
  | nil => exact ⟨⟨0, [], .nothing⟩, rfl⟩
  | cons c rest =>
    subst size
    by_cases space : c = ' '
    · obtain ⟨spelling, rfl⟩ := ih rest.length (by simp) rest rfl
      refine ⟨{ spelling with leading := spelling.leading + 1 }, ?_⟩
      rw [space, typed, spaces, List.replicate_succ]
      rfl
    by_cases quote : isQuote c
    · by_cases closed : c ∈ rest
      · obtain ⟨body, after, rfl, free⟩ := List.eq_append_cons_of_mem closed
        obtain ⟨spelling, rfl⟩ := ih after.length (by simp; omega) after rfl
        refine ⟨spelling.prepend (.quoted ⟨c, body, quote, free⟩), ?_⟩
        rw [typed_prepend, Segment.typed]
        simp
      · exact ⟨⟨0, [], .opened [] ⟨c, rest, quote, closed⟩⟩, rfl⟩
    · obtain ⟨spelling, rfl⟩ := ih rest.length (by simp) rest rfl
      have plain : ∀ other ∈ [c], ¬ isQuote other ∧ other ≠ ' ' := by
        intro other member
        rw [List.mem_singleton.mp member]
        exact ⟨quote, space⟩
      refine ⟨spelling.prepend (.bare [c] (List.cons_ne_nil _ _) plain), ?_⟩
      rw [typed_prepend]
      rfl

end Spelling

/-- Reading a command gives the values of the words that it spells, in order and without the empty
    ones; and there is no text that does not spell a command. -/
theorem ofText_spells :
    (∀ spelling : Spelling, ofText spelling.text = spelling.words) ∧
      ∀ command : String, ∃ spelling : Spelling, spelling.text = command := by
  refine ⟨ofText_text, ?_⟩
  intro command
  obtain ⟨spelling, typed⟩ := Spelling.exists_typed command.toList
  exact ⟨spelling, by rw [Spelling.text, typed, String.ofList_toList]⟩

example : ofText " it\"'s\"  '' \"a b\"c'd " = ["it's", "a bcd "] := by decide

end TreeShell.Words
