import Mathlib.Data.List.Basic
import TreeShell.Proofs.Invocation
import TreeShell.Proofs.Text.Blank
import TreeShell.Proofs.Text.Pieces

namespace TreeShell

/-! ## Words -/

namespace Words

theorem isQuote_cases {c : Char} (quote : isQuote c) : c = '"' ∨ c = '\'' := by
  simpa [isQuote] using quote

theorem not_isBlank_of_isQuote {c : Char} (quote : isQuote c) : ¬ Text.isBlank c := by
  rcases isQuote_cases quote with same | same <;> rw [same] <;> decide

theorem ne_arrow_of_isQuote {c : Char} (quote : isQuote c) : c ≠ '>' := by
  intro same
  rw [same] at quote
  exact absurd quote (by decide)

theorem scan_inside {quote : Char} {body : List Char} (isQuote : isQuote quote)
    (free : quote ∉ body) (word rest : List Char) :
    scan (some quote) word (body ++ quote :: rest) = scan none (word ++ body) rest := by
  induction body generalizing word with
  | nil => simp [scan, isQuote]
  | cons c body ih =>
    rw [List.mem_cons, not_or] at free
    simp [scan, free.1, ih free.2]

theorem scan_plain {plain : List Char} (free : ∀ c ∈ plain, ¬ isQuote c ∧ c ≠ ' ')
    (word rest : List Char) : scan none word (plain ++ rest) = scan none (word ++ plain) rest := by
  induction plain generalizing word with
  | nil => simp
  | cons c plain ih =>
    obtain ⟨noQuote, noSpace⟩ := free c (List.mem_cons_self ..)
    have others := ih fun other member => free other (List.mem_cons_of_mem _ member)
    simp [scan, noQuote, noSpace, others]

theorem scan_space (word rest : List Char) :
    scan none word (' ' :: rest) = finish word ++ scan none [] rest := by
  simp [scan, show isQuote ' ' = false by decide]

theorem scan_spaces (count : Nat) (rest : List Char) :
    scan none [] (List.replicate count ' ' ++ rest) = scan none [] rest := by
  induction count with
  | zero => rfl
  | succ count ih =>
    rw [List.replicate_succ, List.cons_append, scan_space, ih]
    rfl

theorem finish_of_ne_empty {word : String} (filled : word ≠ "") : finish word.toList = [word] := by
  simp [finish, filled]

end Words

structure Quoted where
  text : String
  quote : Char
  spaces : Nat
  filled : text ≠ ""
  isQuote : Words.isQuote quote
  free : quote ∉ text.toList

namespace Quoted

def typed (word : Quoted) : List Char :=
  ' ' :: (List.replicate word.spaces ' ' ++ word.quote :: word.text.toList) ++ [word.quote]

def line (words : List Quoted) : String := String.ofList (words.flatMap typed)

theorem scan_typed (word : Quoted) (begun rest : List Char) :
    Words.scan none begun (word.typed ++ rest) =
      Words.finish begun ++ Words.scan none word.text.toList rest := by
  have opened : Words.scan none [] (word.quote :: (word.text.toList ++ word.quote :: rest)) =
      Words.scan none word.text.toList rest := by
    rw [Words.scan, if_pos ⟨word.isQuote, .inl rfl⟩, if_pos rfl,
      Words.scan_inside word.isQuote word.free]
    rfl
  simp only [typed, List.cons_append, List.append_assoc, List.nil_append]
  rw [Words.scan_space, Words.scan_spaces, opened]

theorem scan_flatMap_typed (words : List Quoted) (begun : List Char) :
    Words.scan none begun (words.flatMap typed) = Words.finish begun ++ words.map text := by
  induction words generalizing begun with
  | nil => rw [List.flatMap_nil, Words.scan, List.map_nil, List.append_nil]
  | cons word rest ih =>
    rw [List.flatMap_cons, scan_typed, ih, Words.finish_of_ne_empty word.filled]
    rfl

theorem getLast?_flatMap_typed {words : List Quoted} (filled : words ≠ []) :
    ∃ word ∈ words, (words.flatMap typed).getLast? = some word.quote := by
  obtain ⟨front, word, rfl⟩ := List.eq_nil_or_concat words |>.resolve_left filled
  refine ⟨word, by simp, ?_⟩
  rw [List.concat_eq_append, List.flatMap_append, List.flatMap_singleton, typed,
    ← List.append_assoc, List.getLast?_concat]

end Quoted

structure Bare (word : String) : Prop where
  filled : word ≠ ""
  plain : ∀ c ∈ word.toList, ¬ Text.isBlank c ∧ ¬ Words.isQuote c ∧ c ≠ '>'

theorem Bare.of_forall {word : String} (filled : word ≠ "")
    (plain : word.toList.Forall fun c => ¬ Text.isBlank c ∧ ¬ Words.isQuote c ∧ c ≠ '>') :
    Bare word :=
  ⟨filled, List.forall_iff_forall_mem.mp plain⟩

/-! ## Redirections -/

namespace Redirection

def arrow (append : Bool) : String := if append then ">>" else ">"

theorem targetIn_of_not_mem {after : List Char} (free : '>' ∉ after) (rest : List Char) :
    targetIn ('>' :: rest) after = Text.trim (String.ofList after) := by
  rw [targetIn, Text.cutAt_eq_none free]

theorem split_of_not_mem {line : String} (free : '>' ∉ line.toList) :
    split line = (line, none) := by
  simp [split, cutLine, appendArrow, writeArrow, Text.cutAt_eq_none free]

theorem split_arrow {command target : String} (front : '>' ∉ command.toList)
    (back : '>' ∉ target.toList) (append : Bool) :
    split (command ++ arrow append ++ target) =
      (Text.trim command, some ⟨Text.trim target, append⟩) := by
  cases append with
  | false =>
    have one : (command ++ arrow false ++ target).toList =
        command.toList ++ '>' :: target.toList := by simp [arrow]
    have noPair : cutLine appendArrow true (command ++ arrow false ++ target) = none := by
      rw [cutLine, one, appendArrow, Text.cutAt_double_eq_none front back]
      rfl
    have cut : Text.cutAt ['>'] (command.toList ++ '>' :: target.toList) =
        some (command.toList, target.toList) := Text.cutAt_append front [] target.toList
    rw [split, noPair]
    simp only [cutLine, one, writeArrow, cut, Option.map_some, targetIn_of_not_mem back,
      String.ofList_toList]
  | true =>
    have two : (command ++ arrow true ++ target).toList =
        command.toList ++ '>' :: (['>'] ++ target.toList) := by simp [arrow]
    have cut := Text.cutAt_append front ['>'] target.toList
    simp only [split, cutLine, two, appendArrow, cut, Option.map_some, targetIn_of_not_mem back,
      String.ofList_toList]

end Redirection

/-! ## Lines -/

namespace Bare

variable {word : String} (bare : Bare word)

include bare

theorem not_mem_arrow : '>' ∉ word.toList := by
  intro member
  exact (bare.plain '>' member).2.2 rfl

theorem trim : Text.trim word = word := by
  rw [Text.trim_eq_self_iff]
  constructor
  · intro c first
    exact (bare.plain c (List.mem_of_head? first)).1
  · intro c last
    exact (bare.plain c (List.mem_of_getLast? last)).1

theorem not_quote : ∀ c ∈ word.toList, ¬ Words.isQuote c ∧ c ≠ ' ' := by
  intro c member
  obtain ⟨noBlank, noQuote, _⟩ := bare.plain c member
  refine ⟨noQuote, ?_⟩
  rintro rfl
  exact noBlank (by decide)

theorem ofText : Words.ofText word = [word] := by
  have last := Words.scan_plain bare.not_quote [] []
  rwa [List.append_nil, List.nil_append, Words.scan, Words.finish_of_ne_empty bare.filled] at last

theorem ofText_append (text : String) :
    Words.ofText (word ++ " " ++ text) = word :: Words.ofText text := by
  have spaced : (word ++ " " ++ text).toList = word.toList ++ ' ' :: text.toList := by simp
  rw [Words.ofText, spaced, Words.scan_plain bare.not_quote, List.nil_append, Words.scan_space,
    Words.finish_of_ne_empty bare.filled]
  rfl

end Bare

namespace Invocation

variable {command text : String}

theorem parse_arrow (named : command ≠ "") (spaceless : Text.trim command = command)
    (front : '>' ∉ command.toList) (filled : text ≠ "") (trimmed : Text.trim text = text)
    (back : '>' ∉ text.toList) (append : Bool) :
    parse (command ++ " " ++ Redirection.arrow append ++ (" " ++ text)) =
      ⟨command ++ " " ++ Redirection.arrow append ++ (" " ++ text), Words.ofText command,
        some ⟨text, append⟩⟩ := by
  have long : command.toList ≠ [] := by simpa using named
  obtain ⟨c, rest, letters⟩ := List.exists_cons_of_ne_nil long
  have first : (command ++ " " ++ Redirection.arrow append ++ " ").toList.head? = some c := by
    simp [letters]
  have letter := (Text.trim_eq_self_iff.mp spaceless).1 c (by simp [letters])
  have whole := Text.trim_append first letter trimmed filled
  rw [String.append_assoc] at whole
  have frontFree : '>' ∉ (command ++ " ").toList := by simp [front]
  have backFree : '>' ∉ (" " ++ text).toList := by simp [back]
  have cut := Redirection.split_arrow frontFree backFree append
  have blank : ∀ c ∈ " ".toList, Text.isBlank c := List.forall_iff_forall_mem.mp (by decide)
  have before := Text.trim_padded "" " " (by simp) blank spaceless named
  have after := Text.trim_padded " " "" blank (by simp) trimmed filled
  rw [String.empty_append] at before
  rw [String.append_empty] at after
  rw [before, after] at cut
  rw [parse, whole]
  dsimp only
  rw [cut]

theorem parse_operands (named : Bare command) (filled : text ≠ "")
    (trimmed : Text.trim text = text) (free : '>' ∉ text.toList) :
    parse (command ++ " " ++ text) =
      ⟨command ++ " " ++ text, command :: Words.ofText text, none⟩ := by
  have long : command.toList ≠ [] := by simpa using named.filled
  obtain ⟨c, rest, letters⟩ := List.exists_cons_of_ne_nil long
  have first : (command ++ " ").toList.head? = some c := by simp [letters]
  have letter := (named.plain c (by simp [letters])).1
  have whole := Text.trim_append first letter trimmed filled
  have one : '>' ∉ (command ++ " " ++ text).toList := by simp [named.not_mem_arrow, free]
  rw [parse, whole]
  dsimp only
  rw [Redirection.split_of_not_mem one, named.ofText_append]

end Invocation

/-- A line that shows words and sends them to a target. -/
structure Echo where
  words : List Quoted
  append : Bool
  filled : words ≠ []
  free : ∀ word ∈ words, '>' ∉ word.text.toList

namespace Echo

def command (echo : Echo) : String := "echo" ++ Quoted.line echo.words

def line (echo : Echo) (target : String) : String :=
  echo.command ++ " " ++ Redirection.arrow echo.append ++ (" " ++ target)

theorem toList_command (echo : Echo) :
    echo.command.toList = "echo".toList ++ echo.words.flatMap Quoted.typed := by
  simp [command, Quoted.line]

theorem ofText_command (echo : Echo) :
    Words.ofText echo.command = "echo" :: echo.words.map Quoted.text := by
  have plain : ∀ c ∈ "echo".toList, ¬ Words.isQuote c ∧ c ≠ ' ' :=
    List.forall_iff_forall_mem.mp (by decide)
  rw [Words.ofText, toList_command, Words.scan_plain plain, Quoted.scan_flatMap_typed]
  rfl

theorem not_mem_command (echo : Echo) : '>' ∉ echo.command.toList := by
  have words : '>' ∉ echo.words.flatMap Quoted.typed := by
    intro member
    obtain ⟨word, listed, inside⟩ := List.mem_flatMap.mp member
    have quote : '>' ≠ word.quote := (Words.ne_arrow_of_isQuote word.isQuote).symm
    have free := echo.free word listed
    simp [Quoted.typed, quote, free] at inside
  simp [toList_command, words]

theorem head?_command (echo : Echo) : echo.command.toList.head? = some 'e' := by
  rw [toList_command]
  rfl

theorem trim_command (echo : Echo) : Text.trim echo.command = echo.command := by
  rw [Text.trim_eq_self_iff]
  constructor
  · intro c first
    rw [head?_command, Option.some.injEq] at first
    rw [← first]
    decide
  · intro c last
    obtain ⟨word, _, quoted⟩ := Quoted.getLast?_flatMap_typed echo.filled
    rw [toList_command, List.getLast?_append, quoted, Option.some_or, Option.some.injEq] at last
    rw [← last]
    exact Words.not_isBlank_of_isQuote word.isQuote

theorem parse_line (echo : Echo) {target : String} (bare : Bare target) :
    Invocation.parse (echo.line target) =
      ⟨echo.line target, "echo" :: echo.words.map Quoted.text, some ⟨target, echo.append⟩⟩ := by
  have parsed := Invocation.parse_arrow (by simp [command]) echo.trim_command echo.not_mem_command
    bare.filled bare.trim bare.not_mem_arrow echo.append
  rwa [echo.ofText_command] at parsed

end Echo

end TreeShell
