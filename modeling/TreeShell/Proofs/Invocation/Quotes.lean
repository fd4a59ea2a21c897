import TreeShell.Proofs.Invocation.Spelling
import TreeShell.Proofs.Path.Resolve

namespace TreeShell

namespace Words

def quotesIn (words : List String) : Nat := (words.flatMap String.toList).countP isQuote

theorem quotesIn_append (before after : List String) :
    quotesIn (before ++ after) = quotesIn before + quotesIn after := by
  rw [quotesIn, List.flatMap_append, List.countP_append, ← quotesIn, ← quotesIn]

theorem flatMap_toList_finish (begun : List Char) :
    (finish begun).flatMap String.toList = begun := by
  by_cases empty : begun = [] <;> simp [finish, empty]

theorem quotesIn_finish (begun : List Char) : quotesIn (finish begun) = begun.countP isQuote := by
  rw [quotesIn, flatMap_toList_finish]

theorem quotesIn_scan_le (quote : Option Char) (begun text : List Char) :
    quotesIn (scan quote begun text) ≤ begun.countP isQuote + text.countP isQuote := by
  induction text generalizing quote begun with
  | nil => rw [scan, quotesIn_finish, List.countP_nil, Nat.add_zero]
  | cons c rest ih =>
    rw [scan, List.countP_cons]
    split
    · have later := ih (if quote = none then some c else none) begun
      omega
    · split
      · have later := ih none []
        rw [List.countP_nil] at later
        rw [quotesIn_append, quotesIn_finish]
        omega
      · have later := ih quote (begun ++ [c])
        rw [List.countP_append, List.countP_singleton] at later
        omega

/-- Outside quotes the next quote character is not kept. -/
theorem quotesIn_scan_lt {text : List Char} (quoted : ∃ c ∈ text, isQuote c) (begun : List Char) :
    quotesIn (scan none begun text) < begun.countP isQuote + text.countP isQuote := by
  induction text generalizing begun with
  | nil => simp at quoted
  | cons c rest ih =>
    by_cases quote : isQuote c
    · have opened : scan none begun (c :: rest) = scan (some c) begun rest := by simp [scan, quote]
      have later := quotesIn_scan_le (some c) begun rest
      rw [opened, List.countP_cons_of_pos quote]
      omega
    · have others : ∃ c ∈ rest, isQuote c := by simpa [quote] using quoted
      rw [List.countP_cons_of_neg quote]
      by_cases space : c = ' '
      · have later := ih others []
        rw [List.countP_nil] at later
        rw [space, scan_space, quotesIn_append, quotesIn_finish]
        omega
      · have kept : scan none begun (c :: rest) = scan none (begun ++ [c]) rest := by
          simp [scan, quote, space]
        have later := ih others (begun ++ [c])
        rw [List.countP_append, List.countP_cons_of_neg quote, List.countP_nil] at later
        rw [kept]
        omega

theorem head?_scan (quote : Option Char) (c : Char) (begun text : List Char) :
    ∃ word rest, scan quote (c :: begun) text = word :: rest ∧ word.toList.head? = some c := by
  induction text generalizing quote begun with
  | nil => exact ⟨String.ofList (c :: begun), [], by simp [scan, finish], by simp⟩
  | cons next text ih =>
    rw [scan]
    split
    · exact ih _ begun
    · split
      · exact ⟨String.ofList (c :: begun), scan none [] text, by simp [finish], by simp⟩
      · exact ih quote (begun ++ [next])

theorem head?_of_ofText {text word : String} {rest : List String} {c : Char}
    (words : ofText text = word :: rest) (first : text.toList.head? = some c)
    (noQuote : ¬ isQuote c) (noSpace : c ≠ ' ') : word.toList.head? = some c := by
  obtain ⟨others, whole⟩ := List.head?_eq_some_iff.mp first
  have begun : ofText text = scan none [c] others := by
    simp [ofText, whole, scan, noQuote, noSpace]
  obtain ⟨kept, later, scanned, start⟩ := head?_scan none c [] others
  rw [begun, scanned] at words
  rwa [← (List.cons.inj words).1]

theorem flatMap_toList_scan {text : List Char} (plain : ∀ c ∈ text, ¬ isQuote c)
    (begun : List Char) :
    (scan none begun text).flatMap String.toList = begun ++ text.filter (· ≠ ' ') := by
  induction text generalizing begun with
  | nil => rw [scan, flatMap_toList_finish, List.filter_nil, List.append_nil]
  | cons c rest ih =>
    obtain ⟨noQuote, others⟩ := List.forall_mem_cons.mp plain
    by_cases space : c = ' '
    · rw [space, scan_space, List.flatMap_append, flatMap_toList_finish, ih others]
      simp
    · have kept : scan none begun (c :: rest) = scan none (begun ++ [c]) rest := by
        simp [scan, noQuote, space]
      rw [kept, ih others]
      simp [space]

variable {text word : String}

theorem not_mem_of_ofText (plain : ∀ c ∈ text.toList, ¬ isQuote c)
    (trimmed : Text.trim text = text) (one : ofText text = [word]) : ' ' ∉ text.toList := by
  intro space
  -- A first word would end at the first space, and another one start before the end.
  obtain ⟨before, after, whole, free⟩ := List.eq_append_cons_of_mem space
  obtain ⟨first, last⟩ := Text.trim_eq_self_iff.mp trimmed
  rw [whole] at plain first last
  have blank : Text.isBlank ' ' := by decide
  have filled : before ≠ [] := by
    intro empty
    exact first ' ' (by simp [empty]) blank
  have apart : ∀ c ∈ before, ¬ isQuote c ∧ c ≠ ' ' := fun c member =>
    ⟨plain c (by simp [member]), fun same => free (same ▸ member)⟩
  have words : ofText text = String.ofList before :: scan none [] after := by
    rw [ofText, whole, scan_plain apart, List.nil_append, scan_space, finish, if_neg filled]
    rfl
  have none : scan none [] after = [] := by
    rw [words] at one
    exact (List.cons.inj one).2
  have plainAfter : ∀ c ∈ after, ¬ isQuote c := fun c member => plain c (by simp [member])
  have spaces := flatMap_toList_scan plainAfter []
  rw [none, List.flatMap_nil, List.nil_append, eq_comm, List.filter_eq_nil_iff] at spaces
  have filledAfter := List.cons_ne_nil ' ' after
  have final : (' ' :: after).getLast filledAfter = ' ' := by
    rcases List.mem_cons.mp (List.getLast_mem filledAfter) with same | behind
    · exact same
    · simpa using spaces _ behind
  have ends : (before ++ ' ' :: after).getLast? = some ' ' := by
    rw [List.getLast?_append, List.getLast?_eq_some_getLast filledAfter, final, Option.some_or]
  exact last ' ' ends blank

theorem eq_of_ofText (plain : ∀ c ∈ text.toList, ¬ isQuote c) (trimmed : Text.trim text = text)
    (one : ofText text = [word]) : word = text := by
  have solid : text.toList.filter (· ≠ ' ') = text.toList := by
    rw [List.filter_eq_self]
    intro c member
    have other : c ≠ ' ' := fun same => not_mem_of_ofText plain trimmed one (same ▸ member)
    simpa using other
  have kept := flatMap_toList_scan plain []
  rw [← ofText, one, List.flatMap_singleton, List.nil_append, solid] at kept
  exact String.toList_inj.mp kept

def around (c : Char) : Char := if c = '"' then '\'' else '"'

theorem isQuote_around (c : Char) : isQuote (around c) := by
  unfold around
  split <;> decide

theorem around_ne (c : Char) : around c ≠ c := by
  unfold around
  split
  · rename_i same
    rw [same]
    decide
  · rename_i other
    exact Ne.symm other

def quotedOne (c : Char) : Segment :=
  .quoted ⟨around c, [c], isQuote_around c, by simp [around_ne]⟩

/-- A text as a command of one word, with every character in quotes of its own. -/
def spell (text : String) (filled : text ≠ "") : Spelling :=
  ⟨0, [], .last ⟨text.toList.map quotedOne, by simpa using filled⟩⟩

variable (filled : text ≠ "")

theorem words_spell : (spell text filled).words = [text] := by
  have value : (text.toList.map quotedOne).flatMap Segment.value = text.toList := by
    simp [List.flatMap_map, quotedOne, Segment.value]
  simp [Spelling.words, Spelling.values, spell, Ending.values, Word.value, value, filled]

theorem toList_spell : (spell text filled).text.toList =
    text.toList.flatMap fun c => [around c, c, around c] := by
  simp [Spelling.text, Spelling.typed, Spelling.spaces, spell, Ending.typed, Word.typed,
    List.flatMap_map, quotedOne, Segment.typed]

theorem trim_spell : Text.trim (spell text filled).text = (spell text filled).text := by
  have solid (c : Char) := not_isBlank_of_isQuote (isQuote_around c)
  have long : text.toList ≠ [] := by simpa using filled
  rw [Text.trim_eq_self_iff, toList_spell]
  constructor
  · obtain ⟨c, rest, whole⟩ := List.exists_cons_of_ne_nil long
    intro first start
    rw [whole, List.flatMap_cons, List.head?_append, List.head?_cons, Option.some_or] at start
    rw [← Option.some.inj start]
    exact solid c
  · obtain ⟨front, c, whole⟩ := List.eq_nil_or_concat text.toList |>.resolve_left long
    intro last finish
    rw [whole, List.concat_eq_append, List.flatMap_append, List.flatMap_singleton,
      List.getLast?_append] at finish
    rw [← Option.some.inj finish]
    exact solid c

end Words

theorem Invocation.exists_line {name : String} (filled : name ≠ "") (free : '>' ∉ name.toList) :
    ∃ line, parse line = ⟨line, [name], none⟩ := by
  have apart (c : Char) : '>' ≠ Words.around c :=
    (Words.ne_arrow_of_isQuote (Words.isQuote_around c)).symm
  have one : '>' ∉ (Words.spell name filled).text.toList := by
    rw [Words.toList_spell]
    intro member
    obtain ⟨c, listed, inside⟩ := List.mem_flatMap.mp member
    simp [apart] at inside
    exact free (inside ▸ listed)
  refine ⟨(Words.spell name filled).text, ?_⟩
  rw [parse, Words.trim_spell]
  dsimp only
  rw [Redirection.split_of_not_mem one, Words.ofText_text, Words.words_spell]

theorem Path.resolve_text_iff {text word : String} (trimmed : Text.trim text = text)
    (one : Words.ofText text = [word]) (directory : Path) :
    resolve text directory = resolve word directory ↔
      ∀ c ∈ text.toList, ¬ Words.isQuote c := by
  constructor
  · intro same c member quote
    have fewer : word.toList.countP Words.isQuote < text.toList.countP Words.isQuote := by
      have taken := Words.quotesIn_scan_lt ⟨c, member, quote⟩ []
      rw [← Words.ofText, one] at taken
      simpa [Words.quotesIn] using taken
    have slash : ¬ Words.isQuote '/' := by decide
    have kept : Absolute text → Absolute word := fun first =>
      Words.head?_of_ofText one first slash (by decide)
    have counted := congrArg (fun path => path.toList.countP Words.isQuote) same
    simp only [countP_resolve slash] at counted
    split at counted
    · rename_i absolute
      rw [if_pos (kept absolute)] at counted
      omega
    · split at counted <;> omega
  · intro plain
    rw [Words.eq_of_ofText plain trimmed one]

end TreeShell
