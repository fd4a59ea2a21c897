import Mathlib.Data.List.Forall2
import TreeShell.Glob

namespace TreeShell

namespace Regex

def specials : List Char :=
  ['(', ')', '[', ']', '\x7b', '\x7d', '?', '*', '+', '-', '|', '^', '$', '\\', '.', '&', '~', '#',
    ' ', '\t', '\n', '\r', '\x0b', '\x0c']

inductive Piece
  | one (c : Char)
  | any
  | run
  deriving DecidableEq, Repr

def Piece.text : Piece → List Char
  | one c => if c ∈ specials then ['\\', c] else [c]
  | any => ['.']
  | run => ['.', '*']

def readBody : List Char → Option (List Piece)
  | [] => none
  | ['$'] => some []
  | '\\' :: c :: rest => if c ∈ specials then (readBody rest).map (.one c :: ·) else none
  | '.' :: '*' :: rest => (readBody rest).map (.run :: ·)
  | '.' :: rest => (readBody rest).map (.any :: ·)
  | c :: rest => if c ∈ specials then none else (readBody rest).map (.one c :: ·)

def read : List Char → Option (List Piece)
  | '^' :: body => readBody body
  | _ => none

def body (pieces : List Piece) : List Char := pieces.flatMap Piece.text ++ ['$']

def text (pieces : List Piece) : List Char := '^' :: body pieces

/-! ## Reading -/

theorem readBody_plain {c : Char} (plain : c ∉ specials) (rest : List Char) :
    readBody (c :: rest) = (readBody rest).map (.one c :: ·) := by
  have dollar : c ≠ '$' := fun same => plain (same ▸ by decide)
  have backslash : c ≠ '\\' := fun same => plain (same ▸ by decide)
  have dot : c ≠ '.' := fun same => plain (same ▸ by decide)
  rw [readBody]
  · exact if_neg plain
  · exact fun same _ => dollar same
  · exact fun _ _ same _ => backslash same
  · exact fun _ same _ => dot same
  · exact fun same => dot same

theorem readBody_any {rest : List Char} (more : rest.head? ≠ some '*') :
    readBody ('.' :: rest) = (readBody rest).map (.any :: ·) := by
  cases rest with
  | nil => rfl
  | cons c rest =>
    rw [readBody]
    rintro _ ⟨rfl, rfl⟩
    exact more rfl

theorem head?_body (pieces : List Piece) : (body pieces).head? ≠ some '*' := by
  cases pieces with
  | nil => decide
  | cons piece rest =>
    cases piece with
    | any => simp [body, Piece.text]
    | run => simp [body, Piece.text]
    | one c =>
      by_cases special : c ∈ specials
      · simp [body, Piece.text, special]
      · have star : c ≠ '*' := fun same => special (same ▸ by decide)
        simp [body, Piece.text, special, star]

theorem readBody_body (pieces : List Piece) : readBody (body pieces) = some pieces := by
  induction pieces with
  | nil => rfl
  | cons piece rest ih =>
    have whole : body (piece :: rest) = piece.text ++ body rest := by simp [body]
    rw [whole]
    cases piece with
    | run => simp [Piece.text, readBody, ih]
    | any => simp [Piece.text, readBody_any (head?_body rest), ih]
    | one c =>
      by_cases special : c ∈ specials
      · simp [Piece.text, special, readBody, ih]
      · simp [Piece.text, special, readBody_plain special, ih]

theorem read_text (pieces : List Piece) : read (text pieces) = some pieces := readBody_body pieces

/-! ## Accepting -/

def Piece.Spells (text : List Char) : Piece → Prop
  | one c => text = [c]
  | any => ∃ c, c ≠ '\n' ∧ text = [c]
  | run => '\n' ∉ text

/-- A text falls into parts that the pieces stand for, one by one. -/
def Spells : List Piece → List Char → Prop
  | [], text => text = []
  | piece :: rest, text => ∃ before after, text = before ++ after ∧ piece.Spells before ∧
      Spells rest after

/-- An anchored expression accepts a text, or all of it but one line feed at the end. -/
def Accepts (pieces : List Piece) (text : List Char) : Prop :=
  Spells pieces text ∨ ∃ before, text = before ++ ['\n'] ∧ Spells pieces before

end Regex

namespace Glob

open Regex (Piece Spells)

def piece (c : Char) : Piece := if c = '*' then .run else if c = '?' then .any else .one c

def regex (pattern : String) : List Char := Regex.text (pattern.toList.map piece)

theorem afterStar_iff (rest : List Char → Bool) (name : List Char) :
    afterStar rest name ↔
      ∃ before after, name = before ++ after ∧ '\n' ∉ before ∧ rest after := by
  induction name with
  | nil => simp [afterStar, and_assoc]
  | cons c name ih =>
    simp only [afterStar, Bool.or_eq_true, Bool.and_eq_true, decide_eq_true_eq, ih]
    constructor
    · rintro (here | ⟨plain, before, after, rfl, free, found⟩)
      · exact ⟨[], c :: name, rfl, by simp, here⟩
      · exact ⟨c :: before, after, rfl, by simp [free, Ne.symm plain], found⟩
    · rintro ⟨before, after, split, free, found⟩
      cases before with
      | nil =>
        left
        rw [split]
        exact found
      | cons d before =>
        right
        obtain ⟨rfl, rfl⟩ := List.cons.inj split
        rw [List.mem_cons, not_or] at free
        exact ⟨Ne.symm free.1, before, after, rfl, free.2, found⟩

theorem afterOne_iff (accepts : Char → Bool) (rest : List Char → Bool) (name : List Char) :
    afterOne accepts rest name ↔ ∃ c after, name = c :: after ∧ accepts c ∧ rest after := by
  cases name with
  | nil => simp [afterOne]
  | cons c name => simp [afterOne, and_assoc]

theorem covers_iff (pattern name : List Char) :
    covers pattern name ↔ Spells (pattern.map piece) name := by
  induction pattern generalizing name with
  | nil => simp [covers, Spells]
  | cons p pattern ih =>
    rw [List.map_cons, Spells]
    by_cases star : p = '*'
    · simp only [star, covers, afterStar_iff, ih]
      rfl
    by_cases question : p = '?'
    · simp only [question, covers, afterOne_iff, ih, decide_eq_true_eq]
      constructor
      · rintro ⟨c, after, rfl, plain, found⟩
        exact ⟨[c], after, rfl, ⟨c, plain, rfl⟩, found⟩
      · rintro ⟨_, after, rfl, ⟨c, plain, rfl⟩, found⟩
        exact ⟨c, after, rfl, plain, found⟩
    · have itself : piece p = .one p := by simp [piece, star, question]
      have here : covers (p :: pattern) = afterOne (· = p) (covers pattern) := by
        rw [covers]
        · exact star
        · exact question
      rw [here, afterOne_iff, itself]
      simp only [ih, decide_eq_true_eq]
      constructor
      · rintro ⟨_, after, rfl, rfl, found⟩
        exact ⟨_, after, rfl, rfl, found⟩
      · rintro ⟨_, after, rfl, rfl, found⟩
        exact ⟨p, after, rfl, rfl, found⟩

theorem isMatch_iff (pattern name : String) :
    isMatch pattern name ↔ Regex.Accepts (pattern.toList.map piece) name.toList := by
  simp only [isMatch, matchesChars, Bool.or_eq_true, Bool.and_eq_true, decide_eq_true_eq, covers_iff,
    Regex.Accepts]
  apply or_congr Iff.rfl
  constructor
  · rintro ⟨last, found⟩
    obtain ⟨before, whole⟩ := List.getLast?_eq_some_iff.mp last
    rw [whole, List.dropLast_concat] at found
    exact ⟨before, whole, found⟩
  · rintro ⟨before, whole, found⟩
    rw [whole]
    simpa using found

theorem read_regex (pattern : String) :
    ∃ pieces, Regex.read (regex pattern) = some pieces ∧
      ∀ name, isMatch pattern name ↔ Regex.Accepts pieces name.toList :=
  ⟨_, Regex.read_text _, isMatch_iff pattern⟩

example : regex "*.m?" = "^.*\\.m.$".toList := by decide

/-! ## The parts of a name -/

def Takes : Char → List Char → Prop
  | '*', _ => True
  | '?', part => part.length = 1
  | p, part => part = [p]

/-- The whole name falls into parts that the characters of a pattern take, one each and in order. -/
def Splits (pattern name : List Char) : Prop :=
  ∃ parts : List (List Char), name = parts.flatten ∧ List.Forall₂ Takes pattern parts

theorem splits_nil (name : List Char) : Splits [] name ↔ name = [] := by
  constructor
  · rintro ⟨parts, rfl, taken⟩
    rw [List.forall₂_nil_left_iff.mp taken]
    rfl
  · rintro rfl
    exact ⟨[], rfl, .nil⟩

theorem splits_cons (p : Char) (pattern name : List Char) :
    Splits (p :: pattern) name ↔
      ∃ before after, name = before ++ after ∧ Takes p before ∧ Splits pattern after := by
  constructor
  · rintro ⟨parts, rfl, taken⟩
    obtain ⟨part, rest, first, others, rfl⟩ := List.forall₂_cons_left_iff.mp taken
    exact ⟨part, rest.flatten, List.flatten_cons, first, rest, rfl, others⟩
  · rintro ⟨before, _, rfl, first, rest, rfl, others⟩
    exact ⟨before :: rest, List.flatten_cons.symm, .cons first others⟩

theorem spells_piece_iff (p : Char) {part : List Char} (oneLine : '\n' ∉ part) :
    (piece p).Spells part ↔ Takes p part := by
  by_cases star : p = '*'
  · subst star
    exact iff_true_intro oneLine
  by_cases question : p = '?'
  · subst question
    have single : Takes '?' part ↔ part.length = 1 := Iff.rfl
    rw [single, List.length_eq_one_iff]
    constructor
    · rintro ⟨c, _, alone⟩
      exact ⟨c, alone⟩
    · rintro ⟨c, alone⟩
      refine ⟨c, ?_, alone⟩
      rintro rfl
      exact oneLine (by simp [alone])
  · have itself : Takes p part ↔ part = [p] := by
      rw [Takes]
      · exact star
      · exact question
    have plain : piece p = .one p := by simp [piece, star, question]
    rw [itself, plain]
    rfl

theorem spells_iff_splits {pattern name : List Char} (oneLine : '\n' ∉ name) :
    Spells (pattern.map piece) name ↔ Splits pattern name := by
  induction pattern generalizing name with
  | nil => exact (splits_nil name).symm
  | cons p pattern ih =>
    rw [splits_cons, List.map_cons, Spells]
    apply exists₂_congr
    intro before after
    apply and_congr_right
    rintro rfl
    rw [List.mem_append, not_or] at oneLine
    exact and_congr (spells_piece_iff p oneLine.1) (ih oneLine.2)

theorem accepts_iff_spells {expression : List Piece} {text : List Char} (oneLine : '\n' ∉ text) :
    Regex.Accepts expression text ↔ Spells expression text := by
  apply or_iff_left
  rintro ⟨before, rfl, _⟩
  exact oneLine (by simp)

/-- A name without line feeds is matched by a glob, and accepted by the glob's expression, exactly
    when the whole of it falls into parts that the characters of the glob take: a star any part, a
    question mark any single character, and every other character just itself. -/
theorem matches_iff_splits {pattern name : String} (oneLine : '\n' ∉ name.toList) :
    ∃ expression, Regex.read (regex pattern) = some expression ∧
      (Regex.Accepts expression name.toList ↔ Splits pattern.toList name.toList) ∧
      (isMatch pattern name ↔ Splits pattern.toList name.toList) := by
  have accepted : Regex.Accepts (pattern.toList.map piece) name.toList ↔
      Splits pattern.toList name.toList := by
    rw [accepts_iff_spells oneLine, spells_iff_splits oneLine]
  exact ⟨_, Regex.read_text _, accepted, (isMatch_iff pattern name).trans accepted⟩

theorem matches_iff_splits_banana :
    '\n' ∉ "banana+s".toList ∧ isMatch "*a?a+*" "banana+s" ∧ ¬ isMatch "*a?a+*" "banaana" := by
  have oneLine : '\n' ∉ "banana+s".toList := by decide
  obtain ⟨_, _, _, matched⟩ := @matches_iff_splits "*a?a+*" _ oneLine
  refine ⟨oneLine, matched.mpr ?_, by decide +kernel⟩
  exact ⟨[['b', 'a', 'n'], ['a'], ['n'], ['a'], ['+'], ['s']], by decide,
    .cons trivial (.cons rfl (.cons rfl (.cons rfl (.cons rfl (.cons trivial .nil)))))⟩

end Glob

end TreeShell
