import TreeShell.Json.Basic
import TreeShell.Json.Encoding
import TreeShell.OrderedMap

namespace TreeShell.Json

inductive ReadError
  /-- The bytes stand for no characters in the encoding that the first of them show. -/
  | undecodable
  | malformed (offset : Nat)
  | integerTooLong (digits : Nat)
  | tooDeep
  deriving DecidableEq, Repr

def tooManyDigits (digits : Nat) : String :=
  s!"Exceeds the limit ({Text.digitLimit} digits) for integer string conversion: " ++
    s!"value has {digits} digits; use sys.set_int_max_str_digits() to increase the limit"

namespace Reader

/-- Where reading stopped: the rest of the text that could not be read, a number too long, or a
    bracket too deep. -/
inductive Stop
  | stuck (rest : List Char)
  | integerTooLong (digits : Nat)
  | tooDeep

abbrev Read (α : Type) := Except Stop (α × List Char)

def isSpace (c : Char) : Bool := c == ' ' || c == '\t' || c == '\n' || c == '\r'

def skipSpace (text : List Char) : List Char := text.dropWhile isSpace

def fourHex? : List Char → Option (Nat × List Char)
  | a :: b :: c :: d :: e :: rest => do
    let high := (← Text.hexValue? a) * 16 + (← Text.hexValue? b)
    let low := (← Text.hexValue? c) * 16 + (← Text.hexValue? d)
    return (high * 256 + low, e :: rest)
  | _ => none

/-- Reads a numbered escape behind its letter. Two escapes in a row may form one character. -/
def numberedEscape (text : List Char) : Read Char :=
  match fourHex? text with
  | none => .error (.stuck ('u' :: text))
  | some (unit, rest) =>
    match rest with
    | '\\' :: 'u' :: second =>
      if Text.isHighHalf unit && 5 ≤ second.length then
        match fourHex? second with
        | none => .error (.stuck ('u' :: second))
        | some (low, after) =>
          if Text.isLowHalf low then .ok (Text.joinHalves unit low, after)
          else .ok (Text.unitChar unit, rest)
      else .ok (Text.unitChar unit, rest)
    | _ => .ok (Text.unitChar unit, rest)

def shortEscape? : Char → Option Char
  | '"' => some '"'
  | '\\' => some '\\'
  | '/' => some '/'
  | 'b' => some '\x08'
  | 'f' => some '\x0c'
  | 'n' => some '\n'
  | 'r' => some '\r'
  | 't' => some '\t'
  | _ => none

def stringBody (opening : List Char) : Nat → List Char → List Char → Read String
  | 0, _, _ => .error (.stuck opening)
  | fuel + 1, done, text =>
    match text with
    | [] => .error (.stuck opening)
    | '"' :: rest => .ok (String.ofList done.reverse, rest)
    | '\\' :: [] => .error (.stuck opening)
    | '\\' :: 'u' :: rest =>
      match numberedEscape rest with
      | .error stop => .error stop
      | .ok (c, rest) => stringBody opening fuel (c :: done) rest
    | '\\' :: c :: rest =>
      match shortEscape? c with
      | none => .error (.stuck ('\\' :: c :: rest))
      | some c => stringBody opening fuel (c :: done) rest
    | c :: rest =>
      if c.toNat < 0x20 then .error (.stuck (c :: rest))
      else stringBody opening fuel (c :: done) rest

def string (text : List Char) : Read String := stringBody ('"' :: text) (text.length + 1) [] text

def digitsOf (text : List Char) : List Nat × List Char :=
  ((text.takeWhile Char.isDigit).filterMap Text.asciiDigit?, text.dropWhile Char.isDigit)

def fraction (text : List Char) : Option (List Nat × List Char) :=
  match text with
  | '.' :: rest =>
    let (digits, rest) := digitsOf rest
    if digits = [] then none else some (digits, rest)
  | _ => none

def power (text : List Char) : Option (Int × List Char) :=
  match text with
  | [] => none
  | letter :: rest =>
    if letter = 'e' ∨ letter = 'E' then
      let (negative, rest) := Text.takeSign rest
      let (digits, rest) := digitsOf rest
      if digits = [] then none else some (Text.signed negative (Text.ofDigits digits), rest)
    else none

def unsignedNumber (start : List Char) (negative : Bool) (text : List Char) : Read Number :=
  let (whole, rest) := match text with
    | '0' :: rest => ([0], rest)
    | _ => digitsOf text
  if whole = [] then .error (.stuck start)
  else
    let part := fraction rest
    let rest := (part.map Prod.snd).getD rest
    let ten := power rest
    let rest := (ten.map Prod.snd).getD rest
    match part, ten with
    | none, none =>
      if whole.length ≤ Text.digitLimit then
        .ok (.integer (Text.signed negative (Text.ofDigits whole)), rest)
      else .error (.integerTooLong whole.length)
    | _, _ =>
      let digits := (part.map Prod.fst).getD []
      let exponent := (ten.map Prod.fst).getD 0
      .ok (.real (Number.ofParts negative whole digits exponent), rest)

def takeWord? (word : String) (text : List Char) : Option (List Char) :=
  if word.toList.isPrefixOf text then some (text.drop word.length) else none

def constants : List (String × Json) := [
  ("null", null), ("true", bool true), ("false", bool false),
  ("NaN", number (.real .nan)), ("Infinity", number (.real (.infinite false))),
  ("-Infinity", number (.real (.infinite true)))]

def constant? (text : List Char) : Option (Json × List Char) :=
  constants.findSome? fun (word, value) => (takeWord? word text).map fun rest => (value, rest)

def scalar (text : List Char) : Read Json :=
  match constant? text with
  | some found => .ok found
  | none =>
    let (negative, body) := match text with
      | '-' :: rest => (true, rest)
      | _ => (false, text)
    (unsignedNumber text negative body).map fun (value, rest) => (number value, rest)

mutual

/-- Reads the value at the front of a text, in which `room` brackets may be opened inside each
    other. -/
def value (room : Nat) : Nat → List Char → Read Json
  | 0, text => .error (.stuck text)
  | fuel + 1, text =>
    match text with
    | '"' :: rest => (string rest).map fun (value, rest) => (Json.string value, rest)
    | '[' :: rest =>
      if room = 0 then .error .tooDeep
      else match skipSpace rest with
        | ']' :: rest => .ok (array [], rest)
        | rest => (items (room - 1) fuel rest).map fun (values, rest) => (array values, rest)
    | '{' :: rest =>
      if room = 0 then .error .tooDeep
      else match skipSpace rest with
        | '}' :: rest => .ok (object [], rest)
        | rest =>
          (fields (room - 1) fuel [] rest).map fun (members, rest) => (object members, rest)
    | _ => scalar text

def items (room : Nat) : Nat → List Char → Read (List Json)
  | 0, text => .error (.stuck text)
  | fuel + 1, text =>
    match value room fuel text with
    | .error stop => .error stop
    | .ok (first, rest) =>
      match skipSpace rest with
      | ']' :: rest => .ok ([first], rest)
      | ',' :: rest =>
        (items room fuel (skipSpace rest)).map fun (others, rest) => (first :: others, rest)
      | rest => .error (.stuck rest)

/-- Reads the fields of an object up to its closing brace. Of two fields of one name the later value
    counts, at the earlier place. -/
def fields (room : Nat) :
    Nat → List (String × Json) → List Char → Read (List (String × Json))
  | 0, _, text => .error (.stuck text)
  | fuel + 1, done, text =>
    match text with
    | '"' :: rest =>
      match string rest with
      | .error stop => .error stop
      | .ok (name, rest) =>
        match skipSpace rest with
        | ':' :: rest =>
          match value room fuel (skipSpace rest) with
          | .error stop => .error stop
          | .ok (content, rest) =>
            let done := OrderedMap.put name content done
            match skipSpace rest with
            | '}' :: rest => .ok (done, rest)
            | ',' :: rest => fields room fuel done (skipSpace rest)
            | rest => .error (.stuck rest)
        | rest => .error (.stuck rest)
    | rest => .error (.stuck rest)

end

def whole (room : Nat) (text : List Char) : Except Stop Json :=
  match value room (2 * text.length + 2) (skipSpace text) with
  | .error stop => .error stop
  | .ok (found, rest) =>
    match skipSpace rest with
    | [] => .ok found
    | rest => .error (.stuck rest)

end Reader

def ofChars (room : Nat) (text : List Char) : Except ReadError Json :=
  match Reader.whole room text with
  | .ok value => .ok value
  | .error (.stuck rest) => .error (.malformed (text.length - rest.length))
  | .error (.integerTooLong digits) => .error (.integerTooLong digits)
  | .error .tooDeep => .error .tooDeep

/-- Reads a document that may start with a byte order mark, or else may be in a wide encoding. How
    many brackets may be opened inside each other is the reader's own limit. -/
def read (room : Nat) (text : String) : Except ReadError Json :=
  match text.toList with
  | '\uFEFF' :: rest => ofChars room rest
  | chars =>
    match Encoding.decode? chars with
    | some chars => ofChars room chars
    | none => .error .undecodable

end TreeShell.Json
