import TreeShell.Json.Basic
import TreeShell.Json.Numeral

namespace TreeShell.Schema

inductive Step
  | field (name : String)
  | index (place : Nat)
  deriving DecidableEq, Repr

def Step.text : Step → String
  | .field name => name
  | .index place => toString place

inductive Cause
  | missing
  | notText
  | notList
  | notInteger
  | unreadableInteger
  | oversizedInteger
  | fractionalInteger
  | notFinite
  | tooSmall (least : Int)
  | notBoolean
  | unreadableBoolean
  | noEntryKind
  | notHistoryEntry
  | notRequest
  | unreadableDocument
  | brokenTree (issues : String)
  deriving DecidableEq, Repr

def Cause.message : Cause → String
  | .missing => "Field required"
  | .notText => "Input should be a valid string"
  | .notList => "Input should be a valid list"
  | .notInteger => "Input should be a valid integer"
  | .unreadableInteger => "Input should be a valid integer, unable to parse string as an integer"
  | .oversizedInteger => "Unable to parse input string as an integer, exceeded maximum size"
  | .fractionalInteger => "Input should be a valid integer, got a number with a fractional part"
  | .notFinite => "Input should be a finite number"
  | .tooSmall least => s!"Input should be greater than or equal to {least}"
  | .notBoolean => "Input should be a valid boolean"
  | .unreadableBoolean => "Input should be a valid boolean, unable to interpret input"
  | .noEntryKind => "Input should be 'file' or 'folder'"
  | .notHistoryEntry =>
    "Input should be a valid dictionary or instance of HistoryEntryResponse"
  | .notRequest => "Input should be a valid dictionary or object to extract fields from"
  | .unreadableDocument => "JSON decode error"
  | .brokenTree issues => issues

def Cause.tag : Cause → String
  | .missing => "missing"
  | .notText => "string_type"
  | .notList => "list_type"
  | .notInteger => "int_type"
  | .unreadableInteger => "int_parsing"
  | .oversizedInteger => "int_parsing_size"
  | .fractionalInteger => "int_from_float"
  | .notFinite => "finite_number"
  | .tooSmall _ => "greater_than_equal"
  | .notBoolean => "bool_type"
  | .unreadableBoolean => "bool_parsing"
  | .noEntryKind => "literal_error"
  | .notHistoryEntry => "model_type"
  | .notRequest => "model_attributes_type"
  | .unreadableDocument => "json_invalid"
  | .brokenTree _ => "value_error"

structure Issue where
  location : List Step
  cause : Cause
  deriving DecidableEq, Repr

def Issue.text (issue : Issue) : String :=
  if issue.location = [] then issue.cause.message
  else Text.join "." (issue.location.map Step.text) ++ ": " ++ issue.cause.message

def summary (issues : List Issue) : String := Text.join "; " (issues.map Issue.text)

def Issue.under (step : Step) (issue : Issue) : Issue :=
  { issue with location := step :: issue.location }

/-- A typed value, or all that is wrong with the document. It stands for what a library for checked
    models tells: the kind, the place and the message of each issue, without its context. -/
abbrev Checked (α : Type) := Except (List Issue) α

def fail {α : Type} (cause : Cause) : Checked α := .error [⟨[], cause⟩]

def build {α : Type} (value : α) : Checked α := .ok value

/-- Applies a checked function; the issues of both sides are kept. -/
def Checked.apply {α β : Type} (function : Checked (α → β)) (argument : Checked α) : Checked β :=
  match function, argument with
  | .ok function, .ok argument => .ok (function argument)
  | .ok _, .error issues => .error issues
  | .error issues, .ok _ => .error issues
  | .error first, .error second => .error (first ++ second)

def valueAt? (document : Json) : List Step → Option Json
  | [] => some document
  | .field name :: rest => (document.get? name).bind (valueAt? · rest)
  | .index place :: rest => match document with
    | .array items => items[place]?.bind (valueAt? · rest)
    | _ => none

/-- The value that an issue is about: the one at its place, or the one that lacks a field. -/
def Issue.subject (document : Json) (issue : Issue) : Json :=
  let place := if issue.cause = .missing then issue.location.dropLast else issue.location
  (valueAt? document place).getD .null

def under {α : Type} (step : Step) (checked : Checked α) : Checked α :=
  checked.mapError (·.map (Issue.under step))

def required {α : Type} (check : Json → Checked α) (fields : List (String × Json)) (name : String) :
    Checked α :=
  under (.field name) (match Json.field? name fields with
    | none => fail .missing
    | some value => check value)

def optional {α : Type} (check : Json → Checked α) (fields : List (String × Json)) (name : String) :
    Checked (Option α) :=
  under (.field name) (match Json.field? name fields with
    | none | some .null => .ok none
    | some value => (check value).map some)

def text : Json → Checked String
  | .string value => .ok value
  | _ => fail .notText

def itemsFrom {α : Type} (check : Json → Checked α) : Nat → List Json → Checked (List α)
  | _, [] => .ok []
  | place, item :: rest =>
    build List.cons |>.apply (under (.index place) (check item))
      |>.apply (itemsFrom check (place + 1) rest)

def list {α : Type} (check : Json → Checked α) : Json → Checked (List α)
  | .array items => itemsFrom check 0 items
  | _ => fail .notList

theorem itemsFrom_map {α : Type} (check : Json → Checked α) (write : α → Json)
    (read : ∀ value, check (write value) = .ok value) (place : Nat) (values : List α) :
    itemsFrom check place (values.map write) = .ok values := by
  induction values generalizing place with
  | nil => rfl
  | cons value rest ih =>
    simp only [List.map_cons, itemsFrom, read, ih]
    rfl

theorem list_map {α : Type} (check : Json → Checked α) (write : α → Json) (values : List α)
    (read : ∀ value, check (write value) = .ok value) :
    list check (.array (values.map write)) = .ok values :=
  itemsFrom_map check write read 0 values

def wholeValue? (negative : Bool) (mantissa : Nat) (exponent : Int) : Option Int :=
  let (num, den) := Binary64.ratio mantissa exponent
  if num % den = 0 then some (Text.signed negative (num / den)) else none

def wordBound : Int := 0x8000000000000000

/-- A whole number, taken from a floating-point one only where it lies between the bounds of a
    machine word. -/
def integer : Json → Checked Int
  | .number (.integer value) => .ok value
  | .number (.real (.finite negative mantissa exponent)) =>
    match wholeValue? negative mantissa exponent with
    | some value =>
      if -wordBound < value ∧ value < wordBound then .ok value else fail .oversizedInteger
    | none => fail .fractionalInteger
  | .number (.real _) => fail .notFinite
  | .bool value => .ok (if value then 1 else 0)
  | .string value =>
    match Json.Numeral.read value with
    | .ok value => .ok value
    | .error .unreadable => fail .unreadableInteger
    | .error .tooLong => fail .oversizedInteger
  | _ => fail .notInteger

def integerFrom (least : Int) (value : Json) : Checked Int :=
  match integer value with
  | .ok value => if value < least then fail (.tooSmall least) else .ok value
  | .error issues => .error issues

def trueWords : List String := ["1", "on", "t", "true", "y", "yes"]

def falseWords : List String := ["0", "off", "f", "false", "n", "no"]

/-- The truth value that a number means: one or zero. Other whole numbers of a machine word mean
    none, and whatever else is a number is not even taken for one. -/
def truthOfNumber (value : Number) : Checked Bool :=
  match integer (.number value) with
  | .ok 0 => .ok false
  | .ok 1 => .ok true
  | .ok value =>
    if -wordBound ≤ value ∧ value < wordBound then fail .unreadableBoolean else fail .notBoolean
  | .error _ => fail .notBoolean

def boolean : Json → Checked Bool
  | .bool value => .ok value
  | .number value => truthOfNumber value
  | .string value =>
    let word := value.toLower
    if trueWords.contains word then .ok true
    else if falseWords.contains word then .ok false
    else fail .unreadableBoolean
  | _ => fail .notBoolean

end TreeShell.Schema
