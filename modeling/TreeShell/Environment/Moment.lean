import TreeShell.Text.Column

namespace TreeShell

inductive Zone
  | unknown
  | offset (seconds : Int) (name : Option String)
  deriving DecidableEq, Repr

structure Moment where
  year : Nat
  month : Nat
  day : Nat
  hour : Nat
  minute : Nat
  second : Nat
  zone : Zone
  deriving DecidableEq, Repr

namespace Zone

def offsetText (seconds : Int) : String :=
  if seconds = 0 then "UTC"
  else
    let size := seconds.natAbs
    let sign := if seconds < 0 then "-" else "+"
    let clock := Text.twoPlaces (size / 3600) ++ ":" ++ Text.twoPlaces (size / 60 % 60)
    let rest := if size % 60 = 0 then "" else ":" ++ Text.twoPlaces (size % 60)
    "UTC" ++ sign ++ clock ++ rest

def label : Zone → String
  | unknown => "UTC"
  | offset _ (some name) => if name = "" then "UTC" else name
  | offset seconds none => offsetText seconds

end Zone

namespace Moment

def isLeap (year : Nat) : Bool := year % 4 = 0 && (year % 100 ≠ 0 || year % 400 = 0)

def daysBefore : List Nat := [0, 31, 59, 90, 120, 151, 181, 212, 243, 273, 304, 334]

def dayNumber (moment : Moment) : Nat :=
  let past := moment.year - 1
  let leapDay := if 2 < moment.month ∧ isLeap moment.year then 1 else 0
  past * 365 + past / 4 - past / 100 + past / 400 +
    daysBefore.getD (moment.month - 1) 0 + leapDay + moment.day

def weekdayNames : List String := ["Sun", "Mon", "Tue", "Wed", "Thu", "Fri", "Sat"]

def monthNames : List String :=
  ["Jan", "Feb", "Mar", "Apr", "May", "Jun", "Jul", "Aug", "Sep", "Oct", "Nov", "Dec"]

def weekday (moment : Moment) : String := weekdayNames.getD (moment.dayNumber % 7) ""

def monthName (moment : Moment) : String := monthNames.getD (moment.month - 1) ""

def faceHour (moment : Moment) : Nat := if moment.hour % 12 = 0 then 12 else moment.hour % 12

def dateLine (moment : Moment) : String :=
  s!"{moment.weekday} {moment.monthName} {Text.twoPlaces moment.day} " ++
  s!"{Text.twoPlaces moment.hour}:{Text.twoPlaces moment.minute}:{Text.twoPlaces moment.second} " ++
  s!"{moment.zone.label} {moment.year}"

/-- The text that a long listing shows. -/
def stamp (moment : Moment) : String :=
  let half := if moment.hour < 12 then "AM" else "PM"
  s!"{moment.monthName} {moment.day}, {Text.twoPlaces moment.faceHour}:" ++
  s!"{Text.twoPlaces moment.minute} {half}"

end Moment

end TreeShell
