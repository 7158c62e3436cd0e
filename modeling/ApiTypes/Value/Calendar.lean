/-!
# Dates and times

Days of the calendar with years 1 to 9999, and times of day with an optional
distance from universal time in minutes.
-/

set_option autoImplicit false

namespace ApiTypes

structure Date where
  year : Nat
  month : Nat
  day : Nat
  deriving DecidableEq, Repr

structure Moment where
  date : Date
  hour : Nat
  minute : Nat
  second : Nat
  microsecond : Nat
  offset : Option Int
  deriving DecidableEq, Repr

namespace Date

def isLeap (year : Nat) : Bool := year % 4 = 0 && (year % 100 ≠ 0 || year % 400 = 0)

def monthLength (year month : Nat) : Nat :=
  if month = 2 then (if isLeap year then 29 else 28)
  else if month ∈ [4, 6, 9, 11] then 30
  else 31

def isValid (d : Date) : Bool :=
  1 ≤ d.year && d.year ≤ 9999 && 1 ≤ d.month && d.month ≤ 12 &&
    1 ≤ d.day && d.day ≤ monthLength d.year d.month

def daysBeforeYear (year : Nat) : Nat :=
  let n := year - 1
  n * 365 + n / 4 - n / 100 + n / 400

def dayNumber (d : Date) : Nat :=
  daysBeforeYear d.year + ((List.range' 1 (d.month - 1)).map (monthLength d.year)).foldl Nat.add 0 + d.day

def padded (width n : Nat) : String :=
  let digits := Nat.toDigits 10 n
  String.ofList (List.replicate (width - digits.length) '0' ++ digits)

def text (d : Date) : String := padded 4 d.year ++ "-" ++ padded 2 d.month ++ "-" ++ padded 2 d.day

def arguments (d : Date) : List String := [toString d.year, toString d.month, toString d.day]

end Date

namespace Moment

def instant? (m : Moment) : Option Int :=
  m.offset.map fun o =>
    let minutes : Int := m.date.dayNumber * 1440 + m.hour * 60 + m.minute - o
    (minutes * 60 + m.second) * 1000000 + m.microsecond

def offsetText (o : Int) : String :=
  (if o < 0 then "-" else "+") ++ Date.padded 2 (o.natAbs / 60) ++ ":" ++ Date.padded 2 (o.natAbs % 60)

def text (m : Moment) : String :=
  m.date.text ++ " " ++ Date.padded 2 m.hour ++ ":" ++ Date.padded 2 m.minute ++ ":" ++
    Date.padded 2 m.second ++
    (if m.microsecond = 0 then "" else "." ++ Date.padded 6 m.microsecond) ++
    (match m.offset with | none => "" | some o => offsetText o)

def arguments (m : Moment) : List String :=
  m.date.arguments ++ [toString m.hour, toString m.minute] ++
    (if m.microsecond ≠ 0 then [toString m.second, toString m.microsecond]
     else if m.second ≠ 0 then [toString m.second] else []) ++
    (match m.offset with
     | none => []
     | some 0 => ["tzinfo=datetime.timezone.utc"]
     | some o =>
       let seconds := o * 60
       let parts := if seconds < 0 then "days=-1, seconds=" ++ toString (seconds + 86400)
         else "seconds=" ++ toString seconds
       ["tzinfo=datetime.timezone(datetime.timedelta(" ++ parts ++ "))"])

end Moment

end ApiTypes
