/-! # Values of settings files

The values that TOML documents are made of. -/

namespace Scriptlet.Toml

/-- A calendar date. -/
structure Date where
  year : Nat
  month : Nat
  day : Nat
  deriving DecidableEq, Repr

/-- A time of day, with nanoseconds. -/
structure Time where
  hour : Nat
  minute : Nat
  second : Nat
  nanosecond : Nat
  deriving DecidableEq, Repr

/-- How far a time is from universal time. -/
inductive Offset where
  | universal
  /-- Minutes to the east, or to the west if `west`. -/
  | minutes (west : Bool) (n : Nat)
  deriving DecidableEq, Repr

/-- A date, a time, or both with or without an offset. -/
structure Datetime where
  date : Option Date
  time : Option Time
  offset : Option Offset
  deriving DecidableEq, Repr

/-- A value. -/
inductive Value where
  | string (s : String)
  | integer (n : Int)
  /-- A floating-point number as it is written. -/
  | float (written : String)
  | boolean (b : Bool)
  | datetime (d : Datetime)
  | array (items : List Value)
  | table (entries : List (String × Value))

/-! ### Writing dates and times -/

/-- The number with zeros in front, to `width` digits at least. -/
def padded (width n : Nat) : String :=
  let digits := Nat.toDigits 10 n
  String.ofList (List.replicate (width - digits.length) '0' ++ digits)

/-- Year, month and day with minus signs between. -/
def Date.render (d : Date) : String :=
  padded 4 d.year ++ "-" ++ padded 2 d.month ++ "-" ++ padded 2 d.day

/-- The digits of a fraction of nine places without zeros at its end. -/
def fractionDigits (n : Nat) : String :=
  String.ofList (((padded 9 n).toList.reverse.dropWhile (· == '0')).reverse)

/-- Hour, minute and second with colons between, and the fraction of the second if there is one. -/
def Time.render (t : Time) : String :=
  padded 2 t.hour ++ ":" ++ padded 2 t.minute ++ ":" ++ padded 2 t.second
    ++ (if t.nanosecond = 0 then "" else "." ++ fractionDigits t.nanosecond)

/-- `Z`, or a sign, hours and minutes. -/
def Offset.render : Offset → String
  | universal => "Z"
  | minutes west n =>
    (if west && n != 0 then "-" else "+") ++ padded 2 (n / 60) ++ ":" ++ padded 2 (n % 60)

/-- Date and time with a `T` between, and the offset. -/
def Datetime.render (d : Datetime) : String :=
  (d.date.map (·.render)).getD "" ++ (if d.date.isSome && d.time.isSome then "T" else "")
    ++ (d.time.map (·.render)).getD "" ++ (d.offset.map (·.render)).getD ""

end Scriptlet.Toml
