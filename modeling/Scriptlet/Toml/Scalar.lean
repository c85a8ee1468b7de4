import Scriptlet.Toml.Value

/-! # Numbers, dates and truth values

The values that are written without quotes. Each is a run of letters, digits and a few signs, read as
a whole. -/

namespace Scriptlet.Toml

/-- A character of a value without quotes. -/
def isScalarChar (c : Char) : Bool :=
  c.isAlphanum || c == '+' || c == '-' || c == '.' || c == '_' || c == ':'

/-! ### Digits -/

/-- The digits of a run with single underscores between digits, underscores left out. -/
def digitsOf (isDigit : Char → Bool) : List Char → Option (List Char)
  | [] => none
  | [c] => if isDigit c then some [c] else none
  | c :: '_' :: cs => if isDigit c then (digitsOf isDigit cs).map (c :: ·) else none
  | c :: cs => if isDigit c then (digitsOf isDigit cs).map (c :: ·) else none

/-- The value of a digit of any base. -/
def digitValue (c : Char) : Nat :=
  if c.isDigit then c.toNat - 48 else if c.isLower then c.toNat - 87 else c.toNat - 55

/-- The value of digits in a base. -/
def valueOf (base : Nat) (ds : List Char) : Nat :=
  ds.foldl (fun n d => base * n + digitValue d) 0

/-- The run is exactly `n` decimal digits: their value. -/
def exactly (n : Nat) (cs : List Char) : Option Nat :=
  if cs.length = n && cs.all Char.isDigit then some (valueOf 10 cs) else none

/-- A sign in front of a run, and whether it is a minus. -/
def takeSign : List Char → Bool × List Char
  | '+' :: cs => (false, cs)
  | '-' :: cs => (true, cs)
  | cs => (false, cs)

/-- Decimal digits without a zero in front of others. -/
def wholeDigits (cs : List Char) : Option (List Char) :=
  match digitsOf Char.isDigit cs with
  | some ('0' :: _ :: _) => none
  | ds => ds

/-! ### Integers -/

/-- The integer, if it fits into 64 bits. -/
def fitting (n : Int) : Option Value :=
  if -0x8000000000000000 ≤ n ∧ n < 0x8000000000000000 then some (.integer n) else none

/-- Digits of a base behind its two signs. -/
def basedInteger (base : Nat) (isDigit : Char → Bool) (cs : List Char) : Option Value :=
  (digitsOf isDigit cs).bind fun ds => fitting (valueOf base ds)

/-- A hexadecimal digit in either case. -/
def isHexDigit (c : Char) : Bool :=
  c.isDigit || ('a' ≤ c && c ≤ 'f') || ('A' ≤ c && c ≤ 'F')

/-- A run as an integer. -/
def integer? (cs : List Char) : Option Value :=
  match cs with
  | '0' :: 'x' :: ds => basedInteger 16 isHexDigit ds
  | '0' :: 'o' :: ds => basedInteger 8 (fun c => '0' ≤ c && c ≤ '7') ds
  | '0' :: 'b' :: ds => basedInteger 2 (fun c => c == '0' || c == '1') ds
  | cs =>
    let (negative, ds) := takeSign cs
    (wholeDigits ds).bind fun ds =>
      fitting (if negative then -(valueOf 10 ds : Int) else (valueOf 10 ds : Int))

/-! ### Floating-point numbers -/

/-- Decimal numbers from this one on are nearer to infinity than to any number of 64 bits. -/
def floatBound : Nat := (1 <<< 1024) - (1 <<< 970)

/-- Digits times a power of ten are at least `floatBound`. -/
def overflows (ds : List Char) (exponent : Int) : Bool :=
  let n := valueOf 10 ds
  let magnitude := (Nat.toDigits 10 n).length + exponent
  if n = 0 ∨ magnitude < 300 then false
  else if 320 < magnitude then true
  else if 0 ≤ exponent then floatBound ≤ n * Nat.pow 10 exponent.toNat
  else floatBound * Nat.pow 10 (-exponent).toNat ≤ n

/-- A decimal exponent with or without a sign. -/
def exponentOf (cs : List Char) : Option Int :=
  let (negative, ds) := takeSign cs
  (digitsOf Char.isDigit ds).map fun ds =>
    if negative then -(valueOf 10 ds : Int) else (valueOf 10 ds : Int)

/-- The run is part of a number before its exponent. -/
def beforeExponent (c : Char) : Bool := c != 'e' && c != 'E'

/-- A run as a floating-point number: with a fraction, an exponent, or both. Positive numbers too
large are refused. -/
def float? (cs : List Char) : Option Value := do
  let (negative, ds) := takeSign cs
  let named := ds == ['i', 'n', 'f'] || ds == ['n', 'a', 'n']
  if named then some (.float (String.ofList cs))
  else
    let mantissa := ds.takeWhile beforeExponent
    let exponent ← match ds.dropWhile beforeExponent with
      | [] => some 0
      | _ :: e => exponentOf e
    let whole ← wholeDigits (mantissa.takeWhile (· != '.'))
    let fraction ← match mantissa.dropWhile (· != '.') with
      | [] => if ds.all beforeExponent then none else some []
      | _ :: f => digitsOf Char.isDigit f
    if !negative && overflows (whole ++ fraction) (exponent - fraction.length) then none
    else some (.float (String.ofList cs))

/-! ### Dates and times -/

/-- Divisible by four, except for centuries that are not divisible by four hundred. -/
def isLeapYear (y : Nat) : Bool :=
  y % 4 == 0 && (y % 100 != 0 || y % 400 == 0)

/-- The number of days of a month. -/
def daysIn (year month : Nat) : Nat :=
  if month = 2 then (if isLeapYear year then 29 else 28)
  else if month = 4 ∨ month = 6 ∨ month = 9 ∨ month = 11 then 30
  else 31

/-- A run of ten characters as a date. -/
def date? (cs : List Char) : Option Date := do
  let year ← exactly 4 (cs.take 4)
  let month ← exactly 2 ((cs.drop 5).take 2)
  let day ← exactly 2 (cs.drop 8)
  if cs[4]? = some '-' ∧ cs[7]? = some '-' ∧ 1 ≤ month ∧ month ≤ 12 ∧ 1 ≤ day ∧ day ≤ daysIn year month
  then some ⟨year, month, day⟩ else none

/-- The nanoseconds of a fraction of a second; places beyond the ninth do not count. -/
def nanoseconds (ds : List Char) : Nat :=
  valueOf 10 ((ds ++ List.replicate 9 '0').take 9)

/-- A run as a time of day. -/
def time? (cs : List Char) : Option Time := do
  let hour ← exactly 2 (cs.take 2)
  let minute ← exactly 2 ((cs.drop 3).take 2)
  let second ← exactly 2 ((cs.drop 6).take 2)
  let fraction ← match cs.drop 8 with
    | [] => some []
    | '.' :: d :: ds => if (d :: ds).all Char.isDigit then some (d :: ds) else none
    | _ => none
  if cs[2]? = some ':' ∧ cs[5]? = some ':' ∧ hour ≤ 23 ∧ minute ≤ 59 ∧ second ≤ 60
  then some ⟨hour, minute, second, nanoseconds fraction⟩ else none

/-- A run as a numeric offset, without its sign. -/
def offsetMinutes? (cs : List Char) : Option Nat := do
  let hour ← exactly 2 (cs.take 2)
  let minute ← exactly 2 (cs.drop 3)
  if cs[2]? = some ':' ∧ hour ≤ 23 ∧ minute ≤ 59 then some (60 * hour + minute) else none

/-- A character of a time before its offset. -/
def beforeOffset (c : Char) : Bool := c.isDigit || c == ':' || c == '.'

/-- A run as a time of day with an offset or without. -/
def offsetTime? (cs : List Char) : Option (Time × Option Offset) := do
  let time ← time? (cs.takeWhile beforeOffset)
  match cs.dropWhile beforeOffset with
  | [] => some (time, none)
  | ['Z'] => some (time, some .universal)
  | ['z'] => some (time, some .universal)
  | '+' :: ds => (offsetMinutes? ds).map fun n => (time, some (.minutes false n))
  | '-' :: ds => (offsetMinutes? ds).map fun n => (time, some (.minutes true n))
  | _ => none

/-- A run as a date, a time, or a date and a time after a `T` or a space. -/
def datetime? (cs : List Char) : Option Value :=
  match cs.drop 10 with
  | [] =>
    ((date? cs).map fun d => Value.datetime ⟨some d, none, none⟩).or
      ((time? cs).map fun t => Value.datetime ⟨none, some t, none⟩)
  | c :: rest =>
    if c == 'T' || c == 't' || c == ' ' then do
      let date ← date? (cs.take 10)
      let (time, offset) ← offsetTime? rest
      some (.datetime ⟨some date, some time, offset⟩)
    else (time? cs).map fun t => .datetime ⟨none, some t, none⟩

/-! ### All of them -/

/-- A run as a value. -/
def scalar? (cs : List Char) : Option Value :=
  if cs == "true".toList then some (.boolean true)
  else if cs == "false".toList then some (.boolean false)
  else ((integer? cs).or (float? cs)).or (datetime? cs)

/-- A value without quotes at the front of a text. A date may have a space before its time. -/
def readScalar (cs : List Char) : Option (Value × List Char) :=
  let run := cs.takeWhile isScalarChar
  match (date? run).isSome, cs.dropWhile isScalarChar with
  | true, ' ' :: d :: rest =>
    if d.isDigit then
      (scalar? (run ++ ' ' :: (d :: rest).takeWhile isScalarChar)).map fun v =>
        (v, (d :: rest).dropWhile isScalarChar)
    else (scalar? run).map fun v => (v, ' ' :: d :: rest)
  | _, rest => (scalar? run).map fun v => (v, rest)

end Scriptlet.Toml
