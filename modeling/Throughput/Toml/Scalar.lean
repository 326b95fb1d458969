import Throughput.Numeric.Scaled
import Throughput.Numeric.Word
import Throughput.Setting.Basic
import Throughput.Toml.Quoted

/-!
# Scalars of TOML

Numbers and dates. Four digits with a hyphen behind them begin a date, two digits with a colon a
time of day; everything else that begins with a digit or a sign is a number.
-/

namespace Throughput.Toml

def isDigit (base : Nat) (c : Char) : Bool :=
  (Text.digit? base c).isSome

/-- Digits with single underscores between them, of which there is at least one. Gives them without
the underscores. -/
def digits? (base : Nat) : List Char → Option (List Char × List Char)
  | [] => none
  | c :: rest =>
    if !isDigit base c then
      none
    else
      match rest with
      | '_' :: after => (digits? base after).map fun (more, left) => (c :: more, left)
      | next :: after =>
        if isDigit base next then
          (digits? base (next :: after)).map fun (more, left) => (c :: more, left)
        else
          some ([c], next :: after)
      | [] => some ([c], [])

/-- An integer in another base than ten, behind its mark. It has no sign. -/
def based? (base : Nat) (text : List Char) : Option (Setting × List Char) := do
  let (digits, rest) ← digits? base text
  let n := Text.ofDigits base digits
  if (n : Int) ≤ Numeric.maxSigned64 then some (.integer n, rest) else none

def fraction? (text : List Char) : Option (Option (List Char) × List Char) :=
  match text with
  | '.' :: rest => (digits? 10 rest).map fun (digits, after) => (some digits, after)
  | _ => some (none, text)

def exponent? (text : List Char) : Option (Option Int × List Char) :=
  match text with
  | c :: rest =>
    if c = 'e' ∨ c = 'E' then do
      let (negative, unsigned) := Text.splitSign rest
      let (digits, after) ← digits? 10 unsigned
      let size : Int := Text.ofDigits 10 digits
      return (some (if negative then -size else size), after)
    else
      some (none, text)
  | [] => some (none, [])

/-- A number with a fraction or an exponent. One that is too large is refused. -/
def real? (negative : Bool) (whole fraction : List Char) (exponent : Int) : Option Setting :=
  let x := Numeric.signedScaled negative (Text.ofDigits 10 (whole ++ fraction))
    (exponent - fraction.length)
  if !negative && x.isInf then none else some (.real x)

def integer? (negative : Bool) (whole : List Char) : Option Setting :=
  let size : Int := Text.ofDigits 10 whole
  let n := if negative then -size else size
  if Numeric.minSigned64 ≤ n ∧ n ≤ Numeric.maxSigned64 then some (.integer n) else none

/-- A number in base ten, behind its sign. It begins with a zero only if that is all of it that
stands in front of the point. -/
def decimal? (negative : Bool) (text : List Char) : Option (Setting × List Char) := do
  let (whole, afterWhole) ← digits? 10 text
  if whole.length ≠ 1 ∧ whole.head? = some '0' then
    none
  else
    let (fraction, afterFraction) ← fraction? afterWhole
    let (exponent, rest) ← exponent? afterFraction
    let setting ← match fraction, exponent with
      | none, none => integer? negative whole
      | _, _ => real? negative whole (fraction.getD []) (exponent.getD 0)
    return (setting, rest)

def number? (text : List Char) : Option (Setting × List Char) :=
  match text with
  | '0' :: 'x' :: rest => based? 16 rest
  | '0' :: 'o' :: rest => based? 8 rest
  | '0' :: 'b' :: rest => based? 2 rest
  | _ =>
    let (negative, unsigned) := Text.splitSign text
    match unsigned with
    | 'i' :: 'n' :: 'f' :: rest => some (.real (if negative then -1.0 / 0.0 else 1.0 / 0.0), rest)
    | 'n' :: 'a' :: 'n' :: rest => some (.real (0.0 / 0.0), rest)
    | _ => decimal? negative unsigned

def fixed? (width : Nat) (text : List Char) : Option (Nat × List Char) :=
  let digits := text.take width
  if digits.length = width ∧ digits.all (isDigit 10) then
    some (Text.ofDigits 10 digits, text.drop width)
  else
    none

def behind? (c : Char) (text : List Char) : Option (List Char) :=
  match text with
  | first :: rest => if first = c then some rest else none
  | [] => none

def isLeapYear (year : Nat) : Bool :=
  year % 4 = 0 && (year % 100 ≠ 0 || year % 400 = 0)

def daysOfMonth (year month : Nat) : Nat :=
  if month = 2 then (if isLeapYear year then 29 else 28)
  else if month = 4 ∨ month = 6 ∨ month = 9 ∨ month = 11 then 30
  else 31

def skipDay? (text : List Char) : Option (List Char) := do
  let (year, afterYear) ← fixed? 4 text
  let (month, afterMonth) ← fixed? 2 (← behind? '-' afterYear)
  let (day, rest) ← fixed? 2 (← behind? '-' afterMonth)
  if 1 ≤ month ∧ month ≤ 12 ∧ 1 ≤ day ∧ day ≤ daysOfMonth year month then some rest else none

/-- A fraction of a second may follow. -/
def skipFraction (text : List Char) : List Char :=
  match text with
  | '.' :: c :: rest => if isDigit 10 c then rest.dropWhile (isDigit 10) else text
  | _ => text

def skipTime? (text : List Char) : Option (List Char) := do
  let (hour, afterHour) ← fixed? 2 text
  let (minute, afterMinute) ← fixed? 2 (← behind? ':' afterHour)
  let (second, rest) ← fixed? 2 (← behind? ':' afterMinute)
  if hour ≤ 23 ∧ minute ≤ 59 ∧ second ≤ 60 then some (skipFraction rest) else none

def skipOffset? (text : List Char) : Option (List Char) :=
  match text with
  | 'Z' :: rest | 'z' :: rest => some rest
  | '+' :: rest | '-' :: rest => do
    let (hour, afterHour) ← fixed? 2 rest
    let (minute, after) ← fixed? 2 (← behind? ':' afterHour)
    if hour ≤ 23 ∧ minute ≤ 59 then some after else none
  | _ => some text

def beginsFixed (width : Nat) (mark : Char) (text : List Char) : Bool :=
  match fixed? width text with
  | some (_, rest) => (behind? mark rest).isSome
  | none => false

def isDateMark (c : Char) : Bool :=
  c = 'T' || c = 't' || c = ' '

def skipDate? (text : List Char) : Option (List Char) := do
  let rest ← skipDay? text
  match rest with
  | mark :: time =>
    if isDateMark mark && beginsFixed 2 ':' time then skipOffset? (← skipTime? time)
    else some rest
  | [] => some []

/-- No section or key has this name. -/
def dateKey : String := "$date"

/-- Dates are of no use to any setting. They are kept as written, in a table of their own. -/
def dated (text rest : List Char) : Setting :=
  .table [(dateKey, .text (String.ofList (text.take (text.length - rest.length))))]

def dateOrNumber? (text : List Char) : Option (Setting × List Char) :=
  if beginsFixed 4 '-' text then (skipDate? text).map fun rest => (dated text rest, rest)
  else if beginsFixed 2 ':' text then (skipTime? text).map fun rest => (dated text rest, rest)
  else number? text

def scalar? (text : List Char) : Option (Setting × List Char) :=
  match text with
  | '"' :: _ | '\'' :: _ =>
    (quoted? text).map fun (inner, rest) => (.text (String.ofList inner), rest)
  | 't' :: 'r' :: 'u' :: 'e' :: rest => some (.flag true, rest)
  | 'f' :: 'a' :: 'l' :: 's' :: 'e' :: rest => some (.flag false, rest)
  | _ => dateOrNumber? text

end Throughput.Toml
