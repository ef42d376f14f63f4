import PaymentRelay.Number.Power
import PaymentRelay.Text.Blank

/-
  Timestamps.

  A timestamp is a moment of UTC, given by its date in the Gregorian calendar and its time of day.
  It is read leniently (blanks around the parts, one-digit fields, any offset below a day) and
  written in one way only: in UTC, with as many groups of three decimals as are needed.
-/

namespace PaymentRelay

/-- A year with 366 days. -/
def isLeapYear (year : Int) : Bool :=
  year % 4 = 0 && (year % 100 ≠ 0 || year % 400 = 0)

/-- The number of days of a month, zero for no month. -/
def daysInMonth (year : Int) (month : Nat) : Nat :=
  match month with
  | 2 => if isLeapYear year then 29 else 28
  | 4 | 6 | 9 | 11 => 30
  | 1 | 3 | 5 | 7 | 8 | 10 | 12 => 31
  | _ => 0

/-- The years that timestamps cover. -/
def minYear : Int := -262143
def maxYear : Int := 262142

/-- A day of the calendar. -/
structure Date where
  year : Int
  month : Nat
  day : Nat
  year_mem : minYear ≤ year ∧ year ≤ maxYear
  day_mem : 1 ≤ day ∧ day ≤ daysInMonth year month
  deriving DecidableEq

/-- A moment of UTC to the nanosecond. The second 60 is a leap second. -/
structure Timestamp where
  date : Date
  hour : Fin 24
  minute : Fin 60
  second : Fin 61
  nano : Fin 1000000000
  deriving DecidableEq

namespace Date

/-- The day of these numbers, if there is one. -/
def of? (year : Int) (month day : Nat) : Option Date :=
  if hy : minYear ≤ year ∧ year ≤ maxYear then
    if hd : 1 ≤ day ∧ day ≤ daysInMonth year month then some ⟨year, month, day, hy, hd⟩ else none
  else none

/-- The day after. -/
def next? (d : Date) : Option Date :=
  if d.day < daysInMonth d.year d.month then of? d.year d.month (d.day + 1)
  else if d.month < 12 then of? d.year (d.month + 1) 1
  else of? (d.year + 1) 1 1

/-- The day before. -/
def previous? (d : Date) : Option Date :=
  if 1 < d.day then of? d.year d.month (d.day - 1)
  else if 1 < d.month then of? d.year (d.month - 1) (daysInMonth d.year (d.month - 1))
  else of? (d.year - 1) 12 31

/-- The number of days since the first of January 1970. -/
def toDays (d : Date) : Int :=
  let year := if d.month ≤ 2 then d.year - 1 else d.year
  let month : Int := if d.month ≤ 2 then d.month + 9 else (d.month : Int) - 3
  let era := year / 400
  let inEra := year % 400
  let inYear := (153 * month + 2) / 5 + d.day - 1
  era * 146097 + inEra * 365 + inEra / 4 - inEra / 100 + inYear - 719468

end Date

namespace Timestamp

/-! Reading. -/

/-- The value of at most `most` digits, their number, and the text after them. -/
def digits : Nat → List Char → Nat → Nat × Nat × List Char
  | 0, cs, n => (n, 0, cs)
  | most + 1, c :: cs, n =>
    if '0' ≤ c ∧ c ≤ '9' then
      let (value, count, rest) := digits most cs (n * 10 + (c.toNat - 48))
      (value, count + 1, rest)
    else (n, 0, c :: cs)
  | _ + 1, [], n => (n, 0, [])

/-- A number of one to `most` digits, and the text after it. -/
def number? (most : Nat) (cs : List Char) : Option (Nat × List Char) :=
  match digits most cs 0 with
  | (_, 0, _) => none
  | (n, _, rest) => some (n, rest)

/-- A number of at most two digits after blanks. -/
def field? (cs : List Char) : Option (Nat × List Char) := number? 2 (skipBlanks cs)

/-- A year: four digits at most, or any number of them after a sign. -/
def year? (cs : List Char) : Option (Int × List Char) :=
  match skipBlanks cs with
  | '-' :: rest => (number? rest.length rest).map fun (n, after) => (-(n : Int), after)
  | '+' :: rest => (number? rest.length rest).map fun (n, after) => ((n : Int), after)
  | rest => (number? 4 rest).map fun (n, after) => ((n : Int), after)

/-- A mark after blanks. -/
def mark? (c : Char) (cs : List Char) : Option (List Char) :=
  match skipBlanks cs with
  | c' :: rest => if c' = c then some rest else none
  | [] => none

/-- What stands between the date and the time. -/
def separator? : List Char → Option (List Char)
  | c :: rest => if c = 't' || c = 'T' || c = ' ' then some rest else none
  | [] => none

/-- The nanoseconds of a fraction, if one begins here; digits after the ninth do not count. -/
def fraction? : List Char → Option (Nat × List Char)
  | '.' :: cs =>
    match digits 9 cs 0 with
    | (_, 0, _) => none
    | (n, count, rest) =>
      some (n * tenTo (9 - count), rest.dropWhile fun c => '0' ≤ c && c ≤ '9')
  | cs => some (0, cs)

/-- The minutes of an offset after its sign: two digits of hours and, after colons or blanks, two
of minutes. -/
def offsetMinutes? : List Char → Option (Nat × List Char)
  | a :: b :: rest => do
    let (hours, none?) ← number? 2 [a, b]
    if !none?.isEmpty then none else
      match rest.dropWhile fun c => c = ':' || isBlank c with
      | c :: d :: after => do
        let (minutes, none?) ← number? 2 [c, d]
        if none?.isEmpty && minutes < 60 then some (hours * 60 + minutes, after) else none
      | _ => none
  | _ => none

/-- The text is `utc` in any case. -/
def isUtc (a b c : Char) : Bool :=
  a.toLower = 'u' && b.toLower = 't' && c.toLower = 'c'

/-- The offset from UTC in minutes. -/
def offset? (cs : List Char) : Option (Int × List Char) :=
  match cs with
  | a :: b :: c :: rest => if isUtc a b c then some (0, rest) else signed? cs
  | _ => signed? cs
where
  signed? : List Char → Option (Int × List Char)
    | c :: rest =>
      if c = 'Z' || c = 'z' then some (0, rest)
      else if c = '+' then (offsetMinutes? rest).map fun (m, after) => ((m : Int), after)
      else if c = '-' || c = '\u2212' then
        (offsetMinutes? rest).map fun (m, after) => (-(m : Int), after)
      else none
    | [] => none

/-- The moment that a local date and time stand for, at an offset of less than a day. -/
def ofLocal? (date : Date) (hour minute second nano : Nat) (offset : Int) : Option Timestamp :=
  if hour < 24 ∧ minute < 60 ∧ -1440 < offset ∧ offset < 1440 then
    let total := (hour * 60 + minute : Int) - offset
    if total < 0 then date.previous?.bind fun d => at? d (total + 1440)
    else if total < 1440 then at? date total
    else date.next?.bind fun d => at? d (total - 1440)
  else none
where
  /-- The moment at a minute of a day. -/
  at? (d : Date) (minutes : Int) : Option Timestamp :=
    let m := minutes.toNat
    if h : m / 60 < 24 ∧ second < 61 ∧ nano < 1000000000 then
      some ⟨d, ⟨m / 60, h.1⟩, ⟨m % 60, Nat.mod_lt _ (by decide)⟩, ⟨second, h.2.1⟩, ⟨nano, h.2.2⟩⟩
    else none

/-- Reads a timestamp. -/
def read? (s : String) : Option Timestamp := do
  let (year, cs) ← year? s.toList
  let cs ← mark? '-' cs
  let (month, cs) ← field? cs
  let cs ← mark? '-' cs
  let (day, cs) ← field? cs
  let cs ← separator? cs
  let (hour, cs) ← field? cs
  let cs ← mark? ':' cs
  let (minute, cs) ← field? cs
  let cs ← mark? ':' cs
  let (second, cs) ← field? cs
  let (nano, cs) ← fraction? cs
  let (offset, cs) ← offset? (skipBlanks cs)
  let date ← Date.of? year month day
  if (skipBlanks cs).isEmpty then ofLocal? date hour minute second nano offset else none

/-! Writing. -/

/-- A number with at least `width` digits. -/
def padded (width n : Nat) : String :=
  let s := toString n
  String.ofList (List.replicate (width - s.length) '0') ++ s

/-- A year: four digits from 0 to 9999, with a sign otherwise. -/
def yearText (year : Int) : String :=
  if 0 ≤ year ∧ year ≤ 9999 then padded 4 year.toNat
  else (if year < 0 then "-" else "+") ++ padded 4 year.natAbs

/-- The fraction of a second, in groups of three digits. -/
def fractionText (nano : Nat) : String :=
  if nano = 0 then ""
  else if nano % 1000000 = 0 then "." ++ padded 3 (nano / 1000000)
  else if nano % 1000 = 0 then "." ++ padded 6 (nano / 1000)
  else "." ++ padded 9 nano

/-- Writes a timestamp. -/
def text (t : Timestamp) : String :=
  yearText t.date.year ++ "-" ++ padded 2 t.date.month ++ "-" ++ padded 2 t.date.day ++ "T" ++
    padded 2 t.hour ++ ":" ++ padded 2 t.minute ++ ":" ++ padded 2 t.second ++
    fractionText t.nano ++ "Z"

/-- The number of seconds since the beginning of 1970, leap seconds aside. -/
def toSeconds (t : Timestamp) : Int :=
  t.date.toDays * 86400 + t.hour.val * 3600 + t.minute.val * 60 + min t.second.val 59

/-- The beginning of 1970. -/
def epoch : Timestamp := ⟨⟨1970, 1, 1, by decide, by decide⟩, 0, 0, 0, 0⟩

instance : Inhabited Timestamp := ⟨epoch⟩

end Timestamp

end PaymentRelay
