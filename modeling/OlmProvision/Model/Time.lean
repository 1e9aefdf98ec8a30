import OlmProvision.Text.Blank

/-
Points in time and their RFC 3339 text.

A timestamp is a whole number of seconds since 1970-01-01T00:00:00 UTC and the nanoseconds
into that second. A leap second is the second before it, held longer: `23:59:60.25` is second
`23:59:59` with `1250000000` nanoseconds. The nanoseconds therefore stay below `2 × 10^9`, and
timestamps are ordered by their seconds, then their nanoseconds, so that `03:04:60.5` comes
before `03:05:00.1`. Counting nanoseconds in one number puts a leap second into the second
after it; that count is used only for the arithmetic of clocks, which never show one.

The text is `YYYY-MM-DDTHH:MM:SS`, with a leap second as second 60, then a fraction of 3, 6 or
9 digits (the fewest that show the nanoseconds exactly, none when they are zero), then
`+00:00`. A year outside 0 to 9999 has a sign and at least four digits (`-0001`, `+10000`).

The reader takes:
* a date: a year (one to four digits, or any number of digits after an explicit sign), `-`, a
  month and `-`, a day, each of one or two digits; blanks may stand before every number and
  every `-`;
* `T`, `t` or a space;
* a time: hours, `:`, minutes, `:`, seconds, each of one or two digits, with blanks allowed in
  the same places, then an optional fraction (a point and at least one digit; digits past the
  ninth are dropped);
* blanks, then `UTC` in any case, `Z`, `z`, or an offset: a sign (`+`, `-` or the minus sign
  `−`), two digits of hours, any run of colons and blanks, and two digits of minutes below 60;
* nothing after that but blanks.
The second may be 60 at any minute. The date must exist, with a year from -262143 to 262142.
The offset must be less than a day, and it is subtracted to give UTC, whose date must be in the
same range. A leap second keeps its place in the minute: `03:04:60.9+01:00` is `02:04:60.9`
in UTC.
-/
namespace OlmProvision

/-- A point in time: seconds since the Unix epoch, and nanoseconds into the second, from
`10^9` on during a leap second. -/
structure Timestamp where
  secs : Int
  subsecNanos : Nat
deriving DecidableEq, Repr, Inhabited

namespace Timestamp

instance : LT Timestamp :=
  ⟨fun a b => a.secs < b.secs ∨ (a.secs = b.secs ∧ a.subsecNanos < b.subsecNanos)⟩

instance : LE Timestamp :=
  ⟨fun a b => a.secs < b.secs ∨ (a.secs = b.secs ∧ a.subsecNanos ≤ b.subsecNanos)⟩

instance (a b : Timestamp) : Decidable (a < b) :=
  inferInstanceAs (Decidable (a.secs < b.secs ∨ (a.secs = b.secs ∧ a.subsecNanos < b.subsecNanos)))

instance (a b : Timestamp) : Decidable (a ≤ b) :=
  inferInstanceAs (Decidable (a.secs < b.secs ∨ (a.secs = b.secs ∧ a.subsecNanos ≤ b.subsecNanos)))

/-- Nanoseconds in a second. -/
def second : Int := 1000000000

/-- The timestamp `s` seconds after the epoch. -/
def ofSecs (s : Int) : Timestamp := ⟨s, 0⟩

/-- The timestamp `n` nanoseconds after the epoch. -/
def ofNanos (n : Int) : Timestamp := ⟨n / second, (n % second).toNat⟩

/-- Nanoseconds since the epoch; a leap second counts into the second after it. -/
def toNanos (t : Timestamp) : Int := t.secs * second + t.subsecNanos

/-- The timestamp truncated to whole seconds; a leap second stays one. -/
def truncSecs (t : Timestamp) : Timestamp :=
  ⟨t.secs, t.subsecNanos - t.subsecNanos % second.toNat⟩

/-- The timestamp moved by `d` nanoseconds. -/
def addNanos (t : Timestamp) (d : Int) : Timestamp := ofNanos (t.toNanos + d)

end Timestamp

namespace Calendar

/-- The number of days from 1970-01-01 to the date `y-m-d`. Years run from March, so that the
leap day ends a year; an era is 400 years of 146097 days. -/
def daysFromCivil (y : Int) (m d : Nat) : Int :=
  let y := if m ≤ 2 then y - 1 else y
  let era := y / 400
  let yoe := y - era * 400
  let mp : Int := if m > 2 then (m : Int) - 3 else (m : Int) + 9
  let doy := (153 * mp + 2) / 5 + (d : Int) - 1
  let doe := yoe * 365 + yoe / 4 - yoe / 100 + doy
  era * 146097 + doe - 719468

/-- The date `(y, m, d)` that is `z` days after 1970-01-01. -/
def civilFromDays (z : Int) : Int × Nat × Nat :=
  let z := z + 719468
  let era := z / 146097
  let doe := z - era * 146097
  let yoe := (doe - doe / 1460 + doe / 36524 - doe / 146096) / 365
  let y := yoe + era * 400
  let doy := doe - (365 * yoe + yoe / 4 - yoe / 100)
  let mp := (5 * doy + 2) / 153
  let d := doy - (153 * mp + 2) / 5 + 1
  let m := if mp < 10 then mp + 3 else mp - 9
  ((if m ≤ 2 then y + 1 else y), m.toNat, d.toNat)

/-- Whether `y` is a leap year. -/
def isLeap (y : Int) : Bool := (y % 4 == 0 && y % 100 != 0) || y % 400 == 0

/-- The number of days of month `m` in year `y`. -/
def monthDays (y : Int) (m : Nat) : Nat :=
  if m == 2 then (if isLeap y then 29 else 28)
  else if m == 4 || m == 6 || m == 9 || m == 11 then 30 else 31

/-- The first year of the calendar's range. -/
def minYear : Int := -262143

/-- The last year of the calendar's range. -/
def maxYear : Int := 262142

/-- Whether the day `z` days after 1970-01-01 lies in the calendar's range. -/
def dayInRange (z : Int) : Bool :=
  decide (daysFromCivil minYear 1 1 ≤ z) && decide (z ≤ daysFromCivil maxYear 12 31)

end Calendar

namespace Timestamp

/-- `n` written with at least `width` digits. -/
def padded (width n : Nat) : String :=
  let s := toString n
  String.ofList (List.replicate (width - s.length) '0') ++ s

/-- The fraction of a second, with a point, in 3, 6 or 9 digits, or nothing for zero. -/
def fraction (ns : Nat) : String :=
  if ns == 0 then ""
  else if ns % 1000000 == 0 then "." ++ padded 3 (ns / 1000000)
  else if ns % 1000 == 0 then "." ++ padded 6 (ns / 1000)
  else "." ++ padded 9 ns

/-- The date and the time to the second, `YYYY-MM-DDTHH:MM:SS`, a leap second as second 60. -/
def secondsText (t : Timestamp) : String :=
  let days := t.secs / 86400
  let rem := (t.secs % 86400).toNat
  let (y, m, d) := Calendar.civilFromDays days
  let year := if 0 ≤ y ∧ y ≤ 9999 then padded 4 y.toNat
    else if y < 0 then "-" ++ padded 4 y.natAbs else "+" ++ padded 4 y.toNat
  let sec := rem % 60 + (if t.subsecNanos < second.toNat then 0 else 1)
  year ++ "-" ++ padded 2 m ++ "-" ++ padded 2 d ++ "T" ++ padded 2 (rem / 3600) ++ ":" ++
    padded 2 (rem % 3600 / 60) ++ ":" ++ padded 2 sec

/-- The RFC 3339 text of a timestamp in UTC. -/
def toRfc3339 (t : Timestamp) : String :=
  t.secondsText ++ fraction (t.subsecNanos % second.toNat) ++ "+00:00"

/-- The value of decimal digits. -/
def digitsValue (ds : List Char) : Nat := ds.foldl (fun acc c => acc * 10 + (c.toNat - 0x30)) 0

/-- Between `lo` and `hi` decimal digits at the front of `cs`, as many as there are, and their
value. -/
def number (lo hi : Nat) (cs : List Char) : Option (Nat × List Char) :=
  let ds := (cs.takeWhile Char.isDigit).take hi
  if ds.length < lo then none else some (digitsValue ds, cs.drop ds.length)

/-- A field of one or two digits, after blanks. -/
def field (cs : List Char) : Option (Nat × List Char) := number 1 2 (Text.dropBlanks cs)

/-- The separator `c`, after blanks. -/
def separator (c : Char) (cs : List Char) : Option (List Char) :=
  match Text.dropBlanks cs with
  | d :: rest => if d == c then some rest else none
  | [] => none

/-- A year after blanks: one to four digits, or any number after a sign. -/
def year (cs : List Char) : Option (Int × List Char) :=
  match Text.dropBlanks cs with
  | '-' :: rest => (number 1 rest.length rest).map fun (v, r) => (-(v : Int), r)
  | '+' :: rest => (number 1 rest.length rest).map fun (v, r) => ((v : Int), r)
  | cs => (number 1 4 cs).map fun (v, r) => ((v : Int), r)

/-- An optional fraction of a second in nanoseconds: a point and one to nine digits, further
digits skipped. -/
def subsecond (cs : List Char) : Option (Nat × List Char) :=
  match cs with
  | '.' :: rest =>
    (number 1 9 rest).map fun (v, r) =>
      (v * Nat.pow 10 (9 - (rest.length - r.length)), r.dropWhile Char.isDigit)
  | _ => some (0, cs)

/-- Two digits at the front of `cs`, the first at most `top`. -/
def twoDigits (top : Nat) (cs : List Char) : Option (Nat × List Char) :=
  match cs with
  | a :: b :: rest =>
    if a.isDigit && b.isDigit && a.toNat - 0x30 ≤ top then
      some ((a.toNat - 0x30) * 10 + (b.toNat - 0x30), rest)
    else none
  | _ => none

/-- The offset from UTC in seconds: `UTC` in any case, `Z`, `z`, or a signed `HH:MM` with any
colons and blanks between hours and minutes. -/
def offset (cs : List Char) : Option (Int × List Char) :=
  if (cs.take 3).map Char.toUpper == ['U', 'T', 'C'] then some (0, cs.drop 3)
  else
    match cs with
    | 'Z' :: rest => some (0, rest)
    | 'z' :: rest => some (0, rest)
    | c :: rest => do
      let negative ← if c == '+' then some false
        else if c == '-' || c == Char.ofNat 0x2212 then some true else none
      let (h, rest) ← twoDigits 9 rest
      let (m, rest) ← twoDigits 5 (rest.dropWhile fun x => x == ':' || Text.isBlank x)
      let total : Int := (h * 3600 + m * 60 : Nat)
      return (if negative then -total else total, rest)
    | [] => none

/-- Read an RFC 3339 date and time, by the rules in the module comment. -/
def parseRfc3339 (s : String) : Option Timestamp := do
  let (y, cs) ← year s.toList
  let cs ← separator '-' cs
  let (mo, cs) ← field cs
  let cs ← separator '-' cs
  let (d, cs) ← field cs
  let cs ← match cs with
    | 'T' :: r => some r
    | 't' :: r => some r
    | ' ' :: r => some r
    | _ => none
  let (h, cs) ← field cs
  let cs ← separator ':' cs
  let (mi, cs) ← field cs
  let cs ← separator ':' cs
  let (sec, cs) ← field cs
  let (ns, cs) ← subsecond cs
  let (off, cs) ← offset (Text.dropBlanks cs)
  if !(Text.dropBlanks cs).isEmpty then none
  else if y < Calendar.minYear ∨ Calendar.maxYear < y ∨ mo < 1 ∨ mo > 12 ∨ d < 1 ∨
      d > Calendar.monthDays y mo ∨ h > 23 ∨ mi > 59 ∨ sec > 60 ∨ 86400 ≤ off.natAbs then
    none
  else
    let secs := Calendar.daysFromCivil y mo d * 86400 + (h * 3600 + mi * 60 + min sec 59 : Nat) - off
    if Calendar.dayInRange (secs / 86400) then
      some ⟨secs, ns + (if sec = 60 then second.toNat else 0)⟩
    else none

example : (parseRfc3339 "2024-01-02T05:04:05+02:00").map toRfc3339 = some "2024-01-02T03:04:05+00:00" := by
  rfl

end Timestamp

end OlmProvision
