/-
Spans of time and their short text.

A span is a whole number of nanoseconds. Its text uses the largest unit among seconds,
milliseconds, microseconds and nanoseconds in which the whole part is not zero (nanoseconds
for zero), followed by the fraction with its trailing zeros dropped: `30s`, `1.5s`, `1.001s`,
`500ms`, `0ns`. The examples at the end pin the format.
-/
namespace OlmProvision

/-- A span of time in nanoseconds. -/
structure Duration where
  nanos : Nat
deriving DecidableEq, Repr, Inhabited

namespace Duration

/-- A span of `s` seconds. -/
def ofSecs (s : Nat) : Duration := ⟨s * 1000000000⟩

/-- A span of `ms` milliseconds. -/
def ofMillis (ms : Nat) : Duration := ⟨ms * 1000000⟩

/-- The whole milliseconds of the span. -/
def toMillis (d : Duration) : Nat := d.nanos / 1000000

instance : LE Duration := ⟨fun a b => a.nanos ≤ b.nanos⟩
instance : LT Duration := ⟨fun a b => a.nanos < b.nanos⟩
instance (a b : Duration) : Decidable (a ≤ b) := inferInstanceAs (Decidable (a.nanos ≤ b.nanos))
instance (a b : Duration) : Decidable (a < b) := inferInstanceAs (Decidable (a.nanos < b.nanos))
instance : Add Duration := ⟨fun a b => ⟨a.nanos + b.nanos⟩⟩
instance : Sub Duration := ⟨fun a b => ⟨a.nanos - b.nanos⟩⟩

/-- The shorter of two spans. -/
def min (a b : Duration) : Duration := if a.nanos ≤ b.nanos then a else b

@[ext] theorem ext {a b : Duration} (h : a.nanos = b.nanos) : a = b := by
  cases a
  cases b
  simp_all

@[simp] theorem add_nanos (a b : Duration) : (a + b).nanos = a.nanos + b.nanos := rfl

@[simp] theorem sub_nanos (a b : Duration) : (a - b).nanos = a.nanos - b.nanos := rfl

@[simp] theorem min_nanos (a b : Duration) : (Duration.min a b).nanos = Min.min a.nanos b.nanos := by
  unfold Duration.min
  split <;> omega

@[simp] theorem le_iff_nanos (a b : Duration) : a ≤ b ↔ a.nanos ≤ b.nanos := Iff.rfl

/-- The digits of `fraction / (10 * step)` after the point, `step` being the place of the
first digit, without trailing zeros; `fuel` bounds the number of digits. -/
def fractionDigits : Nat → Nat → Nat → List Char
  | 0, _, _ => []
  | fuel + 1, fraction, step =>
    if fraction = 0 ∨ step = 0 then []
    else
      let d := fraction / step
      Char.ofNat (0x30 + d) :: fractionDigits fuel (fraction % step) (step / 10)

/-- `whole` followed by the fraction `fraction / (10 * step)` and the unit. -/
def withFraction (whole fraction step : Nat) (unit : String) : String :=
  let digits := fractionDigits 10 fraction step
  if digits.isEmpty then toString whole ++ unit
  else toString whole ++ "." ++ String.ofList digits ++ unit

/-- The short text of a span. -/
def text (d : Duration) : String :=
  let secs := d.nanos / 1000000000
  let sub := d.nanos % 1000000000
  if secs > 0 then withFraction secs sub 100000000 "s"
  else if sub ≥ 1000000 then withFraction (sub / 1000000) (sub % 1000000) 100000 "ms"
  else if sub ≥ 1000 then withFraction (sub / 1000) (sub % 1000) 100 "µs"
  else toString sub ++ "ns"

example : (ofSecs 30).text = "30s" := by decide
example : (ofMillis 1500).text = "1.5s" := by decide
example : (ofMillis 1001).text = "1.001s" := by decide
example : (ofMillis 500).text = "500ms" := by decide
example : (ofMillis 0).text = "0ns" := by decide

end Duration

end OlmProvision
