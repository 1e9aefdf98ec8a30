/-
Reading integers of a fixed width from text.

A text is an optional sign followed by one or more digits of the radix, and the value must fit
the width. An unsigned reading takes a `+` sign only. Digits are read from the left, and the
first fault met decides the error: a character that is no digit, or a value that leaves the
range. The examples at the end pin the sign and range rules.
-/
namespace OlmProvision.Text

/-- Why a text is no integer of the requested width. -/
inductive IntegerError where
  | empty
  | invalidDigit
  | tooLarge
  | tooSmall
deriving DecidableEq, Repr, Inhabited

/-- The wording of an integer reading error. -/
def IntegerError.message : IntegerError → String
  | .empty => "cannot parse integer from empty string"
  | .invalidDigit => "invalid digit found in string"
  | .tooLarge => "number too large to fit in target type"
  | .tooSmall => "number too small to fit in target type"

/-- The value of digit `c` in `radix`, for radices up to 36. -/
def digitValue (radix : Nat) (c : Char) : Option Nat :=
  let n := c.toNat
  let v :=
    if 0x30 ≤ n ∧ n ≤ 0x39 then some (n - 0x30)
    else if 0x61 ≤ n ∧ n ≤ 0x7A then some (n - 0x61 + 10)
    else if 0x41 ≤ n ∧ n ≤ 0x5A then some (n - 0x41 + 10)
    else none
  match v with
  | some d => if d < radix then some d else none
  | none => none

/-- Accumulate digits from the left; `limit` is the largest magnitude allowed and `overflow` the
error for a magnitude beyond it. -/
def accumulate (radix limit : Nat) (overflow : IntegerError) : Nat → List Char → Except IntegerError Nat
  | acc, [] => .ok acc
  | acc, c :: rest =>
    match digitValue radix c with
    | none => .error .invalidDigit
    | some d =>
      let next := acc * radix + d
      if next > limit then .error overflow else accumulate radix limit overflow next rest

/-- Read an unsigned integer of `bits` bits in `radix`. -/
def readUnsignedRadix (bits radix : Nat) (s : String) : Except IntegerError Nat :=
  match s.toList with
  | [] => .error .empty
  | ['+'] => .error .invalidDigit
  | ['-'] => .error .invalidDigit
  | '+' :: rest => accumulate radix (Nat.pow 2 bits - 1) .tooLarge 0 rest
  | cs => accumulate radix (Nat.pow 2 bits - 1) .tooLarge 0 cs

/-- Read a signed integer of `bits` bits in `radix`. -/
def readSignedRadix (bits radix : Nat) (s : String) : Except IntegerError Int :=
  match s.toList with
  | [] => .error .empty
  | ['+'] => .error .invalidDigit
  | ['-'] => .error .invalidDigit
  | '-' :: rest => (accumulate radix (Nat.pow 2 (bits - 1)) .tooSmall 0 rest).map (fun n => -(n : Int))
  | '+' :: rest => (accumulate radix (Nat.pow 2 (bits - 1) - 1) .tooLarge 0 rest).map (fun n => (n : Int))
  | cs => (accumulate radix (Nat.pow 2 (bits - 1) - 1) .tooLarge 0 cs).map (fun n => (n : Int))

/-- Read a decimal unsigned integer of `bits` bits. -/
def readUnsigned (bits : Nat) (s : String) : Except IntegerError Nat := readUnsignedRadix bits 10 s

/-- Read a decimal signed integer of `bits` bits. -/
def readSigned (bits : Nat) (s : String) : Except IntegerError Int := readSignedRadix bits 10 s

/-- Whether every character of `s` is an ASCII decimal digit. -/
def allDigits (s : String) : Bool := s.toList.all Char.isDigit

/-- The decimal digits of `n`. -/
def decimal (n : Nat) : String := toString n

example : readUnsigned 64 "+5" = .ok 5 := by rfl
example : readUnsigned 64 "-7" = .error .invalidDigit := by rfl
example : readUnsigned 64 "18446744073709551616" = .error .tooLarge := by rfl
example : readSigned 32 "-2147483648" = .ok (-2147483648) := by rfl

end OlmProvision.Text
