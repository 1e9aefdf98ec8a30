/-
IEEE 754 binary64 numbers, computed exactly.

A finite number is `(-1)^negative × significand × 2^exponent` in its one normal form: a normal
number has `2^52 ≤ significand < 2^53` and `-1074 ≤ exponent ≤ 971`; a subnormal number or a
zero has `exponent = -1074` and `significand < 2^52`. Zero keeps its sign, and so does a NaN,
since two NaNs compared bit for bit differ by their signs.

Every operation here is one rounding of an exact result: the exact value is a ratio of natural
numbers, and `ofRatio` rounds it to the nearest number, ties to the even significand, and to an
infinity beyond the largest finite number. Reading a decimal, converting an integer, multiplying
and dividing are all defined this way, which is what IEEE arithmetic prescribes.
-/
namespace OlmProvision

/-- A binary64 number. -/
inductive Binary64 where
  | finite (negative : Bool) (significand : Nat) (exponent : Int)
  | infinite (negative : Bool)
  | nan (negative : Bool)
deriving DecidableEq, Repr, Inhabited

namespace Binary64

/-- The exponent of subnormal numbers and zeros. -/
def minExponent : Int := -1074

/-- The largest exponent of a finite number. -/
def maxExponent : Int := 971

/-- Zero of the given sign. -/
def zero (negative : Bool) : Binary64 := .finite negative 0 minExponent

/-- The number of binary digits of `n`, zero for zero. -/
def bitLength (n : Nat) : Nat := if n = 0 then 0 else n.log2 + 1

/-- Whether `num / den ≥ 2 ^ k`. -/
def atLeastPow2 (num den : Nat) (k : Int) : Bool :=
  if 0 ≤ k then decide (den * Nat.pow 2 k.toNat ≤ num) else decide (den ≤ num * Nat.pow 2 (-k).toNat)

/-- `⌊log₂ (num / den)⌋` for positive `num` and `den`. The quotient lies strictly between
`2 ^ (t - 1)` and `2 ^ (t + 1)`, where `t` is the difference of the bit lengths, so one
comparison decides it. -/
def floorLog2 (num den : Nat) : Int :=
  let t : Int := (bitLength num : Int) - bitLength den
  if atLeastPow2 num den t then t else t - 1

/-- `num / den`, negated when `negative`, rounded to the nearest number with ties to the even
significand. The significand is taken at the exponent that gives it 53 bits, or at the
subnormal exponent; a carry to `2 ^ 53` moves to the next exponent, and an exponent past the
largest gives an infinity. A zero denominator gives an infinity, or NaN for `0 / 0`. -/
def ofRatio (negative : Bool) (num den : Nat) : Binary64 :=
  if den = 0 then (if num = 0 then .nan negative else .infinite negative)
  else if num = 0 then zero negative
  else
    let b : Int := max (floorLog2 num den - 52) minExponent
    let n := if 0 ≤ b then num else num * Nat.pow 2 (-b).toNat
    let d := if 0 ≤ b then den * Nat.pow 2 b.toNat else den
    let q := n / d
    let r := n % d
    let q := if d < 2 * r || (2 * r = d && q % 2 = 1) then q + 1 else q
    let (q, b) := if q = Nat.pow 2 53 then (Nat.pow 2 52, b + 1) else (q, b)
    if maxExponent < b then .infinite negative else .finite negative q b

/-- The natural number `n`, rounded. -/
def ofNat (n : Nat) : Binary64 := ofRatio false n 1

/-- The number of decimal digits of `n`. -/
def decimalDigits (n : Nat) : Nat := (Nat.toDigits 10 n).length

/-- The decimal `m × 10 ^ e`, negated when `negative`, rounded. Decimals of more than 310
digits before the point are infinite and those below `10 ^ -324` are zero, without computing
the power of ten. -/
def ofDecimal (negative : Bool) (m : Nat) (e : Int) : Binary64 :=
  if m = 0 then zero negative
  else
    let width : Int := (decimalDigits m : Int) + e
    if 310 < width then .infinite negative
    else if width < -324 then zero negative
    else if 0 ≤ e then ofRatio negative (m * Nat.pow 10 e.toNat) 1
    else ofRatio negative m (Nat.pow 10 (-e).toNat)

/-- The exact magnitude `s × 2 ^ e` as a ratio of natural numbers. -/
def magnitude (s : Nat) (e : Int) : Nat × Nat :=
  if 0 ≤ e then (s * Nat.pow 2 e.toNat, 1) else (s, Nat.pow 2 (-e).toNat)

/-- The number with its sign flipped. -/
def neg : Binary64 → Binary64
  | .finite n s e => .finite (!n) s e
  | .infinite n => .infinite (!n)
  | .nan n => .nan (!n)

/-- The IEEE product. -/
def mul : Binary64 → Binary64 → Binary64
  | .nan n, _ => .nan n
  | _, .nan n => .nan n
  | .infinite a, .infinite b => .infinite (a != b)
  | .infinite a, .finite b s _ => if s = 0 then .nan true else .infinite (a != b)
  | .finite a s _, .infinite b => if s = 0 then .nan true else .infinite (a != b)
  | .finite a s e, .finite b t f =>
    let (n, d) := magnitude (s * t) (e + f)
    ofRatio (a != b) n d

/-- The IEEE quotient. -/
def div : Binary64 → Binary64 → Binary64
  | .nan n, _ => .nan n
  | _, .nan n => .nan n
  | .infinite _, .infinite _ => .nan true
  | .infinite a, .finite b _ _ => .infinite (a != b)
  | .finite a _ _, .infinite b => zero (a != b)
  | .finite a s e, .finite b t f =>
    if t = 0 then (if s = 0 then .nan true else .infinite (a != b))
    else
      let (n, d) := magnitude s (e - f)
      ofRatio (a != b) n (d * t)

/-- Whether the number is finite. -/
def isFinite : Binary64 → Bool
  | .finite .. => true
  | _ => false

/-- Whether the number is a zero of either sign. -/
def isZero : Binary64 → Bool
  | .finite _ s _ => s == 0
  | _ => false

/-- Whether the number is a NaN. -/
def isNaN : Binary64 → Bool
  | .nan _ => true
  | _ => false

/-- IEEE equality: the two zeros are equal, and a NaN equals nothing. -/
def eqv : Binary64 → Binary64 → Bool
  | .finite a s e, .finite b t f => (s == 0 && t == 0) || (a == b && s == t && e == f)
  | .infinite a, .infinite b => a == b
  | _, _ => false

/-- The largest finite number, `(2 ^ 53 - 1) × 2 ^ 971`. -/
def maxFinite : Binary64 := .finite false (Nat.pow 2 53 - 1) maxExponent

theorem ofRatio_zero (negative : Bool) (den : Nat) (h : 0 < den) :
    ofRatio negative 0 den = zero negative := by
  unfold ofRatio
  simp [Nat.pos_iff_ne_zero.mp h]

theorem neg_neg (x : Binary64) : x.neg.neg = x := by
  cases x <;> simp [neg]

end Binary64

end OlmProvision
