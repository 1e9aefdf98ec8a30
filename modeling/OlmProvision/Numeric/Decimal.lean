import OlmProvision.Numeric.Binary64

/-
Decimal text of binary64 numbers: reading it, and writing a number with the fewest digits.

A decimal reads back as a positive number `s × 2 ^ e` when it lies between the midpoints to the
number's neighbours, on a midpoint included when `s` is even, since ties round to even
significands. The written form of a number is the decimal with the fewest significant digits
that reads back, and the one nearest to the number among those (ties to an even last digit).
At most seventeen digits are ever needed.

Two layouts are written. The positional one has no exponent and no fraction on whole numbers
(`1`, `0.1`, `-0`, `100000000000000000000`), with `NaN`, `inf` and `-inf` for the other
numbers. The JSON one keeps a fraction on whole numbers (`1.0`) and switches to an exponent
outside `10 ^ -5 ≤ |x| < 10 ^ 16` (`1e16`, `1.5e-7`).

The reader takes an optional sign, then `inf`, `infinity` or `nan` in any case, or decimal
digits with an optional fraction (at least one digit in all) and an optional exponent, and
rounds the decimal once. Exponent digits stop counting once the exponent passes `65535`, where
every result is already an infinity or a zero.
-/
namespace OlmProvision

namespace Binary64

/-- Compare `c × 10 ^ k` with `n × 2 ^ b`. -/
def compareScaled (c : Nat) (k : Int) (n : Nat) (b : Int) : Ordering :=
  compare (c * Nat.pow 10 k.toNat * Nat.pow 2 (-b).toNat) (n * Nat.pow 2 b.toNat * Nat.pow 10 (-k).toNat)

/-- `⌊log₁₀ (num / den)⌋` for positive `num` and `den`. Below one, the quotient `den / num`
has `d` digits, so the answer is `-d`, or `1 - d` when `den / num` is exactly `10 ^ (d - 1)`. -/
def floorLog10 (num den : Nat) : Int :=
  if den ≤ num then (decimalDigits (num / den) : Int) - 1
  else
    let d := decimalDigits (den / num)
    if den ≤ num * Nat.pow 10 (d - 1) then 1 - (d : Int) else -(d : Int)

/-- Drop the trailing zeros of `c`, raising `k` once for each; `fuel` bounds the digits. -/
def stripZeros : Nat → Nat → Int → Nat × Int
  | 0, c, k => (c, k)
  | fuel + 1, c, k => if c ≠ 0 ∧ c % 10 = 0 then stripZeros fuel (c / 10) (k + 1) else (c, k)

/-- Whether `c × 10 ^ k` reads back as the positive number `s × 2 ^ e`. In units of
`2 ^ (e - 2)` the number is `4s`, its upper midpoint `4s + 2` and its lower midpoint `4s - 2`,
or `4s - 1` when its lower neighbour has the smaller exponent. -/
def readsBack (s : Nat) (e : Int) (c : Nat) (k : Int) : Bool :=
  let lower := if s = Nat.pow 2 52 ∧ minExponent < e then 4 * s - 1 else 4 * s - 2
  let lo := compareScaled c k lower (e - 2)
  let hi := compareScaled c k (4 * s + 2) (e - 2)
  if s % 2 = 0 then lo != .lt && hi != .gt else lo == .gt && hi == .lt

/-- The `p`-digit decimal that reads back as the positive number `s × 2 ^ e`, whose leading
digit is at `10 ^ top`: of the two `p`-digit decimals around the number, the one that reads
back, or the nearer when both do (ties to the even one). -/
def candidate (s : Nat) (e : Int) (top : Int) (p : Nat) : Option (Nat × Int) :=
  let k := top - p + 1
  let (num, den) := magnitude s e
  let below := (num * Nat.pow 10 (-k).toNat) / (den * Nat.pow 10 k.toNat)
  let above := below + 1
  match readsBack s e below k, readsBack s e above k with
  | true, true =>
    match compareScaled (2 * below + 1) k (2 * s) e with
    | .gt => some (below, k)
    | .lt => some (above, k)
    | .eq => some (if below % 2 = 0 then below else above, k)
  | true, false => some (below, k)
  | false, true => some (above, k)
  | false, false => none

/-- The shortest decimal `c × 10 ^ k` that reads back as the positive number `s × 2 ^ e`, with
no trailing zero in `c`. -/
def shortestDigits (s : Nat) (e : Int) : Nat × Int :=
  let (num, den) := magnitude s e
  let top := floorLog10 num den
  let fallback := ((num * Nat.pow 10 (16 - top).toNat) / (den * Nat.pow 10 (top - 16).toNat), top - 16)
  let (c, k) := ((List.range 17).findSome? (fun i => candidate s e top (i + 1))).getD fallback
  stripZeros 20 c k

/-- `n` zeros. -/
def zeros (n : Nat) : String := String.ofList (List.replicate n '0')

/-- `c × 10 ^ k` written without an exponent. -/
def positionalDigits (c : Nat) (k : Int) : String :=
  let ds := (toString c).toList
  let point : Int := ds.length + k
  if 0 ≤ k then String.ofList ds ++ zeros k.toNat
  else if 0 < point then
    String.ofList (ds.take point.toNat) ++ "." ++ String.ofList (ds.drop point.toNat)
  else "0." ++ zeros (-point).toNat ++ String.ofList ds

/-- The positional text of a number: `1`, `0.5`, `-0`, `NaN`, `inf`, `-inf`. -/
def display : Binary64 → String
  | .nan _ => "NaN"
  | .infinite negative => if negative then "-inf" else "inf"
  | .finite negative s e =>
    let sign := if negative then "-" else ""
    if s = 0 then sign ++ "0"
    else
      let (c, k) := shortestDigits s e
      sign ++ positionalDigits c k

/-- `c × 10 ^ k` in the JSON layout: positional with a fraction from `10 ^ -5` up to `10 ^ 16`,
with an exponent otherwise. -/
def jsonDigits (c : Nat) (k : Int) : String :=
  let ds := (toString c).toList
  let point : Int := ds.length + k
  if 0 ≤ k ∧ point ≤ 16 then String.ofList ds ++ zeros k.toNat ++ ".0"
  else if 0 < point ∧ point ≤ 16 then
    String.ofList (ds.take point.toNat) ++ "." ++ String.ofList (ds.drop point.toNat)
  else if -5 < point ∧ point ≤ 0 then "0." ++ zeros (-point).toNat ++ String.ofList ds
  else
    let mantissa := match ds with
      | [d] => String.ofList [d]
      | d :: rest => String.ofList [d] ++ "." ++ String.ofList rest
      | [] => "0"
    mantissa ++ "e" ++ toString (point - 1)

/-- The JSON text of a number; a number that is not finite has none and is written `null`. -/
def jsonText : Binary64 → String
  | .finite negative s e =>
    let sign := if negative then "-" else ""
    if s = 0 then sign ++ "0.0"
    else
      let (c, k) := shortestDigits s e
      sign ++ jsonDigits c k
  | _ => "null"

/-- The value of decimal digits. -/
def digitsValue (ds : List Char) : Nat := ds.foldl (fun acc c => acc * 10 + (c.toNat - 0x30)) 0

/-- The value of exponent digits, which stops growing once it passes `65535`. -/
def exponentValue (ds : List Char) : Nat :=
  ds.foldl (fun acc c => if acc < 65536 then acc * 10 + (c.toNat - 0x30) else acc) 0

/-- The exponent part after the digits of a decimal: nothing, or `e`/`E`, an optional sign and
at least one digit, with nothing after them. -/
def readExponent : List Char → Option Int
  | [] => some 0
  | c :: rest =>
    if c == 'e' || c == 'E' then
      let (negative, ds) := match rest with
        | '-' :: r => (true, r)
        | '+' :: r => (false, r)
        | r => (false, r)
      if ds.isEmpty || !ds.all Char.isDigit then none
      else
        let v : Int := exponentValue ds
        some (if negative then -v else v)
    else none

/-- Read a whole text as a number, by the grammar in the module comment. -/
def readDecimal? (text : String) : Option Binary64 :=
  let (negative, cs) := match text.toList with
    | '-' :: rest => (true, rest)
    | '+' :: rest => (false, rest)
    | cs => (false, cs)
  let word := String.ofList (cs.map Char.toLower)
  if word == "inf" || word == "infinity" then some (.infinite negative)
  else if word == "nan" then some (.nan negative)
  else
    let intDigits := cs.takeWhile Char.isDigit
    let rest := cs.dropWhile Char.isDigit
    let (fracDigits, rest) := match rest with
      | '.' :: r => (r.takeWhile Char.isDigit, r.dropWhile Char.isDigit)
      | r => ([], r)
    if intDigits.isEmpty && fracDigits.isEmpty then none
    else (readExponent rest).map fun ex =>
      ofDecimal negative (digitsValue (intDigits ++ fracDigits)) (ex - fracDigits.length)

end Binary64

end OlmProvision
