import OlmProvision.Json.Value
import OlmProvision.Numeric.Decimal

/-
The text form of JSON documents: a reader and a compact writer.

The reader takes one value surrounded by optional blanks (space, tab, line feed, carriage
return), nested at most 127 arrays and objects deep; later members of an object replace
earlier ones of the same key. An integer without fraction or exponent is a machine integer when
it fits 64 bits (`-0` is the binary64 number `-0.0`). Any other number is computed as a reader
bounded by machine words computes it: the digits are gathered into a 64-bit significand, digits
that no longer fit are dropped (those before the point raising the exponent), the significand is
rounded to binary64, and then multiplied or divided by one rounded power of ten, or divided by
`10 ^ 308` first as often as needed for tiny numbers. A product that overflows is refused, as is
an exponent past the 32-bit range on a nonzero number; such an exponent below makes a zero.

The writer prints objects with their keys in order, no blanks, strings with the escapes the
format requires (quote, backslash and the control characters), and binary64 numbers with their
shortest digits (`Binary64.jsonText`).
-/
namespace OlmProvision

namespace JsonText

/-- Whether `c` is a blank between tokens. -/
def isSpace (c : Char) : Bool := c == ' ' || c == '\n' || c == '\r' || c == '\t'

/-- Skip blanks. -/
def skipSpace (cs : List Char) : List Char := cs.dropWhile isSpace

/-- Whether `a * 10 + digit` passes `limit`. -/
def overflows (a digit limit : Nat) : Bool :=
  limit / 10 < a || (a == limit / 10 && limit % 10 < digit)

/-- The value of a decimal digit character. -/
def digitOf (c : Char) : Nat := c.toNat - 0x30

/-- `x` saturated to the signed 32-bit range. -/
def clampI32 (x : Int) : Int := max (-2147483648) (min 2147483647 x)

/-- `10 ^ k` rounded to binary64, the constant the reader scales by. -/
def pow10 (k : Nat) : Binary64 := Binary64.ofRatio false (Nat.pow 10 k) 1

/-- Scale `f` by `10 ^ e` as in the module comment; `none` on overflow. Each step of `10 ^ 308`
divides a significand of at most 64 bits further towards zero, so a few steps reach it. -/
def scaleSteps : Nat → Binary64 → Int → Option Binary64
  | 0, f, _ => some f
  | fuel + 1, f, e =>
    if e.natAbs ≤ 308 then
      if 0 ≤ e then
        let g := f.mul (pow10 e.toNat)
        if g.isFinite then some g else none
      else some (f.div (pow10 e.natAbs))
    else if f.isZero then some f
    else if 0 ≤ e then none
    else scaleSteps fuel (f.div (pow10 308)) (e + 308)

/-- The number `significand × 10 ^ exponent`, negated when `negative`, as the reader computes
it. -/
def scaled (negative : Bool) (significand : Nat) (exponent : Int) : Option Number :=
  (scaleSteps 8 (Binary64.ofNat significand) exponent).map fun f =>
    .float (if negative then f.neg else f)

/-- Read exponent digits into `acc`: `none` once the exponent would pass `2 ^ 31 - 1`, with
the remaining digits skipped. -/
def exponentDigits (acc : Nat) : List Char → Option Nat × List Char
  | c :: rest =>
    if c.isDigit then
      if overflows acc (digitOf c) 2147483647 then (none, rest.dropWhile Char.isDigit)
      else exponentDigits (acc * 10 + digitOf c) rest
    else (some acc, c :: rest)
  | [] => (some acc, [])

/-- Read the exponent after `e`: an optional sign and at least one digit. -/
def readExponent (negative : Bool) (significand : Nat) (start : Int) (cs : List Char) :
    Option (Number × List Char) :=
  let (up, cs) := match cs with
    | '+' :: r => (true, r)
    | '-' :: r => (false, r)
    | r => (true, r)
  match cs with
  | c :: _ =>
    if !c.isDigit then none
    else match exponentDigits 0 cs with
      | (some e, rest) =>
        (scaled negative significand (clampI32 (if up then start + e else start - e))).map
          (·, rest)
      | (none, rest) =>
        if significand ≠ 0 && up then none
        else some (.float (Binary64.zero negative), rest)
  | [] => none

/-- What follows the digits of a number: an exponent, or the end of the number. -/
def afterDigits (negative : Bool) (significand : Nat) (exponent : Int) :
    List Char → Option (Number × List Char)
  | c :: rest =>
    if c == 'e' || c == 'E' then readExponent negative significand exponent rest
    else (scaled negative significand exponent).map (·, c :: rest)
  | [] => (scaled negative significand exponent).map (·, [])

/-- Read fraction digits, `count` of them read so far; at least one is required. Digits that
no longer fit the significand are dropped. -/
def fractionDigits (negative : Bool) (significand : Nat) (exponent : Int) (count : Nat) :
    List Char → Option (Number × List Char)
  | c :: rest =>
    if c.isDigit then
      if overflows significand (digitOf c) Number.u64Max then
        afterDigits negative significand exponent ((c :: rest).dropWhile Char.isDigit)
      else fractionDigits negative (significand * 10 + digitOf c) (exponent - 1) (count + 1) rest
    else if count = 0 then none
    else afterDigits negative significand exponent (c :: rest)
  | [] => if count = 0 then none else afterDigits negative significand exponent []

/-- Read the integer digits that no longer fit the significand: each raises the exponent. -/
def longInteger (negative : Bool) (significand : Nat) (exponent : Int) :
    List Char → Option (Number × List Char)
  | c :: rest =>
    if c.isDigit then longInteger negative significand (exponent + 1) rest
    else if c == '.' then fractionDigits negative significand exponent 0 rest
    else afterDigits negative significand exponent (c :: rest)
  | [] => afterDigits negative significand exponent []

/-- A number without fraction or exponent: a machine integer, or for `-0` and negative numbers
below `-2 ^ 63` a binary64 number. -/
def integerValue (negative : Bool) (significand : Nat) : Number :=
  if !negative then .nat significand
  else if significand = 0 || Nat.pow 2 63 < significand then .float (Binary64.ofNat significand).neg
  else .neg (-(significand : Int))

/-- What follows the integer digits of a number. -/
def afterInteger (negative : Bool) (significand : Nat) : List Char → Option (Number × List Char)
  | '.' :: rest => fractionDigits negative significand 0 0 rest
  | c :: rest =>
    if c == 'e' || c == 'E' then readExponent negative significand 0 rest
    else some (integerValue negative significand, c :: rest)
  | [] => some (integerValue negative significand, [])

/-- Read integer digits after the first; a digit that would pass `2 ^ 64 - 1` starts the long
form. -/
def integerDigits (negative : Bool) (significand : Nat) : List Char → Option (Number × List Char)
  | c :: rest =>
    if c.isDigit then
      if overflows significand (digitOf c) Number.u64Max then
        longInteger negative significand 0 (c :: rest)
      else integerDigits negative (significand * 10 + digitOf c) rest
    else afterInteger negative significand (c :: rest)
  | [] => afterInteger negative significand []

/-- Read a number: an optional minus, then `0` or a digit string without leading zero, an
optional fraction and an optional exponent. -/
def readNumber (cs : List Char) : Option (Number × List Char) :=
  let (negative, cs) := match cs with
    | '-' :: rest => (true, rest)
    | rest => (false, rest)
  match cs with
  | '0' :: rest =>
    match rest with
    | d :: _ => if d.isDigit then none else afterInteger negative 0 rest
    | [] => afterInteger negative 0 rest
  | d :: rest => if d.isDigit then integerDigits negative (digitOf d) rest else none
  | [] => none

/-- The value of a hexadecimal digit. -/
def hexValue (c : Char) : Option Nat :=
  let n := c.toNat
  if 0x30 ≤ n ∧ n ≤ 0x39 then some (n - 0x30)
  else if 0x61 ≤ n ∧ n ≤ 0x66 then some (n - 0x61 + 10)
  else if 0x41 ≤ n ∧ n ≤ 0x46 then some (n - 0x41 + 10)
  else none

/-- Read four hexadecimal digits. -/
def readHex4 : List Char → Option (Nat × List Char)
  | a :: b :: c :: d :: rest => do
    let va ← hexValue a
    let vb ← hexValue b
    let vc ← hexValue c
    let vd ← hexValue d
    some (((va * 16 + vb) * 16 + vc) * 16 + vd, rest)
  | _ => none

/-- Read the characters of a string up to its closing quote; `fuel` bounds the length. -/
def readStringBody : Nat → List Char → List Char → Option (String × List Char)
  | 0, _, _ => none
  | _ + 1, _, [] => none
  | fuel + 1, acc, c :: rest =>
    if c == '"' then some (String.ofList acc.reverse, rest)
    else if c.toNat < 0x20 then none
    else if c == '\\' then
      match rest with
      | 'n' :: r => readStringBody fuel ('\n' :: acc) r
      | 't' :: r => readStringBody fuel ('\t' :: acc) r
      | 'r' :: r => readStringBody fuel ('\r' :: acc) r
      | 'b' :: r => readStringBody fuel ('\x08' :: acc) r
      | 'f' :: r => readStringBody fuel ('\x0c' :: acc) r
      | '/' :: r => readStringBody fuel ('/' :: acc) r
      | '\\' :: r => readStringBody fuel ('\\' :: acc) r
      | '"' :: r => readStringBody fuel ('"' :: acc) r
      | 'u' :: r =>
        match readHex4 r with
        | none => none
        | some (code, r) =>
          if 0xD800 ≤ code ∧ code ≤ 0xDBFF then
            match r with
            | '\\' :: 'u' :: r2 =>
              match readHex4 r2 with
              | some (low, r3) =>
                if 0xDC00 ≤ low ∧ low ≤ 0xDFFF then
                  let cp := 0x10000 + (code - 0xD800) * 0x400 + (low - 0xDC00)
                  readStringBody fuel (Char.ofNat cp :: acc) r3
                else none
              | none => none
            | _ => none
          else if 0xDC00 ≤ code ∧ code ≤ 0xDFFF then none
          else readStringBody fuel (Char.ofNat code :: acc) r
      | _ => none
    else readStringBody fuel (c :: acc) rest

mutual
/-- Read one value after optional blanks; `fuel` bounds the nesting and the length. -/
def readValue : Nat → List Char → Option (Json × List Char)
  | 0, _ => none
  | fuel + 1, cs =>
    match skipSpace cs with
    | 'n' :: 'u' :: 'l' :: 'l' :: rest => some (.null, rest)
    | 't' :: 'r' :: 'u' :: 'e' :: rest => some (.bool true, rest)
    | 'f' :: 'a' :: 'l' :: 's' :: 'e' :: rest => some (.bool false, rest)
    | '"' :: rest => (readStringBody (rest.length + 1) [] rest).map (fun (s, r) => (.str s, r))
    | '[' :: rest =>
      match skipSpace rest with
      | ']' :: r => some (.arr [], r)
      | _ => (readItems fuel [] rest).map (fun (xs, r) => (.arr xs, r))
    | '{' :: rest =>
      match skipSpace rest with
      | '}' :: r => some (.obj [], r)
      | _ => (readMembers fuel [] rest).map (fun (fs, r) => (.obj fs, r))
    | cs' => (readNumber cs').map (fun (n, r) => (.num n, r))

/-- Read array items after `[`, up to and including `]`. -/
def readItems : Nat → List Json → List Char → Option (List Json × List Char)
  | 0, _, _ => none
  | fuel + 1, acc, cs =>
    match readValue fuel cs with
    | none => none
    | some (v, rest) =>
      match skipSpace rest with
      | ',' :: r => readItems fuel (v :: acc) r
      | ']' :: r => some ((v :: acc).reverse, r)
      | _ => none

/-- Read object members after `{`, up to and including `}`. -/
def readMembers : Nat → Fields → List Char → Option (Fields × List Char)
  | 0, _, _ => none
  | fuel + 1, acc, cs =>
    match skipSpace cs with
    | '"' :: rest =>
      match readStringBody (rest.length + 1) [] rest with
      | none => none
      | some (key, r) =>
        match skipSpace r with
        | ':' :: r' =>
          match readValue fuel r' with
          | none => none
          | some (v, r'') =>
            let acc := Fields.insert acc key v
            match skipSpace r'' with
            | ',' :: r3 => readMembers fuel acc r3
            | '}' :: r3 => some (acc, r3)
            | _ => none
        | _ => none
    | _ => none
end

end JsonText

namespace Json

mutual
/-- The number of arrays and objects on the deepest path into a value. -/
def nesting : Json → Nat
  | .arr items => nestingItems items + 1
  | .obj fs => nestingFields fs + 1
  | _ => 0

/-- The deepest nesting among items. -/
def nestingItems : List Json → Nat
  | [] => 0
  | j :: rest => max (nesting j) (nestingItems rest)

/-- The deepest nesting among member values. -/
def nestingFields : List (String × Json) → Nat
  | [] => 0
  | (_, j) :: rest => max (nesting j) (nestingFields rest)
end

/-- The deepest nesting of arrays and objects a text may have. -/
def maxNesting : Nat := 127

/-- Read a whole text as one JSON value; `none` when it is not one. -/
def parse (s : String) : Option Json :=
  let cs := s.toList
  match JsonText.readValue (2 * cs.length + 2) cs with
  | some (v, rest) =>
    if (JsonText.skipSpace rest).isEmpty && nesting v ≤ maxNesting then some v else none
  | none => none

end Json

namespace Number

/-- The text of a number. -/
def render : Number → String
  | .nat n => toString n
  | .neg n => toString n
  | .float x => x.jsonText

end Number

namespace JsonText

/-- The four lower-case hexadecimal digits of a code unit. -/
def hex4 (n : Nat) : String :=
  let ds := Nat.toDigits 16 n
  String.ofList (List.replicate (4 - ds.length) '0' ++ ds)

/-- A character inside a written string. -/
def escapeChar (c : Char) : String :=
  match c with
  | '"' => "\\\""
  | '\\' => "\\\\"
  | '\n' => "\\n"
  | '\r' => "\\r"
  | '\t' => "\\t"
  | c =>
    if c.toNat == 8 then "\\b"
    else if c.toNat == 12 then "\\f"
    else if c.toNat < 0x20 then "\\u" ++ hex4 c.toNat
    else c.toString

/-- A string literal. -/
def quote (s : String) : String := "\"" ++ String.join (s.toList.map escapeChar) ++ "\""

end JsonText

namespace Json

mutual
/-- The compact text of a value. -/
def render : Json → String
  | .null => "null"
  | .bool true => "true"
  | .bool false => "false"
  | .num n => n.render
  | .str s => JsonText.quote s
  | .arr xs => "[" ++ renderItems xs ++ "]"
  | .obj fs => "\x7b" ++ renderMembers fs ++ "\x7d"

/-- Array items separated by commas. -/
def renderItems : List Json → String
  | [] => ""
  | [x] => render x
  | x :: xs => render x ++ "," ++ renderItems xs

/-- Object members separated by commas. -/
def renderMembers : List (String × Json) → String
  | [] => ""
  | [(k, v)] => JsonText.quote k ++ ":" ++ render v
  | (k, v) :: rest => JsonText.quote k ++ ":" ++ render v ++ "," ++ renderMembers rest
end

end Json

end OlmProvision
