/-
Writing flat YAML documents: a document marker, then one `key: value` line per entry.

A scalar is written plain unless a reader could take it for something else. It is quoted when
it is empty, starts or ends with a space, starts with one of `& * ? | - < > = ! % @` or a dot,
starts with `0x`, contains a flow, comment or quoting character (`: { } [ ] , # ` " ' \`) or a
control character other than those YAML allows, is one of the words YAML 1.1 reads as a boolean
or as null, or reads as a number. A quoted scalar is written in double quotes with `"` and `\`
escaped, the common control characters as `\b \t \n \f \r`, and the others as `\u00XX`.
-/
namespace OlmProvision.Yaml

/-- Whether a scalar starting with `c` must be quoted. -/
def quotedStart (c : Char) : Bool :=
  "&*?|-<>=!%@".toList.contains c

/-- Whether a scalar containing `c` must be quoted. -/
def quotedInside (c : Char) : Bool :=
  ":\x7b\x7d[],#`\"'\\".toList.contains c ||
    (c.toNat ≤ 6) || c == '\t' || c == '\n' || c == '\r' ||
    (0x0e ≤ c.toNat && c.toNat ≤ 0x1a) || (0x1c ≤ c.toNat && c.toNat ≤ 0x1f)

/-- The words YAML 1.1 reads as booleans or null. -/
def reservedWords : List String :=
  ["yes", "Yes", "YES", "no", "No", "NO", "True", "TRUE", "true", "False", "FALSE", "false",
   "on", "On", "ON", "off", "Off", "OFF", "null", "Null", "NULL", "~"]

/-- The characters after an optional sign. -/
def dropSign : List Char → List Char
  | '+' :: cs => cs
  | '-' :: cs => cs
  | cs => cs

/-- Whether `cs` is an exponent: `e` or `E`, an optional sign, and one or more digits. -/
def isExponent : List Char → Bool
  | c :: cs =>
    (c == 'e' || c == 'E') &&
      (let ds := dropSign cs
       !ds.isEmpty && ds.all Char.isDigit)
  | [] => false

/-- Whether `cs` is a decimal number: digits with an optional point, at least one digit in all,
and an optional exponent. -/
def isDecimal (cs : List Char) : Bool :=
  let whole := cs.takeWhile Char.isDigit
  let rest := cs.dropWhile Char.isDigit
  let (fraction, rest) := match rest with
    | '.' :: more => (more.takeWhile Char.isDigit, more.dropWhile Char.isDigit)
    | _ => ([], rest)
  (whole.length + fraction.length > 0) && (rest.isEmpty || isExponent rest)

/-- Whether the text reads as a number: a sign, then a decimal number, `inf`, `infinity` or
`nan` in any case. -/
def readsAsNumber (s : String) : Bool :=
  let cs := dropSign s.toList
  let word := String.ofList (cs.map Char.toLower)
  word == "inf" || word == "infinity" || word == "nan" || isDecimal cs

/-- Whether a scalar must be quoted. -/
def needsQuotes (s : String) : Bool :=
  s.isEmpty || s.startsWith " " || s.endsWith " " ||
    (match s.toList with
     | c :: _ => quotedStart c || c == '.'
     | [] => false) ||
    s.startsWith "0x" || s.toList.any quotedInside || reservedWords.contains s || readsAsNumber s

/-- Four hexadecimal digits of `n`. -/
def hex4 (n : Nat) : String :=
  let digit (d : Nat) : Char := if d < 10 then Char.ofNat (48 + d) else Char.ofNat (87 + d)
  String.ofList [digit (n / 4096 % 16), digit (n / 256 % 16), digit (n / 16 % 16), digit (n % 16)]

/-- One character inside double quotes. -/
def quotedChar (c : Char) : String :=
  match c with
  | '"' => "\\\""
  | '\\' => "\\\\"
  | '\t' => "\\t"
  | '\n' => "\\n"
  | '\r' => "\\r"
  | _ =>
    if c.toNat == 8 then "\\b"
    else if c.toNat == 12 then "\\f"
    else if c.toNat < 32 || c.toNat == 127 then "\\u" ++ hex4 c.toNat
    else c.toString

/-- A scalar as written. -/
def scalar (s : String) : String :=
  if needsQuotes s then "\"" ++ String.join (s.toList.map quotedChar) ++ "\"" else s

/-- A document of one mapping from keys to scalars, in the given order. -/
def mappingDocument (entries : List (String × String)) : String :=
  "---\n" ++ String.join (entries.map (fun (k, v) => scalar k ++ ": " ++ scalar v ++ "\n"))

end OlmProvision.Yaml
