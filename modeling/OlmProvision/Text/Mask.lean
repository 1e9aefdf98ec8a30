/-
Redacting date-times in text, so that logs and messages compare across runs.

A date-time is `YYYY-MM-DDTHH:MM:SS` in digits, optionally followed by `.` and any number of
digits (none too: a bare point after the seconds is part of it), and then optionally by `Z` or
by `+HH:MM` or `-HH:MM`. Every date-time is replaced by
`<timestamp>`, scanning left to right and taking the longest date-time at each position.
-/
namespace OlmProvision.Text

/-- The placeholder of a redacted date-time. -/
def timestampPlaceholder : String := "<timestamp>"

/-- `n` digits at the start of `cs`, and the rest. -/
def takeDigits : Nat → List Char → Option (List Char)
  | 0, cs => some cs
  | n + 1, c :: cs => if c.isDigit then takeDigits n cs else none
  | _ + 1, [] => none

/-- The characters after a literal `c`. -/
def takeChar (c : Char) : List Char → Option (List Char)
  | d :: cs => if c == d then some cs else none
  | [] => none

/-- The rest after a fraction, a point and any digits after it, or the input without one. -/
def skipFraction : List Char → List Char
  | '.' :: cs => cs.dropWhile Char.isDigit
  | cs => cs

/-- The rest after a zone `Z` or `±HH:MM`, or the input without one. -/
def skipZone : List Char → List Char
  | 'Z' :: cs => cs
  | s :: cs =>
    if s == '+' || s == '-' then
      match (takeDigits 2 cs).bind (takeChar ':') |>.bind (takeDigits 2) with
      | some rest => rest
      | none => s :: cs
    else s :: cs
  | [] => []

/-- The rest after a date-time at the start of `cs`, if one starts there. -/
def matchDateTime (cs : List Char) : Option (List Char) := do
  let cs ← takeDigits 4 cs
  let cs ← takeChar '-' cs
  let cs ← takeDigits 2 cs
  let cs ← takeChar '-' cs
  let cs ← takeDigits 2 cs
  let cs ← takeChar 'T' cs
  let cs ← takeDigits 2 cs
  let cs ← takeChar ':' cs
  let cs ← takeDigits 2 cs
  let cs ← takeChar ':' cs
  let cs ← takeDigits 2 cs
  return skipZone (skipFraction cs)

/-- Redact the date-times of a character list; `fuel` bounds the characters scanned. -/
def maskChars : Nat → List Char → List Char
  | 0, cs => cs
  | _ + 1, [] => []
  | fuel + 1, c :: cs =>
    match matchDateTime (c :: cs) with
    | some rest => timestampPlaceholder.toList ++ maskChars fuel rest
    | none => c :: maskChars fuel cs

/-- Replace every date-time in `s` by `<timestamp>`. -/
def maskTimestamps (s : String) : String :=
  String.ofList (maskChars (s.length + 1) s.toList)

end OlmProvision.Text
