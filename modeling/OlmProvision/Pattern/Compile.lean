import OlmProvision.Pattern.Parse
import OlmProvision.Pattern.Match

/-
Compiling a message pattern, and the text of a refusal.

A refusal shows the pattern with carets under the stretch it is about:

    regex parse error:
        (?i)RESOLVED
            ^
    error: <what is wrong>

The pattern is indented by four columns and each caret column is a character of it; an empty
stretch still gets one caret, and a duplicate's earlier occurrence gets carets of its own on the
same line. A pattern of several lines is printed between two rules of 79 `~`, each line
numbered, with carets under the line a stretch lies on; a stretch across lines is named by its
lines and columns instead.

A pattern that reads and has a meaning can still hold a Unicode word test, which this build
cannot match; it is refused with the text `error building NFA`.
-/
namespace OlmProvision.Pattern

/-- The line and column of a position, both counted from 1. -/
def lineColumn (chars : List Char) (p : Nat) : Nat × Nat :=
  let before := chars.take p
  (1 + before.count '\n', 1 + (before.reverse.takeWhile (· != '\n')).length)

/-- The lines of a text: split at line breaks, a carriage return ending a line dropped, and
nothing after a final line break. -/
def textLines (s : String) : List String :=
  let parts := s.splitOn "\n"
  let parts := if s.endsWith "\n" then parts.dropLast else parts
  let parts := if s.isEmpty then [] else parts
  parts.map fun l => if l.endsWith "\r" then String.ofList l.toList.dropLast else l

/-- `n` copies of `c`. -/
def repeatChar (c : Char) (n : Nat) : String := String.ofList (List.replicate n c)

/-- The caret line for the stretches of one line, sorted, after `pad` columns. -/
def caretLine (pad : Nat) (spans : List ((Nat × Nat) × (Nat × Nat))) : String :=
  let (text, _) := spans.foldl (fun (acc, col) ((_, c0), (_, c1)) =>
    let gap := c0 - 1 - col
    let width := max 1 (c1 - c0)
    (acc ++ repeatChar ' ' gap ++ repeatChar '^' width, col + gap + width)) ("", 0)
  repeatChar ' ' pad ++ text

/-- Insert a stretch into a list sorted by start, then end. -/
def insertSpan (s : Span) : List Span → List Span
  | [] => [s]
  | t :: rest =>
    if s.start < t.start || (s.start == t.start && s.stop ≤ t.stop) then s :: t :: rest
    else t :: insertSpan s rest

/-- The notated lines of the pattern for a refusal. -/
def notate (pattern : String) (e : PatternError) : String × List String :=
  let chars := pattern.toList
  let lines := textLines pattern
  let lineCount := lines.length + (if pattern.endsWith "\n" then 1 else 0)
  let width := if lineCount ≤ 1 then 0 else (toString lineCount).length
  let pad := if width == 0 then 4 else 2 + width
  let spans := match e.earlier with
    | some o => insertSpan o [e.span]
    | none => [e.span]
  let located := spans.map fun s => (lineColumn chars s.start, lineColumn chars s.stop)
  let oneLine := located.filter fun (a, b) => a.1 == b.1
  let multi := located.filter fun (a, b) => a.1 != b.1
  let body := (lines.zipIdx.map fun (line, i) =>
    let number := toString (i + 1)
    let lead := if width == 0 then "    "
      else repeatChar ' ' (width - number.length) ++ number ++ ": "
    let here := oneLine.filter fun (a, _) => a.1 == i + 1
    lead ++ line ++ "\n" ++ (if here.isEmpty then "" else caretLine pad here ++ "\n"))
  let notes := multi.map fun (a, b) =>
    "on line " ++ toString a.1 ++ " (column " ++ toString a.2 ++ ") through line " ++
      toString b.1 ++ " (column " ++ toString (b.2 - 1) ++ ")"
  (String.join body, notes)

/-- The text of a refusal of `pattern`. -/
def errorText (pattern : String) (e : PatternError) : String :=
  let (body, notes) := notate pattern e
  if pattern.toList.contains '\n' then
    let rule := repeatChar '~' 79
    "regex parse error:\n" ++ rule ++ "\n" ++ body ++ rule ++ "\n" ++
      String.join (notes.map (· ++ "\n")) ++ "error: " ++ e.kind.message
  else "regex parse error:\n" ++ body ++ "error: " ++ e.kind.message

/-- A pattern's meaning, or the text it is refused with. -/
def compile (pattern : String) : Except String Hir :=
  match parse pattern with
  | .error e => .error (errorText pattern e)
  | .ok ast =>
    match translate Modes.initial ast with
    | .error e => .error (errorText pattern e)
    | .ok (h, _) => if h.needsWordTables then .error "error building NFA" else .ok h

end OlmProvision.Pattern
