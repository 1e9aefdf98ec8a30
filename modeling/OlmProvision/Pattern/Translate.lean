import OlmProvision.Pattern.Ranges

/-
Giving a parsed pattern its meaning: a tree of character sets, zero-width tests, sequences,
alternatives and repetitions.

Flags are read in order. A flag group `(?flags)` changes them for the rest of the enclosing
group, across later branches too; `(?flags:...)` changes them for its inside only. Unicode mode
is on at the start, every other flag off.

The filter is built without Unicode tables, which decides most refusals:

* in Unicode mode, case-insensitive matching is refused at the first literal, or at the first
  nonempty class, that it would apply to;
* in Unicode mode, `\d`, `\s` and `\w` are refused, and every `\p` class is refused as an
  unknown property (or, for the general categories `Cf`, `Sc` and `LC`, as an unknown value);
* without Unicode mode, `.`, a `\xHH` escape above `7F`, a negated Perl or ASCII class, or a
  class that takes any byte above `7F`, are refused since they could match inside a character;
  a non-ASCII literal in a class, and any `\p` class, are refused as Unicode.

Unicode word boundaries are accepted here but cannot be built into a matcher; `needsWordTables`
tells them apart.
-/
namespace OlmProvision.Pattern

/-- Zero-width tests: text start and end, line start and end for `\n` or for `\r\n` lines, and
the word-boundary tests over ASCII word characters. `unicodeWord` stands for every word test in
Unicode mode. -/
inductive Look where
  | start
  | finish
  | startLF
  | endLF
  | startCRLF
  | endCRLF
  | wordAscii
  | notWordAscii
  | wordStartAscii
  | wordEndAscii
  | wordStartHalfAscii
  | wordEndHalfAscii
  | unicodeWord
deriving Repr, DecidableEq, Inhabited

/-- The meaning of a pattern. Classes are sets of code points; a repetition has its least count
and its greatest, if any. -/
inductive Hir where
  | empty
  | chars (set : Ranges)
  | look (l : Look)
  | repeat (lo : Nat) (hi : Option Nat) (sub : Hir)
  | concat (items : List Hir)
  | alt (branches : List Hir)
deriving Repr, Inhabited

/-- The flags in force. -/
structure Modes where
  caseInsensitive : Bool
  multiLine : Bool
  dotAll : Bool
  unicode : Bool
  crlf : Bool
deriving Repr, Inhabited

/-- The flags at the start of a pattern. -/
def Modes.initial : Modes := ⟨false, false, false, true, false⟩

/-- The flags after a flag group. -/
def Modes.set (m : Modes) (s : Settings) : Modes :=
  s.foldl (fun m (f, v) =>
    match f with
    | .caseInsensitive => { m with caseInsensitive := v }
    | .multiLine => { m with multiLine := v }
    | .dotAll => { m with dotAll := v }
    | .unicode => { m with unicode := v }
    | .crlf => { m with crlf := v }
    | .swapGreed | .ignoreWhitespace => m) m

/-- Refuse at `span`. -/
def refuseAt {α : Type} (kind : ErrorKind) (span : Span) : Except PatternError α :=
  .error ⟨kind, span, none⟩

/-- A property name reduced for lookup: lower case ASCII, without blanks, `_` and `-`, and
without a leading `is`. -/
def normalizeName (name : String) : String :=
  let cs := name.toList
  let hasIs := match cs with
    | a :: b :: _ => a.toLower == 'i' && b.toLower == 's'
    | _ => false
  let body := if hasIs then cs.drop 2 else cs
  let kept := (body.filter fun c => c != ' ' && c != '_' && c != '-' && c.toNat < 0x80).map
    Char.toLower
  if hasIs && kept == ['c'] then "isc" else String.ofList kept

/-- The refusal for a Unicode class. Only the general categories `Cf`, `Sc` and `LC`, asked for
by name, get as far as looking for their value. -/
def unicodeClassError : UnicodeQuery → ErrorKind
  | .oneLetter c =>
    let n := normalizeName (String.singleton c)
    if n == "cf" || n == "sc" || n == "lc" then .unicodePropertyValueNotFound
    else .unicodePropertyNotFound
  | .named name =>
    let n := normalizeName name
    if n == "cf" || n == "sc" || n == "lc" then .unicodePropertyValueNotFound
    else .unicodePropertyNotFound
  | .byValue _ _ => .unicodePropertyNotFound

/-- The byte a literal stands for in a class without Unicode. -/
def classByte (l : Literal) : Except PatternError Nat :=
  if l.byteEscape && 0x80 ≤ l.char.toNat then refuseAt .invalidUtf8 l.span
  else if l.char.toNat < 0x80 then .ok l.char.toNat
  else refuseAt .unicodeNotAllowed l.span

/-- Fold case and negate a class in Unicode mode: case folding is unavailable for any nonempty
class. -/
def unicodeFinish (m : Modes) (span : Span) (negated : Bool) (rs : Ranges) :
    Except PatternError Ranges :=
  if m.caseInsensitive && !rs.isEmpty then refuseAt .unicodeCaseUnavailable span
  else .ok (if negated then Ranges.complement Ranges.maxChar rs else rs)

/-- Fold case and negate a byte class; a byte class must stay within ASCII. -/
def byteFinish (m : Modes) (span : Span) (negated : Bool) (rs : Ranges) :
    Except PatternError Ranges :=
  let rs := if m.caseInsensitive then Ranges.foldAscii rs else rs
  let rs := if negated then Ranges.complement 0xFF rs else rs
  if rs.isAscii then .ok rs else refuseAt .invalidUtf8 span

/-- The code points of a class item under the flags `m`. -/
def classRanges (m : Modes) : ClassItem → Except PatternError Ranges
  | .empty _ => .ok []
  | .literal l =>
    if m.unicode then .ok [(l.char.toNat, l.char.toNat)]
    else do
      let b ← classByte l
      return [(b, b)]
  | .range _ lo hi =>
    if m.unicode then .ok [(lo.char.toNat, hi.char.toNat)]
    else do
      let a ← classByte lo
      let b ← classByte hi
      return [(a, b)]
  | .ascii span kind negated =>
    if m.unicode then unicodeFinish m span negated kind.ranges
    else byteFinish m span negated kind.ranges
  | .unicode span query _ =>
    if m.unicode then refuseAt (unicodeClassError query) span
    else refuseAt .unicodeNotAllowed span
  | .perl span kind negated =>
    if m.unicode then refuseAt .unicodePerlClassNotFound span
    else byteFinish ⟨false, false, false, false, false⟩ span negated kind.asciiRanges
  | .bracketed span negated inner => do
    let rs ← classRanges m inner
    if m.unicode then unicodeFinish m span negated rs else byteFinish m span negated rs
  | .union _ items => unionRanges m items
  | .op _ kind lhs rhs => do
    let a ← classRanges m lhs
    let b ← classRanges m rhs
    if m.unicode && m.caseInsensitive then
      if !b.isEmpty then refuseAt .unicodeCaseUnavailable rhs.span
      else if !a.isEmpty then refuseAt .unicodeCaseUnavailable lhs.span
      else .ok []
    else
      let (a, b) := if m.caseInsensitive then (a.foldAscii, b.foldAscii) else (a, b)
      return Ranges.apply (if m.unicode then Ranges.maxChar else 0xFF) kind a b
where
  /-- The union of the code points of class items, read in order. -/
  unionRanges (m : Modes) : List ClassItem → Except PatternError Ranges
    | [] => .ok []
    | i :: rest => do
      let a ← classRanges m i
      let b ← unionRanges m rest
      return Ranges.union a b

/-- The zero-width test of an assertion under the flags `m`. -/
def lookOf (m : Modes) : Assertion → Look
  | .startLine => if m.multiLine then (if m.crlf then .startCRLF else .startLF) else .start
  | .endLine => if m.multiLine then (if m.crlf then .endCRLF else .endLF) else .finish
  | .startText => .start
  | .endText => .finish
  | .wordBoundary => if m.unicode then .unicodeWord else .wordAscii
  | .notWordBoundary => if m.unicode then .unicodeWord else .notWordAscii
  | .wordStart => if m.unicode then .unicodeWord else .wordStartAscii
  | .wordEnd => if m.unicode then .unicodeWord else .wordEndAscii
  | .wordStartHalf => if m.unicode then .unicodeWord else .wordStartHalfAscii
  | .wordEndHalf => if m.unicode then .unicodeWord else .wordEndHalfAscii

/-- The meaning of a literal under the flags `m`. -/
def literalHir (m : Modes) (l : Literal) : Except PatternError Hir :=
  let c := l.char.toNat
  if m.unicode then
    if m.caseInsensitive then refuseAt .unicodeCaseUnavailable l.span
    else .ok (.chars [(c, c)])
  else if l.byteEscape && 0x80 ≤ c then refuseAt .invalidUtf8 l.span
  else if m.caseInsensitive && c < 0x80 then .ok (.chars (Ranges.foldAscii [(c, c)]))
  else .ok (.chars [(c, c)])

/-- The meaning of `.` under the flags `m`. -/
def dotHir (m : Modes) (span : Span) : Except PatternError Hir :=
  if !m.unicode then refuseAt .invalidUtf8 span
  else if m.dotAll then .ok (.chars [(0, Ranges.maxChar)])
  else if m.crlf then .ok (.chars [(0, 0x09), (0x0B, 0x0C), (0x0E, Ranges.maxChar)])
  else .ok (.chars [(0, 0x09), (0x0B, Ranges.maxChar)])

mutual

/-- The meaning of a pattern under the flags `m`, and the flags after it. -/
def translate (m : Modes) : Ast → Except PatternError (Hir × Modes)
  | .empty => .ok (.empty, m)
  | .setFlags s => .ok (.empty, m.set s)
  | .literal l => do return (← literalHir m l, m)
  | .dot span => do return (← dotHir m span, m)
  | .assertion _ kind => .ok (.look (lookOf m kind), m)
  | .unicode span query _ =>
    if m.unicode then refuseAt (unicodeClassError query) span
    else refuseAt .unicodeNotAllowed span
  | .perl span kind negated =>
    if m.unicode then refuseAt .unicodePerlClassNotFound span
    else do
      let rs ← byteFinish ⟨false, false, false, false, false⟩ span negated kind.asciiRanges
      return (.chars rs, m)
  | .bracketed span negated set => do
    let rs ← classRanges m set
    let rs ← if m.unicode then unicodeFinish m span negated rs else byteFinish m span negated rs
    return (.chars rs, m)
  | .repetition lo hi sub => do
    let (h, _) ← translate m sub
    return (.repeat lo hi h, m)
  | .group flags sub => do
    let inner := match flags with
      | some s => m.set s
      | none => m
    let (h, _) ← translate inner sub
    return (h, m)
  | .alternation branches => do
    let (hs, m') ← translateAll m branches
    return (.alt hs, m')
  | .concat items => do
    let (hs, m') ← translateAll m items
    return (.concat hs, m')

/-- The meanings of patterns read one after another, flags carried from each to the next. -/
def translateAll (m : Modes) : List Ast → Except PatternError (List Hir × Modes)
  | [] => .ok ([], m)
  | a :: rest => do
    let (h, m') ← translate m a
    let (hs, m'') ← translateAll m' rest
    return (h :: hs, m'')

end

mutual

/-- Whether a meaning holds a Unicode word test. -/
def Hir.needsWordTables : Hir → Bool
  | .empty => false
  | .chars _ => false
  | .look l => l == .unicodeWord
  | .repeat _ _ sub => sub.needsWordTables
  | .concat items => Hir.anyNeedsWordTables items
  | .alt branches => Hir.anyNeedsWordTables branches

/-- Whether any of the meanings holds a Unicode word test. -/
def Hir.anyNeedsWordTables : List Hir → Bool
  | [] => false
  | h :: rest => h.needsWordTables || Hir.anyNeedsWordTables rest

end

end OlmProvision.Pattern
