import OlmProvision.Pattern.Syntax
import OlmProvision.Text.Blank

/-
Reading a message pattern into its parsed form.

The reader walks the pattern one character at a time, keeping the items of the sequence being
read, innermost group first on a stack. `(` opens a group (or sets flags, for `(?flags)`),
`)` closes the innermost one, `|` ends a branch, `[` reads a whole bracketed class, `?`, `*`,
`+` and `{` repeat the item before them, and anything else is read as one primitive: an escape,
`.`, `^`, `$` or a literal character.

With the `x` flag, blanks and `#` comments between items are skipped. A repetition needs an item
to repeat: nothing, or a flag group, before it is an error, and a `{` that does not start a valid
count is an error rather than a literal. A bracketed class is read with its own stack of open
classes and pending set operations; operations group to the left.

Every loop consumes a character per round, so the pattern's length (plus one) is enough fuel;
the fuel-out branches are never taken.
-/
namespace OlmProvision.Pattern

/-- The reader's place in the pattern: its characters, the position, whether blanks are
skipped, and the group names read so far with where they were written. -/
structure Cursor where
  chars : Array Char
  pos : Nat
  ignoreWs : Bool
  names : List (String × Span)

/-- Reading with a cursor, or a refusal. -/
abbrev Reader := StateT Cursor (Except PatternError)

/-- Refuse the pattern. -/
def refuse {α : Type} (kind : ErrorKind) (span : Span) : Reader α :=
  throw ⟨kind, span, none⟩

/-- The current position. -/
def here : Reader Nat := return (← get).pos

/-- Whether the whole pattern has been read. -/
def atEnd : Reader Bool := do
  let c ← get
  return c.chars.size ≤ c.pos

/-- The current character (a NUL past the end). -/
def current : Reader Char := do
  let c ← get
  return c.chars.getD c.pos '\x00'

/-- The character after the current one. -/
def peekNext : Reader (Option Char) := do
  let c ← get
  return c.chars[c.pos + 1]?

/-- Move to `p`. -/
def moveTo (p : Nat) : Reader Unit := modify fun c => { c with pos := p }

/-- Step over the current character; whether a character follows. -/
def bump : Reader Bool := do
  let c ← get
  if c.pos < c.chars.size then set { c with pos := c.pos + 1 }
  return !(← atEnd)

/-- The position after the `#` comment whose text starts at `p`: past its line break. -/
def commentEnd (chars : Array Char) : Nat → Nat → Nat
  | 0, p => p
  | fuel + 1, p =>
    match chars[p]? with
    | some '\n' => p + 1
    | some _ => commentEnd chars fuel (p + 1)
    | none => p

/-- The first position from `p` on that is neither a blank nor inside a `#` comment. -/
def pastSpace (chars : Array Char) : Nat → Nat → Nat
  | 0, p => p
  | fuel + 1, p =>
    match chars[p]? with
    | some c =>
      if Text.isBlank c then pastSpace chars fuel (p + 1)
      else if c == '#' then pastSpace chars fuel (commentEnd chars chars.size (p + 1))
      else p
    | none => p

/-- Skip blanks and comments, when the `x` flag is on. -/
def skipSpace : Reader Unit := do
  let c ← get
  if c.ignoreWs then set { c with pos := pastSpace c.chars c.chars.size c.pos }

/-- Step over the current character and what `skipSpace` skips; whether a character follows. -/
def bumpSkip : Reader Bool := do
  if !(← bump) then return false
  skipSpace
  return !(← atEnd)

/-- The next character that is not skipped, after the current one. When everything after it
is skipped, the character right after it. -/
def peekSpace : Reader (Option Char) := do
  let c ← get
  if !c.ignoreWs then return c.chars[c.pos + 1]?
  if c.chars.size ≤ c.pos then return none
  let rec go : Nat → Nat → Bool → Option Nat
    | 0, _, _ => none
    | fuel + 1, p, inComment =>
      match c.chars[p]? with
      | none => none
      | some ch =>
        if Text.isBlank ch then go fuel (p + 1) inComment
        else if !inComment && ch == '#' then go fuel (p + 1) true
        else if inComment && ch == '\n' then go fuel (p + 1) false
        else some p
  match go c.chars.size (c.pos + 1) false with
  | some p => return c.chars[p]?
  | none => return c.chars[c.pos + 1]?

/-- Whether the characters from `p` on start with `s`. -/
def startsAt (chars : Array Char) (p : Nat) (s : List Char) : Bool :=
  (chars.toList.drop p).take s.length == s

/-- Step over `s` if the pattern continues with it. -/
def bumpIf (s : String) : Reader Bool := do
  let c ← get
  if startsAt c.chars c.pos s.toList then
    set { c with pos := c.pos + s.length }
    return true
  else return false

/-- The characters from `a` up to `b`. -/
def slice (a b : Nat) : Reader String := do
  return String.ofList (((← get).chars.toList.drop a).take (b - a))

/-- A primitive: what one escape or character stands for. -/
inductive Primitive where
  | literal (l : Literal)
  | assertion (span : Span) (kind : Assertion)
  | dot (span : Span)
  | perl (span : Span) (kind : PerlClass) (negated : Bool)
  | unicode (span : Span) (query : UnicodeQuery) (negated : Bool)

namespace Primitive

/-- The stretch a primitive was read from. -/
def span : Primitive → Span
  | .literal l => l.span
  | .assertion s _ => s
  | .dot s => s
  | .perl s _ _ => s
  | .unicode s _ _ => s

/-- A primitive as an item of a sequence. -/
def toAst : Primitive → Ast
  | .literal l => .literal l
  | .assertion s k => .assertion s k
  | .dot s => .dot s
  | .perl s k n => .perl s k n
  | .unicode s q n => .unicode s q n

/-- A primitive as a class item: assertions and `.` have no place in a class. -/
def toClassItem : Primitive → Reader ClassItem
  | .literal l => return .literal l
  | .perl s k n => return .perl s k n
  | .unicode s q n => return .unicode s q n
  | p => refuse .classEscapeInvalid p.span

/-- A primitive as the end of a class range, which must be a literal. -/
def toRangeEnd : Primitive → Reader Literal
  | .literal l => return l
  | p => refuse .classRangeLiteral p.span

end Primitive

/-- The characters a `\` makes literal and that have a meaning of their own. -/
def isMetaChar (c : Char) : Bool := "\\.+*?()|[]\x7b\x7d^$#&-~".toList.contains c

/-- The characters a `\` may make literal: the meta characters and every other ASCII character
that is no letter, no digit and neither `<` nor `>`. -/
def isEscapable (c : Char) : Bool :=
  isMetaChar c || (c.toNat < 0x80 && !c.isAlphanum && c != '<' && c != '>')

/-- Whether `c` is a hexadecimal digit. -/
def isHexDigit (c : Char) : Bool :=
  c.isDigit || ('a' ≤ c && c ≤ 'f') || ('A' ≤ c && c ≤ 'F')

/-- The value of hexadecimal digits. -/
def hexValue (ds : List Char) : Nat :=
  ds.foldl (fun n c =>
    let d := if c.isDigit then c.toNat - '0'.toNat
      else if 'a' ≤ c && c ≤ 'f' then c.toNat - 'a'.toNat + 10
      else c.toNat - 'A'.toNat + 10
    16 * n + d) 0

/-- The character with code point `n`, unless `n` is a surrogate or too large. -/
def scalar? (n : Nat) : Option Char :=
  if n < 0xD800 || (0xE000 ≤ n && n ≤ 0x10FFFF) then some (Char.ofNat n) else none

/-- Whether `c` may be in a group name (`first`: as its first character). Characters outside
ASCII count as letters. -/
def isNameChar (c : Char) (first : Bool) : Bool :=
  let letter := c.isAlpha || 0x80 ≤ c.toNat
  if first then c == '_' || letter
  else c == '_' || c == '.' || c == '[' || c == ']' || letter || c.isDigit

/-- `\x`, `\u` or `\U` followed by exactly `n` hexadecimal digits. -/
def hexDigits (n : Nat) (isX : Bool) : Reader Literal := do
  let start ← here
  let rec go : Nat → Nat → List Char → Reader (List Char)
    | 0, _, ds => return ds.reverse
    | k + 1, i, ds => do
      if 0 < i then
        if !(← bumpSkip) then
          let p ← here
          refuse .escapeUnexpectedEof ⟨p, p⟩
      let c ← current
      if !isHexDigit c then
        let p ← here
        refuse .escapeHexInvalidDigit ⟨p, p + 1⟩
      go k (i + 1) (c :: ds)
  let ds ← go n 0 []
  let _ ← bumpSkip
  let stop ← here
  match scalar? (hexValue ds) with
  | some ch => return ⟨⟨start, stop⟩, ch, isX⟩
  | none => refuse .escapeHexInvalid ⟨start, stop⟩

/-- `\x`, `\u` or `\U` followed by hexadecimal digits in braces. -/
def hexBrace : Reader Literal := do
  let bracePos ← here
  let start := bracePos + 1
  let rec go : Nat → List Char → Reader (List Char)
    | 0, ds => return ds.reverse
    | fuel + 1, ds => do
      if !(← bumpSkip) then return ds.reverse
      let c ← current
      if c == '}' then return ds.reverse
      if !isHexDigit c then
        let p ← here
        refuse .escapeHexInvalidDigit ⟨p, p + 1⟩
      go fuel (c :: ds)
  let ds ← go (← get).chars.size []
  if ← atEnd then refuse .escapeUnexpectedEof ⟨bracePos, ← here⟩
  let stop ← here
  let _ ← bumpSkip
  if ds.isEmpty then refuse .escapeHexEmpty ⟨bracePos, ← here⟩
  match scalar? (hexValue ds) with
  | some ch => return ⟨⟨start, ← here⟩, ch, false⟩
  | none => refuse .escapeHexInvalid ⟨start, stop⟩

/-- The hexadecimal escape whose letter is current. -/
def hexLiteral (letter : Char) : Reader Literal := do
  let digits := if letter == 'x' then 2 else if letter == 'u' then 4 else 8
  if !(← bumpSkip) then
    let p ← here
    refuse .escapeUnexpectedEof ⟨p, p⟩
  if (← current) == '{' then hexBrace else hexDigits digits (letter == 'x')

/-- The query written in braces after `\p`: `name`, or a property and a value joined by `!=`,
`:` or `=`, tried in that order. -/
def unicodeQuery (text : String) : UnicodeQuery :=
  match text.splitOn "!=" with
  | name :: value :: rest => .byValue name ("!=".intercalate (value :: rest))
  | _ =>
    match text.splitOn ":" with
    | name :: value :: rest => .byValue name (":".intercalate (value :: rest))
    | _ =>
      match text.splitOn "=" with
      | name :: value :: rest => .byValue name ("=".intercalate (value :: rest))
      | _ => .named text

/-- A Unicode class, `\p` or `\P` being current. -/
def unicodeClass : Reader (Span × UnicodeQuery × Bool) := do
  let negated := (← current) == 'P'
  if !(← bumpSkip) then
    let p ← here
    refuse .escapeUnexpectedEof ⟨p, p⟩
  if (← current) == '{' then
    let start := (← here) + 1
    let rec go : Nat → List Char → Reader (List Char)
      | 0, cs => return cs.reverse
      | fuel + 1, cs => do
        if !(← bumpSkip) then return cs.reverse
        let c ← current
        if c == '}' then return cs.reverse
        go fuel (c :: cs)
    let cs ← go (← get).chars.size []
    if ← atEnd then
      let p ← here
      refuse .escapeUnexpectedEof ⟨p, p⟩
    let _ ← bump
    return (⟨start, ← here⟩, unicodeQuery (String.ofList cs), negated)
  else
    let start ← here
    let c ← current
    if c == '\\' then refuse .unicodeClassInvalid ⟨start, start + 1⟩
    let _ ← bumpSkip
    return (⟨start, ← here⟩, .oneLetter c, negated)

/-- Whether `c` may be in the name of a special word boundary. -/
def isBoundaryNameChar (c : Char) : Bool := c.isAlpha || c == '-'

/-- After `\b`, a `{` may start a special word boundary such as `\b{start}`. When the first
character after it cannot, the `{` is left to be read as a count. -/
def specialBoundary (wbStart : Nat) : Reader (Option Assertion) := do
  let start ← here
  if !(← bumpSkip) then refuse .specialWordOrRepetitionUnexpectedEof ⟨wbStart, ← here⟩
  let contents ← here
  if !isBoundaryNameChar (← current) then
    moveTo start
    return none
  let rec go : Nat → List Char → Reader (List Char)
    | 0, cs => return cs.reverse
    | fuel + 1, cs => do
      if ← atEnd then return cs.reverse
      let c ← current
      if !isBoundaryNameChar c then return cs.reverse
      let _ ← bumpSkip
      go fuel (c :: cs)
  let cs ← go (← get).chars.size []
  if (← atEnd) || (← current) != '}' then refuse .specialWordBoundaryUnclosed ⟨start, ← here⟩
  let stop ← here
  let _ ← bump
  match String.ofList cs with
  | "start" => return some .wordStart
  | "end" => return some .wordEnd
  | "start-half" => return some .wordStartHalf
  | "end-half" => return some .wordEndHalf
  | _ => refuse .specialWordBoundaryUnrecognized ⟨contents, stop⟩

/-- An escape, `\` being current. -/
def escape : Reader Primitive := do
  let start ← here
  if !(← bump) then refuse .escapeUnexpectedEof ⟨start, ← here⟩
  let c ← current
  if c.isDigit then refuse .unsupportedBackreference ⟨start, (← here) + 1⟩
  if c == 'x' || c == 'u' || c == 'U' then
    let l ← hexLiteral c
    return .literal { l with span := ⟨start, l.span.stop⟩ }
  if c == 'p' || c == 'P' then
    let (span, query, negated) ← unicodeClass
    return .unicode ⟨start, span.stop⟩ query negated
  let perl : Option PerlClass := match c.toLower with
    | 'd' => some .digit
    | 's' => some .space
    | 'w' => some .word
    | _ => none
  if let some kind := perl then
    let _ ← bump
    return .perl ⟨start, ← here⟩ kind c.isUpper
  let _ ← bump
  let span : Span := ⟨start, ← here⟩
  if isEscapable c then return .literal ⟨span, c, false⟩
  match c with
  | 'a' => return .literal ⟨span, '\x07', false⟩
  | 'f' => return .literal ⟨span, '\x0C', false⟩
  | 't' => return .literal ⟨span, '\t', false⟩
  | 'n' => return .literal ⟨span, '\n', false⟩
  | 'r' => return .literal ⟨span, '\r', false⟩
  | 'v' => return .literal ⟨span, '\x0B', false⟩
  | 'A' => return .assertion span .startText
  | 'z' => return .assertion span .endText
  | 'B' => return .assertion span .notWordBoundary
  | '<' => return .assertion span .wordStart
  | '>' => return .assertion span .wordEnd
  | 'b' =>
    if !(← atEnd) && (← current) == '{' then
      match ← specialBoundary start with
      | some kind => return .assertion ⟨start, ← here⟩ kind
      | none => return .assertion span .wordBoundary
    else return .assertion span .wordBoundary
  | _ => refuse .escapeUnrecognized span

/-- One primitive outside a class. -/
def primitive : Reader Primitive := do
  let c ← current
  if c == '\\' then escape
  else
    let p ← here
    let _ ← bump
    let span : Span := ⟨p, p + 1⟩
    match c with
    | '.' => return .dot span
    | '^' => return .assertion span .startLine
    | '$' => return .assertion span .endLine
    | _ => return .literal ⟨span, c, false⟩

/-- The flags of a flag group, `(?` having been read; stops at `:` or `)`. -/
def flags : Reader Settings := do
  let rec go : Nat → List (Flag × Bool × Span) → Bool → Option Span → Option Span →
      Reader Settings
    | 0, items, _, _, _ => return (items.map fun (f, v, _) => (f, v)).reverse
    | fuel + 1, items, enabled, lastNegation, negation => do
      let c ← current
      if c == ':' || c == ')' then
        match lastNegation with
        | some s => refuse .flagDanglingNegation s
        | none => return (items.map fun (f, v, _) => (f, v)).reverse
      else
        let p ← here
        let span : Span := ⟨p, p + 1⟩
        let (items, enabled, lastNegation, negation) ← if c == '-' then
            match negation with
            | some o => throw ⟨.flagRepeatedNegation, span, some o⟩
            | none => pure (items, false, some span, some span)
          else
            match Flag.ofChar? c with
            | none => refuse .flagUnrecognized span
            | some f =>
              match items.find? (·.1 == f) with
              | some (_, _, o) => throw ⟨.flagDuplicate, span, some o⟩
              | none => pure ((f, enabled, span) :: items, enabled, none, negation)
        if !(← bump) then
          let q ← here
          refuse .flagUnexpectedEof ⟨q, q⟩
        go fuel items enabled lastNegation negation
  go (← get).chars.size [] true none none

/-- The value a flag group gives `f`, if it names it. -/
def flagSetting (s : Settings) (f : Flag) : Option Bool := s.lookup f

/-- A group name, `(?P<` or `(?<` having been read; checked against the earlier names. -/
def groupName : Reader Unit := do
  if ← atEnd then
    let p ← here
    refuse .groupNameUnexpectedEof ⟨p, p⟩
  let start ← here
  let rec go : Nat → Reader Unit
    | 0 => return
    | fuel + 1 => do
      let c ← current
      if c == '>' then return
      if !isNameChar c ((← here) == start) then
        let p ← here
        refuse .groupNameInvalid ⟨p, p + 1⟩
      if ← bump then go fuel
  go (← get).chars.size
  let stop ← here
  if ← atEnd then
    let p ← here
    refuse .groupNameUnexpectedEof ⟨p, p⟩
  let _ ← bump
  if stop == start then refuse .groupNameEmpty ⟨start, start⟩
  let name ← slice start stop
  let span : Span := ⟨start, stop⟩
  match (← get).names.lookup name with
  | some o => throw ⟨.groupNameDuplicate, span, some o⟩
  | none => modify fun c => { c with names := (name, span) :: c.names }

/-- What `(` starts: flags for the rest of the group (`left`), or a group with the position of
its `(` and the flags it sets inside (`right`). -/
def groupHead : Reader (Sum Settings (Span × Option Settings)) := do
  let start ← here
  let openSpan : Span := ⟨start, start + 1⟩
  let _ ← bump
  skipSpace
  let lookaround ←
    if ← bumpIf "?=" then pure true
    else if ← bumpIf "?!" then pure true
    else if ← bumpIf "?<=" then pure true
    else bumpIf "?<!"
  if lookaround then refuse .unsupportedLookAround ⟨start, ← here⟩
  let inner ← here
  let named ← if ← bumpIf "?P<" then pure true else bumpIf "?<"
  if named then
    groupName
    return .inr (openSpan, none)
  if ← bumpIf "?" then
    if ← atEnd then refuse .groupUnclosed openSpan
    let fs ← flags
    let last ← current
    let _ ← bump
    if last == ')' then
      if fs.isEmpty then refuse .repetitionMissing ⟨inner, inner⟩
      return .inl fs
    else return .inr (openSpan, some fs)
  return .inr (openSpan, none)

/-- A group being read: the sequence around it, its `(`, its flags and whether blanks were
skipped around it; or the finished branches of an alternation. -/
inductive GroupFrame where
  | group (outer : List Ast) (openSpan : Span) (flags : Option Settings) (ignoreWs : Bool)
  | alternation (branches : List Ast)

/-- A sequence of items (latest first) as one item. -/
def sequence (items : List Ast) : Ast :=
  match items.reverse with
  | [] => .empty
  | [a] => a
  | as => .concat as

/-- The item at the head of `items` repeated; the operator's position is `p`. -/
def repeatLast (items : List Ast) (p lo : Nat) (hi : Option Nat) : Reader (List Ast) :=
  match items with
  | [] => refuse .repetitionMissing ⟨p, p⟩
  | .empty :: _ => refuse .repetitionMissing ⟨p, p⟩
  | .setFlags _ :: _ => refuse .repetitionMissing ⟨p, p⟩
  | a :: rest => return .repetition lo hi a :: rest

/-- `?`, `*` or `+` after an item, with an optional `?` for the lazy form. -/
def uncounted (items : List Ast) (lo : Nat) (hi : Option Nat) : Reader (List Ast) := do
  let items ← repeatLast items (← here) lo hi
  if ← bump then
    if (← current) == '?' then
      let _ ← bump
  return items

/-- A decimal count, blanks around it skipped; the refusal is returned, not raised, since
it only counts when the count is needed. -/
def decimal : Reader (Except PatternError Nat) := do
  let rec blanks : Nat → Bool → Reader Unit
    | 0, _ => return
    | fuel + 1, skip => do
      if ← atEnd then return
      if !Text.isBlank (← current) then return
      if skip then
        let _ ← bumpSkip
      else
        let _ ← bump
      blanks fuel skip
  let rec digits : Nat → List Char → Reader (List Char)
    | 0, ds => return ds.reverse
    | fuel + 1, ds => do
      if ← atEnd then return ds.reverse
      let c ← current
      if !c.isDigit then return ds.reverse
      let _ ← bumpSkip
      digits fuel (c :: ds)
  let n := (← get).chars.size
  blanks n false
  let start ← here
  let ds ← digits n []
  let stop ← here
  blanks n true
  if ds.isEmpty then return .error ⟨.repetitionCountDecimalEmpty, ⟨start, stop⟩, none⟩
  let v := ds.foldl (fun v c => 10 * v + (c.toNat - '0'.toNat)) 0
  if v < Nat.pow 2 32 then return .ok v
  else return .error ⟨.decimalInvalid, ⟨start, stop⟩, none⟩

/-- Raise a deferred refusal. -/
def raise {α : Type} : Except PatternError α → Reader α
  | .ok a => return a
  | .error e => throw e

/-- A count in braces after an item: `{m}`, `{m,}` or `{m,n}`, with an optional `?`. -/
def counted (items : List Ast) : Reader (List Ast) := do
  let start ← here
  let _ ← repeatLast items start 0 none
  if !(← bumpSkip) then refuse .repetitionCountUnclosed ⟨start, ← here⟩
  let first ← decimal
  if ← atEnd then refuse .repetitionCountUnclosed ⟨start, ← here⟩
  let (lo, hi) ← if (← current) == ',' then do
      if !(← bumpSkip) then refuse .repetitionCountUnclosed ⟨start, ← here⟩
      if (← current) != '}' then
        let lo ← raise first
        let hi ← raise (← decimal)
        pure (lo, some hi)
      else pure (← raise first, none)
    else
      let lo ← raise first
      pure (lo, some lo)
  if (← atEnd) || (← current) != '}' then refuse .repetitionCountUnclosed ⟨start, ← here⟩
  if ← bumpSkip then
    if (← current) == '?' then
      let _ ← bump
  let opSpan : Span := ⟨start, ← here⟩
  match hi with
  | some h => if h < lo then refuse .repetitionCountInvalid opSpan
  | none => pure ()
  repeatLast items start lo hi

/-- A class being read: an open bracket with the class items around it, its span so far and
whether it is negated; or a set operation waiting for its right side. -/
inductive ClassFrame where
  | opened (outer : Nat × List ClassItem) (span : Span) (negated : Bool)
  | pending (kind : SetOp) (lhs : ClassItem)

/-- The items of a class (latest first, with the position where they start) as one item. -/
def classUnion (u : Nat × List ClassItem) : ClassItem :=
  match u.2 with
  | [] => .empty ⟨u.1, u.1⟩
  | [i] => i
  | items => .union ⟨(items.getLastD (.empty ⟨u.1, u.1⟩)).span.start,
      (items.headD (.empty ⟨u.1, u.1⟩)).span.stop⟩ items.reverse

/-- Apply a pending operation to its right side. -/
def applyPending (rhs : ClassItem) : List ClassFrame → ClassItem × List ClassFrame
  | .pending kind lhs :: rest => (.op ⟨lhs.span.start, rhs.span.stop⟩ kind lhs rhs, rest)
  | stack => (rhs, stack)

/-- The refusal for a class left open: at the innermost open bracket. -/
def unclosedClass {α : Type} : List ClassFrame → Reader α
  | [] => refuse .classUnclosed ⟨0, 0⟩
  | .opened _ s _ :: _ => refuse .classUnclosed s
  | .pending _ _ :: rest => unclosedClass rest

/-- An opening bracket: its span up to the items, whether it is negated, and its first items (a
leading `-`, or a leading `]`, is a literal). -/
def openClass : Reader (Span × Bool × (Nat × List ClassItem)) := do
  let start ← here
  if !(← bumpSkip) then refuse .classUnclosed ⟨start, ← here⟩
  let negated ← if (← current) != '^' then pure false else do
    if !(← bumpSkip) then refuse .classUnclosed ⟨start, ← here⟩
    pure true
  let unionStart ← here
  let rec dashes : Nat → List ClassItem → Reader (List ClassItem)
    | 0, items => return items
    | fuel + 1, items => do
      if (← current) != '-' then return items
      let p ← here
      let items := .literal ⟨⟨p, p + 1⟩, '-', false⟩ :: items
      if !(← bumpSkip) then refuse .classUnclosed ⟨start, start⟩
      dashes fuel items
  let items ← dashes (← get).chars.size []
  let items ← if items.isEmpty && (← current) == ']' then do
      let p ← here
      if !(← bumpSkip) then refuse .classUnclosed ⟨start, ← here⟩
      pure [.literal ⟨⟨p, p + 1⟩, ']', false⟩]
    else pure items
  return (⟨start, ← here⟩, negated, (unionStart, items))

/-- An ASCII class `[:name:]` or `[:^name:]` at position `p`, with the position after it. -/
def asciiClassAt (chars : Array Char) (p : Nat) : Option (AsciiClass × Bool × Nat) :=
  if chars[p + 1]? != some ':' || chars.size ≤ p + 2 then none
  else
    let negated := chars[p + 2]? == some '^'
    let nameStart := if negated then p + 3 else p + 2
    if chars.size ≤ nameStart then none
    else
      let rest := chars.toList.drop nameStart
      let name := rest.takeWhile (· != ':')
      if name.length == rest.length then none
      else
        let colon := nameStart + name.length
        if !startsAt chars colon [':', ']'] then none
        else (AsciiClass.ofName? (String.ofList name)).map fun k => (k, negated, colon + 2)

/-- One item of a class: an escape or a literal character. -/
def classPrimitive : Reader Primitive := do
  if (← current) == '\\' then escape
  else
    let p ← here
    let c ← current
    let _ ← bump
    return .literal ⟨⟨p, p + 1⟩, c, false⟩

/-- One item of a class, or a range between two literals. A `-` followed by `]` or by another
`-` is no range. -/
def classRange (stack : List ClassFrame) : Reader ClassItem := do
  let first ← classPrimitive
  skipSpace
  if ← atEnd then unclosedClass stack
  let next ← peekSpace
  if (← current) != '-' || next == some ']' || next == some '-' then first.toClassItem
  else
    if !(← bumpSkip) then unclosedClass stack
    let second ← classPrimitive
    let span : Span := ⟨first.span.start, second.span.stop⟩
    let lo ← first.toRangeEnd
    let hi ← second.toRangeEnd
    if hi.char < lo.char then refuse .classRangeInvalid span
    return .range span lo hi

/-- Read the rest of a bracketed class whose opening bracket has been read: the items of the
innermost open class, and the frames around it. -/
def classBody : Nat → (Nat × List ClassItem) → List ClassFrame → Reader Ast
  | 0, _, stack => unclosedClass stack
  | fuel + 1, union, stack => do
    skipSpace
    if ← atEnd then unclosedClass stack
    let c ← current
    let next ← peekNext
    if c == '[' then
      let cur ← get
      match asciiClassAt cur.chars cur.pos with
      | some (kind, negated, stop) =>
        moveTo stop
        classBody fuel (union.1, .ascii ⟨cur.pos, stop⟩ kind negated :: union.2) stack
      | none =>
        let (span, negated, inner) ← openClass
        classBody fuel inner (.opened union span negated :: stack)
    else if c == ']' then
      let (set, stack) := applyPending (classUnion union) stack
      match stack with
      | .opened outer span negated :: rest =>
        let _ ← bump
        let span : Span := ⟨span.start, ← here⟩
        if rest.isEmpty then return .bracketed span negated set
        else classBody fuel (outer.1, .bracketed span negated set :: outer.2) rest
      | _ => unclosedClass stack
    else
      let op : Option SetOp :=
        if c == '&' && next == some '&' then some .intersection
        else if c == '-' && next == some '-' then some .difference
        else if c == '~' && next == some '~' then some .symmetricDifference
        else none
      match op with
      | some kind =>
        let _ ← bump
        let _ ← bump
        let (lhs, stack) := applyPending (classUnion union) stack
        classBody fuel (← here, []) (.pending kind lhs :: stack)
      | none =>
        let item ← classRange stack
        classBody fuel (union.1, item :: union.2) stack

/-- A bracketed class, `[` being current. -/
def bracketed : Reader Ast := do
  let (span, negated, inner) ← openClass
  classBody ((← get).chars.size + 1) inner [.opened (0, []) span negated]

/-- Close the pattern: every group must have been closed. -/
def finish (items : List Ast) : List GroupFrame → Reader Ast
  | [] => return sequence items
  | [.alternation bs] => return .alternation (bs ++ [sequence items])
  | .alternation _ :: .group _ s _ _ :: _ => refuse .groupUnclosed s
  | .group _ s _ _ :: _ => refuse .groupUnclosed s
  | .alternation bs :: _ => return .alternation (bs ++ [sequence items])

/-- Close the innermost group at a `)`. -/
def closeGroup (items : List Ast) : List GroupFrame → Reader (List Ast × List GroupFrame)
  | .group outer _ fs ws :: rest => do
    modify fun c => { c with ignoreWs := ws }
    let _ ← bump
    return (.group fs (sequence items) :: outer, rest)
  | .alternation bs :: .group outer _ fs ws :: rest => do
    modify fun c => { c with ignoreWs := ws }
    let _ ← bump
    return (.group fs (.alternation (bs ++ [sequence items])) :: outer, rest)
  | _ => do
    let p ← here
    refuse .groupUnopened ⟨p, p + 1⟩

/-- Read the pattern from the current position: the items of the innermost sequence (latest
first) and the groups around it. -/
def body : Nat → List Ast → List GroupFrame → Reader Ast
  | 0, items, stack => finish items stack
  | fuel + 1, items, stack => do
    skipSpace
    if ← atEnd then finish items stack
    else
      match ← current with
      | '(' =>
        match ← groupHead with
        | .inl fs =>
          if let some v := flagSetting fs .ignoreWhitespace then
            modify fun c => { c with ignoreWs := v }
          body fuel (.setFlags fs :: items) stack
        | .inr (openSpan, fs) =>
          let old := (← get).ignoreWs
          let new := ((fs.bind fun s => flagSetting s .ignoreWhitespace)).getD old
          modify fun c => { c with ignoreWs := new }
          body fuel [] (.group items openSpan fs old :: stack)
      | ')' =>
        let (items, stack) ← closeGroup items stack
        body fuel items stack
      | '|' =>
        let stack := match stack with
          | .alternation bs :: rest => .alternation (bs ++ [sequence items]) :: rest
          | _ => .alternation [sequence items] :: stack
        let _ ← bump
        body fuel [] stack
      | '[' => body fuel ((← bracketed) :: items) stack
      | '?' => body fuel (← uncounted items 0 (some 1)) stack
      | '*' => body fuel (← uncounted items 0 none) stack
      | '+' => body fuel (← uncounted items 1 none) stack
      | '{' => body fuel (← counted items) stack
      | _ => body fuel ((← primitive).toAst :: items) stack

/-- Parse a pattern. -/
def parse (pattern : String) : Except PatternError Ast :=
  let chars := pattern.toList.toArray
  (body (chars.size + 1) [] []).run' ⟨chars, 0, false, []⟩

end OlmProvision.Pattern
