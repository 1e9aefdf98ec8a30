import OlmProvision.Yaml.Node

/-
The first stage of reading YAML: splitting a text into tokens.

    text ──tokenize──▶ tokens ──parse──▶ events ──compose──▶ documents

The scanner reads the text left to right, keeping a stack of indentation columns (block
collections), the depth of flow collections (`[...]`, `{...}`), and for each flow depth the
place where a simple key may have started. A simple key is a scalar, alias, anchor, tag or flow
collection that turns out to be a mapping key when a `:` follows it on the same line within
1024 characters; the `key` token (and a block mapping start, when the key opens a more
indented mapping) is then inserted before it. A key that can no longer be one is forgotten, or
is an error when it had to be one. A `?` is a key indicator inside a flow collection or before
a blank, and a `:` is a value indicator before a blank or, inside a flow collection, before
`,[]{}` or right after a quoted scalar (`{"a":b}`); otherwise both start plain scalars
(`[:a]` holds the string `:a`).

The text ends at its end or at a NUL character. A line break is `\n`, `\r\n` or `\r`; lines
are counted at `\n` only, so a lone `\r` does not start a new line as far as keys and
indentation are concerned. A byte order mark is an ordinary character.

Scalars: plain ones end at `: `, ` #`, a line break to a lesser indentation, and in flow
collections at `,[]{}` and at `:` before those; their lines are folded with single spaces, and
a tab may not indent a continuation line. Single-quoted ones fold lines and double `''`;
double-quoted ones also take the escapes `\0 \a \b \t \n \v \f \r \e \  \" \' \\ \N \_ \L \P`,
`\x..`, `\u....` and `\U........` (of a Unicode scalar value) and an escaped line break. Literal
(`|`) and folded (`>`) block scalars take an indentation indicator and a chomping indicator
(`+`, `-`) in either order.
-/
namespace OlmProvision.Yaml

/-- A position in the text: the characters before it, its line (from 1) and column (from 0). -/
structure Mark where
  index : Nat
  line : Nat
  col : Nat
deriving DecidableEq, Repr, Inhabited

/-- Why a text is not read: where reading stopped and what was wrong there. -/
structure ReadError where
  mark : Mark
  info : String
deriving Repr, Inhabited

/-- What a token is. -/
inductive TokenKind where
  | streamStart
  | streamEnd
  | versionDirective (major minor : Nat)
  | tagDirective (handle pfx : String)
  | documentStart
  | documentEnd
  | blockSequenceStart
  | blockMappingStart
  | blockEnd
  | flowSequenceStart
  | flowSequenceEnd
  | flowMappingStart
  | flowMappingEnd
  | blockEntry
  | flowEntry
  | key
  | value
  | aliasRef (name : String)
  | anchor (name : String)
  | tag (handle suffix : String)
  | scalar (style : ScalarStyle) (text : String)
deriving DecidableEq, Repr, Inhabited

/-- A token and where it starts. -/
structure Token where
  mark : Mark
  kind : TokenKind
deriving Repr, Inhabited

/-- Where a simple key may have started: whether it still can be one, whether it must be
one, and the number of the token it would go before. -/
structure SimpleKey where
  possible : Bool
  required : Bool
  tokenNumber : Nat
  mark : Mark
deriving Repr, Inhabited

/-- The scanner: the characters left and the position of the first, the tokens so far, the
possible simple keys (innermost flow depth first), the indentation stack (current column
first, `-1` outside any block collection), and the flow depth. -/
structure Scanner where
  rest : List Char
  mark : Mark
  tokens : List Token
  simpleKeyAllowed : Bool
  simpleKeys : List SimpleKey
  indent : Int
  indents : List Int
  flowLevel : Nat
  adjacentValueAt : Option Nat
  finished : Bool
deriving Inhabited

/-- The end of the text, or a NUL character, which ends it too. -/
def isZ (c : Char) : Bool := c == '\x00'

/-- A line break character. -/
def isBreak (c : Char) : Bool := c == '\n' || c == '\r'

/-- A line break or the end. -/
def isBreakZ (c : Char) : Bool := isBreak c || isZ c

/-- A space or a tab. -/
def isBlank (c : Char) : Bool := c == ' ' || c == '\t'

/-- A blank, a line break or the end. -/
def isBlankZ (c : Char) : Bool := isBlank c || isBreakZ c

/-- An ASCII decimal digit. -/
def isDigitChar (c : Char) : Bool := '0' ≤ c && c ≤ '9'

/-- A character of anchor names and tag handles: ASCII letters and digits, `_` and `-`. -/
def isAlphaChar (c : Char) : Bool :=
  isDigitChar c || ('a' ≤ c && c ≤ 'z') || ('A' ≤ c && c ≤ 'Z') || c == '_' || c == '-'

/-- The value of a hexadecimal digit. -/
def hexDigitValue (c : Char) : Option Nat :=
  if '0' ≤ c && c ≤ '9' then some (c.toNat - 0x30)
  else if 'a' ≤ c && c ≤ 'f' then some (c.toNat - 0x61 + 10)
  else if 'A' ≤ c && c ≤ 'F' then some (c.toNat - 0x41 + 10)
  else none

/-- A flow indicator. -/
def isFlowChar (c : Char) : Bool := c == ',' || c == '[' || c == ']' || c == '{' || c == '}'

/-- A character allowed in a tag. -/
def isUriChar (c : Char) : Bool := isAlphaChar c || ";/?:@&=+$,.!~*'()[]%".toList.contains c

/-- The position after the character `c`. -/
def Mark.advance (m : Mark) (c : Char) : Mark :=
  if c == '\n' then { index := m.index + 1, line := m.line + 1, col := 0 }
  else { m with index := m.index + 1, col := m.col + 1 }

/-- The character with code point `n`, when `n` is a Unicode scalar value. -/
def charOfCode (n : Nat) : Option Char :=
  if n < 0xD800 || (0xDFFF < n && n < 0x110000) then some (Char.ofNat n) else none

namespace Scanner

/-- The scanner at the start of a text, after the stream start token. -/
def start (text : String) : Scanner where
  rest := text.toList
  mark := ⟨0, 1, 0⟩
  tokens := [⟨⟨0, 1, 0⟩, .streamStart⟩]
  simpleKeyAllowed := true
  simpleKeys := [⟨false, false, 0, ⟨0, 0, 0⟩⟩]
  indent := -1
  indents := []
  flowLevel := 0
  adjacentValueAt := none
  finished := false

/-- The next character; NUL at the end. -/
def ch (s : Scanner) : Char := s.rest.headD '\x00'

/-- The character `i` places ahead; NUL past the end. -/
def peekAt (s : Scanner) (i : Nat) : Char := (s.rest.drop i).headD '\x00'

/-- Move past one character. -/
def skip (s : Scanner) : Scanner :=
  match s.rest with
  | [] => { s with mark := s.mark.advance '\x00' }
  | c :: rest => { s with rest := rest, mark := s.mark.advance c }

/-- Move past `n` characters. -/
def skipN (s : Scanner) : Nat → Scanner
  | 0 => s
  | n + 1 => s.skip.skipN n

/-- Move past the characters satisfying `p`. -/
def skipWhile (p : Char → Bool) (s : Scanner) : Scanner := s.skipN (s.rest.takeWhile p).length

/-- Move past a line break, if one is next. -/
def skipLine (s : Scanner) : Scanner :=
  if s.ch == '\r' && s.peekAt 1 == '\n' then s.skip.skip
  else if isBreak s.ch then s.skip
  else s

/-- Move past a line break, adding `\n` to `acc`. -/
def readBreak (s : Scanner) (acc : String) : Scanner × String :=
  if s.ch == '\r' && s.peekAt 1 == '\n' then (s.skip.skip, acc.push '\n')
  else if isBreak s.ch then (s.skip, acc.push '\n')
  else (s, acc)

/-- Add a token at the end. -/
def push (s : Scanner) (t : Token) : Scanner := { s with tokens := s.tokens ++ [t] }

/-- Insert a token so that it gets number `pos`. -/
def insertToken (s : Scanner) (pos : Nat) (t : Token) : Scanner :=
  { s with tokens := s.tokens.take pos ++ t :: s.tokens.drop pos }

/-- Allow or forbid a simple key at the next token. -/
def allowSimpleKey (s : Scanner) (allowed : Bool) : Scanner := { s with simpleKeyAllowed := allowed }

/-- Forget the simple keys that can no longer be keys: those started on an earlier line or more
than 1024 characters back. Forgetting one that had to be a key is an error. -/
def staleSimpleKeys (s : Scanner) : Except ReadError Scanner := do
  let keys ← s.simpleKeys.mapM fun sk =>
    if sk.possible && (decide (sk.mark.line < s.mark.line) || decide (sk.mark.index + 1024 < s.mark.index)) then
      if sk.required then throw (⟨s.mark, "simple key expect ':'"⟩ : ReadError)
      else pure { sk with possible := false }
    else pure sk
  return { s with simpleKeys := keys }

/-- Close the block collections indented deeper than `col`, each with a block end token. -/
def unrollLoop (mark : Mark) (col : Int) : List Token → Int → List Int → List Token × Int × List Int
  | tokens, indent, [] => (tokens, indent, [])
  | tokens, indent, i :: is =>
    if col < indent then unrollLoop mark col (tokens ++ [⟨mark, .blockEnd⟩]) i is
    else (tokens, indent, i :: is)

/-- Close the block collections indented deeper than `col` (outside flow collections). -/
def unrollIndent (s : Scanner) (col : Int) : Scanner :=
  if 0 < s.flowLevel then s
  else
    let (tokens, indent, indents) := unrollLoop s.mark col s.tokens s.indent s.indents
    { s with tokens := tokens, indent := indent, indents := indents }

/-- Open a block collection at `col` when it is indented deeper than the current one: its start
token goes at the end, or at number `number` when it starts at a simple key. -/
def rollIndent (s : Scanner) (col : Nat) (number : Option Nat) (kind : TokenKind) (mark : Mark) :
    Scanner :=
  if 0 < s.flowLevel then s
  else if s.indent < col then
    let s := { s with indents := s.indent :: s.indents, indent := col }
    match number with
    | some n => s.insertToken n ⟨mark, kind⟩
    | none => s.push ⟨mark, kind⟩
  else s

/-- Forget the simple key of the current flow depth; an error if it had to be a key. -/
def removeSimpleKey (s : Scanner) : Except ReadError Scanner :=
  match s.simpleKeys with
  | sk :: rest =>
    if sk.possible && sk.required then .error ⟨s.mark, "simple key expected"⟩
    else .ok { s with simpleKeys := { sk with possible := false } :: rest }
  | [] => .ok s

/-- Note that a simple key may start at the next token, when one is allowed here. It must be
a key when it starts at the indentation column inside a flow collection. -/
def saveSimpleKey (s : Scanner) : Except ReadError Scanner := do
  if s.simpleKeyAllowed then
    let required := decide (0 < s.flowLevel) && decide (s.indent = s.mark.col)
    let sk : SimpleKey := ⟨true, required, s.tokens.length, s.mark⟩
    let s ← s.removeSimpleKey
    return { s with simpleKeys := sk :: s.simpleKeys.drop 1 }
  else return s

/-- Skip blanks, line breaks and comments up to the next token. A tab is skipped only inside
flow collections or where no simple key may start. A line break outside flow collections
allows a simple key. -/
def skipToNextToken : Nat → Scanner → Scanner
  | 0, s => s
  | fuel + 1, s =>
    if s.ch == ' ' then skipToNextToken fuel s.skip
    else if s.ch == '\t' then
      if decide (0 < s.flowLevel) || !s.simpleKeyAllowed then skipToNextToken fuel s.skip else s
    else if isBreak s.ch then
      let s := s.skipLine
      skipToNextToken fuel (if s.flowLevel = 0 then s.allowSimpleKey true else s)
    else if s.ch == '#' then skipToNextToken fuel (s.skipWhile (fun c => !isBreakZ c))
    else s

/-- End the stream: move to a fresh line, close every block collection and end. -/
def fetchStreamEnd (s : Scanner) : Except ReadError Scanner := do
  let s := if s.mark.col ≠ 0 then { s with mark := { s.mark with col := 0, line := s.mark.line + 1 } }
    else s
  let s := s.unrollIndent (-1)
  let s ← s.removeSimpleKey
  let s := s.allowSimpleKey false
  return { s.push ⟨s.mark, .streamEnd⟩ with finished := true }

/-- Read a directive name. -/
def scanDirectiveName (s : Scanner) : Except ReadError (String × Scanner) := do
  let name := String.ofList (s.rest.takeWhile isAlphaChar)
  let s' := s.skipWhile isAlphaChar
  if name.isEmpty then throw ⟨s.mark, "while scanning a directive, could not find expected directive name"⟩
  if !isBlankZ s'.ch then throw ⟨s.mark, "while scanning a directive, found unexpected non-alphabetical character"⟩
  return (name, s')

/-- Read a version number of at most nine digits. -/
def scanVersionNumber (mark : Mark) (s : Scanner) : Except ReadError (Nat × Scanner) := do
  let ds := s.rest.takeWhile isDigitChar
  if 9 < ds.length then
    throw ⟨mark, "while scanning a YAML directive, found extremely long version number"⟩
  if ds.isEmpty then throw ⟨mark, "while scanning a YAML directive, did not find expected version number"⟩
  return (ds.foldl (fun acc c => acc * 10 + (c.toNat - 0x30)) 0, s.skipN ds.length)

/-- Read the value of a `%YAML` directive: `major.minor`. -/
def scanVersionDirectiveValue (mark : Mark) (s : Scanner) : Except ReadError (Token × Scanner) := do
  let s := s.skipWhile isBlank
  let (major, s) ← scanVersionNumber mark s
  if s.ch != '.' then
    throw ⟨mark, "while scanning a YAML directive, did not find expected digit or '.' character"⟩
  let (minor, s) ← scanVersionNumber mark s.skip
  return (⟨mark, .versionDirective major minor⟩, s)

/-- Read a tag handle: `!`, then letters, then `!` if present. In a directive the handle must
be `!` or end with `!`. -/
def scanTagHandle (directive : Bool) (mark : Mark) (s : Scanner) : Except ReadError (String × Scanner) := do
  if s.ch != '!' then throw ⟨mark, "while scanning a tag, did not find expected '!'"⟩
  let s := s.skip
  let name := String.ofList (s.rest.takeWhile isAlphaChar)
  let s := s.skipWhile isAlphaChar
  let handle := "!" ++ name
  if s.ch == '!' then return (handle.push '!', s.skip)
  else if directive && handle != "!" then
    throw ⟨mark, "while parsing a tag directive, did not find expected '!'"⟩
  else return (handle, s)

/-- Read `%xx` escapes making one character: the first octet gives the number of octets, and
their values are joined eight bits at a time. -/
def scanUriEscapes (mark : Mark) : Nat → Nat → Nat → Scanner → Except ReadError (Char × Scanner)
  | 0, _, _, _ => .error ⟨mark, "while parsing a tag, did not find URI escaped octet"⟩
  | fuel + 1, width, code, s =>
    match s.ch == '%', hexDigitValue (s.peekAt 1), hexDigitValue (s.peekAt 2) with
    | true, some hi, some lo =>
      let octet := hi * 16 + lo
      let step : Except ReadError (Nat × Nat) :=
        if width = 0 then
          if octet / 128 = 0 then .ok (1, octet)
          else if octet / 32 = 6 then .ok (2, octet)
          else if octet / 16 = 14 then .ok (3, octet)
          else if octet / 8 = 30 then .ok (4, octet)
          else .error ⟨mark, "while parsing a tag, found an incorrect leading UTF-8 octet"⟩
        else if octet / 64 != 2 then .error ⟨mark, "while parsing a tag, found an incorrect trailing UTF-8 octet"⟩
        else .ok (width, code * 256 + octet)
      match step with
      | .error e => .error e
      | .ok (width, code) =>
        let s := s.skipN 3
        if width - 1 = 0 then
          match charOfCode code with
          | some c => .ok (c, s)
          | none => .error ⟨mark, "while parsing a tag, found an invalid UTF-8 codepoint"⟩
        else scanUriEscapes mark fuel (width - 1) code s
    | _, _, _ => .error ⟨mark, "while parsing a tag, did not find URI escaped octet"⟩

/-- Read the characters of a tag after `head` (whose `!` is not kept); at least one character
counting `head` is required. -/
def scanTagUriLoop (mark : Mark) : Nat → String → Nat → Scanner → Except ReadError (String × Nat × Scanner)
  | 0, acc, length, s => .ok (acc, length, s)
  | fuel + 1, acc, length, s =>
    if isUriChar s.ch then
      if s.ch == '%' then do
        let (c, s) ← scanUriEscapes mark 4 0 0 s
        scanTagUriLoop mark fuel (acc.push c) (length + 1) s
      else scanTagUriLoop mark fuel (acc.push s.ch) (length + 1) s.skip
    else .ok (acc, length, s)

/-- Read a tag's characters, continuing `head`. -/
def scanTagUri (head : String) (mark : Mark) (s : Scanner) : Except ReadError (String × Scanner) := do
  let acc := if 1 < head.length then String.ofList (head.toList.drop 1) else ""
  let (acc, length, s) ← scanTagUriLoop mark (s.rest.length + 1) acc head.length s
  if length = 0 then throw ⟨mark, "while parsing a tag, did not find expected tag URI"⟩
  return (acc, s)

/-- Read the value of a `%TAG` directive: a handle and a prefix. -/
def scanTagDirectiveValue (mark : Mark) (s : Scanner) : Except ReadError (Token × Scanner) := do
  let s := s.skipWhile isBlank
  let (handle, s) ← scanTagHandle true mark s
  let s := s.skipWhile isBlank
  let (pfx, s) ← scanTagUri "" mark s
  if isBlankZ s.ch then return (⟨mark, .tagDirective handle pfx⟩, s)
  else throw ⟨mark, "while scanning TAG, did not find expected whitespace or line break"⟩

/-- Read a directive line. An unknown directive is skipped. -/
def scanDirective (s : Scanner) : Except ReadError (Token × Scanner) := do
  let mark := s.mark
  let (name, s) ← scanDirectiveName s.skip
  let (tok, s) ← match name with
    | "YAML" => scanVersionDirectiveValue mark s
    | "TAG" => scanTagDirectiveValue mark s
    | _ => pure (⟨mark, .tagDirective "" ""⟩, s.skipWhile (fun c => !isBreakZ c))
  let s := s.skipWhile isBlank
  let s := if s.ch == '#' then s.skipWhile (fun c => !isBreakZ c) else s
  if !isBreakZ s.ch then
    throw ⟨mark, "while scanning a directive, did not find expected comment or line break"⟩
  return (tok, if isBreak s.ch then s.skipLine else s)

/-- A directive, at the start of a line. -/
def fetchDirective (s : Scanner) : Except ReadError Scanner := do
  let s := s.unrollIndent (-1)
  let s ← s.removeSimpleKey
  let s := s.allowSimpleKey false
  let (tok, s) ← scanDirective s
  return s.push tok

/-- A document start `---` or end `...`. -/
def fetchDocumentIndicator (s : Scanner) (kind : TokenKind) : Except ReadError Scanner := do
  let s := s.unrollIndent (-1)
  let s ← s.removeSimpleKey
  let s := s.allowSimpleKey false
  return (s.skipN 3).push ⟨s.mark, kind⟩

/-- `[` or `{`: a possible simple key, and one flow depth deeper (at most 255). -/
def fetchFlowCollectionStart (s : Scanner) (kind : TokenKind) : Except ReadError Scanner := do
  let s ← s.saveSimpleKey
  if 255 ≤ s.flowLevel then throw ⟨s.mark, "recursion limit exceeded"⟩
  let s := { s with simpleKeys := ⟨false, false, 0, ⟨0, 0, 0⟩⟩ :: s.simpleKeys,
                    flowLevel := s.flowLevel + 1 }
  let s := s.allowSimpleKey true
  return s.skip.push ⟨s.mark, kind⟩

/-- `]` or `}`: one flow depth up. -/
def fetchFlowCollectionEnd (s : Scanner) (kind : TokenKind) : Except ReadError Scanner := do
  let s ← s.removeSimpleKey
  let s := if 0 < s.flowLevel then { s with flowLevel := s.flowLevel - 1, simpleKeys := s.simpleKeys.drop 1 }
    else s
  let s := s.allowSimpleKey false
  return s.skip.push ⟨s.mark, kind⟩

/-- `,` between flow entries. -/
def fetchFlowEntry (s : Scanner) : Except ReadError Scanner := do
  let s ← s.removeSimpleKey
  let s := s.allowSimpleKey true
  return s.skip.push ⟨s.mark, .flowEntry⟩

/-- `- `: a block sequence entry, opening a sequence at its column when deeper. -/
def fetchBlockEntry (s : Scanner) : Except ReadError Scanner := do
  if s.flowLevel = 0 then
    if !s.simpleKeyAllowed then
      throw ⟨s.mark, "block sequence entries are not allowed in this context"⟩
  else throw ⟨s.mark, "\"-\" is only valid inside a block"⟩
  let s := s.rollIndent s.mark.col none .blockSequenceStart s.mark
  let s ← s.removeSimpleKey
  let s := s.allowSimpleKey true
  return s.skip.push ⟨s.mark, .blockEntry⟩

/-- `? `: an explicit key, opening a mapping at its column when deeper. -/
def fetchKey (s : Scanner) : Except ReadError Scanner := do
  let mark := s.mark
  let s ← if s.flowLevel = 0 then
      if !s.simpleKeyAllowed then throw (⟨s.mark, "mapping keys are not allowed in this context"⟩ : ReadError)
      else pure (s.rollIndent mark.col none .blockMappingStart mark)
    else pure s
  let s ← s.removeSimpleKey
  let s := s.allowSimpleKey (s.flowLevel == 0)
  return s.skip.push ⟨mark, .key⟩

/-- `: `: a value. When a simple key is possible, a key token goes before it (and a mapping
start when the key opens a deeper mapping); otherwise the value follows an explicit key or
none, which in block context needs a place where a key may start. -/
def fetchValue (s : Scanner) : Except ReadError Scanner := do
  let mark := s.mark
  let sk := s.simpleKeys.headD ⟨false, false, 0, ⟨0, 0, 0⟩⟩
  let s ← if sk.possible then
      let s := s.insertToken sk.tokenNumber ⟨sk.mark, .key⟩
      let s := s.rollIndent sk.mark.col (some sk.tokenNumber) .blockMappingStart mark
      let s := { s with simpleKeys := { sk with possible := false } :: s.simpleKeys.drop 1 }
      pure (s.allowSimpleKey false)
    else if s.flowLevel = 0 then
      if !s.simpleKeyAllowed then
        throw (⟨mark, "mapping values are not allowed in this context"⟩ : ReadError)
      else pure ((s.rollIndent mark.col none .blockMappingStart mark).allowSimpleKey true)
    else pure (s.allowSimpleKey false)
  return s.skip.push ⟨mark, .value⟩

/-- Read an anchor or alias name: letters, digits, `_`, `-`, ended by a blank, the end or one
of `?:,]}%@` and a backtick. -/
def scanAnchor (isAlias : Bool) (s : Scanner) : Except ReadError (Token × Scanner) := do
  let mark := s.mark
  let s := s.skip
  let name := String.ofList (s.rest.takeWhile isAlphaChar)
  let s := s.skipWhile isAlphaChar
  if name.isEmpty || !(isBlankZ s.ch || "?:,]\x7d%@\x60".toList.contains s.ch) then
    throw ⟨mark, "while scanning an anchor or alias, did not find expected alphabetic or numeric character"⟩
  return (⟨mark, if isAlias then .aliasRef name else .anchor name⟩, s)

/-- `*name` or `&name`. -/
def fetchAnchor (s : Scanner) (isAlias : Bool) : Except ReadError Scanner := do
  let s ← s.saveSimpleKey
  let s := s.allowSimpleKey false
  let (tok, s) ← scanAnchor isAlias s
  return s.push tok

/-- Read a tag: `!<uri>`, `!handle!suffix`, `!suffix`, or `!` alone; a blank or the end
follows it. -/
def scanTag (s : Scanner) : Except ReadError (Token × Scanner) := do
  let mark := s.mark
  let (handle, suffix, s) ← if s.peekAt 1 == '<' then do
      let (suffix, s) ← scanTagUri "" mark (s.skipN 2)
      if s.ch != '>' then throw (⟨mark, "while scanning a tag, did not find the expected '>'"⟩ : ReadError)
      pure ("", suffix, s.skip)
    else do
      let (handle, s) ← scanTagHandle false mark s
      if decide (2 ≤ handle.length) && handle.startsWith "!" && handle.endsWith "!" then
        let (suffix, s) ← scanTagUri "" mark s
        pure (handle, suffix, s)
      else
        let (suffix, s) ← scanTagUri handle mark s
        pure (if suffix.isEmpty then ("", "!", s) else ("!", suffix, s))
  if isBlankZ s.ch then return (⟨mark, .tag handle suffix⟩, s)
  else throw ⟨mark, "while scanning a tag, did not find expected whitespace or line break"⟩

/-- A tag. -/
def fetchTag (s : Scanner) : Except ReadError Scanner := do
  let s ← s.saveSimpleKey
  let s := s.allowSimpleKey false
  let (tok, s) ← scanTag s
  return s.push tok

/-- The text of a scalar being read, with the line breaks and blanks read since its last
character, which are joined or folded once another character follows. -/
structure Folding where
  text : String := ""
  leadingBreak : String := ""
  trailingBreaks : String := ""
  whitespaces : String := ""
  leadingBlanks : Bool := false
deriving Inhabited

/-- Join what was read since the last character: after a line break, a single break becomes a
space and more breaks stay breaks; otherwise the blanks are kept. -/
def Folding.join (f : Folding) : Folding :=
  if f.leadingBlanks then
    if f.leadingBreak.isEmpty then
      { f with text := f.text ++ f.trailingBreaks, trailingBreaks := "", leadingBlanks := false }
    else if f.trailingBreaks.isEmpty then
      { f with text := f.text.push ' ', leadingBreak := "", leadingBlanks := false }
    else
      { f with text := f.text ++ f.trailingBreaks, trailingBreaks := "", leadingBreak := "",
               leadingBlanks := false }
  else { f with text := f.text ++ f.whitespaces, whitespaces := "" }

/-- Read the characters of a plain scalar up to a blank, the end, or an indicator ending it. -/
def plainChars : Nat → Folding → Scanner → Folding × Scanner
  | 0, f, s => (f, s)
  | fuel + 1, f, s =>
    if isBlankZ s.ch then (f, s)
    else if s.ch == ':' && (isBlankZ (s.peekAt 1) || (decide (0 < s.flowLevel) && isFlowChar (s.peekAt 1))) then
      (f, s)
    else if decide (0 < s.flowLevel) && isFlowChar s.ch then (f, s)
    else
      let f := if f.leadingBlanks || !f.whitespaces.isEmpty then f.join else f
      plainChars fuel { f with text := f.text.push s.ch } s.skip

/-- Read the blanks and line breaks after a run of plain characters. A tab before the scalar's
indentation on a continuation line is an error. -/
def plainBlanks (indent : Int) (start : Mark) : Nat → Folding → Scanner → Except ReadError (Folding × Scanner)
  | 0, f, s => .ok (f, s)
  | fuel + 1, f, s =>
    if isBlank s.ch then
      if f.leadingBlanks && decide ((s.mark.col : Int) < indent) && s.ch == '\t' then
        .error ⟨start, "while scanning a plain scalar, found a tab"⟩
      else if f.leadingBlanks then plainBlanks indent start fuel f s.skip
      else plainBlanks indent start fuel { f with whitespaces := f.whitespaces.push s.ch } s.skip
    else if isBreak s.ch then
      if f.leadingBlanks then
        let (s, tb) := s.readBreak f.trailingBreaks
        plainBlanks indent start fuel { f with trailingBreaks := tb } s
      else
        let (s, lb) := s.readBreak f.leadingBreak
        plainBlanks indent start fuel { f with whitespaces := "", leadingBreak := lb, leadingBlanks := true } s
    else .ok (f, s)

/-- Whether a document marker `---` or `...` followed by a blank starts here, in column 0. -/
def atDocumentMarker (s : Scanner) : Bool :=
  s.mark.col == 0 &&
    ((s.ch == '-' && s.peekAt 1 == '-' && s.peekAt 2 == '-') ||
     (s.ch == '.' && s.peekAt 1 == '.' && s.peekAt 2 == '.')) &&
    isBlankZ (s.peekAt 3)

/-- Read the lines of a plain scalar: it ends at a document marker, at a comment, at an
indicator, and outside flow collections at a line indented less than `indent`. -/
def plainLines (indent : Int) (start : Mark) : Nat → Folding → Scanner → Except ReadError (Folding × Scanner)
  | 0, f, s => .ok (f, s)
  | fuel + 1, f, s =>
    if s.atDocumentMarker || s.ch == '#' then .ok (f, s)
    else
      let (f, s) := plainChars (s.rest.length + 1) f s
      if !(isBlank s.ch || isBreak s.ch) then .ok (f, s)
      else match plainBlanks indent start (s.rest.length + 1) f s with
        | .error e => .error e
        | .ok (f, s) =>
          if s.flowLevel = 0 ∧ (s.mark.col : Int) < indent then .ok (f, s)
          else plainLines indent start fuel f s

/-- A plain scalar. A simple key may follow it when it ended at a line break. -/
def fetchPlainScalar (s : Scanner) : Except ReadError Scanner := do
  let s ← s.saveSimpleKey
  let s := s.allowSimpleKey false
  let mark := s.mark
  let (f, s) ← plainLines (s.indent + 1) mark (s.rest.length + 1) {} s
  let s := if f.leadingBlanks then s.allowSimpleKey true else s
  return s.push ⟨mark, .scalar .plain f.text⟩

/-- The character of an escape `\c` in a double-quoted scalar, or the number of hexadecimal
digits that follow it. -/
def escapeOf (c : Char) : Option (Sum Char Nat) :=
  match c with
  | '0' => some (.inl '\x00')
  | 'a' => some (.inl '\x07')
  | 'b' => some (.inl '\x08')
  | 't' => some (.inl '\t')
  | '\t' => some (.inl '\t')
  | 'n' => some (.inl '\n')
  | 'v' => some (.inl '\x0b')
  | 'f' => some (.inl '\x0c')
  | 'r' => some (.inl '\r')
  | 'e' => some (.inl '\x1b')
  | ' ' => some (.inl ' ')
  | '"' => some (.inl '"')
  | '\'' => some (.inl '\'')
  | '\\' => some (.inl '\\')
  | 'N' => some (.inl '\x85')
  | '_' => some (.inl '\xa0')
  | 'L' => some (.inl ' ')
  | 'P' => some (.inl ' ')
  | 'x' => some (.inr 2)
  | 'u' => some (.inr 4)
  | 'U' => some (.inr 8)
  | _ => none

/-- The value of `n` hexadecimal digits. -/
def hexValue (cs : List Char) : Option Nat :=
  cs.foldl (fun acc c => do let a ← acc; let d ← hexDigitValue c; return a * 16 + d) (some 0)

/-- How reading the characters of a quoted scalar's line stopped. -/
inductive QuotedStop where
  /-- At a blank, a line break, the end or the closing quote. -/
  | atBlank
  /-- After an escaped line break. -/
  | escapedBreak
deriving Inhabited

/-- Read the non-blank characters of a quoted scalar. -/
def quotedChars (single : Bool) (start : Mark) : Nat → String → Scanner → Except ReadError (String × QuotedStop × Scanner)
  | 0, acc, s => .ok (acc, .atBlank, s)
  | fuel + 1, acc, s =>
    if isBlankZ s.ch then .ok (acc, .atBlank, s)
    else if single && s.ch == '\'' && s.peekAt 1 == '\'' then quotedChars single start fuel (acc.push '\'') (s.skipN 2)
    else if single && s.ch == '\'' then .ok (acc, .atBlank, s)
    else if !single && s.ch == '"' then .ok (acc, .atBlank, s)
    else if !single && s.ch == '\\' && isBreak (s.peekAt 1) then .ok (acc, .escapedBreak, s.skip.skipLine)
    else if !single && s.ch == '\\' then
      match escapeOf (s.peekAt 1) with
      | some (.inl c) => quotedChars single start fuel (acc.push c) (s.skipN 2)
      | some (.inr n) =>
        let s := s.skipN 2
        match hexValue (s.rest.take n), decide ((s.rest.take n).length = n) with
        | some v, true =>
          match charOfCode v with
          | some c => quotedChars single start fuel (acc.push c) (s.skipN n)
          | none => .error ⟨start, "while parsing a quoted scalar, found invalid Unicode character escape code"⟩
        | _, _ => .error ⟨start, "while parsing a quoted scalar, did not find expected hexdecimal number"⟩
      | none => .error ⟨start, "while parsing a quoted scalar, found unknown escape character"⟩
    else quotedChars single start fuel (acc.push s.ch) s.skip

/-- Read the blanks and line breaks inside a quoted scalar. -/
def quotedBlanks : Nat → Folding → Scanner → Folding × Scanner
  | 0, f, s => (f, s)
  | fuel + 1, f, s =>
    if isBlank s.ch then
      if f.leadingBlanks then quotedBlanks fuel f s.skip
      else quotedBlanks fuel { f with whitespaces := f.whitespaces.push s.ch } s.skip
    else if isBreak s.ch then
      if f.leadingBlanks then
        let (s, tb) := s.readBreak f.trailingBreaks
        quotedBlanks fuel { f with trailingBreaks := tb } s
      else
        let (s, lb) := s.readBreak f.leadingBreak
        quotedBlanks fuel { f with whitespaces := "", leadingBreak := lb, leadingBlanks := true } s
    else (f, s)

/-- Read the lines of a quoted scalar up to its closing quote. A document marker or the end
inside it is an error. -/
def quotedLines (single : Bool) (start : Mark) : Nat → Folding → Scanner → Except ReadError (Folding × Scanner)
  | 0, f, s => .ok (f, s)
  | fuel + 1, f, s =>
    if s.atDocumentMarker then .error ⟨start, "while scanning a quoted scalar, found unexpected document indicator"⟩
    else if isZ s.ch then .error ⟨start, "while scanning a quoted scalar, found unexpected end of stream"⟩
    else match quotedChars single start (s.rest.length + 1) f.text s with
      | .error e => .error e
      | .ok (text, stop, s) =>
        let f := { f with text := text,
                          leadingBlanks := match stop with | .escapedBreak => true | .atBlank => false }
        if (single && s.ch == '\'') || (!single && s.ch == '"') then .ok (f, s)
        else
          let (f, s) := quotedBlanks (s.rest.length + 1) f s
          quotedLines single start fuel f.join s

/-- A single- or double-quoted scalar. -/
def fetchFlowScalar (s : Scanner) (single : Bool) : Except ReadError Scanner := do
  let s ← s.saveSimpleKey
  let s := s.allowSimpleKey false
  let mark := s.mark
  let (f, s) ← quotedLines single mark (s.rest.length + 1) {} s.skip
  let s := s.skip
  let s := { s with adjacentValueAt := some s.mark.index }
  return s.push ⟨mark, .scalar (if single then .singleQuoted else .doubleQuoted) f.text⟩

/-- Read the indentation and empty lines before a block scalar's line, collecting the breaks.
While the indentation is not known, spaces are read as far as they go and the deepest column
seen fixes it; a tab within the indentation is an error. -/
def blockBreaks (indent : Nat) (start : Mark) : Nat → Nat → String → Scanner →
    Except ReadError (Nat × String × Scanner)
  | 0, maxIndent, breaks, s => .ok (maxIndent, breaks, s)
  | fuel + 1, maxIndent, breaks, s =>
    let inIndent := fun (s : Scanner) => indent == 0 || decide (s.mark.col < indent)
    let s := s.skipN ((s.rest.takeWhile (· == ' ')).length.min
      (if indent = 0 then s.rest.length else indent - s.mark.col))
    let maxIndent := max maxIndent s.mark.col
    if inIndent s && s.ch == '\t' then
      .error ⟨s.mark, "while scanning a block scalar, found a tab character where an indentation space is expected"⟩
    else if !isBreak s.ch then .ok (maxIndent, breaks, s)
    else
      let (s, breaks) := s.readBreak breaks
      blockBreaks indent start fuel maxIndent breaks s

/-- The lines of a block scalar at indentation `indent`, folded when `literal` is false. -/
def blockLines (literal : Bool) (indent : Nat) (start : Mark) : Nat → String → String → String → Bool →
    Scanner → Except ReadError (String × String × String × Scanner)
  | 0, text, leadingBreak, trailingBreaks, _, s => .ok (text, leadingBreak, trailingBreaks, s)
  | fuel + 1, text, leadingBreak, trailingBreaks, leadingBlank, s =>
    if !(s.mark.col == indent && !isZ s.ch) then .ok (text, leadingBreak, trailingBreaks, s)
    else
      let trailingBlank := isBlank s.ch
      let (text, leadingBreak) :=
        if !literal && !leadingBreak.isEmpty && !leadingBlank && !trailingBlank then
          (if trailingBreaks.isEmpty then text.push ' ' else text, "")
        else (text ++ leadingBreak, "")
      let text := text ++ trailingBreaks
      let leadingBlank := isBlank s.ch
      let line := s.rest.takeWhile (fun c => !isBreakZ c)
      let text := text ++ String.ofList line
      let s := s.skipN line.length
      if isZ s.ch then .ok (text, leadingBreak, "", s)
      else
        let (s, leadingBreak) := s.readBreak leadingBreak
        match blockBreaks indent start (s.rest.length + 1) 0 "" s with
        | .error e => .error e
        | .ok (_, trailingBreaks, s) =>
          blockLines literal indent start fuel text leadingBreak trailingBreaks leadingBlank s

/-- Read a block scalar's header: chomping (`+` keep, `-` strip, clip otherwise) and an
indentation indicator from 1 to 9, in either order, then a comment or the line's end. -/
def blockHeader (start : Mark) (s : Scanner) : Except ReadError (Int × Nat × Scanner) := do
  let chompOf := fun (c : Char) => if c == '+' then (1 : Int) else -1
  let digitOf := fun (c : Char) => c.toNat - 0x30
  let (chomping, increment, s) ←
    if s.ch == '+' || s.ch == '-' then
      let chomping := chompOf s.ch
      let s := s.skip
      if isDigitChar s.ch then
        if s.ch == '0' then
          throw (⟨start, "while scanning a block scalar, found an indentation indicator equal to 0"⟩ : ReadError)
        else pure (chomping, digitOf s.ch, s.skip)
      else pure (chomping, 0, s)
    else if isDigitChar s.ch then
      if s.ch == '0' then
        throw ⟨start, "while scanning a block scalar, found an indentation indicator equal to 0"⟩
      else
        let increment := digitOf s.ch
        let s := s.skip
        if s.ch == '+' || s.ch == '-' then pure (chompOf s.ch, increment, s.skip)
        else pure (0, increment, s)
    else pure (0, 0, s)
  let s := s.skipWhile isBlank
  let s := if s.ch == '#' then s.skipWhile (fun c => !isBreakZ c) else s
  if !isBreakZ s.ch then
    throw ⟨start, "while scanning a block scalar, did not find expected comment or line break"⟩
  return (chomping, increment, if isBreak s.ch then s.skipLine else s)

/-- A literal or folded block scalar. -/
def fetchBlockScalar (s : Scanner) (literal : Bool) : Except ReadError Scanner := do
  let s ← s.saveSimpleKey
  let s := s.allowSimpleKey true
  let mark := s.mark
  let (chomping, increment, s) ← blockHeader mark s.skip
  let given : Nat := if increment > 0 then
      (if 0 ≤ s.indent then (s.indent + increment).toNat else increment) else 0
  let (maxIndent, trailingBreaks, s) ← blockBreaks given mark (s.rest.length + 1) 0 "" s
  let indent := if given = 0 then max (max maxIndent (s.indent + 1).toNat) 1 else given
  let (text, leadingBreak, trailingBreaks, s) ←
    blockLines literal indent mark (s.rest.length + 1) "" "" trailingBreaks false s
  let text := if chomping != -1 then text ++ leadingBreak else text
  let text := if chomping = 1 then text ++ trailingBreaks else text
  return s.push ⟨mark, .scalar (if literal then .literal else .folded) text⟩

/-- Read the next token, or the tokens it completes (a key and a mapping start go before the
simple key a value completes; block ends go before the token that closes collections). -/
def fetchNextToken (s : Scanner) : Except ReadError Scanner := do
  let s := skipToNextToken (s.rest.length + 1) s
  let s ← s.staleSimpleKeys
  let s := s.unrollIndent s.mark.col
  let c := s.ch
  let nc := s.peekAt 1
  if isZ c then s.fetchStreamEnd
  else if s.mark.col == 0 && c == '%' then s.fetchDirective
  else if s.mark.col == 0 && c == '-' && nc == '-' && s.peekAt 2 == '-' && isBlankZ (s.peekAt 3) then
    s.fetchDocumentIndicator .documentStart
  else if s.mark.col == 0 && c == '.' && nc == '.' && s.peekAt 2 == '.' && isBlankZ (s.peekAt 3) then
    s.fetchDocumentIndicator .documentEnd
  else match c with
    | '[' => s.fetchFlowCollectionStart .flowSequenceStart
    | '{' => s.fetchFlowCollectionStart .flowMappingStart
    | ']' => s.fetchFlowCollectionEnd .flowSequenceEnd
    | '}' => s.fetchFlowCollectionEnd .flowMappingEnd
    | ',' => s.fetchFlowEntry
    | '-' => if isBlankZ nc then s.fetchBlockEntry else s.fetchPlainScalar
    | '?' => if decide (0 < s.flowLevel) || isBlankZ nc then s.fetchKey else s.fetchPlainScalar
    | ':' =>
      if isBlankZ nc || (decide (0 < s.flowLevel) && (isFlowChar nc || s.adjacentValueAt == some s.mark.index))
      then s.fetchValue else s.fetchPlainScalar
    | '*' => s.fetchAnchor true
    | '&' => s.fetchAnchor false
    | '!' => s.fetchTag
    | '|' => if s.flowLevel = 0 then s.fetchBlockScalar true else s.fetchPlainScalar
    | '>' => if s.flowLevel = 0 then s.fetchBlockScalar false else s.fetchPlainScalar
    | '\'' => s.fetchFlowScalar true
    | '"' => s.fetchFlowScalar false
    | '%' => throw ⟨s.mark, "unexpected character: '%'"⟩
    | '@' => throw ⟨s.mark, "unexpected character: '@'"⟩
    | '`' => throw ⟨s.mark, "unexpected character: backtick"⟩
    | _ => s.fetchPlainScalar

/-- Read tokens until the stream ends; every token but the last consumes a character. -/
def run : Nat → Scanner → Except ReadError Scanner
  | 0, s => .error ⟨s.mark, "the text did not end"⟩
  | fuel + 1, s => if s.finished then .ok s else do run fuel (← s.fetchNextToken)

end Scanner

/-- The tokens of a text, from the stream start to the stream end. -/
def tokenize (text : String) : Except ReadError (List Token) := do
  let s := Scanner.start text
  let s ← Scanner.run (2 * s.rest.length + 4) s
  return s.tokens

end OlmProvision.Yaml
