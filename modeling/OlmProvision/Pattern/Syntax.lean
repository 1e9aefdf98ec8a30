/-
The parsed form of a message pattern, and the ways a pattern can be refused.

A pattern is the regular-expression syntax of the log filter: literals and escapes, `.`,
anchors and word boundaries, bracketed classes with nested classes, ASCII classes
(`[:alpha:]`) and the set operations `&&`, `--` and `~~`, Perl classes (`\d`, `\s`, `\w`),
Unicode classes (`\pL`, `\p{Greek}`), groups with flags (`(?i)`, `(?-u:...)`), named groups,
alternation, and the repetitions `?`, `*`, `+` and `{m}`, `{m,}`, `{m,n}`.

Every error carries the stretch of the pattern it is about, by character positions, and some
carry a second stretch: the earlier flag or group name that a duplicate repeats. The message
texts are those the filter prints after `error: `.
-/
namespace OlmProvision.Pattern

/-- A stretch of the pattern, by character positions: from `start` up to `stop`. -/
structure Span where
  start : Nat
  stop : Nat
deriving Repr, DecidableEq, Inhabited

/-- Why a pattern is refused: while reading it, or while giving it a meaning. -/
inductive ErrorKind where
  | classEscapeInvalid
  | classRangeInvalid
  | classRangeLiteral
  | classUnclosed
  | decimalEmpty
  | decimalInvalid
  | escapeHexEmpty
  | escapeHexInvalid
  | escapeHexInvalidDigit
  | escapeUnexpectedEof
  | escapeUnrecognized
  | flagDanglingNegation
  | flagDuplicate
  | flagRepeatedNegation
  | flagUnexpectedEof
  | flagUnrecognized
  | groupNameDuplicate
  | groupNameEmpty
  | groupNameInvalid
  | groupNameUnexpectedEof
  | groupUnclosed
  | groupUnopened
  | repetitionCountInvalid
  | repetitionCountDecimalEmpty
  | repetitionCountUnclosed
  | repetitionMissing
  | specialWordBoundaryUnclosed
  | specialWordBoundaryUnrecognized
  | specialWordOrRepetitionUnexpectedEof
  | unicodeClassInvalid
  | unsupportedBackreference
  | unsupportedLookAround
  | unicodeNotAllowed
  | invalidUtf8
  | unicodePropertyNotFound
  | unicodePropertyValueNotFound
  | unicodePerlClassNotFound
  | unicodeCaseUnavailable
deriving Repr, DecidableEq, Inhabited

/-- The text printed for an error kind. -/
def ErrorKind.message : ErrorKind → String
  | .classEscapeInvalid => "invalid escape sequence found in character class"
  | .classRangeInvalid => "invalid character class range, the start must be <= the end"
  | .classRangeLiteral => "invalid range boundary, must be a literal"
  | .classUnclosed => "unclosed character class"
  | .decimalEmpty => "decimal literal empty"
  | .decimalInvalid => "decimal literal invalid"
  | .escapeHexEmpty => "hexadecimal literal empty"
  | .escapeHexInvalid => "hexadecimal literal is not a Unicode scalar value"
  | .escapeHexInvalidDigit => "invalid hexadecimal digit"
  | .escapeUnexpectedEof => "incomplete escape sequence, reached end of pattern prematurely"
  | .escapeUnrecognized => "unrecognized escape sequence"
  | .flagDanglingNegation => "dangling flag negation operator"
  | .flagDuplicate => "duplicate flag"
  | .flagRepeatedNegation => "flag negation operator repeated"
  | .flagUnexpectedEof => "expected flag but got end of regex"
  | .flagUnrecognized => "unrecognized flag"
  | .groupNameDuplicate => "duplicate capture group name"
  | .groupNameEmpty => "empty capture group name"
  | .groupNameInvalid => "invalid capture group character"
  | .groupNameUnexpectedEof => "unclosed capture group name"
  | .groupUnclosed => "unclosed group"
  | .groupUnopened => "unopened group"
  | .repetitionCountInvalid => "invalid repetition count range, the start must be <= the end"
  | .repetitionCountDecimalEmpty => "repetition quantifier expects a valid decimal"
  | .repetitionCountUnclosed => "unclosed counted repetition"
  | .repetitionMissing => "repetition operator missing expression"
  | .specialWordBoundaryUnclosed =>
    "special word boundary assertion is either unclosed or contains an invalid character"
  | .specialWordBoundaryUnrecognized =>
    "unrecognized special word boundary assertion, valid choices are: start, end, start-half or end-half"
  | .specialWordOrRepetitionUnexpectedEof =>
    "found either the beginning of a special word boundary or a bounded repetition on a \\b with an opening brace, but no closing brace"
  | .unicodeClassInvalid => "invalid Unicode character class"
  | .unsupportedBackreference => "backreferences are not supported"
  | .unsupportedLookAround =>
    "look-around, including look-ahead and look-behind, is not supported"
  | .unicodeNotAllowed => "Unicode not allowed here"
  | .invalidUtf8 => "pattern can match invalid UTF-8"
  | .unicodePropertyNotFound => "Unicode property not found"
  | .unicodePropertyValueNotFound => "Unicode property value not found"
  | .unicodePerlClassNotFound =>
    "Unicode-aware Perl class not found (make sure the unicode-perl feature is enabled)"
  | .unicodeCaseUnavailable =>
    "Unicode-aware case insensitivity matching is not available (make sure the unicode-case feature is enabled)"

/-- A refused pattern: the kind, the stretch it is about, and the earlier stretch a duplicate
repeats. -/
structure PatternError where
  kind : ErrorKind
  span : Span
  earlier : Option Span
deriving Repr, Inhabited

/-- A flag of a flag group. -/
inductive Flag where
  | caseInsensitive
  | multiLine
  | dotAll
  | swapGreed
  | unicode
  | crlf
  | ignoreWhitespace
deriving Repr, DecidableEq, Inhabited

/-- The flag a letter of a flag group names. -/
def Flag.ofChar? : Char → Option Flag
  | 'i' => some .caseInsensitive
  | 'm' => some .multiLine
  | 's' => some .dotAll
  | 'U' => some .swapGreed
  | 'u' => some .unicode
  | 'R' => some .crlf
  | 'x' => some .ignoreWhitespace
  | _ => none

/-- The flags a group sets, in order, each with the value it is set to: a flag after the
negation `-` is cleared, one before it is set. -/
abbrev Settings := List (Flag × Bool)

/-- A literal character, and whether it was written `\xHH`, the one form that may stand for a
single byte. -/
structure Literal where
  span : Span
  char : Char
  byteEscape : Bool
deriving Repr, Inhabited

/-- The zero-width assertions. -/
inductive Assertion where
  | startLine
  | endLine
  | startText
  | endText
  | wordBoundary
  | notWordBoundary
  | wordStart
  | wordEnd
  | wordStartHalf
  | wordEndHalf
deriving Repr, DecidableEq, Inhabited

/-- The Perl classes `\d`, `\s` and `\w`. -/
inductive PerlClass where
  | digit
  | space
  | word
deriving Repr, DecidableEq, Inhabited

/-- The ASCII classes written `[:name:]` inside brackets. -/
inductive AsciiClass where
  | alnum
  | alpha
  | ascii
  | blank
  | cntrl
  | digit
  | graph
  | lower
  | print
  | punct
  | space
  | upper
  | word
  | xdigit
deriving Repr, DecidableEq, Inhabited

/-- The ASCII class a name stands for. -/
def AsciiClass.ofName? : String → Option AsciiClass
  | "alnum" => some .alnum
  | "alpha" => some .alpha
  | "ascii" => some .ascii
  | "blank" => some .blank
  | "cntrl" => some .cntrl
  | "digit" => some .digit
  | "graph" => some .graph
  | "lower" => some .lower
  | "print" => some .print
  | "punct" => some .punct
  | "space" => some .space
  | "upper" => some .upper
  | "word" => some .word
  | "xdigit" => some .xdigit
  | _ => none

/-- What a Unicode class asks for: one letter (`\pL`), a name (`\p{Greek}`), or a property and
a value (`\p{Script=Greek}`). -/
inductive UnicodeQuery where
  | oneLetter (c : Char)
  | named (name : String)
  | byValue (property value : String)
deriving Repr, Inhabited

/-- The set operations between classes. -/
inductive SetOp where
  | intersection
  | difference
  | symmetricDifference
deriving Repr, DecidableEq, Inhabited

/-- The inside of a bracketed class. -/
inductive ClassItem where
  | empty (span : Span)
  | literal (l : Literal)
  | range (span : Span) (lo hi : Literal)
  | ascii (span : Span) (kind : AsciiClass) (negated : Bool)
  | unicode (span : Span) (query : UnicodeQuery) (negated : Bool)
  | perl (span : Span) (kind : PerlClass) (negated : Bool)
  | bracketed (span : Span) (negated : Bool) (inner : ClassItem)
  | union (span : Span) (items : List ClassItem)
  | op (span : Span) (kind : SetOp) (lhs rhs : ClassItem)
deriving Repr, Inhabited

/-- The stretch of the pattern a class item was read from. -/
def ClassItem.span : ClassItem → Span
  | .empty s => s
  | .literal l => l.span
  | .range s _ _ => s
  | .ascii s _ _ => s
  | .unicode s _ _ => s
  | .perl s _ _ => s
  | .bracketed s _ _ => s
  | .union s _ => s
  | .op s _ _ _ => s

/-- A parsed pattern. A repetition has its least and greatest count (`none` for no bound); a
group has the flags it sets for its inside, if any. -/
inductive Ast where
  | empty
  | setFlags (flags : Settings)
  | literal (l : Literal)
  | dot (span : Span)
  | assertion (span : Span) (kind : Assertion)
  | unicode (span : Span) (query : UnicodeQuery) (negated : Bool)
  | perl (span : Span) (kind : PerlClass) (negated : Bool)
  | bracketed (span : Span) (negated : Bool) (set : ClassItem)
  | repetition (lo : Nat) (hi : Option Nat) (sub : Ast)
  | group (flags : Option Settings) (sub : Ast)
  | alternation (branches : List Ast)
  | concat (items : List Ast)
deriving Repr, Inhabited

end OlmProvision.Pattern
