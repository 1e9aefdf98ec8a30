import OlmProvision.Pattern.Translate

/-
Whether a pattern's meaning matches somewhere in a text.

Matching runs on sets of positions. A set holds, for each position `0..n` of a text of `n`
characters, whether a match of what has been read so far can end there; `ends h s` is the set of
positions where a match of `h` can end when it starts at a position of `s`. Starting from every
position at once answers whether the pattern matches anywhere.

A repetition first takes its least count of steps, then gathers the positions reachable with up
to as many more as its greatest count allows. Each extra step can only add positions, and there
are `n + 1` of them, so `n + 1` extra steps reach everything an unbounded repetition reaches, and
the gathering stops early once a step adds nothing.
-/
namespace OlmProvision.Pattern

/-- For each position of a text, whether a match can end there. -/
abbrev Positions := Array Bool

/-- The characters of `t` that are ASCII word characters. -/
def isWordAt (t : Array Char) (i : Nat) : Bool :=
  match t[i]? with
  | some c => c.isAlphanum || c == '_'
  | none => false

/-- Whether a word character ends right before position `i`. -/
def wordBefore (t : Array Char) (i : Nat) : Bool := 0 < i && isWordAt t (i - 1)

/-- Whether a zero-width test holds at position `i` of `t`. -/
def Look.holds (t : Array Char) (i : Nat) : Look → Bool
  | .start => i == 0
  | .finish => i == t.size
  | .startLF => i == 0 || t[i - 1]? == some '\n'
  | .endLF => i == t.size || t[i]? == some '\n'
  | .startCRLF =>
    i == 0 || t[i - 1]? == some '\n' || (t[i - 1]? == some '\r' && t[i]? != some '\n')
  | .endCRLF =>
    i == t.size || t[i]? == some '\r' || (t[i]? == some '\n' && (i == 0 || t[i - 1]? != some '\r'))
  | .wordAscii => wordBefore t i != isWordAt t i
  | .notWordAscii => wordBefore t i == isWordAt t i
  | .wordStartAscii => !wordBefore t i && isWordAt t i
  | .wordEndAscii => wordBefore t i && !isWordAt t i
  | .wordStartHalfAscii => !wordBefore t i
  | .wordEndHalfAscii => !isWordAt t i
  | .unicodeWord => false

/-- The positions one character further than those of `s`, over a character of `rs`. -/
def advance (t : Array Char) (rs : Ranges) (s : Positions) : Positions :=
  Array.ofFn (n := t.size + 1) fun i =>
    match i.val with
    | 0 => false
    | j + 1 => s.getD j false && rs.mem (t.getD j ' ').toNat

/-- The positions of either set. -/
def Positions.union (a b : Positions) : Positions := Array.zipWith (· || ·) a b

/-- Whether a set has no position. -/
def Positions.none (s : Positions) : Bool := !s.any id

/-- `f` applied `k` times, stopping once nothing changes. -/
def times (f : Positions → Positions) : Nat → Positions → Positions
  | 0, s => s
  | k + 1, s =>
    let s' := f s
    if s' == s then s else times f k s'

/-- `s` with what up to `k` applications of `f` add, stopping once nothing is added. -/
def gather (f : Positions → Positions) : Nat → Positions → Positions
  | 0, s => s
  | k + 1, s =>
    let s' := s.union (f s)
    if s' == s then s else gather f k s'

mutual

/-- The positions where a match of `h` can end, starting at the positions of `s`. -/
def ends (t : Array Char) : Hir → Positions → Positions
  | .empty, s => s
  | .chars rs, s => advance t rs s
  | .look l, s => s.mapIdx fun i v => v && l.holds t i
  | .repeat lo hi sub, s =>
    let base := times (ends t sub) lo s
    let extra := match hi with
      | some h => min (h - lo) (t.size + 1)
      | none => t.size + 1
    gather (ends t sub) extra base
  | .concat items, s => endsAll t items s
  | .alt branches, s => endsAny t branches s

/-- The positions where a match of the patterns one after another can end. -/
def endsAll (t : Array Char) : List Hir → Positions → Positions
  | [], s => s
  | h :: rest, s => endsAll t rest (ends t h s)

/-- The positions where a match of one of the patterns can end. -/
def endsAny (t : Array Char) : List Hir → Positions → Positions
  | [], _ => Array.replicate (t.size + 1) false
  | h :: rest, s => (ends t h s).union (endsAny t rest s)

end

/-- Whether `h` matches somewhere in `text`. -/
def Hir.matches (h : Hir) (text : String) : Bool :=
  let t := text.toList.toArray
  !(ends t h (Array.replicate (t.size + 1) true)).none

end OlmProvision.Pattern
