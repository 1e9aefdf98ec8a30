import OlmProvision.Pattern.Syntax

/-
Sets of code points, as the classes of a pattern denote them.

A set is a list of inclusive ranges, kept sorted and with no two ranges overlapping or touching,
so that the complement is the gaps between them. Union joins and renormalises; intersection is
the complement of the union of the complements; difference and symmetric difference follow.

The universe is given to the complement: all code points for Unicode classes, the bytes
`0..255` for the byte classes of a pattern read without Unicode.
-/
namespace OlmProvision.Pattern

/-- A set of code points as inclusive ranges. -/
abbrev Ranges := List (Nat × Nat)

namespace Ranges

/-- The largest code point. -/
def maxChar : Nat := 0x10FFFF

/-- Insert a range into a list sorted by start. -/
def insertSorted (r : Nat × Nat) : Ranges → Ranges
  | [] => [r]
  | s :: rest => if r.1 ≤ s.1 then r :: s :: rest else s :: insertSorted r rest

/-- Join ranges sorted by start that overlap or touch, `cur` being the range in progress. -/
def joinFrom (cur : Nat × Nat) : Ranges → Ranges
  | [] => [cur]
  | s :: rest =>
    if s.1 ≤ cur.2 + 1 then joinFrom (cur.1, max cur.2 s.2) rest
    else cur :: joinFrom s rest

/-- Join ranges sorted by start that overlap or touch. -/
def joinSorted : Ranges → Ranges
  | [] => []
  | r :: rest => joinFrom r rest

/-- The canonical form of any list of ranges; empty ranges are dropped. -/
def normalize (rs : Ranges) : Ranges :=
  joinSorted ((rs.filter fun r => r.1 ≤ r.2).foldr insertSorted [])

/-- Whether `n` is in the set. -/
def mem (rs : Ranges) (n : Nat) : Bool := rs.any fun r => r.1 ≤ n && n ≤ r.2

/-- The gaps of canonical ranges from `lo` up to `top`. -/
def gaps (lo top : Nat) : Ranges → Ranges
  | [] => if lo ≤ top then [(lo, top)] else []
  | r :: rest =>
    let rest' := gaps (r.2 + 1) top rest
    if lo < r.1 then (lo, r.1 - 1) :: rest' else rest'

/-- The complement within `0..top`. -/
def complement (top : Nat) (rs : Ranges) : Ranges := gaps 0 top (normalize rs)

/-- The union of two sets. -/
def union (a b : Ranges) : Ranges := normalize (a ++ b)

/-- The intersection of two sets. -/
def inter (top : Nat) (a b : Ranges) : Ranges :=
  complement top (union (complement top a) (complement top b))

/-- The code points of `a` not in `b`. -/
def diff (top : Nat) (a b : Ranges) : Ranges := inter top a (complement top b)

/-- The code points in exactly one of the sets. -/
def symDiff (top : Nat) (a b : Ranges) : Ranges := union (diff top a b) (diff top b a)

/-- The result of a set operation. -/
def apply (top : Nat) : SetOp → Ranges → Ranges → Ranges
  | .intersection => inter top
  | .difference => diff top
  | .symmetricDifference => symDiff top

/-- Whether every code point of the set is ASCII. -/
def isAscii (rs : Ranges) : Bool := rs.all fun r => r.2 < 0x80

/-- The set with the other case of each ASCII letter in it added. -/
def foldAscii (rs : Ranges) : Ranges :=
  let shifted (lo hi : Nat) (delta : Int) : Ranges := rs.filterMap fun r =>
    let a := max r.1 lo
    let b := min r.2 hi
    if a ≤ b then some (((a : Int) + delta).toNat, ((b : Int) + delta).toNat) else none
  union rs (shifted 0x61 0x7A (-32) ++ shifted 0x41 0x5A 32)

end Ranges

/-- The code points of an ASCII class. -/
def AsciiClass.ranges : AsciiClass → Ranges
  | .alnum => [(0x30, 0x39), (0x41, 0x5A), (0x61, 0x7A)]
  | .alpha => [(0x41, 0x5A), (0x61, 0x7A)]
  | .ascii => [(0x00, 0x7F)]
  | .blank => [(0x09, 0x09), (0x20, 0x20)]
  | .cntrl => [(0x00, 0x1F), (0x7F, 0x7F)]
  | .digit => [(0x30, 0x39)]
  | .graph => [(0x21, 0x7E)]
  | .lower => [(0x61, 0x7A)]
  | .print => [(0x20, 0x7E)]
  | .punct => [(0x21, 0x2F), (0x3A, 0x40), (0x5B, 0x60), (0x7B, 0x7E)]
  | .space => [(0x09, 0x0D), (0x20, 0x20)]
  | .upper => [(0x41, 0x5A)]
  | .word => [(0x30, 0x39), (0x41, 0x5A), (0x5F, 0x5F), (0x61, 0x7A)]
  | .xdigit => [(0x30, 0x39), (0x41, 0x46), (0x61, 0x66)]

/-- The code points of a Perl class read without Unicode: its ASCII counterpart. -/
def PerlClass.asciiRanges : PerlClass → Ranges
  | .digit => AsciiClass.digit.ranges
  | .space => AsciiClass.space.ranges
  | .word => AsciiClass.word.ranges

end OlmProvision.Pattern
