/-!
# Source spans

A span is a half-open range of byte offsets into a source text. Every way to build one keeps the
start at or before the stop, so the order is part of the type.
-/

set_option autoImplicit false

namespace JavaProjection

/-- The bytes from `start` up to, and not including, `stop`. -/
structure Span where
  start : Nat
  stop : Nat
  start_le_stop : start ≤ stop
  deriving DecidableEq

namespace Span

def maxOffset : Nat := UInt64.size - 1

/-- The span between two offsets. A stop before the start is moved up to the start. -/
def clamped (start stop : Nat) : Span :=
  ⟨start, max start stop, Nat.le_max_left start stop⟩

/-- The span of a token given by the offsets of its first and its last byte. The stop never
passes the largest offset. -/
def ofInclusive (first last : Nat) : Span :=
  clamped first (min (last + 1) maxOffset)

def zero : Span :=
  clamped 0 0

instance : Inhabited Span :=
  ⟨zero⟩

def length (span : Span) : Nat :=
  span.stop - span.start

def isEmpty (span : Span) : Bool :=
  span.start == span.stop

def contains (outer inner : Span) : Bool :=
  decide (outer.start ≤ inner.start) && decide (inner.stop ≤ outer.stop)

/-- The characters left after the first `bytes` bytes, unless the cut falls outside the text or
inside a character. -/
def dropBytes : Nat → List Char → Option (List Char)
  | 0, text => some text
  | _ + 1, [] => none
  | bytes + 1, c :: rest =>
    if c.utf8Size ≤ bytes + 1 then dropBytes (bytes + 1 - c.utf8Size) rest else none

def takeBytes : Nat → List Char → Option (List Char)
  | 0, _ => some []
  | _ + 1, [] => none
  | bytes + 1, c :: rest =>
    if c.utf8Size ≤ bytes + 1 then
      (takeBytes (bytes + 1 - c.utf8Size) rest).map (c :: ·)
    else none

/-- The part of a source text that the span covers. There is none when the span reaches past the
text or splits a character. -/
def text? (span : Span) (source : String) : Option String := do
  let rest ← dropBytes span.start source.toList
  let covered ← takeBytes span.length rest
  return String.ofList covered

end Span

end JavaProjection
