/-!
# Spans

A span is a range of bytes in a source, from its first byte up to and without the byte at its end.
-/

namespace TemplateLexer

/-- The bytes from `start` up to and without `stop`. -/
structure Span where
  start : Nat
  stop : Nat
  start_le_stop : start ≤ stop := by omega
  deriving DecidableEq

namespace Span

/-- The empty span at the beginning of a source. -/
def zero : Span := { start := 0, stop := 0 }

/-- The span between two offsets, if they are in order. -/
def ofBounds? (start stop : Nat) : Option Span :=
  if h : start ≤ stop then some ⟨start, stop, h⟩ else none

/-- The number of bytes in a span. -/
def size (s : Span) : Nat := s.stop - s.start

/-- Whether a span has no bytes. -/
def isEmpty (s : Span) : Bool := s.start == s.stop

/-- Writes the two offsets with two dots between them. -/
def render (s : Span) : List Char :=
  Nat.toDigits 10 s.start ++ '.' :: '.' :: Nat.toDigits 10 s.stop

end Span

end TemplateLexer
