import TemplateLexer.Text.Utf8

/-!
# Places in a source

* `Position`: a line, counted from 1, and a column, counted from 0 in characters. Only a line feed
  starts a line; a carriage return before it takes a column of the line that ends. Both counters
  stay at `Position.limit` once they have reached it.
* `Mark`: the offset in bytes together with the position. A mark moves over text, and
  `Mark.advance_append` says that moving over two texts in turn is moving over both at once.
-/

namespace TemplateLexer

/-- A line and a column. -/
structure Position where
  /-- The number of the line, from 1. -/
  line : Nat
  /-- The number of characters before this place on its line. -/
  column : Nat
  deriving DecidableEq

namespace Position

/-- The position of the first character of a source. -/
def start : Position := ⟨1, 0⟩

/-- The greatest line and the greatest column, the greatest number of 32 bits. -/
def limit : Nat := 4294967295

/-- The position after one more character. -/
def next (p : Position) (c : Char) : Position :=
  if c = '\n' then ⟨min (p.line + 1) limit, 0⟩ else ⟨p.line, min (p.column + 1) limit⟩

/-- The position after some more text. -/
def advance (p : Position) (text : List Char) : Position := text.foldl next p

@[simp] theorem advance_nil (p : Position) : p.advance [] = p := rfl

@[simp] theorem advance_cons (p : Position) (c : Char) (text : List Char) :
    p.advance (c :: text) = (p.next c).advance text := rfl

theorem advance_append (p : Position) (front back : List Char) :
    p.advance (front ++ back) = (p.advance front).advance back :=
  List.foldl_append

/-- Positions are compared by line, and on one line by column. -/
instance : Ord Position where
  compare p q := (compare p.line q.line).then (compare p.column q.column)

instance : LE Position := leOfOrd

instance : Max Position := maxOfLe

/-- Writes the line, a colon and the column. -/
def render (p : Position) : List Char :=
  Nat.toDigits 10 p.line ++ ':' :: Nat.toDigits 10 p.column

end Position

/-- How far a source has been read. -/
structure Mark where
  /-- The number of bytes that were read. -/
  offset : Nat
  /-- The position of the next character. -/
  position : Position
  deriving DecidableEq

namespace Mark

/-- The beginning of a source. -/
def start : Mark := ⟨0, .start⟩

/-- The mark after some more text. -/
def advance (m : Mark) (text : List Char) : Mark :=
  ⟨m.offset + utf8Size text, m.position.advance text⟩

/-- The mark that is reached when `front` has been read. -/
def after (front : List Char) : Mark := start.advance front

/-- Whether nothing stands before the mark on its line. -/
def startsLine (m : Mark) : Bool := m.position.column == 0

@[simp] theorem advance_nil (m : Mark) : m.advance [] = m := rfl

@[simp] theorem advance_append (m : Mark) (front back : List Char) :
    m.advance (front ++ back) = (m.advance front).advance back := by
  simp [advance, Position.advance_append, Nat.add_assoc]

theorem after_append (front back : List Char) :
    after (front ++ back) = (after front).advance back :=
  advance_append start front back

@[simp] theorem offset_after (front : List Char) : (after front).offset = utf8Size front := by
  simp [after, start, advance]

end Mark

end TemplateLexer
