import TemplateLexer.Dialect

/-!
# Bodies of expressions and tags

The body of an expression or a tag runs to its closer, unless a note opens first or the source
ends. Inside quotes neither counts, and after the escape character the next character never
counts, inside quotes or outside.

`walkBody` looks for the end in the bytes of the body. It passes over a byte that cannot start
anything that matters without a second look, and over a character only after an escape character.
`scanBody` then divides the body at the offset that was found.
-/

namespace TemplateLexer

/-- The two sorts of quoted text. -/
inductive Quote where
  | single
  | double
  deriving DecidableEq

namespace Quote

/-- The character at both ends of a quoted text. -/
def char : Quote → Char
  | single => '\''
  | double => '"'

/-- The sort of quoted text that a byte begins. -/
def ofByte? (byte : UInt8) : Option Quote :=
  [single, double].find? fun quote => leadByte quote.char == byte

/-- The sort of quoted text that a character begins. -/
def ofChar? (c : Char) : Option Quote := [single, double].find? fun quote => quote.char == c

/-- A quote is a character of one byte. -/
theorem leadByte_char_eq_iff {quote : Quote} {c : Char} :
    leadByte quote.char = leadByte c ↔ quote.char = c :=
  leadByte_eq_leadByte_iff (by cases quote <;> rfl)

theorem ofByte?_leadByte (c : Char) : ofByte? (leadByte c) = ofChar? c := by
  have hbyte (quote : Quote) : (leadByte quote.char == leadByte c) = (quote.char == c) := by
    rw [Bool.eq_iff_iff, beq_iff_eq, beq_iff_eq, leadByte_char_eq_iff]
  simp only [ofByte?, ofChar?, hbyte]

theorem ofChar?_char (quote : Quote) : ofChar? quote.char = some quote := by
  cases quote <;> rfl

theorem char_eq_of_ofChar? {c : Char} {quote : Quote} (h : ofChar? c = some quote) :
    quote.char = c := by
  simpa using List.find?_some h

theorem char_ne_of_ofChar? {c : Char} (h : ofChar? c = none) (quote : Quote) : quote.char ≠ c := by
  simpa using List.find?_eq_none.1 h quote (by cases quote <;> simp)

theorem ofChar?_eq_none_iff {c : Char} : ofChar? c = none ↔ ∀ quote : Quote, quote.char ≠ c := by
  refine ⟨char_ne_of_ofChar?, fun h => ?_⟩
  cases hquote : ofChar? c with
  | none => rfl
  | some quote => exact absurd (char_eq_of_ofChar? hquote) (h quote)

end Quote

/-- What has been seen of a body so far. -/
structure BodyState where
  /-- The quoted text that the body is in. -/
  quote : Option Quote := none
  /-- The next character is escaped. -/
  escaped : Bool := false
  deriving DecidableEq

/-- How a body ends. -/
inductive BodyEnd where
  /-- At its closer, with `rest` after it. -/
  | closed (content rest : List Char)
  /-- Where a note opens, at the beginning of `rest`. -/
  | interrupted (content rest : List Char)
  /-- With the source. -/
  | unterminated (content : List Char)
  deriving DecidableEq

/-- How a body ends, and the offset of the byte where it does. -/
inductive BodyStop where
  | closed (offset : Nat)
  | interrupted (offset : Nat)
  | unterminated
  deriving DecidableEq

/-- The body that ends at an offset in `source`. -/
def BodyStop.divide (closer source : List Char) : BodyStop → BodyEnd
  | closed offset => .closed (takeBytes offset source) (dropBytes (offset + utf8Size closer) source)
  | interrupted offset => .interrupted (takeBytes offset source) (dropBytes offset source)
  | unterminated => .unterminated source

namespace Dialect

variable (d : Dialect)

/-- The end of a body of `markup`, if it is at the place `p`, which is at `offset`. -/
def stopHere? (markup : Markup) (offset : Nat) (p : Cursor) : Option BodyStop :=
  let closed := if p.startsWith (d.closer markup) then some (.closed offset) else none
  let interrupted := if d.opensAt .note p then some (.interrupted offset) else none
  if d.precedence.noteFirst then interrupted.or closed else closed.or interrupted

/-- Walks over the bytes of a body of `markup` from `p` up to its end. The place `p` is at
`offset`. -/
def walkBody (markup : Markup) (state : BodyState) (offset : Nat) (p : Cursor) : BodyStop :=
  match _h : p.next? with
  | none => .unterminated
  | some (byte, q) =>
    if state.escaped then
      let size := p.charAt?.elim 1 Char.utf8Size
      walkBody markup { state with escaped := false } (offset + size) (q.skip (size - 1))
    else if !d.isBodyByte markup.kind byte then
      walkBody markup state (offset + 1) q
    else if p.charAt? = some d.escape then
      walkBody markup { state with escaped := true } (offset + d.escape.utf8Size)
        (q.skip (d.escape.utf8Size - 1))
    else match state.quote with
      | some quote =>
        walkBody markup (if leadByte quote.char = byte then {} else state) (offset + 1) q
      | none =>
        match Quote.ofByte? byte with
        | some quote => walkBody markup { quote := some quote } (offset + 1) q
        | none =>
          match d.stopHere? markup offset p with
          | some stop => stop
          | none => walkBody markup state (offset + 1) q
termination_by p.size
decreasing_by
  all_goals
    have := Cursor.size_of_next? _h
    grind [Cursor.size_skip_le]

/-- Reads a body of `markup` up to its end. -/
def scanBody (markup : Markup) (source : List Char) : BodyEnd :=
  (d.walkBody markup {} 0 (.start source)).divide (d.closer markup) source

end Dialect

end TemplateLexer
