import TemplateLexer.Segment
import TemplateLexer.Token

/-!
# The tokens of a source

`tokenize` reads a source segment by segment. A segment gives a token for its text, if that is not
empty, and a token for its construct, if it has one.
-/

namespace TemplateLexer

/-- The token of a text that begins at a mark. An empty text gives none. -/
def Token.ofText? (m : Mark) (text : List Char) (flags : Flags) : Option Token :=
  if text = [] then none else some (.stamp m .fixed text text flags)

theorem Token.length_ofText?_le (m : Mark) (text : List Char) (flags : Flags) :
    (Token.ofText? m text flags).toList.length ≤ text.length := by
  unfold ofText?
  split
  · simp
  · next h => exact List.length_pos_iff.2 h

/-- The token of a construct that begins at a mark. -/
def Construct.token (d : Dialect) (m : Mark) (c : Construct) : Token :=
  .stamp m c.kind (c.image d) (c.content d) c.flags

@[simp] theorem Construct.kind_token (d : Dialect) (m : Mark) (c : Construct) :
    (c.token d m).kind = c.kind := rfl

@[simp] theorem Construct.image_token (d : Dialect) (m : Mark) (c : Construct) :
    (c.token d m).image = c.image d := rfl

@[simp] theorem Construct.flags_token (d : Dialect) (m : Mark) (c : Construct) :
    (c.token d m).flags = c.flags := rfl

@[simp] theorem Construct.start_token (d : Dialect) (m : Mark) (c : Construct) :
    (c.token d m).span.start = m.offset := rfl

@[simp] theorem Construct.stop_token (d : Dialect) (m : Mark) (c : Construct) :
    (c.token d m).span.stop = m.offset + utf8Size (c.image d) := rfl

@[simp] theorem Construct.tag?_token (d : Dialect) (m : Mark) (c : Construct) :
    (c.token d m).tag? = if c.kind = .tag then some (TagParts.read (c.content d)) else none := rfl

/-- The flags of a text: the body of a raw block is marked, and so is one without an end. -/
def Carry.textFlags (carry : Carry) (unterminated : Bool) : Flags :=
  if carry.raw then { raw := true, unterminated } else {}

namespace Segment

/-- The token of the text in a segment that begins at a mark. -/
def textToken? (carry : Carry) (m : Mark) (s : Segment) : Option Token :=
  Token.ofText? (m.advance s.lead) s.text (carry.textFlags s.construct.isNone)

/-- The token of the construct in a segment that begins at a mark. -/
def constructToken? (d : Dialect) (m : Mark) (s : Segment) : Option Token :=
  s.construct.map (Construct.token d (m.advance (s.lead ++ s.text ++ s.tail)))

theorem length_textToken?_le (carry : Carry) (m : Mark) (s : Segment) :
    (s.textToken? carry m).toList.length ≤ s.text.length :=
  Token.length_ofText?_le _ _ _

theorem length_constructToken?_le (d : Dialect) (m : Mark) (s : Segment) :
    (s.constructToken? d m).toList.length ≤ (s.image d).length := by
  unfold constructToken? image
  cases s.construct with
  | none => simp
  | some c => exact List.length_pos_iff.2 (c.image_ne_nil d)

/-- The mark after a segment that begins at a mark. -/
def markAfter (d : Dialect) (m : Mark) (s : Segment) : Mark :=
  m.advance (s.lead ++ s.text ++ s.tail ++ s.image d)

/-- What a segment leaves behind. -/
def carryAfter (d : Dialect) (s : Segment) : Carry :=
  match s.construct with
  | none => {}
  | some c => .after d c

end Segment

/-- The tokens of a source that begins at a mark, after what `carry` says. -/
def tokenizeFrom (d : Dialect) (carry : Carry) (m : Mark) (source : List Char) : List Token :=
  let s := Segment.read d carry m.startsLine source
  (s.textToken? carry m).toList ++ (s.constructToken? d m).toList ++
    match _h : s.construct with
    | none => []
    | some _ => tokenizeFrom d (s.carryAfter d) (s.markAfter d m) s.rest
termination_by source.length
decreasing_by exact Segment.rest_length_lt _h

/-- The tokens of a source. -/
def tokenize (d : Dialect) (source : List Char) : List Token := tokenizeFrom d {} .start source

end TemplateLexer
