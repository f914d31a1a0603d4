import TemplateLexer.Flags
import TemplateLexer.Kind
import TemplateLexer.Position
import TemplateLexer.Span
import TemplateLexer.TagParts
import TemplateLexer.Text.Quoted

/-!
# Tokens

A token is a piece of the source with its place there. A tag token also has a name and helpers,
which `Token.tag?` reads from its content.
-/

namespace TemplateLexer

/-- A piece of a source. -/
structure Token where
  kind : Kind
  /-- The text in the source, with its delimiters. -/
  image : List Char
  /-- The text between the delimiters; literal text is all content. -/
  content : List Char
  /-- The bytes of the image in the source. -/
  span : Span
  /-- The position of the first character of the image. -/
  position : Position
  flags : Flags
  deriving DecidableEq

namespace Token

/-- The token of an image that begins at a mark. -/
def stamp (m : Mark) (kind : Kind) (image content : List Char) (flags : Flags) : Token where
  kind := kind
  image := image
  content := content
  span := { start := m.offset, stop := m.offset + utf8Size image }
  position := m.position
  flags := flags

/-- Whether the token's construct was not closed. -/
def isUnterminated (t : Token) : Bool := t.flags.unterminated

/-- The name and the helpers of a tag token. -/
def tag? (t : Token) : Option TagParts :=
  if t.kind = .tag then some (TagParts.read t.content) else none

/-- The number of characters of its content that a token's description shows. -/
def shownLength : Nat := 32

/-- Describes a token in one line: its kind, its position and the beginning of its content. -/
def render (t : Token) : List Char :=
  t.kind.name.toList ++ '@' :: t.position.render
    ++ ' ' :: Quoted.encode (t.content.take shownLength)
    ++ if shownLength < t.content.length then ['.', '.', '.'] else []

end Token

end TemplateLexer
