import TemplateLexer.Text.Alphanumeric
import TemplateLexer.Text.Blank

/-!
# Boundaries after an opener

A boundary is a property of the character after an opener, or of the end of the source. Where
settings ask for it, an opener counts only before a boundary, so that a text such as
`${#array[@]}` opens no note.
-/

namespace TemplateLexer

/-- A property of the next character, if there is one. -/
abbrev Boundary := Option Char → Bool

namespace Boundary

/-- All but letters, numbers and the underscore. -/
def wordEnd : Boundary
  | none => true
  | some c => !(isAlphanumeric c || c == '_')

/-- White space or the end of the source. -/
def blank : Boundary
  | none => true
  | some c => isBlank c

/-- The space only. -/
def space : Boundary
  | none => false
  | some c => c == ' '

/-- Anything. -/
def always : Boundary := fun _ => true

/-- Nothing. -/
def never : Boundary := fun _ => false

/-- Any character, but not the end of the source. -/
def present : Boundary := Option.isSome

end Boundary

end TemplateLexer
