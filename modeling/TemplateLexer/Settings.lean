import TemplateLexer.Kind

/-!
# Settings

What the author of a template language may choose: the delimiters, the escape character and four
switches. Settings are plain data; not all of them make a language that can be read.
-/

namespace TemplateLexer

/-- The two delimiters of one sort of markup. -/
structure Pair where
  opener : List Char
  closer : List Char
  deriving DecidableEq

/-- The delimiters of the three sorts of markup. -/
structure Delimiters where
  expression : Pair := ⟨['\x7b', '\x7b'], ['\x7d', '\x7d']⟩
  tag : Pair := ⟨['\x7b', '%'], ['%', '\x7d']⟩
  note : Pair := ⟨['\x7b', '#'], ['#', '\x7d']⟩
  deriving DecidableEq

/-- The pair of one sort of markup. -/
def Delimiters.pair (d : Delimiters) : Markup → Pair
  | .expression => d.expression
  | .tag => d.tag
  | .note => d.note

/-- White space around tags. -/
structure TagSpacing where
  /-- Remove the spaces and tabs before a tag that is the first thing on its line. -/
  lstripBlocks : Bool := false
  /-- Remove the rest of the line after a tag if it is blank. -/
  trimBlocks : Bool := false
  deriving DecidableEq

/-- Switches for templates written for older engines. -/
structure Legacy where
  /-- An opener counts only if a boundary follows it. -/
  boundaryRequired : Bool := false
  deriving DecidableEq

/-- Everything that changes how a template is split into tokens. -/
structure Settings where
  delimiters : Delimiters := {}
  /-- The character that makes the next one in an expression or a tag stand for itself. -/
  escape : Char := '\\'
  spacing : TagSpacing := {}
  legacy : Legacy := {}
  /-- The text between a `raw` and an `endraw` tag is verbatim. -/
  rawBlocks : Bool := true
  deriving DecidableEq

/-- One change to the settings. -/
inductive Change where
  | delimiters (d : Delimiters)
  | escape (c : Char)
  | lstripBlocks (on : Bool)
  | trimBlocks (on : Bool)
  | boundaryRequired (on : Bool)
  | rawBlocks (on : Bool)
  deriving DecidableEq

/-- The settings after a change. -/
def Settings.change (s : Settings) : Change → Settings
  | .delimiters d => { s with delimiters := d }
  | .escape c => { s with escape := c }
  | .lstripBlocks on => { s with spacing := { s.spacing with lstripBlocks := on } }
  | .trimBlocks on => { s with spacing := { s.spacing with trimBlocks := on } }
  | .boundaryRequired on => { s with legacy := { s.legacy with boundaryRequired := on } }
  | .rawBlocks on => { s with rawBlocks := on }

end TemplateLexer
