/-!
# Kinds of token

A template is literal text with three sorts of markup in it, each written between an opening and
a closing delimiter.
-/

namespace TemplateLexer

/-- The three sorts of markup. -/
inductive Markup where
  /-- A value to print: `{{ user.name }}`. -/
  | expression
  /-- A control tag: `{% if x %}`. -/
  | tag
  /-- A comment: `{# later #}`. -/
  | note
  deriving DecidableEq

/-- The kinds of token: literal text, and one kind for each sort of markup. -/
inductive Kind where
  | fixed
  | expression
  | tag
  | note
  deriving DecidableEq

/-- The kind of the tokens that are pieces of this markup. -/
def Markup.kind : Markup → Kind
  | .expression => .expression
  | .tag => .tag
  | .note => .note

/-- The sort of markup that a kind of token stands for; literal text is none. -/
def Kind.markup? : Kind → Option Markup
  | .fixed => none
  | .expression => some .expression
  | .tag => some .tag
  | .note => some .note

/-- The name that messages and listings use. -/
def Kind.name : Kind → String
  | .fixed => "fixed"
  | .expression => "expression"
  | .tag => "tag"
  | .note => "note"

@[simp] theorem Markup.markup?_kind (m : Markup) : m.kind.markup? = some m := by cases m <;> rfl

theorem Markup.kind_beq_tag (m : Markup) : (m.kind == .tag) = (m == .tag) := by
  cases m <;> rfl

theorem Markup.kind_ne_fixed (m : Markup) : m.kind ≠ .fixed := by cases m <;> decide

theorem Markup.eq_of_kind_eq {m m' : Markup} (h : m.kind = m'.kind) : m = m' := by
  simpa using congrArg Kind.markup? h

/-- The two ends of a piece of markup. -/
inductive Side where
  | opening
  | closing
  deriving DecidableEq

/-- The name that messages use. -/
def Side.name : Side → String
  | .opening => "opening"
  | .closing => "closing"

end TemplateLexer
