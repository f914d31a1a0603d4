import TemplateLexer.Tokenize

/-!
# The construct that an opener begins

An expression or a tag begins at its opener and is found by a walk over bytes. It is the construct
that `Dialect.readBody` finds, the automaton that reads the body one character at a time: closed
with the content before the closer, or text up to the note that opens first or to the end of the
source.
-/

namespace TemplateLexer

variable (d : Dialect)

/-- What the opener of an expression or a tag begins after `front` is what the automaton finds, with
the span, the content and the flags of its token. -/
theorem locate_eq_readBody {markup : Markup} (hm : markup ≠ .note) (front body : List Char) :
    let token := (d.locate markup body).1.token d (.after front)
    token.span.start = utf8Size front ∧
    match d.readBody markup {} body with
    | .closed content rest =>
      body = content ++ d.closer markup ++ rest ∧
      d.locate markup body = (.closed markup content, rest) ∧
      token.kind = markup.kind ∧ token.content = content ∧
      token.flags = (Marked.read content).flags ∧
      token.span.stop = utf8Size (front ++ d.opener markup ++ content ++ d.closer markup)
    | .interrupted content rest =>
      body = content ++ rest ∧ (d.afterOpener? .note rest).isSome = true ∧
      d.locate markup body = (.degraded markup content, rest) ∧
      token.kind = .fixed ∧ token.content = d.opener markup ++ content ∧
      token.flags = { unterminated := true } ∧
      token.span.stop = utf8Size (front ++ d.opener markup ++ content)
    | .unterminated content =>
      body = content ∧
      d.locate markup body = (.degraded markup content, []) ∧
      token.kind = .fixed ∧ token.content = d.opener markup ++ content ∧
      token.flags = { unterminated := true } ∧
      token.span.stop = utf8Size (front ++ d.opener markup ++ content) := by
  have hbody := d.source_readBody markup {} body
  rw [d.locate_of_ne_note hm]
  refine ⟨by simp [Construct.token, Token.stamp], ?_⟩
  cases hread : d.readBody markup {} body with
  | closed content rest =>
    rw [hread] at hbody
    refine ⟨hbody.symm, rfl, rfl, rfl, rfl, ?_⟩
    simp [Construct.ofBodyEnd, Construct.token, Token.stamp, Construct.image]
  | interrupted content rest =>
    rw [hread] at hbody
    have hnote := d.isSome_afterOpener?_of_interrupted hread
    refine ⟨hbody.symm, hnote, rfl, rfl, rfl, rfl, ?_⟩
    simp [Construct.ofBodyEnd, Construct.token, Token.stamp, Construct.image]
  | unterminated content =>
    rw [hread] at hbody
    refine ⟨hbody.symm, rfl, rfl, rfl, rfl, ?_⟩
    simp [Construct.ofBodyEnd, Construct.token, Token.stamp, Construct.image]

/-- Expressions between angle quotes, and an arrow as the escape character: more than one byte
each, and some bytes shared. -/
def Dialect.angled : Dialect :=
  { Dialect.standard with
    settings := { delimiters := { expression := ⟨['«'], ['»']⟩ }, escape := '→' }
    fault?_eq_none := by decide }

/-- An escaped closer and a quoted one do not close. -/
theorem locate_angled :
    Markup.expression ≠ .note ∧
    Dialect.angled.locate .expression "λ→»'»' »b".toList
      = (.closed .expression "λ→»'»' ".toList, ['b']) := by
  have hm : Markup.expression ≠ .note := by decide
  have hread : Dialect.angled.readBody .expression {} "λ→»'»' »b".toList
      = .closed "λ→»'»' ".toList ['b'] := by decide +kernel
  have h := (locate_eq_readBody Dialect.angled hm [] "λ→»'»' »b".toList).2
  rw [hread] at h
  exact ⟨hm, h.2.1⟩

end TemplateLexer
