import TemplateLexer.Proofs.Replacement

/-!
# Quoted text

Inside quotes nothing counts but the quote that ends them and the escape character. So what stands
there may be replaced by any other quoted text, and no other token changes: neither can it close or
interrupt the body, nor does it reach the ends of the content, where whitespace markers stand, and a
tag with a quote in its first word is not named `raw`.

What is quoted is told by a grammar of bodies, without a state that goes from one character to the
next.

* `Dialect.IsQuoted`, `Dialect.IsBalanced`, `Dialect.EndsInQuotes`: the grammar.
* `endsInQuotes_iff`: the automaton that reads bodies is in quotes where the grammar says so.
* `UsesStandard.readBody_requoted`: a body with other quoted text.
* `tokenize_requoted`, `tokenize_quoted`: the tokens of a source with other quoted text, or another
  quoted character.
-/

namespace TemplateLexer

/-! ## The grammar of quotes -/

namespace Dialect

/-- Text that can stand in quotes: characters that are neither the quote nor the escape character,
and pairs of the escape character and any other. -/
inductive IsQuoted (d : Dialect) (quote : Quote) : List Char → Prop
  | nil : IsQuoted d quote []
  | plain {c text} (ne_quote : c ≠ quote.char) (ne_escape : c ≠ d.escape)
      (more : IsQuoted d quote text) : IsQuoted d quote (c :: text)
  | escaped {c text} (more : IsQuoted d quote text) : IsQuoted d quote (d.escape :: c :: text)

/-- Text in which all quotes that are opened are closed: plain characters, pairs of the escape
character and any other, and quoted texts. -/
inductive IsBalanced (d : Dialect) : List Char → Prop
  | nil : IsBalanced d []
  | plain {c text} (not_quote : ∀ quote : Quote, quote.char ≠ c) (ne_escape : c ≠ d.escape)
      (more : IsBalanced d text) : IsBalanced d (c :: text)
  | escaped {c text} (more : IsBalanced d text) : IsBalanced d (d.escape :: c :: text)
  | quoted {quote : Quote} {inside text} (inside_quoted : d.IsQuoted quote inside)
      (more : IsBalanced d text) : IsBalanced d (quote.char :: (inside ++ quote.char :: text))

/-- A body that begins with `text` is in quotes behind it. -/
def EndsInQuotes (d : Dialect) (quote : Quote) (text : List Char) : Prop :=
  ∃ front inside, text = front ++ quote.char :: inside ∧ d.IsBalanced front ∧
    d.IsQuoted quote inside

variable {d : Dialect} {quote : Quote} {front back : List Char}

theorem IsQuoted.append (h : d.IsQuoted quote front) (hback : d.IsQuoted quote back) :
    d.IsQuoted quote (front ++ back) := by
  induction h with
  | nil => exact hback
  | plain ne_quote ne_escape _ ih => exact .plain ne_quote ne_escape ih
  | escaped _ ih => exact .escaped ih

theorem IsBalanced.append (h : d.IsBalanced front) (hback : d.IsBalanced back) :
    d.IsBalanced (front ++ back) := by
  induction h with
  | nil => exact hback
  | plain not_quote ne_escape _ ih => exact .plain not_quote ne_escape ih
  | escaped _ ih => exact .escaped ih
  | quoted inside_quoted _ ih =>
    rw [List.cons_append, List.append_assoc, List.cons_append]
    exact .quoted inside_quoted ih

theorem EndsInQuotes.append (h : d.EndsInQuotes quote front) (hback : d.IsQuoted quote back) :
    d.EndsInQuotes quote (front ++ back) := by
  obtain ⟨front, inside, rfl, hfront, hinside⟩ := h
  exact ⟨front, inside ++ back, by simp, hfront, hinside.append hback⟩

/-- The next quote ends the quotes. -/
theorem EndsInQuotes.close (h : d.EndsInQuotes quote front) :
    d.IsBalanced (front ++ [quote.char]) := by
  obtain ⟨front, inside, rfl, hfront, hinside⟩ := h
  rw [List.append_assoc]
  exact hfront.append (.quoted hinside .nil)

end Dialect

/-! ## The automaton -/

namespace BodyState

variable {d : Dialect} {quote : Quote} {text : List Char}

/-- What the grammar says of a text that leads the automaton to this state. -/
def Describes (d : Dialect) (text : List Char) : BodyState → Prop
  | ⟨none, false⟩ => d.IsBalanced text
  | ⟨some quote, false⟩ => d.EndsInQuotes quote text
  | ⟨none, true⟩ => ∃ front, text = front ++ [d.escape] ∧ d.IsBalanced front
  | ⟨some quote, true⟩ => ∃ front, text = front ++ [d.escape] ∧ d.EndsInQuotes quote front

/-- One more character leads to the state that describes one more character. -/
theorem Describes.next {state : BodyState} (h : state.Describes d text) (c : Char) :
    (state.next d c).Describes d (text ++ [c]) := by
  rcases state with ⟨_ | quote, _ | _⟩
  · have htext : d.IsBalanced text := h
    by_cases hc : c = d.escape
    · simp only [BodyState.next, Bool.false_eq_true, if_false, if_pos hc]
      exact ⟨text, by rw [hc], htext⟩
    · simp only [BodyState.next, Bool.false_eq_true, if_false, if_neg hc]
      cases hquote : Quote.ofChar? c with
      | none => exact htext.append (.plain (Quote.char_ne_of_ofChar? hquote) hc .nil)
      | some quote =>
        obtain rfl := Quote.char_eq_of_ofChar? hquote
        exact ⟨text, [], rfl, htext, .nil⟩
  · obtain ⟨front, rfl, hfront⟩ := h
    have hpair : d.IsBalanced (front ++ [d.escape, c]) := hfront.append (.escaped .nil)
    rw [List.append_cons] at hpair
    exact hpair
  · have htext : d.EndsInQuotes quote text := h
    by_cases hc : c = d.escape
    · simp only [BodyState.next, Bool.false_eq_true, if_false, if_pos hc]
      exact ⟨text, by rw [hc], htext⟩
    · simp only [BodyState.next, Bool.false_eq_true, if_false, if_neg hc]
      by_cases hquote : quote.char = c
      · rw [if_pos hquote, ← hquote]
        exact htext.close
      · rw [if_neg hquote]
        exact htext.append (.plain (Ne.symm hquote) hc .nil)
  · obtain ⟨front, rfl, hfront⟩ := h
    have hpair : d.EndsInQuotes quote (front ++ [d.escape, c]) := hfront.append (.escaped .nil)
    rw [List.append_cons] at hpair
    exact hpair

/-- The automaton is always in the state that describes what it has read. By induction on the text,
from its end. -/
theorem describes_after (d : Dialect) (text : List Char) :
    (({} : BodyState).after d text).Describes d text := by
  induction text using List.reverseRecOn with
  | nil => exact Dialect.IsBalanced.nil
  | append_singleton text c ih =>
    rw [after_append]
    exact ih.next c

/-- Text that can stand in quotes leaves the automaton in them. -/
theorem after_of_isQuoted (h : d.IsQuoted quote text) :
    ({ quote := some quote } : BodyState).after d text = { quote := some quote } := by
  induction h with
  | nil => rfl
  | plain ne_quote ne_escape _ ih =>
    rw [after_cons, next, if_neg Bool.false_ne_true, if_neg ne_escape]
    simp only [if_neg (Ne.symm ne_quote), ih]
  | escaped _ ih =>
    rw [after_cons, after_cons, next, next]
    simp [ih]

/-- Behind text with closed quotes the automaton is where it began, if no quote is the escape
character. -/
theorem after_of_isBalanced (hescape : ∀ quote : Quote, quote.char ≠ d.escape)
    (h : d.IsBalanced text) : ({} : BodyState).after d text = {} := by
  induction h with
  | nil => rfl
  | plain not_quote ne_escape _ ih =>
    rw [after_cons, next, if_neg Bool.false_ne_true, if_neg ne_escape]
    simp only [Quote.ofChar?_eq_none_iff.2 not_quote, ih]
  | escaped _ ih =>
    rw [after_cons, after_cons, next, next]
    simp [ih]
  | @quoted quote inside text inside_quoted _ ih =>
    have hopen : ({} : BodyState).next d quote.char = { quote := some quote } := by
      simp [next, hescape quote, Quote.ofChar?_char]
    have hclose : ({ quote := some quote } : BodyState).next d quote.char = {} := by
      simp [next, hescape quote]
    rw [after_cons, hopen, after_append, after_of_isQuoted inside_quoted, after_cons, hclose, ih]

/-- The automaton is in quotes behind the texts that end in quotes, if no quote is the escape
character. -/
theorem endsInQuotes_iff (hescape : ∀ quote : Quote, quote.char ≠ d.escape) :
    d.EndsInQuotes quote text ↔ ({} : BodyState).after d text = { quote := some quote } := by
  constructor
  · rintro ⟨front, inside, rfl, hfront, hinside⟩
    have hopen : ({} : BodyState).next d quote.char = { quote := some quote } := by
      simp [next, hescape quote, Quote.ofChar?_char]
    rw [after_append, after_of_isBalanced hescape hfront, after_cons, hopen,
      after_of_isQuoted hinside]
  · intro h
    have hdescribes := describes_after d text
    rw [h] at hdescribes
    exact hdescribes

end BodyState

/-! ## Bodies -/

namespace Dialect

variable {d : Dialect} {markup : Markup} {quote : Quote} {text : List Char}

/-- Quoted text is in the content, whatever stands behind it. -/
theorem readBody_of_isQuoted (h : d.IsQuoted quote text) (more : List Char) :
    d.readBody markup { quote := some quote } (text ++ more)
      = (d.readBody markup { quote := some quote } more).behind text := by
  induction h with
  | nil => rw [List.nil_append, BodyEnd.behind_nil]
  | plain ne_quote ne_escape _ ih =>
    rw [List.cons_append, readBody_cons_of_canEnd d (by simp [BodyState.canEnd]), BodyState.next,
      if_neg Bool.false_ne_true, if_neg ne_escape]
    simp only [if_neg (Ne.symm ne_quote), ih, BodyEnd.behind_cons]
  | escaped _ ih =>
    rw [List.cons_append, List.cons_append, readBody_cons_of_canEnd d (by simp [BodyState.canEnd]),
      readBody_cons_of_canEnd d (by simp [BodyState.next, BodyState.canEnd])]
    simp [BodyState.next, ih]

/-- A body does not end in quotes. -/
theorem content_ne_nil_of_quote {source content rest : List Char}
    (h : d.readBody markup { quote := some quote } source = .closed content rest) :
    content ≠ [] := by
  cases source with
  | nil => cases h
  | cons c source =>
    rw [readBody_cons_of_canEnd d (by simp [BodyState.canEnd])] at h
    rintro rfl
    generalize d.readBody markup _ source = e at h
    cases e <;> cases h

end Dialect

/-- What stands in front of a body is in the content of its end. -/
theorem BodyEnd.behind_eq_closed_iff {front content rest : List Char} {e : BodyEnd} :
    e.behind front = .closed (front ++ content) rest ↔ e = .closed content rest := by
  cases e <;> simp [behind]

namespace Dialect.UsesStandard

variable {d : Dialect} (hd : d.UsesStandard)
include hd

theorem char_ne_escape (quote : Quote) : quote.char ≠ d.escape := by
  rw [Dialect.escape, hd.escape]
  cases quote <;> decide

/-- No delimiter has a quote. -/
theorem alike_quote (quote : Quote) (rest rest' : List Char) : d.Alike quote.char rest rest' := by
  refine alike_of_not_mem (fun markup => ?_) (fun markup => ?_) rest rest'
  · rw [hd.opener_eq]
    cases quote <;> cases markup <;> decide
  · rw [hd.closer_eq]
    cases quote <;> cases markup <;> decide

/-- A body ends where it did, if the text behind an opening quote is replaced by other quoted text.
The quotes are closed before the end of the content. -/
theorem readBody_requoted {markup : Markup} {quote : Quote} {front old post rest : List Char}
    (hfront : d.IsBalanced front) (hold : d.IsQuoted quote old)
    (h : d.readBody markup {} (front ++ quote.char :: (old ++ (post ++ (d.closer markup ++ rest))))
      = .closed (front ++ quote.char :: (old ++ post)) rest) :
    post ≠ [] ∧ ∀ new, d.IsQuoted quote new →
      d.readBody markup {} (front ++ quote.char :: (new ++ (post ++ (d.closer markup ++ rest))))
        = .closed (front ++ quote.char :: (new ++ post)) rest := by
  have hstate : ({} : BodyState).after d (front ++ [quote.char]) = { quote := some quote } :=
    (BodyState.endsInQuotes_iff hd.char_ne_escape).1 ⟨front, [], rfl, hfront, .nil⟩
  have hbehind (text : List Char) : front ++ quote.char :: (text ++ post)
      = front ++ [quote.char] ++ (text ++ post) := by simp
  generalize hmore : post ++ (d.closer markup ++ rest) = more at h ⊢
  -- The body does not end before the quote: that is in its content.
  have hread (new : List Char) : d.readBody markup {} (front ++ quote.char :: (new ++ more)) =
      (d.readBody markup { quote := some quote } (new ++ more)).behind (front ++ [quote.char]) := by
    rcases (hd.alike_quote quote (old ++ more) (new ++ more)).readBody_cases markup {} front with
      ⟨e, hold', -⟩ | ⟨-, hnew⟩
    · exfalso
      rw [h] at hold'
      cases e with
      | closed content back =>
        have hlength := congrArg List.length (BodyEnd.closed.inj hold').2
        rw [← hmore] at hlength
        simp only [List.length_append, List.length_cons] at hlength
        omega
      | interrupted => cases hold'
      | unterminated => cases hold'
    · rw [hnew, hstate]
  rw [hread, hbehind, BodyEnd.behind_eq_closed_iff, readBody_of_isQuoted hold,
    BodyEnd.behind_eq_closed_iff] at h
  refine ⟨content_ne_nil_of_quote h, fun new hnew => ?_⟩
  rw [hread, hbehind, BodyEnd.behind_eq_closed_iff, readBody_of_isQuoted hnew,
    BodyEnd.behind_eq_closed_iff, h]

end Dialect.UsesStandard

/-! ## Sources -/

/-- A quote is no marker, no blank and no part of an `endraw` tag. -/
theorem Quote.char_apart (quote : Quote) : Marker.ofChar? quote.char = none ∧
    isBlank quote.char = false ∧ isEndRawChar quote.char = false ∧ quote.char ∉ rawName := by
  cases quote <;> decide

/-- Quoted text does not reach the ends of a content where markers stand. -/
theorem flags_requoted (quote : Quote) (front old new : List Char) {post : List Char}
    (hpost : post ≠ []) :
    (Marked.read (front ++ quote.char :: (new ++ post))).flags
      = (Marked.read (front ++ quote.char :: (old ++ post))).flags := by
  obtain ⟨hmarker, -⟩ := quote.char_apart
  rw [Marked.read_append_cons hmarker, Marked.read_append_cons hmarker, Marked.flags_eq_iff,
    Marker.fst_takeBack, Marker.fst_takeBack, List.getLast?_append_of_ne_nil _ hpost,
    List.getLast?_append_of_ne_nil _ hpost]
  exact ⟨rfl, rfl⟩

variable {d : Dialect} {before after : List Token} {t : Token} {markup : Markup} {quote : Quote}

/-- Other quoted text takes the place of the quoted text `old` in an expression or a tag. The stream
is the same up to that token, and the tokens behind it are the same at another place. -/
theorem tokenize_requoted (hd : d.UsesStandard) {source pre old post : List Char}
    (htokens : tokenize d source = before ++ t :: after) (hkind : t.kind = markup.kind)
    (hmarkup : markup ≠ .note) (hcontent : t.content = pre ++ (old ++ post))
    (hpre : d.EndsInQuotes quote pre) (hold : d.IsQuoted quote old) :
    ∃ front rest, source = front ++ (old ++ rest) ∧
      utf8Size front = t.span.start + utf8Size (d.opener markup ++ pre) ∧
      ∀ new, d.IsQuoted quote new → ∃ t' after', tokenize d (front ++ (new ++ rest))
          = before ++ t' :: after' ∧
        t'.content = pre ++ (new ++ post) ∧ t.Resized (utf8Size old) (utf8Size new) t' ∧
        List.Forall₂ (Token.Moved (utf8Size old) (utf8Size new)) after after' := by
  obtain ⟨outside, inside, rfl, houtside, hinside⟩ := hpre
  obtain ⟨hmarker, hblank, hchar, hraw⟩ := quote.char_apart
  have hcontents (text : List Char) : outside ++ quote.char :: inside ++ (text ++ post)
      = outside ++ quote.char :: (inside ++ text ++ post) := by simp
  obtain ⟨front, rest, ht, hsource, hopens, hlocate, hreplaced⟩ :=
    tokenize_content_replaced hd htokens hkind (fun hnote => absurd hnote hmarkup)
      fun _ => ⟨quote.char, by simp [hcontent], hchar⟩
  have hbody (text : List Char) :
      outside ++ quote.char :: (inside ++ text ++ post) ++ (d.closer markup ++ rest)
        = outside ++ quote.char :: (inside ++ text ++ (post ++ (d.closer markup ++ rest))) := by
    simp
  rw [hcontent, hcontents] at hsource hopens hlocate hreplaced
  rw [hbody] at hlocate
  obtain ⟨hpost, hread⟩ := hd.readBody_requoted houtside (hinside.append hold)
    ((Dialect.locate_eq_closed_iff hmarkup).1 hlocate)
  refine ⟨front ++ (d.opener markup ++ (outside ++ quote.char :: inside)),
    post ++ (d.closer markup ++ rest), by simp [hsource], by rw [ht]; simp, fun new hnew => ?_⟩
  have hflags := flags_requoted quote outside (inside ++ old) (inside ++ new) hpost
  have hlocate' := (Dialect.locate_eq_closed_iff hmarkup).2 (hread _ (hinside.append hnew))
  -- The quote at the latest decides that the opener counts.
  have hne : outside ++ [quote.char] ≠ [] := by simp
  have hopens' := (hd.openingHere?_eq_of_ne_nil hne markup
    (inside ++ old ++ post ++ (d.closer markup ++ rest))
    (inside ++ new ++ post ++ (d.closer markup ++ rest))).symm.trans (by simpa using hopens)
  have hname := TagParts.name_beq_append_cons hmarker hblank hraw outside (inside ++ new ++ post)
    (inside ++ old ++ post)
  obtain ⟨after', htokens', hmoved⟩ := hreplaced _ (by simpa using hopens')
    (by rw [hbody, hlocate']) hflags fun _ => hname
  have hsource' : front ++ (d.opener markup ++ (outside ++ quote.char :: (inside ++ new ++ post)
        ++ (d.closer markup ++ rest)))
      = front ++ (d.opener markup ++ (outside ++ quote.char :: inside))
        ++ (new ++ (post ++ (d.closer markup ++ rest))) := by simp
  rw [hsource'] at htokens'
  have hsize : utf8Size (outside ++ quote.char :: (inside ++ new ++ post)) + utf8Size old
      = utf8Size (outside ++ quote.char :: (inside ++ old ++ post)) + utf8Size new := by
    simp only [utf8Size_append, utf8Size_cons]
    omega
  refine ⟨_, after', htokens', (hcontents new).symm, ?_, hmoved _ _ hsize⟩
  rw [ht, hcontent, hcontents]
  exact Construct.resized_token d _ markup hflags hsize

/-- Another character takes the place of a quoted one that is not escaped, in an expression or a
tag. Whatever it is, as long as it neither ends the quotes nor escapes, the stream is the same up to
that token; the token has the same flags, begins at the same place and ends behind the same number
of other bytes; and the tokens behind it are the same at another place. -/
theorem tokenize_quoted (hd : d.UsesStandard) {source pre post : List Char} {c : Char}
    (htokens : tokenize d source = before ++ t :: after) (hkind : t.kind = markup.kind)
    (hmarkup : markup ≠ .note) (hcontent : t.content = pre ++ c :: post)
    (hpre : d.EndsInQuotes quote pre) (hquote : c ≠ quote.char) (hescape : c ≠ d.escape) :
    ∃ front rest, source = front ++ c :: rest ∧
      utf8Size front = t.span.start + utf8Size (d.opener markup ++ pre) ∧
      ∀ c', c' ≠ quote.char → c' ≠ d.escape → ∃ t' after', tokenize d (front ++ c' :: rest)
          = before ++ t' :: after' ∧
        t'.content = pre ++ c' :: post ∧ t.Resized c.utf8Size c'.utf8Size t' ∧
        List.Forall₂ (Token.Moved c.utf8Size c'.utf8Size) after after' := by
  have hone {c : Char} (hquote : c ≠ quote.char) (hescape : c ≠ d.escape) :
      d.IsQuoted quote [c] := .plain hquote hescape .nil
  have hsize (c : Char) : utf8Size [c] = c.utf8Size := by simp
  obtain ⟨front, rest, hsource, hfront, hreplaced⟩ :=
    tokenize_requoted hd htokens hkind hmarkup hcontent hpre (hone hquote hescape)
  refine ⟨front, rest, hsource, hfront, fun c' hquote' hescape' => ?_⟩
  have hnew := hreplaced [c'] (hone hquote' hescape')
  rw [hsize, hsize] at hnew
  exact hnew

/-- Whatever is quoted here in place of the first character of the closer, the tag is the same:
white space is removed around it, and a raw block begins behind it. -/
theorem tokenize_quoted_closer :
    let source := "λ\x7b%- raw '%\x7d' -%\x7d\n\x7b\x7b".toList
    let text := Token.stamp .start .fixed ['λ'] ['λ'] {}
    let t := (Construct.closed .tag "- raw '%\x7d' -".toList).token .standard (.after ['λ'])
    let tail := Token.stamp (.after "λ\x7b%- raw '%\x7d' -%\x7d\n".toList) .fixed "\x7b\x7b".toList
      "\x7b\x7b".toList { raw := true, unterminated := true }
    Dialect.standard.UsesStandard ∧ tokenize .standard source = [text] ++ t :: [tail] ∧
    Dialect.standard.EndsInQuotes .single "- raw '".toList ∧
    ∃ front rest, source = front ++ '%' :: rest ∧ utf8Size front = 11 ∧
      ∀ c', c' ≠ '\'' → c' ≠ '\\' → ∃ t' after', tokenize .standard (front ++ c' :: rest)
          = [text] ++ t' :: after' ∧
        t'.flags = { trimBefore := true, trimAfter := true } ∧
        List.Forall₂ (Token.Moved 1 c'.utf8Size) [tail] after' := by
  intro source text t tail
  have hd := Dialect.standard_usesStandard
  have htokens : tokenize .standard source = [text] ++ t :: [tail] := by decide +kernel
  have hpre : Dialect.standard.EndsInQuotes .single "- raw '".toList :=
    (BodyState.endsInQuotes_iff hd.char_ne_escape).2 (by decide)
  have hkind : t.kind = Markup.tag.kind := rfl
  have hcontent : t.content = "- raw '".toList ++ '%' :: "\x7d' -".toList := rfl
  obtain ⟨front, rest, hsource, hsize, hreplaced⟩ :=
    tokenize_quoted hd htokens hkind (by decide) hcontent hpre (by decide) (by decide)
  refine ⟨hd, htokens, hpre, front, rest, hsource, hsize.trans (by decide +kernel), ?_⟩
  intro c' hquote hescape
  obtain ⟨t', after', htokens', -, hresized, hmoved⟩ := hreplaced c' hquote hescape
  exact ⟨t', after', htokens', hresized.flags.trans (by decide +kernel), hmoved⟩

end TemplateLexer
