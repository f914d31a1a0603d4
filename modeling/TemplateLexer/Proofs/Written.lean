import TemplateLexer.Proofs.Openings
import TemplateLexer.Proofs.WellFormed

/-!
# Markup that can be written

What an author writes between an opener and its closer should be read back as it is. The settings of
a dialect are checked with this in mind: no delimiter is another's beginning, and none starts with
the escape character. They are not checked for quotes. In a body a quote is looked at before the
closer, so a closer that starts with one is never found.

* `locate_of_isPlainBody`: a body without special characters runs to its closer.
* `tokenize_written`: where the closer starts with no quote, such a body is read back; where it
  starts with one, no source whatever has a token of that kind.
-/

namespace TemplateLexer

namespace Dialect

/-- Markup of this sort can be closed: its closer does not start with a quote. In notes there are no
quotes. -/
def CanClose (d : Dialect) (markup : Markup) : Prop :=
  markup ≠ .note → ∀ quote : Quote, some quote.char ≠ (d.closer markup).head?

/-- What its author can write between the delimiters of `markup` as it is. In notes only the closer
matters. -/
structure IsPlainBody (d : Dialect) (markup : Markup) (body : List Char) : Prop where
  /-- The closer does not stand before the end, not even with a part of it behind the end. -/
  closer_last : ∀ n < body.length, ¬ d.closer markup <+: body.drop n ++ d.closer markup
  no_escape : markup ≠ .note → d.escape ∉ body
  no_quote : markup ≠ .note → ∀ quote : Quote, quote.char ∉ body
  /-- No note opens before the end. -/
  no_note : markup ≠ .note → ∀ n < body.length, ¬ d.opener .note <+: body.drop n ++ d.closer markup

variable {d : Dialect}

/-- Places before the end are the beginnings of ends that are not empty. -/
theorem not_prefix_of_drop {needle body rest : List Char}
    (h : ∀ n < body.length, ¬ needle <+: body.drop n ++ rest) (back : List Char)
    (hback : back <:+ body) (hne : back ≠ []) : ¬ needle <+: back ++ rest := by
  have hlength := List.length_pos_iff.2 hne
  have hle := hback.length_le
  have hplace := h (body.length - back.length) (by omega)
  rwa [← List.suffix_iff_eq_drop.1 hback] at hplace

/-- A plain body runs to its closer. -/
theorem locate_of_isPlainBody {markup : Markup} {body : List Char} (hclose : d.CanClose markup)
    (hbody : d.IsPlainBody markup body) :
    d.locate markup (body ++ d.closer markup) = (.closed markup body, []) := by
  have hcloser := not_prefix_of_drop hbody.closer_last
  by_cases hm : markup = .note
  · subst hm
    have hsplit : splitAtFirst? (d.closer .note) (body ++ (d.closer .note ++ []))
        = some (body, []) :=
      splitAtFirst?_of_first (d.closer_ne_nil .note) (by simpa using hcloser)
    rw [List.append_nil] at hsplit
    simp only [locate, hsplit]
  · have hplain : ∀ c ∈ body, c ≠ d.escape ∧ Quote.ofChar? c = none := fun c hc =>
      ⟨fun h => hbody.no_escape hm (h ▸ hc),
        Quote.ofChar?_eq_none_iff.2 fun quote h => hbody.no_quote hm quote (h ▸ hc)⟩
    have hquote : ∀ c ∈ (d.closer markup).head?, Quote.ofChar? c = none := fun c hc =>
      Quote.ofChar?_eq_none_iff.2 fun quote h => hclose hm quote (by rw [h, Option.mem_def.1 hc])
    have hread := d.readBody_closer hquote []
    rw [List.append_nil] at hread
    rw [locate_eq_closed_iff hm, d.readBody_append_of_endless hplain hcloser
      (not_prefix_of_drop (hbody.no_note hm)) hread, List.append_nil]

end Dialect

variable {d : Dialect}

/-- A construct that begins a source and leaves nothing of it is the only token. -/
theorem tokenize_of_locate {markup : Markup} {body : List Char} {c : Construct}
    (hopens : d.openingHere? (d.opener markup ++ body) = some markup)
    (hlocate : d.locate markup body = (c, [])) :
    tokenize d (d.opener markup ++ body) = [c.token d .start] := by
  have hopening : d.nextOpening? ({} : Carry).raw (d.opener markup ++ body)
      = some ⟨[], markup, body⟩ := by
    have hhere : d.opensHere? false (d.opener markup ++ body) = some markup := hopens
    rw [d.nextOpening?_of_opensHere? hhere, List.drop_left]
  have hnil : tokenizeFrom d (.after d c) (Mark.start.advance (c.image d)) [] = [] :=
    (reads_tokenizeFrom d (.after d c) (c.image d) []).eq_nil rfl
  rw [tokenize, tokenizeFrom_of_read (Segment.read_of_some (Carry.split_empty _) hopening hlocate
    (c.splitBefore_nil d _))]
  simpa [Segment.textToken?, Segment.constructToken?, Segment.carryAfter, Segment.markAfter,
    Segment.image, Token.ofText?] using hnil

/-- A token of the kind of an expression or a tag needs a closer that starts with no quote. -/
theorem canClose_of_kind_eq {markup : Markup} {source : List Char} {t : Token}
    (ht : t ∈ tokenize d source) (hkind : t.kind = markup.kind) : d.CanClose markup := by
  intro hm quote hquote
  obtain ⟨before, after, htokens⟩ := List.append_of_mem ht
  have htext : t.isText = false := by
    rw [Token.isText, beq_eq_false_iff_ne.2 (hkind ▸ markup.kind_ne_fixed), Bool.false_and]
  obtain ⟨_, markup', body, _, _, rfl, _⟩ :=
    (reads_tokenize d source).exists_opening htokens htext
  rcases hlocate : d.locate markup' body with ⟨c, rest⟩
  rw [hlocate, Construct.kind_token] at hkind
  rcases Dialect.locate_cases hlocate with ⟨content, rfl, -⟩ | ⟨rfl, rfl, -⟩ | ⟨content, -, rfl, -⟩
  · obtain rfl := Markup.eq_of_kind_eq hkind
    have hread := (Dialect.locate_eq_closed_iff hm).1 hlocate
    have hnone := d.ofChar?_of_head?_closer hread quote.char hquote.symm
    exact Quote.char_ne_of_ofChar? hnone quote rfl
  · exact hm (Markup.eq_of_kind_eq hkind.symm)
  · exact markup.kind_ne_fixed hkind.symm

/-- A plain body between its delimiters is read back, as the one token of that source, if the closer
starts with no quote. If the closer of expressions or of tags starts with one, there is no source
with a token of that kind. -/
theorem tokenize_written (d : Dialect) (markup : Markup) :
    (d.CanClose markup → d.settings.legacy.boundaryRequired = false →
      ∀ body, d.IsPlainBody markup body →
        let t := (Construct.closed markup body).token d .start
        tokenize d (d.opener markup ++ body ++ d.closer markup) = [t] ∧ t.kind = markup.kind ∧
          t.content = body ∧ t.isUnterminated = false) ∧
    (¬ d.CanClose markup → ∀ source, ∀ t ∈ tokenize d source, t.kind ≠ markup.kind) := by
  refine ⟨fun hclose hrequired body hbody => ?_,
    fun hclose source t ht hkind => hclose (canClose_of_kind_eq ht hkind)⟩
  have haccepts (following : Option Char) : d.acceptsBefore following = true := by
    simp [Dialect.acceptsBefore, hrequired]
  have hopens : d.openingHere? (d.opener markup ++ (body ++ d.closer markup)) = some markup :=
    Dialect.openingHere?_eq_some_iff.2 (Dialect.isSome_afterOpener?_iff.2 ⟨_, rfl, haccepts _⟩)
  rw [List.append_assoc]
  exact ⟨tokenize_of_locate hopens (Dialect.locate_of_isPlainBody hclose hbody), rfl, rfl, rfl⟩

/-- Expressions between guillemets, with a quote behind the second one. -/
def Dialect.guillemets : Dialect :=
  { Dialect.standard with
    settings := { delimiters := { expression := ⟨['«'], ['»', '\'']⟩ } }
    fault?_eq_none := by decide }

/-- Expressions that a quote would close. -/
def Dialect.quoteClosed : Dialect :=
  { Dialect.standard with
    settings := { delimiters := { expression := ⟨['\x7b', '\x7b'], ['\'']⟩ } }
    fault?_eq_none := by decide }

theorem Dialect.quoteClosed_isPlainBody : quoteClosed.IsPlainBody .expression ['x'] where
  closer_last := by decide
  no_escape := fun _ => by decide
  no_quote := fun _ quote => by cases quote <;> decide
  no_note := fun _ => by decide

/-- The first character of the closer may be in the body, and a quote in the closer. -/
theorem tokenize_written_guillemets :
    let t := (Construct.closed .expression "a»b".toList).token .guillemets .start
    tokenize .guillemets "«a»b»'".toList = [t] ∧ t.kind = .expression ∧
      t.content = "a»b".toList ∧ t.isUnterminated = false ∧
      ∀ t ∈ tokenize .quoteClosed "\x7b\x7bx'".toList, t.kind ≠ .expression := by
  have hclose : Dialect.guillemets.CanClose .expression :=
    fun _ quote => by cases quote <;> decide
  have hplain : Dialect.guillemets.IsPlainBody .expression "a»b".toList := {
    closer_last := by decide
    no_escape := fun _ => by decide
    no_quote := fun _ quote => by cases quote <;> decide
    no_note := fun _ => by decide }
  have hquote : ¬ Dialect.quoteClosed.CanClose .expression :=
    fun hclose => hclose (by decide) .single rfl
  obtain ⟨htokens, hkind, hcontent, hclosed⟩ :=
    (tokenize_written .guillemets .expression).1 hclose rfl "a»b".toList hplain
  exact ⟨htokens, hkind, hcontent, hclosed,
    (tokenize_written .quoteClosed .expression).2 hquote _⟩

/-- The settings of `quoteClosed` have no fault, and yet this expression is read as text. -/
theorem not_tokenize_written_quoteClosed :
    ¬ ∀ body, Dialect.quoteClosed.IsPlainBody .expression body →
      ∃ t, tokenize .quoteClosed (Dialect.quoteClosed.opener .expression ++ body
        ++ Dialect.quoteClosed.closer .expression) = [t] ∧ t.kind = .expression := by
  intro h
  obtain ⟨t, htokens, hkind⟩ := h ['x'] Dialect.quoteClosed_isPlainBody
  have hfixed : ∀ t ∈ tokenize .quoteClosed "\x7b\x7bx'".toList, t.kind = .fixed := by
    decide +kernel
  rw [hfixed t (htokens ▸ List.mem_singleton_self t)] at hkind
  cases hkind

end TemplateLexer
