import TemplateLexer.Proofs.Openings
import TemplateLexer.Proofs.Replacement

/-!
# Notes

A note runs to the first closer of notes, whatever stands before it. So the content of a note may be
replaced by any other text without the closer, and no other token changes, as long as the opener
still counts and the whitespace markers stay the same.

* `tokenize_note_replaced`: the tokens of a source with another text in a note.
-/

namespace TemplateLexer

/-- The closer of notes does not overlap with itself: where it stands first behind a text without
it, the text ends. -/
theorem Dialect.UsesStandard.locate_note {d : Dialect} (hd : d.UsesStandard) {content : List Char}
    (h : ¬ d.closer .note <:+: content) (rest : List Char) :
    d.locate .note (content ++ (d.closer .note ++ rest)) = (.closed .note content, rest) := by
  refine Dialect.locate_note_eq_closed_iff.2 (splitAtFirst?_of_first (d.closer_ne_nil .note) ?_)
  intro back hback hne hprefix
  have hcloser : d.closer .note = ['#', '\x7d'] := hd.closer_eq .note
  match back with
  | [] => exact hne rfl
  | [c] => simp [hcloser] at hprefix
  | c :: c' :: back =>
    have hinside : d.closer .note <+: c :: c' :: back :=
      List.prefix_of_prefix_length_le hprefix (List.prefix_append _ _) (by simp [hcloser])
    exact h (hinside.isInfix.trans hback.isInfix)

variable {d : Dialect} {before after : List Token} {t : Token}

/-- A note has no closer in its content. Any other text without one can take its place, if the
opener counts before it and if it has the same markers. The stream is the same up to the note, and
the tokens behind it are the same at another place. -/
theorem tokenize_note_replaced (hd : d.UsesStandard) {p x q : List Char}
    (htokens : tokenize d (p ++ (d.opener .note ++ (x ++ (d.closer .note ++ q))))
      = before ++ t :: after)
    (hkind : t.kind = .note) (hclosed : t.isUnterminated = false) (hcontent : t.content = x)
    (hstart : t.span.start = utf8Size p) :
    ¬ d.closer .note <:+: x ∧
    ∀ y, ¬ d.closer .note <:+: y → (Marked.read y).flags = (Marked.read x).flags →
      d.acceptsBefore (y ++ (d.closer .note ++ q)).head? = true →
      ∃ t' after', tokenize d (p ++ (d.opener .note ++ (y ++ (d.closer .note ++ q))))
          = before ++ t' :: after' ∧
        t'.content = y ∧ t'.image = d.opener .note ++ y ++ d.closer .note ∧
        t.Resized (utf8Size x) (utf8Size y) t' ∧
        List.Forall₂ (Token.Moved (utf8Size x) (utf8Size y)) after after' := by
  subst hcontent
  have hmarkup : t.kind = Markup.note.kind := hkind
  have htag : t.kind ≠ .tag := by rw [hkind]; decide
  obtain ⟨front, rest, ht, hsource, -, hlocate, hreplaced⟩ :=
    tokenize_content_replaced hd htokens hmarkup (fun _ => hclosed) fun h => absurd h htag
  have hsize : utf8Size p = utf8Size front := by
    rw [← hstart, ht, Construct.start_token, Mark.offset_after]
  obtain ⟨rfl, hbody⟩ := eq_of_append_eq_of_utf8Size_eq hsource hsize
  obtain rfl := List.append_cancel_left (List.append_cancel_left (List.append_cancel_left hbody))
  refine ⟨not_infix_of_splitAtFirst? (d.closer_ne_nil .note)
    (Dialect.locate_note_eq_closed_iff.1 hlocate), fun y hy hflags haccepts => ?_⟩
  have hopens : d.openingHere? (d.opener .note ++ (y ++ (d.closer .note ++ q))) = some .note :=
    Dialect.openingHere?_eq_some_iff.2 (Dialect.isSome_afterOpener?_iff.2 ⟨_, rfl, haccepts⟩)
  obtain ⟨after', htokens', hmoved⟩ := hreplaced y hopens (hd.locate_note hy q) hflags nofun
  have hsize' : utf8Size y + utf8Size t.content = utf8Size t.content + utf8Size y :=
    Nat.add_comm _ _
  refine ⟨_, after', htokens', rfl, rfl, ?_, hmoved _ _ hsize'⟩
  have hresized := Construct.resized_token d (.after p) .note hflags hsize'
  rwa [← ht] at hresized

/-- The note in an open expression may hold a quote, openers and the end of a raw block. -/
theorem tokenize_note_replaced_interrupting :
    let p := "\x7b\x7b a ".toList
    let x := " b -".toList
    let y := " \" \x7b\x7b \x7b% endraw %\x7d \x7b# -".toList
    let q := "\n\x7b% c %\x7d".toList
    let text := (Construct.degraded .expression " a ".toList).token .strict .start
    let t := (Construct.closed .note x).token .strict (.after p)
    let tag := (Construct.closed .tag " c ".toList).token .strict
      (.after "\x7b\x7b a \x7b# b -#\x7d\n".toList)
    Dialect.strict.UsesStandard ∧
    tokenize .strict
        (p ++ (Dialect.strict.opener .note ++ (x ++ (Dialect.strict.closer .note ++ q))))
      = [text] ++ t :: [tag] ∧
    ∃ t' after', tokenize .strict
        (p ++ (Dialect.strict.opener .note ++ (y ++ (Dialect.strict.closer .note ++ q))))
          = [text] ++ t' :: after' ∧
      t'.content = y ∧ t'.flags = { trimAfter := true } ∧
      List.Forall₂ (Token.Moved 4 23) [tag] after' := by
  intro p x y q text t tag
  have hd : Dialect.strict.UsesStandard := ⟨rfl, rfl⟩
  have htokens : tokenize .strict
      (p ++ (Dialect.strict.opener .note ++ (x ++ (Dialect.strict.closer .note ++ q))))
        = [text] ++ t :: [tag] := by decide +kernel
  have hy : ¬ Dialect.strict.closer .note <:+: y := by decide +kernel
  obtain ⟨-, hreplaced⟩ := tokenize_note_replaced hd htokens rfl rfl rfl (by decide +kernel)
  obtain ⟨t', after', htokens', hcontent, -, hresized, hmoved⟩ :=
    hreplaced y hy (by decide +kernel) (by decide +kernel)
  exact ⟨hd, htokens, t', after', htokens', hcontent, hresized.flags.trans (by decide +kernel),
    hmoved⟩

end TemplateLexer
