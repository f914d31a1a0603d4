import TemplateLexer.Body.Step
import TemplateLexer.Proofs.Written

/-!
# Images of tokens

The image of a piece of markup is a source, too. Where no boundary is asked for, it is read as the
piece of markup that it was: at its front stands the same opener and no other, the body meets no
delimiter on its way that it did not meet before, and with the closer the source ends. How the piece
was found does not matter, so this holds of the tags around a raw block, too.

* `Dialect.readBody_of_closed`: a body without what stood behind its closer.
* `tokenize_image`: the image of closed markup has that markup as its one token.
-/

namespace TemplateLexer

namespace Dialect

variable {d : Dialect} {markup : Markup} {state : BodyState} {content rest : List Char}

/-- A body that goes on before more text goes on before less, if no boundary is asked for. -/
theorem endHere?_eq_none_of_append (hfree : d.settings.legacy.boundaryRequired = false)
    {source : List Char} (hne : source ≠ []) (more : List Char)
    (h : d.endHere? markup state (source ++ more) = none) :
    d.endHere? markup state source = none := by
  rw [endHere?_eq_none_iff] at h ⊢
  intro hend
  obtain ⟨hcloser, hnote⟩ := h (by rwa [List.head?_append_of_ne_nil _ hne])
  refine ⟨fun hstands => hcloser (hstands.trans (List.prefix_append _ _)), ?_⟩
  rw [← Bool.not_eq_true, isSome_afterOpener?_iff] at hnote ⊢
  rintro ⟨rest, rfl, -⟩
  exact hnote ⟨rest ++ more, (List.append_assoc _ _ _).symm, by simp [acceptsBefore, hfree]⟩

/-- What stood behind the closer of a body does not matter to it, if no boundary is asked for. By
induction on the content. -/
theorem readBody_of_closed (hfree : d.settings.legacy.boundaryRequired = false)
    (h : d.readBody markup state (content ++ (d.closer markup ++ rest)) = .closed content rest) :
    d.readBody markup state (content ++ d.closer markup) = .closed content [] := by
  induction content generalizing state with
  | nil =>
    obtain ⟨k, closer, hcloser⟩ := List.exists_cons_of_ne_nil (d.closer_ne_nil markup)
    rw [hcloser, List.nil_append, List.cons_append, readBody_cons_eq_closed_iff] at h
    rw [hcloser, List.nil_append, readBody_cons_eq_closed_iff]
    rcases h with h | ⟨-, content', hcontent, -⟩
    · rw [endHere?_eq_closed_iff] at h ⊢
      exact .inl ⟨h.1, rfl, by rw [List.append_nil, hcloser]⟩
    · cases hcontent
  | cons c content ih =>
    rw [List.cons_append, readBody_cons_eq_closed_iff] at h ⊢
    rcases h with h | ⟨hnone, content', hcontent, hmore⟩
    · cases (endHere?_eq_closed_iff.1 h).2.1
    · obtain ⟨-, rfl⟩ := List.cons.inj hcontent
      have hhere : d.endHere? markup state (c :: (content ++ d.closer markup) ++ rest) = none := by
        rw [List.cons_append, List.append_assoc]
        exact hnone
      exact .inr ⟨endHere?_eq_none_of_append hfree (List.cons_ne_nil _ _) rest hhere,
        content, rfl, ih hmore⟩

/-- Nor to any piece of markup. -/
theorem locate_of_closed (hfree : d.settings.legacy.boundaryRequired = false)
    (h : d.locate markup (content ++ (d.closer markup ++ rest)) = (.closed markup content, rest)) :
    d.locate markup (content ++ d.closer markup) = (.closed markup content, []) := by
  by_cases hm : markup = .note
  · subst hm
    rw [locate_note_eq_closed_iff] at h ⊢
    have hfirst : splitAtFirst? (d.closer .note) (content ++ (d.closer .note ++ []))
        = some (content, []) := by
      refine splitAtFirst?_of_first (d.closer_ne_nil .note) fun back hback hne hstands => ?_
      refine not_prefix_of_splitAtFirst? (d.closer_ne_nil .note) h hback hne ?_
      rw [List.append_nil] at hstands
      rw [← List.append_assoc]
      exact hstands.trans (List.prefix_append _ _)
    rwa [List.append_nil] at hfirst
  · rw [locate_eq_closed_iff hm] at h ⊢
    exact readBody_of_closed hfree h

end Dialect

variable {d : Dialect}

/-- The image of a piece of markup with its closer, wherever it was found, is a source whose one
token is that piece: of the same kind, with the same content and the same flags, and if it is a tag
with the same name and helpers. -/
theorem tokenize_image (hfree : d.settings.legacy.boundaryRequired = false) {source : List Char}
    {t : Token} (ht : t ∈ tokenize d source) (hkind : t.kind ≠ .fixed)
    (hclosed : t.kind = .note → t.isUnterminated = false) :
    ∃ u, tokenize d t.image = [u] ∧ u.kind = t.kind ∧ u.image = t.image ∧ u.content = t.content ∧
      u.flags = t.flags ∧ u.tag? = t.tag? ∧ u.span.start = 0 ∧ u.span.stop = utf8Size t.image ∧
      u.position = .start := by
  obtain ⟨before, after, htokens⟩ := List.append_of_mem ht
  have htext : t.isText = false := by
    rw [Token.isText, beq_eq_false_iff_ne.2 hkind, Bool.false_and]
  obtain ⟨read, markup, body, raw, -, rfl, -⟩ :=
    (reads_tokenize d source).exists_opening htokens htext
  rcases hlocate : d.locate markup body with ⟨c, rest⟩
  rw [hlocate] at hkind hclosed
  rcases Dialect.locate_cases hlocate with ⟨content, rfl, rfl⟩ | ⟨-, rfl, -⟩ | ⟨content, -, rfl, -⟩
  · rw [List.append_assoc] at hlocate
    have hopens : d.openingHere? (d.opener markup ++ (content ++ d.closer markup)) = some markup :=
      Dialect.openingHere?_eq_some_iff.2 (Dialect.isSome_afterOpener?_iff.2
        ⟨_, rfl, by simp [Dialect.acceptsBefore, hfree]⟩)
    have htokens := tokenize_of_locate hopens (Dialect.locate_of_closed hfree hlocate)
    rw [← List.append_assoc] at htokens
    exact ⟨_, htokens, rfl, rfl, rfl, rfl, rfl, rfl, Nat.zero_add _, rfl⟩
  · cases hclosed rfl
  · exact absurd rfl hkind

/-- The tag that ended a raw block, on its own. -/
theorem tokenize_image_endRaw :
    let source := "λ{% raw %}«x{%- endraw %}".toList
    let t := (Construct.closed .tag "- endraw ".toList).token .guillemets
      (.after "λ{% raw %}«x".toList)
    Dialect.guillemets.settings.legacy.boundaryRequired = false ∧
    t ∈ tokenize .guillemets source ∧ t.kind ≠ .fixed ∧
    ∃ u, tokenize .guillemets "{%- endraw %}".toList = [u] ∧ u.kind = .tag ∧
      u.flags = { trimBefore := true } ∧ u.tag? = some { name := endRawName, helpers := [] } ∧
      u.span.start = 0 ∧ u.span.stop = 13 ∧ u.position = .start := by
  intro source t
  have ht : t ∈ tokenize .guillemets source := by decide +kernel
  obtain ⟨u, htokens, hkind, -, -, hflags, htag, hstart, hstop, hposition⟩ :=
    tokenize_image rfl ht (by decide) nofun
  exact ⟨rfl, ht, by decide, u, htokens, hkind, hflags.trans (by decide +kernel),
    htag.trans (by decide +kernel), hstart, hstop.trans (by decide +kernel), hposition⟩

/-- Where a boundary is asked for, this tag can end a raw block, and is text on its own. -/
example : (tokenize .strict "{%endraw%}".toList).map Token.kind = [.fixed] := by decide +kernel

end TemplateLexer
