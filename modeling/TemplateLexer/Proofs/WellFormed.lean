import TemplateLexer.Proofs.Run

/-!
# The tokens of a stream

What a token of each kind consists of, and what may follow it.

* `Token.IsWellFormed`: the rules for one token, given the source and the tokens after it.
* `Reads.note_first`: text that turned out not to be markup because a note opens in it is followed
  by that note. The search for the next opening finds it again at once.
* `isWellFormed_of_tokenize`: every token of every source keeps the rules.
-/

namespace TemplateLexer

/-- The rules for a token of `source` that is followed by the tokens `after`. -/
structure Token.IsWellFormed (d : Dialect) (source : List Char) (t : Token) (after : List Token) :
    Prop where
  /-- No token is empty. -/
  image_ne_nil : t.image ≠ []
  /-- The image is the part of the source that the span says. -/
  standsIn : t.StandsIn source
  /-- Expressions, tags and closed notes are their content between their delimiters, with the flags
  of the markers in it and no others. -/
  closed : ∀ markup, t.kind = markup.kind → (markup = .note → t.flags.unterminated = false) →
    t.image = d.opener markup ++ t.content ++ d.closer markup ∧
      t.flags = (Marked.read t.content).flags ∧ t.flags.unterminated = false ∧ t.flags.raw = false
  /-- A note without its closer runs to the end of the source. -/
  openNote : t.kind = .note → t.flags.unterminated = true →
    t.image = d.opener .note ++ t.content ∧ t.flags = { unterminated := true } ∧
      ¬ d.closer .note <:+: t.content ∧ t.span.stop = utf8Size source ∧ after = []
  /-- Text is all content. -/
  fixed : t.kind = .fixed → t.content = t.image ∧
    t.flags ∈ [({} : Flags), { unterminated := true }, { raw := true },
      { raw := true, unterminated := true }]
  /-- Text that began as an expression or a tag runs to the end of the source or to a note. -/
  degraded : t.kind = .fixed → t.flags = { unterminated := true } →
    (d.opener .expression <+: t.image ∨ d.opener .tag <+: t.image) ∧
      (after = [] ∧ t.span.stop = utf8Size source ∨
        ∃ u ∈ after.head?, u.kind = .note ∧ u.span.start = t.span.stop)
  /-- Text is followed by text only if that began as an expression or a tag, and it did not. -/
  fixed_fixed : t.kind = .fixed → ∀ u ∈ after.head?, u.kind = .fixed →
    t.flags.unterminated = false ∧ u.flags = { unterminated := true }

open Dialect

variable {d : Dialect} {carry : Carry} {front rest : List Char} {tokens : List Token}

/-! ## After text that is no markup -/

/-- Nothing is read from nothing. -/
theorem Reads.eq_nil (h : Reads d carry front rest tokens) (hrest : rest = []) : tokens = [] := by
  cases h with
  | last => simp_all [Token.ofText?]
  | @next _ _ lead text tail markup body c rest tokens =>
    have := c.image_ne_nil d
    simp_all

/-- Where a note opens, the next token is that note. -/
theorem Reads.note_first (h : Reads d {} front rest tokens)
    (hnote : (d.afterOpener? .note rest).isSome = true) :
    ∃ u ∈ tokens.head?, u.kind = .note ∧ u.span.start = utf8Size front := by
  have hhere : d.opensHere? false rest = some .note := openingHere?_eq_some_iff.2 hnote
  have hnext := d.nextOpening?_of_opensHere? hhere
  cases h with
  | @last _ _ lead text lead_split no_opening =>
    rw [Carry.split_empty] at lead_split
    obtain ⟨rfl, -⟩ := Prod.mk.inj lead_split
    rw [List.nil_append, no_opening] at hnext
    cases hnext
  | @next _ _ lead text tail markup body c rest tokens lead_split opening located tail_split
      reads =>
    rw [Carry.split_empty] at lead_split
    obtain ⟨rfl, -⟩ := Prod.mk.inj lead_split
    rw [List.nil_append, opening] at hnext
    obtain ⟨hbefore, rfl, -⟩ := Opening.mk.inj (Option.some.inj hnext)
    obtain ⟨rfl, rfl⟩ := List.append_eq_nil_iff.1 hbefore
    refine ⟨c.token d (.after (front ++ [])), by simp [Token.ofText?], ?_, by simp⟩
    rcases Dialect.locate_cases located with ⟨content, rfl, -⟩ | ⟨-, rfl, -⟩ | ⟨content, hm, -⟩
    · rfl
    · rfl
    · exact absurd rfl hm

/-! ## One token -/

theorem Carry.textFlags_mem (carry : Carry) (unterminated : Bool) :
    carry.textFlags unterminated ∈ [({} : Flags), { unterminated := true }, { raw := true },
      { raw := true, unterminated := true }] := by
  unfold textFlags
  cases carry.raw <;> cases unterminated <;> decide

theorem Carry.textFlags_ne (carry : Carry) (unterminated : Bool) :
    carry.textFlags unterminated ≠ { unterminated := true } := by
  unfold textFlags
  cases carry.raw <;> cases unterminated <;> decide

theorem Carry.unterminated_textFlags_false (carry : Carry) :
    (carry.textFlags false).unterminated = false := by
  unfold textFlags
  cases carry.raw <;> rfl

/-- The text of a region keeps the rules, if what follows it is a construct. -/
theorem Token.isWellFormed_of_mem_ofText? {m : Mark} {text source : List Char}
    {unterminated : Bool} {t : Token} {after : List Token}
    (ht : t ∈ (Token.ofText? m text (carry.textFlags unterminated)).toList)
    (hstands : t.StandsIn source)
    (hafter : ∀ u ∈ after.head?, unterminated = false ∧
      (u.kind = .fixed → u.flags = { unterminated := true })) :
    t.IsWellFormed d source after := by
  obtain ⟨hne, rfl⟩ := Token.mem_ofText?.1 ht
  exact {
    image_ne_nil := hne
    standsIn := hstands
    closed := fun markup hkind => absurd hkind.symm markup.kind_ne_fixed
    openNote := nofun
    fixed := fun _ => ⟨rfl, carry.textFlags_mem unterminated⟩
    degraded := fun _ hdegraded => absurd hdegraded (carry.textFlags_ne unterminated)
    fixed_fixed := by
      intro _ u hu hkind
      obtain ⟨rfl, hu⟩ := hafter u hu
      exact ⟨carry.unterminated_textFlags_false, hu hkind⟩ }

/-- A closed construct keeps the rules, whatever is read after it. -/
theorem Construct.isWellFormed_closed (markup : Markup) (content front rest : List Char)
    (tokens : List Token) :
    ((closed markup content).token d (.after front)).IsWellFormed d
      (front ++ (closed markup content).image d ++ rest) tokens where
  image_ne_nil := (closed markup content).image_ne_nil d
  standsIn := standsIn_token d _ front rest
  closed := by
    intro markup' hkind _
    obtain rfl := Markup.eq_of_kind_eq hkind
    exact ⟨rfl, rfl, rfl, rfl⟩
  openNote := nofun
  fixed hkind := absurd hkind markup.kind_ne_fixed
  degraded hkind := absurd hkind markup.kind_ne_fixed
  fixed_fixed hkind := absurd hkind markup.kind_ne_fixed

/-- An open note keeps the rules if nothing is read after it. -/
theorem Construct.isWellFormed_openNote {content : List Char}
    (hcloser : ¬ d.closer .note <:+: content) (front : List Char) :
    ((openNote content).token d (.after front)).IsWellFormed d
      (front ++ (openNote content).image d) [] where
  image_ne_nil := (openNote content).image_ne_nil d
  standsIn := by simpa using standsIn_token d (openNote content) front []
  closed := by
    intro markup hkind hopen
    have hnote : Markup.note.kind = markup.kind := hkind
    cases hopen (Markup.eq_of_kind_eq hnote).symm
  openNote _ _ := ⟨rfl, rfl, hcloser, by simp, rfl⟩
  fixed := nofun
  degraded := nofun
  fixed_fixed := nofun

/-- Text that began as an expression or a tag keeps the rules if nothing or a note is read after
it. -/
theorem Construct.isWellFormed_degraded {markup : Markup} (hm : markup ≠ .note)
    {content : List Char}
    (hafter : tokens = [] ∧ rest = [] ∨ ∃ u ∈ tokens.head?, u.kind = .note ∧
      u.span.start = utf8Size (front ++ (degraded markup content).image d)) :
    ((degraded markup content).token d (.after front)).IsWellFormed d
      (front ++ (degraded markup content).image d ++ rest) tokens where
  image_ne_nil := (degraded markup content).image_ne_nil d
  standsIn := standsIn_token d _ front rest
  closed markup hkind := absurd hkind.symm markup.kind_ne_fixed
  openNote := nofun
  fixed _ := ⟨rfl, List.mem_cons_of_mem _ List.mem_cons_self⟩
  degraded := by
    intro _ _
    constructor
    · have hopener : d.opener markup <+: d.opener markup ++ content := List.prefix_append _ _
      cases markup with
      | expression => exact .inl hopener
      | tag => exact .inr hopener
      | note => exact absurd rfl hm
    · rcases hafter with ⟨rfl, rfl⟩ | ⟨u, hu, hkind, hstart⟩
      · exact .inl ⟨rfl, by simp⟩
      · exact .inr ⟨u, hu, hkind, by simpa using hstart⟩
  fixed_fixed := by
    intro _ u hu hkind
    rcases hafter with ⟨rfl, -⟩ | ⟨u', hu', hkind', -⟩
    · cases hu
    · obtain rfl := Option.mem_unique hu hu'
      rw [hkind] at hkind'
      cases hkind'

/-- A construct keeps the rules, with the tokens that are read after it. -/
theorem Construct.isWellFormed_token {c : Construct} {markup : Markup} {body : List Char}
    (located : d.locate markup body = (c, rest))
    (reads : Reads d (.after d c) (front ++ c.image d) rest tokens) :
    (c.token d (.after front)).IsWellFormed d (front ++ c.image d ++ rest) tokens := by
  rcases locate_cases located with ⟨content, rfl, -⟩ | ⟨rfl, rfl, rfl, hcloser⟩ |
    ⟨content, hm, rfl, -, hrest⟩
  · exact isWellFormed_closed markup content front rest tokens
  · obtain rfl := reads.eq_nil rfl
    rw [List.append_nil]
    exact isWellFormed_openNote hcloser front
  · refine isWellFormed_degraded hm ?_
    rcases hrest with rfl | hnote
    · exact .inl ⟨reads.eq_nil rfl, rfl⟩
    · exact .inr (reads.note_first hnote)

/-! ## All tokens -/

/-- A construct that is text began as an expression or a tag. -/
theorem Construct.flags_of_kind_eq_fixed {c : Construct} (h : c.kind = .fixed) :
    c.flags = { unterminated := true } := by
  cases c with
  | closed markup content => exact absurd h markup.kind_ne_fixed
  | openNote content => rfl
  | degraded markup content => rfl

/-- A token behind an optional one is that one or stands in the rest. -/
theorem Token.toList_append_eq {t? : Option Token} {rest before after : List Token} {t : Token}
    (h : t?.toList ++ rest = before ++ t :: after) :
    t ∈ t?.toList ∧ after = rest ∨ ∃ before', rest = before' ++ t :: after := by
  cases t? with
  | none => exact .inr ⟨before, h⟩
  | some u =>
    cases before with
    | nil =>
      obtain ⟨rfl, rfl⟩ := List.cons.inj h
      exact .inl ⟨List.mem_cons_self, rfl⟩
    | cons u' before => exact .inr ⟨before, (List.cons.inj h).2⟩

/-- Every token of a run keeps the rules. -/
theorem Reads.isWellFormed (h : Reads d carry front rest tokens) {before after : List Token}
    {t : Token} (htokens : tokens = before ++ t :: after) :
    t.IsWellFormed d (front ++ rest) after := by
  have hstands : t.StandsIn (front ++ rest) :=
    h.standsIn t (htokens ▸ List.mem_append_right before List.mem_cons_self)
  induction h generalizing before with
  | @last carry front lead text lead_split no_opening =>
    rw [← List.append_nil (Option.toList _)] at htokens
    rcases Token.toList_append_eq htokens with ⟨ht, rfl⟩ | ⟨before', hnil⟩
    · exact Token.isWellFormed_of_mem_ofText? ht hstands (by simp)
    · simp at hnil
  | @next carry front lead text tail markup body c rest tokens lead_split opening located tail_split
      reads ih =>
    have hsource : front ++ (lead ++ text ++ tail ++ c.image d ++ rest)
        = front ++ (lead ++ text ++ tail ++ c.image d) ++ rest := by
      simp only [List.append_assoc]
    rw [hsource] at hstands ⊢
    rcases Token.toList_append_eq htokens with ⟨ht, rfl⟩ | ⟨before', hrest⟩
    · refine Token.isWellFormed_of_mem_ofText? ht hstands fun u hu => ⟨rfl, fun hkind => ?_⟩
      obtain rfl := Option.some.inj hu
      exact Construct.flags_of_kind_eq_fixed hkind
    · cases before' with
      | nil =>
        obtain ⟨rfl, rfl⟩ := List.cons.inj hrest
        rw [← List.append_assoc front] at reads ⊢
        exact Construct.isWellFormed_token located reads
      | cons u before' => exact ih (List.cons.inj hrest).2 hstands

/-- Every token of every source keeps the rules: what it consists of, where it stands, and what may
come after it. -/
theorem isWellFormed_of_tokenize (d : Dialect) {source : List Char} {before after : List Token}
    {t : Token} (h : tokenize d source = before ++ t :: after) : t.IsWellFormed d source after :=
  (reads_tokenize d source).isWellFormed h

/-- Text that began as an expression comes after other text, and before the note that opens in
it. -/
theorem isWellFormed_interrupted :
    let text := Token.stamp .start .fixed ['λ'] ['λ'] {}
    let interrupted :=
      (Construct.degraded .expression " x ".toList).token .standard (.after ['λ'])
    let note := (Construct.closed .note " y ".toList).token .standard (.after "λ\x7b\x7b x ".toList)
    tokenize .standard "λ\x7b\x7b x \x7b# y #\x7d".toList = [text] ++ interrupted :: [note] ∧
      interrupted.IsWellFormed .standard "λ\x7b\x7b x \x7b# y #\x7d".toList [note] := by
  intro text interrupted note
  have htokens : tokenize .standard "λ\x7b\x7b x \x7b# y #\x7d".toList = [text] ++ interrupted :: [note] := by
    decide +kernel
  exact ⟨htokens, isWellFormed_of_tokenize .standard htokens⟩

end TemplateLexer
