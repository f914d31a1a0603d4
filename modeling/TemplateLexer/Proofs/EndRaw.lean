import TemplateLexer.Proofs.Standard

/-!
# The tag that ends a raw block

Inside a raw block the scanner looks for an `endraw` tag with a matcher of its own, that reads
blanks and markers as far as they go and does not go back. Here the places that it finds are
compared with two other descriptions of such a tag.

* `findsEndRaw`: with the grammar of the tag. The matcher finds the first place where the grammar
  fits, if the closer of tags starts neither with an ASCII blank nor with a marker, and only then:
  `not_findsEndRaw_arrowed` is a tag that closes with an arrow, where the closer is taken for a
  marker.
* `isEndRawAt_iff_isEndRawTag`: with the name and the helpers of the tag that is located there. The
  two agree if all white space in the tag is ASCII white space: `not_isEndRawAt_noBreakSpace`.
-/

namespace TemplateLexer

/-! ## The grammar -/

/-- The search for the end of a raw block finds the first place in `source` from which on the text
has property `P`, or nothing if there is none. -/
def Dialect.FindsEndRaw (d : Dialect) (P : List Char → Prop) (source : List Char) : Prop :=
  match d.nextOpening? true source with
  | some o =>
    o.markup = .tag ∧ d.sourceOf o = source ∧ P (d.opener .tag ++ o.body) ∧
      ∀ front rest, front ++ rest = source → P rest → utf8Size o.before ≤ utf8Size front
  | none => ∀ front rest, front ++ rest = source → ¬ P rest

variable {d : Dialect}

/-- The search finds the first place of what it looks for there. -/
theorem findsEndRaw_of_iff {P : List Char → Prop}
    (hP : ∀ text, P text ↔ (d.endRawHere? text).isSome = true) (source : List Char) :
    d.FindsEndRaw P source := by
  have hne {text : List Char} (h : P text) : text ≠ [] := by
    rintro rfl
    obtain ⟨markup, hmarkup⟩ := Option.isSome_iff_exists.1 ((hP []).1 h)
    obtain ⟨-, body, hbody, -⟩ := Dialect.exists_of_endRawHere? hmarkup
    exact d.opener_ne_nil .tag (List.append_eq_nil_iff.1 hbody).1
  unfold Dialect.FindsEndRaw
  cases hopening : d.nextOpening? true source with
  | none =>
    rintro front rest rfl hrest
    have hnone : d.endRawHere? rest = none :=
      d.nextOpening?_eq_none_iff.1 hopening rest (List.suffix_append front rest) (hne hrest)
    have hsome := (hP rest).1 hrest
    rw [hnone] at hsome
    cases hsome
  | some o =>
    have hsource := d.sourceOf_of_nextOpening? hopening
    rw [Dialect.nextOpening?_eq] at hopening
    obtain ⟨p, hp, rfl⟩ := Option.map_eq_some_iff.1 hopening
    obtain ⟨-, hfound⟩ := firstPlace?_eq_some hp
    have hopener := Dialect.opener_append_drop hfound
    have hhere : d.endRawHere? p.after = some p.found := hfound
    have hmarkup := (Dialect.exists_of_endRawHere? hhere).1
    refine ⟨hmarkup, hsource, ?_, fun front rest hrest hPrest => ?_⟩
    · dsimp only
      rw [← hmarkup, hopener, hP, hhere]
      rfl
    · dsimp only
      have hsome := (hP rest).1 hPrest
      obtain ⟨between, rfl⟩ := before_prefix_of_firstPlace? hp hrest fun hnone => by
        rw [show d.endRawHere? rest = none from hnone] at hsome
        cases hsome
      simp

/-- In the shortest `endraw` tag there is no room for a marker, so its closer has to be of the sort
that is found without one. -/
theorem closerApart_of_isEndRaw (h : d.isEndRaw (endRawName ++ d.closer .tag) = true) :
    d.CloserApart := by
  obtain ⟨before, front, back, after, rest, -, -, hafter, heq⟩ := d.isEndRaw_iff.1 h
  apply hafter
  have hlength := congrArg List.length heq
  simp only [endRawContent, List.length_append] at hlength
  have hmarker : (Marker.text after).length = 0 := by omega
  cases after with
  | none => rfl
  | some m => cases hmarker

variable (d)

/-- The search for the end of a raw block finds the first `endraw` tag whose closer, if no marker is
before it, starts neither with a blank nor with a marker. So it finds the first `endraw` tag of
every source if the closer of tags is of that sort, and only then. -/
theorem findsEndRaw :
    (∀ source, d.FindsEndRaw
      (fun text => ∃ after, d.EndRawStands after text ∧ (after = none → d.CloserApart)) source) ∧
    ((∀ source, d.FindsEndRaw (fun text => ∃ after, d.EndRawStands after text) source) ↔
      d.CloserApart) := by
  refine ⟨findsEndRaw_of_iff fun text => isSome_endRawHere?_iff.symm, fun h => ?_, fun h => ?_⟩
  · -- The shortest `endraw` tag has to be found where it begins.
    have hstands : ∃ after, d.EndRawStands after (d.opener .tag ++ (endRawName ++ d.closer .tag)) :=
      ⟨none, none, [], [], [], by simp, by simp, by simp [endRawContent, Marker.text]⟩
    have hfinds := h (d.opener .tag ++ (endRawName ++ d.closer .tag))
    unfold Dialect.FindsEndRaw at hfinds
    split at hfinds
    · next o hopening =>
      obtain ⟨hmarkup, hsource, -, hfirst⟩ := hfinds
      have hbefore := hfirst [] _ rfl hstands
      have hnil : o.before = [] := by
        have := length_le_utf8Size o.before
        rw [utf8Size_nil] at hbefore
        exact List.length_eq_zero_iff.1 (by omega)
      have hbody : o.body = endRawName ++ d.closer .tag := by
        rw [Dialect.sourceOf, hnil, hmarkup, List.nil_append] at hsource
        exact List.append_cancel_left hsource
      apply closerApart_of_isEndRaw
      rw [← hbody]
      exact (d.isEndRaw_of_nextOpening? hopening).2
    · exact absurd hstands (hfinds [] _ rfl)
  · refine findsEndRaw_of_iff fun text => ?_
    rw [isSome_endRawHere?_iff]
    simp [h]

/-- Tags between the delimiters of a comment in a marked-up page. -/
def Dialect.arrowed : Dialect :=
  { Dialect.standard with
    settings := { delimiters := { tag := ⟨['<', '!', '-', '-'], ['-', '-', '>']⟩ } }
    fault?_eq_none := by decide }

/-- The first dash of the closer is taken for a marker, and what is left of it does not close. The
same tag is found where any tag may stand. -/
theorem not_findsEndRaw_arrowed :
    ¬ Dialect.arrowed.FindsEndRaw (fun text => ∃ after, Dialect.arrowed.EndRawStands after text)
      "<!--endraw-->".toList ∧
    Dialect.arrowed.locate .tag "endraw-->".toList = (.closed .tag endRawName, []) := by
  constructor
  · intro h
    have hstands : Dialect.arrowed.EndRawStands none "<!--endraw-->".toList :=
      ⟨none, [], [], [], by simp, by simp, by decide⟩
    have hnone : Dialect.arrowed.nextOpening? true "<!--endraw-->".toList = none := by
      decide +kernel
    unfold Dialect.FindsEndRaw at h
    rw [hnone] at h
    exact h [] _ rfl ⟨none, hstands⟩
  · decide +kernel

/-! ## The located tag -/

/-- The content of a tag with the name `endraw` and without helpers is that word, blanks around it
and a marker at each end. -/
theorem exists_of_read_endRaw {content : List Char}
    (h : TagParts.read content = ⟨endRawName, []⟩) :
    ∃ before front back after, (∀ c ∈ front, isBlank c = true) ∧ (∀ c ∈ back, isBlank c = true) ∧
      content = endRawContent before front back after := by
  obtain ⟨front, back, hfront, hback, hinner⟩ := exists_append_trim (Marked.read content).inner
  rw [TagParts.trim_inner_of_read h] at hinner
  refine ⟨(Marked.read content).before, front, back, (Marked.read content).after, hfront, hback, ?_⟩
  rw [endRawContent, hinner, Marked.content_read]

theorem isAsciiBlank_of_isEndRawChar {c : Char} (h : isEndRawChar c = true)
    (hblank : isBlank c = true) : isAsciiBlank c = true := by
  simp only [isEndRawChar, Bool.or_eq_true] at h
  rcases h with (h | h) | h
  · exact h
  · obtain ⟨m, hm⟩ := Option.isSome_iff_exists.1 h
    rw [← Marker.char_eq_of_ofChar? hm] at hblank
    cases m <;> exact absurd hblank (by decide)
  · have hletters : endRawName.all (fun c => !isBlank c) = true := by decide
    have hletter := List.all_eq_true.1 hletters c (List.contains_iff_mem.1 h)
    rw [hblank] at hletter
    cases hletter

variable {d}

/-- A tag that is found as the end of a raw block is one that has the name `endraw`, no helpers and
no white space outside ASCII. -/
theorem isEndRaw_iff_isEndRawTag (hd : d.UsesStandard) (m : Mark) (body : List Char) :
    let token := (d.locate .tag body).1.token d m
    d.isEndRaw body = true ↔
      token.isEndRawTag = true ∧ ∀ c ∈ token.content, isBlank c = true → isAsciiBlank c = true := by
  constructor
  · intro h
    obtain ⟨before, front, back, after, rest, hfront, hback, -, rfl⟩ := d.isEndRaw_iff.1 h
    rw [locate_endRawContent hd.endRawApart hfront hback]
    exact ⟨isEndRawTag_token (read_endRawContent before after hfront hback) d m,
      fun c hc => isAsciiBlank_of_isEndRawChar (isEndRawChar_of_mem hfront hback hc)⟩
  · rintro ⟨htag, hascii⟩
    have hbody := d.image_append_of_locate .tag body
    rcases hlocate : d.locate .tag body with ⟨c, rest⟩
    rw [hlocate] at htag hascii hbody
    cases c with
    | closed markup content =>
      rw [Token.isEndRawTag, isClosed_token_closed, Bool.true_and, beq_iff_eq,
        Construct.tag?_token] at htag
      obtain rfl : markup = .tag := by
        cases markup with
        | tag => rfl
        | expression => cases htag
        | note => cases htag
      obtain ⟨before, front, back, after, hfront, hback, rfl⟩ :=
        exists_of_read_endRaw (Option.some.inj htag)
      refine d.isEndRaw_iff.2 ⟨before, front, back, after, rest, ?_, ?_, fun _ => hd.closerApart, ?_⟩
      · exact fun c hc => hascii c (mem_endRawContent_front hc) (hfront c hc)
      · exact fun c hc => hascii c (mem_endRawContent_back hc) (hback c hc)
      · simp only [Construct.image, List.append_assoc, List.append_cancel_left_eq] at hbody
        exact hbody.symm
    | openNote content => cases htag
    | degraded markup content => cases htag

/-- Where the opener of tags stands, the matcher for the end of a raw block finds the rest of an
`endraw` tag if the tag that is located there has the name `endraw`, no helpers and no white space
outside ASCII, and only then. -/
theorem isEndRawAt_iff_isEndRawTag (hd : d.UsesStandard) {source : List Char} {offset : Nat}
    (hopener : ((Cursor.start source).skip offset).startsWith (d.opener .tag) = true) :
    ∃ front body, source = front ++ d.opener .tag ++ body ∧ utf8Size front = offset ∧
      let token := (d.locate .tag body).1.token d (.after front)
      (d.isEndRawAt ((Cursor.start source).skip (offset + utf8Size (d.opener .tag))) = true ↔
        token.isEndRawTag = true ∧
          ∀ c ∈ token.content, isBlank c = true → isAsciiBlank c = true) := by
  obtain ⟨front, body, rfl, rfl⟩ := Cursor.exists_of_startsWith_skip (d.opener_ne_nil .tag) hopener
  refine ⟨front, body, rfl, rfl, ?_⟩
  rw [← utf8Size_append, Cursor.skip_append, Dialect.isEndRawAt_start]
  exact isEndRaw_iff_isEndRawTag hd (.after front) body

/-- A tab before the marker is ASCII white space. -/
theorem isEndRawAt_tab :
    let source := "λ\x7b% endraw\t-%\x7d".toList
    Dialect.standard.UsesStandard ∧
    ((Cursor.start source).skip 2).startsWith (Dialect.standard.opener .tag) = true ∧
    Dialect.standard.isEndRawAt ((Cursor.start source).skip 4) = true ∧
    ∃ front body, source = front ++ Dialect.standard.opener .tag ++ body ∧ utf8Size front = 2 ∧
      let token := (Dialect.standard.locate .tag body).1.token .standard (.after front)
      (Dialect.standard.isEndRawAt ((Cursor.start source).skip 4) = true ↔
        token.isEndRawTag = true ∧
          ∀ c ∈ token.content, isBlank c = true → isAsciiBlank c = true) := by
  intro source
  have hopener : ((Cursor.start source).skip 2).startsWith (Dialect.standard.opener .tag) = true := by
    decide +kernel
  exact ⟨Dialect.standard_usesStandard, hopener, by decide +kernel,
    isEndRawAt_iff_isEndRawTag Dialect.standard_usesStandard hopener⟩

/-- A no-break space is white space where the tag is taken apart, but not where the end of a raw
block is looked for. -/
theorem not_isEndRawAt_noBreakSpace :
    let source := "\x7b%endraw\u00a0%\x7d".toList
    (Cursor.start source).startsWith (Dialect.standard.opener .tag) = true ∧
    Dialect.standard.isEndRawAt ((Cursor.start source).skip 2) = false ∧
    ((Dialect.standard.locate .tag (source.drop 2)).1.token .standard .start).isEndRawTag = true := by
  decide +kernel

end TemplateLexer
