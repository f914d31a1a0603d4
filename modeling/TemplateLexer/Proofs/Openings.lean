import TemplateLexer.Proofs.RawBlocks

/-!
# Where constructs open

Outside raw blocks a construct opens at the first opener that counts; inside, at the first `endraw`
tag. Here both are said of whole runs, and compared with the rule for openers: where a dialect asks
for boundaries, an opener counts only before one.

* `construct_at_first_opening`: outside raw blocks no opener that counts is missed, and none is
  invented.
* `Reads.exists_opening`: where the opener of any construct of a stream stands, and how it was
  found.
* `boundary_after_opener`: the opener of a construct stands before a boundary, unless the construct
  ends a raw block. The end of a raw block is looked for without a look at the boundary:
  `not_boundary_after_endRaw`.
-/

namespace TemplateLexer

/-! ## Openers that count -/

/-- An opener that counts stands at the front of `text`. -/
def Dialect.Opens (d : Dialect) (text : List Char) : Prop :=
  ∃ markup rest, d.opener markup ++ rest = text ∧ d.acceptsBefore rest.head? = true

/-- The first opener that counts in `source` is the one of `markup` after `before`, and `after` is
what follows it. -/
structure Dialect.IsFirstOpening (d : Dialect) (source before : List Char) (markup : Markup)
    (after : List Char) : Prop where
  split : before ++ (d.opener markup ++ after) = source
  accepted : d.acceptsBefore after.head? = true
  first : ∀ front rest, front ++ rest = source → d.Opens rest → utf8Size before ≤ utf8Size front

variable {d : Dialect} {carry : Carry} {front rest : List Char} {tokens : List Token}

theorem Dialect.openingHere?_eq_none_iff {text : List Char} :
    d.openingHere? text = none ↔ ¬ d.Opens text := by
  rw [← Option.not_isSome_iff_eq_none, Option.isSome_iff_exists]
  simp only [Dialect.openingHere?_eq_some_iff, Dialect.isSome_afterOpener?_iff]
  rfl

theorem Dialect.Opens.ne_nil {text : List Char} (h : d.Opens text) : text ≠ [] := by
  obtain ⟨markup, rest, rfl, -⟩ := h
  simp [d.opener_ne_nil]

/-- Where the search finds nothing, no opener counts. -/
theorem not_opens_of_nextOpening? {source : List Char} (h : d.nextOpening? false source = none)
    {front rest : List Char} (hsource : front ++ rest = source) : ¬ d.Opens rest := by
  intro hopens
  have hnone : d.openingHere? rest = none :=
    d.nextOpening?_eq_none_iff.1 h rest (hsource ▸ List.suffix_append front rest) hopens.ne_nil
  exact Dialect.openingHere?_eq_none_iff.1 hnone hopens

/-- What the search finds is the first opener that counts. -/
theorem isFirstOpening_of_nextOpening? {source : List Char} {o : Opening}
    (h : d.nextOpening? false source = some o) :
    d.IsFirstOpening source o.before o.markup o.body := by
  have hsource := d.sourceOf_of_nextOpening? h
  have hhere : d.openingHere? _ = some o.markup := d.opensHere?_of_nextOpening? h
  rw [Dialect.openingHere?_eq_some_iff, Dialect.isSome_afterOpener?_iff] at hhere
  obtain ⟨rest, hrest, haccepts⟩ := hhere
  obtain rfl := List.append_cancel_left hrest
  refine ⟨by rw [← hsource, Dialect.sourceOf, List.append_assoc], haccepts, ?_⟩
  intro front rest hsplit hopens
  rw [Dialect.nextOpening?_eq] at h
  obtain ⟨p, hp, rfl⟩ := Option.map_eq_some_iff.1 h
  obtain ⟨between, rfl⟩ := before_prefix_of_firstPlace? hp hsplit fun hnone =>
    Dialect.openingHere?_eq_none_iff.1 hnone hopens
  simp

/-! ## Outside raw blocks -/

theorem Carry.raw_of_textFlags {unterminated : Bool} (h : carry.textFlags unterminated = {}) :
    carry.raw = false := by
  cases hraw : carry.raw with
  | false => rfl
  | true =>
    rw [textFlags, hraw] at h
    cases h

/-- No opener that counts stands in a text outside raw blocks, by induction on the run. -/
theorem Reads.not_opens (h : Reads d carry front rest tokens) :
    ∀ t ∈ tokens, t.kind = .fixed → t.flags = {} → ∀ before after, before ++ after = front ++ rest →
      t.span.start ≤ utf8Size before → utf8Size before < t.span.stop → ¬ d.Opens after := by
  induction h with
  | @last carry front lead text lead_split no_opening =>
    intro t ht _ hflags before after hsource hstart _
    obtain ⟨-, rfl⟩ := Token.mem_ofText?.1 ht
    rw [Carry.raw_of_textFlags hflags] at no_opening
    rw [← List.append_assoc] at hsource
    obtain ⟨between, -, hbetween⟩ :=
      exists_append_of_utf8Size_le hsource.symm (by simpa [Token.stamp] using hstart)
    exact not_opens_of_nextOpening? no_opening hbetween.symm
  | @next carry front lead text tail markup body c rest tokens lead_split opening located tail_split
      reads ih =>
    intro t ht hkind hflags before after hsource hstart hstop hopens
    rcases List.mem_append.1 ht with ht | ht
    · obtain ⟨-, rfl⟩ := Token.mem_ofText?.1 ht
      rw [Carry.raw_of_textFlags hflags] at opening
      have hsource' : front ++ lead ++ (text ++ tail ++ c.image d ++ rest) = before ++ after := by
        rw [hsource]
        simp only [List.append_assoc]
      obtain ⟨between, rfl, hbetween⟩ :=
        exists_append_of_utf8Size_le hsource' (by simpa [Token.stamp] using hstart)
      -- The place is in the text, and the first opener stands behind the text.
      have hfirst :=
        (isFirstOpening_of_nextOpening? opening).first between after hbetween.symm hopens
      simp only [Token.stamp, Mark.offset_after, utf8Size_append] at hstop hfirst
      omega
    · rcases List.mem_cons.1 ht with rfl | ht
      · cases c with
        | closed markup content => exact markup.kind_ne_fixed hkind
        | openNote content => cases hkind
        | degraded markup content => cases hflags
      · refine ih t ht hkind hflags before after ?_ hstart hstop hopens
        rw [hsource]
        simp only [List.append_assoc]

variable (d)

/-- Outside raw blocks a run goes on with the construct that the first opener that counts begins,
behind what the construct leaves of the text before it; if no opener counts, all that is left is one
text. So no opener that counts stands in a text outside raw blocks. -/
theorem construct_at_first_opening :
    (∀ (carry : Carry) (m : Mark) (source lead body : List Char), carry.raw = false →
      carry.trim.split source = (lead, body) →
      ((∃ front rest, front ++ rest = body ∧ d.Opens rest) →
        ∃ before markup after text tail c rest,
          d.IsFirstOpening body before markup after ∧ d.locate markup after = (c, rest) ∧
          c.splitBefore d (startsLineAfter m.startsLine lead) before = (text, tail) ∧
          tokenizeFrom d carry m source = (Token.ofText? (m.advance lead) text {}).toList
            ++ c.token d (m.advance (lead ++ before))
              :: tokenizeFrom d (.after d c) (m.advance (lead ++ before ++ c.image d)) rest) ∧
      ((∀ front rest, front ++ rest = body → ¬ d.Opens rest) →
        tokenizeFrom d carry m source = (Token.ofText? (m.advance lead) body {}).toList)) ∧
    (∀ source, ∀ t ∈ tokenize d source, t.kind = .fixed → t.flags = {} →
      ∀ front rest, front ++ rest = source → t.span.start ≤ utf8Size front →
        utf8Size front < t.span.stop → ¬ d.Opens rest) := by
  refine ⟨fun carry m source lead body hraw hlead => ?_, fun source t ht hkind hflags => ?_⟩
  · have hflags (unterminated : Bool) : carry.textFlags unterminated = {} := by
      rw [Carry.textFlags, hraw, if_neg Bool.false_ne_true]
    cases hopening : d.nextOpening? false body with
    | none =>
      have hnone {front rest : List Char} (hsplit : front ++ rest = body) : ¬ d.Opens rest :=
        not_opens_of_nextOpening? hopening hsplit
      refine ⟨?_, fun _ => ?_⟩
      · rintro ⟨front, rest, hsplit, hopens⟩
        exact absurd hopens (hnone hsplit)
      rw [← hraw] at hopening
      rw [tokenizeFrom_of_read (Segment.read_of_none hlead hopening m.startsLine)]
      simp [Segment.textToken?, Segment.constructToken?, hflags]
    | some o =>
      have hfirst := isFirstOpening_of_nextOpening? hopening
      refine ⟨fun _ => ?_, fun hnone => ?_⟩
      · rcases hlocate : d.locate o.markup o.body with ⟨c, rest⟩
        rcases htail : c.splitBefore d (startsLineAfter m.startsLine lead) o.before
          with ⟨text, tail⟩
        have hbefore : text ++ tail = o.before := by
          simpa [htail] using c.append_splitBefore d (startsLineAfter m.startsLine lead) o.before
        refine ⟨o.before, o.markup, o.body, text, tail, c, rest, hfirst, hlocate, htail, ?_⟩
        rw [← hraw] at hopening
        rw [tokenizeFrom_of_read (Segment.read_of_some hlead hopening hlocate htail), ← hbefore]
        simp [Segment.textToken?, Segment.constructToken?, Segment.carryAfter, Segment.markAfter,
          Segment.image, hflags]
      · exact absurd ⟨o.markup, o.body, rfl, hfirst.accepted⟩ (hnone _ _ hfirst.split)
  · exact (reads_tokenize d source).not_opens t ht hkind hflags

/-- A dialect where an opener counts only before a boundary. -/
def Dialect.strict : Dialect :=
  { Dialect.standard with
    settings := { legacy := { boundaryRequired := true } }
    fault?_eq_none := by decide }

/-- The first opener stands before a letter and does not count, the second one does. -/
theorem construct_at_second_opener :
    let source := "λ\x7b\x7bx\x7b%- y %\x7d".toList
    let plain := Token.stamp .start .fixed "λ\x7b\x7bx".toList "λ\x7b\x7bx".toList {}
    (∃ before markup after text tail c rest,
      Dialect.strict.IsFirstOpening source before markup after ∧
      Dialect.strict.locate markup after = (c, rest) ∧
      c.splitBefore .strict true before = (text, tail) ∧
      tokenizeFrom .strict {} .start source = (Token.ofText? .start text {}).toList
        ++ c.token .strict (Mark.start.advance before)
          :: tokenizeFrom .strict (.after .strict c)
            (Mark.start.advance (before ++ c.image .strict)) rest) ∧
    tokenizeFrom .strict {} .start "λ\x7b\x7bx".toList = [plain] ∧
    plain ∈ tokenize .strict source ∧ ¬ Dialect.strict.Opens "\x7b\x7bx\x7b%- y %\x7d".toList := by
  intro source plain
  obtain ⟨hsteps, hplain⟩ := construct_at_first_opening .strict
  have hopens : Dialect.strict.Opens "\x7b%- y %\x7d".toList :=
    ⟨.tag, "- y %\x7d".toList, by decide, by decide +kernel⟩
  have hnone : ∀ front rest, front ++ rest = "λ\x7b\x7bx".toList → ¬ Dialect.strict.Opens rest :=
    fun front rest => not_opens_of_nextOpening? (by decide +kernel)
  have hmem : plain ∈ tokenize .strict source := by decide +kernel
  exact ⟨(hsteps {} .start source [] source rfl (Carry.split_empty _)).1
      ⟨"λ\x7b\x7bx".toList, _, by decide, hopens⟩,
    (hsteps {} .start _ [] _ rfl (Carry.split_empty _)).2 hnone, hmem,
    hplain source plain hmem rfl rfl ['λ'] _ (by decide) (by decide) (by decide)⟩

/-! ## Openers before boundaries -/

variable {d}

/-- The last construct of a stream is a tag after which a raw block begins. -/
def AfterRawTag (tokens : List Token) : Prop :=
  ∃ kept u texts, tokens = kept ++ u :: texts ∧ u.isRawTag = true ∧ ∀ t ∈ texts, t.isText = true

theorem AfterRawTag.append_left {tokens : List Token} (h : AfterRawTag tokens)
    (more : List Token) : AfterRawTag (more ++ tokens) := by
  obtain ⟨kept, u, texts, rfl, hu, htexts⟩ := h
  exact ⟨more ++ kept, u, texts, by rw [List.append_assoc], hu, htexts⟩

/-- Where the opener of a construct of a stream stands, and how it was found: by the search for the
end of a raw block, if a raw tag was the last construct before it, and else by the search for
openers that count. By induction on the run. -/
theorem Reads.exists_opening (h : Reads d carry front rest tokens) {before after : List Token}
    {t : Token} (htokens : tokens = before ++ t :: after) (ht : t.isText = false) :
    ∃ read markup body raw, read ++ (d.opener markup ++ body) = front ++ rest ∧
      t = (d.locate markup body).1.token d (.after read) ∧
      d.opensHere? raw (d.opener markup ++ body) = some markup ∧
      (raw = true → (carry.raw = true ∧ ∀ u ∈ before, u.isText = true) ∨
        (d.settings.rawBlocks = true ∧ AfterRawTag before)) := by
  induction h generalizing before with
  | @last carry front lead text lead_split no_opening =>
    have htext := isText_of_mem_ofText? (htokens ▸ List.mem_append_right before List.mem_cons_self)
    rw [ht] at htext
    cases htext
  | @next carry front lead text tail markup body c rest tokens lead_split opening located tail_split
      reads ih =>
    have hkept : ∀ t ∈ (Token.ofText? (.after (front ++ lead)) text (carry.textFlags false)).toList,
        t.isText = true := fun t ht => isText_of_mem_ofText? ht
    have himage := d.image_append_of_locate_eq located
    rcases construct_cases_of_append_eq htokens hkept ht with
      ⟨hbefore, rfl, -⟩ | ⟨before', rfl, hmore⟩
    · refine ⟨front ++ (lead ++ text ++ tail), markup, body, carry.raw, ?_, by rw [located],
        d.opensHere?_of_nextOpening? opening, fun hraw => .inl ⟨hraw, hbefore ▸ hkept⟩⟩
      rw [← himage]
      simp only [List.append_assoc]
    · obtain ⟨read, markup', body', raw, hsource, ht', hopens, hraw⟩ := ih hmore
      refine ⟨read, markup', body', raw, ?_, ht', hopens, fun h => ?_⟩
      · rw [hsource]
        simp only [List.append_assoc]
      · right
        rcases hraw h with ⟨hafter, htexts⟩ | ⟨hblocks, hafter⟩
        · rw [raw_after d c (.after (front ++ (lead ++ text ++ tail))), Bool.and_eq_true] at hafter
          exact ⟨hafter.1, _, _, before', rfl, hafter.2, htexts⟩
        · rw [List.append_cons]
          exact ⟨hblocks, hafter.append_left _⟩

/-- The construct that an opener begins is markup of its sort or text. -/
theorem kind_locate (markup : Markup) (body : List Char) :
    (d.locate markup body).1.kind = markup.kind ∨
      (d.locate markup body).1.kind = .fixed ∧ markup ≠ .note := by
  rcases hlocate : d.locate markup body with ⟨c, rest⟩
  rcases Dialect.locate_cases hlocate with ⟨content, rfl, -⟩ | ⟨rfl, rfl, -⟩ | ⟨content, hm, rfl, -⟩
  · exact .inl rfl
  · exact .inl rfl
  · exact .inr ⟨rfl, hm⟩

/-- The opener of `markup` stands where `t` begins, and `rest` is what follows it. -/
def Token.OpensWith (d : Dialect) (source : List Char) (t : Token) (markup : Markup)
    (rest : List Char) : Prop :=
  (t.kind = markup.kind ∨ t.kind = .fixed ∧ markup ≠ .note) ∧
    ∃ front, front ++ (d.opener markup ++ rest) = source ∧ utf8Size front = t.span.start

/-- Where a dialect asks for boundaries, the opener at the front of every piece of markup, and of
every text that began as one, stands before a boundary. The one exception is the tag that ends a raw
block: it is found by its name, and what follows its opener is not asked for. -/
theorem boundary_after_opener (hrequired : d.settings.legacy.boundaryRequired = true)
    {source : List Char} {before after : List Token} {t : Token}
    (htokens : tokenize d source = before ++ t :: after) (ht : t.isText = false) :
    ∃ markup rest, t.OpensWith d source markup rest ∧
      (d.boundary rest.head? = true ∨
        d.settings.rawBlocks = true ∧ AfterRawTag before ∧ markup = .tag ∧
          d.isEndRaw rest = true) := by
  obtain ⟨read, markup, body, raw, hsource, rfl, hopens, hraw⟩ :=
    (reads_tokenize d source).exists_opening htokens ht
  refine ⟨markup, body, ⟨kind_locate markup body, read, hsource, by simp⟩, ?_⟩
  cases raw with
  | false =>
    have hhere : d.openingHere? (d.opener markup ++ body) = some markup := hopens
    rw [Dialect.openingHere?_eq_some_iff, Dialect.isSome_afterOpener?_iff] at hhere
    obtain ⟨rest, hrest, haccepts⟩ := hhere
    obtain rfl := List.append_cancel_left hrest
    left
    simpa [Dialect.acceptsBefore, hrequired] using haccepts
  | true =>
    right
    obtain ⟨hmarkup, rest, hrest, hend⟩ := Dialect.exists_of_endRawHere? hopens
    rw [hmarkup] at hrest
    obtain rfl := List.append_cancel_left hrest
    rcases hraw rfl with ⟨hcarry, -⟩ | ⟨hblocks, hafter⟩
    · cases hcarry
    · exact ⟨hblocks, hafter, hmarkup, hend⟩

/-- The note that interrupts an expression has its boundary, and so has the expression. -/
theorem boundary_after_interrupting_note :
    let source := "\x7b\x7b a \x7b#b \x7b# c #\x7d".toList
    let interrupted := (Construct.degraded .expression " a \x7b#b ".toList).token .strict .start
    let note := (Construct.closed .note " c ".toList).token .strict
      (.after "\x7b\x7b a \x7b#b ".toList)
    Dialect.strict.settings.legacy.boundaryRequired = true ∧
    tokenize .strict source = [interrupted] ++ note :: [] ∧ note.isText = false ∧
    ∃ markup rest, note.OpensWith .strict source markup rest ∧
      (Dialect.strict.boundary rest.head? = true ∨
        Dialect.strict.settings.rawBlocks = true ∧ AfterRawTag [interrupted] ∧ markup = .tag ∧
          Dialect.strict.isEndRaw rest = true) := by
  intro source interrupted note
  have htokens : tokenize .strict source = [interrupted] ++ note :: [] := by decide +kernel
  exact ⟨rfl, htokens, rfl, boundary_after_opener rfl htokens rfl⟩

/-- The tag that ends a raw block is found before a letter, where its opener does not count. -/
theorem not_boundary_after_endRaw :
    let source := "{% raw %}x{%endraw%}".toList
    ¬ ∀ t ∈ tokenize .strict source, t.isText = false →
      ∃ markup rest, t.OpensWith .strict source markup rest ∧
        Dialect.strict.boundary rest.head? = true := by
  intro source h
  have hmem : (Construct.closed .tag "endraw".toList).token .strict (.after "{% raw %}x".toList)
      ∈ tokenize .strict source := by decide +kernel
  obtain ⟨markup, rest, ⟨hkind, front, hsplit, hstart⟩, hboundary⟩ := h _ hmem rfl
  obtain rfl : markup = .tag := by
    rcases hkind with hkind | ⟨hkind, -⟩
    · have htag : Markup.tag.kind = markup.kind := hkind
      exact (Markup.eq_of_kind_eq htag).symm
    · cases hkind
  have hopener := dropBytes_append front (Dialect.strict.opener .tag ++ rest)
  have hdrop : dropBytes 10 source = Dialect.strict.opener .tag ++ "endraw%\x7d".toList := by
    decide +kernel
  rw [hsplit, hstart, show ((Construct.closed .tag "endraw".toList).token .strict
    (.after "{% raw %}x".toList)).span.start = 10 by decide, hdrop] at hopener
  obtain rfl := List.append_cancel_left hopener
  revert hboundary
  decide +kernel

end TemplateLexer
