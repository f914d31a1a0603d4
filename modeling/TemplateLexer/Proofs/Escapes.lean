import TemplateLexer.Proofs.Replacement

/-!
# Escaped characters

In a body the character after an escape character is in the content, whatever it is. So another
character can take its place: the body ends where it did, what was read before is the same, and what
follows is read in the same way. One thing looks at the content without a regard for escapes: an
escaped dash or plus at its end is taken for a whitespace marker, and then flags and the text behind
may change (`not_inert_escaped_dash`).

* `readBody_escaped`: a body with another escaped character.
* `flags_escaped_iff`: when its markers are the same.
* `tokenize_escaped`: the tokens of a source with another escaped character.
-/

namespace TemplateLexer

/-- Whether the character after `text` is escaped in a body: before it stands an escape character
that is not escaped itself. -/
def Dialect.escapesNext (d : Dialect) (text : List Char) : Bool :=
  text.foldl (fun escaped c => !escaped && c == d.escape) false

/-! ## Bodies -/

namespace BodyState

variable {d : Dialect} {state : BodyState}

/-- Which characters of a body are escaped does not depend on quotes. -/
theorem escaped_after (d : Dialect) (state : BodyState) (text : List Char) :
    (state.after d text).escaped
      = text.foldl (fun escaped c => !escaped && c == d.escape) state.escaped := by
  induction text generalizing state with
  | nil => rfl
  | cons c text ih => rw [after_cons, ih, escaped_next, List.foldl_cons]

theorem next_of_escaped (h : state.escaped = true) (c : Char) :
    state.next d c = { state with escaped := false } := by
  rw [next, if_pos h]

theorem canEnd_of_escaped (h : state.escaped = true) (c : Char) : state.canEnd d c = false := by
  simp [canEnd, h]

end BodyState

theorem Dialect.exists_of_escapesNext {d : Dialect} {text : List Char}
    (h : d.escapesNext text = true) : ∃ front, text = front ++ [d.escape] := by
  rcases List.eq_nil_or_concat text with rfl | ⟨front, c, rfl⟩
  · cases h
  · rw [List.concat_eq_append, escapesNext, List.foldl_append, List.foldl_cons, List.foldl_nil,
      Bool.and_eq_true, beq_iff_eq] at h
    exact ⟨front, by rw [List.concat_eq_append, h.2]⟩

namespace Dialect.UsesStandard

variable {d : Dialect} (hd : d.UsesStandard)
include hd

theorem escape_eq : d.escape = '\\' := hd.escape

/-- No delimiter has the escape character. -/
theorem alike_escape (rest rest' : List Char) : d.Alike d.escape rest rest' := by
  refine alike_of_not_mem (fun markup => ?_) (fun markup => ?_) rest rest'
  · rw [hd.escape_eq, hd.opener_eq]
    cases markup <;> decide
  · rw [hd.escape_eq, hd.closer_eq]
    cases markup <;> decide

/-- A body ends where it did, if an escaped character in its content is replaced. -/
theorem readBody_escaped {markup : Markup} {pre post rest : List Char} {c : Char}
    (hescaped : d.escapesNext pre = true)
    (h : d.readBody markup {} (pre ++ c :: (post ++ d.closer markup ++ rest))
      = .closed (pre ++ c :: post) rest) (c' : Char) :
    d.readBody markup {} (pre ++ c' :: (post ++ d.closer markup ++ rest))
      = .closed (pre ++ c' :: post) rest := by
  have hstate : (BodyState.after d {} pre).escaped = true := by
    rw [BodyState.escaped_after]
    exact hescaped
  obtain ⟨front, rfl⟩ := exists_of_escapesNext hescaped
  generalize hmore : post ++ d.closer markup ++ rest = more at h ⊢
  rw [List.append_assoc, List.singleton_append] at h ⊢
  rcases (hd.alike_escape (c :: more) (c' :: more)).readBody_cases markup {} front with
    ⟨e, hread, -⟩ | ⟨hread, hread'⟩
  · -- The body does not end before the escape character: that is in its content.
    exfalso
    rw [h] at hread
    cases e with
    | closed content back =>
      have hlength := congrArg List.length (BodyEnd.closed.inj hread).2
      rw [← hmore] at hlength
      simp only [List.length_append, List.length_cons] at hlength
      omega
    | interrupted => cases hread
    | unterminated => cases hread
  · rw [h, readBody_cons_of_canEnd d (BodyState.canEnd_of_escaped hstate c),
      BodyState.next_of_escaped hstate] at hread
    rw [hread', readBody_cons_of_canEnd d (BodyState.canEnd_of_escaped hstate c'),
      BodyState.next_of_escaped hstate]
    cases hend : d.readBody markup { BodyState.after d {} (front ++ [d.escape]) with
        escaped := false } more with
    | closed content back =>
      rw [hend] at hread
      obtain ⟨hcontent, rfl⟩ := BodyEnd.closed.inj hread
      obtain rfl : post = content := by simpa using hcontent
      simp [BodyEnd.push, BodyEnd.behind]
    | interrupted content back =>
      rw [hend] at hread
      cases hread
    | unterminated content =>
      rw [hend] at hread
      cases hread

end Dialect.UsesStandard

/-! ## Constructs -/

/-- What is told of a piece of markup by its markers is the same with another escaped character,
unless that is the last one and one of the two is a marker. -/
theorem flags_escaped_iff {k c c' : Char} (hk : Marker.ofChar? k = none) {front post : List Char} :
    (Marked.read (front ++ k :: c' :: post)).flags = (Marked.read (front ++ k :: c :: post)).flags ↔
      post ≠ [] ∨ Marker.ofChar? c' = Marker.ofChar? c := by
  rw [Marked.read_append_cons hk, Marked.read_append_cons hk, Marked.flags_eq_iff,
    Marker.fst_takeBack, Marker.fst_takeBack]
  rcases List.eq_nil_or_concat post with rfl | ⟨post, b, rfl⟩
  · simp
  · rw [List.concat_eq_append, ← List.cons_append, ← List.cons_append, List.getLast?_concat,
      List.getLast?_concat]
    simp

theorem Construct.splitBefore_escaped (d : Dialect) (markup : Markup) {k c c' : Char}
    (hk : Marker.ofChar? k = none) (front post : List Char) (lineStart : Bool) (text : List Char) :
    (closed markup (front ++ k :: c' :: post)).splitBefore d lineStart text
      = (closed markup (front ++ k :: c :: post)).splitBefore d lineStart text := by
  simp only [splitBefore, Marked.read_append_cons hk, Marked.flags]

/-- A raw block begins after one of the two tags if it begins after the other: the name of a tag
with a backslash in its first word is not `raw`. -/
theorem Carry.after_escaped (d : Dialect) (markup : Markup) {front rest rest' : List Char}
    (hflags : (Marked.read (front ++ '\\' :: rest')).flags
      = (Marked.read (front ++ '\\' :: rest)).flags) :
    after d (.closed markup (front ++ '\\' :: rest'))
      = after d (.closed markup (front ++ '\\' :: rest)) := by
  have hletter : '\\' ∉ rawName := by decide
  have hname := TagParts.name_beq_append_cons rfl rfl hletter front rest' rest
  simp only [after, hflags, hname]

/-! ## Sources -/

variable {d : Dialect}

/-- Another character takes the place of an escaped one in an expression or a tag. The stream is the
same up to that token, and the token has the same kind, begins at the same place and ends behind the
same number of other bytes. Its flags are the same unless the character was the last one of the
content and one of the two is a marker; and if they are, what follows the token is the same at
another place. -/
theorem tokenize_escaped (hd : d.UsesStandard) {source pre post : List Char} {c : Char}
    {before after : List Token} {t : Token} {markup : Markup}
    (htokens : tokenize d source = before ++ t :: after) (hkind : t.kind = markup.kind)
    (hmarkup : markup ≠ .note) (hcontent : t.content = pre ++ c :: post)
    (hescaped : d.escapesNext pre = true) :
    ∃ front rest, source = front ++ c :: rest ∧
      utf8Size front = t.span.start + utf8Size (d.opener markup ++ pre) ∧
      ∀ c', ∃ t' after', tokenize d (front ++ c' :: rest) = before ++ t' :: after' ∧
        t'.kind = t.kind ∧ t'.content = pre ++ c' :: post ∧ t'.position = t.position ∧
        t'.span.start = t.span.start ∧
        t'.span.stop + c.utf8Size = t.span.stop + c'.utf8Size ∧
        (t'.flags = t.flags ↔ post ≠ [] ∨ Marker.ofChar? c' = Marker.ofChar? c) ∧
        (t'.flags = t.flags →
          List.Forall₂ (Token.Moved c.utf8Size c'.utf8Size) after after') := by
  obtain ⟨kept, hpre⟩ := Dialect.exists_of_escapesNext hescaped
  rw [hd.escape_eq] at hpre
  have hcons (c : Char) : pre ++ c :: post = kept ++ '\\' :: c :: post := by simp [hpre]
  have ht : t.isText = false := by
    rw [Token.isText, hkind, beq_eq_false_iff_ne.2 markup.kind_ne_fixed, Bool.false_and]
  have hchar : t.kind = .tag → ∃ k ∈ t.content, isEndRawChar k = false :=
    fun _ => ⟨'\\', by simp [hcontent, hpre], rfl⟩
  obtain ⟨front, markup', body, construct, rest, rfl, hopens, hlocate, rfl, hreplaced⟩ :=
    tokenize_replaced hd htokens ht hchar
  obtain ⟨content, rfl, rfl, rfl, hread⟩ :=
    Dialect.exists_closed_of_kind_eq hmarkup hlocate hkind
  obtain rfl : content = pre ++ c :: post := hcontent
  have hbody (c : Char) : pre ++ c :: post ++ d.closer markup' ++ rest
      = pre ++ c :: (post ++ d.closer markup' ++ rest) := by
    simp
  rw [hbody] at hread hopens
  refine ⟨front ++ (d.opener markup' ++ pre), post ++ d.closer markup' ++ rest, by simp, by simp,
    fun c' => ?_⟩
  let replaced : Construct := .closed markup' (pre ++ c' :: post)
  have hlocate' : d.locate markup' (pre ++ c' :: (post ++ d.closer markup' ++ rest))
      = (replaced, rest) :=
    (Dialect.locate_eq_closed_iff hmarkup).2 (hd.readBody_escaped hescaped hread c')
  -- The escape character at the latest decides that the opener counts.
  have hopens' : d.openingHere? (d.opener markup'
      ++ (pre ++ c' :: (post ++ d.closer markup' ++ rest))) = some markup' :=
    (hd.openingHere?_eq_of_ne_nil (by simp [hpre]) markup' _ _).trans hopens
  have hsplit (lineStart : Bool) (text : List Char) : replaced.splitBefore d lineStart text
      = (Construct.closed markup' (pre ++ c :: post)).splitBefore d lineStart text := by
    simp only [replaced, hcons]
    exact Construct.splitBefore_escaped d markup' rfl kept post lineStart text
  obtain ⟨after', htokens', hmoved⟩ := hreplaced _ replaced hopens' hlocate' hsplit
  rw [← List.append_assoc (d.opener markup'), ← List.append_assoc front] at htokens'
  have hflags : replaced.flags = (Construct.closed markup' (pre ++ c :: post)).flags ↔
      post ≠ [] ∨ Marker.ofChar? c' = Marker.ofChar? c := by
    simp only [replaced, Construct.flags, hcons]
    exact flags_escaped_iff rfl
  refine ⟨replaced.token d (.after front), after', htokens', rfl, rfl, rfl, rfl, ?_, hflags,
    fun hsame => hmoved _ _ ?_ ⟨?_, startsLineAfter_closed d front markup' _ _⟩⟩
  · simp only [Construct.stop_token, replaced, Construct.image, utf8Size_append, utf8Size_cons]
    omega
  · have hread := hsame
    simp only [replaced, Construct.flags_token, Construct.flags, hcons] at hread ⊢
    exact Carry.after_escaped d markup' hread
  · simp only [replaced, Construct.image, utf8Size_append, utf8Size_cons]
    omega

/-- Whatever is escaped here, the marker after it still removes the space behind the expression. -/
theorem tokenize_escaped_standard :
    let source := "λ\x7b\x7b a\\b-\x7d\x7d c".toList
    let text := Token.stamp .start .fixed ['λ'] ['λ'] {}
    let t := (Construct.closed .expression " a\\b-".toList).token .standard (.after ['λ'])
    let tail := Token.stamp (.after "λ\x7b\x7b a\\b-\x7d\x7d ".toList) .fixed ['c'] ['c'] {}
    Dialect.standard.UsesStandard ∧ Dialect.standard.escapesNext " a\\".toList = true ∧
    tokenize .standard source = [text] ++ t :: [tail] ∧
    ∃ front rest, source = front ++ 'b' :: rest ∧ utf8Size front = 7 ∧
      ∀ c', ∃ t' after', tokenize .standard (front ++ c' :: rest) = [text] ++ t' :: after' ∧
        t'.flags = { trimAfter := true } ∧ List.Forall₂ (Token.Moved 1 c'.utf8Size) [tail] after' := by
  intro source text t tail
  have hescaped : Dialect.standard.escapesNext " a\\".toList = true := by decide
  have htokens : tokenize .standard source = [text] ++ t :: [tail] := by decide +kernel
  refine ⟨Dialect.standard_usesStandard, hescaped, htokens, ?_⟩
  have hkind : t.kind = Markup.expression.kind := rfl
  have hcontent : t.content = " a\\".toList ++ 'b' :: ['-'] := rfl
  obtain ⟨front, rest, hsource, hsize, hreplaced⟩ := tokenize_escaped
    Dialect.standard_usesStandard htokens hkind (by decide) hcontent hescaped
  refine ⟨front, rest, hsource, hsize.trans (by decide +kernel), fun c' => ?_⟩
  obtain ⟨t', after', htokens', -, -, -, -, -, hflags, hmoved⟩ := hreplaced c'
  have hsame := hflags.2 (.inl (by decide))
  exact ⟨t', after', htokens', hsame, hmoved hsame⟩

/-- An escaped dash at the end of the content is taken for a marker, and the space behind the
expression is removed. A letter in its place is none, and the space stays. -/
theorem not_inert_escaped_dash :
    let source := "\x7b\x7b\\-\x7d\x7d a".toList
    let source' := "\x7b\x7b\\x\x7d\x7d a".toList
    Dialect.standard.escapesNext ['\\'] = true ∧
    (tokenize .standard source).map Token.content = [['\\'] ++ ['-'], ['a']] ∧
    (tokenize .standard source).map Token.flags = [{ trimAfter := true }, {}] ∧
    (tokenize .standard source).map (·.span.start) = [0, 7] ∧
    (tokenize .standard source').map Token.content = [['\\'] ++ ['x'], [' ', 'a']] ∧
    (tokenize .standard source').map Token.flags = [{}, {}] ∧
    (tokenize .standard source').map (·.span.start) = [0, 6] := by
  decide +kernel

end TemplateLexer
