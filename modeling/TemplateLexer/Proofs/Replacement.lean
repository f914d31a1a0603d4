import Mathlib.Data.List.Forall2
import TemplateLexer.Body.Step
import TemplateLexer.Proofs.Concatenation

/-!
# Other text inside a construct

Where the text after the opener of a construct is replaced, nothing of what was read before can
change, as long as the opener still counts: closers and `endraw` tags do not reach into another
opener, and whether an opener counts is decided by the character after it. What follows the
construct is read from its end on, and only the number of bytes before it is another one.

* `Dialect.Alike`: two texts that cannot be told from each other by what is read before them.
* `Reads.leadsTo`: a run goes through the tokens before a construct, whatever follows its opener.
* `Reads.exists_moved`: a run at another place.
* `tokenize_replaced`: the tokens of a source where one construct is replaced.
-/

namespace TemplateLexer

/-! ## Texts that look alike -/

theorem Construct.snd_ofBodyEnd_behind (markup : Markup) (front : List Char) (e : BodyEnd) :
    (ofBodyEnd markup (e.behind front)).2 = (ofBodyEnd markup e).2 := by
  cases e <;> rfl

/-- The text `k :: rest` cannot be told from `k :: rest'` by what stands before it: no closer
reaches that far, and the same openers count. -/
structure Dialect.Alike (d : Dialect) (k : Char) (rest rest' : List Char) : Prop where
  not_mem_closer : ∀ markup, k ∉ d.closer markup
  isSome_eq : ∀ markup front, (d.afterOpener? markup (front ++ k :: rest)).isSome
    = (d.afterOpener? markup (front ++ k :: rest')).isSome

namespace Dialect.Alike

variable {d : Dialect} {k : Char} {rest rest' : List Char} (h : d.Alike k rest rest')
include h

theorem openingHere?_eq (front : List Char) :
    d.openingHere? (front ++ k :: rest) = d.openingHere? (front ++ k :: rest') := by
  simp only [openingHere?, h.isSome_eq]

/-- A body ends before both texts or before none of them. -/
theorem endHere?_cases (markup : Markup) (state : BodyState) (front : List Char) :
    (∃ e : BodyEnd, d.endHere? markup state (front ++ k :: rest) = some (e.append (k :: rest)) ∧
      d.endHere? markup state (front ++ k :: rest') = some (e.append (k :: rest'))) ∨
    (d.endHere? markup state (front ++ k :: rest) = none ∧
      d.endHere? markup state (front ++ k :: rest') = none) := by
  have hhead : (front ++ k :: rest').head? = (front ++ k :: rest).head? := by
    cases front <;> rfl
  have hcloser := isPrefixOf?_append_cons (h.not_mem_closer markup) front
  unfold endHere?
  rw [hhead, hcloser, hcloser, h.isSome_eq]
  by_cases hend : (front ++ k :: rest).head?.any (state.canEnd d) = true
  · rw [if_pos hend, if_pos hend]
    cases (d.closer markup).isPrefixOf? front with
    | some back => exact .inl ⟨.closed [] back, rfl, rfl⟩
    | none =>
      by_cases hnote : (d.afterOpener? .note (front ++ k :: rest')).isSome = true
      · exact .inl ⟨.interrupted [] front, by simp [hnote, BodyEnd.append],
          by simp [hnote, BodyEnd.append]⟩
      · exact .inr ⟨by simp [hnote], by simp [hnote]⟩
  · exact .inr ⟨if_neg hend, if_neg hend⟩

/-- A body ends before both texts, or both are read in the same state. By induction on the text
before them. -/
theorem readBody_cases (markup : Markup) (state : BodyState) (front : List Char) :
    (∃ e : BodyEnd, d.readBody markup state (front ++ k :: rest) = e.append (k :: rest) ∧
      d.readBody markup state (front ++ k :: rest') = e.append (k :: rest')) ∨
    (d.readBody markup state (front ++ k :: rest)
        = (d.readBody markup (state.after d (front ++ [k])) rest).behind (front ++ [k]) ∧
      d.readBody markup state (front ++ k :: rest')
        = (d.readBody markup (state.after d (front ++ [k])) rest').behind (front ++ [k])) := by
  induction front generalizing state with
  | nil =>
    rw [List.nil_append, List.nil_append, readBody_cons, readBody_cons]
    rcases h.endHere?_cases markup state [] with ⟨e, he, he'⟩ | ⟨he, he'⟩
    · rw [List.nil_append] at he he'
      exact .inl ⟨e, by rw [he], by rw [he']⟩
    · rw [List.nil_append] at he he'
      exact .inr ⟨by simp [he], by simp [he']⟩
  | cons c front ih =>
    rw [List.cons_append, List.cons_append, readBody_cons, readBody_cons]
    rcases h.endHere?_cases markup state (c :: front) with ⟨e, he, he'⟩ | ⟨he, he'⟩
    · rw [List.cons_append] at he he'
      exact .inl ⟨e, by rw [he], by rw [he']⟩
    · rw [List.cons_append] at he he'
      rw [he, he']
      rcases ih (state.next d c) with ⟨e, hread, hread'⟩ | ⟨hread, hread'⟩
      · exact .inl ⟨e.push c, by simp [hread], by simp [hread']⟩
      · exact .inr ⟨by simp [hread], by simp [hread']⟩

/-- A construct that ends before one of the texts ends before the other one, too. -/
theorem locate {markup : Markup} {front mid : List Char} {c : Construct}
    (hlocate : d.locate markup (front ++ k :: rest) = (c, mid ++ k :: rest)) :
    d.locate markup (front ++ k :: rest') = (c, mid ++ k :: rest') := by
  by_cases hm : markup = .note
  · subst hm
    cases hsplit : splitAtFirst? (d.closer .note) (front ++ k :: rest) with
    | none =>
      rw [Dialect.locate, hsplit] at hlocate
      simp at hlocate
    | some split =>
      obtain ⟨content, back⟩ := split
      rw [Dialect.locate, hsplit] at hlocate
      obtain ⟨rfl, rfl⟩ := Prod.mk.inj hlocate
      have hsource := append_of_splitAtFirst? (d.closer_ne_nil .note) hsplit
      rw [← List.append_assoc, List.append_cancel_right_eq] at hsource
      subst hsource
      have hsplit' : splitAtFirst? (d.closer .note)
          (content ++ (d.closer .note ++ (mid ++ k :: rest')))
            = some (content, mid ++ k :: rest') := by
        refine splitAtFirst?_of_first (d.closer_ne_nil .note) fun back hback hne => ?_
        have hnot := not_prefix_of_splitAtFirst? (d.closer_ne_nil .note) hsplit hback hne
        rw [← List.append_assoc, ← List.append_assoc,
          prefix_append_cons_iff (h.not_mem_closer .note)] at hnot ⊢
        exact hnot
      rw [Dialect.locate, List.append_assoc, List.append_assoc, hsplit']
  · rw [d.locate_of_ne_note hm] at hlocate ⊢
    rcases h.readBody_cases markup {} front with ⟨e, hread, hread'⟩ | ⟨hread, -⟩
    · rw [hread] at hlocate
      rw [hread']
      cases e with
      | closed content back =>
        obtain ⟨rfl, hback⟩ := Prod.mk.inj hlocate
        rw [List.append_cancel_right hback]
        rfl
      | interrupted content back =>
        obtain ⟨rfl, hback⟩ := Prod.mk.inj hlocate
        rw [List.append_cancel_right hback]
        rfl
      | unterminated content =>
        obtain ⟨-, hback⟩ := Prod.mk.inj hlocate
        simp at hback
    · -- A body that ends behind the first character leaves less than the whole text.
      exfalso
      have hle := Construct.length_snd_ofBodyEnd_le (d.closer markup) markup
        (d.readBody markup (BodyState.after d {} (front ++ [k])) rest)
      rw [source_readBody, ← Construct.snd_ofBodyEnd_behind markup (front ++ [k]), ← hread, hlocate,
        List.length_append, List.length_cons] at hle
      omega

end Dialect.Alike

/-- Texts look alike behind a character that no delimiter has. -/
theorem Dialect.alike_of_not_mem {d : Dialect} {k : Char} (hopener : ∀ markup, k ∉ d.opener markup)
    (hcloser : ∀ markup, k ∉ d.closer markup) (rest rest' : List Char) : d.Alike k rest rest' where
  not_mem_closer := hcloser
  isSome_eq := by
    intro markup front
    have hfront := isPrefixOf?_append_cons (hopener markup) front
    rw [afterOpener?, afterOpener?, hfront, hfront]
    cases (d.opener markup).isPrefixOf? front with
    | none => rfl
    | some back =>
      have hhead : (back ++ k :: rest').head? = (back ++ k :: rest).head? := by
        cases back <;> rfl
      simp [Option.filter_some, hhead, apply_ite]

namespace Dialect.UsesStandard

variable {d : Dialect} (hd : d.UsesStandard)
include hd

theorem exists_opener_eq (markup : Markup) : ∃ b, d.opener markup = ['\x7b', b] := by
  rw [hd.opener_eq]
  cases markup <;> exact ⟨_, rfl⟩

theorem brace_not_mem_closer (markup : Markup) : '\x7b' ∉ d.closer markup := by
  rw [hd.closer_eq]
  cases markup <;> decide

/-- Texts that begin with the same opener look alike, if it counts in both. -/
theorem alike_of_openingHere? {markup : Markup} {b : Char} {body body' : List Char}
    (h : d.openingHere? ('\x7b' :: b :: body) = some markup)
    (h' : d.openingHere? ('\x7b' :: b :: body') = some markup) :
    d.Alike '\x7b' (b :: body) (b :: body') where
  not_mem_closer := hd.brace_not_mem_closer
  isSome_eq := by
    intro other front
    cases front with
    | nil =>
      have hopens {body : List Char} (h : d.openingHere? ('\x7b' :: b :: body) = some markup) :
          (d.afterOpener? other ('\x7b' :: b :: body)).isSome = true ↔ markup = other := by
        rw [← openingHere?_eq_some_iff, h, Option.some.injEq]
      rw [List.nil_append, List.nil_append, Bool.eq_iff_iff, hopens h, hopens h']
    | cons c front =>
      -- Two characters of this opener are enough for the other one and the character after it.
      have hdecided (body : List Char) :
          (d.afterOpener? other (c :: front ++ '\x7b' :: b :: body)).isSome
            = (d.afterOpener? other (c :: front ++ ['\x7b', b])).isSome := by
        have hlength : (d.opener other).length < (c :: front ++ ['\x7b', b]).length := by
          rw [hd.length_opener, List.length_append]
          simp
        rw [← isSome_afterOpener?_append hlength body, List.append_assoc]
        rfl
      rw [hdecided body, hdecided body']

theorem exists_alike {markup : Markup} {body body' : List Char}
    (h : d.openingHere? (d.opener markup ++ body) = some markup)
    (h' : d.openingHere? (d.opener markup ++ body') = some markup) :
    ∃ b, (∀ more, d.opener markup ++ more = '\x7b' :: b :: more) ∧
      d.Alike '\x7b' (b :: body) (b :: body') := by
  obtain ⟨b, hb⟩ := hd.exists_opener_eq markup
  rw [hb] at h h' ⊢
  exact ⟨b, fun _ => rfl, hd.alike_of_openingHere? h h'⟩

/-- Whether an opener counts is decided by the first character after it. -/
theorem openingHere?_eq_of_ne_nil {front : List Char} (hne : front ≠ []) (markup : Markup)
    (more more' : List Char) : d.openingHere? (d.opener markup ++ (front ++ more))
      = d.openingHere? (d.opener markup ++ (front ++ more')) := by
  have hdecided (more : List Char) : d.openingHere? (d.opener markup ++ (front ++ more))
      = d.openingHere? (d.opener markup ++ front) := by
    have hpos := List.length_pos_iff.2 hne
    rw [← List.append_assoc]
    refine hd.openingHere?_append ?_ more
    rw [List.length_append, hd.length_opener]
    omega
  rw [hdecided more, hdecided more']

/-- An `endraw` tag does not reach into another opener. -/
theorem endRawHere?_append_cons {front : List Char} (hne : front ≠ []) (rest rest' : List Char) :
    d.endRawHere? (front ++ '\x7b' :: rest) = d.endRawHere? (front ++ '\x7b' :: rest') := by
  have hsame (back rest : List Char) :
      d.isEndRaw (back ++ '\x7b' :: rest) = d.isEndRaw (back ++ ['\x7b']) := by
    rw [List.append_cons]
    exact isEndRaw_append_of_mem (List.mem_append_right back List.mem_cons_self) rfl
      (hd.brace_not_mem_closer .tag) rest
  unfold endRawHere?
  rw [hd.opener_tag]
  match front with
  | [] => exact absurd rfl hne
  | [c] => simp [isPrefixOf?_cons_cons]
  | c :: c' :: front =>
    have hlength : ['\x7b', '%'].length ≤ (c :: c' :: front).length := by simp
    rw [isPrefixOf?_append_of_length_le hlength, isPrefixOf?_append_of_length_le hlength]
    cases List.isPrefixOf? ['\x7b', '%'] (c :: c' :: front) with
    | none => rfl
    | some back => simp only [Option.map_some, Option.any_some, hsame back rest, hsame back rest']

/-- What opens before another opener does not depend on what follows that. -/
theorem opensHere?_eq {rest rest' : List Char} (h : d.Alike '\x7b' rest rest') {front : List Char}
    (hne : front ≠ []) (raw : Bool) :
    d.opensHere? raw (front ++ '\x7b' :: rest) = d.opensHere? raw (front ++ '\x7b' :: rest') := by
  cases raw with
  | false => exact h.openingHere?_eq front
  | true => exact hd.endRawHere?_append_cons hne rest rest'

/-- The next opening stays where it is, if its opener still opens. -/
theorem nextOpening?_eq_of_alike {rest rest' : List Char} (h : d.Alike '\x7b' rest rest')
    {raw : Bool} {before mid body body' : List Char} {markup : Markup}
    (hopening : d.nextOpening? raw (before ++ (d.opener markup ++ body))
      = some ⟨before, markup, body⟩)
    (hbody : d.opener markup ++ body = mid ++ '\x7b' :: rest)
    (hbody' : d.opener markup ++ body' = mid ++ '\x7b' :: rest')
    (hopens : d.opensHere? raw (d.opener markup ++ body') = some markup) :
    d.nextOpening? raw (before ++ (d.opener markup ++ body')) = some ⟨before, markup, body'⟩ := by
  obtain ⟨-, hfirst⟩ := d.nextOpening?_eq_some_iff.1 hopening
  refine d.nextOpening?_eq_some_iff.2 ⟨hopens, fun back hback hne => ?_⟩
  have hnone := hfirst back hback hne
  rw [hbody, ← List.append_assoc] at hnone
  rw [hbody', ← List.append_assoc, ← hd.opensHere?_eq h (by simp [hne]), hnone]

end Dialect.UsesStandard

/-! ## Runs up to a construct -/

/-- Behind `front` a run leads through the tokens `before` to the opener of `markup` after `mid`. It
goes on with whatever construct the opener begins, as long as that opens there and removes the same
white space before it as `c` does. -/
def Dialect.LeadsTo (d : Dialect) (carry : Carry) (front mid : List Char) (before : List Token)
    (markup : Markup) (c : Construct) : Prop :=
  ∀ body c' rest after, d.openingHere? (d.opener markup ++ body) = some markup →
    d.locate markup body = (c', rest) →
    (∀ lineStart text, c'.splitBefore d lineStart text = c.splitBefore d lineStart text) →
    Reads d (.after d c') (front ++ mid ++ c'.image d) rest after →
    Reads d carry front (mid ++ (d.opener markup ++ body))
      (before ++ c'.token d (.after (front ++ mid)) :: after)

variable {d : Dialect} {carry : Carry} {front rest : List Char} {tokens before after : List Token}
  {t : Token}

/-- A tag with a character that no `endraw` tag has is not found as the end of a raw block. -/
theorem Dialect.UsesStandard.raw_eq_false (hd : d.UsesStandard) {raw : Bool} {markup : Markup}
    {body : List Char} (hopens : d.opensHere? raw (d.opener markup ++ body) = some markup)
    {c : Construct} (hlocate : d.locate markup body = (c, rest))
    (hchar : c.kind = .tag → ∃ k ∈ c.content d, isEndRawChar k = false) : raw = false := by
  cases raw with
  | false => rfl
  | true =>
    exfalso
    obtain ⟨rfl, body', hbody, hend⟩ := exists_of_endRawHere? hopens
    obtain rfl := List.append_cancel_left hbody
    obtain ⟨before, front, back, after, rest', hfront, hback, -, rfl⟩ := d.isEndRaw_iff.1 hend
    rw [locate_endRawContent hd.endRawApart hfront hback] at hlocate
    obtain ⟨rfl, -⟩ := Prod.mk.inj hlocate
    obtain ⟨k, hk, hk'⟩ := hchar rfl
    rw [isEndRawChar_of_mem hfront hback hk] at hk'
    cases hk'

/-- A step of a run is one with other text behind the opener of its construct, too, as long as a
construct opens there that removes the same white space before it. -/
theorem Reads.next_of_alike (hd : d.UsesStandard) {z z' : List Char} (h : d.Alike '\x7b' z z')
    {lead text tail body body' : List Char} {markup : Markup} {c : Construct} (mid : List Char)
    (lead_split : carry.trim.split (lead ++ text ++ tail ++ (d.opener markup ++ body))
      = (lead, text ++ tail ++ (d.opener markup ++ body)))
    (opening : d.nextOpening? carry.raw (text ++ tail ++ (d.opener markup ++ body))
      = some ⟨text ++ tail, markup, body⟩)
    (hbody : d.opener markup ++ body = mid ++ '\x7b' :: z)
    (hbody' : d.opener markup ++ body' = mid ++ '\x7b' :: z')
    (hopens : d.opensHere? carry.raw (d.opener markup ++ body') = some markup)
    (located : d.locate markup body' = (c, rest))
    (tail_split : c.splitBefore d (startsLineAfter true (front ++ lead)) (text ++ tail)
      = (text, tail))
    (reads : Reads d (.after d c) (front ++ (lead ++ text ++ tail) ++ c.image d) rest tokens) :
    Reads d carry front (lead ++ text ++ tail ++ (d.opener markup ++ body'))
      ((Token.ofText? (.after (front ++ lead)) text (carry.textFlags false)).toList
        ++ c.token d (.after (front ++ (lead ++ text ++ tail))) :: tokens) := by
  have himage := d.image_append_of_locate_eq located
  have hopening := hd.nextOpening?_eq_of_alike h opening hbody hbody' hopens
  have hlead : carry.trim.split (lead ++ (text ++ tail ++ mid ++ '\x7b' :: z'))
      = (lead, text ++ tail ++ mid ++ '\x7b' :: z') :=
    carry.trim.split_cons rfl (by simpa [hbody] using lead_split) z'
  have hsource : text ++ tail ++ mid ++ '\x7b' :: z' = text ++ tail ++ c.image d ++ rest := by
    rw [List.append_assoc, ← hbody', ← himage, ← List.append_assoc]
  rw [hsource] at hlead
  rw [← himage, ← List.append_assoc] at hopening ⊢
  exact .next (by simpa using hlead) hopening located tail_split (by simpa using reads)

/-- A run leads to each of its constructs, whatever follows the opener of the construct. By
induction on the run. -/
theorem Reads.leadsTo (hd : d.UsesStandard) (h : Reads d carry front rest tokens)
    (htokens : tokens = before ++ t :: after) (ht : t.isText = false)
    (hchar : t.kind = .tag → ∃ k ∈ t.content, isEndRawChar k = false) :
    ∃ mid markup body c rest', rest = mid ++ (d.opener markup ++ body) ∧
      d.openingHere? (d.opener markup ++ body) = some markup ∧
      d.locate markup body = (c, rest') ∧ t = c.token d (.after (front ++ mid)) ∧
      Reads d (.after d c) (front ++ mid ++ c.image d) rest' after ∧
      d.LeadsTo carry front mid before markup c := by
  induction h generalizing before with
  | @last carry front lead text lead_split no_opening =>
    have htext := isText_of_mem_ofText? (htokens ▸ List.mem_append_right before List.mem_cons_self)
    rw [ht] at htext
    cases htext
  | @next carry front lead text tail markup body c rest tokens lead_split opening located tail_split
      reads ih =>
    have hkept : ∀ t ∈ (Token.ofText? (.after (front ++ lead)) text (carry.textFlags false)).toList,
        t.isText = true := fun t ht => isText_of_mem_ofText? ht
    have himage := d.image_append_of_locate_eq located
    rw [List.append_assoc _ (c.image d), List.append_assoc _ (c.image d), himage] at lead_split
    rw [List.append_assoc _ (c.image d), himage] at opening
    have hopens := (d.nextOpening?_eq_some_iff.1 opening).1
    rcases construct_cases_of_append_eq htokens hkept ht with
      ⟨rfl, rfl, rfl⟩ | ⟨before', rfl, hmore⟩
    · have hraw := hd.raw_eq_false hopens located hchar
      rw [hraw] at hopens
      refine ⟨lead ++ text ++ tail, markup, body, c, rest, ?_, hopens, located, rfl, ?_, ?_⟩
      · rw [← himage, List.append_assoc _ (c.image d)]
      · simpa using reads
      intro body' c' rest' after' hopens' hlocate' hsplit hreads'
      obtain ⟨b, hbody, halike⟩ := hd.exists_alike hopens hopens'
      exact .next_of_alike hd halike [] lead_split opening (hbody body) (hbody body')
        (by rwa [hraw]) hlocate' ((hsplit _ _).trans tail_split) hreads'
    · obtain ⟨mid, markup', body₁, c₁, rest₁, rfl, hopens₁, hlocate₁, ht', hreads₁, hleads⟩ :=
        ih hmore
      refine ⟨lead ++ text ++ tail ++ c.image d ++ mid, markup', body₁, c₁, rest₁, by simp, hopens₁,
        hlocate₁, by simpa using ht', by simpa using hreads₁, ?_⟩
      intro body₂ c₂ rest₂ after₂ hopens₂ hlocate₂ hsplit₂ hreads₂
      have hrest := hleads body₂ c₂ rest₂ after₂ hopens₂ hlocate₂ hsplit₂ (by simpa using hreads₂)
      obtain ⟨b, hbody, halike⟩ := hd.exists_alike hopens₁ hopens₂
      -- This construct ends before the other opener.
      obtain ⟨back, hback, rfl⟩ := Dialect.exists_image_eq_of_locate located
      have hsource (body : List Char) :
          d.opener markup ++ (back ++ (mid ++ (d.opener markup' ++ body)))
            = d.opener markup ++ back ++ mid ++ '\x7b' :: b :: body := by
        rw [hbody]
        simp only [List.append_assoc]
      rw [hbody, ← List.append_assoc] at located
      have hlocated := halike.locate located
      rw [hsource, hd.opensHere?_eq halike (by simp [d.opener_ne_nil]), ← hsource] at hopens
      rw [List.append_assoc, ← hbody] at hlocated
      have hnext := Reads.next_of_alike hd halike _ lead_split opening (hsource body₁)
        (hsource body₂) hopens hlocated tail_split (by simpa using hrest)
      simpa [hback] using hnext

/-! ## Runs at another place -/

/-- The token `u` is the token `t` in a source where `newSize` bytes stand before it in place of
`oldSize`. -/
structure Token.Moved (oldSize newSize : Nat) (t u : Token) : Prop where
  kind : u.kind = t.kind
  image : u.image = t.image
  content : u.content = t.content
  flags : u.flags = t.flags
  start : u.span.start + oldSize = t.span.start + newSize
  stop : u.span.stop + oldSize = t.span.stop + newSize

/-- Before a run `front'` can stand in place of `front`: it has `newSize` bytes where that has
`oldSize`, and a line starts behind it if one starts behind that. -/
structure Replaces (oldSize newSize : Nat) (front front' : List Char) : Prop where
  size : utf8Size front' + oldSize = utf8Size front + newSize
  line : startsLineAfter true front' = startsLineAfter true front

section Moved

variable {oldSize newSize : Nat} {front' : List Char}

theorem Replaces.append (h : Replaces oldSize newSize front front') (text : List Char) :
    Replaces oldSize newSize (front ++ text) (front' ++ text) where
  size := by
    have := h.size
    simp only [utf8Size_append]
    omega
  line := by rw [← startsLineAfter_append, ← startsLineAfter_append, h.line]

theorem Token.moved_stamp (h : Replaces oldSize newSize front front') (kind : Kind)
    (image content : List Char) (flags : Flags) :
    (stamp (.after front) kind image content flags).Moved oldSize newSize
      (stamp (.after front') kind image content flags) where
  kind := rfl
  image := rfl
  content := rfl
  flags := rfl
  start := by simpa [stamp] using h.size
  stop := by
    have := h.size
    simp only [stamp, Mark.offset_after]
    omega

theorem Token.moved_ofText? (h : Replaces oldSize newSize front front') (text : List Char)
    (flags : Flags) :
    List.Forall₂ (Token.Moved oldSize newSize) (ofText? (.after front) text flags).toList
      (ofText? (.after front') text flags).toList := by
  unfold ofText?
  split
  · exact .nil
  · exact .cons (moved_stamp h .fixed text text flags) .nil

/-- Nothing of what was read before matters to a run but whether a line starts behind it. By
induction on the run. -/
theorem Reads.exists_moved (h : Reads d carry front rest tokens)
    (hfront : Replaces oldSize newSize front front') :
    ∃ tokens', Reads d carry front' rest tokens' ∧
      List.Forall₂ (Token.Moved oldSize newSize) tokens tokens' := by
  induction h generalizing front' with
  | @last carry front lead text lead_split no_opening =>
    exact ⟨_, .last lead_split no_opening, Token.moved_ofText? (hfront.append lead) text _⟩
  | @next carry front lead text tail markup body c rest tokens lead_split opening located tail_split
      reads ih =>
    obtain ⟨tokens', hreads, hmoved⟩ := ih (hfront.append (lead ++ text ++ tail ++ c.image d))
    rw [← (hfront.append lead).line] at tail_split
    refine ⟨_, .next lead_split opening located tail_split hreads, ?_⟩
    exact List.rel_append (Token.moved_ofText? (hfront.append lead) text _)
      (.cons (Token.moved_stamp (hfront.append _) _ _ _ _) hmoved)

end Moved

/-- What a construct of a source is may be replaced by another construct behind the same opener, if
that removes the same white space before it. The tokens before it stay the same. If both constructs
leave the same behind, the tokens after it stay the same at another place. -/
theorem tokenize_replaced (hd : d.UsesStandard) {source : List Char}
    (htokens : tokenize d source = before ++ t :: after) (ht : t.isText = false)
    (hchar : t.kind = .tag → ∃ k ∈ t.content, isEndRawChar k = false) :
    ∃ front markup body c rest, source = front ++ (d.opener markup ++ body) ∧
      d.openingHere? (d.opener markup ++ body) = some markup ∧
      d.locate markup body = (c, rest) ∧ t = c.token d (.after front) ∧
      ∀ body' c', d.openingHere? (d.opener markup ++ body') = some markup →
        d.locate markup body' = (c', rest) →
        (∀ lineStart text, c'.splitBefore d lineStart text = c.splitBefore d lineStart text) →
        ∃ after', tokenize d (front ++ (d.opener markup ++ body'))
            = before ++ c'.token d (.after front) :: after' ∧
          ∀ oldSize newSize, Carry.after d c' = .after d c →
            Replaces oldSize newSize (front ++ c.image d) (front ++ c'.image d) →
            List.Forall₂ (Token.Moved oldSize newSize) after after' := by
  obtain ⟨front, markup, body, c, rest, rfl, hopens, hlocate, rfl, hreads, hleads⟩ :=
    (reads_tokenize d source).leadsTo hd htokens ht hchar
  refine ⟨front, markup, body, c, rest, rfl, hopens, hlocate, rfl, ?_⟩
  intro body' c' hopens' hlocate' hsplit
  have hreads' := reads_tokenizeFrom d (.after d c') (front ++ c'.image d) rest
  have hrun := hleads body' c' rest _ hopens' hlocate' hsplit hreads'
  refine ⟨_, hrun.eq_tokenizeFrom.symm, fun oldSize newSize hcarry hfront => ?_⟩
  obtain ⟨after', hafter', hmoved⟩ := hreads.exists_moved hfront
  rw [hcarry, ← hafter'.eq_tokenizeFrom]
  exact hmoved

/-! ## Other content between the same delimiters -/

/-- Whether a line starts behind a closed piece of markup is decided by its closer. -/
theorem startsLineAfter_closed (d : Dialect) (front : List Char) (markup : Markup)
    (content content' : List Char) :
    startsLineAfter true (front ++ (Construct.closed markup content').image d)
      = startsLineAfter true (front ++ (Construct.closed markup content).image d) := by
  have hlast (content : List Char) :
      (front ++ (Construct.closed markup content).image d).getLast?
        = (d.closer markup).getLast? := by
    rw [Construct.image, ← List.append_assoc,
      List.getLast?_append_of_ne_nil _ (d.closer_ne_nil markup)]
  rw [startsLineAfter, startsLineAfter, hlast, hlast]

/-- White space before markup is removed as the flags of its content say. -/
theorem Construct.splitBefore_closed_eq (d : Dialect) (markup : Markup)
    {content content' : List Char} (h : (Marked.read content').flags = (Marked.read content).flags)
    (lineStart : Bool) (text : List Char) : (closed markup content').splitBefore d lineStart text
      = (closed markup content).splitBefore d lineStart text := by
  simp only [splitBefore, h]

/-- Markup leaves the same behind with other content, if the markers are the same, and if both or
none of two tags begin a raw block. -/
theorem Carry.after_closed_eq (d : Dialect) (markup : Markup) {content content' : List Char}
    (hflags : (Marked.read content').flags = (Marked.read content).flags)
    (hname : markup = .tag → ((TagParts.read content').name == rawName)
      = ((TagParts.read content).name == rawName)) :
    Carry.after d (.closed markup content') = Carry.after d (.closed markup content) := by
  simp only [Carry.after, hflags]
  cases markup with
  | tag => simp only [hname rfl]
  | expression => rfl
  | note => rfl

/-- The token `u` is the token `t` with `newSize` bytes of content in place of `oldSize`. -/
structure Token.Resized (oldSize newSize : Nat) (t u : Token) : Prop where
  kind : u.kind = t.kind
  flags : u.flags = t.flags
  position : u.position = t.position
  start : u.span.start = t.span.start
  stop : u.span.stop + oldSize = t.span.stop + newSize

theorem Construct.resized_token (d : Dialect) (m : Mark) (markup : Markup)
    {content content' : List Char} {oldSize newSize : Nat}
    (hflags : (Marked.read content').flags = (Marked.read content).flags)
    (hsize : utf8Size content' + oldSize = utf8Size content + newSize) :
    ((closed markup content).token d m).Resized oldSize newSize
      ((closed markup content').token d m) where
  kind := rfl
  flags := hflags
  position := rfl
  start := rfl
  stop := by
    simp only [stop_token, image, utf8Size_append]
    omega

/-- The content of a closed piece of markup may be replaced, if its opener still counts, if it still
ends at this closer, and if it has the same markers. The stream is the same up to that token; the
tokens after it are the same at another place, unless only one of two tags begins a raw block. -/
theorem tokenize_content_replaced (hd : d.UsesStandard) {source : List Char} {markup : Markup}
    (htokens : tokenize d source = before ++ t :: after) (hkind : t.kind = markup.kind)
    (hclosed : markup = .note → t.isUnterminated = false)
    (hchar : t.kind = .tag → ∃ k ∈ t.content, isEndRawChar k = false) :
    ∃ front rest, t = (Construct.closed markup t.content).token d (.after front) ∧
      source = front ++ (d.opener markup ++ (t.content ++ (d.closer markup ++ rest))) ∧
      d.openingHere? (d.opener markup ++ (t.content ++ (d.closer markup ++ rest))) = some markup ∧
      d.locate markup (t.content ++ (d.closer markup ++ rest))
        = (.closed markup t.content, rest) ∧
      ∀ content,
        d.openingHere? (d.opener markup ++ (content ++ (d.closer markup ++ rest))) = some markup →
        d.locate markup (content ++ (d.closer markup ++ rest)) = (.closed markup content, rest) →
        (Marked.read content).flags = (Marked.read t.content).flags →
        (markup = .tag → ((TagParts.read content).name == rawName)
          = ((TagParts.read t.content).name == rawName)) →
        ∃ after', tokenize d (front ++ (d.opener markup ++ (content ++ (d.closer markup ++ rest))))
            = before ++ (Construct.closed markup content).token d (.after front) :: after' ∧
          ∀ oldSize newSize, utf8Size content + oldSize = utf8Size t.content + newSize →
            List.Forall₂ (Token.Moved oldSize newSize) after after' := by
  have ht : t.isText = false := by
    rw [Token.isText, hkind, beq_eq_false_iff_ne.2 markup.kind_ne_fixed, Bool.false_and]
  obtain ⟨front, markup', body, c, rest, rfl, hopens, hlocate, rfl, hreplaced⟩ :=
    tokenize_replaced hd htokens ht hchar
  obtain ⟨content, rfl, rfl, rfl⟩ := Dialect.exists_closed_of_flags hlocate hkind hclosed
  refine ⟨front, rest, rfl, rfl, hopens, hlocate, ?_⟩
  intro content' hopens' hlocate' hflags hname
  have hsplit := Construct.splitBefore_closed_eq d markup' hflags
  obtain ⟨after', htokens', hmoved⟩ := hreplaced _ _ hopens' hlocate' hsplit
  refine ⟨after', htokens', fun oldSize newSize hsize => ?_⟩
  have hsize' : utf8Size content' + oldSize = utf8Size content + newSize := hsize
  refine hmoved oldSize newSize (Carry.after_closed_eq d markup' hflags hname)
    ⟨?_, startsLineAfter_closed d front markup' content content'⟩
  simp only [Construct.image, utf8Size_append]
  omega

end TemplateLexer
