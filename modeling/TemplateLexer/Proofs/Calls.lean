import TemplateLexer.Proofs.Offsets

/-!
# Calls of a scanner

A scanner is an iterator over the tokens of its source: `Scanner.Leaves` says which of them it has
still to give. Between two calls it holds one token at most. That is the construct behind a text
which it has just given, so everything up to the end of the construct has been read. At the end of
the source there may be white space to remove and no token, and then it is the call without a token
that reads it.

* `Scanner.Leaves.gives`: a call gives the first token that is left, and what it holds and how far
  it reads are known from the token and the one behind it.
* `Scanner.Leaves.calls`: any number of calls give as many of the tokens that are left.
* `OffsetScanner.next_after_calls`: the same of a source in memory, from its beginning.
-/

namespace TemplateLexer

/-- Whether a token is text that was read to its end. -/
def Token.isEndedText (t : Token) : Bool := t.kind == .fixed && !t.isUnterminated

/-- A construct is none: what is text in it has no end. -/
theorem Construct.isEndedText_token (d : Dialect) (m : Mark) (c : Construct) :
    (c.token d m).isEndedText = false := by
  cases c with
  | closed markup content => cases markup <;> rfl
  | openNote content => rfl
  | degraded markup content => rfl

/-- A text before a construct is one. -/
theorem Token.isEndedText_stamp (m : Mark) (text : List Char) (carry : Carry) :
    (Token.stamp m .fixed text text (carry.textFlags false)).isEndedText = true := by
  unfold Carry.textFlags
  cases carry.raw <;> rfl

namespace Scanner

variable {d : Dialect} {source : List Char}

/-! ## One call -/

/-- At the end of a source the last text is given, if there is one. -/
theorem next_of_last {carry : Carry} {lead text : List Char}
    (hlead : carry.trim.split (lead ++ text) = (lead, text))
    (hopening : d.nextOpening? carry.raw text = none) (front : List Char) :
    ({ carry, mark := .after front, rest := lead ++ text } : Scanner).next d
      = (Token.ofText? (.after (front ++ lead)) text (carry.textFlags true),
          { mark := .after (front ++ (lead ++ text)), rest := [] }) := by
  dsimp only [next]
  rw [Segment.read_of_none hlead hopening]
  simp [Segment.textToken?, Segment.constructToken?, Segment.carryAfter, Segment.markAfter,
    Segment.image, Mark.after_append]

/-- Before that, a text and the construct that ends it are read. -/
theorem next_of_construct {carry : Carry} {front lead text tail body rest : List Char}
    {markup : Markup} {c : Construct}
    (hlead : carry.trim.split (lead ++ text ++ tail ++ c.image d ++ rest)
      = (lead, text ++ tail ++ c.image d ++ rest))
    (hopening : d.nextOpening? carry.raw (text ++ tail ++ c.image d ++ rest)
      = some ⟨text ++ tail, markup, body⟩)
    (hlocate : d.locate markup body = (c, rest))
    (htail : c.splitBefore d (startsLineAfter true (front ++ lead)) (text ++ tail) = (text, tail)) :
    ({ carry, mark := .after front, rest := lead ++ text ++ tail ++ c.image d ++ rest }
        : Scanner).next d
      = let text? := Token.ofText? (.after (front ++ lead)) text (carry.textFlags false)
        let construct := c.token d (.after (front ++ (lead ++ text ++ tail)))
        (text?.or construct,
          { carry := .after d c
            mark := .after (front ++ (lead ++ text ++ tail ++ c.image d))
            rest
            held := text?.bind fun _ => construct }) := by
  dsimp only [next]
  rw [Segment.read_after hlead hopening hlocate htail]
  simp [Segment.textToken?, Segment.constructToken?, Segment.carryAfter, Segment.markAfter,
    Segment.image, Mark.after_append]

/-- A held token is given, and nothing is read. -/
theorem offset_next_of_held (d : Dialect) {s : Scanner} (h : s.held.isSome = true) :
    (s.next d).2.offset = s.offset := by
  obtain ⟨t, ht⟩ := Option.isSome_iff_exists.1 h
  simp [next, ht, offset]

/-! ## Any number of calls -/

/-- The tokens of `source` that a scanner has not given yet. -/
inductive Leaves (d : Dialect) (source : List Char) : Scanner → List Token → Prop
  /-- None of them has been read. -/
  | reading {carry front rest tokens} (source_eq : front ++ rest = source)
      (reads : Reads d carry front rest tokens) :
      Leaves d source { carry, mark := .after front, rest } tokens
  /-- The first of them is a construct that has just been read. -/
  | holding {carry front rest t tokens} (source_eq : front ++ rest = source)
      (reads : Reads d carry front rest tokens)
      (stop_eq : t.span.stop = utf8Size front) (not_text : t.isEndedText = false) :
      Leaves d source { carry, mark := .after front, rest, held := some t } (t :: tokens)

theorem leaves_ofSource (d : Dialect) (source : List Char) :
    Leaves d source (ofSource source) (tokenize d source) :=
  .reading rfl (reads_tokenize d source)

/-- What a call gives and the scanner after it, where `tokens` of `source` were left. -/
structure Gives (d : Dialect) (source : List Char) (tokens : List Token) (t? : Option Token)
    (s : Scanner) : Prop where
  /-- The first token is given. -/
  given : t? = tokens.head?
  leaves : Leaves d source s tokens.tail
  /-- The token behind it is held if it is the construct behind a text. -/
  held : s.held = tokens.head?.bind fun t => if t.isEndedText then tokens[1]? else none
  /-- Everything has been read up to the end of the last token that was, and without a token
  everything. -/
  offset : s.offset = (tokens.head?.map fun t => (s.held.getD t).span.stop).getD (utf8Size source)

/-- Where everything has been read, no token is left. -/
theorem leaves_finished (d : Dialect) (source : List Char) :
    Leaves d source { mark := .after source, rest := [] } [] :=
  have reads : Reads d {} source ([] ++ []) [] :=
    .last (Carry.split_empty ([] ++ [])) (d.nextOpening?_nil false)
  .reading (List.append_nil source) reads

/-- The last segment. -/
theorem gives_of_last {carry : Carry} {front lead text : List Char}
    (source_eq : front ++ (lead ++ text) = source) :
    let text? := Token.ofText? (.after (front ++ lead)) text (carry.textFlags true)
    Gives d source text?.toList text? { mark := .after source, rest := [] } := by
  intro text?
  by_cases htext : text = []
  · have htoken : text? = none := if_pos htext
    rw [htoken]
    exact {
      given := rfl
      leaves := leaves_finished d source
      held := rfl
      offset := Mark.offset_after source }
  · have htoken : text?
        = some (.stamp (.after (front ++ lead)) .fixed text text (carry.textFlags true)) :=
      if_neg htext
    rw [htoken]
    exact {
      given := rfl
      leaves := leaves_finished d source
      held := by simp
      offset := by
        rw [Scanner.offset, Mark.offset_after, ← source_eq]
        simp [Token.stamp, Nat.add_assoc] }

/-- A segment with a construct, which is held if there is a text before it. -/
theorem gives_of_construct {carry : Carry} {front lead text tail rest : List Char} {c : Construct}
    {tokens : List Token}
    (source_eq : front ++ (lead ++ text ++ tail ++ c.image d) ++ rest = source)
    (reads : Reads d (.after d c) (front ++ (lead ++ text ++ tail ++ c.image d)) rest tokens) :
    let text? := Token.ofText? (.after (front ++ lead)) text (carry.textFlags false)
    let construct := c.token d (.after (front ++ (lead ++ text ++ tail)))
    Gives d source (text?.toList ++ construct :: tokens) (text?.or construct)
      { carry := .after d c, mark := .after (front ++ (lead ++ text ++ tail ++ c.image d)), rest,
        held := text?.bind fun _ => construct } := by
  intro text? construct
  have hstop : construct.span.stop = utf8Size (front ++ (lead ++ text ++ tail ++ c.image d)) := by
    rw [c.stop_token, Mark.offset_after, ← utf8Size_append, List.append_assoc]
  have hconstruct : construct.isEndedText = false := c.isEndedText_token d _
  by_cases htext : text = []
  · have htoken : text? = none := if_pos htext
    rw [htoken]
    exact {
      given := rfl
      leaves := .reading source_eq reads
      held := by simp [hconstruct]
      offset := (Mark.offset_after _).trans hstop.symm }
  · have htoken : text?
        = some (.stamp (.after (front ++ lead)) .fixed text text (carry.textFlags false)) :=
      if_neg htext
    rw [htoken]
    exact {
      given := rfl
      leaves := .holding source_eq reads hstop hconstruct
      held := by simp [Token.isEndedText_stamp]
      offset := (Mark.offset_after _).trans hstop.symm }

/-- One case for each kind of segment, and one for a held token. -/
theorem Leaves.gives {s : Scanner} {tokens : List Token} (h : Leaves d source s tokens) :
    Gives d source tokens (s.next d).1 (s.next d).2 := by
  cases h with
  | holding source_eq reads stop_eq not_text =>
    exact {
      given := rfl
      leaves := .reading source_eq reads
      held := by simp [next, not_text]
      offset := (Mark.offset_after _).trans stop_eq.symm }
  | reading source_eq reads =>
    cases reads with
    | last lead_split no_opening =>
      rw [next_of_last lead_split no_opening, source_eq]
      exact gives_of_last source_eq
    | next lead_split opening located tail_split reads =>
      rw [next_of_construct lead_split opening located tail_split]
      exact gives_of_construct (by rw [← source_eq, List.append_assoc]) reads

/-- By induction on the number of calls. -/
theorem Leaves.calls {s : Scanner} {tokens : List Token} (h : Leaves d source s tokens) (n : Nat) :
    (s.calls d n).1 = (List.range n).map (tokens[·]?) ∧
      Leaves d source (s.calls d n).2 (tokens.drop n) := by
  induction n generalizing s tokens with
  | zero => exact ⟨rfl, h⟩
  | succ n ih =>
    have hgives := h.gives
    obtain ⟨hgiven, hleaves⟩ := ih hgives.leaves
    rw [List.drop_tail] at hleaves
    refine ⟨?_, hleaves⟩
    show (s.next d).1 :: ((s.next d).2.calls d n).1 = _
    rw [hgiven, hgives.given, List.range_succ_eq_map, List.head?_eq_getElem?]
    simp

end Scanner

namespace OffsetScanner

/-- After a call without a token nothing changes any more. -/
theorem next_of_none {d : Dialect} {s s' : OffsetScanner} (h : s.next d = .ok (none, s'))
    (hheld : s'.held = none) : s'.next d = .ok (none, s') := by
  have hfinished : s'.mode = .finished := by
    unfold next at h
    split at h
    · cases h
    · by_cases hmode : s.mode = .finished
      · rw [produce_of_finished d hmode] at h
        obtain ⟨-, rfl⟩ := Prod.mk.inj (Except.ok.inj h)
        exact hmode
      · rw [produce_of_ne_finished d hmode] at h
        exact mode_of_scan h
  rw [next, hheld]
  exact produce_of_finished d hfinished

/-- For every dialect and every source, the first `n` calls give the first `n` tokens, and nothing
where there is none, and the next call gives the next token. The scanner never goes back; it does
not move for a token that it held. After a text that was read to its end it holds the token behind
it, if there is one, and no other token is ever held; it has read up to the end of the token that it
holds or else of the one that it gave. After a call without a token it has read everything, and
nothing changes any more. The scanner of characters is always at the same place. -/
theorem next_after_calls (d : Dialect) (source : List Char) (n : Nat) :
    ∃ s s', (ofSource source).calls d n = .ok ((List.range n).map ((tokenize d source)[·]?), s) ∧
      s.next d = .ok ((tokenize d source)[n]?, s') ∧
      Follows s ((Scanner.ofSource source).calls d n).2 ∧
      s.offset ≤ s'.offset ∧ (s.held.isSome = true → s'.offset = s.offset) ∧
      match (tokenize d source)[n]? with
      | some t =>
        s'.held = (if t.kind = .fixed ∧ t.isUnterminated = false then (tokenize d source)[n + 1]?
          else none) ∧
        s'.offset = (s'.held.getD t).span.stop
      | none => s'.held = none ∧ s'.offset = utf8Size source ∧ s'.next d = .ok (none, s') := by
  obtain ⟨hgiven, hleaves⟩ := (Scanner.leaves_ofSource d source).calls n
  obtain ⟨s, hcalls, hfollows⟩ := (follows_ofSource source).exists_calls d n
  obtain ⟨s', hnext, hfollows'⟩ := hfollows.exists_next d
  have hgives := hleaves.gives
  have hhead := hgives.given
  have hheld := hgives.held
  have hoffset := hgives.offset
  rw [hgiven] at hcalls
  rw [← hfollows'.held_eq] at hheld hoffset
  rw [← hfollows'.offset_eq] at hoffset
  rw [List.head?_drop] at hhead hheld hoffset
  rw [hhead] at hnext
  refine ⟨s, s', hcalls, hnext, hfollows, ?_, fun hsome => ?_, ?_⟩
  · rw [hfollows.offset_eq, hfollows'.offset_eq]
    exact Scanner.offset_le_next d _
  · rw [hfollows.held_eq] at hsome
    rw [hfollows.offset_eq, hfollows'.offset_eq]
    exact Scanner.offset_next_of_held d hsome
  · cases htoken : (tokenize d source)[n]? with
    | none =>
      rw [htoken] at hnext hheld hoffset
      exact ⟨hheld, hoffset, next_of_none hnext hheld⟩
    | some t =>
      rw [htoken] at hheld hoffset
      refine ⟨hheld.trans ?_, hoffset⟩
      simp [Token.isEndedText]

/-- The white space at the end is read by the call that gives no token. -/
example : let last := ((Scanner.ofSource "{{ a -}} ".toList).calls .standard 1).2
    last.offset = 8 ∧ (last.next .standard).1 = none ∧ (last.next .standard).2.offset = 9 := by
  decide +kernel

end OffsetScanner

end TemplateLexer
