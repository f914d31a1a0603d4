import TemplateLexer.Proofs.Positions
import TemplateLexer.Proofs.Standard

/-!
# Sources in two parts

Where a source ends with a construct that leaves nothing behind, more text can be added, and the
tokens are those of the two parts in turn. Two things are needed for this. A run does not look at
what was read before it, so its tokens are the same at another place; and nothing that was decided
in the first part depends on what stands behind it, since all of it was decided before the last
closer.

* `Reads.shift`: a run at another place.
* `Dialect.UsesStandard.locate_append`, `Dialect.UsesStandard.nextOpening?_append`: what is located
  and where the next opening is, with more text behind.
* `Reads.append`: a run that ends with a construct goes on with a run over more text.
* `tokenize_append`: the tokens of a source in two parts.
-/

namespace TemplateLexer

/-! ## Tokens at another place -/

/-- The position of a place that is at `q` in a text which begins at `p`. -/
def Position.andThen (p q : Position) : Position :=
  if q.line = 1 then ⟨p.line, min (p.column + q.column) limit⟩
  else ⟨min (p.line + (q.line - 1)) limit, q.column⟩

/-- The span behind `size` more bytes. -/
def Span.shift (size : Nat) (s : Span) : Span where
  start := size + s.start
  stop := size + s.stop
  start_le_stop := Nat.add_le_add_left s.start_le_stop size

/-- The same token, in a source that begins at the mark `m`. -/
def Token.shift (m : Mark) (t : Token) : Token :=
  { t with span := t.span.shift m.offset, position := m.position.andThen t.position }

@[simp] theorem Token.tag?_shift (m : Mark) (t : Token) : (t.shift m).tag? = t.tag? := rfl

/-- The second text begins where the first ends. -/
theorem Position.advance_start_append (front back : List Char) :
    start.advance (front ++ back) = (start.advance front).andThen (start.advance back) := by
  have hlimit : 1 < limit := by decide
  simp only [advance_start, andThen, ofText, List.count_append, lastLine_append]
  by_cases hback : '\n' ∈ back
  · have hcount := List.count_pos_iff.2 hback
    rw [if_pos hback, if_neg (by omega), Position.mk.injEq]
    omega
  · have hlast : lastLine back = back := (lastLine_append [] back).trans (if_neg hback)
    rw [if_neg hback, List.count_eq_zero.2 hback, hlast, if_pos (by omega), Position.mk.injEq,
      List.length_append]
    omega

theorem Token.shift_stamp (pre front : List Char) (kind : Kind) (image content : List Char)
    (flags : Flags) :
    (stamp (.after front) kind image content flags).shift (.after pre)
      = stamp (.after (pre ++ front)) kind image content flags := by
  simp only [stamp, shift, Span.shift, Mark.offset_after, utf8Size_append, Nat.add_assoc]
  congr 1
  exact (Position.advance_start_append pre front).symm

theorem Token.map_shift_ofText? (pre front text : List Char) (flags : Flags) :
    (ofText? (.after front) text flags).toList.map (shift (.after pre))
      = (ofText? (.after (pre ++ front)) text flags).toList := by
  unfold ofText?
  split
  · rfl
  · simp [shift_stamp]

theorem Construct.shift_token (d : Dialect) (pre front : List Char) (c : Construct) :
    (c.token d (.after front)).shift (.after pre) = c.token d (.after (pre ++ front)) :=
  Token.shift_stamp pre front c.kind (c.image d) (c.content d) c.flags

/-- Nothing that was read before matters to a run, where the blanks before a tag are kept. -/
theorem Reads.shift {d : Dialect} (hkept : d.settings.spacing.lstripBlocks = false)
    (pre : List Char) {carry : Carry} {front rest : List Char} {tokens : List Token}
    (h : Reads d carry front rest tokens) :
    Reads d carry (pre ++ front) rest (tokens.map (Token.shift (.after pre))) := by
  induction h with
  | @last carry front lead text lead_split no_opening =>
    rw [Token.map_shift_ofText?, ← List.append_assoc]
    exact .last lead_split no_opening
  | @next carry front lead text tail markup body c rest tokens lead_split opening located tail_split
      reads ih =>
    rw [List.map_append, List.map_cons, Token.map_shift_ofText?, Construct.shift_token,
      ← List.append_assoc, ← List.append_assoc]
    rw [← List.append_assoc] at ih
    exact .next lead_split opening located
      ((Construct.splitBefore_eq hkept _ _ _ c).trans tail_split) ih

/-! ## More text behind -/

/-- What stands behind an `endraw` tag does not matter to the matcher. -/
theorem isEndRaw_append_of_isEndRaw {d : Dialect} {source : List Char}
    (h : d.isEndRaw source = true) (more : List Char) : d.isEndRaw (source ++ more) = true := by
  obtain ⟨before, front, back, after, rest, hfront, hback, hafter, rfl⟩ := d.isEndRaw_iff.1 h
  rw [List.append_assoc, List.append_assoc]
  exact Dialect.isEndRaw_append before after hfront hback hafter (rest ++ more)

/-- What stands behind a character that is no part of an `endraw` tag does not matter to it
either. -/
theorem isEndRaw_append_of_mem {d : Dialect} {source : List Char} {c : Char} (hc : c ∈ source)
    (hchar : isEndRawChar c = false) (hcloser : c ∉ d.closer .tag) (more : List Char) :
    d.isEndRaw (source ++ more) = d.isEndRaw source := by
  rw [Bool.eq_iff_iff]
  refine ⟨fun h => ?_, fun h => isEndRaw_append_of_isEndRaw h more⟩
  obtain ⟨before, front, back, after, rest, hfront, hback, hafter, hsource⟩ := d.isEndRaw_iff.1 h
  rw [← List.append_assoc] at hsource
  rcases List.append_eq_append_iff.1 hsource with ⟨rest', htag, -⟩ | ⟨rest', rfl, -⟩
  · have hmem : c ∈ endRawContent before front back after ++ d.closer .tag :=
      htag ▸ List.mem_append_left rest' hc
    rcases List.mem_append.1 hmem with hmem | hmem
    · rw [isEndRawChar_of_mem hfront hback hmem] at hchar
      cases hchar
    · exact absurd hmem hcloser
  · rw [List.append_assoc]
    exact Dialect.isEndRaw_append before after hfront hback hafter rest'

/-- Whether a construct was closed, so that what stands behind it did not matter. -/
def Construct.isClosed : Construct → Bool
  | .closed _ _ => true
  | _ => false

/-- An opener with nothing behind it begins nothing that is closed, and nothing is left. -/
theorem body_ne_nil_of_locate {d : Dialect} {markup : Markup} {body rest : List Char}
    {c : Construct} (h : d.locate markup body = (c, rest))
    (hdecided : c.isClosed = true ∨ 2 < rest.length) : body ≠ [] := by
  rcases Dialect.locate_cases h with ⟨content, rfl, rfl⟩ | ⟨-, rfl, rfl, -⟩ |
    ⟨content, -, rfl, rfl, -⟩
  · simp [d.closer_ne_nil]
  · simp [Construct.isClosed] at hdecided
  · have hlength : 2 < rest.length := by simpa [Construct.isClosed] using hdecided
    have hne : rest ≠ [] := List.ne_nil_of_length_pos (by omega)
    simp [hne]

namespace Dialect.UsesStandard

variable {d : Dialect} (hd : d.UsesStandard)
include hd

theorem opener_tag : d.opener .tag = ['\x7b', '%'] := hd.opener_eq .tag

/-- What opens at the front of a source is decided by three of its characters. -/
theorem openingHere?_append {source : List Char} (hlength : 2 < source.length) (more : List Char) :
    d.openingHere? (source ++ more) = d.openingHere? source := by
  have hsome (markup : Markup) : (d.afterOpener? markup (source ++ more)).isSome
      = (d.afterOpener? markup source).isSome :=
    isSome_afterOpener?_append (by rwa [hd.length_opener]) more
  simp only [openingHere?, hsome]

/-- The two characters of an opener do not overlap with those of another one. -/
theorem mem_of_opener_append {b : Char} {back body rest : List Char}
    (h : d.opener .tag ++ rest = b :: back ++ (d.opener .tag ++ body)) : '\x7b' ∈ rest := by
  rw [hd.opener_tag] at h
  cases back with
  | nil => simp at h
  | cons b' back =>
    obtain ⟨-, -, rfl⟩ : '\x7b' = b ∧ '%' = b' ∧ rest = back ++ '\x7b' :: '%' :: body := by
      simpa using h
    simp

/-- Whether a tag that ends a raw block stands at a place is decided, if one stands there or at a
later place: a tag that ends the block would end before the next opener. -/
theorem endRawHere?_append {body : List Char} (hend : d.isEndRaw body = true)
    (back more : List Char) :
    d.endRawHere? (back ++ (d.opener .tag ++ body) ++ more)
      = d.endRawHere? (back ++ (d.opener .tag ++ body)) := by
  have hlength : (d.opener .tag).length ≤ (back ++ (d.opener .tag ++ body)).length := by
    simp only [List.length_append]
    omega
  rw [endRawHere?, endRawHere?, isPrefixOf?_append_of_length_le hlength]
  cases hrest : (d.opener .tag).isPrefixOf? (back ++ (d.opener .tag ++ body)) with
  | none => rfl
  | some rest =>
    have hsource := append_of_isPrefixOf? hrest
    have hsame : d.isEndRaw (rest ++ more) = d.isEndRaw rest := by
      cases back with
      | nil =>
        obtain rfl : rest = body := List.append_cancel_left hsource
        rw [hend, isEndRaw_append_of_isEndRaw hend]
      | cons b back =>
        refine isEndRaw_append_of_mem (hd.mem_of_opener_append hsource) rfl ?_ more
        rw [hd.closer_eq]
        decide
    simp [hsame]

/-- What opens at a place of a source is decided in the source, if a construct opens there or behind
it and does not end with its opener. -/
theorem opensHere?_append {raw : Bool} {after : List Char} {markup : Markup}
    (hafter : d.opensHere? raw after = some markup) (hlength : 2 < after.length)
    (back more : List Char) :
    d.opensHere? raw (back ++ after ++ more) = d.opensHere? raw (back ++ after) := by
  cases raw with
  | false =>
    refine hd.openingHere?_append ?_ more
    rw [List.length_append]
    omega
  | true =>
    obtain ⟨-, body, rfl, hend⟩ := exists_of_endRawHere? hafter
    exact hd.endRawHere?_append hend back more

theorem nextOpening?_append {raw : Bool} {source : List Char} {o : Opening}
    (h : d.nextOpening? raw source = some o) (hbody : o.body ≠ []) (more : List Char) :
    d.nextOpening? raw (source ++ more) = some { o with body := o.body ++ more } := by
  refine d.nextOpening?_append h more fun back _ =>
    hd.opensHere?_append (d.opensHere?_of_nextOpening? h) ?_ back more
  have := List.length_pos_iff.2 hbody
  rw [List.length_append, hd.length_opener]
  omega

/-- The end of a body is decided, if it is closed there or enough of the body is left. -/
theorem ofBodyEnd_append {markup : Markup} {e : BodyEnd} {rest : List Char} {c : Construct}
    (h : Construct.ofBodyEnd markup e = (c, rest))
    (hdecided : c.isClosed = true ∨ 2 < rest.length) (more : List Char) :
    d.IsDecided markup e ∧ Construct.ofBodyEnd markup (e.append more) = (c, rest ++ more) := by
  unfold IsDecided
  rw [hd.length_opener, hd.length_closer]
  cases e with
  | closed content rest' =>
    obtain ⟨rfl, rfl⟩ := Prod.mk.inj h
    exact ⟨Nat.le_refl 2, rfl⟩
  | interrupted content rest' =>
    obtain ⟨rfl, rfl⟩ := Prod.mk.inj h
    have hlength : 2 < rest'.length := by simpa [Construct.isClosed] using hdecided
    exact ⟨⟨hlength, Nat.le_of_lt hlength⟩, rfl⟩
  | unterminated content =>
    obtain ⟨rfl, rfl⟩ := Prod.mk.inj h
    simp [Construct.isClosed] at hdecided

/-- What an opener begins is decided in the body, if it is closed or enough of the body is left. -/
theorem locate_append {markup : Markup} {body rest : List Char} {c : Construct}
    (h : d.locate markup body = (c, rest)) (hdecided : c.isClosed = true ∨ 2 < rest.length)
    (more : List Char) : d.locate markup (body ++ more) = (c, rest ++ more) := by
  by_cases hm : markup = .note
  · subst hm
    cases hsplit : splitAtFirst? (d.closer .note) body with
    | none =>
      rw [locate, hsplit] at h
      obtain ⟨rfl, rfl⟩ := Prod.mk.inj h
      simp [Construct.isClosed] at hdecided
    | some split =>
      obtain ⟨content, rest'⟩ := split
      rw [locate, hsplit] at h
      obtain ⟨rfl, rfl⟩ := Prod.mk.inj h
      rw [locate, splitAtFirst?_append (d.closer_ne_nil .note) hsplit]
  · rw [d.locate_of_ne_note hm] at h ⊢
    obtain ⟨hend, hmore⟩ := hd.ofBodyEnd_append h hdecided more
    rw [d.readBody_append hend, hmore]

/-- The image of a construct begins with a brace. -/
theorem mem_image (c : Construct) : '\x7b' ∈ c.image d := by
  have hopener (markup : Markup) : '\x7b' ∈ d.opener markup := by
    rw [hd.opener_eq]
    cases markup <;> decide
  cases c <;> simp [Construct.image, hopener]

end Dialect.UsesStandard

/-! ## Runs over two parts -/

/-- A closed construct after which nothing is removed and no raw block begins. -/
structure Token.LeavesNothing (d : Dialect) (t : Token) : Prop where
  closed : t.isClosed = true
  trimAfter : t.flags.trimAfter = false
  trimBlocks : d.settings.spacing.trimBlocks = true → t.kind = .tag → t.flags.keepAfter = true
  rawBlocks : d.settings.rawBlocks = true → t.isRawTag = false

theorem Construct.isClosed_of_token {d : Dialect} {m : Mark} {c : Construct}
    (h : (c.token d m).isClosed = true) : c.isClosed = true := by
  cases c with
  | closed markup content => rfl
  | openNote content => cases h
  | degraded markup content => cases h

/-- The construct of such a token leaves nothing behind. -/
theorem Carry.after_eq {d : Dialect} {m : Mark} {c : Construct}
    (h : (c.token d m).LeavesNothing d) : after d c = {} := by
  have hraw : (after d c).raw = false := by
    rw [raw_after d c m]
    cases hblocks : d.settings.rawBlocks with
    | false => rfl
    | true => exact h.rawBlocks hblocks
  have htrim : (after d c).trim = .none := by
    cases c with
    | openNote content => rfl
    | degraded markup content => rfl
    | closed markup content =>
      have hafter : (Marked.read content).flags.trimAfter = false := h.trimAfter
      have hline : ¬ (markup == .tag && d.settings.spacing.trimBlocks
          && !(Marked.read content).flags.keepAfter) = true := by
        simp only [Bool.and_eq_true, Bool.not_eq_true', beq_iff_eq]
        rintro ⟨⟨rfl, hblocks⟩, hkeep⟩
        have hkeep' : (Marked.read content).flags.keepAfter = true := h.trimBlocks hblocks rfl
        rw [hkeep] at hkeep'
        cases hkeep'
      simp only [after]
      rw [hafter, if_neg Bool.false_ne_true, if_neg hline]
  exact congrArg₂ Carry.mk htrim hraw

variable {d : Dialect} {carry : Carry} {front rest : List Char} {tokens : List Token} {t : Token}

/-- Where nothing was left behind and no token follows, nothing is left to read. -/
theorem Reads.eq_nil_of_tokens (h : Reads d {} front rest []) : rest = [] := by
  generalize htokens : [] = tokens at h
  cases h with
  | @last _ _ lead text lead_split no_opening =>
    rw [Carry.split_empty] at lead_split
    obtain ⟨rfl, -⟩ := Prod.mk.inj lead_split
    by_contra htext
    rw [List.nil_append] at htext
    simp [Token.ofText?, htext] at htokens
  | next => simp at htokens

/-- The last of the tokens of a text, of the construct that ends it and of what comes after. -/
theorem Token.last_cases {texts : List Token} {u : Token}
    (ht : t ∈ (texts ++ u :: tokens).getLast?) : tokens = [] ∧ t = u ∨ t ∈ tokens.getLast? := by
  cases tokens with
  | nil =>
    rw [List.getLast?_concat] at ht
    exact .inl ⟨rfl, (Option.some.inj ht).symm⟩
  | cons v tokens =>
    rw [List.getLast?_append_of_ne_nil _ (List.cons_ne_nil u _), List.getLast?_cons_cons] at ht
    exact .inr ht

/-- A run that ends with a closed construct has its delimiters to read. -/
theorem Reads.two_lt_length (hd : d.UsesStandard) (h : Reads d carry front rest tokens)
    (ht : t ∈ tokens.getLast?) (hclosed : t.isClosed = true) : 2 < rest.length := by
  induction h with
  | @last carry front lead text lead_split no_opening =>
    obtain ⟨-, rfl⟩ := Token.mem_ofText?.1 (List.mem_of_getLast? ht)
    cases hclosed
  | @next carry front lead text tail markup body c rest tokens lead_split opening located tail_split
      reads ih =>
    simp only [List.length_append]
    rcases Token.last_cases ht with ⟨-, rfl⟩ | ht
    · cases c with
      | openNote content => cases hclosed
      | degraded markup content => cases hclosed
      | closed markup content =>
        simp only [Construct.image, List.length_append, hd.length_opener, hd.length_closer]
        omega
    · have := ih ht
      omega

/-- A run that ends with a construct which leaves nothing behind goes on with a run over more text,
by induction on the first run. -/
theorem Reads.append (hd : d.UsesStandard) (h : Reads d carry front rest tokens)
    (ht : t ∈ tokens.getLast?) (hleaves : t.LeavesNothing d) {more : List Char}
    {tokens' : List Token} (hmore : Reads d {} (front ++ rest) more tokens') :
    Reads d carry front (rest ++ more) (tokens ++ tokens') := by
  induction h with
  | @last carry front lead text lead_split no_opening =>
    obtain ⟨-, rfl⟩ := Token.mem_ofText?.1 (List.mem_of_getLast? ht)
    cases hleaves.closed
  | @next carry front lead text tail markup body c rest tokens lead_split opening located tail_split
      reads ih =>
    have hsource : front ++ (lead ++ text ++ tail ++ c.image d ++ rest)
        = front ++ (lead ++ text ++ tail ++ c.image d) ++ rest := by
      simp only [List.append_assoc]
    rw [hsource] at hmore
    have hstep : (c.isClosed = true ∨ 2 < rest.length) ∧ Reads d (.after d c)
        (front ++ (lead ++ text ++ tail ++ c.image d)) (rest ++ more) (tokens ++ tokens') := by
      rcases Token.last_cases ht with ⟨rfl, rfl⟩ | ht
      · refine ⟨.inl (Construct.isClosed_of_token hleaves.closed), ?_⟩
        rw [Carry.after_eq hleaves] at reads ⊢
        obtain rfl := reads.eq_nil_of_tokens
        rwa [List.append_nil] at hmore
      · exact ⟨.inr (reads.two_lt_length hd ht hleaves.closed), ih ht hmore⟩
    obtain ⟨hdecided, hreads⟩ := hstep
    have hopening := hd.nextOpening?_append opening
      (body_ne_nil_of_locate located hdecided) more
    have hlead := carry.trim.split_append lead_split
      (List.mem_append_left rest (List.mem_append_right (text ++ tail) (hd.mem_image c))) rfl more
    rw [List.append_assoc _ rest more] at hopening hlead
    rw [List.append_assoc _ rest more] at hlead
    have hnext := Reads.next hlead hopening (hd.locate_append located hdecided more) tail_split hreads
    simpa only [List.append_assoc, List.cons_append] using hnext

/-- A source in two parts, where the first part ends with a closed construct after which nothing is
removed and no raw block begins: its tokens are those of the first part, and those of the second at
the place where the second part begins. -/
theorem tokenize_append (hd : d.UsesStandard) (hkept : d.settings.spacing.lstripBlocks = false)
    {a : List Char} (ht : t ∈ (tokenize d a).getLast?) (hleaves : t.LeavesNothing d)
    (b : List Char) :
    tokenize d (a ++ b) = tokenize d a ++ (tokenize d b).map (Token.shift (.after a)) := by
  have hb := (reads_tokenize d b).shift hkept a
  rw [List.append_nil] at hb
  have hboth := (reads_tokenize d a).append hd ht hleaves hb
  exact hboth.eq_tokenizeFrom.symm

/-- A dialect that removes the blank rest of the line after a tag. -/
def Dialect.trimming : Dialect :=
  { Dialect.standard with
    settings := { spacing := { trimBlocks := true } }
    fault?_eq_none := by decide }

/-- The end of a raw block keeps the line break behind it, and the text after it is no longer
raw. -/
theorem tokenize_append_endraw :
    let a := "{% raw %}α\n{{ x }}{% endraw +%}".toList
    let b := "\nλ{{ y }}".toList
    Dialect.trimming.UsesStandard ∧ Dialect.trimming.settings.spacing.lstripBlocks = false ∧
    (∃ t ∈ (tokenize .trimming a).getLast?, t.LeavesNothing .trimming) ∧
    tokenize .trimming (a ++ b)
      = tokenize .trimming a ++ (tokenize .trimming b).map (Token.shift (.after a)) := by
  intro a b
  have hd : Dialect.trimming.UsesStandard := ⟨rfl, rfl⟩
  let t := (Construct.closed .tag " endraw +".toList).token .trimming
    (.after "{% raw %}α\n{{ x }}".toList)
  have ht : (tokenize .trimming a).getLast? = some t := by decide +kernel
  have hleaves : t.LeavesNothing .trimming :=
    ⟨by decide +kernel, by decide +kernel, fun _ _ => by decide +kernel,
      fun _ => by decide +kernel⟩
  exact ⟨hd, rfl, ⟨t, ht, hleaves⟩, tokenize_append hd rfl ht hleaves b⟩

end TemplateLexer
