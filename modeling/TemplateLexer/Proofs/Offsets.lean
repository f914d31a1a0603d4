import TemplateLexer.Offsets
import TemplateLexer.Proofs.Run

/-!
# No contract is broken

Reading by offsets keeps every contract, for every dialect and every source, and gives the tokens
that the scanner of `Scanner` gives. The reason is that every offset that is ever used divides the
source: an opener, a closer or a line feed stands only where a character begins, and what is removed
or passed over is text. So each operation is shown to do, on a source that is put together from
texts, what it means for these texts; nothing remains to be shown about the contracts themselves.

* `slice_eq_ok_iff`, `OffsetScanner.consumeTo_after`: the operations with a contract.
* `Dialect.seekOpening?_append`, `Dialect.locateAt_append`, `Dialect.textEnd_append`: what is found,
  by its offsets, is what `nextOpening?`, `locate` and `Construct.splitBefore` find.
* `OffsetScanner.Follows`: the scanner of a source in memory is where the scanner of characters is.
  `Follows.exists_next` is one call from there, `Follows.exists_calls` any number of them.
* `OffsetScanner.calls_ofSource`: reading a source from its beginning.
-/

namespace TemplateLexer

/-! ## Operations -/

/-- An offset divides a text where it is the size of what stands in front. -/
theorem dividesAt_iff {source : List Char} {offset : Nat} :
    dividesAt source offset = true ↔
      ∃ front back, source = front ++ back ∧ utf8Size front = offset := by
  unfold dividesAt
  rw [beq_iff_eq]
  constructor
  · intro h
    exact ⟨_, _, (takeBytes_append_dropBytes offset source).symm, h⟩
  · rintro ⟨front, back, rfl, rfl⟩
    rw [takeBytes_append]

/-- A text is cut out of a source that is put together from it and the texts around it, at the
offsets of its ends, and nothing else is ever cut out. -/
theorem slice_eq_ok_iff {source text : List Char} {start stop : Nat} :
    slice source start stop = .ok text ↔ ∃ front back, source = front ++ (text ++ back) ∧
      utf8Size front = start ∧ start + utf8Size text = stop := by
  unfold slice
  constructor
  · intro h
    split at h
    · next hcontract =>
      simp only [Bool.and_eq_true, decide_eq_true_eq, dividesAt_iff] at hcontract
      obtain ⟨⟨⟨hle, -⟩, front, back, rfl, rfl⟩, front', back', hsource, rfl⟩ := hcontract
      obtain ⟨between, rfl, rfl⟩ := exists_append_of_utf8Size_le hsource hle
      rw [utf8Size_append, Nat.add_sub_cancel_left, dropBytes_append, takeBytes_append] at h
      obtain rfl := Except.ok.inj h
      exact ⟨front, back', rfl, rfl, (utf8Size_append _ _).symm⟩
    · cases h
  · rintro ⟨front, back, rfl, rfl, rfl⟩
    have hfront : dividesAt (front ++ (text ++ back)) (utf8Size front) = true :=
      dividesAt_iff.2 ⟨front, _, rfl, rfl⟩
    have htext : dividesAt (front ++ (text ++ back)) (utf8Size front + utf8Size text) = true :=
      dividesAt_iff.2 ⟨front ++ text, back, by rw [List.append_assoc], utf8Size_append _ _⟩
    rw [hfront, htext, dropBytes_append, Nat.add_sub_cancel_left, takeBytes_append]
    simp

/-- The second byte of a letter is no place to cut. -/
example : slice ['é', 'a'] 1 3 = .error (.slice 1 3) := rfl

/-- The last byte of a character is that of a character of one byte if these two are the same. -/
theorem byteAt_last {k : Char} (hk : k.utf8Size = 1) (front : List Char) (c : Char)
    (back : List Char) :
    (byteAt (front ++ c :: back) (utf8Size front + (c.utf8Size - 1)) == leadByte k) = (c == k) := by
  rw [byteAt, Cursor.skip_add, Cursor.skip_append]
  by_cases hone : c.utf8Size = 1
  · rw [hone]
    exact leadByte_beq hk c
  · -- A character of more bytes than one ends with a byte that begins none.
    have hsize := c.utf8Size_pos
    have hlength := length_laterBytes c
    have hlt : c.utf8Size - 2 < (laterBytes c).length := by omega
    have hlast : (Cursor.start (c :: back)).skip (c.utf8Size - 1)
        = ⟨(laterBytes c).drop (c.utf8Size - 2), back⟩ := by
      rw [show c.utf8Size - 1 = c.utf8Size - 2 + 1 by omega]
      exact Cursor.skip_of_le (Nat.le_of_lt hlt) back
    have hne : c ≠ k := by
      rintro rfl
      exact hone hk
    rw [hlast, List.drop_eq_getElem_cons hlt, beq_eq_false_iff_ne.2 hne]
    exact beq_eq_false_iff_ne.2 (leadByte_ne_of_mem_laterBytes (List.getElem_mem hlt) k).symm

/-- Whether a line starts at an offset is told by the byte before it. -/
theorem byteAt_pred (front back : List Char) :
    (utf8Size front == 0 || byteAt (front ++ back) (utf8Size front - 1) == leadByte '\n')
      = startsLineAfter true front := by
  rcases List.eq_nil_or_concat front with rfl | ⟨front, c, rfl⟩
  · rfl
  · have hsize := c.utf8Size_pos
    have hoffset : utf8Size (front ++ [c]) - 1 = utf8Size front + (c.utf8Size - 1) := by
      rw [utf8Size_append, utf8Size_cons, utf8Size_nil]
      omega
    have hne : (utf8Size (front ++ [c]) == 0) = false := by
      rw [utf8Size_append, utf8Size_cons, beq_eq_false_iff_ne]
      omega
    rw [List.concat_eq_append, hne, hoffset, List.append_assoc, List.singleton_append,
      byteAt_last rfl, Bool.false_or]
    simp [startsLineAfter]

/-- The token of an image that begins at a mark has the span of its image. -/
theorem Token.ofSlices_eq (m : Mark) (kind : Kind) (image content : List Char) (flags : Flags) :
    Token.ofSlices kind image content m.offset (m.offset + utf8Size image) m.position flags
      = .ok (.stamp m kind image content flags) :=
  dif_pos ⟨Nat.le_add_right _ _, (Nat.add_sub_cancel_left _ _).symm⟩

/-! ## Finding -/

theorem length_eraseDups_le {α : Type} [BEq α] (l : List α) : l.eraseDups.length ≤ l.length := by
  induction hlength : l.length using Nat.strongRecOn generalizing l with
  | ind n ih =>
    cases l with
    | nil => simp
    | cons a l =>
      subst hlength
      have hfilter := l.length_filter_le (fun b => !b == a)
      have hmore := ih _ (by rw [List.length_cons]; omega) (l.filter fun b => !b == a) rfl
      rw [List.eraseDups_cons, List.length_cons, List.length_cons]
      omega

namespace Dialect

variable (d : Dialect)

/-- There are as many openers as bytes can be looked for at once. -/
theorem length_openerBytes_le : d.openerBytes.length ≤ needleLimit := by
  have hdups := length_eraseDups_le
    (d.precedence.openers.filterMap fun markup => (d.opener markup).head?.map leadByte)
  have hheads := List.length_filterMap_le
    (fun markup => (d.opener markup).head?.map leadByte) d.precedence.openers
  have hopeners := d.precedence.openers_perm.length_eq
  simp only [List.length_cons, List.length_nil] at hopeners
  unfold openerBytes needleLimit
  omega

/-- The next opening of what has not been read is found by its offset. -/
theorem seekOpening?_append (raw : Bool) (front body : List Char) :
    d.seekOpening? raw (front ++ body) (utf8Size front)
      = .ok ((d.nextOpening? raw body).map
          fun o => (utf8Size front + utf8Size o.before, o.markup)) := by
  have hseek := d.seek?_opensHere? raw (utf8Size front) body
  rw [nextOpening?_eq, Option.map_map]
  unfold seekOpening?
  rw [Cursor.skip_append]
  cases raw with
  | true => exact congrArg Except.ok hseek
  | false =>
    dsimp only
    rw [if_neg Bool.false_ne_true, if_pos d.length_openerBytes_le]
    exact congrArg Except.ok hseek

end Dialect

/-- The offset at which the content of a construct begins in its image. -/
def Construct.contentOffset (d : Dialect) : Construct → Nat
  | closed markup _ => utf8Size (d.opener markup)
  | openNote _ => utf8Size (d.opener .note)
  | degraded _ _ => 0

/-- A construct that begins at an offset, by its offsets. -/
def Construct.located (d : Dialect) (start : Nat) (c : Construct) : Located where
  kind := c.kind
  start := start
  stop := start + utf8Size (c.image d)
  contentStart := start + c.contentOffset d
  contentStop := start + c.contentOffset d + utf8Size (c.content d)
  flags := c.flags

/-- The content of a construct stands in its image. -/
theorem Construct.exists_image_eq (d : Dialect) (c : Construct) : ∃ front back,
    c.image d = front ++ (c.content d ++ back) ∧ utf8Size front = c.contentOffset d := by
  cases c with
  | closed markup content =>
    exact ⟨d.opener markup, d.closer markup, List.append_assoc _ _ _, rfl⟩
  | openNote content => exact ⟨d.opener .note, [], by rw [List.append_nil]; rfl, rfl⟩
  | degraded markup content => exact ⟨[], [], by rw [List.append_nil]; rfl, rfl⟩

theorem Construct.isRecognized_located_closed (d : Dialect) (start : Nat) (markup : Markup)
    (content : List Char) : ((closed markup content).located d start).isRecognized = true := by
  have hkind : (markup.kind != .fixed) = true := bne_iff_ne.2 markup.kind_ne_fixed
  show (markup.kind != .fixed && true) = true
  rw [hkind, Bool.and_true]

namespace Dialect

variable (d : Dialect)

theorem closedAt_append {source front content rest : List Char} {markup : Markup}
    (h : source = front ++ (d.opener markup ++ (content ++ (d.closer markup ++ rest)))) :
    d.closedAt source markup (utf8Size front)
        (utf8Size front + utf8Size (d.opener markup) + utf8Size content)
      = .ok ((Construct.closed markup content).located d (utf8Size front)) := by
  have hslice : slice source (utf8Size front + utf8Size (d.opener markup))
      (utf8Size front + utf8Size (d.opener markup) + utf8Size content) = .ok content :=
    slice_eq_ok_iff.2 ⟨front ++ d.opener markup, d.closer markup ++ rest,
      by rw [h, List.append_assoc], utf8Size_append _ _, rfl⟩
  rw [closedAt, hslice]
  simp only [Construct.located, Construct.image, utf8Size_append, Nat.add_assoc]
  rfl

theorem located_openNote (start : Nat) (content : List Char) :
    (Construct.openNote content).located d start
      = { degradedAt start (start + utf8Size (d.opener .note) + utf8Size content) with
          kind := .note, contentStart := start + utf8Size (d.opener .note) } := by
  simp only [Construct.located, Construct.image, utf8Size_append, Nat.add_assoc]
  rfl

theorem located_degraded (start : Nat) (markup : Markup) (content : List Char) :
    (Construct.degraded markup content).located d start
      = degradedAt start (start + utf8Size (d.opener markup) + utf8Size content) := by
  simp [Construct.located, Construct.kind, Construct.image, Construct.content,
    Construct.contentOffset, Construct.flags, degradedAt, Nat.add_assoc]

/-- What an opener begins is found by its offsets. -/
theorem locateAt_append (front : List Char) (markup : Markup) (body : List Char) :
    d.locateAt (front ++ (d.opener markup ++ body)) markup (utf8Size front)
      = .ok ((d.locate markup body).1.located d (utf8Size front)) := by
  have hsize : utf8Size (front ++ (d.opener markup ++ body))
      = utf8Size front + utf8Size (d.opener markup) + utf8Size body := by
    rw [utf8Size_append, utf8Size_append, Nat.add_assoc]
  unfold locateAt
  dsimp only
  by_cases hm : markup = .note
  · subst hm
    rw [if_pos rfl, Cursor.skip_add, Cursor.skip_append, Cursor.skip_append,
      seek?_start (fun text => by rw [Cursor.startsWith_start]) (fun byte later text hbyte => by
        rw [Cursor.startsWith_of_not_leadByte hbyte (d.closer_ne_nil .note)]; rfl),
      locate, splitAtFirst?_eq (d.closer_ne_nil .note)]
    cases hplace : firstPlace?
        (fun text => if (d.closer .note).isPrefixOf text then some () else none) body with
    | none =>
      rw [hsize]
      exact congrArg Except.ok (d.located_openNote (utf8Size front) body).symm
    | some p =>
      have hbody : body = p.before ++ (d.closer .note ++ p.after.drop (d.closer .note).length) :=
        (append_drop_of_firstPlace? hplace).symm
      exact d.closedAt_append (congrArg (fun body => front ++ (d.opener .note ++ body)) hbody)
  · have hslice : slice (front ++ (d.opener markup ++ body))
        (utf8Size front + utf8Size (d.opener markup))
        (utf8Size (front ++ (d.opener markup ++ body))) = .ok body :=
      slice_eq_ok_iff.2 ⟨front ++ d.opener markup, [],
        by rw [List.append_nil, List.append_assoc], utf8Size_append _ _, hsize.symm⟩
    have hbody := d.source_readBody markup {} body
    rw [if_neg hm, hslice, d.locate_of_ne_note hm, hsize]
    dsimp only [bind, Except.bind]
    rw [walkBody_start hm]
    cases hread : d.readBody markup {} body with
    | closed content rest =>
      rw [hread, BodyEnd.source, List.append_assoc] at hbody
      exact d.closedAt_append (congrArg (fun body => front ++ (d.opener markup ++ body)) hbody.symm)
    | interrupted content rest =>
      exact congrArg Except.ok (d.located_degraded (utf8Size front) markup content).symm
    | unterminated content =>
      obtain rfl : content = body := by rw [hread] at hbody; exact hbody
      exact congrArg Except.ok (d.located_degraded (utf8Size front) markup content).symm

/-- Where the text before a construct ends is found by its offset. -/
theorem textEnd_append {source front text rest : List Char} (c : Construct)
    (h : source = front ++ (text ++ rest)) :
    d.textEnd source (utf8Size front) (c.located d (utf8Size front + utf8Size text))
      = .ok (utf8Size front
          + utf8Size (c.splitBefore d (startsLineAfter true front) text).1) := by
  cases c with
  | openNote content => rfl
  | degraded markup content => rfl
  | closed markup content =>
    have hslice : slice source (utf8Size front) (utf8Size front + utf8Size text) = .ok text :=
      slice_eq_ok_iff.2 ⟨front, rest, h, rfl, rfl⟩
    have hline := byteAt_pred (front ++ trimEnd isInlineBlank text)
      (trailing isInlineBlank text ++ rest)
    have hsource : front ++ trimEnd isInlineBlank text ++ (trailing isInlineBlank text ++ rest)
        = source := by
      rw [h, List.append_assoc, ← List.append_assoc (trimEnd isInlineBlank text),
        trimEnd_append_trailing]
    rw [hsource, ← startsLineAfter_append, utf8Size_append] at hline
    unfold textEnd
    rw [Construct.isRecognized_located_closed]
    simp only [Construct.located, Construct.kind, Construct.flags, Markup.kind_beq_tag, hslice,
      hline, bind, Except.bind, Construct.splitBefore]
    rw [if_neg (by decide)]
    split
    · rfl
    · split <;> rfl

end Dialect

/-- The blank end of a line is found by its offset. -/
theorem blankLineEnd_append (front source : List Char) :
    blankLineEnd (front ++ source) (utf8Size front)
      = utf8Size front + utf8Size (LeadTrim.line.split source).1 := by
  have hplace : ((Cursor.start (front ++ source)).skip (utf8Size front)).skipWhile
        (fun byte => byte == leadByte ' ' || byte == leadByte '\t')
      = .start (source.dropWhile isInlineBlank) := by
    rw [Cursor.skip_append]
    refine Cursor.skipWhile_start (fun c => ?_) (fun c hc => ?_) source
    · rw [leadByte_beq rfl, leadByte_beq rfl, isInlineBlank]
    · simp only [isInlineBlank, Bool.or_eq_true, beq_iff_eq] at hc
      rcases hc with rfl | rfl <;> rfl
  have hend : utf8Size (front ++ source) - (Cursor.start (source.dropWhile isInlineBlank)).size
      = utf8Size front + utf8Size (source.takeWhile isInlineBlank) := by
    have hsize := congrArg utf8Size
      (List.takeWhile_append_dropWhile (p := isInlineBlank) (l := source))
    rw [utf8Size_append] at hsize
    simp only [utf8Size_append, Cursor.size, Cursor.start, List.length_nil]
    omega
  unfold blankLineEnd
  dsimp only
  rw [hplace, hend, Cursor.startsWith_start, Cursor.startsWith_start, LeadTrim.split_line_eq]
  dsimp only
  split
  · rw [utf8Size_append, ← Nat.add_assoc]
    rfl
  · split
    · rw [utf8Size_append, ← Nat.add_assoc]
      rfl
    · rfl

/-! ## Reading -/

/-- The white space to remove behind a construct is what it leaves behind. -/
theorem Construct.leadingAfter_located (d : Dialect) (start : Nat) (c : Construct) :
    (c.located d start).leadingAfter d .none = (Carry.after d c).trim := by
  cases c with
  | openNote content => rfl
  | degraded markup content => rfl
  | closed markup content =>
    rw [Located.leadingAfter, isRecognized_located_closed]
    simp only [located, kind, flags, Markup.kind_beq_tag, Carry.after]
    rfl

/-- A raw block begins behind a construct if it leaves one behind. -/
theorem Construct.beginsRaw_token (d : Dialect) (start : Nat) (m : Mark) (c : Construct) :
    ((c.located d start).isRecognized && d.beginsRaw (c.token d m)) = (Carry.after d c).raw := by
  cases c with
  | openNote content => rfl
  | degraded markup content => rfl
  | closed markup content =>
    rw [isRecognized_located_closed, Bool.true_and, Dialect.beginsRaw, tag?_token]
    cases markup with
    | expression => exact Bool.and_false _
    | note => exact Bool.and_false _
    | tag => rfl

/-- What a scanner looks for after a construct. -/
def Carry.mode (carry : Carry) : ScanMode := if carry.raw then .raw else .text

namespace OffsetScanner

/-- The scanner that has read `front` and has not read `rest`. -/
def after (front rest : List Char) (mode : ScanMode) (leading : LeadTrim) (held : Option Token) :
    OffsetScanner where
  source := front ++ rest
  offset := utf8Size front
  position := (Mark.after front).position
  mode := mode
  leading := leading
  held := held

variable (mode : ScanMode) (leading : LeadTrim) (held : Option Token)

@[simp] theorem source_after (front rest : List Char) :
    (after front rest mode leading held).source = front ++ rest := rfl

@[simp] theorem offset_after (front rest : List Char) :
    (after front rest mode leading held).offset = utf8Size front := rfl

@[simp] theorem leading_after (front rest : List Char) :
    (after front rest mode leading held).leading = leading := rfl

/-- Text that has not been read is read up to its end. -/
theorem consumeTo_after (front text rest : List Char) :
    (after front (text ++ rest) mode leading held).consumeTo (utf8Size front + utf8Size text)
      = .ok (after (front ++ text) rest mode leading held) := by
  have hslice : slice (front ++ (text ++ rest)) (utf8Size front)
      (utf8Size front + utf8Size text) = .ok text :=
    slice_eq_ok_iff.2 ⟨front, rest, rfl, rfl, rfl⟩
  have hdivides : dividesAt (front ++ (text ++ rest)) (utf8Size front + utf8Size text) = true :=
    dividesAt_iff.2 ⟨front ++ text, rest, by rw [List.append_assoc], utf8Size_append _ _⟩
  unfold consumeTo
  simp only [after, hslice, bind, Except.bind, moveTo, hdivides]
  rw [if_pos (by simp), List.append_assoc, utf8Size_append, Mark.after_append, Mark.advance]

/-- White space to remove ends where it is split off. -/
theorem leadEnd_after (front source : List Char) :
    (after front source mode leading held).leadEnd
      = .ok (utf8Size front + utf8Size (leading.split source).1) := by
  have hslice : slice (front ++ source) (utf8Size front) (utf8Size (front ++ source))
      = .ok source :=
    slice_eq_ok_iff.2 ⟨front, [], by rw [List.append_nil], rfl, (utf8Size_append front source).symm⟩
  unfold leadEnd
  simp only [source_after, offset_after, leading_after, hslice, bind, Except.bind]
  cases leading with
  | none => rfl
  | all =>
    have hsize := congrArg utf8Size (List.takeWhile_append_dropWhile (p := isBlank) (l := source))
    rw [utf8Size_append] at hsize
    refine congrArg Except.ok (?_ : _ + _ = _ + utf8Size (source.takeWhile isBlank))
    omega
  | line => exact congrArg Except.ok (blankLineEnd_append front source)

/-- White space to remove is read up to its end. -/
theorem skipLead_after {leading : LeadTrim} {source lead body : List Char}
    (h : leading.split source = (lead, body)) (front : List Char) :
    (after front source mode leading held).skipLead
      = .ok (after (front ++ lead) body mode .none held) := by
  have hend := leadEnd_after mode leading held front source
  have hsource := leading.append_split source
  rw [h] at hend hsource
  subst hsource
  rw [skipLead, hend]
  exact consumeTo_after mode .none held front lead body

/-- Text that has not been read gives its token. -/
theorem textToken?_after (front text rest : List Char) (flags : Flags) :
    (after front (text ++ rest) mode leading held).textToken? (utf8Size front + utf8Size text) flags
      = .ok (Token.ofText? (.after front) text flags,
          after (front ++ text) rest mode leading held) := by
  unfold textToken? Token.ofText?
  by_cases hnil : text = []
  · subst hnil
    rw [if_pos rfl, if_pos (by simp [after]), List.append_nil]
    rfl
  · have hpos := List.length_pos_iff.2 hnil
    have hsize := length_le_utf8Size text
    have hne : utf8Size front ≠ utf8Size front + utf8Size text := by omega
    have hslice : slice (front ++ (text ++ rest)) (utf8Size front)
        (utf8Size front + utf8Size text) = .ok text :=
      slice_eq_ok_iff.2 ⟨front, rest, rfl, rfl, rfl⟩
    have htoken := Token.ofSlices_eq (.after front) .fixed text text flags
    rw [Mark.offset_after] at htoken
    rw [if_neg hnil, consumeTo_after]
    simp only [after, if_neg hne, hslice, htoken, bind, Except.bind]
    rfl

/-- A construct that has not been read gives its token. -/
theorem constructToken_after (d : Dialect) (front : List Char) (c : Construct) (rest : List Char) :
    (after front (c.image d ++ rest) mode .none held).constructToken d
        (c.located d (utf8Size front))
      = .ok (c.token d (.after front),
          after (front ++ c.image d) rest (Carry.after d c).mode (Carry.after d c).trim held) := by
  obtain ⟨before, behind, himage, hbefore⟩ := c.exists_image_eq d
  have hleading := c.leadingAfter_located d (utf8Size front)
  have hraw := c.beginsRaw_token d (utf8Size front) (.after front)
  have hconsume : (after front (c.image d ++ rest) mode .none held).consumeTo
      (c.located d (utf8Size front)).stop
        = .ok (after (front ++ c.image d) rest mode .none held) :=
    consumeTo_after mode .none held front (c.image d) rest
  have hslice : slice (front ++ (c.image d ++ rest)) (c.located d (utf8Size front)).start
      (c.located d (utf8Size front)).stop = .ok (c.image d) :=
    slice_eq_ok_iff.2 ⟨front, rest, rfl, rfl, rfl⟩
  have hcontent : slice (front ++ (c.image d ++ rest)) (c.located d (utf8Size front)).contentStart
      (c.located d (utf8Size front)).contentStop = .ok (c.content d) :=
    slice_eq_ok_iff.2 ⟨front ++ before, behind ++ rest, by simp [himage],
      by rw [utf8Size_append, hbefore]; rfl, rfl⟩
  have htoken : Token.ofSlices (c.located d (utf8Size front)).kind (c.image d) (c.content d)
      (c.located d (utf8Size front)).start (c.located d (utf8Size front)).stop
      (Mark.after front).position (c.located d (utf8Size front)).flags
        = .ok (c.token d (.after front)) := by
    have h := Token.ofSlices_eq (.after front) c.kind (c.image d) (c.content d) c.flags
    rw [Mark.offset_after] at h
    exact h
  have hplace : ¬ (after front (c.image d ++ rest) mode .none held).offset
      ≠ (c.located d (utf8Size front)).start := fun h => h rfl
  unfold constructToken
  simp only [bind, Except.bind, if_neg hplace, hconsume]
  simp only [after, hslice, hcontent, htoken, hleading, hraw]
  rfl

/-- The text before a construct and the construct are read. -/
theorem emitAround_after (d : Dialect) {front text tail : List Char} {c : Construct}
    (h : c.splitBefore d (startsLineAfter true front) (text ++ tail) = (text, tail))
    (rest : List Char) (flags : Flags) :
    (after front (text ++ tail ++ c.image d ++ rest) mode .none none).emitAround d
        (c.located d (utf8Size (front ++ (text ++ tail)))) flags
      = let text? := Token.ofText? (.after front) text flags
        let construct := c.token d (.after (front ++ (text ++ tail)))
        .ok (text?.getD construct, after (front ++ (text ++ tail) ++ c.image d) rest
          (Carry.after d c).mode (Carry.after d c).trim (text?.bind fun _ => construct)) := by
  have hend : d.textEnd (front ++ (text ++ tail ++ c.image d ++ rest)) (utf8Size front)
      (c.located d (utf8Size (front ++ (text ++ tail))))
        = .ok (utf8Size front + utf8Size text) := by
    rw [utf8Size_append, List.append_assoc (text ++ tail), d.textEnd_append c rfl, h]
  have htext := textToken?_after mode .none none front text (tail ++ (c.image d ++ rest)) flags
  have htail : (after (front ++ text) (tail ++ (c.image d ++ rest)) mode .none none).consumeTo
      (c.located d (utf8Size (front ++ (text ++ tail)))).start
        = .ok (after (front ++ (text ++ tail)) (c.image d ++ rest) mode .none none) := by
    have hconsume := consumeTo_after mode .none none (front ++ text) tail (c.image d ++ rest)
    rw [← utf8Size_append, List.append_assoc] at hconsume
    exact hconsume
  have hconstruct := constructToken_after mode none d (front ++ (text ++ tail)) c rest
  have hsource : text ++ (tail ++ (c.image d ++ rest)) = text ++ tail ++ c.image d ++ rest := by
    simp only [List.append_assoc]
  rw [hsource] at htext
  unfold emitAround
  simp only [source_after, offset_after, hend, bind, Except.bind, htext, htail, hconstruct]
  cases Token.ofText? (.after front) text flags <;> rfl

theorem textFlags_eq (carry : Carry) (unterminated : Bool) : carry.textFlags unterminated
    = { raw := carry.raw, unterminated := carry.raw && unterminated } := by
  unfold Carry.textFlags
  cases carry.raw <;> rfl

/-- The text after the last construct is read, in a raw block or outside. -/
theorem scan_of_none (d : Dialect) {carry : Carry} {lead text : List Char}
    (hlead : carry.trim.split (lead ++ text) = (lead, text))
    (hopening : d.nextOpening? carry.raw text = none) (front : List Char) :
    (after front (lead ++ text) carry.mode carry.trim none).scan d carry.raw
      = .ok (Token.ofText? (.after (front ++ lead)) text (carry.textFlags true),
          after (front ++ lead ++ text) [] .finished .none none) := by
  have hskip := skipLead_after carry.mode none hlead front
  have hseek := d.seekOpening?_append carry.raw (front ++ lead) text
  have htext := textToken?_after .finished .none none (front ++ lead) text [] (carry.textFlags true)
  rw [hopening] at hseek
  rw [← utf8Size_append, List.append_nil, textFlags_eq, Bool.and_true] at htext
  unfold scan
  simp only [bind, Except.bind, hskip, source_after, offset_after, hseek]
  rw [textFlags_eq, Bool.and_true]
  exact htext

/-- A text and the construct that ends it are read, in a raw block or outside. -/
theorem scan_of_some (d : Dialect) {carry : Carry} {front lead text tail body rest : List Char}
    {markup : Markup} {c : Construct}
    (hlead : carry.trim.split (lead ++ text ++ tail ++ c.image d ++ rest)
      = (lead, text ++ tail ++ c.image d ++ rest))
    (hopening : d.nextOpening? carry.raw (text ++ tail ++ c.image d ++ rest)
      = some ⟨text ++ tail, markup, body⟩)
    (hlocate : d.locate markup body = (c, rest))
    (htail : c.splitBefore d (startsLineAfter true (front ++ lead)) (text ++ tail) = (text, tail)) :
    (after front (lead ++ text ++ tail ++ c.image d ++ rest) carry.mode carry.trim none).scan d
        carry.raw
      = let text? := Token.ofText? (.after (front ++ lead)) text (carry.textFlags false)
        let construct := c.token d (.after (front ++ lead ++ (text ++ tail)))
        .ok (text?.getD construct, after (front ++ lead ++ (text ++ tail) ++ c.image d) rest
          (Carry.after d c).mode (Carry.after d c).trim (text?.bind fun _ => construct)) := by
  have hskip := skipLead_after carry.mode none hlead front
  have hseek := d.seekOpening?_append carry.raw (front ++ lead) (text ++ tail ++ c.image d ++ rest)
  have hlocated : d.locateAt (front ++ lead ++ (text ++ tail ++ c.image d ++ rest)) markup
      (utf8Size (front ++ lead ++ (text ++ tail)))
        = .ok (c.located d (utf8Size (front ++ lead ++ (text ++ tail)))) := by
    have h := d.locateAt_append (front ++ lead ++ (text ++ tail)) markup body
    rw [hlocate, ← d.image_append_of_locate_eq hlocate] at h
    rw [← h]
    simp only [List.append_assoc]
  have hemit := emitAround_after carry.mode d htail rest (carry.textFlags false)
  rw [hopening, Option.map_some, ← utf8Size_append] at hseek
  rw [textFlags_eq, Bool.and_false] at hemit ⊢
  unfold scan
  simp only [bind, Except.bind, hskip, source_after, offset_after, hseek, hlocated, hemit]
  rfl

/-- A segment is read: its text and its construct, if it has one. -/
theorem scan_after (d : Dialect) (front source : List Char) (carry : Carry) :
    (after front source carry.mode carry.trim none).scan d carry.raw
      = let segment := Segment.read d carry (Mark.after front).startsLine source
        let text? := segment.textToken? carry (.after front)
        let construct? := segment.constructToken? d (.after front)
        .ok (text?.or construct?,
          after (front ++ (segment.lead ++ segment.text ++ segment.tail ++ segment.image d))
            segment.rest (segment.construct.elim .finished fun c => (Carry.after d c).mode)
            (segment.carryAfter d).trim (text?.bind fun _ => construct?)) := by
  have hreads := reads_tokenizeFrom d carry front source
  generalize tokenizeFrom d carry (.after front) source = tokens at hreads
  cases hreads with
  | last hlead hopening =>
    rw [Segment.read_of_none hlead hopening, scan_of_none d hlead hopening]
    simp [Segment.textToken?, Segment.constructToken?, Segment.image, Segment.carryAfter,
      Mark.after_append]
  | @next _ _ lead text tail _ _ c _ _ hlead hopening hlocate htail =>
    rw [Segment.read_after hlead hopening hlocate htail,
      scan_of_some d hlead hopening hlocate htail]
    simp only [Segment.textToken?, Segment.constructToken?, Segment.image, Segment.carryAfter,
      Option.isNone_some, Option.map_some, ← Mark.after_append, List.append_assoc]
    cases Token.ofText? (.after (front ++ lead)) text (carry.textFlags false) <;> rfl

theorem produce_of_finished (d : Dialect) {s : OffsetScanner} (h : s.mode = .finished) :
    s.produce d = .ok (none, s) := by
  rw [produce, if_pos h]

/-- As long as something is looked for, one scan gives a token or comes to the end. -/
theorem produce_of_ne_finished (d : Dialect) {s : OffsetScanner} (h : s.mode ≠ .finished) :
    s.produce d = s.scan d (s.mode == .raw) := by
  rw [produce, if_neg h]
  split
  · next breach hscan => rw [hscan]
  · next t s' hscan => rw [hscan]
  · next s' hscan => rw [hscan, produce_of_finished d (mode_of_scan hscan)]

/-- A scanner of a source in memory and a scanner of characters are at the same place. -/
inductive Follows : OffsetScanner → Scanner → Prop
  /-- In a text, or in a raw block. -/
  | reading (front rest : List Char) (carry : Carry) (held : Option Token) :
      Follows (after front rest carry.mode carry.trim held)
        { carry, mark := .after front, rest, held }
  /-- At the end. -/
  | finished (front : List Char) (held : Option Token) :
      Follows (after front [] .finished .none held) { mark := .after front, rest := [], held }

theorem follows_ofSource (source : List Char) :
    Follows (ofSource source) (Scanner.ofSource source) := .reading [] source {} none

theorem Follows.offset_eq {s : OffsetScanner} {t : Scanner} (h : Follows s t) :
    s.offset = t.offset := by
  cases h <;> exact (Mark.offset_after _).symm

theorem Follows.held_eq {s : OffsetScanner} {t : Scanner} (h : Follows s t) : s.held = t.held := by
  cases h <;> rfl

/-- From the same place both scanners give the same token, and are at the same place again. -/
theorem Follows.exists_next (d : Dialect) {s : OffsetScanner} {t : Scanner} (h : Follows s t) :
    ∃ s', s.next d = .ok ((t.next d).1, s') ∧ Follows s' (t.next d).2 := by
  cases h with
  | reading front rest carry held =>
    cases held with
    | some u => exact ⟨_, rfl, .reading front rest carry none⟩
    | none =>
      have hmode : carry.mode ≠ .finished ∧ (carry.mode == .raw) = carry.raw := by
        unfold Carry.mode
        cases carry.raw <;> decide
      have hproduce : (after front rest carry.mode carry.trim none).produce d = _ :=
        produce_of_ne_finished d hmode.1
      have hscan := scan_after d front rest carry
      rw [← hmode.2] at hscan
      refine ⟨_, hproduce.trans hscan, ?_⟩
      dsimp only [Scanner.next]
      cases hconstruct : (Segment.read d carry (Mark.after front).startsLine rest).construct with
      | none =>
        have hrest := Segment.rest_eq_nil hconstruct
        simp only [hrest, Segment.carryAfter, Segment.markAfter, hconstruct, ← Mark.after_append]
        exact .finished _ _
      | some c =>
        simp only [Segment.carryAfter, Segment.markAfter, hconstruct, ← Mark.after_append]
        exact .reading _ _ _ _
  | finished front held =>
    cases held with
    | some u => exact ⟨_, rfl, .finished front none⟩
    | none =>
      have hread := Segment.read_of_none (Carry.split_empty []) (d.nextOpening?_nil false)
        (Mark.after front).startsLine
      dsimp only [Scanner.next]
      rw [hread]
      exact ⟨_, produce_of_finished d rfl, .finished front none⟩

/-- Any number of calls keep every contract and give what the scanner of characters gives. -/
theorem Follows.exists_calls (d : Dialect) {s : OffsetScanner} {t : Scanner} (h : Follows s t)
    (n : Nat) : ∃ s', s.calls d n = .ok ((t.calls d n).1, s') ∧ Follows s' (t.calls d n).2 := by
  induction n generalizing s t with
  | zero => exact ⟨s, rfl, h⟩
  | succ n ih =>
    obtain ⟨s₁, hnext, hfollows⟩ := h.exists_next d
    obtain ⟨s₂, hcalls, hfollows'⟩ := ih hfollows
    refine ⟨s₂, ?_, hfollows'⟩
    simp only [calls, bind, Except.bind, hnext, hcalls]
    rfl

end OffsetScanner

/-- For every dialect and every source, any number of calls succeed: no text is cut out but between
two characters of the source, no move goes back, behind the source or into a character, no more than
three bytes are looked for at once, a construct is read where the scanner is, and every image has
the size of its span. The calls give what the scanner of characters gives, and not more tokens than
the source has bytes. After them one more call succeeds too, and if it gives a token that was not
held, the scanner has moved. -/
theorem OffsetScanner.calls_ofSource (d : Dialect) (source : List Char) (n : Nat) :
    (∃ given s, (ofSource source).calls d n = .ok (given, s) ∧
      given = ((Scanner.ofSource source).calls d n).1 ∧
      (given.filterMap id).length ≤ utf8Size source ∧
      ∃ t? s', s.next d = .ok (t?, s') ∧
        (s.held = none → t?.isSome = true → s.offset < s'.offset)) ∧
    (tokenize d source).length ≤ utf8Size source := by
  refine ⟨?_, (reads_tokenize d source).length_le⟩
  obtain ⟨s, hcalls, hfollows⟩ := (follows_ofSource source).exists_calls d n
  obtain ⟨s', hnext, hfollows'⟩ := hfollows.exists_next d
  have hwork := (Scanner.ofSource source).length_calls_le d n
  have hsize := length_le_utf8Size source
  have hsource : (Scanner.ofSource source).workLeft = source.length := rfl
  refine ⟨_, s, hcalls, rfl, by omega, _, s', hnext, fun hheld hsome => ?_⟩
  rw [hfollows.offset_eq, hfollows'.offset_eq]
  exact Scanner.offset_lt_of_next d (hfollows.held_eq ▸ hheld) hsome

end TemplateLexer
