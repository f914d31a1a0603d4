import TemplateLexer.Tokenize

/-!
# Runs over a source

`Reads d carry front rest tokens` is the judgement that `tokens` are the tokens of `rest`, when
`front` has been read and its last construct left `carry`. One rule reads a segment with a
construct, the other the text after the last construct. A statement about all token streams is an
induction on this judgement.

* `reads_tokenize`: the tokens of a source are read from it.
* `Reads.after_construct`: after a construct of the stream the run goes on with what the construct
  left behind.
* `Reads.standsIn`: every token stands in the source where its span and its position say.
* `startsLine_after`: the column tells whether a line starts.
-/

namespace TemplateLexer

/-- Whether a line starts after two texts is what it is after the second, as it was after the
first. -/
theorem startsLineAfter_append {before : Bool} (front back : List Char) :
    startsLineAfter (startsLineAfter before front) back
      = startsLineAfter before (front ++ back) := by
  cases h : back.getLast? with
  | none => simp [List.getLast?_eq_none_iff.1 h, startsLineAfter]
  | some c => simp [startsLineAfter, List.getLast?_append, h]

theorem startsLineAfter_iff {front : List Char} :
    startsLineAfter true front = true ↔ front = [] ∨ front.getLast? = some '\n' := by
  unfold startsLineAfter
  cases h : front.getLast? with
  | none => simp [List.getLast?_eq_none_iff.1 h]
  | some c =>
    have hne : front ≠ [] := fun h' => by simp [h'] at h
    simp [hne]

/-- The column is 0 at the beginning and after a line feed, and nowhere else: it grows with every
other character, and stays at its limit and does not come back to 0. -/
theorem Mark.startsLine_after (front : List Char) :
    (after front).startsLine = startsLineAfter true front := by
  rcases List.eq_nil_or_concat front with rfl | ⟨front, c, rfl⟩
  · rfl
  · rw [List.concat_eq_append, after_append]
    unfold startsLine startsLineAfter advance
    simp only [Position.advance_cons, Position.advance_nil, List.getLast?_append,
      List.getLast?_singleton, Option.some_or]
    unfold Position.next
    by_cases hc : c = '\n'
    · simp [hc]
    · have hpos : min ((after front).position.column + 1) Position.limit ≠ 0 := by
        unfold Position.limit
        omega
      rw [if_neg hc, beq_eq_false_iff_ne.2 hpos, beq_eq_false_iff_ne.2 hc]

/-- The tokens of `rest` after `front`, whose last construct left `carry`. -/
inductive Reads (d : Dialect) : Carry → List Char → List Char → List Token → Prop
  /-- The last text, with no construct after it. -/
  | last {carry front lead text}
      (lead_split : carry.trim.split (lead ++ text) = (lead, text))
      (no_opening : d.nextOpening? carry.raw text = none) :
      Reads d carry front (lead ++ text)
        (Token.ofText? (.after (front ++ lead)) text (carry.textFlags true)).toList
  /-- A text and the construct that ends it. -/
  | next {carry front lead text tail markup body construct rest tokens}
      (lead_split : carry.trim.split (lead ++ text ++ tail ++ construct.image d ++ rest)
        = (lead, text ++ tail ++ construct.image d ++ rest))
      (opening : d.nextOpening? carry.raw (text ++ tail ++ construct.image d ++ rest)
        = some ⟨text ++ tail, markup, body⟩)
      (located : d.locate markup body = (construct, rest))
      (tail_split : construct.splitBefore d (startsLineAfter true (front ++ lead)) (text ++ tail)
        = (text, tail))
      (reads : Reads d (.after d construct)
        (front ++ (lead ++ text ++ tail ++ construct.image d)) rest tokens) :
      Reads d carry front (lead ++ text ++ tail ++ construct.image d ++ rest)
        ((Token.ofText? (.after (front ++ lead)) text (carry.textFlags false)).toList
          ++ construct.token d (.after (front ++ (lead ++ text ++ tail))) :: tokens)

namespace Segment

variable {d : Dialect} {carry : Carry} {source lead : List Char}

theorem read_of_none {text : List Char} (hlead : carry.trim.split source = (lead, text))
    (hopening : d.nextOpening? carry.raw text = none) (lineStart : Bool) :
    read d carry lineStart source = { lead, text, tail := [], construct := none, rest := [] } := by
  simp [read, hlead, hopening]

theorem read_of_some {text tail body rest : List Char} {o : Opening} {c : Construct}
    {lineStart : Bool}
    (hlead : carry.trim.split source = (lead, body))
    (hopening : d.nextOpening? carry.raw body = some o)
    (hlocate : d.locate o.markup o.body = (c, rest))
    (htail : c.splitBefore d (startsLineAfter lineStart lead) o.before = (text, tail)) :
    read d carry lineStart source = { lead, text, tail, construct := some c, rest } := by
  simp [read, hlead, hopening, hlocate, htail]

/-- The same behind a text, which tells whether a line starts. -/
theorem read_after {front text tail body rest : List Char} {o : Opening} {c : Construct}
    (hlead : carry.trim.split source = (lead, body))
    (hopening : d.nextOpening? carry.raw body = some o)
    (hlocate : d.locate o.markup o.body = (c, rest))
    (htail : c.splitBefore d (startsLineAfter true (front ++ lead)) o.before = (text, tail)) :
    read d carry (Mark.after front).startsLine source
      = { lead, text, tail, construct := some c, rest } := by
  refine read_of_some hlead hopening hlocate ?_
  rw [Mark.startsLine_after, startsLineAfter_append, htail]

end Segment

/-- The tokens of a source are those of its first segment and of what is left after it. -/
theorem tokenizeFrom_of_read {d : Dialect} {carry : Carry} {m : Mark} {source : List Char}
    {s : Segment} (h : Segment.read d carry m.startsLine source = s) :
    tokenizeFrom d carry m source =
      (s.textToken? carry m).toList ++ (s.constructToken? d m).toList ++
        match s.construct with
        | none => []
        | some _ => tokenizeFrom d (s.carryAfter d) (s.markAfter d m) s.rest := by
  subst h
  rw [tokenizeFrom]
  congr 1
  split <;> next h => simp [h]

/-- One step of a run for each segment, by induction on the length of what is left. -/
theorem reads_tokenizeFrom (d : Dialect) (carry : Carry) (front rest : List Char) :
    Reads d carry front rest (tokenizeFrom d carry (.after front) rest) := by
  induction hlen : rest.length using Nat.strongRecOn generalizing carry front rest with
  | ind n ih =>
    subst hlen
    have hlead := carry.trim.append_split rest
    rcases hsplit : carry.trim.split rest with ⟨lead, body⟩
    simp only [hsplit] at hlead
    cases hopening : d.nextOpening? carry.raw body with
    | none =>
      have hread := Segment.read_of_none hsplit hopening (Mark.after front).startsLine
      subst hlead
      rw [tokenizeFrom_of_read hread]
      simpa [Segment.textToken?, Segment.constructToken?, Mark.after_append] using
        Reads.last hsplit hopening
    | some o =>
      rcases hlocate : d.locate o.markup o.body with ⟨c, rest'⟩
      rcases htail : c.splitBefore d (startsLineAfter true (front ++ lead)) o.before
        with ⟨text, tail⟩
      have hread := Segment.read_after hsplit hopening hlocate htail
      have hbefore : text ++ tail = o.before := by
        simpa [htail] using c.append_splitBefore d (startsLineAfter true (front ++ lead)) o.before
      have himage := d.image_append_of_locate_eq hlocate
      have hbody : text ++ tail ++ c.image d ++ rest' = body := by
        rw [← d.sourceOf_of_nextOpening? hopening, Dialect.sourceOf, ← hbefore,
          List.append_assoc (text ++ tail), himage, List.append_assoc (text ++ tail)]
      have hrest : lead ++ text ++ tail ++ c.image d ++ rest' = rest := by
        rw [← hlead, ← hbody]
        simp only [List.append_assoc]
      have hshorter : rest'.length < rest.length := by
        have := List.length_pos_iff.2 (c.image_ne_nil d)
        rw [← hrest]
        simp only [List.length_append]
        omega
      have hreads := ih rest'.length hshorter (.after d c)
        (front ++ (lead ++ text ++ tail ++ c.image d)) rest' rfl
      obtain ⟨before, markup, obody⟩ := o
      subst hbefore hbody hrest
      rw [tokenizeFrom_of_read hread]
      simpa [Segment.textToken?, Segment.constructToken?, Segment.carryAfter, Segment.markAfter,
        Segment.image, Mark.after_append, Mark.advance_append] using
        Reads.next hsplit hopening hlocate htail hreads

/-- What is read is what `tokenizeFrom` gives. -/
theorem Reads.eq_tokenizeFrom {d : Dialect} {carry : Carry} {front rest : List Char}
    {tokens : List Token} (h : Reads d carry front rest tokens) :
    tokens = tokenizeFrom d carry (.after front) rest := by
  induction h with
  | @last carry front lead text lead_split no_opening =>
    rw [tokenizeFrom_of_read (Segment.read_of_none lead_split no_opening _)]
    simp [Segment.textToken?, Segment.constructToken?, Mark.after_append]
  | @next carry front lead text tail markup body c rest tokens lead_split opening located tail_split
      reads ih =>
    rw [tokenizeFrom_of_read (Segment.read_after lead_split opening located tail_split), ih]
    simp [Segment.textToken?, Segment.constructToken?, Segment.carryAfter, Segment.markAfter,
      Segment.image, Mark.after_append, Mark.advance_append]

/-- The tokens of a source are read from it. -/
theorem reads_tokenize (d : Dialect) (source : List Char) :
    Reads d {} [] source (tokenize d source) :=
  reads_tokenizeFrom d {} [] source

/-- A source has no more tokens than bytes: a token takes one at least. -/
theorem Reads.length_le {d : Dialect} {carry : Carry} {front rest : List Char} {tokens : List Token}
    (h : Reads d carry front rest tokens) : tokens.length ≤ utf8Size rest := by
  induction h with
  | @last carry front lead text =>
    have htoken := Token.length_ofText?_le (.after (front ++ lead)) text (carry.textFlags true)
    have hsize := length_le_utf8Size text
    rw [utf8Size_append]
    omega
  | @next carry front lead text tail _ _ c _ _ _ _ _ _ _ ih =>
    have htoken := Token.length_ofText?_le (.after (front ++ lead)) text (carry.textFlags false)
    have hsize := length_le_utf8Size text
    have himage := List.length_pos_iff.2 (c.image_ne_nil d)
    have hsize' := length_le_utf8Size (c.image d)
    simp only [utf8Size_append, List.length_append, List.length_cons]
    omega

/-! ## Constructs and texts -/

namespace Token

/-- Whether a token is the text of a region. Text that began as an expression or a tag is none. -/
def isText (t : Token) : Bool :=
  t.kind == .fixed && (t.flags == {} || t.flags == { raw := true }
    || t.flags == { raw := true, unterminated := true })

/-- Whether a token is a piece of markup with its closer. -/
def isClosed (t : Token) : Bool := t.kind != .fixed && !t.flags.unterminated

end Token

theorem Token.mem_ofText? {m : Mark} {text : List Char} {flags : Flags} {t : Token} :
    t ∈ (Token.ofText? m text flags).toList ↔ text ≠ [] ∧ t = .stamp m .fixed text text flags := by
  unfold ofText?
  split <;> simp_all

theorem isText_of_mem_ofText? {m : Mark} {text : List Char} {carry : Carry} {unterminated : Bool}
    {t : Token} (h : t ∈ (Token.ofText? m text (carry.textFlags unterminated)).toList) :
    t.isText = true := by
  obtain ⟨-, rfl⟩ := Token.mem_ofText?.1 h
  unfold Token.isText Token.stamp Carry.textFlags
  cases carry.raw <;> cases unterminated <;> rfl

theorem isText_token (d : Dialect) (m : Mark) (c : Construct) : (c.token d m).isText = false := by
  cases c with
  | closed markup content => cases markup <;> rfl
  | openNote content => rfl
  | degraded markup content => rfl

section Splits

variable {texts before after kept more : List Token} {k : Token}

theorem takeWhile_isText (htexts : ∀ t ∈ texts, t.isText = true)
    (hafter : ∀ t ∈ after.head?, t.isText = false) :
    (texts ++ after).takeWhile Token.isText = texts := by
  rw [List.takeWhile_append_of_pos htexts]
  cases after with
  | nil => simp
  | cons t after => simp [hafter t rfl]

/-- The texts before a construct are known by the stream. -/
theorem texts_eq_of_append_eq (h : texts ++ after = kept ++ k :: more)
    (htexts : ∀ t ∈ texts, t.isText = true) (hafter : ∀ t ∈ after.head?, t.isText = false)
    (hkept : ∀ t ∈ kept, t.isText = true) (hk : k.isText = false) :
    texts = kept ∧ after = k :: more := by
  have htake := takeWhile_isText htexts hafter
  rw [h, takeWhile_isText hkept (by simp [hk])] at htake
  subst htake
  exact ⟨rfl, List.append_cancel_left h⟩

/-- A construct of a stream is its first one or comes after it. -/
theorem construct_cases_of_append_eq {t : Token} (h : kept ++ k :: more = before ++ t :: after)
    (hkept : ∀ u ∈ kept, u.isText = true) (ht : t.isText = false) :
    (kept = before ∧ k = t ∧ more = after) ∨
      ∃ before', before = kept ++ k :: before' ∧ more = before' ++ t :: after := by
  rcases List.append_eq_append_iff.1 h with ⟨rest, rfl, hrest⟩ | ⟨rest, rfl, hrest⟩
  · cases rest with
    | nil =>
      obtain ⟨rfl, rfl⟩ := List.cons.inj hrest
      exact .inl ⟨(List.append_nil kept).symm, rfl, rfl⟩
    | cons u rest =>
      obtain ⟨rfl, rfl⟩ := List.cons.inj hrest
      exact .inr ⟨rest, rfl, rfl⟩
  · cases rest with
    | nil =>
      obtain ⟨rfl, rfl⟩ := List.cons.inj hrest
      exact .inl ⟨List.append_nil before, rfl, rfl⟩
    | cons u rest =>
      obtain ⟨rfl, -⟩ := List.cons.inj hrest
      rw [hkept t (List.mem_append_right before List.mem_cons_self)] at ht
      cases ht

end Splits

/-- After a construct a run goes on with what the construct left behind. -/
theorem Reads.after_construct {d : Dialect} {carry : Carry} {front rest : List Char}
    {tokens before after : List Token} {t : Token} (h : Reads d carry front rest tokens)
    (htokens : tokens = before ++ t :: after) (ht : t.isText = false) :
    ∃ c read rest', front ++ rest = read ++ c.image d ++ rest' ∧
      t = c.token d (.after read) ∧ Reads d (.after d c) (read ++ c.image d) rest' after := by
  induction h generalizing before with
  | @last carry front lead text lead_split no_opening =>
    have htext := isText_of_mem_ofText? (t := t) (htokens ▸ List.mem_append_right before
      List.mem_cons_self)
    rw [ht] at htext
    cases htext
  | @next carry front lead text tail markup body c rest tokens lead_split opening located tail_split
      reads ih =>
    have hkept : ∀ t ∈ (Token.ofText? (.after (front ++ lead)) text (carry.textFlags false)).toList,
        t.isText = true := fun t ht => isText_of_mem_ofText? ht
    rcases construct_cases_of_append_eq htokens hkept ht with ⟨-, rfl, rfl⟩ | ⟨before', -, hmore⟩
    · exact ⟨c, front ++ (lead ++ text ++ tail), rest, by simp, rfl, by simpa using reads⟩
    · simpa using ih hmore

/-! ## Places of tokens -/

/-- The image of a token stands in `source` where its span and its position say. -/
def Token.StandsIn (source : List Char) (t : Token) : Prop :=
  ∃ before after, source = before ++ t.image ++ after ∧ t.span.start = utf8Size before ∧
    t.span.stop = utf8Size (before ++ t.image) ∧ t.position = Position.start.advance before

theorem Token.standsIn_stamp (before image after : List Char) (kind : Kind) (content : List Char)
    (flags : Flags) :
    (Token.stamp (.after before) kind image content flags).StandsIn (before ++ image ++ after) :=
  ⟨before, after, rfl, by simp [stamp], by simp [stamp], rfl⟩

theorem Construct.standsIn_token (d : Dialect) (c : Construct) (front rest : List Char) :
    (c.token d (.after front)).StandsIn (front ++ c.image d ++ rest) :=
  Token.standsIn_stamp front (c.image d) rest c.kind (c.content d) c.flags

/-- Every token stands in the source where its span and its position say. -/
theorem Reads.standsIn {d : Dialect} {carry : Carry} {front rest : List Char} {tokens : List Token}
    (h : Reads d carry front rest tokens) : ∀ t ∈ tokens, t.StandsIn (front ++ rest) := by
  induction h with
  | @last carry front lead text lead_split no_opening =>
    intro t ht
    obtain ⟨-, rfl⟩ := Token.mem_ofText?.1 ht
    simpa using Token.standsIn_stamp (front ++ lead) text [] .fixed text (carry.textFlags true)
  | @next carry front lead text tail markup body c rest tokens _ _ _ _ _ ih =>
    intro t ht
    rcases List.mem_append.1 ht with ht | ht
    · obtain ⟨-, rfl⟩ := Token.mem_ofText?.1 ht
      simpa using Token.standsIn_stamp (front ++ lead) text (tail ++ c.image d ++ rest) .fixed text
        (carry.textFlags false)
    · rcases List.mem_cons.1 ht with rfl | ht
      · simpa using c.standsIn_token d (front ++ (lead ++ text ++ tail)) rest
      · simpa using ih t ht

end TemplateLexer
