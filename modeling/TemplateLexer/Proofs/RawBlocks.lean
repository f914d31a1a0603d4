import TemplateLexer.Proofs.Regions
import Mathlib.Data.List.Chain

/-!
# Raw blocks in a stream

After a tag with the name `raw` a raw block begins. What stands up to the next `endraw` tag is one
text, whatever delimiters are in it.

The end of the block is found by one recognizer, `Dialect.isEndRaw`, and the tag there is then
located like any other. The two agree in a dialect whose delimiters cannot be confused with the
inside of an `endraw` tag (`Dialect.EndRawApart`).

* `isSome_endRawHere?_iff`: what the recognizer finds is an `endraw` tag by its grammar.
* `locate_of_isEndRaw`: what is found as the end of a raw block is a closed tag named `endraw`.
* `tokenize_raw`: what follows a raw tag in the stream, and where raw text can stand.
-/

namespace TemplateLexer

/-- Whether a character can be part of what stands between the delimiters of an `endraw` tag. -/
def isEndRawChar (c : Char) : Bool :=
  isAsciiBlank c || (Marker.ofChar? c).isSome || endRawName.contains c

/-- The closer of tags, the opener of notes and the escape character start with characters that
are no quotes and do not occur inside an `endraw` tag. -/
def Dialect.EndRawApart (d : Dialect) : Prop :=
  ∀ text ∈ [d.closer .tag, d.opener .note, [d.escape]], ∀ c ∈ text.head?,
    isEndRawChar c = false ∧ Quote.ofChar? c = none

namespace Token

/-- Whether a token is a tag after which a raw block begins, in a dialect that has raw blocks. -/
def isRawTag (t : Token) : Bool := t.tag?.any fun parts => parts.name == rawName

/-- Whether a token is a tag that ends a raw block. -/
def isEndRawTag (t : Token) : Bool :=
  t.isClosed && t.tag? == some { name := endRawName, helpers := [] }

theorem isText_of_isRawTag {t : Token} (h : t.isRawTag = true) : t.isText = false := by
  have hkind : t.kind = .tag := by
    by_contra hkind
    simp [isRawTag, tag?, hkind] at h
  rw [isText, hkind]
  rfl

end Token

/-! ## The tag that ends a raw block -/

/-- An `endraw` tag with the marker `after` before its closer stands at the front of `text`. -/
def Dialect.EndRawStands (d : Dialect) (after : Option Marker) (text : List Char) : Prop :=
  ∃ before front back rest, (∀ c ∈ front, isAsciiBlank c = true) ∧
    (∀ c ∈ back, isAsciiBlank c = true) ∧
    text = d.opener .tag ++ (endRawContent before front back after ++ (d.closer .tag ++ rest))

/-- No `endraw` tag begins in `text`, which `rest` follows. -/
def Dialect.NoEndRawIn (d : Dialect) (text rest : List Char) : Prop :=
  ∀ back after, back <:+ text → back ≠ [] → ¬ d.EndRawStands after (back ++ rest)

/-- The recognizer reads blanks and a marker as far as they go. So it finds an `endraw` tag without
a marker before its closer only if the closer begins with none of these. -/
theorem isSome_endRawHere?_iff {d : Dialect} {text : List Char} :
    (d.endRawHere? text).isSome = true ↔
      ∃ after, d.EndRawStands after text ∧ (after = none → d.CloserApart) := by
  constructor
  · intro h
    obtain ⟨markup, hmarkup⟩ := Option.isSome_iff_exists.1 h
    obtain ⟨-, body, rfl, hend⟩ := Dialect.exists_of_endRawHere? hmarkup
    obtain ⟨before, front, back, after, rest, hfront, hback, hafter, rfl⟩ := d.isEndRaw_iff.1 hend
    exact ⟨after, ⟨before, front, back, rest, hfront, hback, rfl⟩, hafter⟩
  · rintro ⟨after, ⟨before, front, back, rest, hfront, hback, rfl⟩, hafter⟩
    have hend := Dialect.isEndRaw_append before after hfront hback hafter rest
    simp [Dialect.endRawHere?, hend]

theorem isEndRawChar_of_mem {before after : Option Marker} {front back : List Char}
    (hfront : ∀ c ∈ front, isAsciiBlank c = true) (hback : ∀ c ∈ back, isAsciiBlank c = true)
    {c : Char} (hc : c ∈ endRawContent before front back after) : isEndRawChar c = true := by
  have hmarker {m : Option Marker} (hm : c ∈ Marker.text m) : isEndRawChar c = true := by
    cases m with
    | none => cases hm
    | some m =>
      rw [List.mem_singleton.1 hm]
      simp [isEndRawChar]
  simp only [endRawContent, List.mem_append] at hc
  rcases hc with hc | ((hc | hc) | hc) | hc
  · exact hmarker hc
  · simp [isEndRawChar, hfront c hc]
  · simp [isEndRawChar, hc]
  · simp [isEndRawChar, hback c hc]
  · exact hmarker hc

/-- A character inside an `endraw` tag is passed over. -/
theorem Dialect.EndRawApart.isPassed {d : Dialect} (h : d.EndRawApart) {c : Char}
    (hc : isEndRawChar c = true) : d.IsPassed .tag c := by
  have hne : ∀ text ∈ [d.closer .tag, d.opener .note, [d.escape]], text.head? ≠ some c := by
    intro text htext hhead
    rw [(h text htext c hhead).1] at hc
    cases hc
  refine ⟨fun he => hne [d.escape] (by simp) (by rw [he, List.head?_cons]), ?_,
    hne _ (by simp), hne _ (by simp)⟩
  cases hquote : Quote.ofChar? c with
  | none => rfl
  | some quote =>
    rw [← Quote.char_eq_of_ofChar? hquote] at hc
    cases quote <;> revert hc <;> decide

theorem Dialect.EndRawApart.closerApart {d : Dialect} (h : d.EndRawApart) : d.CloserApart := by
  intro c hc
  have hchar := (h (d.closer .tag) (by simp) c hc).1
  simp only [isEndRawChar, Bool.or_eq_false_iff, Option.isSome_eq_false_iff,
    Option.isNone_iff_eq_none] at hchar
  exact hchar.1

/-- Where the search passes, no `endraw` tag begins. -/
theorem Dialect.EndRawApart.noEndRawIn {d : Dialect} (h : d.EndRawApart) {text rest : List Char}
    (hnone : ∀ back, back <:+ text → back ≠ [] → d.endRawHere? (back ++ rest) = none) :
    d.NoEndRawIn text rest := by
  intro back after hback hne hstands
  have hsome := isSome_endRawHere?_iff.2 ⟨after, hstands, fun _ => h.closerApart⟩
  rw [hnone back hback hne] at hsome
  cases hsome

/-- The content of an `endraw` tag ends where its closer stands. -/
theorem locate_endRawContent {d : Dialect} (hapart : d.EndRawApart) {before after : Option Marker}
    {front back : List Char} (hfront : ∀ c ∈ front, isAsciiBlank c = true)
    (hback : ∀ c ∈ back, isAsciiBlank c = true) (rest : List Char) :
    d.locate .tag (endRawContent before front back after ++ (d.closer .tag ++ rest))
      = (.closed .tag (endRawContent before front back after), rest) := by
  have hquote : ∀ c ∈ (d.closer .tag).head?, Quote.ofChar? c = none :=
    fun c hc => (hapart (d.closer .tag) (by simp) c hc).2
  have hcloser := d.readBody_closer hquote rest
  have hpassed : ∀ c ∈ endRawContent before front back after, d.IsPassed .tag c :=
    fun c hc => hapart.isPassed (isEndRawChar_of_mem hfront hback hc)
  rw [d.locate_of_ne_note (by decide), d.readBody_append_of_passed hpassed hcloser,
    List.append_nil, Construct.ofBodyEnd]

/-- What is found as the end of a raw block is located as a tag with the name `endraw` and without
helpers. -/
theorem locate_of_isEndRaw {d : Dialect} (hapart : d.EndRawApart) {source : List Char}
    (h : d.isEndRaw source = true) :
    ∃ content rest, d.locate .tag source = (.closed .tag content, rest) ∧
      TagParts.read content = ⟨endRawName, []⟩ := by
  obtain ⟨before, front, back, after, rest, hfront, hback, -, rfl⟩ := d.isEndRaw_iff.1 h
  exact ⟨_, rest, locate_endRawContent hapart hfront hback rest,
    read_endRawContent before after hfront hback⟩

/-! ## What a raw block gives -/

/-- `after` are the tokens after the raw tag `t` in the stream of `source`. -/
inductive FollowsRawTag (d : Dialect) (source : List Char) (t : Token) : List Token → Prop
  /-- The block has an end: at most one text, the first `endraw` tag behind what the raw tag
  removes, and the tokens of the rest of the source, read as text. -/
  | ended {front lead text rest body carry u}
      (split : source = front ++ (lead ++ text ++ u.image ++ rest))
      (start : t.span.stop = utf8Size front)
      (removed : IsRemovedAfter d (some t) (lead ++ text ++ u.image ++ rest) lead)
      (no_endRaw : d.NoEndRawIn text (u.image ++ rest))
      (body_raw : body = [] ∨
        ∃ text, body = [text] ∧ text.kind = .fixed ∧ text.flags = { raw := true })
      (endRaw : u.isEndRawTag = true)
      (stop : u.span.stop = utf8Size (front ++ (lead ++ text ++ u.image)))
      (text_mode : carry.raw = false) :
      FollowsRawTag d source t
        (body ++ u :: tokenizeFrom d carry (.after (front ++ (lead ++ text ++ u.image))) rest)
  /-- The block runs to the end of the source: in what the raw tag does not remove there is no
  `endraw` tag, and it is one text, if there is something left. -/
  | unended {front lead text body}
      (split : source = front ++ (lead ++ text))
      (start : t.span.stop = utf8Size front)
      (removed : IsRemovedAfter d (some t) (lead ++ text) lead)
      (no_endRaw : d.NoEndRawIn text [])
      (body_raw : text = [] ∧ body = [] ∨
        text ≠ [] ∧ ∃ u, body = [u] ∧ u.kind = .fixed ∧ u.image = text ∧
          u.flags = { raw := true, unterminated := true } ∧ u.span.stop = utf8Size source) :
      FollowsRawTag d source t body

theorem raw_after (d : Dialect) (c : Construct) (m : Mark) :
    (Carry.after d c).raw = (d.settings.rawBlocks && (c.token d m).isRawTag) := by
  cases c with
  | closed markup content =>
    cases markup <;>
      simp [Carry.after, Token.isRawTag, Construct.kind, Markup.kind, Construct.content]
  | openNote content => simp [Carry.after, Token.isRawTag, Construct.kind]
  | degraded markup content => simp [Carry.after, Token.isRawTag, Construct.kind]

theorem isEndRawTag_token {content : List Char} (h : TagParts.read content = ⟨endRawName, []⟩)
    (d : Dialect) (m : Mark) : ((Construct.closed .tag content).token d m).isEndRawTag = true := by
  rw [Token.isEndRawTag, isClosed_token_closed, Construct.tag?_token]
  simp [Construct.kind, Markup.kind, Construct.content, h]

/-- The token of a text in a raw block, if that is not empty. -/
theorem rawText?_toList {carry : Carry} (hraw : carry.raw = true) (front text : List Char)
    (unterminated : Bool) :
    let text? := Token.ofText? (.after front) text (carry.textFlags unterminated)
    text = [] ∧ text?.toList = [] ∨
      text ≠ [] ∧ ∃ u, text?.toList = [u] ∧ u.kind = .fixed ∧ u.image = text ∧
        u.flags = { raw := true, unterminated } ∧ u.span.stop = utf8Size (front ++ text) := by
  intro text?
  by_cases htext : text = []
  · exact .inl ⟨htext, by simp [text?, Token.ofText?, htext]⟩
  · refine .inr ⟨htext, _, by simp [text?, Token.ofText?, htext]; rfl, rfl, rfl, ?_, ?_⟩
    · simp [Token.stamp, Carry.textFlags, hraw]
    · simp [Token.stamp]

/-- A run in a raw block, by its first step. -/
theorem Reads.followsRawTag {d : Dialect} (hapart : d.EndRawApart) {carry : Carry}
    {front rest : List Char} {after : List Token} (h : Reads d carry front rest after)
    (hraw : carry.raw = true) {t : Token} (hstop : t.span.stop = utf8Size front)
    (hremoved : ∀ rest, IsRemovedAfter d (some t) rest (carry.trim.split rest).1) :
    FollowsRawTag d (front ++ rest) t after := by
  cases h with
  | @last _ _ lead text lead_split no_opening =>
    have hlead := hremoved (lead ++ text)
    rw [lead_split] at hlead
    rw [hraw] at no_opening
    have hnone := d.nextOpening?_eq_none_iff.1 no_opening
    refine .unended rfl hstop hlead (hapart.noEndRawIn ?_) ?_
    · intro back hback hne
      rw [List.append_nil]
      exact hnone back hback hne
    · rw [← List.append_assoc]
      exact rawText?_toList hraw (front ++ lead) text true
  | @next _ _ lead text tail markup body c rest tokens lead_split opening located tail_split
      reads =>
    have hlead := hremoved (lead ++ text ++ tail ++ c.image d ++ rest)
    rw [lead_split] at hlead
    rw [hraw] at opening
    obtain ⟨hmarkup, hend⟩ := d.isEndRaw_of_nextOpening? opening
    dsimp only at hmarkup hend
    subst hmarkup
    obtain ⟨content, rest', hlocate, hparts⟩ := locate_of_isEndRaw hapart hend
    obtain ⟨rfl, rfl⟩ := Prod.mk.inj (hlocate.symm.trans located)
    have himage := d.image_append_of_locate_eq located
    rw [List.append_assoc (text ++ tail), himage] at opening
    have hnone := (d.nextOpening?_eq_some_iff.1 opening).2
    have hkept : lead ++ text ++ tail = lead ++ (text ++ tail) := List.append_assoc lead text tail
    rw [reads.eq_tokenizeFrom]
    rw [hkept] at hlead ⊢
    refine .ended rfl hstop hlead (hapart.noEndRawIn ?_) ?_ ?_ (by simp [Nat.add_assoc]) ?_
    · intro back hback hne
      rw [Construct.image_token, himage]
      exact hnone back hback hne
    · rcases rawText?_toList hraw (front ++ lead) text false with
        ⟨-, hnil⟩ | ⟨-, u, hu, hkind, -, hflags, -⟩
      · exact .inl hnil
      · exact .inr ⟨u, hu, hkind, hflags⟩
    · exact isEndRawTag_token hparts d _
    · simp only [Carry.after, hparts]
      rw [show (endRawName == rawName) = false by decide, Bool.and_false]

/-! ## Where raw text stands -/

/-- Raw text stands where the construct before it left a raw block, by induction on the run. -/
theorem Reads.raw_chain {d : Dialect} {carry : Carry} {front rest : List Char}
    {tokens : List Token} (h : Reads d carry front rest tokens) :
    (∀ t ∈ tokens.head?, t.flags.raw = true → t.kind = .fixed ∧ carry.raw = true) ∧
      tokens.IsChain fun u t => t.flags.raw = true →
        t.kind = .fixed ∧ d.settings.rawBlocks = true ∧ u.isRawTag = true := by
  have htext {m : Mark} {text : List Char} {carry : Carry} {unterminated : Bool} {t : Token}
      (ht : t ∈ Token.ofText? m text (carry.textFlags unterminated)) (hraw : t.flags.raw = true) :
      t.kind = .fixed ∧ carry.raw = true := by
    obtain ⟨-, rfl⟩ := Token.mem_ofText?.1 (Option.mem_toList.2 ht)
    refine ⟨rfl, ?_⟩
    by_contra hcarry
    simp [Token.stamp, Carry.textFlags, hcarry] at hraw
  induction h with
  | @last carry front lead text lead_split no_opening =>
    cases hlast : Token.ofText? (.after (front ++ lead)) text (carry.textFlags true) with
    | none => simp
    | some t => simpa using htext hlast
  | @next carry front lead text tail markup body c rest tokens lead_split opening located tail_split
      reads ih =>
    have hconstruct : c.flags.raw = false := by cases c <;> rfl
    have hmore : (c.token d (.after (front ++ (lead ++ text ++ tail))) :: tokens).IsChain
        fun u t => t.flags.raw = true →
          t.kind = .fixed ∧ d.settings.rawBlocks = true ∧ u.isRawTag = true := by
      refine List.isChain_cons.2 ⟨fun t ht hraw => ?_, ih.2⟩
      obtain ⟨hkind, hafter⟩ := ih.1 t ht hraw
      rw [raw_after d c, Bool.and_eq_true] at hafter
      exact ⟨hkind, hafter⟩
    cases hfirst : Token.ofText? (.after (front ++ lead)) text (carry.textFlags false) with
    | none => simpa [hconstruct] using hmore
    | some t =>
      refine ⟨by simpa using htext hfirst, ?_⟩
      rw [Option.toList_some, List.singleton_append, List.isChain_cons_cons]
      exact ⟨by simp [hconstruct], hmore⟩

theorem raw_tag_before_raw {d : Dialect} {source : List Char} {before after : List Token}
    {t : Token} (htokens : tokenize d source = before ++ t :: after) (hraw : t.flags.raw = true) :
    t.kind = .fixed ∧ d.settings.rawBlocks = true ∧ ∃ u ∈ before.getLast?, u.isRawTag = true := by
  obtain ⟨hhead, hchain⟩ := htokens ▸ (reads_tokenize d source).raw_chain
  rcases List.eq_nil_or_concat before with rfl | ⟨before, u, rfl⟩
  · cases (hhead t rfl hraw).2
  · rw [List.concat_eq_append] at hchain ⊢
    obtain ⟨-, -, hstep⟩ := List.isChain_append.1 hchain
    obtain ⟨hkind, hrawBlocks, hu⟩ := hstep u (by simp) t rfl hraw
    exact ⟨hkind, hrawBlocks, u, by simp, hu⟩

/-- With raw blocks, the stream after a raw tag is at most one raw text and the first `endraw` tag,
after which the source is read as text; or, if there is no `endraw` tag, at most one raw text up to
the end of the source. Raw text stands directly after a raw tag and nowhere else, and without raw
blocks nowhere at all. -/
theorem tokenize_raw (d : Dialect) (source : List Char) :
    (d.settings.rawBlocks = true → d.EndRawApart → ∀ before t after,
      tokenize d source = before ++ t :: after → t.isRawTag = true →
        FollowsRawTag d source t after) ∧
    (∀ before t after, tokenize d source = before ++ t :: after → t.flags.raw = true →
      t.kind = .fixed ∧ ∃ u ∈ before.getLast?, u.isRawTag = true) ∧
    (d.settings.rawBlocks = false → ∀ t ∈ tokenize d source, t.flags.raw = false) := by
  refine ⟨?_, ?_, ?_⟩
  · intro hrawBlocks hapart before t after htokens ht
    obtain ⟨c, read, rest, hsource, rfl, hrest⟩ :=
      (reads_tokenize d source).after_construct htokens (Token.isText_of_isRawTag ht)
    rw [List.nil_append] at hsource
    rw [hsource]
    refine hrest.followsRawTag hapart ?_ (by simp) (isRemovedAfter_token d c _)
    rw [raw_after d c, hrawBlocks, ht, Bool.and_self]
  · intro before t after htokens hraw
    obtain ⟨hkind, -, hu⟩ := raw_tag_before_raw htokens hraw
    exact ⟨hkind, hu⟩
  · intro hrawBlocks t ht
    obtain ⟨before, after, htokens⟩ := List.append_of_mem ht
    by_contra hraw
    rw [Bool.not_eq_false] at hraw
    obtain ⟨-, hon, -⟩ := raw_tag_before_raw htokens hraw
    rw [hrawBlocks] at hon
    cases hon

/-- The standard delimiters, without raw blocks. -/
def Dialect.rawless : Dialect :=
  { Dialect.standard with
    settings := { rawBlocks := false }
    fault?_eq_none := by decide }

/-- A note that is never closed is raw text inside a raw block. -/
theorem tokenize_raw_standard :
    Dialect.standard.settings.rawBlocks = true ∧ Dialect.standard.EndRawApart ∧
    (∃ before t after,
      tokenize .standard "a{% raw %}{# x }{%- endraw %}".toList = before ++ t :: after ∧
      t.isRawTag = true ∧
      FollowsRawTag .standard "a{% raw %}{# x }{%- endraw %}".toList t after) ∧
    (∃ before t after,
      tokenize .standard "a{% raw %}{# x }{%- endraw %}".toList = before ++ t :: after ∧
      t.flags.raw = true ∧ t.kind = .fixed ∧ ∃ u ∈ before.getLast?, u.isRawTag = true) ∧
    Dialect.rawless.settings.rawBlocks = false ∧
    ∀ t ∈ tokenize .rawless "{% raw %}{# x }".toList, t.flags.raw = false := by
  have hapart : Dialect.standard.EndRawApart := by
    intro text htext c hc
    simp only [List.mem_cons, List.not_mem_nil, or_false] at htext
    rcases htext with rfl | rfl | rfl <;> cases hc <;> exact ⟨rfl, rfl⟩
  generalize htokens : tokenize .standard "a{% raw %}{# x }{%- endraw %}".toList = tokens
  have hat {n : Nat} {t : Token} (h : tokens[n]? = some t) :
      tokens = tokens.take n ++ t :: tokens.drop (n + 1) := by
    obtain ⟨hn, rfl⟩ := List.getElem?_eq_some_iff.1 h
    rw [List.getElem_cons_drop, List.take_append_drop]
  have htag : tokens[1]?.any Token.isRawTag = true := by
    rw [← htokens]
    decide +kernel
  have hraw : tokens[2]?.any (fun t => t.flags.raw) = true := by
    rw [← htokens]
    decide +kernel
  obtain ⟨t, ht, htag⟩ := (Option.any_eq_true _ _).1 htag
  obtain ⟨u, hu, hraw⟩ := (Option.any_eq_true _ _).1 hraw
  obtain ⟨hfollows, hafter, -⟩ :=
    tokenize_raw .standard "a{% raw %}{# x }{%- endraw %}".toList
  obtain ⟨hkind, hlast⟩ := hafter _ u _ (htokens.trans (hat hu)) hraw
  exact ⟨rfl, hapart,
    ⟨_, t, _, hat ht, htag, hfollows rfl hapart _ t _ (htokens.trans (hat ht)) htag⟩,
    ⟨_, u, _, hat hu, hraw, hkind, hlast⟩, rfl,
    (tokenize_raw .rawless "{% raw %}{# x }".toList).2.2 rfl⟩

end TemplateLexer
