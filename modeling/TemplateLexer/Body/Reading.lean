import TemplateLexer.Body

/-!
# Bodies, one character at a time

`readBody` reads a body as its author does: a character at a time, with no look at bytes. It is an
automaton with a quote and a pending escape as its state, and it tries the closer before the
opener of a note.

* `scanBody_eq_readBody`: the walk over bytes finds the same end. No byte inside a character is
  one that the walk looks at twice, and at one place at most one of the two delimiters stands.
* `source_readBody`: the end that is found divides the source, and nothing is lost.
* `readBody_append`: where enough of the source was left at the end, more text behind it does not
  change the end.
-/

namespace TemplateLexer

namespace BodyEnd

/-- The end of a body that has one more character in front. -/
def push (c : Char) : BodyEnd → BodyEnd
  | closed content rest => closed (c :: content) rest
  | interrupted content rest => interrupted (c :: content) rest
  | unterminated content => unterminated (c :: content)

/-- The text that a body and what follows it were read from. -/
def source (closer : List Char) : BodyEnd → List Char
  | closed content rest => content ++ closer ++ rest
  | interrupted content rest => content ++ rest
  | unterminated content => content

/-- The offset at which a body ends that starts at `offset`. -/
def stop (offset : Nat) : BodyEnd → BodyStop
  | closed content _ => .closed (offset + utf8Size content)
  | interrupted content _ => .interrupted (offset + utf8Size content)
  | unterminated _ => .unterminated

/-- The same end, with `more` behind what the body was read from. -/
def append (more : List Char) : BodyEnd → BodyEnd
  | closed content rest => closed content (rest ++ more)
  | interrupted content rest => interrupted content (rest ++ more)
  | unterminated content => unterminated (content ++ more)

@[simp] theorem append_push (more : List Char) (c : Char) (e : BodyEnd) :
    (e.push c).append more = (e.append more).push c := by
  cases e <;> rfl

@[simp] theorem source_push (closer : List Char) (c : Char) (e : BodyEnd) :
    (e.push c).source closer = c :: e.source closer := by
  cases e <;> simp [push, source]

@[simp] theorem stop_push (offset : Nat) (c : Char) (e : BodyEnd) :
    (e.push c).stop offset = e.stop (offset + c.utf8Size) := by
  cases e <;> simp [push, stop, Nat.add_assoc]

theorem eq_interrupted_of_push {c : Char} {e : BodyEnd} {content rest : List Char}
    (h : e.push c = interrupted content rest) : ∃ content', e = interrupted content' rest := by
  cases e with
  | interrupted content' rest' => exact ⟨content', by rw [(interrupted.inj h).2]⟩
  | closed => cases h
  | unterminated => cases h

theorem eq_closed_of_push {c : Char} {e : BodyEnd} {content rest : List Char}
    (h : e.push c = closed content rest) : ∃ content', e = closed content' rest := by
  cases e with
  | closed content' rest' => exact ⟨content', by rw [(closed.inj h).2]⟩
  | interrupted => cases h
  | unterminated => cases h

/-- A body is known by its source and the offset of its end. -/
theorem divide_stop {closer text : List Char} {e : BodyEnd} (h : e.source closer = text) :
    (e.stop 0).divide closer text = e := by
  subst h
  cases e with
  | closed content rest =>
    simp only [stop, BodyStop.divide, source, Nat.zero_add]
    rw [← utf8Size_append, dropBytes_append, List.append_assoc, takeBytes_append]
  | interrupted content rest =>
    simp [stop, BodyStop.divide, source, takeBytes_append, dropBytes_append]
  | unterminated content => rfl

end BodyEnd

namespace Dialect

variable (d : Dialect)

/-- Reads a body of `markup` up to its end. -/
def readBody (markup : Markup) : BodyState → List Char → BodyEnd
  | _, [] => .unterminated []
  | state, c :: source =>
    if state.escaped then
      (readBody markup { state with escaped := false } source).push c
    else if c = d.escape then
      (readBody markup { state with escaped := true } source).push c
    else match state.quote with
      | some quote => (readBody markup (if quote.char = c then {} else state) source).push c
      | none =>
        match Quote.ofChar? c with
        | some quote => (readBody markup { quote := some quote } source).push c
        | none =>
          match (d.closer markup).isPrefixOf? (c :: source) with
          | some rest => .closed [] rest
          | none =>
            if (d.afterOpener? .note (c :: source)).isSome then .interrupted [] (c :: source)
            else (readBody markup state source).push c

/-- Where a body ends depends on the escape character, the closer and where a note opens, and on
nothing else of a dialect. -/
theorem readBody_congr {d d' : Dialect} (hescape : d'.escape = d.escape)
    (hcloser : d'.closer = d.closer) (hnote : d'.afterOpener? .note = d.afterOpener? .note)
    (markup : Markup) (state : BodyState) (source : List Char) :
    d'.readBody markup state source = d.readBody markup state source := by
  induction source generalizing state with
  | nil => rfl
  | cons c source ih =>
    rw [readBody, readBody]
    simp only [ih, hescape, hcloser, hnote]

/-- Nothing is lost at the end of a body. -/
theorem source_readBody (markup : Markup) (state : BodyState) (source : List Char) :
    (d.readBody markup state source).source (d.closer markup) = source := by
  fun_induction d.readBody markup state source with
  | case1 => rfl
  | case6 _ _ _ _ _ _ _ _ h => simpa [BodyEnd.source] using append_of_isPrefixOf? h
  | case7 => simp [BodyEnd.source]
  | _ => simp_all

/-- A body is interrupted only where a note opens. -/
theorem isSome_afterOpener?_of_interrupted {markup : Markup} {state : BodyState}
    {source content rest : List Char}
    (h : d.readBody markup state source = .interrupted content rest) :
    (d.afterOpener? .note rest).isSome = true := by
  fun_induction d.readBody markup state source generalizing content with
  | case1 => cases h
  | case6 => cases h
  | case7 _ _ _ _ _ _ _ _ hnote =>
    obtain ⟨-, rfl⟩ := BodyEnd.interrupted.inj h
    exact hnote
  | _ =>
    rename_i ih
    obtain ⟨content', hcontent'⟩ := BodyEnd.eq_interrupted_of_push h
    exact ih hcontent'

/-! ## Bodies without special characters -/

/-- A character that the automaton passes over: neither the escape character nor a quote, and not
the first of a delimiter that could end the body. -/
structure IsPassed (markup : Markup) (c : Char) : Prop where
  ne_escape : c ≠ d.escape
  not_quote : Quote.ofChar? c = none
  not_closer : (d.closer markup).head? ≠ some c
  not_note : (d.opener .note).head? ≠ some c

/-- Text without quotes and without the escape character is in the content, whatever ends the body,
if neither delimiter that could end the body stands in it. -/
theorem readBody_append_of_endless {markup : Markup} {passed source content rest : List Char}
    (hplain : ∀ c ∈ passed, c ≠ d.escape ∧ Quote.ofChar? c = none)
    (hcloser : ∀ back, back <:+ passed → back ≠ [] → ¬ d.closer markup <+: back ++ source)
    (hnote : ∀ back, back <:+ passed → back ≠ [] → ¬ d.opener .note <+: back ++ source)
    (h : d.readBody markup {} source = .closed content rest) :
    d.readBody markup {} (passed ++ source) = .closed (passed ++ content) rest := by
  induction passed with
  | nil => exact h
  | cons c passed ih =>
    obtain ⟨hescape, hquote⟩ := hplain c List.mem_cons_self
    have hcloser' := isPrefixOf?_eq_none_iff.2
      (hcloser _ (List.suffix_refl _) (List.cons_ne_nil c passed))
    have hnote' := isPrefixOf?_eq_none_iff.2
      (hnote _ (List.suffix_refl _) (List.cons_ne_nil c passed))
    have hmore := ih (fun c' hc' => hplain c' (List.mem_cons_of_mem c hc'))
      (fun back hback => hcloser back (hback.trans (List.suffix_cons c passed)))
      (fun back hback => hnote back (hback.trans (List.suffix_cons c passed)))
    rw [List.cons_append] at hcloser' hnote' ⊢
    rw [readBody]
    simp only [hescape, hquote, hcloser', afterOpener?, hnote', Option.filter_none,
      Option.isSome_none, Bool.false_eq_true, if_false]
    rw [hmore, BodyEnd.push, List.cons_append]

theorem not_prefix_append_of_head?_ne {front back source : List Char} (hne : front ≠ [])
    (hback : back ≠ []) (hhead : ∀ c ∈ back, front.head? ≠ some c) :
    ¬ front <+: back ++ source := by
  obtain ⟨c, back, rfl⟩ := List.exists_cons_of_ne_nil hback
  obtain ⟨c', front, rfl⟩ := List.exists_cons_of_ne_nil hne
  rw [List.cons_append, List.cons_prefix_cons]
  rintro ⟨rfl, -⟩
  exact hhead _ List.mem_cons_self rfl

/-- Characters that are passed over are in the content, whatever ends the body. -/
theorem readBody_append_of_passed {markup : Markup} {passed source content rest : List Char}
    (hpassed : ∀ c ∈ passed, d.IsPassed markup c)
    (h : d.readBody markup {} source = .closed content rest) :
    d.readBody markup {} (passed ++ source) = .closed (passed ++ content) rest := by
  have hplain : ∀ c ∈ passed, c ≠ d.escape ∧ Quote.ofChar? c = none :=
    fun c hc => ⟨(hpassed c hc).ne_escape, (hpassed c hc).not_quote⟩
  refine d.readBody_append_of_endless hplain (fun back hback hne => ?_) (fun back hback hne => ?_) h
  · exact not_prefix_append_of_head?_ne (d.closer_ne_nil markup) hne
      fun c hc => (hpassed c (hback.mem hc)).not_closer
  · exact not_prefix_append_of_head?_ne (d.opener_ne_nil .note) hne
      fun c hc => (hpassed c (hback.mem hc)).not_note

/-- A closer that does not start with a quote closes. -/
theorem readBody_closer {markup : Markup}
    (hquote : ∀ c ∈ (d.closer markup).head?, Quote.ofChar? c = none) (rest : List Char) :
    d.readBody markup {} (d.closer markup ++ rest) = .closed [] rest := by
  have hescape := head?_text_ne_escape (d.closing_mem_listed markup)
  have hprefix := isPrefixOf?_append (d.closer markup) rest
  dsimp only at hescape
  obtain ⟨c, closer, hcloser⟩ := List.exists_cons_of_ne_nil (d.closer_ne_nil markup)
  rw [hcloser] at hescape hquote hprefix ⊢
  have hne : c ≠ d.escape := fun hc => hescape (by rw [hc, List.head?_cons])
  rw [List.cons_append] at hprefix ⊢
  rw [readBody]
  simp only [hne, hquote c rfl, hcloser, hprefix, Bool.false_eq_true, if_false]

/-- A body closes only with a closer that does not start with a quote: a quote is looked at before
the closer is tried. -/
theorem ofChar?_of_head?_closer {markup : Markup} {state : BodyState}
    {source content rest : List Char} (h : d.readBody markup state source = .closed content rest) :
    ∀ c ∈ (d.closer markup).head?, Quote.ofChar? c = none := by
  fun_induction d.readBody markup state source generalizing content with
  | case1 => cases h
  | case6 _ c source _ _ _ hquote rest' hcloser =>
    intro c' hc'
    have hprefix := append_of_isPrefixOf? hcloser
    obtain ⟨closer, hc⟩ := List.head?_eq_some_iff.1 hc'
    rw [hc] at hprefix
    rw [(List.cons.inj hprefix).1, hquote]
  | case7 => cases h
  | _ =>
    rename_i ih
    obtain ⟨content', hcontent'⟩ := BodyEnd.eq_closed_of_push h
    exact ih hcontent'

/-! ## More text behind -/

/-- Whether the end of a body of `markup` is decided by what has been read, whatever stands behind
it: at every place before, there was enough text for both the closer and the opener of a note. -/
def IsDecided (markup : Markup) : BodyEnd → Prop
  | .closed _ _ => (d.opener .note).length ≤ (d.closer markup).length
  | .interrupted _ rest =>
    (d.opener .note).length < rest.length ∧ (d.closer markup).length ≤ rest.length
  | .unterminated _ => False

@[simp] theorem isDecided_push {markup : Markup} {c : Char} {e : BodyEnd} :
    d.IsDecided markup (e.push c) ↔ d.IsDecided markup e := by
  cases e <;> rfl

theorem IsDecided.length_le {markup : Markup} {e : BodyEnd} (h : d.IsDecided markup e) :
    (d.closer markup).length ≤ (e.source (d.closer markup)).length ∧
      (d.opener .note).length ≤ (e.source (d.closer markup)).length := by
  unfold IsDecided at h
  unfold BodyEnd.source
  cases e with
  | unterminated content => cases h
  | closed content rest =>
    simp only [List.length_append]
    omega
  | interrupted content rest =>
    simp only [List.length_append]
    omega

/-- A body whose end is decided ends there, whatever stands behind. -/
theorem readBody_append {markup : Markup} {state : BodyState} {source : List Char}
    (h : d.IsDecided markup (d.readBody markup state source)) (more : List Char) :
    d.readBody markup state (source ++ more) = (d.readBody markup state source).append more := by
  fun_induction d.readBody markup state source with
  | case1 => cases h
  | case6 state c source hescaped hescape hquote hnone rest hcloser =>
    have hlength : (d.closer markup).length ≤ (c :: source).length := by
      simp [← append_of_isPrefixOf? hcloser]
    have hmore := isPrefixOf?_append_of_length_le hlength more
    rw [hcloser] at hmore
    rw [List.cons_append] at hmore ⊢
    rw [readBody]
    simp [hescaped, hescape, hquote, hnone, hmore, BodyEnd.append]
  | case7 state c source hescaped hescape hquote hnone hcloser hnote =>
    have hmore := isPrefixOf?_append_of_length_le h.2 more
    have hnote' := isSome_afterOpener?_append h.1 more
    rw [hcloser] at hmore
    rw [hnote] at hnote'
    rw [List.cons_append] at hmore hnote' ⊢
    rw [readBody]
    simp [hescaped, hescape, hquote, hnone, hmore, hnote', BodyEnd.append]
  | case8 state c source hescaped hescape hquote hnone hcloser hnote ih =>
    have he := d.isDecided_push.1 h
    obtain ⟨hlength, hlength'⟩ := he.length_le
    rw [source_readBody] at hlength hlength'
    have hmore : (d.closer markup).isPrefixOf? (c :: source ++ more) = _ :=
      isPrefixOf?_append_of_length_le (Nat.le_succ_of_le hlength) more
    have hnote' : (d.afterOpener? .note (c :: source ++ more)).isSome = _ :=
      isSome_afterOpener?_append (Nat.lt_succ_of_le hlength') more
    rw [hcloser] at hmore
    rw [Bool.eq_false_iff.2 hnote] at hnote'
    rw [List.cons_append] at hmore hnote' ⊢
    rw [readBody]
    simp [hescaped, hescape, hquote, hnone, hmore, hnote', ih he]
  | _ =>
    rw [List.cons_append, readBody]
    simp_all

/-! ## Bytes that matter -/

variable {d} {markup : Markup}

/-- Only the first byte of a character can matter. -/
theorem exists_leadByte_of_isBodyByte {kind : Kind} {byte : UInt8}
    (h : d.isBodyByte kind byte = true) : ∃ c, leadByte c = byte := by
  have hmem {m : Markup} (hm : byte ∈ d.bodyBytes m) : ∃ c, leadByte c = byte := by
    rcases List.mem_append.1 hm with hm | hm
    · obtain ⟨c, -, rfl⟩ := List.mem_map.1 hm
      exact ⟨c, rfl⟩
    · obtain ⟨text, -, htext⟩ := List.mem_filterMap.1 hm
      obtain ⟨c, -, rfl⟩ := Option.map_eq_some_iff.1 htext
      exact ⟨c, rfl⟩
  cases kind with
  | expression => exact hmem (List.contains_iff_mem.1 h)
  | tag => exact hmem (List.contains_iff_mem.1 h)
  | fixed => cases h
  | note => cases h

/-- The walk passes over the bytes of a character after its first. -/
theorem walkBody_laterBytes {state : BodyState} (hstate : state.escaped = false) (offset : Nat)
    (c : Char) (source : List Char) :
    d.walkBody markup state offset ⟨laterBytes c, source⟩
      = d.walkBody markup state (offset + (laterBytes c).length) (.start source) := by
  have hplain : ∀ byte ∈ laterBytes c, d.isBodyByte markup.kind byte = false := by
    intro byte hbyte
    rw [← Bool.not_eq_true]
    intro h
    obtain ⟨c', rfl⟩ := exists_leadByte_of_isBodyByte h
    exact leadByte_not_mem_laterBytes c' c hbyte
  generalize laterBytes c = later at hplain
  induction later generalizing offset with
  | nil => rfl
  | cons byte later ih =>
    have hbyte := hplain byte List.mem_cons_self
    rw [walkBody]
    dsimp only [Cursor.next?]
    simp only [hstate, hbyte, Bool.false_eq_true, Bool.not_false, if_true, if_false]
    rw [ih (offset + 1) fun b hb => hplain b (List.mem_cons_of_mem _ hb), List.length_cons]
    congr 1
    omega

theorem isBodyByte_of_mem (hm : markup ≠ .note) {c : Char}
    (h : leadByte c ∈ d.bodyBytes markup) : d.isBodyByte markup.kind (leadByte c) = true := by
  cases markup with
  | note => exact absurd rfl hm
  | expression => exact List.contains_iff_mem.2 h
  | tag => exact List.contains_iff_mem.2 h

theorem leadByte_mem_bodyBytes {text source : List Char} {c : Char}
    (htext : text = d.closer markup ∨ text = d.opener .note) (hne : text ≠ [])
    (h : text <+: c :: source) : leadByte c ∈ d.bodyBytes markup := by
  have hhead : text.head? = some c := by
    obtain ⟨c', text, rfl⟩ := List.exists_cons_of_ne_nil hne
    simp only [List.cons_prefix_cons] at h
    simp [h.1]
  refine List.mem_append_right _ (List.mem_filterMap.2 ⟨text, by simpa using htext, ?_⟩)
  simp [hhead]

/-- A character whose first byte does not matter is neither the escape character nor a quote, and
neither delimiter that could end the body stands there. -/
theorem plain_of_isBodyByte_eq_false (hm : markup ≠ .note) {c : Char}
    (h : d.isBodyByte markup.kind (leadByte c) = false) (source : List Char) :
    c ≠ d.escape ∧ Quote.ofChar? c = none ∧ (d.closer markup).isPrefixOf? (c :: source) = none ∧
      d.afterOpener? .note (c :: source) = none := by
  have hbytes : leadByte c ∉ d.bodyBytes markup := fun hc => by simp [isBodyByte_of_mem hm hc] at h
  have hfirst : leadByte c ∉ ['\'', '"', d.escape].map leadByte :=
    fun hc => hbytes (List.mem_append_left _ hc)
  refine ⟨?_, ?_, ?_, ?_⟩
  · rintro rfl
    exact hfirst (by simp)
  · cases hquote : Quote.ofChar? c with
    | none => rfl
    | some quote =>
      rw [← Quote.char_eq_of_ofChar? hquote] at hfirst
      exact absurd (by cases quote <;> simp [Quote.char]) hfirst
  · exact isPrefixOf?_eq_none_iff.2 fun hp =>
      hbytes (leadByte_mem_bodyBytes (.inl rfl) (d.closer_ne_nil markup) hp)
  · have hnote : (d.opener .note).isPrefixOf? (c :: source) = none :=
      isPrefixOf?_eq_none_iff.2 fun hp =>
        hbytes (leadByte_mem_bodyBytes (.inr rfl) (d.opener_ne_nil .note) hp)
    simp [afterOpener?, hnote]

/-! ## The walk and the automaton -/

/-- Where a body ends does not depend on which of the two delimiters is tried first. -/
theorem stopHere?_start (markup : Markup) (offset : Nat) (source : List Char) :
    d.stopHere? markup offset (.start source) =
      match (d.closer markup).isPrefixOf? source with
      | some _ => some (.closed offset)
      | none => if (d.afterOpener? .note source).isSome then some (.interrupted offset) else none
      := by
  unfold stopHere?
  rw [Cursor.startsWith_start, opensAt_start]
  cases hcloser : (d.closer markup).isPrefixOf? source with
  | none => simp [isPrefixOf?_eq_none_iff.1 hcloser]
  | some rest =>
    have hprefix : d.closer markup <+: source := ⟨rest, append_of_isPrefixOf? hcloser⟩
    -- A note that opens where the body closes would be two delimiters at one place.
    have hnote : d.afterOpener? .note source = none := by
      unfold afterOpener?
      rw [isPrefixOf?_eq_none_iff.2, Option.filter_none]
      intro hopener
      have := eq_of_both_stand (d.closing_mem_listed markup) (d.opening_mem_listed .note) hprefix
        hopener
      simp at this
    simp [hnote, List.isPrefixOf_iff_prefix.2 hprefix]

/-- The walk passes over an escaped character. -/
theorem walkBody_of_escaped {state : BodyState} (h : state.escaped = true) (offset : Nat) (c : Char)
    (source : List Char) :
    d.walkBody markup state offset (.start (c :: source))
      = d.walkBody markup { state with escaped := false } (offset + c.utf8Size)
          (.start source) := by
  rw [walkBody, Cursor.charAt?_start, List.head?_cons]
  dsimp only [Cursor.start, Cursor.next?, Option.elim_some]
  rw [if_pos h, Cursor.skip_laterBytes, Cursor.start]

/-- The walk passes over a character whose first byte does not matter. -/
theorem walkBody_of_plain {state : BodyState} (h : state.escaped = false) (offset : Nat) {c : Char}
    (hbyte : d.isBodyByte markup.kind (leadByte c) = false) (source : List Char) :
    d.walkBody markup state offset (.start (c :: source))
      = d.walkBody markup state (offset + c.utf8Size) (.start source) := by
  rw [walkBody]
  dsimp only [Cursor.start, Cursor.next?]
  rw [if_neg (by simp [h]), if_pos (by simp [hbyte]), walkBody_laterBytes h, Nat.add_assoc,
    length_laterBytes, Cursor.start]

/-- So does the automaton. -/
theorem readBody_of_plain (hm : markup ≠ .note) {state : BodyState} (h : state.escaped = false)
    {c : Char} (hbyte : d.isBodyByte markup.kind (leadByte c) = false) (source : List Char) :
    d.readBody markup state (c :: source) = (d.readBody markup state source).push c := by
  obtain ⟨hescape, hquote, hcloser, hnote⟩ := plain_of_isBodyByte_eq_false hm hbyte source
  rw [readBody, if_neg (by simp [h]), if_neg hescape]
  cases hquoted : state.quote with
  | some quote => simp only [if_neg (Quote.char_ne_of_ofChar? hquote quote)]
  | none => simp [hquote, hcloser, hnote]

/-- The walk over the bytes of a text stops where reading the text stops. -/
theorem walkBody_start (hm : markup ≠ .note) (state : BodyState) (offset : Nat)
    (source : List Char) :
    d.walkBody markup state offset (.start source)
      = (d.readBody markup state source).stop offset := by
  induction source generalizing state offset with
  | nil =>
    rw [walkBody, readBody, BodyEnd.stop]
    rfl
  | cons c source ih =>
    by_cases hescaped : state.escaped = true
    · rw [walkBody_of_escaped hescaped, ih, readBody, if_pos hescaped, BodyEnd.stop_push]
    rw [Bool.not_eq_true] at hescaped
    by_cases hbyte : d.isBodyByte markup.kind (leadByte c) = true
    · have hpass (state : BodyState) (h : state.escaped = false) :
          d.walkBody markup state (offset + 1) ⟨laterBytes c, source⟩
            = ((d.readBody markup state source).push c).stop offset := by
        rw [walkBody_laterBytes h, ih, BodyEnd.stop_push, Nat.add_assoc, length_laterBytes]
      have hstop := stopHere?_start (d := d) markup offset (c :: source)
      rw [walkBody, readBody, Cursor.charAt?_start, List.head?_cons]
      dsimp only [Cursor.start, Cursor.next?] at hstop ⊢
      simp only [hescaped, hbyte, Bool.not_true, if_false, Bool.false_eq_true, Option.some.injEq]
      by_cases hescape : c = d.escape
      · rw [if_pos hescape, if_pos hescape, ← hescape, Cursor.skip_laterBytes, ih,
          BodyEnd.stop_push]
      rw [if_neg hescape, if_neg hescape]
      cases hquoted : state.quote with
      | some quote =>
        simp only [Quote.leadByte_char_eq_iff]
        rw [hpass]
        split <;> simp [hescaped]
      | none =>
        simp only [Quote.ofByte?_leadByte, hstop]
        cases hquote : Quote.ofChar? c with
        | some quote => exact hpass _ rfl
        | none =>
          cases hcloser : (d.closer markup).isPrefixOf? (c :: source) with
          | some rest => simp [BodyEnd.stop]
          | none =>
            by_cases hnote : (d.afterOpener? .note (c :: source)).isSome = true
            · simp [hnote, BodyEnd.stop]
            · simp only [hnote]
              exact hpass state hescaped
    · rw [Bool.not_eq_true] at hbyte
      rw [walkBody_of_plain hescaped offset hbyte, ih, readBody_of_plain hm hescaped hbyte,
        BodyEnd.stop_push]

/-- The walk over bytes finds the end that reading character by character does. -/
theorem scanBody_eq_readBody (hm : markup ≠ .note) (source : List Char) :
    d.scanBody markup source = d.readBody markup {} source := by
  rw [scanBody, walkBody_start hm]
  exact BodyEnd.divide_stop (d.source_readBody markup {} source)

end Dialect

end TemplateLexer
