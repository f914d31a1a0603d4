import TemplateLexer.RawBlock

/-!
# Where the next construct opens

Outside raw blocks a construct begins at the first opener that counts; inside, only the tag that
ends the block begins one. `nextOpening?` finds the place in the bytes of the source, where most
bytes cannot begin an opener.

* `nextOpening?_eq`: it is the place that a search over characters finds, with no look at bytes.
* `sourceOf_of_nextOpening?`: nothing of the source is lost there.
* `nextOpening?_append`: what stands behind it does not matter, as far as what opens at the places
  up to there does not depend on it.
-/

namespace TemplateLexer

/-- A place in a source where a construct opens. -/
structure Opening where
  /-- What stands before the opener. -/
  before : List Char
  /-- What the opener opens. -/
  markup : Markup
  /-- What stands after the opener. -/
  body : List Char
  deriving DecidableEq

namespace Dialect

variable (d : Dialect)

/-! ## The search over bytes -/

/-- The sort of markup whose opener stands at a place and counts. -/
def openingAt? (p : Cursor) : Option Markup :=
  match p.next? with
  | none => none
  | some (byte, _) =>
    if d.openerBytes.contains byte then
      d.precedence.openers.find? fun markup => d.opensAt markup p
    else none

/-- A tag, if one that ends a raw block stands at a place. -/
def endRawAt? (p : Cursor) : Option Markup :=
  if p.startsWith (d.opener .tag) && d.isEndRawAt (p.skip (utf8Size (d.opener .tag))) then some .tag
  else none

/-- The first place where a construct opens, in a raw block or outside. -/
def nextOpening? (raw : Bool) (source : List Char) : Option Opening :=
  (seek? (if raw then d.endRawAt? else d.openingAt?) 0 (.start source)).map
    fun (offset, markup) =>
      ⟨takeBytes offset source, markup, dropBytes (offset + utf8Size (d.opener markup)) source⟩

/-! ## The search over characters -/

/-- The sort of markup whose opener stands here and counts. -/
def openingHere? (source : List Char) : Option Markup :=
  d.precedence.openers.find? fun markup => (d.afterOpener? markup source).isSome

/-- A tag, if one that ends a raw block stands here. -/
def endRawHere? (source : List Char) : Option Markup :=
  if ((d.opener .tag).isPrefixOf? source).any d.isEndRaw then some .tag else none

/-- What is found in a raw block or outside. -/
def opensHere? (raw : Bool) : List Char → Option Markup :=
  if raw then d.endRawHere? else d.openingHere?

variable {d}

theorem opener_prefix_of_isSome {markup : Markup} {source : List Char}
    (h : (d.afterOpener? markup source).isSome = true) : d.opener markup <+: source := by
  obtain ⟨rest, hrest, -⟩ := isSome_afterOpener?_iff.1 h
  exact ⟨rest, hrest⟩

theorem leadByte_mem_openerBytes {markup : Markup} {c : Char} {source : List Char}
    (h : d.opener markup <+: c :: source) : leadByte c ∈ d.openerBytes := by
  have hhead : (d.opener markup).head? = some c := by
    obtain ⟨c', opener, hopener⟩ := List.exists_cons_of_ne_nil (d.opener_ne_nil markup)
    rw [hopener, List.cons_prefix_cons] at h
    rw [hopener, h.1, List.head?_cons]
  refine List.mem_eraseDups.2
    (List.mem_filterMap.2 ⟨markup, d.precedence.mem_openers markup, ?_⟩)
  rw [hhead, Option.map_some]

theorem openingAt?_start (source : List Char) :
    d.openingAt? (.start source) = d.openingHere? source := by
  cases source with
  | nil =>
    symm
    refine List.find?_eq_none.2 fun markup _ h => d.opener_ne_nil markup ?_
    exact List.prefix_nil.1 (opener_prefix_of_isSome h)
  | cons c source =>
    simp only [openingAt?, opensAt_start]
    dsimp only [Cursor.start, Cursor.next?]
    split
    · rfl
    · next hbyte =>
      symm
      refine List.find?_eq_none.2 fun markup _ h => hbyte (List.contains_iff_mem.2 ?_)
      exact leadByte_mem_openerBytes (opener_prefix_of_isSome h)

theorem endRawAt?_start (source : List Char) :
    d.endRawAt? (.start source) = d.endRawHere? source := by
  unfold endRawAt? endRawHere?
  rw [Cursor.startsWith_start]
  cases hopener : (d.opener .tag).isPrefixOf? source with
  | none => simp [isPrefixOf?_eq_none_iff.1 hopener]
  | some rest =>
    obtain rfl := append_of_isPrefixOf? hopener
    rw [Cursor.skip_append, isEndRawAt_start]
    simp

theorem openingAt?_of_not_leadByte {byte : UInt8} (hbyte : ∀ c, leadByte c ≠ byte)
    (later : List UInt8) (source : List Char) : d.openingAt? ⟨byte :: later, source⟩ = none := by
  unfold openingAt?
  dsimp only [Cursor.next?]
  split
  · refine List.find?_eq_none.2 fun markup _ => ?_
    rw [opensAt, Cursor.startsWith_of_not_leadByte hbyte (d.opener_ne_nil markup), Bool.false_and]
    exact Bool.false_ne_true
  · rfl

theorem endRawAt?_of_not_leadByte {byte : UInt8} (hbyte : ∀ c, leadByte c ≠ byte)
    (later : List UInt8) (source : List Char) : d.endRawAt? ⟨byte :: later, source⟩ = none := by
  rw [endRawAt?, Cursor.startsWith_of_not_leadByte hbyte (d.opener_ne_nil .tag), Bool.false_and,
    if_neg Bool.false_ne_true]

theorem exists_of_endRawHere? {source : List Char} {markup : Markup}
    (h : d.endRawHere? source = some markup) :
    markup = .tag ∧ ∃ body, d.opener .tag ++ body = source ∧ d.isEndRaw body = true := by
  unfold endRawHere? at h
  split at h
  · next hany =>
    obtain ⟨body, hbody, hend⟩ := (Option.any_eq_true _ _).1 hany
    exact ⟨(Option.some.inj h).symm, body, append_of_isPrefixOf? hbody, hend⟩
  · cases h

/-- What is found opens with its opener. -/
theorem opener_append_drop {raw : Bool} {source : List Char} {markup : Markup}
    (h : d.opensHere? raw source = some markup) :
    d.opener markup ++ source.drop (d.opener markup).length = source := by
  rw [← List.prefix_iff_eq_append]
  cases raw with
  | false =>
    have hmarkup : d.openingHere? source = some markup := h
    have hopener := List.find?_some hmarkup
    exact opener_prefix_of_isSome hopener
  | true =>
    obtain ⟨rfl, body, hbody, -⟩ := exists_of_endRawHere? h
    exact ⟨body, hbody⟩

/-- What opens here does not depend on the order in which the openers are tried: at most one of
them stands here. -/
theorem openingHere?_eq_some_iff {markup : Markup} {source : List Char} :
    d.openingHere? source = some markup ↔ (d.afterOpener? markup source).isSome = true := by
  constructor
  · intro h
    exact List.find?_some (p := fun markup => (d.afterOpener? markup source).isSome) h
  · intro h
    cases hfound : d.openingHere? source with
    | none => exact absurd h (List.find?_eq_none.1 hfound markup (d.precedence.mem_openers markup))
    | some markup' =>
      have h' : (d.afterOpener? markup' source).isSome = true :=
        List.find?_some (p := fun markup => (d.afterOpener? markup source).isSome) hfound
      have hsame := eq_of_both_stand (d.opening_mem_listed markup') (d.opening_mem_listed markup)
        (opener_prefix_of_isSome h') (opener_prefix_of_isSome h)
      rw [(Delimiter.mk.inj hsame).1]

variable (d)

/-- The search over the bytes of a source finds the place that a search over its characters does. -/
theorem seek?_opensHere? (raw : Bool) (offset : Nat) (source : List Char) :
    seek? (if raw then d.endRawAt? else d.openingAt?) offset (.start source)
      = (firstPlace? (d.opensHere? raw) source).map
          fun p => (offset + utf8Size p.before, p.found) := by
  cases raw with
  | false =>
    exact seek?_start openingAt?_start
      (fun _ later text hbyte => openingAt?_of_not_leadByte hbyte later text) offset source
  | true =>
    exact seek?_start endRawAt?_start
      (fun _ later text hbyte => endRawAt?_of_not_leadByte hbyte later text) offset source

/-- The next opening is the one that a search over the characters of the source finds. -/
theorem nextOpening?_eq (raw : Bool) (source : List Char) :
    d.nextOpening? raw source = (firstPlace? (d.opensHere? raw) source).map fun p =>
      ⟨p.before, p.found, p.after.drop (d.opener p.found).length⟩ := by
  rw [nextOpening?, seek?_opensHere?, Option.map_map]
  refine Option.map_congr fun p hp => ?_
  obtain ⟨rfl, hfound⟩ := firstPlace?_eq_some hp
  have hback := dropBytes_append (p.before ++ d.opener p.found)
    (p.after.drop (d.opener p.found).length)
  rw [utf8Size_append, List.append_assoc, opener_append_drop hfound] at hback
  simp only [Function.comp_apply, Nat.zero_add, takeBytes_append, hback]

/-- There is no next opening if nothing opens at any place. -/
theorem nextOpening?_eq_none_iff {raw : Bool} {source : List Char} :
    d.nextOpening? raw source = none ↔
      ∀ back, back <:+ source → back ≠ [] → d.opensHere? raw back = none := by
  rw [nextOpening?_eq, Option.map_eq_none_iff, firstPlace?_eq_none_iff]

/-- Nothing opens in an empty source. -/
theorem nextOpening?_nil (raw : Bool) : d.nextOpening? raw [] = none := by
  rw [nextOpening?_eq, firstPlace?, Option.map_none]

/-- The source that was divided at an opening. -/
def sourceOf (o : Opening) : List Char := o.before ++ d.opener o.markup ++ o.body

/-- Nothing is lost at the next opening. -/
theorem sourceOf_of_nextOpening? {raw : Bool} {source : List Char} {o : Opening}
    (h : d.nextOpening? raw source = some o) : d.sourceOf o = source := by
  rw [nextOpening?_eq] at h
  obtain ⟨p, hp, rfl⟩ := Option.map_eq_some_iff.1 h
  obtain ⟨rfl, hfound⟩ := firstPlace?_eq_some hp
  rw [sourceOf, List.append_assoc, opener_append_drop hfound]

/-- The next opening is at a place if a construct opens there and none does at the places before. -/
theorem nextOpening?_eq_some_iff {raw : Bool} {before body : List Char} {markup : Markup} :
    d.nextOpening? raw (before ++ (d.opener markup ++ body)) = some ⟨before, markup, body⟩ ↔
      d.opensHere? raw (d.opener markup ++ body) = some markup ∧
        ∀ back, back <:+ before → back ≠ [] →
          d.opensHere? raw (back ++ (d.opener markup ++ body)) = none := by
  rw [nextOpening?_eq, Option.map_eq_some_iff]
  constructor
  · rintro ⟨p, hp, ho⟩
    obtain ⟨-, -, hfound, hfirst⟩ := firstPlace?_eq_some_iff.1 hp
    obtain ⟨rfl, rfl, rfl⟩ := Opening.mk.inj ho
    rw [opener_append_drop hfound]
    exact ⟨hfound, hfirst⟩
  · rintro ⟨hfound, hfirst⟩
    refine ⟨⟨before, markup, d.opener markup ++ body⟩, firstPlace?_eq_some_iff.2
      ⟨rfl, by simp [d.opener_ne_nil], hfound, hfirst⟩, ?_⟩
    rw [List.drop_left]

/-- What opens at the front of a source is the next opening. -/
theorem nextOpening?_of_opensHere? {raw : Bool} {source : List Char} {markup : Markup}
    (h : d.opensHere? raw source = some markup) :
    d.nextOpening? raw source = some ⟨[], markup, source.drop (d.opener markup).length⟩ := by
  have hne : source ≠ [] := by
    rintro rfl
    exact d.opener_ne_nil markup (List.append_eq_nil_iff.1 (opener_append_drop h)).1
  have hplace : firstPlace? (d.opensHere? raw) source = some ⟨[], markup, source⟩ :=
    firstPlace?_eq_some_iff.2 ⟨rfl, hne, h, fun back hback hback' =>
      absurd (List.suffix_nil.1 hback) hback'⟩
  rw [nextOpening?_eq, hplace]
  rfl

/-- At the next opening its opener opens. -/
theorem opensHere?_of_nextOpening? {raw : Bool} {source : List Char} {o : Opening}
    (h : d.nextOpening? raw source = some o) :
    d.opensHere? raw (d.opener o.markup ++ o.body) = some o.markup := by
  rw [nextOpening?_eq] at h
  obtain ⟨p, hp, rfl⟩ := Option.map_eq_some_iff.1 h
  obtain ⟨-, hfound⟩ := firstPlace?_eq_some hp
  dsimp only
  rw [opener_append_drop hfound, hfound]

/-- More text behind does not change the next opening, if it does not change what opens at the
places up to there. -/
theorem nextOpening?_append {raw : Bool} {source : List Char} {o : Opening}
    (h : d.nextOpening? raw source = some o) (more : List Char)
    (hstable : ∀ back, back <:+ o.before →
      d.opensHere? raw (back ++ (d.opener o.markup ++ o.body) ++ more)
        = d.opensHere? raw (back ++ (d.opener o.markup ++ o.body))) :
    d.nextOpening? raw (source ++ more) = some { o with body := o.body ++ more } := by
  rw [nextOpening?_eq] at h ⊢
  obtain ⟨p, hp, rfl⟩ := Option.map_eq_some_iff.1 h
  have hafter := opener_append_drop (firstPlace?_eq_some hp).2
  have hlength : (d.opener p.found).length ≤ p.after.length := by
    rw [← hafter, List.length_append]
    omega
  dsimp only at hstable
  rw [hafter] at hstable
  rw [firstPlace?_append hp more hstable, Option.map_some, List.drop_append_of_le_length hlength]

/-- In a raw block the next opening is a tag that ends it. -/
theorem isEndRaw_of_nextOpening? {source : List Char} {o : Opening}
    (h : d.nextOpening? true source = some o) : o.markup = .tag ∧ d.isEndRaw o.body = true := by
  rw [nextOpening?_eq] at h
  obtain ⟨p, hp, rfl⟩ := Option.map_eq_some_iff.1 h
  obtain ⟨-, hfound⟩ := firstPlace?_eq_some hp
  obtain ⟨hmarkup, body, hbody, hend⟩ := exists_of_endRawHere? hfound
  rw [hmarkup, ← hbody, List.drop_left]
  exact ⟨rfl, hend⟩

end Dialect

end TemplateLexer
