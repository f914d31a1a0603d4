import TemplateLexer.Boundary
import TemplateLexer.Settings.Fault
import TemplateLexer.Text.Search

/-!
# Dialects

A dialect is all that is needed to split a source into tokens: settings without a fault, the
boundary that an opener may have to stand before, and the order in which delimiters are tried
where more than one could match. It also tells which bytes can start a delimiter, so that most
characters are passed over by a look at their first byte.
-/

namespace TemplateLexer

/-- The order in which delimiters are tried at one place. -/
structure Precedence where
  /-- The order of the openers. -/
  openers : List Markup := [.note, .tag, .expression]
  /-- Whether the opener of a note is tried before the closer of the markup that it would
  interrupt. -/
  noteFirst : Bool := false
  openers_perm : openers.Perm [.note, .tag, .expression] := by decide

/-- Every opener is tried. -/
theorem Precedence.mem_openers (p : Precedence) (markup : Markup) : markup ∈ p.openers :=
  p.openers_perm.mem_iff.2 (by cases markup <;> simp)

/-- Settings without a fault, with a boundary and a precedence. -/
structure Dialect where
  settings : Settings := {}
  boundary : Boundary := Boundary.wordEnd
  precedence : Precedence := {}
  fault?_eq_none : settings.fault? = none := by decide

namespace Dialect

/-- The dialect with default settings. -/
def standard : Dialect := {}

/-- The dialect with these settings, or their first fault. -/
def ofSettings (s : Settings) : Except Fault Dialect :=
  match h : s.fault? with
  | none => .ok { settings := s, fault?_eq_none := h }
  | some fault => .error fault

variable (d : Dialect)

/-- The delimiters of one sort of markup. -/
def pair (markup : Markup) : Pair := d.settings.delimiters.pair markup

/-- The text that opens one sort of markup. -/
def opener (markup : Markup) : List Char := (d.pair markup).opener

/-- The text that closes one sort of markup. -/
def closer (markup : Markup) : List Char := (d.pair markup).closer

/-- The escape character. -/
def escape : Char := d.settings.escape

/-- Whether an opener counts before `following`. -/
def acceptsBefore (following : Option Char) : Bool :=
  !d.settings.legacy.boundaryRequired || d.boundary following

/-- The text after the opener of `markup`, if that opener stands here and counts. -/
def afterOpener? (markup : Markup) (source : List Char) : Option (List Char) :=
  ((d.opener markup).isPrefixOf? source).filter fun rest => d.acceptsBefore rest.head?

/-- Whether the opener of `markup` stands at a place and counts. -/
def opensAt (markup : Markup) (p : Cursor) : Bool :=
  p.startsWith (d.opener markup)
    && d.acceptsBefore (p.skip (utf8Size (d.opener markup))).charAt?

/-- The first bytes of the openers, each once, in the order in which the openers are tried. -/
def openerBytes : List UInt8 :=
  (d.precedence.openers.filterMap fun markup => (d.opener markup).head?.map leadByte).eraseDups

/-- The first bytes of all that matters inside an expression or a tag: quotes, the escape
character, the closer and the opener of a note. -/
def bodyBytes (markup : Markup) : List UInt8 :=
  ['\'', '"', d.escape].map leadByte
    ++ [d.closer markup, d.opener .note].filterMap fun text => text.head?.map leadByte

/-- Whether a byte can start something that matters in a token of this kind. Literal text and
notes have no such bytes. -/
def isBodyByte (kind : Kind) (byte : UInt8) : Bool :=
  match kind with
  | .expression => (d.bodyBytes .expression).contains byte
  | .tag => (d.bodyBytes .tag).contains byte
  | .fixed | .note => false

/-- The bytes that `isBodyByte` holds of, in ascending order. -/
def bodyByteList (kind : Kind) : List UInt8 :=
  ((List.range 256).map UInt8.ofNat).filter (d.isBodyByte kind)

theorem opening_mem_listed (markup : Markup) :
    ⟨markup, .opening, d.opener markup⟩ ∈ d.settings.delimiters.listed := by
  cases markup <;> simp [Delimiters.listed, opener, pair]

theorem closing_mem_listed (markup : Markup) :
    ⟨markup, .closing, d.closer markup⟩ ∈ d.settings.delimiters.listed := by
  cases markup <;> simp [Delimiters.listed, closer, pair]

variable {d}

/-- Every delimiter of a dialect has a character. -/
theorem text_ne_nil {delimiter : Delimiter} (h : delimiter ∈ d.settings.delimiters.listed) :
    delimiter.text ≠ [] := by
  have hf := d.fault?_eq_none
  simp only [Settings.fault?, Option.or_eq_none_iff, List.findSome?_eq_none_iff] at hf
  have := hf.1.1 delimiter h
  intro hn
  simp [Delimiter.emptiness?, hn] at this

/-- No delimiter of a dialect starts with the escape character. -/
theorem head?_text_ne_escape {delimiter : Delimiter}
    (h : delimiter ∈ d.settings.delimiters.listed) : delimiter.text.head? ≠ some d.escape := by
  have hf := d.fault?_eq_none
  simp only [Settings.fault?, Option.or_eq_none_iff, List.findSome?_eq_none_iff] at hf
  have := hf.1.2 delimiter h
  intro he
  rw [escape] at he
  simp [Delimiter.escaped?, he] at this

/-- At one place at most one of the delimiters of a dialect stands. -/
theorem eq_of_both_stand {a b : Delimiter} {source : List Char}
    (ha : a ∈ d.settings.delimiters.listed) (hb : b ∈ d.settings.delimiters.listed)
    (hasource : a.text <+: source) (hbsource : b.text <+: source) : a = b := by
  have hf := d.fault?_eq_none
  simp only [Settings.fault?, Option.or_eq_none_iff] at hf
  have hpairs := firstClash?_eq_none_iff.1 hf.2
  simp only [Delimiter.clash?_eq_none_iff] at hpairs
  have hcomparable := List.prefix_or_prefix_of_prefix hasource hbsource
  by_cases hab : a = b
  · exact hab
  · exfalso
    have happart := List.Pairwise.forall_of_forall_of_flip
      (R := fun a b : Delimiter => a = b ∨ ¬ (a.text <+: b.text ∨ b.text <+: a.text))
      (fun x _ => .inl rfl) (hpairs.imp fun h => .inr (not_or.2 h))
      (hpairs.imp fun h => .inr (not_or.2 ⟨h.2, h.1⟩)) ha hb
    exact happart.elim hab fun h => h hcomparable

variable (d)

theorem opener_ne_nil (markup : Markup) : d.opener markup ≠ [] :=
  text_ne_nil (d.opening_mem_listed markup)

theorem closer_ne_nil (markup : Markup) : d.closer markup ≠ [] :=
  text_ne_nil (d.closing_mem_listed markup)

@[simp] theorem opensAt_start (markup : Markup) (source : List Char) :
    d.opensAt markup (.start source) = (d.afterOpener? markup source).isSome := by
  unfold opensAt afterOpener?
  cases h : (d.opener markup).isPrefixOf? source with
  | none => simp [isPrefixOf?_eq_none_iff.1 h]
  | some rest =>
    obtain rfl := append_of_isPrefixOf? h
    rw [Cursor.startsWith_start, Cursor.skip_append, Cursor.charAt?_start]
    simp [Option.filter_some, apply_ite]

variable {d}

theorem isSome_afterOpener?_iff {markup : Markup} {source : List Char} :
    (d.afterOpener? markup source).isSome = true ↔
      ∃ rest, d.opener markup ++ rest = source ∧ d.acceptsBefore rest.head? = true := by
  constructor
  · intro h
    obtain ⟨rest, hrest⟩ := Option.isSome_iff_exists.1 h
    obtain ⟨hopener, haccepts⟩ := Option.filter_eq_some_iff.1 hrest
    exact ⟨rest, append_of_isPrefixOf? hopener, haccepts⟩
  · rintro ⟨rest, rfl, haccepts⟩
    simp [afterOpener?, Option.filter_some, haccepts]

/-- Whether an opener counts is decided by the character after it. -/
theorem isSome_afterOpener?_append {markup : Markup} {source : List Char}
    (h : (d.opener markup).length < source.length) (more : List Char) :
    (d.afterOpener? markup (source ++ more)).isSome = (d.afterOpener? markup source).isSome := by
  rw [afterOpener?, afterOpener?, isPrefixOf?_append_of_length_le (Nat.le_of_lt h)]
  cases hrest : (d.opener markup).isPrefixOf? source with
  | none => rfl
  | some rest =>
    obtain rfl := append_of_isPrefixOf? hrest
    cases rest with
    | nil => simp at h
    | cons c rest =>
      by_cases hc : d.acceptsBefore (some c) = true <;> simp [Option.filter_some, hc]

end Dialect

end TemplateLexer
