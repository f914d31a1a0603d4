import TemplateLexer.Proofs.Run

/-!
# The order in which delimiters are tried

A dialect tries the openers in some order, and in a body the closer before the opener of a note or
after it. No delimiter is the beginning of another, so at one place at most one of them stands, and
the order cannot matter. Two dialects that differ in their precedence find the same openings and the
same ends of bodies, and their runs are in step.

* `Reads.withPrecedence`: a run is one of the dialect with another precedence, too.
* `tokenize_withPrecedence`: at no offset two delimiters stand, and so the tokens of a source do not
  depend on the precedence.
-/

namespace TemplateLexer

/-- The dialect that tries its delimiters in another order. -/
def Dialect.withPrecedence (d : Dialect) (p : Precedence) : Dialect := { d with precedence := p }

namespace Dialect

variable {d : Dialect}

/-- At no offset two delimiters stand, neither at the beginning of a character nor inside one. -/
theorem eq_of_both_startWith {source : List Char} {offset : Nat} {a b : Delimiter}
    (ha : a ∈ d.settings.delimiters.listed) (hb : b ∈ d.settings.delimiters.listed)
    (hastarts : ((Cursor.start source).skip offset).startsWith a.text = true)
    (hbstarts : ((Cursor.start source).skip offset).startsWith b.text = true) : a = b := by
  obtain ⟨front, rest, rfl, rfl⟩ := Cursor.exists_of_startsWith_skip (text_ne_nil ha) hastarts
  rw [List.append_assoc, Cursor.skip_append, Cursor.startsWith_start, List.isPrefixOf_iff_prefix]
    at hbstarts
  exact eq_of_both_stand ha hb (List.prefix_append _ _) hbstarts

variable (d) (p : Precedence)

theorem openingHere?_withPrecedence (source : List Char) :
    (d.withPrecedence p).openingHere? source = d.openingHere? source := by
  ext markup
  simp only [openingHere?_eq_some_iff]
  rfl

theorem opensHere?_withPrecedence (raw : Bool) :
    (d.withPrecedence p).opensHere? raw = d.opensHere? raw := by
  funext source
  cases raw with
  | false => exact d.openingHere?_withPrecedence p source
  | true => rfl

theorem nextOpening?_withPrecedence (raw : Bool) (source : List Char) :
    (d.withPrecedence p).nextOpening? raw source = d.nextOpening? raw source := by
  rw [nextOpening?_eq, nextOpening?_eq, opensHere?_withPrecedence]
  rfl

theorem locate_withPrecedence (markup : Markup) (body : List Char) :
    (d.withPrecedence p).locate markup body = d.locate markup body :=
  locate_congr (show (d.withPrecedence p).escape = d.escape from rfl) rfl rfl markup body

end Dialect

variable {d : Dialect}

/-- A run is one of the dialect with another precedence, too, by induction on the run: every segment
opens at the same place and ends at the same place. -/
theorem Reads.withPrecedence (p : Precedence) {carry : Carry} {front rest : List Char}
    {tokens : List Token} (h : Reads d carry front rest tokens) :
    Reads (d.withPrecedence p) carry front rest tokens := by
  induction h with
  | last lead_split no_opening =>
    exact .last lead_split ((d.nextOpening?_withPrecedence p _ _).trans no_opening)
  | next lead_split opening located tail_split reads ih =>
    exact .next (d := d.withPrecedence p) lead_split
      ((d.nextOpening?_withPrecedence p _ _).trans opening)
      ((d.locate_withPrecedence p _ _).trans located) tail_split ih

/-- At every offset of every source at most one of the six delimiters stands. So the tokens of a
source do not depend on the order in which the openers and their first bytes are tried, nor on
whether a body is tested first for the opener of a note or for its closer. -/
theorem tokenize_withPrecedence (d : Dialect) (source : List Char) :
    (∀ offset, ∀ a ∈ d.settings.delimiters.listed, ∀ b ∈ d.settings.delimiters.listed,
      ((Cursor.start source).skip offset).startsWith a.text = true →
      ((Cursor.start source).skip offset).startsWith b.text = true → a = b) ∧
    ∀ p, tokenize (d.withPrecedence p) source = tokenize d source :=
  ⟨fun _ _ ha _ hb => Dialect.eq_of_both_startWith ha hb,
    fun p => ((reads_tokenize d source).withPrecedence p).eq_tokenizeFrom.symm⟩

/-- The three openers here have one first byte, and the note opens in the body of an expression. -/
theorem tokenize_withPrecedence_reversed :
    let p : Precedence := { openers := [.expression, .tag, .note], noteFirst := true }
    let source := "é\x7b\x7b a \x7b# b #\x7d\x7b% c %\x7d".toList
    let note : Delimiter := ⟨.note, .opening, Dialect.standard.opener .note⟩
    note ∈ Dialect.standard.settings.delimiters.listed ∧
    ((Cursor.start source).skip 7).startsWith note.text = true ∧
    (∀ b ∈ Dialect.standard.settings.delimiters.listed,
      ((Cursor.start source).skip 7).startsWith b.text = true → note = b) ∧
    tokenize (Dialect.standard.withPrecedence p) source = tokenize .standard source ∧
    (tokenize .standard source).map Token.kind = [.fixed, .fixed, .note, .tag] := by
  intro p source note
  obtain ⟨hone, hsame⟩ := tokenize_withPrecedence .standard source
  have hstarts : ((Cursor.start source).skip 7).startsWith note.text = true := by decide +kernel
  have hnote := Dialect.standard.opening_mem_listed .note
  exact ⟨hnote, hstarts, fun b hb => hone 7 note hnote b hb hstarts, hsame p, by decide +kernel⟩

end TemplateLexer
