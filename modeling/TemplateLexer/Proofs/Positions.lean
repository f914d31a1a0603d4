import Mathlib.Data.List.Induction
import TemplateLexer.Proofs.Run

/-!
# Positions of tokens

The scanner moves a mark over every character that it reads, also over those that it removes. Here
the position of a token is compared with one that is counted afresh from the beginning of the
source.

* `Position.advance_start`: the counted position, up to the limit of the two counters.
* `Position.compare_ofText`: positions are in the order of the places that they were counted for.
* `position_of_mem_tokenize`: in a source that is shorter than the limit, every token has the
  position counted for its first byte, and positions are in the order of the spans.
-/

namespace TemplateLexer

/-- The characters of the last line of a text. -/
def lastLine (text : List Char) : List Char := trailing (· != '\n') text

theorem trailing_append_singleton (p : Char → Bool) (text : List Char) (c : Char) :
    trailing p (text ++ [c]) = if p c then trailing p text ++ [c] else [] := by
  unfold trailing
  rw [List.reverse_append, List.reverse_singleton, List.singleton_append, List.takeWhile_cons]
  split <;> simp

/-- A line break in the text that is added begins the last line; a text without one extends it. -/
theorem lastLine_append (front back : List Char) :
    lastLine (front ++ back) = if '\n' ∈ back then lastLine back else lastLine front ++ back := by
  induction back using List.reverseRecOn with
  | nil => simp
  | append_singleton back c ih =>
    unfold lastLine at ih ⊢
    rw [← List.append_assoc, trailing_append_singleton, trailing_append_singleton, ih]
    by_cases hc : c = '\n'
    · simp [hc]
    · have hc' := Ne.symm hc
      by_cases hback : '\n' ∈ back <;> simp [hc, hc', hback]

namespace Position

/-- The position after a text, counted from the text: its line breaks, and the characters after
the last of them. -/
def ofText (text : List Char) : Position := ⟨1 + text.count '\n', (lastLine text).length⟩

/-- The position that the scanner reaches is the counted one, up to the limit. -/
theorem advance_start (text : List Char) :
    start.advance text = ⟨min (ofText text).line limit, min (ofText text).column limit⟩ := by
  induction text using List.reverseRecOn with
  | nil => rfl
  | append_singleton text c ih =>
    rw [advance_append, ih, advance_cons, advance_nil, next]
    unfold ofText lastLine
    rw [trailing_append_singleton, List.count_append]
    by_cases hc : c = '\n'
    · simp [hc]
      omega
    · simp [hc]
      omega

theorem line_ofText_le (text : List Char) : (ofText text).line ≤ 1 + text.length := by
  have := List.count_le_length (a := '\n') (l := text)
  simp only [ofText]
  omega

theorem column_ofText_le (text : List Char) : (ofText text).column ≤ text.length := by
  have := (List.takeWhile_prefix (· != '\n') (l := text.reverse)).length_le
  simpa [ofText, lastLine, trailing] using this

/-- The counted position grows with the text. -/
theorem compare_ofText_of_ne_nil (front : List Char) {back : List Char} (h : back ≠ []) :
    compare (ofText front) (ofText (front ++ back)) = .lt := by
  show (compare (ofText front).line (ofText (front ++ back)).line).then
    (compare (ofText front).column (ofText (front ++ back)).column) = .lt
  simp only [ofText, List.count_append, lastLine_append]
  by_cases hback : '\n' ∈ back
  · have := List.count_pos_iff.2 hback
    rw [Nat.compare_eq_lt.2 (by omega), Ordering.lt_then]
  · have := List.length_pos_iff.2 h
    rw [List.count_eq_zero.2 hback, Nat.add_zero, Nat.compare_eq_eq.2 rfl, Ordering.eq_then,
      if_neg hback, List.length_append]
    exact Nat.compare_eq_lt.2 (by omega)

theorem compare_swap (p q : Position) : (compare p q).swap = compare q p := by
  show ((compare p.line q.line).then (compare p.column q.column)).swap = _
  rw [Ordering.swap_then, Nat.compare_swap, Nat.compare_swap]
  rfl

/-- Of two places in one source, the one that is counted to the smaller position is the one with
the smaller offset. -/
theorem compare_ofText {source before before' : List Char} (h : before <+: source)
    (h' : before' <+: source) :
    compare (ofText before) (ofText before') = compare (utf8Size before) (utf8Size before') := by
  have ordered {front text : List Char} (h : front <+: text) :
      compare (ofText front) (ofText text) = compare (utf8Size front) (utf8Size text) := by
    obtain ⟨back, rfl⟩ := h
    cases back with
    | nil =>
      rw [List.append_nil, Nat.compare_eq_eq.2 rfl]
      show (compare _ _).then (compare _ _) = _
      rw [Nat.compare_eq_eq.2 rfl, Nat.compare_eq_eq.2 rfl, Ordering.eq_then]
    | cons c back =>
      have := c.utf8Size_pos
      rw [compare_ofText_of_ne_nil front (List.cons_ne_nil c back), eq_comm]
      apply Nat.compare_eq_lt.2
      rw [utf8Size_append, utf8Size_cons]
      omega
  rcases List.prefix_or_prefix_of_prefix h h' with h | h
  · exact ordered h
  · rw [← compare_swap, ordered h, Nat.compare_swap]

end Position

/-- Every token of a source that is shorter than the limit of the counters is stamped with the
number of its line, one more than the line breaks before its first byte, and the number of
characters between the last of these line breaks and that byte. So tokens are in the order of
their positions. -/
theorem position_of_mem_tokenize (d : Dialect) {source : List Char}
    (hlength : source.length < Position.limit) :
    (∀ t ∈ tokenize d source,
      utf8Size (takeBytes t.span.start source) = t.span.start ∧
      t.position.line = 1 + (takeBytes t.span.start source).count '\n' ∧
      t.position.column = (lastLine (takeBytes t.span.start source)).length) ∧
    ∀ t ∈ tokenize d source, ∀ u ∈ tokenize d source,
      compare t.position u.position = compare t.span.start u.span.start := by
  have counted : ∀ t ∈ tokenize d source, ∃ before, before <+: source ∧
      t.span.start = utf8Size before ∧ t.position = Position.ofText before := by
    intro t ht
    obtain ⟨before, after, hsource, hstart, -, hposition⟩ := (reads_tokenize d source).standsIn t ht
    rw [List.nil_append, List.append_assoc] at hsource
    refine ⟨before, ⟨_, hsource.symm⟩, hstart, ?_⟩
    have hshorter : before.length ≤ source.length := by simp [hsource]
    have hline := Position.line_ofText_le before
    have hcolumn := Position.column_ofText_le before
    rw [hposition, Position.advance_start, Nat.min_eq_left, Nat.min_eq_left] <;> omega
  refine ⟨fun t ht => ?_, fun t ht u hu => ?_⟩
  · obtain ⟨before, ⟨after, rfl⟩, hstart, hposition⟩ := counted t ht
    rw [hstart, takeBytes_append, hposition]
    exact ⟨rfl, rfl, rfl⟩
  · obtain ⟨before, hbefore, hstart, hposition⟩ := counted t ht
    obtain ⟨before', hbefore', hstart', hposition'⟩ := counted u hu
    rw [hstart, hstart', hposition, hposition', Position.compare_ofText hbefore hbefore']

/-- The white space that a marker removes is counted, and a letter of two bytes counts once. -/
theorem position_after_removed_blanks :
    let source := "α\n  β {{- x }}".toList
    source.length < Position.limit ∧ (tokenize .standard source).map (·.span.start) = [0, 8] ∧
    ∀ t ∈ tokenize .standard source, t.span.start = 8 →
      t.position.line = 2 ∧ t.position.column = 4 := by
  have hlength : "α\n  β {{- x }}".toList.length < Position.limit := by decide +kernel
  refine ⟨hlength, by decide +kernel, fun t ht hstart => ?_⟩
  obtain ⟨-, hline, hcolumn⟩ := (position_of_mem_tokenize .standard hlength).1 t ht
  rw [hstart] at hline hcolumn
  exact ⟨hline.trans (by decide +kernel), hcolumn.trans (by decide +kernel)⟩

end TemplateLexer
