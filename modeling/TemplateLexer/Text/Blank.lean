/-!
# White space

A set of characters is given by the ranges of its code points (`Ranges`). Three sets of blank
characters are in use, and they differ:

* `isBlank`, the property White_Space, for markers, tag names and boundaries;
* `isAsciiBlank`, for the tag that ends a raw block;
* `isInlineBlank`, the space and the tab, for what stands before or after a tag on its line.

`trim` removes characters of the first set from both ends of a text.
-/

namespace TemplateLexer

/-- Closed ranges of code points, each a first and a last one. A table of them is written in
ascending order, which `covers` does not need. -/
abbrev Ranges := List (Nat × Nat)

/-- Whether the code point of `c` lies in one of the ranges. -/
def Ranges.covers (ranges : Ranges) (c : Char) : Bool :=
  ranges.any fun range => range.1 ≤ c.toNat && c.toNat ≤ range.2

/-- The ranges of White_Space. -/
def blankRanges : Ranges :=
  [(0x9, 0xD), (0x20, 0x20), (0x85, 0x85), (0xA0, 0xA0), (0x1680, 0x1680), (0x2000, 0x200A),
   (0x2028, 0x2029), (0x202F, 0x202F), (0x205F, 0x205F), (0x3000, 0x3000)]

/-- Whether `c` is white space. -/
def isBlank (c : Char) : Bool := blankRanges.covers c

/-- Whether `c` is a tab, line feed, form feed, carriage return or space. The vertical tab is not
among them. -/
def isAsciiBlank (c : Char) : Bool :=
  c == '\t' || c == '\n' || c == '\x0c' || c == '\r' || c == ' '

/-- Whether `c` is a space or a tab. -/
def isInlineBlank (c : Char) : Bool := c == ' ' || c == '\t'

/-- What is left of a text when the longest end with property `p` is removed. -/
def trimEnd (p : Char → Bool) (text : List Char) : List Char :=
  (text.reverse.dropWhile p).reverse

/-- The longest end of a text with property `p`. -/
def trailing (p : Char → Bool) (text : List Char) : List Char :=
  (text.reverse.takeWhile p).reverse

/-- A text without the white space at its two ends. -/
def trim (text : List Char) : List Char := trimEnd isBlank (text.dropWhile isBlank)

/-- Nothing is dropped from a text whose first character has not property `p`. -/
theorem dropWhile_of_head? {p : Char → Bool} {text : List Char}
    (h : ∀ c ∈ text.head?, p c = false) : text.dropWhile p = text := by
  cases text with
  | nil => rfl
  | cons c text => exact List.dropWhile_cons_of_neg (by simp [h c rfl])

/-- What is taken and dropped at the front of a text ends at the first character that has not
property `p`, whatever stands behind it. -/
theorem takeWhile_append_of_mem {p : Char → Bool} {text : List Char} {c : Char} (hc : c ∈ text)
    (h : p c = false) (more : List Char) : (text ++ more).takeWhile p = text.takeWhile p := by
  induction text with
  | nil => cases hc
  | cons b text ih =>
    rw [List.cons_append, List.takeWhile_cons, List.takeWhile_cons]
    rcases List.mem_cons.1 hc with rfl | hc
    · simp [h]
    · rw [ih hc]

theorem dropWhile_append_of_mem {p : Char → Bool} {text : List Char} {c : Char} (hc : c ∈ text)
    (h : p c = false) (more : List Char) :
    (text ++ more).dropWhile p = text.dropWhile p ++ more := by
  induction text with
  | nil => cases hc
  | cons b text ih =>
    rw [List.cons_append, List.dropWhile_cons, List.dropWhile_cons]
    rcases List.mem_cons.1 hc with rfl | hc
    · simp [h]
    · rw [ih hc]
      split <;> rfl

theorem dropWhile_append_cons {p : Char → Bool} {k : Char} (hk : p k = false)
    (front rest : List Char) :
    (front ++ k :: rest).dropWhile p = front.dropWhile p ++ k :: rest := by
  induction front with
  | nil => exact List.dropWhile_cons_of_neg (by simp [hk])
  | cons c front ih =>
    rw [List.cons_append, List.dropWhile_cons, List.dropWhile_cons, ih]
    split <;> rfl

@[simp] theorem trimEnd_append_trailing (p : Char → Bool) (text : List Char) :
    trimEnd p text ++ trailing p text = text := by
  rw [trimEnd, trailing, ← List.reverse_append, List.takeWhile_append_dropWhile,
    List.reverse_reverse]

/-- What is removed at the end does not reach into the text in front, if something stays behind that
or its last character has not property `p`. -/
theorem trimEnd_append {p : Char → Bool} {front back : List Char}
    (h : trimEnd p back = [] → ∀ c ∈ front.getLast?, p c = false) :
    trimEnd p (front ++ back) = front ++ trimEnd p back := by
  unfold trimEnd at h ⊢
  rw [List.reverse_append, List.dropWhile_append]
  cases hback : back.reverse.dropWhile p with
  | nil =>
    have hfront : front.reverse.dropWhile p = front.reverse :=
      dropWhile_of_head? (by simpa using h (by rw [hback, List.reverse_nil]))
    simp [hfront]
  | cons c rest => simp

/-- What `trim` removes are blanks. -/
theorem exists_append_trim (text : List Char) :
    ∃ front back, (∀ c ∈ front, isBlank c = true) ∧ (∀ c ∈ back, isBlank c = true) ∧
      front ++ trim text ++ back = text := by
  refine ⟨text.takeWhile isBlank, trailing isBlank (text.dropWhile isBlank), ?_, ?_, ?_⟩
  · exact List.all_eq_true.1 List.all_takeWhile
  · intro c hc
    exact List.all_eq_true.1 List.all_takeWhile c (List.mem_reverse.1 hc)
  · rw [trim, List.append_assoc, trimEnd_append_trailing, List.takeWhile_append_dropWhile]

/-- No blank is left at the front. -/
theorem isBlank_of_head?_trim {text : List Char} {c : Char} (h : c ∈ (trim text).head?) :
    isBlank c = false := by
  have hdrop := trimEnd_append_trailing isBlank (text.dropWhile isBlank)
  have hhead : (text.dropWhile isBlank).head? = some c := by
    rw [← hdrop, List.head?_append, ← trim, Option.mem_def.1 h, Option.some_or]
  have := List.head?_dropWhile_not isBlank text
  rwa [hhead] at this

/-- No blank is left at the end. -/
theorem isBlank_of_getLast?_trim {text : List Char} {c : Char} (h : c ∈ (trim text).getLast?) :
    isBlank c = false := by
  rw [trim, trimEnd, List.getLast?_reverse] at h
  have := List.head?_dropWhile_not isBlank (text.dropWhile isBlank).reverse
  rwa [Option.mem_def.1 h] at this

theorem isBlank_of_isAsciiBlank {c : Char} (h : isAsciiBlank c = true) : isBlank c = true := by
  simp only [isAsciiBlank, Bool.or_eq_true, beq_iff_eq] at h
  rcases h with (((rfl | rfl) | rfl) | rfl) | rfl <;> decide

theorem isBlank_of_isInlineBlank {c : Char} (h : isInlineBlank c = true) : isBlank c = true := by
  simp only [isInlineBlank, Bool.or_eq_true, beq_iff_eq] at h
  rcases h with rfl | rfl <;> decide

/-- `trim` takes the blanks off a text that neither begins nor ends with one. -/
theorem trim_append {front text back : List Char} (hfront : ∀ c ∈ front, isBlank c = true)
    (hback : ∀ c ∈ back, isBlank c = true) (hhead : ∀ c ∈ text.head?, isBlank c = false)
    (hlast : ∀ c ∈ text.getLast?, isBlank c = false) : trim (front ++ text ++ back) = text := by
  have hdrop' : text.reverse.dropWhile isBlank = text.reverse :=
    dropWhile_of_head? (by simpa using hlast)
  rw [trim, trimEnd, List.append_assoc, List.dropWhile_append_of_pos hfront]
  cases text with
  | nil =>
    have hdrop : back.dropWhile isBlank = [] := by
      rw [← List.append_nil back, List.dropWhile_append_of_pos hback, List.dropWhile_nil]
    rw [List.nil_append, hdrop]
    rfl
  | cons c text =>
    have hdrop : (c :: text ++ back).dropWhile isBlank = c :: text ++ back :=
      dropWhile_of_head? hhead
    rw [hdrop, List.reverse_append,
      List.dropWhile_append_of_pos fun c hc => hback c (List.mem_reverse.1 hc), hdrop',
      List.reverse_reverse]

/-- Blanks at the front of a text stand before a character that is none, and blanks at its end
behind it. -/
theorem trim_append_cons {k : Char} (hk : isBlank k = false) (front rest : List Char) :
    trim (front ++ k :: rest) = front.dropWhile isBlank ++ k :: trimEnd isBlank rest := by
  rw [trim, dropWhile_append_cons hk, List.append_cons, trimEnd_append fun _ c hc => ?_]
  · simp
  · rw [List.getLast?_concat] at hc
    exact Option.some.inj hc ▸ hk

end TemplateLexer
