import TemplateLexer.Tokenize

/-!
# Scanning on demand

A scanner gives the tokens of a source one at a time. It reads a whole segment when it needs one,
gives the token of the text and holds the token of the construct for the next call. So the part of
the source that it has read ends with a construct, and not with the token it gave last.

* `Scanner.next`: the next token, if there is one, and the scanner after it.
* `Scanner.calls`: what a number of calls give.
* `Scanner.drain`: all tokens that are left, and the scanner after them.
-/

namespace TemplateLexer

/-- A source that is being read. -/
structure Scanner where
  /-- What the last construct left behind. -/
  carry : Carry := {}
  /-- How far the source has been read. -/
  mark : Mark := .start
  /-- What has not been read. -/
  rest : List Char
  /-- A token that has been read but not given. -/
  held : Option Token := none
  deriving DecidableEq

namespace Scanner

/-- A scanner at the beginning of a source. -/
def ofSource (source : List Char) : Scanner := { rest := source }

/-- The offset of the first byte that has not been read. -/
def offset (s : Scanner) : Nat := s.mark.offset

/-- The next token, if there is one, and the scanner after it. -/
def next (d : Dialect) (s : Scanner) : Option Token × Scanner :=
  match s.held with
  | some t => (some t, { s with held := none })
  | none =>
    let segment := Segment.read d s.carry s.mark.startsLine s.rest
    let text := segment.textToken? s.carry s.mark
    let construct := segment.constructToken? d s.mark
    (text.or construct,
      { carry := segment.carryAfter d
        mark := segment.markAfter d s.mark
        rest := segment.rest
        held := text.bind fun _ => construct })

/-- A scanner never goes back. -/
theorem offset_le_next (d : Dialect) (s : Scanner) : s.offset ≤ (s.next d).2.offset := by
  unfold next
  split
  · exact Nat.le_refl _
  · exact Nat.le_add_right _ _

/-- A token that was not held is read, and that takes a byte at least. -/
theorem offset_lt_of_next (d : Dialect) {s : Scanner} (hheld : s.held = none)
    (h : (s.next d).1.isSome = true) : s.offset < (s.next d).2.offset := by
  unfold next at h ⊢
  rw [hheld] at h ⊢
  dsimp only at h ⊢
  generalize Segment.read d s.carry s.mark.startsLine s.rest = segment at h ⊢
  show s.mark.offset < s.mark.offset
    + utf8Size (segment.lead ++ segment.text ++ segment.tail ++ segment.image d)
  have htext := segment.length_textToken?_le s.carry s.mark
  have hconstruct := segment.length_constructToken?_le d s.mark
  have hsize := length_le_utf8Size
    (segment.lead ++ segment.text ++ segment.tail ++ segment.image d)
  rw [Option.isSome_or, Bool.or_eq_true] at h
  simp only [List.length_append] at hsize
  rcases h with h | h
  · obtain ⟨u, hu⟩ := Option.isSome_iff_exists.1 h
    rw [hu, Option.toList_some, List.length_singleton] at htext
    omega
  · obtain ⟨u, hu⟩ := Option.isSome_iff_exists.1 h
    rw [hu, Option.toList_some, List.length_singleton] at hconstruct
    omega

/-- What `n` calls give, and the scanner after them. -/
def calls (d : Dialect) : Nat → Scanner → List (Option Token) × Scanner
  | 0, s => ([], s)
  | n + 1, s =>
    let (t?, s) := s.next d
    let (given, s) := calls d n s
    (t? :: given, s)

/-- The work that is left to a scanner. -/
def workLeft (s : Scanner) : Nat := s.rest.length + s.held.toList.length

/-- Giving a token leaves less work. -/
theorem workLeft_lt_of_next {d : Dialect} {s : Scanner} {t : Token}
    (h : (s.next d).1 = some t) : (s.next d).2.workLeft < s.workLeft := by
  unfold next at h ⊢
  split
  · next hheld => simp [workLeft, hheld]
  · next hheld =>
    have hsource := congrArg List.length
      (Segment.source_read d s.carry s.mark.startsLine s.rest)
    simp only [hheld] at h
    simp only [workLeft, hheld, Option.toList_none, List.length_nil]
    generalize Segment.read d s.carry s.mark.startsLine s.rest = segment at *
    have htext := segment.length_textToken?_le s.carry s.mark
    have hconstruct := segment.length_constructToken?_le d s.mark
    simp only [List.length_append] at hsource
    generalize segment.textToken? s.carry s.mark = text at *
    generalize segment.constructToken? d s.mark = construct at *
    cases text with
    | none =>
      obtain rfl : construct = some t := by simpa using h
      simp only [Option.bind_none, Option.toList_none, Option.toList_some, List.length_cons,
        List.length_nil] at hconstruct ⊢
      omega
    | some t' =>
      simp only [Option.bind_some, Option.toList_some, List.length_cons, List.length_nil] at htext ⊢
      omega

/-- Without a token nothing is left. -/
theorem workLeft_eq_zero_of_next {d : Dialect} {s : Scanner} (h : (s.next d).1 = none) :
    (s.next d).2.workLeft = 0 := by
  unfold next at h ⊢
  split at h
  · cases h
  · next hheld =>
    obtain ⟨htext, hconstruct⟩ := Option.or_eq_none_iff.1 h
    have hnone := Option.map_eq_none_iff.1 hconstruct
    simp [workLeft, htext, Segment.rest_eq_nil hnone]

/-- No more tokens are given than there is work. -/
theorem length_calls_le (d : Dialect) (n : Nat) (s : Scanner) :
    ((s.calls d n).1.filterMap id).length ≤ s.workLeft := by
  induction n generalizing s with
  | zero => exact Nat.zero_le _
  | succ n ih =>
    have hmore := ih (s.next d).2
    rw [calls]
    dsimp only
    cases hnext : (s.next d).1 with
    | none =>
      rw [workLeft_eq_zero_of_next hnext] at hmore
      rw [List.filterMap_cons_none rfl]
      omega
    | some t =>
      have hless := workLeft_lt_of_next hnext
      have hcons : (some t :: ((s.next d).2.calls d n).1).filterMap id
          = t :: ((s.next d).2.calls d n).1.filterMap id := List.filterMap_cons_some rfl
      rw [hcons, List.length_cons]
      omega

/-- All tokens that are left, and the scanner after them. -/
def drain (d : Dialect) (s : Scanner) : List Token × Scanner :=
  match _h : s.next d with
  | (none, s') => ([], s')
  | (some t, s') =>
    let (tokens, last) := drain d s'
    (t :: tokens, last)
termination_by s.workLeft
decreasing_by
  have := workLeft_lt_of_next (d := d) (s := s) (t := t) (by rw [_h])
  rwa [_h] at this

end Scanner

end TemplateLexer
