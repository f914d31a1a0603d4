import TemplateLexer.Text.Utf8

/-!
# Places between bytes

A `Cursor` is a place in a text between two bytes of its UTF-8 form. Only the bytes that are looked
at are computed, so a search costs no more than what it passes over.

* `startsWith_start`, `charAt?_start`: before a character, the bytes show that character and
  whether a text stands there.
* `startsWith_of_not_leadByte`: inside a character no text stands.
-/

namespace TemplateLexer

/-- A place in a text. -/
structure Cursor where
  /-- The bytes from the place up to the next character. -/
  later : List UInt8
  /-- The characters after these bytes. -/
  text : List Char

namespace Cursor

/-- The place before the first byte of a text. -/
def start (text : List Char) : Cursor := ⟨[], text⟩

/-- The bytes from a place on. -/
def bytes (p : Cursor) : List UInt8 := p.later ++ utf8Bytes p.text

/-- The byte at a place, and the place after it. -/
def next? : Cursor → Option (UInt8 × Cursor)
  | ⟨byte :: later, text⟩ => some (byte, ⟨later, text⟩)
  | ⟨[], c :: text⟩ => some (leadByte c, ⟨laterBytes c, text⟩)
  | ⟨[], []⟩ => none

/-- The number of bytes from a place on. -/
def size (p : Cursor) : Nat := p.later.length + utf8Size p.text

/-- The place after `n` more bytes. -/
def skip : Nat → Cursor → Cursor
  | 0, p => p
  | n + 1, p =>
    match p.next? with
    | none => p
    | some (_, q) => skip n q

/-- The first `n` bytes from a place on. -/
def take (n : Nat) (p : Cursor) : List UInt8 := (p.later ++ utf8Bytes (p.text.take n)).take n

/-- Whether `text` stands at a place. -/
def startsWith (p : Cursor) (text : List Char) : Bool :=
  (utf8Bytes text).isPrefixOf (p.take (utf8Size text))

/-- The character whose form begins at a place, if one does. -/
def charAt? (p : Cursor) : Option Char := TemplateLexer.charAt? (p.take 4)

/-! ## Moving -/

theorem size_of_next? {p q : Cursor} {byte : UInt8} (h : p.next? = some (byte, q)) :
    q.size + 1 = p.size := by
  unfold next? at h
  split at h
  · obtain ⟨-, rfl⟩ := Prod.mk.inj (Option.some.inj h)
    simp only [size, List.length_cons]
    omega
  · next c text =>
    obtain ⟨-, rfl⟩ := Prod.mk.inj (Option.some.inj h)
    have := length_laterBytes c
    simp only [size, utf8Size_cons, List.length_nil]
    omega
  · cases h

theorem size_skip_le (n : Nat) (p : Cursor) : (p.skip n).size ≤ p.size := by
  induction n generalizing p with
  | zero => exact Nat.le_refl _
  | succ n ih =>
    rw [skip]
    split
    · exact Nat.le_refl _
    · next q h =>
      have := size_of_next? h
      have := ih q
      omega

theorem skip_of_le {n : Nat} {later : List UInt8} (h : n ≤ later.length) (text : List Char) :
    (⟨later, text⟩ : Cursor).skip n = ⟨later.drop n, text⟩ := by
  induction n generalizing later with
  | zero => rfl
  | succ n ih =>
    cases later with
    | nil => cases h
    | cons byte later => exact ih (Nat.le_of_succ_le_succ h)

theorem skip_later (later : List UInt8) (text : List Char) :
    (⟨later, text⟩ : Cursor).skip later.length = start text := by
  rw [skip_of_le (Nat.le_refl _), List.drop_length, start]

theorem skip_laterBytes (c : Char) (text : List Char) :
    (⟨laterBytes c, text⟩ : Cursor).skip (c.utf8Size - 1) = start text := by
  rw [← length_laterBytes, Nat.add_sub_cancel_left, skip_later]

/-- The first place from `p` on with a byte that has not property `q`. -/
def skipWhile (q : UInt8 → Bool) (p : Cursor) : Cursor :=
  match _h : p.next? with
  | none => p
  | some (byte, p') => if q byte then skipWhile q p' else p
termination_by p.size
decreasing_by
  have := size_of_next? _h
  omega

/-- Bytes are passed over as their characters are, if those have one byte each. -/
theorem skipWhile_start {q : UInt8 → Bool} {p : Char → Bool} (hbyte : ∀ c, q (leadByte c) = p c)
    (hsize : ∀ c, p c = true → c.utf8Size = 1) (text : List Char) :
    (start text).skipWhile q = start (text.dropWhile p) := by
  induction text with
  | nil =>
    rw [skipWhile]
    rfl
  | cons c text ih =>
    rw [skipWhile]
    dsimp only [start, next?]
    rw [hbyte]
    by_cases hc : p c = true
    · rw [if_pos hc, laterBytes_eq_nil (hsize c hc), List.dropWhile_cons_of_pos hc]
      exact ih
    · rw [if_neg hc, List.dropWhile_cons_of_neg hc]

/-- A character is passed over with its bytes. -/
theorem skip_cons (c : Char) (text : List Char) :
    (start (c :: text)).skip c.utf8Size = start text := by
  rw [← length_laterBytes, Nat.add_comm]
  exact skip_later (laterBytes c) text

theorem skip_add (m n : Nat) (p : Cursor) : p.skip (m + n) = (p.skip m).skip n := by
  induction m generalizing p with
  | zero => rw [Nat.zero_add, skip]
  | succ m ih =>
    rw [Nat.add_right_comm, skip, skip]
    split
    · next hend =>
      cases n with
      | zero => rfl
      | succ n => rw [skip, hend]
    · exact ih _

/-- A text is passed over with its bytes. -/
theorem skip_append (front back : List Char) :
    (start (front ++ back)).skip (utf8Size front) = start back := by
  induction front with
  | nil => rfl
  | cons c front ih => rw [utf8Size_cons, skip_add, List.cons_append, skip_cons, ih]

/-! ## Looking -/

theorem take_eq (n : Nat) (p : Cursor) : p.take n = p.bytes.take n := by
  have hbytes : p.bytes = p.later ++ utf8Bytes (p.text.take n) ++ utf8Bytes (p.text.drop n) := by
    rw [List.append_assoc, ← utf8Bytes_append, List.take_append_drop, bytes]
  rw [hbytes, take]
  by_cases hn : n ≤ p.text.length
  · have hlength : n ≤ (p.later ++ utf8Bytes (p.text.take n)).length := by
      have := length_le_utf8Size (p.text.take n)
      rw [List.length_take] at this
      rw [List.length_append, length_utf8Bytes]
      omega
    exact (List.take_append_of_le_length hlength).symm
  · rw [List.drop_eq_nil_of_le (by omega), utf8Bytes_nil, List.append_nil]

theorem startsWith_eq (p : Cursor) (text : List Char) :
    p.startsWith text = (utf8Bytes text).isPrefixOf p.bytes := by
  rw [Bool.eq_iff_iff, startsWith, take_eq, List.isPrefixOf_iff_prefix, List.isPrefixOf_iff_prefix,
    List.prefix_take_iff, length_utf8Bytes]
  exact and_iff_left (Nat.le_refl _)

/-- A text stands where a character begins if the characters from there on start with it. -/
@[simp] theorem startsWith_start (source text : List Char) :
    (start source).startsWith text = text.isPrefixOf source := by
  rw [startsWith_eq, Bool.eq_iff_iff, List.isPrefixOf_iff_prefix, List.isPrefixOf_iff_prefix]
  exact utf8Bytes_prefix_iff

/-- No text stands inside a character. -/
theorem startsWith_of_not_leadByte {byte : UInt8} {text : List Char}
    (hbyte : ∀ c, leadByte c ≠ byte) (hne : text ≠ []) (later : List UInt8) (rest : List Char) :
    (⟨byte :: later, rest⟩ : Cursor).startsWith text = false := by
  obtain ⟨c, text, rfl⟩ := List.exists_cons_of_ne_nil hne
  rw [startsWith_eq, bytes, utf8Bytes_cons_eq, List.cons_append, List.isPrefixOf_cons_cons,
    beq_eq_false_iff_ne.2 (hbyte c), Bool.false_and]

/-- Where a text stands in another, that divides at this place: a text stands only where a
character begins. -/
theorem exists_of_startsWith_skip {source text : List Char} {offset : Nat} (hne : text ≠ [])
    (h : ((start source).skip offset).startsWith text = true) :
    ∃ front rest, source = front ++ text ++ rest ∧ utf8Size front = offset := by
  induction source generalizing offset with
  | nil =>
    have hskip : (start []).skip offset = start [] := by cases offset <;> rfl
    rw [hskip, startsWith_start, List.isPrefixOf_iff_prefix, List.prefix_nil] at h
    exact absurd h hne
  | cons c source ih =>
    by_cases hsize : c.utf8Size ≤ offset
    · rw [← Nat.add_sub_cancel' hsize, skip_add, skip_cons] at h
      obtain ⟨front, rest, rfl, hfront⟩ := ih h
      exact ⟨c :: front, rest, rfl, by rw [utf8Size_cons, hfront, Nat.add_sub_cancel' hsize]⟩
    · cases offset with
      | zero =>
        rw [skip, startsWith_start, List.isPrefixOf_iff_prefix] at h
        obtain ⟨rest, hrest⟩ := h
        exact ⟨[], rest, hrest.symm, rfl⟩
      | succ offset =>
        have hlength := length_laterBytes c
        have hlt : offset < (laterBytes c).length := by omega
        have hskip : (start (c :: source)).skip (offset + 1)
            = ⟨(laterBytes c).drop offset, source⟩ :=
          skip_of_le (Nat.le_of_lt hlt) source
        rw [hskip, List.drop_eq_getElem_cons hlt, startsWith_of_not_leadByte
          (leadByte_ne_of_mem_laterBytes (List.getElem_mem hlt)) hne] at h
        cases h

@[simp] theorem charAt?_start (text : List Char) : (start text).charAt? = text.head? := by
  rw [charAt?, take_eq, TemplateLexer.charAt?, List.take_take, Nat.min_self,
    ← TemplateLexer.charAt?]
  exact charAt?_utf8Bytes text

end Cursor

end TemplateLexer
