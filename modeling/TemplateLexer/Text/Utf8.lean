/-!
# Texts in UTF-8

A source is a list of characters. Offsets into it are counted in bytes of its UTF-8 form, and
scanning looks at those bytes: at the first byte of a character's form to tell what the character
cannot be, and at more of them to see whether a text stands at a place.

* `leadByte_not_mem_laterBytes`: the first byte of a character is never found inside another.
* `charAt?_utf8Bytes`, `utf8Bytes_prefix_iff`: where a character begins, the bytes show that
  character, and whether a text stands there.
* `takeBytes_append`, `dropBytes_append`: an offset between two characters divides the text there.
-/

namespace TemplateLexer

/-- The number of bytes that a text takes in UTF-8. -/
def utf8Size : List Char → Nat
  | [] => 0
  | c :: text => c.utf8Size + utf8Size text

@[simp] theorem utf8Size_nil : utf8Size [] = 0 := rfl

@[simp] theorem utf8Size_cons (c : Char) (text : List Char) :
    utf8Size (c :: text) = c.utf8Size + utf8Size text := rfl

@[simp] theorem utf8Size_append (front back : List Char) :
    utf8Size (front ++ back) = utf8Size front + utf8Size back := by
  induction front with
  | nil => simp
  | cons c front ih => simp [ih, Nat.add_assoc]

/-- The bytes of a text in UTF-8. -/
def utf8Bytes (text : List Char) : List UInt8 := text.flatMap String.utf8EncodeChar

@[simp] theorem utf8Bytes_nil : utf8Bytes [] = [] := rfl

@[simp] theorem utf8Bytes_cons (c : Char) (text : List Char) :
    utf8Bytes (c :: text) = String.utf8EncodeChar c ++ utf8Bytes text := by
  simp [utf8Bytes]

@[simp] theorem utf8Bytes_append (front back : List Char) :
    utf8Bytes (front ++ back) = utf8Bytes front ++ utf8Bytes back := by
  simp [utf8Bytes]

@[simp] theorem length_utf8Bytes (text : List Char) : (utf8Bytes text).length = utf8Size text := by
  induction text with
  | nil => rfl
  | cons c text ih => simp [ih]

theorem length_le_utf8Size (text : List Char) : text.length ≤ utf8Size text := by
  induction text with
  | nil => exact Nat.le_refl _
  | cons c text ih =>
    have := c.utf8Size_pos
    rw [List.length_cons, utf8Size_cons]
    omega

/-! ## One character -/

/-- The first byte of a character in UTF-8. -/
def leadByte (c : Char) : UInt8 := (String.utf8EncodeChar c).headD 0

/-- The bytes of a character after its first. -/
def laterBytes (c : Char) : List UInt8 := (String.utf8EncodeChar c).tail

theorem leadByte_cons_laterBytes (c : Char) :
    leadByte c :: laterBytes c = String.utf8EncodeChar c := by
  unfold leadByte laterBytes
  cases h : String.utf8EncodeChar c with
  | nil => exact absurd h String.utf8EncodeChar_ne_nil
  | cons byte bytes => rfl

theorem length_laterBytes (c : Char) : 1 + (laterBytes c).length = c.utf8Size := by
  rw [← String.length_utf8EncodeChar, ← leadByte_cons_laterBytes, List.length_cons, Nat.add_comm]

theorem laterBytes_eq_nil {c : Char} (hc : c.utf8Size = 1) : laterBytes c = [] := by
  have := length_laterBytes c
  exact List.length_eq_zero_iff.1 (by omega)

/-- No first byte of a character is a later byte of one. -/
theorem leadByte_not_mem_laterBytes (c c' : Char) : leadByte c ∉ laterBytes c' := by
  intro h
  obtain ⟨i, hi, hb⟩ := List.mem_iff_getElem.1 h
  have hc := @UInt8.isUTF8FirstByte_getElem_zero_utf8EncodeChar c
  have hc' := @UInt8.isUTF8FirstByte_getElem_utf8EncodeChar c' (i + 1)
    (by rw [String.length_utf8EncodeChar]; have := length_laterBytes c'; omega)
  simp only [← leadByte_cons_laterBytes, List.getElem_cons_succ, List.getElem_cons_zero, hb]
    at hc hc'
  exact absurd (hc'.1 hc) (Nat.succ_ne_zero i)

theorem leadByte_ne_of_mem_laterBytes {c : Char} {byte : UInt8} (h : byte ∈ laterBytes c)
    (c' : Char) : leadByte c' ≠ byte := by
  rintro rfl
  exact leadByte_not_mem_laterBytes c' c h

/-- The character whose form begins here, if one does. Between two bytes of one form none does. -/
def charAt? (bytes : List UInt8) : Option Char := (bytes.take 4).toByteArray.utf8DecodeChar? 0

@[simp] theorem charAt?_append (c : Char) (bytes : List UInt8) :
    charAt? (String.utf8EncodeChar c ++ bytes) = some c := by
  have hsize : (String.utf8EncodeChar c).length ≤ 4 := by
    rw [String.length_utf8EncodeChar]
    exact c.utf8Size_le_four
  rw [charAt?, List.take_append, List.take_of_length_le hsize, List.toByteArray_append]
  exact ByteArray.utf8DecodeChar?_utf8EncodeChar_append

@[simp] theorem charAt?_utf8Bytes (text : List Char) : charAt? (utf8Bytes text) = text.head? := by
  cases text with
  | nil => rfl
  | cons c text => simp

/-- A character of one byte is known by its first byte. -/
theorem leadByte_eq_leadByte_iff {c c' : Char} (hc : c.utf8Size = 1) :
    leadByte c = leadByte c' ↔ c = c' := by
  refine ⟨fun h => ?_, fun h => h ▸ rfl⟩
  have hform := leadByte_cons_laterBytes c
  have hform' := leadByte_cons_laterBytes c'
  rw [laterBytes_eq_nil hc] at hform
  have hc' : charAt? (String.utf8EncodeChar c ++ laterBytes c') = some c' := by
    rw [← hform, h, List.singleton_append, hform']
    simpa using charAt?_append c' []
  exact Option.some.inj ((charAt?_append c _).symm.trans hc')

theorem leadByte_beq {k : Char} (hk : k.utf8Size = 1) (c : Char) :
    (leadByte c == leadByte k) = (c == k) := by
  rw [Bool.eq_iff_iff, beq_iff_eq, beq_iff_eq, eq_comm, leadByte_eq_leadByte_iff hk, eq_comm]

/-- The first byte of a text in UTF-8, its other bytes and those of the characters after it. -/
theorem utf8Bytes_cons_eq (c : Char) (text : List Char) :
    utf8Bytes (c :: text) = leadByte c :: (laterBytes c ++ utf8Bytes text) := by
  rw [utf8Bytes_cons, ← leadByte_cons_laterBytes, List.cons_append]

/-- A text begins with another if its bytes do. -/
theorem utf8Bytes_prefix_iff {text source : List Char} :
    utf8Bytes text <+: utf8Bytes source ↔ text <+: source := by
  refine ⟨fun h => ?_, fun ⟨rest, hrest⟩ => ⟨utf8Bytes rest, by simp [← hrest]⟩⟩
  induction text generalizing source with
  | nil => exact List.nil_prefix
  | cons c text ih =>
    obtain ⟨bytes, hbytes⟩ := h
    rw [utf8Bytes_cons, List.append_assoc] at hbytes
    have hhead : source.head? = some c := by rw [← charAt?_utf8Bytes, ← hbytes, charAt?_append]
    obtain ⟨rest, rfl⟩ := List.head?_eq_some_iff.1 hhead
    rw [utf8Bytes_cons, List.append_cancel_left_eq] at hbytes
    exact List.cons_prefix_cons.2 ⟨rfl, ih ⟨bytes, hbytes⟩⟩

/-! ## Offsets -/

/-- The characters of a text before the byte at `offset`. -/
def takeBytes (offset : Nat) : List Char → List Char
  | [] => []
  | c :: text => if c.utf8Size ≤ offset then c :: takeBytes (offset - c.utf8Size) text else []

/-- The characters of a text from the byte at `offset` on. -/
def dropBytes (offset : Nat) : List Char → List Char
  | [] => []
  | c :: text => if c.utf8Size ≤ offset then dropBytes (offset - c.utf8Size) text else c :: text

@[simp] theorem takeBytes_zero (text : List Char) : takeBytes 0 text = [] := by
  cases text with
  | nil => rfl
  | cons c text => simp [takeBytes, Char.utf8Size_pos, Nat.not_le.2]

@[simp] theorem dropBytes_zero (text : List Char) : dropBytes 0 text = text := by
  cases text with
  | nil => rfl
  | cons c text => simp [dropBytes, Char.utf8Size_pos, Nat.not_le.2]

theorem takeBytes_append (front back : List Char) :
    takeBytes (utf8Size front) (front ++ back) = front := by
  induction front with
  | nil => simp
  | cons c front ih => simp [takeBytes, ih]

theorem dropBytes_append (front back : List Char) :
    dropBytes (utf8Size front) (front ++ back) = back := by
  induction front with
  | nil => simp
  | cons c front ih => simp [dropBytes, ih]

/-- An offset divides every text into what stands before and what stands from there on. -/
theorem takeBytes_append_dropBytes (offset : Nat) (text : List Char) :
    takeBytes offset text ++ dropBytes offset text = text := by
  induction text generalizing offset with
  | nil => rfl
  | cons c text ih =>
    unfold takeBytes dropBytes
    split
    · rw [List.cons_append, ih]
    · rfl

/-- Of two places in a text, the one with the smaller offset comes first. -/
theorem exists_append_of_utf8Size_le {front rest front' rest' : List Char}
    (h : front ++ rest = front' ++ rest') (hle : utf8Size front ≤ utf8Size front') :
    ∃ between, front' = front ++ between ∧ rest = between ++ rest' := by
  rcases List.append_eq_append_iff.1 h with hbetween | ⟨between, rfl, rfl⟩
  · exact hbetween
  · have hlength := length_le_utf8Size between
    rw [utf8Size_append] at hle
    obtain rfl : between = [] := List.length_eq_zero_iff.1 (by omega)
    exact ⟨[], by simp, by simp⟩

/-- Two places in a text with the same offset are the same. -/
theorem eq_of_append_eq_of_utf8Size_eq {front rest front' rest' : List Char}
    (h : front ++ rest = front' ++ rest') (hsize : utf8Size front = utf8Size front') :
    front = front' ∧ rest = rest' := by
  have hfront := takeBytes_append front rest
  rw [h, hsize, takeBytes_append] at hfront
  subst hfront
  exact ⟨rfl, List.append_cancel_left h⟩

end TemplateLexer
