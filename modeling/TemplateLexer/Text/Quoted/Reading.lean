import TemplateLexer.Text.Quoted

/-!
# Reading quoted text

A quoted text is read from its opening to its closing quote, one character at a time; what a
character stands for depends on what stands before it, which `ReadState` keeps.

* `readChars?_encodeChar`: what is written for one character is read as this character.
* `read?_encode`: a quoted text is read back, and so is what follows it.
* `encode_append_inj`: so two different texts have different quoted texts, whatever follows them.

None of these depends on which characters are shown by their code points.
-/

namespace TemplateLexer.Quoted

/-- What stands before the next character. -/
inductive ReadState where
  /-- The quote in front, or a character that is complete. -/
  | plain
  /-- A backslash. -/
  | escape
  /-- A backslash and the letter of code points. -/
  | codePoint
  /-- The brace and the first digits of a code point, with this value. -/
  | digits (value : Nat)

/-- The character that a short escape stands for. -/
def ofShort? : Char → Option Char
  | '0' => some '\x00'
  | 't' => some '\t'
  | 'r' => some '\r'
  | 'n' => some '\n'
  | '"' => some '"'
  | '\\' => some '\\'
  | _ => none

/-- The value of a hexadecimal digit in lower case. -/
def digitValue (c : Char) : Nat :=
  if c.toNat < 'a'.toNat then c.toNat - '0'.toNat else c.toNat - 'a'.toNat + 10

/-- The value of a number to which more digits are added. -/
def digitsValue (value : Nat) (digits : List Char) : Nat :=
  digits.foldl (fun value c => 16 * value + digitValue c) value

/-- What was read, with one more character in front of the text. -/
def push (c : Char) (r : List Char × List Char) : List Char × List Char := (c :: r.1, r.2)

/-- Reads up to the closing quote: the text, and what follows the quote. -/
def readChars? : ReadState → List Char → Option (List Char × List Char)
  | _, [] => none
  | .plain, c :: rest =>
    if c = '"' then some ([], rest)
    else if c = '\\' then readChars? .escape rest
    else (readChars? .plain rest).map (push c)
  | .escape, c :: rest =>
    if c = 'u' then readChars? .codePoint rest
    else (ofShort? c).bind fun c => (readChars? .plain rest).map (push c)
  | .codePoint, c :: rest => if c = '\x7b' then readChars? (.digits 0) rest else none
  | .digits value, c :: rest =>
    if c = '\x7d' then (readChars? .plain rest).map (push (Char.ofNat value))
    else readChars? (.digits (16 * value + digitValue c)) rest

/-- Reads a quoted text at the front: the text, and what follows it. -/
def read? : List Char → Option (List Char × List Char)
  | '"' :: rest => readChars? .plain rest
  | _ => none

/-! ## Code points -/

theorem digitValue_digitChar : ∀ d < 16, digitValue d.digitChar = d := by decide

theorem digitsValue_concat (value : Nat) (digits : List Char) (c : Char) :
    digitsValue value (digits ++ [c]) = 16 * digitsValue value digits + digitValue c := by
  rw [digitsValue, List.foldl_append]
  rfl

/-- The digits of a number have its value. The last digit is taken off, and the others are those of a
smaller number. -/
theorem digitsValue_toDigits (n : Nat) : digitsValue 0 (Nat.toDigits 16 n) = n := by
  induction n using Nat.strongRecOn with
  | _ n ih =>
    rw [Nat.toDigits_eq_if (by decide)]
    split
    · next hn =>
      rw [← List.nil_append [n.digitChar], digitsValue_concat, digitValue_digitChar n hn]
      exact Nat.zero_add n
    · next hn =>
      rw [digitsValue_concat, ih (n / 16) (by omega),
        digitValue_digitChar _ (Nat.mod_lt _ (by decide))]
      omega

/-- The brace behind a code point is none of its digits. -/
theorem brace_not_mem_toDigits (n : Nat) : '\x7d' ∉ Nat.toDigits 16 n := by
  induction n using Nat.strongRecOn with
  | _ n ih =>
    rw [Nat.toDigits_eq_if (by decide)]
    split
    · simp
    · simpa using ih (n / 16) (by omega)

theorem readChars?_digits {digits : List Char} (hbrace : '\x7d' ∉ digits) (value : Nat)
    (rest : List Char) :
    readChars? (.digits value) (digits ++ '\x7d' :: rest) =
      (readChars? .plain rest).map (push (Char.ofNat (digitsValue value digits))) := by
  induction digits generalizing value with
  | nil => rfl
  | cons c digits ih =>
    obtain ⟨hc, hbrace⟩ := not_or.1 (mt List.mem_cons.2 hbrace)
    rw [List.cons_append, readChars?, if_neg fun heq => hc heq.symm, ih hbrace]
    rfl

/-! ## Texts -/

/-- What is written for a character is read as the character. -/
theorem readChars?_encodeChar (c : Char) (rest : List Char) :
    readChars? .plain (encodeChar c ++ rest) = (readChars? .plain rest).map (push c) := by
  unfold encodeChar
  split
  case h_7 hquote hbackslash =>
    split
    · have hdigits := readChars?_digits (brace_not_mem_toDigits c.toNat) 0 rest
      rw [digitsValue_toDigits, Char.ofNat_toNat] at hdigits
      simpa [codePoint, readChars?] using hdigits
    · rw [List.singleton_append, readChars?, if_neg hquote, if_neg hbackslash]
  all_goals rfl

theorem readChars?_encode (text rest : List Char) :
    readChars? .plain (text.flatMap encodeChar ++ '"' :: rest) = some (text, rest) := by
  induction text with
  | nil => rfl
  | cons c text ih => rw [List.flatMap_cons, List.append_assoc, readChars?_encodeChar, ih]; rfl

/-- A quoted text is read back. -/
theorem read?_encode (text rest : List Char) : read? (encode text ++ rest) = some (text, rest) := by
  rw [← readChars?_encode text rest]
  simp [encode, read?]

/-- The quoted text tells where it ends and which text it is. -/
theorem encode_append_inj {text text' rest rest' : List Char} :
    encode text ++ rest = encode text' ++ rest' ↔ text = text' ∧ rest = rest' := by
  constructor
  · intro h
    have hread := congrArg read? h
    rw [read?_encode, read?_encode] at hread
    exact Prod.mk.inj (Option.some.inj hread)
  · rintro ⟨rfl, rfl⟩
    rfl

end TemplateLexer.Quoted
