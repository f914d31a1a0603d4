import TemplateLexer.Text.Unprintable

/-!
# Quoted text

A text in double quotes. The quote, the backslash and four controls have short escapes; a
character that would not show is written by its code point, `\u{200b}`; all others stand for
themselves.
-/

namespace TemplateLexer.Quoted

/-- The escape of a character by its code point in lower-case hexadecimal, without leading
zeros. -/
def codePoint (c : Char) : List Char :=
  '\\' :: 'u' :: '\x7b' :: Nat.toDigits 16 c.toNat ++ ['\x7d']

/-- How one character is written inside the quotes. -/
def encodeChar (c : Char) : List Char :=
  match c with
  | '\x00' => ['\\', '0']
  | '\t' => ['\\', 't']
  | '\r' => ['\\', 'r']
  | '\n' => ['\\', 'n']
  | '"' => ['\\', '"']
  | '\\' => ['\\', '\\']
  | c => if isUnprintable c then codePoint c else [c]

/-- The text in its quotes. -/
def encode (text : List Char) : List Char := '"' :: text.flatMap encodeChar ++ ['"']

end TemplateLexer.Quoted
