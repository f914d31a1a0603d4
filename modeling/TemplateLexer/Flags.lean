/-!
# Flags of a token

A token carries a set of flags. Four record the whitespace markers at its two ends, two record how
its construct was found. A set of flags is also a number, with one bit for each flag.
-/

namespace TemplateLexer

/-- The flags that a token can carry. -/
inductive Flag where
  /-- A `-` after the opener: white space before the token was removed. -/
  | trimBefore
  /-- A `-` before the closer: white space after the token was removed. -/
  | trimAfter
  /-- A `+` after the opener: blanks before the tag on its line were kept. -/
  | keepBefore
  /-- A `+` before the closer: the line break after the tag was kept. -/
  | keepAfter
  /-- The source ended, or a note began, before the construct was closed. -/
  | unterminated
  /-- The text is the verbatim body of a raw block. -/
  | raw
  deriving DecidableEq

namespace Flag

/-- All flags, in the order of their bits. -/
def all : List Flag := [trimBefore, trimAfter, keepBefore, keepAfter, unterminated, raw]

/-- The place of the flag's bit. -/
def index : Flag → Nat
  | trimBefore => 0
  | trimAfter => 1
  | keepBefore => 2
  | keepAfter => 3
  | unterminated => 4
  | raw => 5

/-- The name that listings use. -/
def name : Flag → String
  | trimBefore => "TRIM_BEFORE"
  | trimAfter => "TRIM_AFTER"
  | keepBefore => "KEEP_BEFORE"
  | keepAfter => "KEEP_AFTER"
  | unterminated => "UNTERMINATED"
  | raw => "RAW"

end Flag

/-- A set of flags. -/
structure Flags where
  trimBefore : Bool := false
  trimAfter : Bool := false
  keepBefore : Bool := false
  keepAfter : Bool := false
  unterminated : Bool := false
  raw : Bool := false
  deriving DecidableEq

namespace Flags

/-- Whether a flag is in the set. -/
def has (s : Flags) : Flag → Bool
  | .trimBefore => s.trimBefore
  | .trimAfter => s.trimAfter
  | .keepBefore => s.keepBefore
  | .keepAfter => s.keepAfter
  | .unterminated => s.unterminated
  | .raw => s.raw

/-- The set of the flags with property `p`. -/
def ofHas (p : Flag → Bool) : Flags where
  trimBefore := p .trimBefore
  trimAfter := p .trimAfter
  keepBefore := p .keepBefore
  keepAfter := p .keepAfter
  unterminated := p .unterminated
  raw := p .raw

@[simp] theorem has_ofHas (p : Flag → Bool) (f : Flag) : (ofHas p).has f = p f := by
  cases f <;> rfl

@[simp] theorem ofHas_has (s : Flags) : ofHas s.has = s := rfl

/-- The set without flags. -/
def empty : Flags := {}

/-- The flags in one of two sets. -/
def union (s t : Flags) : Flags := ofHas fun f => s.has f || t.has f

/-- The flags in both sets. -/
def inter (s t : Flags) : Flags := ofHas fun f => s.has f && t.has f

/-- The flags in `s` that are not in `t`. -/
def diff (s t : Flags) : Flags := ofHas fun f => s.has f && !t.has f

/-- The flags in exactly one of two sets. -/
def symmDiff (s t : Flags) : Flags := ofHas fun f => s.has f != t.has f

/-- The flags that are not in the set. -/
def compl (s : Flags) : Flags := ofHas fun f => !s.has f

/-- Whether all flags of `t` are in `s`. -/
def contains (s t : Flags) : Bool := Flag.all.all fun f => !t.has f || s.has f

/-- Whether two sets share a flag. -/
def intersects (s t : Flags) : Bool := Flag.all.any fun f => s.has f && t.has f

/-- The flags of a set, in the order of their bits. -/
def toList (s : Flags) : List Flag := Flag.all.filter s.has

/-- The number with the bits of the flags in the set. -/
def bits (s : Flags) : Nat := s.toList.foldr (fun f bits => 1 <<< f.index ||| bits) 0

/-- The set whose flags have their bits in `n`; other bits of `n` are ignored. -/
def ofBits (n : Nat) : Flags := ofHas fun f => n.testBit f.index

/-- The set with the number `n`, if every bit of `n` is the bit of a flag. -/
def ofBits? (n : Nat) : Option Flags := if (ofBits n).bits = n then some (ofBits n) else none

end Flags

end TemplateLexer
