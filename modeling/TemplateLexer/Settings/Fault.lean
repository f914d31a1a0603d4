import TemplateLexer.Settings

/-!
# Faults in settings

Settings make a language only if every place of a source can be read in one way: no delimiter is
empty, none starts with the escape character, and none is the beginning of another. `fault?` finds
the first fault, in this order of the three rules, and `Fault.message` tells the author about it.
-/

namespace TemplateLexer

/-- A delimiter together with where it is used. -/
structure Delimiter where
  markup : Markup
  side : Side
  text : List Char
  deriving DecidableEq

/-- The six delimiters in the order in which they are checked. -/
def Delimiters.listed (d : Delimiters) : List Delimiter :=
  [.note, .tag, .expression].flatMap fun markup =>
    [⟨markup, .opening, (d.pair markup).opener⟩, ⟨markup, .closing, (d.pair markup).closer⟩]

/-- What is wrong with settings. -/
inductive Fault where
  /-- A delimiter has no characters. -/
  | emptyDelimiter (markup : Markup) (side : Side)
  /-- A delimiter starts with the escape character. -/
  | escapeInDelimiter (delimiter : Delimiter) (escape : Char)
  /-- Two openers are the same. -/
  | duplicateOpener (first second : Markup) (text : List Char)
  /-- Two delimiters that are not both openers are the same. -/
  | duplicateDelimiter (first second : Delimiter)
  /-- An opener is the beginning of another. -/
  | ambiguousOpener (shorter longer : Delimiter)
  /-- A delimiter is the beginning of another, and they are not both openers. -/
  | ambiguousDelimiter (shorter longer : Delimiter)
  deriving DecidableEq

namespace Delimiter

/-- Whether two delimiters are both openers. -/
def bothOpen (a b : Delimiter) : Bool := a.side == .opening && b.side == .opening

/-- The fault of two delimiters that are the same. -/
def duplicate (a b : Delimiter) : Fault :=
  if a.bothOpen b then .duplicateOpener a.markup b.markup a.text else .duplicateDelimiter a b

/-- The fault of a delimiter that is the beginning of another. -/
def ambiguous (shorter longer : Delimiter) : Fault :=
  if shorter.bothOpen longer then .ambiguousOpener shorter longer
  else .ambiguousDelimiter shorter longer

/-- The fault of two delimiters of which one is the beginning of the other. -/
def clash? (a b : Delimiter) : Option Fault :=
  if a.text = b.text then some (duplicate a b)
  else if a.text.isPrefixOf b.text then some (ambiguous a b)
  else if b.text.isPrefixOf a.text then some (ambiguous b a)
  else none

/-- The fault of a delimiter without characters. -/
def emptiness? (d : Delimiter) : Option Fault :=
  if d.text = [] then some (.emptyDelimiter d.markup d.side) else none

/-- The fault of a delimiter that starts with the escape character. -/
def escaped? (escape : Char) (d : Delimiter) : Option Fault :=
  if d.text.head? = some escape then some (.escapeInDelimiter d escape) else none

end Delimiter

/-- The fault of the first pair of delimiters that clash, pairs being ordered by their first and
then by their second member. -/
def firstClash? : List Delimiter → Option Fault
  | [] => none
  | d :: rest => (rest.findSome? d.clash?).or (firstClash? rest)

theorem Delimiter.clash?_eq_none_iff {a b : Delimiter} :
    a.clash? b = none ↔ ¬ a.text <+: b.text ∧ ¬ b.text <+: a.text := by
  unfold clash?
  simp only [List.isPrefixOf_iff_prefix]
  split
  · next h => simp [h]
  · split <;> simp_all

/-- There is no clash if no two delimiters of the list clash. -/
theorem firstClash?_eq_none_iff {all : List Delimiter} :
    firstClash? all = none ↔ all.Pairwise fun a b => a.clash? b = none := by
  induction all with
  | nil => simp [firstClash?]
  | cons d rest ih => simp [firstClash?, ih]

/-- The first fault of settings. -/
def Settings.fault? (s : Settings) : Option Fault :=
  let all := s.delimiters.listed
  ((all.findSome? Delimiter.emptiness?).or (all.findSome? (Delimiter.escaped? s.escape))).or
    (firstClash? all)

/-- A text between two grave accents. -/
private def ticked (text : List Char) : String := "`" ++ String.ofList text ++ "`"

/-- The fault in words. -/
def Fault.message : Fault → String
  | .emptyDelimiter markup side =>
    side.name ++ " delimiter for " ++ markup.kind.name ++ " must not be empty"
  | .escapeInDelimiter d escape =>
    d.side.name ++ " delimiter " ++ ticked d.text ++ " for " ++ d.markup.kind.name
      ++ " starts with the escape character " ++ ticked [escape]
  | .duplicateOpener first second text =>
    first.kind.name ++ " and " ++ second.kind.name ++ " share the opening delimiter "
      ++ ticked text
  | .duplicateDelimiter first second =>
    first.side.name ++ " delimiter for " ++ first.markup.kind.name ++ " and "
      ++ second.side.name ++ " delimiter for " ++ second.markup.kind.name ++ " are both "
      ++ ticked first.text
  | .ambiguousOpener shorter longer =>
    "opening delimiter " ++ ticked shorter.text ++ " (" ++ shorter.markup.kind.name
      ++ ") is a prefix of " ++ ticked longer.text ++ " (" ++ longer.markup.kind.name ++ ")"
  | .ambiguousDelimiter shorter longer =>
    shorter.side.name ++ " delimiter " ++ ticked shorter.text ++ " (" ++ shorter.markup.kind.name
      ++ ") is a prefix of " ++ longer.side.name ++ " delimiter " ++ ticked longer.text ++ " ("
      ++ longer.markup.kind.name ++ ")"

end TemplateLexer
