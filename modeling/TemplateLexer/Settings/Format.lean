import TemplateLexer.Settings
import TemplateLexer.Settings.Value

/-!
# Settings as data values

Each structure of the settings is a record, or a list of its fields. A field that is not written
has its default value, but a pair must have both delimiters. `decode?` reads either form and
`encode` writes the record with all fields.
-/

namespace TemplateLexer

namespace Pair

/-- The names of the fields, in order. -/
def fieldNames : List String := ["open", "close"]

/-- Writes both delimiters. -/
def encode (p : Pair) : Value := .record [("open", .text p.opener), ("close", .text p.closer)]

/-- Reads a pair, in which neither delimiter may be missing. -/
def decode? (v : Value) : Option Pair := do
  let [some opener, some closer] ← v.slots? fieldNames | none
  return ⟨← opener.text?, ← closer.text?⟩

end Pair

namespace Delimiters

/-- The names of the fields, in order. -/
def fieldNames : List String := ["expression", "tag", "note"]

/-- Writes the three pairs. -/
def encode (d : Delimiters) : Value :=
  .record [("expression", d.expression.encode), ("tag", d.tag.encode), ("note", d.note.encode)]

/-- Reads the three pairs. -/
def decode? (v : Value) : Option Delimiters := do
  let unset : Delimiters := {}
  let [expression, tag, note] ← v.slots? fieldNames | none
  return ⟨← Value.readSlot unset.expression Pair.decode? expression,
    ← Value.readSlot unset.tag Pair.decode? tag, ← Value.readSlot unset.note Pair.decode? note⟩

end Delimiters

namespace TagSpacing

/-- The names of the fields, in order. -/
def fieldNames : List String := ["lstrip_blocks", "trim_blocks"]

/-- Writes the two switches. -/
def encode (s : TagSpacing) : Value :=
  .record [("lstrip_blocks", .bool s.lstripBlocks), ("trim_blocks", .bool s.trimBlocks)]

/-- Reads the two switches. -/
def decode? (v : Value) : Option TagSpacing := do
  let unset : TagSpacing := {}
  let [lstripBlocks, trimBlocks] ← v.slots? fieldNames | none
  return ⟨← Value.readSlot unset.lstripBlocks Value.bool? lstripBlocks,
    ← Value.readSlot unset.trimBlocks Value.bool? trimBlocks⟩

end TagSpacing

namespace Legacy

/-- The name of the field. -/
def fieldNames : List String := ["whitespace_required_within_tokens"]

/-- Writes the switch. -/
def encode (l : Legacy) : Value :=
  .record [("whitespace_required_within_tokens", .bool l.boundaryRequired)]

/-- Reads the switch. -/
def decode? (v : Value) : Option Legacy := do
  let unset : Legacy := {}
  let [boundaryRequired] ← v.slots? fieldNames | none
  return ⟨← Value.readSlot unset.boundaryRequired Value.bool? boundaryRequired⟩

end Legacy

namespace Settings

/-- The names of the fields, in order. -/
def fieldNames : List String := ["delimiters", "escape_char", "whitespace", "legacy", "raw_blocks"]

/-- Writes all settings. -/
def encode (s : Settings) : Value :=
  .record [("delimiters", s.delimiters.encode), ("escape_char", .text [s.escape]),
    ("whitespace", s.spacing.encode), ("legacy", s.legacy.encode),
    ("raw_blocks", .bool s.rawBlocks)]

/-- Reads settings. -/
def decode? (v : Value) : Option Settings := do
  let unset : Settings := {}
  let [delimiters, escape, spacing, legacy, rawBlocks] ← v.slots? fieldNames | none
  return ⟨← Value.readSlot unset.delimiters Delimiters.decode? delimiters,
    ← Value.readSlot unset.escape Value.char? escape,
    ← Value.readSlot unset.spacing TagSpacing.decode? spacing,
    ← Value.readSlot unset.legacy Legacy.decode? legacy,
    ← Value.readSlot unset.rawBlocks Value.bool? rawBlocks⟩

end Settings

end TemplateLexer
