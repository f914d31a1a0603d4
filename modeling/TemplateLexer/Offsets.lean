import TemplateLexer.Scanner

/-!
# Scanning by offsets

The scanner of `Scanner` cuts what it reads off a list of characters. A scanner of a source in
memory keeps the source whole: it finds places in it by their offsets in bytes, cuts texts out
between two offsets, and moves to an offset. Each of these operations has a contract, since an
offset may lie inside a character, behind the source or before the place that was reached. Here
every contract is checked, and a step that breaks one ends in a `Breach`.

* `slice`, `OffsetScanner.moveTo`, `Dialect.seekOpening?`, `Token.ofSlices`: the operations with
  a contract.
* `OffsetScanner.next`: the next token, if there is one, and the scanner after it.
-/

namespace TemplateLexer

/-- A contract that a step broke. -/
inductive Breach where
  /-- A text was to be cut out between offsets that are not in order, or do not both lie between two
  characters of the source. -/
  | slice (start stop : Nat)
  /-- The scanner was to move back, behind the source or into a character. -/
  | move (start stop : Nat)
  /-- More bytes were looked for at once than a search can look for. -/
  | needles (count : Nat)
  /-- The token of a construct was to be made away from the place of the scanner. -/
  | misplaced (offset start : Nat)
  /-- The image of a token has not the size of its span. -/
  | image (start stop : Nat)
  deriving DecidableEq

/-- Steps that keep their contracts one after the other keep them each. -/
theorem exists_of_bind_eq_ok {α β : Type} {step : Except Breach α} {more : α → Except Breach β}
    {result : β} (h : step >>= more = .ok result) :
    ∃ between, step = .ok between ∧ more between = .ok result := by
  cases step with
  | error breach => cases h
  | ok between => exact ⟨between, rfl, h⟩

/-- Whether an offset divides a text between two characters or lies at one of its ends. -/
def dividesAt (source : List Char) (offset : Nat) : Bool :=
  utf8Size (takeBytes offset source) == offset

/-- The text between two offsets. -/
def slice (source : List Char) (start stop : Nat) : Except Breach (List Char) :=
  if start ≤ stop && stop ≤ utf8Size source && dividesAt source start && dividesAt source stop then
    .ok (takeBytes (stop - start) (dropBytes start source))
  else .error (.slice start stop)

/-- The byte at an offset, and 0 behind the text. -/
def byteAt (source : List Char) (offset : Nat) : UInt8 :=
  ((Cursor.start source).skip offset).next?.elim 0 Prod.fst

/-- A construct that was found but not yet read, by its offsets. -/
structure Located where
  kind : Kind
  start : Nat
  stop : Nat
  contentStart : Nat
  contentStop : Nat
  flags : Flags

/-- Whether the construct was closed. White space is removed only around such constructs. -/
def Located.isRecognized (l : Located) : Bool := l.kind != .fixed && !l.flags.unterminated

/-- The token of a piece of the source. -/
def Token.ofSlices (kind : Kind) (image content : List Char) (start stop : Nat)
    (position : Position) (flags : Flags) : Except Breach Token :=
  if h : start ≤ stop ∧ utf8Size image = stop - start then
    .ok { kind, image, content, span := ⟨start, stop, h.1⟩, position, flags }
  else .error (.image start stop)

/-! ## Finding -/

namespace Dialect

variable (d : Dialect)

/-- The number of bytes that can be looked for at once. -/
def needleLimit : Nat := 3

/-- The offset of the first place from `offset` on where a construct opens, in a raw block or
outside, and what opens there. -/
def seekOpening? (raw : Bool) (source : List Char) (offset : Nat) :
    Except Breach (Option (Nat × Markup)) :=
  let place := (Cursor.start source).skip offset
  if raw then .ok (seek? d.endRawAt? offset place)
  else if d.openerBytes.length ≤ needleLimit then .ok (seek? d.openingAt? offset place)
  else .error (.needles d.openerBytes.length)

/-- A piece of markup that opens at `start` and whose closer is at `closeAt`. -/
def closedAt (source : List Char) (markup : Markup) (start closeAt : Nat) :
    Except Breach Located := do
  let contentStart := start + utf8Size (d.opener markup)
  let content ← slice source contentStart closeAt
  return {
    kind := markup.kind
    start
    stop := closeAt + utf8Size (d.closer markup)
    contentStart
    contentStop := closeAt
    flags := (Marked.read content).flags }

/-- Text from `start` to `stop` that began as an expression or a tag. -/
def degradedAt (start stop : Nat) : Located where
  kind := .fixed
  start := start
  stop := stop
  contentStart := start
  contentStop := stop
  flags := { unterminated := true }

/-- The construct that the opener of `markup` at `start` begins. -/
def locateAt (source : List Char) (markup : Markup) (start : Nat) : Except Breach Located := do
  let contentStart := start + utf8Size (d.opener markup)
  let size := utf8Size source
  if markup = .note then
    let closer? := fun (p : Cursor) => if p.startsWith (d.closer .note) then some () else none
    match seek? closer? contentStart ((Cursor.start source).skip contentStart) with
    | some (closeAt, _) => d.closedAt source markup start closeAt
    | none =>
      return { degradedAt start size with kind := .note, contentStart }
  else
    let body ← slice source contentStart size
    match d.walkBody markup {} contentStart (.start body) with
    | .closed closeAt => d.closedAt source markup start closeAt
    | .interrupted stop => return degradedAt start stop
    | .unterminated => return degradedAt start size

/-- Where the text from `textStart` up to a construct ends. -/
def textEnd (source : List Char) (textStart : Nat) (l : Located) : Except Breach Nat := do
  if !l.isRecognized then
    return l.start
  let text ← slice source textStart l.start
  if l.flags.trimBefore then
    return textStart + utf8Size (trimEnd isBlank text)
  let cut := textStart + utf8Size (trimEnd isInlineBlank text)
  if l.kind == .tag && d.settings.spacing.lstripBlocks && !l.flags.keepBefore
      && (cut == 0 || byteAt source (cut - 1) == leadByte '\n') then
    return cut
  return l.start

/-- Whether a raw block begins behind a token. -/
def beginsRaw (t : Token) : Bool :=
  d.settings.rawBlocks && t.tag?.any fun parts => parts.name == rawName

end Dialect

/-- The white space to remove behind a construct, where `leading` was to be removed so far. -/
def Located.leadingAfter (d : Dialect) (leading : LeadTrim) (l : Located) : LeadTrim :=
  if !l.isRecognized then leading
  else if l.flags.trimAfter then .all
  else if l.kind == .tag && d.settings.spacing.trimBlocks && !l.flags.keepAfter then .line
  else leading

/-- The end of the spaces and tabs from an offset on and of the line break after them. Without a
line break it is the offset. -/
def blankLineEnd (source : List Char) (offset : Nat) : Nat :=
  let isInlineByte := fun byte => byte == leadByte ' ' || byte == leadByte '\t'
  let place := ((Cursor.start source).skip offset).skipWhile isInlineByte
  let blanksEnd := utf8Size source - place.size
  if place.startsWith ['\n'] then blanksEnd + 1
  else if place.startsWith ['\r', '\n'] then blanksEnd + 2
  else offset

/-! ## Reading -/

/-- What a scanner looks for. -/
inductive ScanMode where
  /-- The next opener. -/
  | text
  /-- The end of a raw block. -/
  | raw
  /-- Nothing: the source has been read. -/
  | finished
  deriving DecidableEq

/-- A source that is being read. -/
structure OffsetScanner where
  source : List Char
  /-- The offset of the first byte that has not been read. -/
  offset : Nat := 0
  /-- The position of the first character that has not been read. -/
  position : Position := .start
  mode : ScanMode := .text
  /-- The white space to remove before the next text. -/
  leading : LeadTrim := .none
  /-- A token that has been read but not given. -/
  held : Option Token := none

namespace OffsetScanner

/-- A scanner at the beginning of a source. -/
def ofSource (source : List Char) : OffsetScanner := { source }

/-- Moves to an offset. -/
def moveTo (s : OffsetScanner) (stop : Nat) : Except Breach OffsetScanner :=
  if s.offset ≤ stop && stop ≤ utf8Size s.source && dividesAt s.source stop then
    .ok { s with offset := stop }
  else .error (.move s.offset stop)

/-- Reads up to an offset. -/
def consumeTo (s : OffsetScanner) (stop : Nat) : Except Breach OffsetScanner := do
  let text ← slice s.source s.offset stop
  { s with position := s.position.advance text }.moveTo stop

/-- Where the white space that was left to be removed ends. -/
def leadEnd (s : OffsetScanner) : Except Breach Nat := do
  let size := utf8Size s.source
  let rest ← slice s.source s.offset size
  match s.leading with
  | .none => return s.offset
  | .all => return s.offset + (utf8Size rest - utf8Size (rest.dropWhile isBlank))
  | .line => return blankLineEnd s.source s.offset

/-- Reads the white space that was left to be removed. -/
def skipLead (s : OffsetScanner) : Except Breach OffsetScanner := do
  let stop ← s.leadEnd
  { s with leading := .none }.consumeTo stop

/-- Reads the text up to an offset. It gives no token if it is empty. -/
def textToken? (s : OffsetScanner) (stop : Nat) (flags : Flags) :
    Except Breach (Option Token × OffsetScanner) := do
  if s.offset = stop then
    return (none, s)
  let after ← s.consumeTo stop
  let image ← slice s.source s.offset stop
  let t ← Token.ofSlices .fixed image image s.offset stop s.position flags
  return (some t, after)

/-- Reads a construct. -/
def constructToken (d : Dialect) (s : OffsetScanner) (l : Located) :
    Except Breach (Token × OffsetScanner) := do
  if s.offset ≠ l.start then
    throw (.misplaced s.offset l.start)
  let after ← s.consumeTo l.stop
  let image ← slice s.source l.start l.stop
  let content ← slice s.source l.contentStart l.contentStop
  let t ← Token.ofSlices l.kind image content l.start l.stop s.position l.flags
  return (t, { after with
    leading := l.leadingAfter d s.leading
    mode := if l.isRecognized && d.beginsRaw t then .raw else .text })

/-- Reads the text up to a construct and the construct. Gives the first token of the two and holds
the other. -/
def emitAround (d : Dialect) (s : OffsetScanner) (l : Located) (flags : Flags) :
    Except Breach (Token × OffsetScanner) := do
  let stop ← d.textEnd s.source s.offset l
  let (text, s) ← s.textToken? stop flags
  let s ← s.consumeTo l.start
  let (construct, s) ← s.constructToken d l
  match text with
  | some t => return (t, { s with held := some construct })
  | none => return (construct, s)

/-- Reads on, in a raw block or outside. -/
def scan (d : Dialect) (raw : Bool) (s : OffsetScanner) :
    Except Breach (Option Token × OffsetScanner) := do
  let s ← s.skipLead
  match ← d.seekOpening? raw s.source s.offset with
  | some (start, markup) =>
    let l ← d.locateAt s.source markup start
    let (t, s) ← s.emitAround d l { raw }
    return (some t, s)
  | none =>
    let s := { s with mode := .finished }
    s.textToken? (utf8Size s.source) { raw, unterminated := raw }

theorem eq_of_textToken?_none {s s' : OffsetScanner} {stop : Nat} {flags : Flags}
    (h : s.textToken? stop flags = .ok (none, s')) : s' = s := by
  unfold textToken? at h
  split at h
  · exact (Prod.mk.inj (Except.ok.inj h)).2.symm
  · obtain ⟨after, -, h⟩ := exists_of_bind_eq_ok h
    obtain ⟨image, -, h⟩ := exists_of_bind_eq_ok h
    obtain ⟨t, -, h⟩ := exists_of_bind_eq_ok h
    cases h

/-- There is no token only at the end. -/
theorem mode_of_scan {d : Dialect} {raw : Bool} {s s' : OffsetScanner}
    (h : s.scan d raw = .ok (none, s')) : s'.mode = .finished := by
  obtain ⟨skipped, -, h⟩ := exists_of_bind_eq_ok h
  obtain ⟨place?, -, h⟩ := exists_of_bind_eq_ok h
  cases place? with
  | none => rw [eq_of_textToken?_none h]
  | some place =>
    obtain ⟨l, -, h⟩ := exists_of_bind_eq_ok h
    obtain ⟨emitted, -, h⟩ := exists_of_bind_eq_ok h
    cases h

/-- Reads until there is a token or the source has been read. -/
def produce (d : Dialect) (s : OffsetScanner) : Except Breach (Option Token × OffsetScanner) :=
  if s.mode = .finished then .ok (none, s)
  else
    match _h : s.scan d (s.mode == .raw) with
    | .error breach => .error breach
    | .ok (some t, s') => .ok (some t, s')
    | .ok (none, s') => produce d s'
termination_by if s.mode = .finished then 0 else 1
decreasing_by simp [*, mode_of_scan _h]

/-- The next token, if there is one, and the scanner after it. -/
def next (d : Dialect) (s : OffsetScanner) : Except Breach (Option Token × OffsetScanner) :=
  match s.held with
  | some t => .ok (some t, { s with held := none })
  | none => s.produce d

/-- What `n` calls give, and the scanner after them. -/
def calls (d : Dialect) : Nat → OffsetScanner → Except Breach (List (Option Token) × OffsetScanner)
  | 0, s => .ok ([], s)
  | n + 1, s => do
    let (t, s) ← s.next d
    let (given, s) ← calls d n s
    return (t :: given, s)

end OffsetScanner

end TemplateLexer
