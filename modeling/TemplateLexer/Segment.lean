import TemplateLexer.Construct
import TemplateLexer.Opening
import TemplateLexer.TagParts

/-!
# Segments

A source falls into segments: the text up to a construct, and the construct. White space may be
removed at both ends of the text. What goes at the front depends on the construct before, and is
carried over in a `Carry`; what goes at the back depends on the construct that follows, which is
therefore located first.

* `LeadTrim.split_append`: what is removed at the front ends before the first character that is not
  white space, whatever stands behind it.
* `Segment.source_read`: the pieces of a segment and the rest are the source.
* `Segment.rest_length_lt`: a segment with a construct leaves less to read.
-/

namespace TemplateLexer

/-- White space to remove at the front of a text. -/
inductive LeadTrim where
  /-- None. -/
  | none
  /-- All of it. -/
  | all
  /-- The spaces and tabs up to the end of the line, with its line break. -/
  | line
  deriving DecidableEq

/-- Splits a source into what is removed at its front and the rest. -/
def LeadTrim.split (t : LeadTrim) (source : List Char) : List Char × List Char :=
  match t with
  | .none => ([], source)
  | .all => (source.takeWhile isBlank, source.dropWhile isBlank)
  | .line =>
    let blanks := source.takeWhile isInlineBlank
    match source.dropWhile isInlineBlank with
    | '\n' :: rest => (blanks ++ ['\n'], rest)
    | '\r' :: '\n' :: rest => (blanks ++ ['\r', '\n'], rest)
    | _ => ([], source)

/-- The blank end of a line is removed if a line break stands behind the blanks. -/
theorem LeadTrim.split_line_eq (source : List Char) :
    LeadTrim.line.split source =
      let blanks := source.takeWhile isInlineBlank
      let more := source.dropWhile isInlineBlank
      if ['\n'].isPrefixOf more then (blanks ++ ['\n'], more.drop 1)
      else if ['\r', '\n'].isPrefixOf more then (blanks ++ ['\r', '\n'], more.drop 2)
      else ([], source) := by
  unfold split
  dsimp only
  split
  · next rest hrest => simp [hrest]
  · next rest hrest => simp [hrest]
  · next hfeed hreturn =>
    rw [if_neg fun h => ?_, if_neg fun h => ?_]
    · obtain ⟨rest, hrest⟩ := List.isPrefixOf_iff_prefix.1 h
      exact hreturn rest hrest.symm
    · obtain ⟨rest, hrest⟩ := List.isPrefixOf_iff_prefix.1 h
      exact hfeed rest hrest.symm

theorem LeadTrim.append_split (t : LeadTrim) (source : List Char) :
    (t.split source).1 ++ (t.split source).2 = source := by
  have whole := List.takeWhile_append_dropWhile (p := isInlineBlank) (l := source)
  cases t with
  | none => rfl
  | all => exact List.takeWhile_append_dropWhile
  | line =>
    unfold split
    dsimp only
    split <;> simp_all

/-- What is removed ends before the first character that is not white space, whatever stands behind
it. -/
theorem LeadTrim.split_append (t : LeadTrim) {source lead body : List Char}
    (h : t.split source = (lead, body)) {c : Char} (hc : c ∈ body) (hblank : isBlank c = false)
    (more : List Char) : t.split (source ++ more) = (lead, body ++ more) := by
  have hsource : lead ++ body = source := by
    simpa [h] using t.append_split source
  have hmem : c ∈ source := hsource ▸ List.mem_append_right lead hc
  cases t with
  | none =>
    obtain ⟨rfl, rfl⟩ := Prod.mk.inj h
    rfl
  | all =>
    obtain ⟨rfl, rfl⟩ := Prod.mk.inj h
    rw [split, takeWhile_append_of_mem hmem hblank, dropWhile_append_of_mem hmem hblank]
  | line =>
    have hinline : isInlineBlank c = false := by
      rw [Bool.eq_false_iff] at hblank ⊢
      exact fun h => hblank (isBlank_of_isInlineBlank h)
    have hdrop : c ∈ source.dropWhile isInlineBlank := by
      rw [← List.takeWhile_append_dropWhile (p := isInlineBlank) (l := source)] at hmem
      refine (List.mem_append.1 hmem).resolve_left fun htake => ?_
      rw [List.all_eq_true.1 List.all_takeWhile c htake] at hinline
      cases hinline
    unfold split at h ⊢
    dsimp only at h ⊢
    rw [takeWhile_append_of_mem hmem hinline, dropWhile_append_of_mem hmem hinline]
    split at h
    · next rest hrest =>
      obtain ⟨rfl, rfl⟩ := Prod.mk.inj h
      rw [hrest]
      rfl
    · next rest hrest =>
      obtain ⟨rfl, rfl⟩ := Prod.mk.inj h
      rw [hrest]
      rfl
    · next hfeed hreturn =>
      obtain ⟨rfl, rfl⟩ := Prod.mk.inj h
      -- Behind the blanks stands `c` or a return before it, so a line break there is none of `more`.
      split
      · next rest hrest =>
        rcases List.append_eq_cons_iff.1 hrest with ⟨hnil, -⟩ | ⟨rest', hrest', -⟩
        · rw [hnil] at hdrop
          cases hdrop
        · exact absurd hrest' (hfeed rest')
      · next rest hrest =>
        rcases List.append_eq_cons_iff.1 hrest with ⟨hnil, -⟩ | ⟨rest', hrest', htail⟩
        · rw [hnil] at hdrop
          cases hdrop
        · rcases List.append_eq_cons_iff.1 htail.symm with ⟨rfl, -⟩ | ⟨rest'', rfl, -⟩
          · rw [hrest', List.mem_singleton] at hdrop
            rw [hdrop] at hblank
            cases hblank
          · exact absurd hrest' (hreturn rest'')
      · rfl

/-- What is removed is white space. -/
theorem LeadTrim.isBlank_of_mem_split (t : LeadTrim) {source : List Char} {c : Char}
    (hc : c ∈ (t.split source).1) : isBlank c = true := by
  cases t with
  | none => cases hc
  | all => exact List.all_eq_true.1 List.all_takeWhile c hc
  | line =>
    have hblanks : ∀ c ∈ source.takeWhile isInlineBlank, isBlank c = true :=
      fun c hc => isBlank_of_isInlineBlank (List.all_eq_true.1 List.all_takeWhile c hc)
    unfold split at hc
    dsimp only at hc
    split at hc
    · rcases List.mem_append.1 hc with hc | hc
      · exact hblanks c hc
      · rw [List.mem_singleton.1 hc]
        rfl
    · rcases List.mem_append.1 hc with hc | hc
      · exact hblanks c hc
      · rcases List.mem_cons.1 hc with rfl | hc
        · rfl
        · rw [List.mem_singleton.1 hc]
          rfl
    · cases hc

/-- What is removed does not depend on what stands behind the first character that is not white
space. -/
theorem LeadTrim.split_cons (t : LeadTrim) {lead body rest : List Char} {k : Char}
    (hk : isBlank k = false) (h : t.split (lead ++ (body ++ k :: rest)) = (lead, body ++ k :: rest))
    (rest' : List Char) : t.split (lead ++ (body ++ k :: rest')) = (lead, body ++ k :: rest') := by
  rcases hsplit : t.split (lead ++ body ++ [k]) with ⟨lead', body'⟩
  have happend : lead' ++ body' = lead ++ body ++ [k] := by
    have := t.append_split (lead ++ body ++ [k])
    rwa [hsplit] at this
  have hmem : k ∈ body' := by
    have hall : k ∈ lead' ++ body' := by simp [happend]
    refine (List.mem_append.1 hall).resolve_left fun hlead => ?_
    have hremoved : k ∈ (t.split (lead ++ body ++ [k])).1 := by rwa [hsplit]
    rw [t.isBlank_of_mem_split hremoved] at hk
    cases hk
  have hmore := t.split_append hsplit hmem hk
  have hsource (z : List Char) : lead ++ (body ++ k :: z) = lead ++ body ++ [k] ++ z := by simp
  rw [hsource, hmore] at h ⊢
  obtain ⟨rfl, hbody⟩ := Prod.mk.inj h
  obtain rfl : body' = body ++ [k] := by
    rw [List.append_assoc, List.append_cancel_left_eq] at happend
    exact happend
  simp

/-- What a construct leaves behind for the text after it. -/
structure Carry where
  /-- The white space to remove. -/
  trim : LeadTrim := .none
  /-- Whether the text is the body of a raw block. -/
  raw : Bool := false
  deriving DecidableEq

/-- Where nothing was left behind, nothing is removed at the front. -/
theorem Carry.split_empty (source : List Char) :
    ({} : Carry).trim.split source = ([], source) := rfl

/-- What a construct leaves behind. Only a closed one leaves anything. -/
def Carry.after (d : Dialect) : Construct → Carry
  | .closed markup content =>
    let flags := (Marked.read content).flags
    let isTag := markup == .tag
    { trim :=
        if flags.trimAfter then .all
        else if isTag && d.settings.spacing.trimBlocks && !flags.keepAfter then .line
        else .none
      raw := isTag && d.settings.rawBlocks && (TagParts.read content).name == rawName }
  | _ => {}

/-- Whether a line starts after `text`, given whether one starts before it. -/
def startsLineAfter (before : Bool) (text : List Char) : Bool :=
  match text.getLast? with
  | none => before
  | some c => c == '\n'

/-- Splits the text before a construct into what stays and the white space that is removed.
`lineStart` says whether the text begins a line. -/
def Construct.splitBefore (d : Dialect) (lineStart : Bool) (text : List Char) :
    Construct → List Char × List Char
  | .closed markup content =>
    let flags := (Marked.read content).flags
    if flags.trimBefore then (trimEnd isBlank text, trailing isBlank text)
    else if markup == .tag && d.settings.spacing.lstripBlocks && !flags.keepBefore
        && startsLineAfter lineStart (trimEnd isInlineBlank text) then
      (trimEnd isInlineBlank text, trailing isInlineBlank text)
    else (text, [])
  | _ => (text, [])

theorem Construct.append_splitBefore (d : Dialect) (lineStart : Bool) (text : List Char)
    (c : Construct) : (c.splitBefore d lineStart text).1 ++ (c.splitBefore d lineStart text).2
      = text := by
  unfold splitBefore
  split
  · dsimp only
    split
    · simp
    · split <;> simp
  · simp

theorem Construct.splitBefore_nil (d : Dialect) (lineStart : Bool) (c : Construct) :
    c.splitBefore d lineStart [] = ([], []) := by
  obtain ⟨htext, htail⟩ := List.append_eq_nil_iff.1 (c.append_splitBefore d lineStart [])
  exact Prod.ext htext htail

/-- Without `lstripBlocks` it does not matter whether the text begins a line. -/
theorem Construct.splitBefore_eq {d : Dialect} (h : d.settings.spacing.lstripBlocks = false)
    (lineStart lineStart' : Bool) (text : List Char) (c : Construct) :
    c.splitBefore d lineStart text = c.splitBefore d lineStart' text := by
  cases c <;> simp [splitBefore, h]

/-- A text, what was removed around it, and the construct that ends it. -/
structure Segment where
  /-- The white space that was removed at the front. -/
  lead : List Char
  /-- The text that stays. -/
  text : List Char
  /-- The white space that was removed at the back. -/
  tail : List Char
  /-- The construct, if the source does not end before one. -/
  construct : Option Construct
  /-- What is left of the source. -/
  rest : List Char
  deriving DecidableEq

namespace Segment

/-- Reads the first segment of a source. `lineStart` says whether the source begins a line. -/
def read (d : Dialect) (carry : Carry) (lineStart : Bool) (source : List Char) : Segment :=
  let (lead, body) := carry.trim.split source
  match d.nextOpening? carry.raw body with
  | none => { lead, text := body, tail := [], construct := none, rest := [] }
  | some opening =>
    let (construct, rest) := d.locate opening.markup opening.body
    let (text, tail) :=
      construct.splitBefore d (startsLineAfter lineStart lead) opening.before
    { lead, text, tail, construct := some construct, rest }

/-- The text of the construct, if there is one. -/
def image (d : Dialect) (s : Segment) : List Char :=
  match s.construct with
  | none => []
  | some c => c.image d

/-- The pieces of a segment and the rest are the source. -/
theorem source_read (d : Dialect) (carry : Carry) (lineStart : Bool) (source : List Char) :
    let s := read d carry lineStart source
    s.lead ++ s.text ++ s.tail ++ s.image d ++ s.rest = source := by
  have hlead := carry.trim.append_split source
  unfold read image
  dsimp only
  split
  · simpa using hlead
  · next o ho =>
    have hbefore := (d.locate o.markup o.body).1.append_splitBefore d
      (startsLineAfter lineStart (carry.trim.split source).1) o.before
    have himage := d.image_append_of_locate o.markup o.body
    have hsource := d.sourceOf_of_nextOpening? ho
    simp only [List.append_assoc, himage]
    rw [← List.append_assoc _ _ (d.opener _ ++ _), hbefore]
    rw [Dialect.sourceOf, List.append_assoc] at hsource
    rw [hsource, hlead]

/-- A segment without a construct leaves nothing to read. -/
theorem rest_eq_nil {d : Dialect} {carry : Carry} {lineStart : Bool} {source : List Char}
    (h : (read d carry lineStart source).construct = none) :
    (read d carry lineStart source).rest = [] := by
  unfold read at h ⊢
  dsimp only at h ⊢
  split at h
  · simp
  · cases h

/-- A segment with a construct leaves less to read. -/
theorem rest_length_lt {d : Dialect} {carry : Carry} {lineStart : Bool} {source : List Char}
    {c : Construct} (h : (read d carry lineStart source).construct = some c) :
    (read d carry lineStart source).rest.length < source.length := by
  have hsource := congrArg List.length (source_read d carry lineStart source)
  have himage := List.length_pos_iff.2 (c.image_ne_nil d)
  simp only [image, h, List.length_append] at hsource
  omega

end Segment

end TemplateLexer
