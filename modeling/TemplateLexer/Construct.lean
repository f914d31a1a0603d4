import TemplateLexer.Body.Reading
import TemplateLexer.Marked
import TemplateLexer.Text.Search

/-!
# Constructs

A construct is what the source holds from an opener on: a piece of markup that is closed, a note
that is not, or text that began as an expression or a tag and turned out to be none. `locate` finds
the one that an opener begins; `image_append_of_locate` says that its image and the rest of the
source are all there was.
-/

namespace TemplateLexer

/-- What an opener begins. -/
inductive Construct where
  /-- A piece of markup with its closer. -/
  | closed (markup : Markup) (content : List Char)
  /-- A note that runs to the end of the source. -/
  | openNote (content : List Char)
  /-- The opener of an expression or a tag and what follows it, up to a note or the end of the
  source. It is text. -/
  | degraded (markup : Markup) (content : List Char)
  deriving DecidableEq

namespace Construct

/-- The kind of the construct's token. -/
def kind : Construct → Kind
  | closed markup _ => markup.kind
  | openNote _ => .note
  | degraded _ _ => .fixed

/-- The flags of the construct's token. -/
def flags : Construct → Flags
  | closed _ content => (Marked.read content).flags
  | openNote _ => { unterminated := true }
  | degraded _ _ => { unterminated := true }

/-- The text of the construct in the source. -/
def image (d : Dialect) : Construct → List Char
  | closed markup content => d.opener markup ++ content ++ d.closer markup
  | openNote content => d.opener .note ++ content
  | degraded markup content => d.opener markup ++ content

/-- The text between the delimiters; text has none and is all content. -/
def content (d : Dialect) : Construct → List Char
  | closed _ content => content
  | openNote content => content
  | degraded markup content => d.opener markup ++ content

theorem image_ne_nil (d : Dialect) (c : Construct) : c.image d ≠ [] := by
  cases c <;> simp [image, d.opener_ne_nil]

/-- The construct of an expression or a tag whose body ends in this way, and what follows it. -/
def ofBodyEnd (markup : Markup) : BodyEnd → Construct × List Char
  | .closed content rest => (closed markup content, rest)
  | .interrupted content rest => (degraded markup content, rest)
  | .unterminated content => (degraded markup content, [])

/-- What follows a construct is no longer than what its opener stands before. -/
theorem length_snd_ofBodyEnd_le (closer : List Char) (markup : Markup) (e : BodyEnd) :
    (ofBodyEnd markup e).2.length ≤ (e.source closer).length := by
  cases e with
  | closed content rest =>
    simp only [ofBodyEnd, BodyEnd.source, List.length_append]
    omega
  | interrupted content rest =>
    simp only [ofBodyEnd, BodyEnd.source, List.length_append]
    omega
  | unterminated content => exact Nat.zero_le _

theorem image_append_of_ofBodyEnd (d : Dialect) (markup : Markup) (e : BodyEnd) :
    (ofBodyEnd markup e).1.image d ++ (ofBodyEnd markup e).2
      = d.opener markup ++ e.source (d.closer markup) := by
  cases e <;> simp [ofBodyEnd, image, BodyEnd.source]

end Construct

namespace Dialect

variable (d : Dialect)

/-- The construct that an opener of `markup` begins before `body`, and what follows it. -/
def locate (markup : Markup) (body : List Char) : Construct × List Char :=
  match markup with
  | .note =>
    match splitAtFirst? (d.closer .note) body with
    | some (content, rest) => (.closed .note content, rest)
    | none => (.openNote body, [])
  | _ => Construct.ofBodyEnd markup (d.scanBody markup body)

theorem locate_of_ne_note {markup : Markup} (hm : markup ≠ .note) (body : List Char) :
    d.locate markup body = Construct.ofBodyEnd markup (d.readBody markup {} body) := by
  cases markup with
  | note => exact absurd rfl hm
  | expression => simp only [locate, scanBody_eq_readBody hm]
  | tag => simp only [locate, scanBody_eq_readBody hm]

/-- The same of what an opener begins. -/
theorem locate_congr {d d' : Dialect} (hescape : d'.escape = d.escape)
    (hcloser : d'.closer = d.closer) (hnote : d'.afterOpener? .note = d.afterOpener? .note)
    (markup : Markup) (body : List Char) : d'.locate markup body = d.locate markup body := by
  by_cases hm : markup = .note
  · subst hm
    rw [locate, locate, hcloser]
  · rw [locate_of_ne_note _ hm, locate_of_ne_note _ hm, readBody_congr hescape hcloser hnote]

/-- Nothing is lost around a construct. -/
theorem image_append_of_locate (markup : Markup) (body : List Char) :
    (d.locate markup body).1.image d ++ (d.locate markup body).2 = d.opener markup ++ body := by
  by_cases hm : markup = .note
  · subst hm
    rw [locate]
    split
    · next h => simp [Construct.image, ← append_of_splitAtFirst? (d.closer_ne_nil .note) h]
    · simp [Construct.image]
  · rw [locate_of_ne_note d hm, Construct.image_append_of_ofBodyEnd, source_readBody]

theorem image_append_of_locate_eq {markup : Markup} {body rest : List Char} {c : Construct}
    (h : d.locate markup body = (c, rest)) : c.image d ++ rest = d.opener markup ++ body := by
  simpa [h] using d.image_append_of_locate markup body

variable {d}

/-- An expression or a tag is closed where its body is. -/
theorem locate_eq_closed_iff {markup : Markup} (hm : markup ≠ .note)
    {body content rest : List Char} :
    d.locate markup body = (.closed markup content, rest) ↔
      d.readBody markup {} body = .closed content rest := by
  rw [d.locate_of_ne_note hm]
  cases d.readBody markup {} body with
  | closed content' rest' => simp [Construct.ofBodyEnd]
  | interrupted content' rest' => simp [Construct.ofBodyEnd]
  | unterminated content' => simp [Construct.ofBodyEnd]

/-- A note is closed where its closer stands first. -/
theorem locate_note_eq_closed_iff {body content rest : List Char} :
    d.locate .note body = (.closed .note content, rest) ↔
      splitAtFirst? (d.closer .note) body = some (content, rest) := by
  rw [locate]
  cases splitAtFirst? (d.closer .note) body with
  | none => simp
  | some split => simp [Prod.ext_iff]

/-- What an opener can begin: markup with its closer; a note without one; or text, up to a note
that opens or to the end of the source. -/
theorem locate_cases {markup : Markup} {body rest : List Char} {c : Construct}
    (h : d.locate markup body = (c, rest)) :
    (∃ content, c = .closed markup content ∧ body = content ++ d.closer markup ++ rest) ∨
    (markup = .note ∧ c = .openNote body ∧ rest = [] ∧ ¬ d.closer .note <:+: body) ∨
    (∃ content, markup ≠ .note ∧ c = .degraded markup content ∧ body = content ++ rest ∧
      (rest = [] ∨ (d.afterOpener? .note rest).isSome = true)) := by
  by_cases hm : markup = .note
  · subst hm
    cases hsplit : splitAtFirst? (d.closer .note) body with
    | none =>
      rw [locate, hsplit] at h
      obtain ⟨rfl, rfl⟩ := Prod.mk.inj h
      exact .inr (.inl ⟨rfl, rfl, rfl, (splitAtFirst?_eq_none_iff (d.closer_ne_nil .note)).1 hsplit⟩)
    | some split =>
      obtain ⟨content, rest'⟩ := split
      rw [locate, hsplit] at h
      obtain ⟨rfl, rfl⟩ := Prod.mk.inj h
      exact .inl ⟨content, rfl, (append_of_splitAtFirst? (d.closer_ne_nil .note) hsplit).symm⟩
  · have hbody := d.source_readBody markup {} body
    rw [d.locate_of_ne_note hm] at h
    cases hread : d.readBody markup {} body with
    | closed content rest' =>
      rw [hread] at h hbody
      obtain ⟨rfl, rfl⟩ := Prod.mk.inj h
      exact .inl ⟨content, rfl, hbody.symm⟩
    | interrupted content rest' =>
      have hnote := d.isSome_afterOpener?_of_interrupted hread
      rw [hread] at h hbody
      obtain ⟨rfl, rfl⟩ := Prod.mk.inj h
      exact .inr (.inr ⟨content, hm, rfl, hbody.symm, .inr hnote⟩)
    | unterminated content =>
      rw [hread] at h hbody
      obtain ⟨rfl, rfl⟩ := Prod.mk.inj h
      exact .inr (.inr ⟨content, hm, rfl, by rw [List.append_nil]; exact hbody.symm, .inl rfl⟩)

/-- An expression or a tag is what its opener begins if its body is closed. -/
theorem exists_closed_of_kind_eq {markup markup' : Markup} (hm : markup ≠ .note)
    {body rest : List Char} {c : Construct} (h : d.locate markup' body = (c, rest))
    (hkind : c.kind = markup.kind) :
    ∃ content, markup' = markup ∧ c = .closed markup content ∧
      body = content ++ d.closer markup ++ rest ∧
      d.readBody markup {} body = .closed content rest := by
  rcases locate_cases h with ⟨content, rfl, hbody⟩ | ⟨-, rfl, -⟩ | ⟨content, -, rfl, -⟩
  · obtain rfl := Markup.eq_of_kind_eq hkind
    exact ⟨content, rfl, rfl, hbody, (locate_eq_closed_iff hm).1 h⟩
  · have hnote : Markup.note.kind = markup.kind := hkind
    exact absurd (Markup.eq_of_kind_eq hnote).symm hm
  · exact absurd hkind.symm markup.kind_ne_fixed

/-- Markup is what its opener begins, with its closer, unless it is a note without one. -/
theorem exists_closed_of_flags {markup markup' : Markup} {body rest : List Char} {c : Construct}
    (h : d.locate markup' body = (c, rest)) (hkind : c.kind = markup.kind)
    (hflags : markup = .note → c.flags.unterminated = false) :
    ∃ content, markup' = markup ∧ c = .closed markup content ∧
      body = content ++ (d.closer markup ++ rest) := by
  rcases locate_cases h with ⟨content, rfl, rfl⟩ | ⟨-, rfl, -⟩ | ⟨content, -, rfl, -⟩
  · obtain rfl := Markup.eq_of_kind_eq hkind
    exact ⟨content, rfl, rfl, List.append_assoc _ _ _⟩
  · have hnote : Markup.note.kind = markup.kind := hkind
    cases hflags (Markup.eq_of_kind_eq hnote).symm
  · exact absurd hkind.symm markup.kind_ne_fixed

/-- A construct begins with its opener, and the rest of it is a part of what the opener stands
before. -/
theorem exists_image_eq_of_locate {markup : Markup} {body rest : List Char} {c : Construct}
    (h : d.locate markup body = (c, rest)) :
    ∃ back, c.image d = d.opener markup ++ back ∧ body = back ++ rest := by
  rcases locate_cases h with ⟨content, rfl, rfl⟩ | ⟨rfl, rfl, rfl, -⟩ | ⟨content, -, rfl, rfl, -⟩
  · exact ⟨content ++ d.closer markup, by simp [Construct.image], rfl⟩
  · exact ⟨body, rfl, by simp⟩
  · exact ⟨content, rfl, rfl⟩

end Dialect

end TemplateLexer
