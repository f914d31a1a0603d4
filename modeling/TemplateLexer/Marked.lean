import TemplateLexer.Flags

/-!
# Whitespace markers

The content of a piece of markup may start and end with a marker: `-` removes the white space on
that side of the markup, `+` keeps what the dialect would have removed. `Marked.read` takes the
markers off; a single character that could be both markers is the one in front.
-/

namespace TemplateLexer

/-- A marker at an end of a piece of markup. -/
inductive Marker where
  /-- `-`: remove white space. -/
  | trim
  /-- `+`: keep white space. -/
  | keep
  deriving DecidableEq

namespace Marker

/-- The character that a marker is written with. -/
def char : Marker → Char
  | trim => '-'
  | keep => '+'

/-- The marker that a character stands for. -/
def ofChar? (c : Char) : Option Marker :=
  if c = '-' then some trim else if c = '+' then some keep else none

/-- A marker at the front of a text, and the text without it. -/
def takeFront (text : List Char) : Option Marker × List Char :=
  match text with
  | [] => (none, [])
  | c :: rest =>
    match ofChar? c with
    | some marker => (some marker, rest)
    | none => (none, c :: rest)

/-- The text of a marker that may be missing. -/
def text (m : Option Marker) : List Char := (m.map char).toList

/-- A marker at the end of a text, and the text without it. -/
def takeBack (text : List Char) : Option Marker × List Char :=
  match text.getLast? >>= ofChar? with
  | some marker => (some marker, text.dropLast)
  | none => (none, text)

theorem char_eq_of_ofChar? {c : Char} {m : Marker} (h : ofChar? c = some m) : m.char = c := by
  unfold ofChar? at h
  split at h
  · next hc => rw [← Option.some.inj h, hc, char]
  · split at h
    · next hc => rw [← Option.some.inj h, hc, char]
    · cases h

@[simp] theorem ofChar?_char (m : Marker) : ofChar? m.char = some m := by
  cases m <;> rfl

/-- Nothing is lost when a marker is taken off the front. -/
theorem text_append_takeFront (source : List Char) :
    text (takeFront source).1 ++ (takeFront source).2 = source := by
  unfold takeFront text
  split
  · rfl
  · split
    · next hm => simp [char_eq_of_ofChar? hm]
    · rfl

/-- Without a marker at the front, nothing is taken off. -/
theorem takeFront_eq_of_none {source : List Char} (h : (takeFront source).1 = none) :
    (takeFront source).2 = source ∧ ∀ c ∈ source.head?, ofChar? c = none := by
  cases source with
  | nil => exact ⟨rfl, fun c hc => by cases hc⟩
  | cons c source =>
    rw [takeFront] at h ⊢
    cases hc : ofChar? c with
    | some m => simp [hc] at h
    | none => simp [hc]

/-- A marker that is put in front is taken off again; no marker is, if the text begins with
none. -/
theorem takeFront_append (m : Option Marker) {source : List Char}
    (h : m = none → ∀ c ∈ source.head?, ofChar? c = none) :
    takeFront (text m ++ source) = (m, source) := by
  cases m with
  | some m => simp [text, takeFront]
  | none =>
    cases source with
    | nil => rfl
    | cons c source => simp [text, takeFront, h rfl c rfl]

/-- What stands behind a character that is no marker does not matter to the front. -/
theorem takeFront_append_cons {k : Char} (hk : ofChar? k = none) (front rest : List Char) :
    takeFront (front ++ k :: rest) = ((takeFront front).1, (takeFront front).2 ++ k :: rest) := by
  cases front with
  | nil => simp [takeFront, hk]
  | cons c front =>
    rw [List.cons_append, takeFront, takeFront]
    cases ofChar? c <;> rfl

/-- Nothing is lost when a marker is taken off the back. -/
theorem takeBack_append_text (source : List Char) :
    (takeBack source).2 ++ text (takeBack source).1 = source := by
  unfold takeBack
  cases hlast : source.getLast? with
  | none => simp [text]
  | some c =>
    rw [Option.bind_eq_bind, Option.bind_some]
    cases hc : ofChar? c with
    | none => simp [text]
    | some m =>
      obtain ⟨source, rfl⟩ := List.getLast?_eq_some_iff.1 hlast
      simp [text, char_eq_of_ofChar? hc]

theorem fst_takeBack (source : List Char) : (takeBack source).1 = source.getLast? >>= ofChar? := by
  unfold takeBack
  cases source.getLast? >>= ofChar? <;> rfl

/-- Without a marker at the back, nothing is taken off. -/
theorem takeBack_eq_of_none {source : List Char} (h : (takeBack source).1 = none) :
    (takeBack source).2 = source ∧ ∀ c ∈ source.getLast?, ofChar? c = none := by
  rw [fst_takeBack] at h
  refine ⟨by rw [takeBack, h], fun c hc => ?_⟩
  rwa [Option.mem_def.1 hc] at h

/-- A marker that is put at the back is taken off again; no marker is, if the text ends with
none. -/
theorem takeBack_append (m : Option Marker) {source : List Char}
    (h : m = none → ∀ c ∈ source.getLast?, ofChar? c = none) :
    takeBack (source ++ text m) = (m, source) := by
  cases m with
  | some m => simp [text, takeBack]
  | none =>
    cases hlast : source.getLast? with
    | none => simp [text, takeBack, hlast]
    | some c => simp [text, takeBack, hlast, h rfl c hlast]

/-- What stands before a character that is no marker does not matter to the back. -/
theorem takeBack_append_cons {k : Char} (hk : ofChar? k = none) (front rest : List Char) :
    takeBack (front ++ k :: rest) = ((takeBack rest).1, front ++ k :: (takeBack rest).2) := by
  rcases List.eq_nil_or_concat rest with rfl | ⟨rest, c, rfl⟩
  · simp [takeBack, hk]
  · rw [List.concat_eq_append, ← List.cons_append, ← List.append_assoc, takeBack, takeBack,
      List.getLast?_concat, List.getLast?_concat, Option.bind_eq_bind, Option.bind_some]
    cases ofChar? c with
    | none => simp
    | some m => simp only [List.dropLast_concat]

end Marker

/-- The content of a piece of markup, taken apart at its markers. -/
structure Marked where
  before : Option Marker
  inner : List Char
  after : Option Marker
  deriving DecidableEq

namespace Marked

/-- Takes a marker off the front, and then one off the back of what is left. -/
def read (content : List Char) : Marked :=
  let front := Marker.takeFront content
  let back := Marker.takeBack front.2
  ⟨front.1, back.2, back.1⟩

/-- The content is what is left between its markers. -/
theorem content_read (content : List Char) :
    Marker.text (read content).before ++ ((read content).inner ++ Marker.text (read content).after)
      = content := by
  rw [read, Marker.takeBack_append_text, Marker.text_append_takeFront]

/-- The markers are those at the two ends of the content, and one is missing only where there is
none: in front of the content, and at the back of what is left of it. -/
theorem read_eq_iff {content : List Char} {m : Marked} :
    read content = m ↔
      content = Marker.text m.before ++ (m.inner ++ Marker.text m.after) ∧
        (m.before = none → ∀ c ∈ content.head?, Marker.ofChar? c = none) ∧
          (m.after = none → ∀ c ∈ m.inner.getLast?, Marker.ofChar? c = none) := by
  constructor
  · rintro rfl
    refine ⟨(content_read content).symm, fun hnone => (Marker.takeFront_eq_of_none hnone).2, ?_⟩
    intro hnone
    obtain ⟨hinner, hlast⟩ := Marker.takeBack_eq_of_none hnone
    rwa [read, hinner]
  · rintro ⟨rfl, hfront, hback⟩
    rw [read, Marker.takeFront_append m.before, Marker.takeBack_append m.after hback]
    intro hnone
    simpa [hnone, Marker.text] using hfront hnone

/-- A text that neither begins nor ends with a marker is what is left between two markers. -/
theorem read_append (before after : Option Marker) {inner : List Char} (hne : inner ≠ [])
    (hhead : ∀ c ∈ inner.head?, Marker.ofChar? c = none)
    (hlast : ∀ c ∈ inner.getLast?, Marker.ofChar? c = none) :
    read (Marker.text before ++ (inner ++ Marker.text after)) = ⟨before, inner, after⟩ := by
  refine read_eq_iff.2 ⟨rfl, ?_, fun _ => hlast⟩
  rintro rfl
  obtain ⟨c, inner, rfl⟩ := List.exists_cons_of_ne_nil hne
  exact hhead

/-- A character that is no marker parts what the marker in front depends on from what the one at the
back depends on. -/
theorem read_append_cons {k : Char} (hk : Marker.ofChar? k = none) (front rest : List Char) :
    read (front ++ k :: rest) = ⟨(Marker.takeFront front).1,
      (Marker.takeFront front).2 ++ k :: (Marker.takeBack rest).2, (Marker.takeBack rest).1⟩ := by
  rw [read, Marker.takeFront_append_cons hk]
  dsimp only
  rw [Marker.takeBack_append_cons hk]

/-- The flags that the markers stand for. -/
def flags (m : Marked) : Flags where
  trimBefore := m.before == some .trim
  keepBefore := m.before == some .keep
  trimAfter := m.after == some .trim
  keepAfter := m.after == some .keep

theorem flags_eq_iff {m m' : Marked} :
    m.flags = m'.flags ↔ m.before = m'.before ∧ m.after = m'.after := by
  have hmarker (a b : Option Marker) : a = b ↔
      (a == some .trim) = (b == some .trim) ∧ (a == some .keep) = (b == some .keep) := by
    rcases a with _ | _ | _ <;> rcases b with _ | _ | _ <;> decide
  rw [hmarker m.before, hmarker m.after]
  constructor
  · intro h
    obtain ⟨htrim, htrim', hkeep, hkeep', -⟩ := Flags.mk.inj h
    exact ⟨⟨htrim, hkeep⟩, htrim', hkeep'⟩
  · rintro ⟨⟨htrim, hkeep⟩, htrim', hkeep'⟩
    simp only [flags, htrim, hkeep, htrim', hkeep']

end Marked

end TemplateLexer
