import TemplateLexer.Dialect
import TemplateLexer.TagParts
import TemplateLexer.Text.Search

/-!
# The end of a raw block

A raw block ends at the first tag that consists of the word `endraw`. There may be a whitespace
marker at each end of the tag, and ASCII white space between the markers and the word.
-/

namespace TemplateLexer

/-- The name of the tag after which a raw block begins. -/
def rawName : List Char := ['r', 'a', 'w']

/-- The name of the tag that ends a raw block. -/
def endRawName : List Char := ['e', 'n', 'd', 'r', 'a', 'w']

/-- Whether a byte is a tab, line feed, form feed, carriage return or space. -/
def isBlankByte (byte : UInt8) : Bool :=
  byte == leadByte '\t' || byte == leadByte '\n' || byte == leadByte '\x0c'
    || byte == leadByte '\r' || byte == leadByte ' '

/-- The place after a marker, if one stands at `p`. -/
def Marker.skip (p : Cursor) : Cursor :=
  match p.next? with
  | none => p
  | some (byte, q) =>
    if byte == leadByte Marker.trim.char || byte == leadByte Marker.keep.char then q else p

theorem isBlankByte_leadByte (c : Char) : isBlankByte (leadByte c) = isAsciiBlank c := by
  rw [isBlankByte, leadByte_beq (k := '\t') rfl, leadByte_beq (k := '\n') rfl,
    leadByte_beq (k := '\x0c') rfl, leadByte_beq (k := '\r') rfl, leadByte_beq (k := ' ') rfl,
    isAsciiBlank]

theorem utf8Size_of_isAsciiBlank {c : Char} (h : isAsciiBlank c = true) : c.utf8Size = 1 := by
  simp only [isAsciiBlank, Bool.or_eq_true, beq_iff_eq] at h
  rcases h with (((rfl | rfl) | rfl) | rfl) | rfl <;> rfl

theorem Marker.skip_start (source : List Char) :
    Marker.skip (.start source) = .start (Marker.takeFront source).2 := by
  cases source with
  | nil => rfl
  | cons c source =>
    rw [skip, takeFront, ofChar?]
    dsimp only [Cursor.start, Cursor.next?]
    rw [leadByte_beq (k := trim.char) rfl, leadByte_beq (k := keep.char) rfl]
    by_cases htrim : c = '-'
    · subst htrim
      rfl
    · by_cases hkeep : c = '+'
      · subst hkeep
        rfl
      · simp [char, htrim, hkeep]

/-- The content of a tag that ends a raw block: its markers, and the blanks around its name. -/
def endRawContent (before : Option Marker) (front back : List Char) (after : Option Marker) :
    List Char :=
  Marker.text before ++ (front ++ endRawName ++ back ++ Marker.text after)

theorem mem_endRawContent_front {before after : Option Marker} {front back : List Char} {c : Char}
    (h : c ∈ front) : c ∈ endRawContent before front back after := by
  simp [endRawContent, h]

theorem mem_endRawContent_back {before after : Option Marker} {front back : List Char} {c : Char}
    (h : c ∈ back) : c ∈ endRawContent before front back after := by
  simp [endRawContent, h]

theorem ofChar?_of_isAsciiBlank {c : Char} (h : isAsciiBlank c = true) :
    Marker.ofChar? c = none := by
  simp only [isAsciiBlank, Bool.or_eq_true, beq_iff_eq] at h
  rcases h with (((rfl | rfl) | rfl) | rfl) | rfl <;> rfl

/-- The word and the blanks before it do not begin with a marker. -/
theorem ofChar?_of_head?_endRaw {front : List Char} (hfront : ∀ c ∈ front, isAsciiBlank c = true)
    (rest : List Char) {c : Char} (hc : c ∈ (front ++ (endRawName ++ rest)).head?) :
    Marker.ofChar? c = none := by
  cases front with
  | nil =>
    obtain rfl : 'e' = c := by simpa [endRawName] using hc
    rfl
  | cons b front =>
    obtain rfl : b = c := by simpa using hc
    exact ofChar?_of_isAsciiBlank (hfront b List.mem_cons_self)

/-- The name of such a tag is `endraw`, and it has no helpers. -/
theorem read_endRawContent (before after : Option Marker) {front back : List Char}
    (hfront : ∀ c ∈ front, isAsciiBlank c = true) (hback : ∀ c ∈ back, isAsciiBlank c = true) :
    TagParts.read (endRawContent before front back after) = ⟨endRawName, []⟩ := by
  have hhead : ∀ c ∈ (front ++ endRawName ++ back).head?, Marker.ofChar? c = none := by
    rw [List.append_assoc]
    exact fun c hc => ofChar?_of_head?_endRaw hfront back hc
  have hlast : ∀ c ∈ (front ++ endRawName ++ back).getLast?, Marker.ofChar? c = none := by
    rw [List.getLast?_append]
    cases hlast : back.getLast? with
    | none => simp [endRawName, Marker.ofChar?]
    | some c => simpa using ofChar?_of_isAsciiBlank (hback c (List.mem_of_getLast? hlast))
  have htrim : trim (front ++ endRawName ++ back) = endRawName :=
    trim_append (fun c hc => isBlank_of_isAsciiBlank (hfront c hc))
      (fun c hc => isBlank_of_isAsciiBlank (hback c hc)) (by rintro c ⟨⟩; rfl)
      (by rintro c ⟨⟩; rfl)
  rw [TagParts.read, endRawContent,
    Marked.read_append before after (by simp [endRawName]) hhead hlast]
  simp only [htrim]
  rfl

namespace Dialect

variable (d : Dialect)

/-- Whether the rest of an `endraw` tag stands at a place, after its opener. -/
def isEndRawAt (p : Cursor) : Bool :=
  let word := (Marker.skip p).skipWhile isBlankByte
  word.startsWith endRawName &&
    (Marker.skip ((word.skip (utf8Size endRawName)).skipWhile isBlankByte)).startsWith
      (d.closer .tag)

/-- Whether the rest of an `endraw` tag stands here, after its opener. -/
def isEndRaw (source : List Char) : Bool :=
  let word := (Marker.takeFront source).2.dropWhile isAsciiBlank
  match endRawName.isPrefixOf? word with
  | none => false
  | some rest =>
    (d.closer .tag).isPrefixOf (Marker.takeFront (rest.dropWhile isAsciiBlank)).2

theorem isEndRawAt_start (source : List Char) :
    d.isEndRawAt (.start source) = d.isEndRaw source := by
  have hblanks := Cursor.skipWhile_start isBlankByte_leadByte fun _ => utf8Size_of_isAsciiBlank
  rw [isEndRawAt, isEndRaw, Marker.skip_start, hblanks]
  generalize (Marker.takeFront source).2.dropWhile isAsciiBlank = word
  rw [Cursor.startsWith_start]
  cases hword : endRawName.isPrefixOf? word with
  | none => simp [isPrefixOf?_eq_none_iff.1 hword]
  | some rest =>
    obtain rfl := append_of_isPrefixOf? hword
    rw [Cursor.skip_append, hblanks, Marker.skip_start, Cursor.startsWith_start,
      List.isPrefixOf_iff_prefix.2 (List.prefix_append _ _), Bool.true_and]

/-- The closer of tags starts neither with an ASCII blank nor with a marker. So where it stands,
nothing of it is taken for the end of the tag's content. -/
def CloserApart : Prop :=
  ∀ c ∈ (d.closer .tag).head?, isAsciiBlank c = false ∧ Marker.ofChar? c = none

variable {d}

/-- The rest of an `endraw` tag is found, if its content ends where blanks and a marker that are
read as far as they go end. -/
theorem isEndRaw_append (before after : Option Marker) {front back : List Char}
    (hfront : ∀ c ∈ front, isAsciiBlank c = true) (hback : ∀ c ∈ back, isAsciiBlank c = true)
    (hafter : after = none → d.CloserApart) (rest : List Char) :
    d.isEndRaw (endRawContent before front back after ++ (d.closer .tag ++ rest)) = true := by
  have hhead : ∀ c ∈ (Marker.text after ++ (d.closer .tag ++ rest)).head?,
      isAsciiBlank c = false ∧ (after = none → Marker.ofChar? c = none) := by
    cases after with
    | some m => cases m <;> simp [Marker.text, Marker.char, isAsciiBlank]
    | none =>
      have hcloser := hafter rfl
      unfold CloserApart at hcloser
      obtain ⟨c, closer, hc⟩ := List.exists_cons_of_ne_nil (d.closer_ne_nil .tag)
      simpa [hc, Marker.text] using hcloser
  have hmarker : ∀ c ∈ (d.closer .tag ++ rest).head?, after = none → Marker.ofChar? c = none := by
    rintro c hc rfl
    exact (hhead c (by simpa [Marker.text] using hc)).2 rfl
  have hsource : endRawContent before front back after ++ (d.closer .tag ++ rest)
      = Marker.text before ++ (front ++ (endRawName ++ (back ++ (Marker.text after
        ++ (d.closer .tag ++ rest))))) := by
    simp only [endRawContent, List.append_assoc]
  have hword : (endRawName ++ (back ++ (Marker.text after ++ (d.closer .tag ++ rest)))).dropWhile
      isAsciiBlank = endRawName ++ (back ++ (Marker.text after ++ (d.closer .tag ++ rest))) :=
    dropWhile_of_head? (by rintro c ⟨⟩; rfl)
  rw [isEndRaw, hsource, Marker.takeFront_append before fun _ c => ofChar?_of_head?_endRaw hfront _]
  dsimp only
  rw [List.dropWhile_append_of_pos hfront, hword, isPrefixOf?_append]
  dsimp only
  rw [List.dropWhile_append_of_pos hback, dropWhile_of_head? fun c hc => (hhead c hc).1,
    Marker.takeFront_append after fun hnone c hc => hmarker c hc hnone]
  exact List.isPrefixOf_iff_prefix.2 (List.prefix_append _ _)

/-- The rest of an `endraw` tag is its content, the closer and what follows the tag. The content is
read as far as blanks and a marker go, so a closer that starts with one of these is found only
behind a marker. -/
theorem isEndRaw_iff {source : List Char} :
    d.isEndRaw source = true ↔
      ∃ before front back after rest, (∀ c ∈ front, isAsciiBlank c = true) ∧
        (∀ c ∈ back, isAsciiBlank c = true) ∧ (after = none → d.CloserApart) ∧
        source = endRawContent before front back after ++ (d.closer .tag ++ rest) := by
  constructor
  · intro h
    unfold isEndRaw at h
    dsimp only at h
    split at h
    · cases h
    · next word hword =>
      generalize hfront : Marker.takeFront source = front at hword
      generalize hback : Marker.takeFront (word.dropWhile isAsciiBlank) = back at h
      obtain ⟨rest, hrest⟩ := List.isPrefixOf_iff_prefix.1 h
      refine ⟨front.1, front.2.takeWhile isAsciiBlank, word.takeWhile isAsciiBlank, back.1, rest,
        List.all_eq_true.1 List.all_takeWhile, List.all_eq_true.1 List.all_takeWhile, ?_, ?_⟩
      · intro hnone c hc
        subst hback
        obtain ⟨hword', hmarker⟩ := Marker.takeFront_eq_of_none hnone
        have hhead : (word.dropWhile isAsciiBlank).head? = some c := by
          rw [← hword', ← hrest, List.head?_append, hc, Option.some_or]
        refine ⟨?_, hmarker c hhead⟩
        have hdrop := List.head?_dropWhile_not isAsciiBlank word
        rwa [hhead] at hdrop
      · have hword' : word = word.takeWhile isAsciiBlank ++ (Marker.text back.1 ++ back.2) := by
          rw [← hback, Marker.text_append_takeFront, List.takeWhile_append_dropWhile]
        calc source = Marker.text front.1 ++ front.2 := by
              rw [← hfront, Marker.text_append_takeFront]
          _ = Marker.text front.1 ++ (front.2.takeWhile isAsciiBlank ++ (endRawName ++ word)) := by
              rw [append_of_isPrefixOf? hword, List.takeWhile_append_dropWhile]
          _ = Marker.text front.1 ++ (front.2.takeWhile isAsciiBlank ++ (endRawName
                ++ (word.takeWhile isAsciiBlank ++ (Marker.text back.1 ++ back.2)))) := by
              rw [← hword']
          _ = _ := by simp only [← hrest, endRawContent, List.append_assoc]
  · rintro ⟨before, front, back, after, rest, hfront, hback, hafter, rfl⟩
    exact isEndRaw_append before after hfront hback hafter rest

end Dialect

end TemplateLexer
