import TemplateLexer.Marked
import TemplateLexer.Text.Blank

/-!
# Name and helpers of a tag

The first word of a tag is its name, and the rest, without the white space around it, is its
helpers: `{%- for x in xs %}` has the name `for` and the helpers `x in xs`.
-/

namespace TemplateLexer

/-- The two parts of a tag. -/
structure TagParts where
  name : List Char
  helpers : List Char
  deriving DecidableEq

/-- Splits the content of a tag, its markers taken off. -/
def TagParts.read (content : List Char) : TagParts :=
  let words := trim (Marked.read content).inner
  ⟨words.takeWhile (!isBlank ·), trim (words.dropWhile (!isBlank ·))⟩

/-- Whether a tag has a given name is decided before a character that is no blank and no marker, if
the name does not have that character. -/
theorem TagParts.name_beq_append_cons {k : Char} (hmarker : Marker.ofChar? k = none)
    (hblank : isBlank k = false) {name : List Char} (hname : k ∉ name)
    (front rest rest' : List Char) :
    ((read (front ++ k :: rest)).name == name) = ((read (front ++ k :: rest')).name == name) := by
  simp only [read, Marked.read_append_cons hmarker, trim_append_cons hblank]
  generalize (Marker.takeFront front).2.dropWhile isBlank = head
  by_cases hword : ∃ c ∈ head, isBlank c = true
  · obtain ⟨c, hc, hc'⟩ := hword
    rw [takeWhile_append_of_mem hc (by simp [hc']), takeWhile_append_of_mem hc (by simp [hc'])]
  · -- Without a blank before it, the character is in the first word.
    have hall : ∀ c ∈ head, (!isBlank c) = true := by simpa using hword
    have hne (tail : List Char) :
        ((head ++ k :: tail).takeWhile (!isBlank ·) == name) = false := by
      rw [List.takeWhile_append_of_pos hall, List.takeWhile_cons_of_pos (by simp [hblank])]
      refine beq_eq_false_iff_ne.2 fun h => hname ?_
      rw [← h]
      simp
    rw [hne, hne]

/-- The name of a tag without helpers is all that stands between its markers, but for the blanks
at its ends. -/
theorem TagParts.trim_inner_of_read {content name : List Char} (h : read content = ⟨name, []⟩) :
    trim (Marked.read content).inner = name := by
  unfold read at h
  generalize hwords : trim (Marked.read content).inner = words at h
  obtain ⟨hname, hhelpers⟩ := TagParts.mk.inj h
  have hsplit := List.takeWhile_append_dropWhile (p := fun c => !isBlank c) (l := words)
  obtain ⟨front, back, hfront, hback, htail⟩ :=
    exists_append_trim (words.dropWhile fun c => !isBlank c)
  rw [hhelpers, List.append_nil] at htail
  -- Only blanks follow the name, but `trim` leaves none at the end.
  have hnil : front ++ back = [] := by
    cases hlast : (front ++ back).getLast? with
    | none => exact List.getLast?_eq_none_iff.1 hlast
    | some c =>
      have hc : isBlank c = true :=
        List.forall_mem_append.2 ⟨hfront, hback⟩ c (List.mem_of_getLast? hlast)
      rw [htail] at hlast
      have hlast' : c ∈ (trim (Marked.read content).inner).getLast? := by
        rw [hwords, ← hsplit, List.getLast?_append, hlast]
        rfl
      rw [isBlank_of_getLast?_trim hlast'] at hc
      cases hc
  rw [← hsplit, hname, ← htail, hnil, List.append_nil]

end TemplateLexer
