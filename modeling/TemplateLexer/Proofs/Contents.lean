import Mathlib.Data.List.Basic
import Mathlib.Data.List.TakeWhile
import TemplateLexer.Tokenize

/-!
# The parts of a content

The content of a piece of markup is taken apart at its markers, and what stands between the markers
of a tag is taken apart into blanks, a name and helpers. Here it is said without the searches that do
this what the parts are, and that no other texts are such parts.

* `IsMarked`: a text between two markers, and the flags that record the markers.
* `TagParts.IsSplit`: a name and helpers with blanks around them.
* `content_parts`: every content is marked in exactly one way, and what is between the markers of a
  tag token has the token's name and helpers, and no others, as its parts.
-/

namespace TemplateLexer

/-! ## Markers -/

/-- The text of the marker that two flags record: `-` for the first of them, `+` for the second and
nothing for neither. No marker is recorded by both. -/
inductive IsMarkerText : Bool → Bool → List Char → Prop
  | trim : IsMarkerText true false ['-']
  | keep : IsMarkerText false true ['+']
  | missing : IsMarkerText false false []

/-- The content is a text between two markers, and the flags record these markers and nothing else.
A marker is missing only where there is none: in front of the content, and at the back of what is
left when the marker in front is taken off. -/
structure IsMarked (content front inner back : List Char) (flags : Flags) : Prop where
  content_eq : content = front ++ (inner ++ back)
  front_marker : IsMarkerText flags.trimBefore flags.keepBefore front
  back_marker : IsMarkerText flags.trimAfter flags.keepAfter back
  not_unterminated : flags.unterminated = false
  not_raw : flags.raw = false
  front_missing : front = [] → ∀ c ∈ content.head?, c ≠ '-' ∧ c ≠ '+'
  back_missing : back = [] → ∀ c ∈ (inner ++ back).getLast?, c ≠ '-' ∧ c ≠ '+'

theorem Marker.ofChar?_eq_none_iff {c : Char} : ofChar? c = none ↔ c ≠ '-' ∧ c ≠ '+' := by
  unfold ofChar?
  split
  · next h => simp [h]
  · next h => simp [h]

theorem Marker.text_eq_nil_iff {m : Option Marker} : text m = [] ↔ m = none := by
  cases m <;> simp [text]

theorem isMarkerText_iff {trims keeps : Bool} {text : List Char} :
    IsMarkerText trims keeps text ↔
      ∃ m, text = Marker.text m ∧ trims = (m == some .trim) ∧ keeps = (m == some .keep) := by
  constructor
  · rintro (_ | _ | _)
    · exact ⟨some .trim, rfl, rfl, rfl⟩
    · exact ⟨some .keep, rfl, rfl, rfl⟩
    · exact ⟨none, rfl, rfl, rfl⟩
  · rintro ⟨_ | _ | _, rfl, rfl, rfl⟩
    · exact .missing
    · exact .trim
    · exact .keep

/-- A content is marked as it is read, and in no other way. -/
theorem exists_isMarked_iff {content inner : List Char} {flags : Flags} :
    (∃ front back, IsMarked content front inner back flags) ↔
      inner = (Marked.read content).inner ∧ flags = (Marked.read content).flags := by
  constructor
  · rintro ⟨front, back, h⟩
    obtain ⟨before, rfl, htrim, hkeep⟩ := isMarkerText_iff.1 h.front_marker
    obtain ⟨after, rfl, htrim', hkeep'⟩ := isMarkerText_iff.1 h.back_marker
    have hread : Marked.read content = ⟨before, inner, after⟩ := by
      refine Marked.read_eq_iff.2 ⟨h.content_eq, fun hnone c hc => ?_, fun hnone c hc => ?_⟩
      · exact Marker.ofChar?_eq_none_iff.2 (h.front_missing (Marker.text_eq_nil_iff.2 hnone) c hc)
      · have hnil := Marker.text_eq_nil_iff.2 hnone
        refine Marker.ofChar?_eq_none_iff.2 (h.back_missing hnil c ?_)
        rwa [hnil, List.append_nil]
    have hunterminated := h.not_unterminated
    have hraw := h.not_raw
    rw [hread]
    refine ⟨rfl, ?_⟩
    cases flags
    simp_all [Marked.flags]
  · rintro ⟨rfl, rfl⟩
    obtain ⟨hcontent, hfront, hback⟩ := Marked.read_eq_iff.1 (Eq.refl (Marked.read content))
    refine ⟨_, _, hcontent, isMarkerText_iff.2 ⟨_, rfl, rfl, rfl⟩,
      isMarkerText_iff.2 ⟨_, rfl, rfl, rfl⟩, rfl, rfl, fun hnil c hc => ?_, fun hnil c hc => ?_⟩
    · exact Marker.ofChar?_eq_none_iff.1 (hfront (Marker.text_eq_nil_iff.1 hnil) c hc)
    · rw [hnil, List.append_nil] at hc
      exact Marker.ofChar?_eq_none_iff.1 (hback (Marker.text_eq_nil_iff.1 hnil) c hc)

/-! ## Names and helpers -/

namespace TagParts

/-- A text is a name and helpers with blanks around them. The name has no blanks in it, and the
helpers have none at their ends. Blanks stand between the two, and there are no helpers without a
name. -/
structure IsSplit (inner front between back : List Char) (parts : TagParts) : Prop where
  inner_eq : inner = front ++ (parts.name ++ (between ++ (parts.helpers ++ back)))
  front_blank : ∀ c ∈ front, isBlank c = true
  between_blank : ∀ c ∈ between, isBlank c = true
  back_blank : ∀ c ∈ back, isBlank c = true
  name_solid : ∀ c ∈ parts.name, isBlank c = false
  helpers_head : ∀ c ∈ parts.helpers.head?, isBlank c = false
  helpers_last : ∀ c ∈ parts.helpers.getLast?, isBlank c = false
  helpers_eq_nil : parts.name = [] → parts.helpers = []
  between_ne_nil : parts.helpers ≠ [] → between ≠ []

variable {content front between back : List Char} {parts : TagParts}

/-- The parts that are read are such parts. -/
theorem exists_isSplit_read (content : List Char) :
    ∃ front between back, IsSplit (Marked.read content).inner front between back (read content) := by
  dsimp only [read]
  generalize (Marked.read content).inner = inner
  obtain ⟨front, back, hfront, hback, hinner⟩ := exists_append_trim inner
  have hsolid : ∀ c ∈ (trim inner).head?, isBlank c = false := fun c => isBlank_of_head?_trim
  generalize trim inner = words at hinner hsolid
  obtain ⟨between, back', hbetween, hback', htail⟩ :=
    exists_append_trim (words.dropWhile (!isBlank ·))
  refine ⟨front, between, back' ++ back, ?_, hfront, hbetween, ?_, ?_,
    fun c => isBlank_of_head?_trim, fun c => isBlank_of_getLast?_trim, fun hname => ?_,
    fun hhelpers hnil => ?_⟩
  · calc inner
      _ = front ++ words ++ back := hinner.symm
      _ = front ++ (words.takeWhile (!isBlank ·) ++ words.dropWhile (!isBlank ·)) ++ back := by
        rw [List.takeWhile_append_dropWhile]
      _ = front ++ (words.takeWhile (!isBlank ·) ++
            (between ++ trim (words.dropWhile (!isBlank ·)) ++ back')) ++ back := by rw [htail]
      _ = _ := by simp only [List.append_assoc]
  · exact List.forall_mem_append.2 ⟨hback', hback⟩
  · intro c hc
    simpa using List.mem_takeWhile_imp hc
  · -- A text that does not begin with a blank has no first word only if it is empty.
    cases words with
    | nil => rfl
    | cons c words =>
      rw [List.takeWhile_cons_of_pos (by simp [hsolid c rfl])] at hname
      cases hname
  · -- What follows the first word begins with a blank, and the helpers do not.
    obtain ⟨c, helpers, hcons⟩ := List.exists_cons_of_ne_nil hhelpers
    dsimp only at hcons
    have hc : isBlank c = false := isBlank_of_head?_trim (by rw [hcons]; rfl)
    have hhead := List.head?_dropWhile_not (!isBlank ·) words
    rw [← htail, hnil, hcons] at hhead
    simp [hc] at hhead

/-- The blanks around a name and helpers are trimmed off, and those between the two stay, if there
are helpers. -/
theorem IsSplit.exists_trim_eq {inner : List Char} (h : IsSplit inner front between back parts) :
    ∃ tail, trim inner = parts.name ++ tail ∧ (∀ c ∈ tail.head?, isBlank c = true) ∧
      trim tail = parts.helpers := by
  have hname_head : ∀ c ∈ parts.name.head?, isBlank c = false := fun c hc =>
    h.name_solid c (List.mem_of_head? hc)
  by_cases hhelpers : parts.helpers = []
  · refine ⟨[], ?_, nofun, hhelpers.symm⟩
    have hname_last : ∀ c ∈ parts.name.getLast?, isBlank c = false := fun c hc =>
      h.name_solid c (List.mem_of_getLast? hc)
    have htrim := trim_append h.front_blank
      (List.forall_mem_append.2 ⟨h.between_blank, h.back_blank⟩) hname_head hname_last
    rw [h.inner_eq, hhelpers]
    simpa using htrim
  · have hname : parts.name ≠ [] := mt h.helpers_eq_nil hhelpers
    have hbetween := h.between_ne_nil hhelpers
    refine ⟨between ++ parts.helpers, ?_, ?_, ?_⟩
    · have hhead : ∀ c ∈ (parts.name ++ (between ++ parts.helpers)).head?, isBlank c = false := by
        rwa [List.head?_append_of_ne_nil _ hname]
      have hlast : ∀ c ∈ (parts.name ++ (between ++ parts.helpers)).getLast?,
          isBlank c = false := by
        rw [← List.append_assoc, List.getLast?_append_of_ne_nil _ hhelpers]
        exact h.helpers_last
      rw [h.inner_eq]
      simpa using trim_append h.front_blank h.back_blank hhead hlast
    · rw [List.head?_append_of_ne_nil _ hbetween]
      exact fun c hc => h.between_blank c (List.mem_of_head? hc)
    · have htrim := trim_append h.between_blank (List.forall_mem_nil _) h.helpers_head h.helpers_last
      rwa [List.append_nil] at htrim

/-- No other parts than those that are read are such parts. -/
theorem eq_read_of_isSplit (h : IsSplit (Marked.read content).inner front between back parts) :
    parts = read content := by
  obtain ⟨tail, htrim, hhead, htail⟩ := h.exists_trim_eq
  have hname : ∀ c ∈ parts.name, (!isBlank c) = true := by simpa using h.name_solid
  have htake : tail.takeWhile (!isBlank ·) = [] := by
    cases tail with
    | nil => rfl
    | cons c tail => rw [List.takeWhile_cons_of_neg (by simp [hhead c rfl])]
  have hdrop : tail.dropWhile (!isBlank ·) = tail :=
    dropWhile_of_head? fun c hc => by simp [hhead c hc]
  simp only [read, htrim, List.takeWhile_append_of_pos hname, List.dropWhile_append_of_pos hname,
    htake, hdrop, htail, List.append_nil]

end TagParts

/-- Every content is a text between markers, and flags that record the markers, in exactly one way,
and this is how it is read. A tag token has a name and helpers, and these are the only ones that the
text between its markers can be split into. -/
theorem content_parts :
    (∀ content inner flags, (∃ front back, IsMarked content front inner back flags) ↔
      inner = (Marked.read content).inner ∧ flags = (Marked.read content).flags) ∧
    ∀ t : Token, t.kind = .tag → ∃ parts, t.tag? = some parts ∧
      ∀ parts' : TagParts, (∃ front between back,
        parts'.IsSplit (Marked.read t.content).inner front between back) ↔ parts' = parts := by
  refine ⟨fun content inner flags => exists_isMarked_iff, fun t ht => ?_⟩
  refine ⟨.read t.content, if_pos ht, fun parts' => ⟨?_, ?_⟩⟩
  · rintro ⟨front, between, back, h⟩
    exact TagParts.eq_read_of_isSplit h
  · rintro rfl
    exact TagParts.exists_isSplit_read t.content

/-- A no-break space behind the marker in front, and a tab before the one at the back. -/
theorem content_parts_blanks :
    let t := (Construct.closed .tag "-\u00a0for x in xs\t+".toList).token .standard .start
    let parts : TagParts := { name := "for".toList, helpers := "x in xs".toList }
    t.kind = .tag ∧ t.tag? = some parts ∧ ∃ front between back,
      parts.IsSplit (Marked.read t.content).inner front between back := by
  intro t parts
  obtain ⟨read, htag, hread⟩ := content_parts.2 t rfl
  have hparts : t.tag? = some parts := by decide +kernel
  have heq : parts = read := Option.some.inj (hparts.symm.trans htag)
  exact ⟨rfl, hparts, (hread parts).2 heq⟩

/-- A single marker is the one in front. -/
example : Marked.read ['-'] = { before := some .trim, inner := [], after := none } := by decide

end TemplateLexer
