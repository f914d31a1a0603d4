import TemplateLexer.Text.Cursor

/-!
# Finding a place in a text

A search goes over the bytes of a text and stops at the first place where something is found.
Nothing that is searched for begins inside a character, so the search may as well look only at the
places between characters.

* `seek?_start`: the search over bytes finds the place that the search over characters finds.
* `splitAtFirst?_eq`: this for the first occurrence of a text in another.
* `firstPlace?_append`: what stands behind the first place does not matter, as far as what is looked
  for at a place does not depend on it.
* `firstPlace?_behind`: what stands in front does not matter, if nothing is found in it.
-/

namespace TemplateLexer

/-! ## Texts at the front -/

theorem isPrefixOf?_cons_nil (c : Char) (front : List Char) :
    (c :: front).isPrefixOf? [] = none := rfl

theorem isPrefixOf?_cons_cons (c d : Char) (front text : List Char) :
    (c :: front).isPrefixOf? (d :: text) = if c == d then front.isPrefixOf? text else none := rfl

/-- A text that starts with `front` is `front` and what follows it. -/
theorem append_of_isPrefixOf? {front text rest : List Char}
    (h : front.isPrefixOf? text = some rest) : front ++ rest = text := by
  induction front generalizing text with
  | nil => exact (Option.some.inj h).symm
  | cons c front ih =>
    cases text with
    | nil => simp [isPrefixOf?_cons_nil] at h
    | cons d text =>
      rw [isPrefixOf?_cons_cons] at h
      split at h
      · next hcd => rw [List.cons_append, ih h, eq_of_beq hcd]
      · simp at h

@[simp] theorem isPrefixOf?_append (front rest : List Char) :
    front.isPrefixOf? (front ++ rest) = some rest := by
  induction front with
  | nil => rfl
  | cons c front ih => simp [isPrefixOf?_cons_cons, ih]

theorem isPrefixOf?_eq_none_iff {front text : List Char} :
    front.isPrefixOf? text = none ↔ ¬ front <+: text := by
  refine ⟨fun h ⟨rest, hrest⟩ => ?_, fun h => ?_⟩
  · simp [← hrest] at h
  · cases hs : front.isPrefixOf? text with
    | none => rfl
    | some rest => exact absurd ⟨rest, append_of_isPrefixOf? hs⟩ h

/-- Whether a long enough text starts with `front` does not depend on what stands behind it. -/
theorem isPrefixOf?_append_of_length_le {front text : List Char} (h : front.length ≤ text.length)
    (more : List Char) :
    front.isPrefixOf? (text ++ more) = (front.isPrefixOf? text).map (· ++ more) := by
  induction front generalizing text with
  | nil => rfl
  | cons c front ih =>
    cases text with
    | nil => simp at h
    | cons d text =>
      rw [List.cons_append, isPrefixOf?_cons_cons, isPrefixOf?_cons_cons, ih (by simpa using h)]
      split <;> rfl

/-- Whether a text starts with `front` is decided before the first character that `front` does not
have, whatever stands behind that. -/
theorem isPrefixOf?_append_cons {front : List Char} {k : Char} (hk : k ∉ front)
    (text rest : List Char) :
    front.isPrefixOf? (text ++ k :: rest) = (front.isPrefixOf? text).map (· ++ k :: rest) := by
  induction front generalizing text with
  | nil => rfl
  | cons c front ih =>
    obtain ⟨hne, hfront⟩ := List.ne_and_not_mem_of_not_mem_cons hk
    cases text with
    | nil =>
      rw [List.nil_append, isPrefixOf?_cons_cons, beq_eq_false_iff_ne.2 (Ne.symm hne)]
      rfl
    | cons d text =>
      rw [List.cons_append, isPrefixOf?_cons_cons, isPrefixOf?_cons_cons, ih hfront]
      split <;> rfl

theorem prefix_append_cons_iff {front : List Char} {k : Char} (hk : k ∉ front)
    (text rest : List Char) : front <+: text ++ k :: rest ↔ front <+: text := by
  have hnot : ¬ front <+: text ++ k :: rest ↔ ¬ front <+: text := by
    rw [← isPrefixOf?_eq_none_iff, ← isPrefixOf?_eq_none_iff, isPrefixOf?_append_cons hk,
      Option.map_eq_none_iff]
  exact Decidable.not_iff_not.1 hnot

/-! ## Places -/

variable {α : Type}

/-- The offset of the first place from `p` on where `here?` finds something, and what it finds. The
place `p` is at `offset`. -/
def seek? (here? : Cursor → Option α) (offset : Nat) (p : Cursor) : Option (Nat × α) :=
  match _h : p.next? with
  | none => none
  | some (_, q) =>
    match here? p with
    | some found => some (offset, found)
    | none => seek? here? (offset + 1) q
termination_by p.size
decreasing_by
  have := Cursor.size_of_next? _h
  omega

/-- A place in a text where something is found. -/
structure Place (α : Type) where
  /-- The text up to the place. -/
  before : List Char
  found : α
  /-- The text from the place on. -/
  after : List Char

/-- The same place in a text with one more character in front. -/
def Place.push (c : Char) (p : Place α) : Place α := { p with before := c :: p.before }

/-- The same place in a text with more text in front. -/
def Place.behind (front : List Char) (p : Place α) : Place α :=
  { p with before := front ++ p.before }

/-- The first place in a text where `here?` finds something. -/
def firstPlace? (here? : List Char → Option α) : List Char → Option (Place α)
  | [] => none
  | c :: text =>
    match here? (c :: text) with
    | some found => some ⟨[], found, c :: text⟩
    | none => (firstPlace? here? text).map (Place.push c)

theorem Place.map_push_eq_some_iff {p? : Option (Place α)} {c c' : Char} {before after : List Char}
    {found : α} : p?.map (push c) = some ⟨c' :: before, found, after⟩ ↔
      c' = c ∧ p? = some ⟨before, found, after⟩ := by
  rw [Option.map_eq_some_iff]
  constructor
  · rintro ⟨p, hp, ⟨⟩⟩
    exact ⟨rfl, hp⟩
  · rintro ⟨rfl, hp⟩
    exact ⟨_, hp, rfl⟩

/-- Something is found at a place if it is there and nothing is at the places before. -/
theorem firstPlace?_eq_some_iff {here? : List Char → Option α} {text : List Char} {p : Place α} :
    firstPlace? here? text = some p ↔
      p.before ++ p.after = text ∧ p.after ≠ [] ∧ here? p.after = some p.found ∧
        ∀ back, back <:+ p.before → back ≠ [] → here? (back ++ p.after) = none := by
  obtain ⟨before, found, after⟩ := p
  dsimp only
  induction text generalizing before with
  | nil => simp +contextual [firstPlace?]
  | cons c text ih =>
    rw [firstPlace?]
    cases hhere : here? (c :: text) with
    | some found' =>
      constructor
      · rintro ⟨⟩
        exact ⟨rfl, List.cons_ne_nil c text, hhere, fun back hback hne =>
          absurd (List.suffix_nil.1 hback) hne⟩
      · rintro ⟨htext, -, hfound, hfirst⟩
        cases before with
        | nil =>
          rw [List.nil_append] at htext
          rw [htext, hhere] at hfound
          rw [htext, Option.some.inj hfound]
        | cons c' before =>
          have := hfirst _ (List.suffix_refl _) (List.cons_ne_nil c' before)
          rw [htext, hhere] at this
          cases this
    | none =>
      cases before with
      | nil =>
        constructor
        · intro h
          obtain ⟨p, -, hp⟩ := Option.map_eq_some_iff.1 h
          cases hp
        · rintro ⟨rfl, -, hfound, -⟩
          rw [hfound] at hhere
          cases hhere
      | cons c' before =>
        rw [Place.map_push_eq_some_iff, ih, List.cons_append, List.cons_eq_cons]
        constructor
        · rintro ⟨rfl, rfl, hne, hfound, hfirst⟩
          refine ⟨⟨rfl, rfl⟩, hne, hfound, fun back hback => ?_⟩
          rcases List.suffix_cons_iff.1 hback with rfl | hback
          · exact fun _ => hhere
          · exact hfirst back hback
        · rintro ⟨⟨rfl, rfl⟩, hne, hfound, hfirst⟩
          exact ⟨rfl, rfl, hne, hfound, fun back hback =>
            hfirst back (List.suffix_cons_iff.2 (.inr hback))⟩

theorem firstPlace?_eq_some {here? : List Char → Option α} {text : List Char} {p : Place α}
    (h : firstPlace? here? text = some p) :
    p.before ++ p.after = text ∧ here? p.after = some p.found := by
  obtain ⟨htext, -, hfound, -⟩ := firstPlace?_eq_some_iff.1 h
  exact ⟨htext, hfound⟩

/-- Nothing is found if nothing is at any place before the end. -/
theorem firstPlace?_eq_none_iff {here? : List Char → Option α} {text : List Char} :
    firstPlace? here? text = none ↔ ∀ rest, rest <:+ text → rest ≠ [] → here? rest = none := by
  induction text with
  | nil => simp [firstPlace?]
  | cons c text ih =>
    rw [firstPlace?]
    cases hhere : here? (c :: text) with
    | some found =>
      refine iff_of_false (Option.some_ne_none _) fun h => ?_
      simp [h _ (List.suffix_refl _) (List.cons_ne_nil c text)] at hhere
    | none =>
      dsimp only
      rw [Option.map_eq_none_iff, ih]
      constructor
      · intro h rest hrest hne
        rcases List.suffix_cons_iff.1 hrest with rfl | hrest
        · exact hhere
        · exact h rest hrest hne
      · exact fun h rest hrest => h rest (List.suffix_cons_iff.2 (.inr hrest))

/-- The first place comes before every other place where something is found. -/
theorem before_prefix_of_firstPlace? {here? : List Char → Option α} {text front rest : List Char}
    {p : Place α} (h : firstPlace? here? text = some p) (htext : front ++ rest = text)
    (hrest : here? rest ≠ none) : p.before <+: front := by
  obtain ⟨hsplit, -, -, hfirst⟩ := firstPlace?_eq_some_iff.1 h
  rcases List.append_eq_append_iff.1 (hsplit.trans htext.symm) with
    ⟨between, rfl, -⟩ | ⟨between, hbefore, rfl⟩
  · exact List.prefix_append _ _
  · cases between with
    | nil => exact ⟨[], by rw [hbefore, List.append_nil, List.append_nil]⟩
    | cons c between =>
      have hback : c :: between <:+ p.before := hbefore ▸ List.suffix_append _ _
      exact absurd (hfirst _ hback (List.cons_ne_nil c between)) hrest

/-- Text in front does not change the first place, if nothing is found in it. -/
theorem firstPlace?_behind {here? : List Char → Option α} {front text : List Char}
    (h : ∀ back, back <:+ front → back ≠ [] → here? (back ++ text) = none) :
    firstPlace? here? (front ++ text) = (firstPlace? here? text).map (Place.behind front) := by
  induction front with
  | nil => exact Option.map_id'.symm
  | cons c front ih =>
    have hhere : here? (c :: (front ++ text)) = none :=
      h (c :: front) (List.suffix_refl _) (List.cons_ne_nil c front)
    have hmore := ih fun back hback => h back (hback.trans (List.suffix_cons c front))
    rw [List.cons_append, firstPlace?, hhere]
    dsimp only
    rw [hmore, Option.map_map]
    rfl

/-- More text behind does not change the first place, if it does not change what is at the places
up to there. -/
theorem firstPlace?_append {here? : List Char → Option α} {text : List Char} {p : Place α}
    (h : firstPlace? here? text = some p) (more : List Char)
    (hstable : ∀ back, back <:+ p.before →
      here? (back ++ p.after ++ more) = here? (back ++ p.after)) :
    firstPlace? here? (text ++ more) = some { p with after := p.after ++ more } := by
  obtain ⟨rfl, hne, hfound, hfirst⟩ := firstPlace?_eq_some_iff.1 h
  refine firstPlace?_eq_some_iff.2
    ⟨by rw [List.append_assoc], by simp [hne], ?_, fun back hback hback' => ?_⟩
  · have := hstable [] List.nil_suffix
    rw [List.nil_append] at this
    rw [this, hfound]
  · rw [← List.append_assoc, hstable back hback, hfirst back hback hback']

section Bytes

variable {hereBytes? : Cursor → Option α} {here? : List Char → Option α}

/-- A search passes over the bytes of a character after its first. -/
theorem seek?_laterBytes
    (hlater : ∀ byte later text, (∀ c, leadByte c ≠ byte) → hereBytes? ⟨byte :: later, text⟩ = none)
    (offset : Nat) (c : Char) (text : List Char) :
    seek? hereBytes? offset ⟨laterBytes c, text⟩
      = seek? hereBytes? (offset + (laterBytes c).length) (.start text) := by
  have hbytes : ∀ byte ∈ laterBytes c, ∀ c', leadByte c' ≠ byte :=
    fun byte hbyte => leadByte_ne_of_mem_laterBytes hbyte
  generalize laterBytes c = later at hbytes
  induction later generalizing offset with
  | nil => rfl
  | cons byte later ih =>
    rw [seek?]
    dsimp only [Cursor.next?]
    rw [hlater byte later text (hbytes byte List.mem_cons_self)]
    dsimp only
    rw [ih (offset + 1) fun b hb => hbytes b (List.mem_cons_of_mem _ hb), List.length_cons]
    congr 1
    omega

/-- A search over the bytes of a text finds what a search over its characters finds, if it finds
nothing where no character begins. -/
theorem seek?_start (hbytes : ∀ text, hereBytes? (.start text) = here? text)
    (hlater : ∀ byte later text, (∀ c, leadByte c ≠ byte) → hereBytes? ⟨byte :: later, text⟩ = none)
    (offset : Nat) (text : List Char) :
    seek? hereBytes? offset (.start text)
      = (firstPlace? here? text).map fun p => (offset + utf8Size p.before, p.found) := by
  induction text generalizing offset with
  | nil =>
    rw [seek?]
    rfl
  | cons c text ih =>
    have hhere := hbytes (c :: text)
    rw [seek?, hhere, firstPlace?]
    dsimp only [Cursor.start, Cursor.next?]
    cases here? (c :: text) with
    | some found => simp
    | none =>
      dsimp only
      rw [seek?_laterBytes hlater, ih, Option.map_map, Nat.add_assoc, length_laterBytes]
      simp [Function.comp_def, Place.push, Nat.add_assoc]

end Bytes

/-! ## Occurrences -/

/-- The text before and after the first occurrence of `needle`. -/
def splitAtFirst? (needle text : List Char) : Option (List Char × List Char) :=
  (seek? (fun p => if p.startsWith needle then some () else none) 0 (.start text)).map
    fun (offset, _) => (takeBytes offset text, dropBytes (offset + utf8Size needle) text)

theorem prefix_of_firstPlace? {needle text : List Char} {p : Place Unit}
    (h : firstPlace? (fun text => if needle.isPrefixOf text then some () else none) text = some p) :
    needle <+: p.after :=
  List.isPrefixOf_iff_prefix.1 (by simpa using (firstPlace?_eq_some h).2)

/-- Where `needle` is found, it and what follows it stand. -/
theorem append_drop_of_firstPlace? {needle text : List Char} {p : Place Unit}
    (h : firstPlace? (fun text => if needle.isPrefixOf text then some () else none) text = some p) :
    p.before ++ (needle ++ p.after.drop needle.length) = text := by
  obtain ⟨rest, hrest⟩ := prefix_of_firstPlace? h
  rw [← (firstPlace?_eq_some h).1, ← hrest, List.drop_left]

/-- A text is divided where the search over its characters finds `needle`. -/
theorem splitAtFirst?_eq {needle : List Char} (hne : needle ≠ []) (text : List Char) :
    splitAtFirst? needle text =
      (firstPlace? (fun text => if needle.isPrefixOf text then some () else none) text).map
        fun p => (p.before, p.after.drop needle.length) := by
  rw [splitAtFirst?, seek?_start (fun text => by rw [Cursor.startsWith_start])
    (fun byte later text hbyte => by rw [Cursor.startsWith_of_not_leadByte hbyte hne]; rfl),
    Option.map_map]
  refine Option.map_congr fun p hp => ?_
  have htext := append_drop_of_firstPlace? hp
  have hfront := takeBytes_append p.before (needle ++ p.after.drop needle.length)
  have hback := dropBytes_append (p.before ++ needle) (p.after.drop needle.length)
  rw [List.append_assoc, htext, utf8Size_append] at hback
  rw [htext] at hfront
  simp only [Function.comp_apply, Nat.zero_add, hfront, hback]

/-- A text is not divided if `needle` does not occur in it. -/
theorem splitAtFirst?_eq_none_iff {needle : List Char} (hne : needle ≠ []) {text : List Char} :
    splitAtFirst? needle text = none ↔ ¬ needle <:+: text := by
  rw [splitAtFirst?_eq hne, Option.map_eq_none_iff, firstPlace?_eq_none_iff]
  constructor
  · intro h hinfix
    obtain ⟨rest, hprefix, hrest⟩ := List.infix_iff_prefix_suffix.1 hinfix
    have hrest' : rest ≠ [] := by
      rintro rfl
      exact hne (List.prefix_nil.1 hprefix)
    have hnone := h rest hrest hrest'
    rw [if_pos (List.isPrefixOf_iff_prefix.2 hprefix)] at hnone
    cases hnone
  · intro h rest hrest _
    refine if_neg fun hprefix => h ?_
    exact List.infix_iff_prefix_suffix.2 ⟨rest, List.isPrefixOf_iff_prefix.1 hprefix, hrest⟩

/-- Nothing is lost at the first occurrence. -/
theorem append_of_splitAtFirst? {needle text front rest : List Char} (hne : needle ≠ [])
    (h : splitAtFirst? needle text = some (front, rest)) : front ++ needle ++ rest = text := by
  rw [splitAtFirst?_eq hne] at h
  obtain ⟨p, hp, hsplit⟩ := Option.map_eq_some_iff.1 h
  obtain ⟨rfl, rfl⟩ := Prod.mk.inj hsplit
  rw [List.append_assoc, append_drop_of_firstPlace? hp]

/-- A text is divided at an occurrence, if there is none before it. -/
theorem splitAtFirst?_of_first {needle front rest : List Char} (hne : needle ≠ [])
    (h : ∀ back, back <:+ front → back ≠ [] → ¬ needle <+: back ++ (needle ++ rest)) :
    splitAtFirst? needle (front ++ (needle ++ rest)) = some (front, rest) := by
  have hplace : firstPlace? (fun text => if needle.isPrefixOf text then some () else none)
      (front ++ (needle ++ rest)) = some ⟨front, (), needle ++ rest⟩ := by
    refine firstPlace?_eq_some_iff.2 ⟨rfl, by simp [hne], by simp, fun back hback hback' => ?_⟩
    exact if_neg fun hneedle => h back hback hback' (List.isPrefixOf_iff_prefix.1 hneedle)
  rw [splitAtFirst?_eq hne, hplace, Option.map_some, List.drop_left]

/-- No occurrence stands before the one where a text is divided. -/
theorem not_prefix_of_splitAtFirst? {needle text front rest : List Char} (hne : needle ≠ [])
    (h : splitAtFirst? needle text = some (front, rest)) {back : List Char} (hback : back <:+ front)
    (hback' : back ≠ []) : ¬ needle <+: back ++ (needle ++ rest) := by
  rw [splitAtFirst?_eq hne] at h
  obtain ⟨p, hp, hsplit⟩ := Option.map_eq_some_iff.1 h
  obtain ⟨rfl, rfl⟩ := Prod.mk.inj hsplit
  have hafter : needle ++ p.after.drop needle.length = p.after :=
    (List.prefix_iff_eq_append.1 (prefix_of_firstPlace? hp)).symm ▸ rfl
  intro hprefix
  have hnone := (firstPlace?_eq_some_iff.1 hp).2.2.2 back hback hback'
  rw [hafter] at hprefix
  rw [if_pos (List.isPrefixOf_iff_prefix.2 hprefix)] at hnone
  cases hnone

/-- No occurrence stands in the text before the one where a text is divided. -/
theorem not_infix_of_splitAtFirst? {needle text front rest : List Char} (hne : needle ≠ [])
    (h : splitAtFirst? needle text = some (front, rest)) : ¬ needle <:+: front := by
  rintro ⟨before, after, hfront⟩
  rw [List.append_assoc] at hfront
  have hback : needle ++ after <:+ front := ⟨before, hfront⟩
  refine not_prefix_of_splitAtFirst? hne h hback (by simp [hne]) ?_
  rw [List.append_assoc]
  exact List.prefix_append _ _

/-- More text behind does not change the first occurrence. -/
theorem splitAtFirst?_append {needle text front rest : List Char} (hne : needle ≠ [])
    (h : splitAtFirst? needle text = some (front, rest)) (more : List Char) :
    splitAtFirst? needle (text ++ more) = some (front, rest ++ more) := by
  rw [splitAtFirst?_eq hne] at h ⊢
  obtain ⟨p, hp, hsplit⟩ := Option.map_eq_some_iff.1 h
  obtain ⟨rfl, rfl⟩ := Prod.mk.inj hsplit
  have hlength := (prefix_of_firstPlace? hp).length_le
  have hstable (back : List Char) : needle.isPrefixOf (back ++ p.after ++ more)
      = needle.isPrefixOf (back ++ p.after) := by
    have hlength' : needle.length ≤ (back ++ p.after).length := by
      rw [List.length_append]
      omega
    rw [Bool.eq_iff_iff, List.isPrefixOf_iff_prefix, List.isPrefixOf_iff_prefix]
    exact ⟨fun h => List.prefix_of_prefix_length_le h (List.prefix_append _ _) hlength',
      fun h => h.trans (List.prefix_append _ _)⟩
  rw [firstPlace?_append hp more fun back _ => by rw [hstable back], Option.map_some]
  dsimp only
  rw [List.drop_append_of_le_length hlength]

end TemplateLexer
