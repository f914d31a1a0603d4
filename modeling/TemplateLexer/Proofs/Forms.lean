import Mathlib.Tactic.Simproc.ExistsAndEq
import TemplateLexer.Proofs.Structures
import TemplateLexer.Settings.Format

/-!
# Written forms of settings

Settings hold delimiters, which hold pairs, and two structures of switches. Each of these five may be
written as a record or as a list, whichever way the others are written. A field with its default
value may be left out; only the two delimiters of a pair must always be there.

* `Settings.IsForm`: the written forms of settings.
* `Settings.IsOverfull`: one of the structures in the value has another key or too many items.
* `Settings.decode?_forms`: settings are read from what `encode` writes, they are read from their
  written forms and from nothing else, and no overfull value is read at all.
-/

namespace TemplateLexer

namespace Pair

variable {p : Pair} {v : Value}

/-- Neither delimiter may be left out. -/
def forms (p : Pair) : List FieldForm :=
  [⟨"open", (· = .text p.opener), False⟩, ⟨"close", (· = .text p.closer), False⟩]

/-- The written forms of a pair. -/
def IsForm (p : Pair) : Value → Prop := Value.IsStructure p.forms

/-- A pair with another key, or with more than two items. -/
def IsOverfull : Value → Prop := Value.IsOverfull fieldNames fun _ _ => False

theorem isForm_encode (p : Pair) : p.IsForm p.encode :=
  .record (.written rfl (.written rfl .nil)) (.refl _)

theorem decode?_eq_some_iff : decode? v = some p ↔ p.IsForm v := by
  refine Value.bind_slots?_eq_some_iff rfl (by decide) fun slots hslots => ?_
  match slots, hslots with
  | [opener, closer], _ =>
    cases p
    cases opener <;> cases closer <;> simp [forms, FieldForm.Fits, Option.bind_eq_some_iff]

theorem not_isForm_of_isOverfull (h : IsOverfull v) : ¬ p.IsForm v :=
  Value.not_isStructure_of_isOverfull (fun _ _ _ hfalse => hfalse.elim) h

end Pair

namespace Delimiters

variable {d : Delimiters} {v : Value}

/-- Each pair may be left out if it is the standard one. -/
def forms (d : Delimiters) : List FieldForm :=
  let unset : Delimiters := {}
  [⟨"expression", d.expression.IsForm, d.expression = unset.expression⟩,
    ⟨"tag", d.tag.IsForm, d.tag = unset.tag⟩, ⟨"note", d.note.IsForm, d.note = unset.note⟩]

/-- The written forms of the three pairs. -/
def IsForm (d : Delimiters) : Value → Prop := Value.IsStructure d.forms

/-- Delimiters with another key or more than three items, or with such a pair. -/
def IsOverfull : Value → Prop := Value.IsOverfull fieldNames fun _ => Pair.IsOverfull

theorem isForm_encode (d : Delimiters) : d.IsForm d.encode :=
  .record (.written d.expression.isForm_encode
    (.written d.tag.isForm_encode (.written d.note.isForm_encode .nil))) (.refl _)

theorem decode?_eq_some_iff : decode? v = some d ↔ d.IsForm v := by
  refine Value.bind_slots?_eq_some_iff rfl (by decide) fun slots hslots => ?_
  match slots, hslots with
  | [expression, tag, note], _ =>
    cases d
    simp only [forms, List.forall₂_cons, List.forall₂_nil_right_iff, and_true, Option.pure_def,
      Option.bind_eq_bind, Option.bind_eq_some_iff, Option.some.injEq, mk.injEq,
      ↓existsAndEq]
    exact and_congr (Value.readSlot_eq_some_iff (fun _ => Pair.decode?_eq_some_iff) .rfl)
      (and_congr (Value.readSlot_eq_some_iff (fun _ => Pair.decode?_eq_some_iff) .rfl)
        (Value.readSlot_eq_some_iff (fun _ => Pair.decode?_eq_some_iff) .rfl))

theorem not_isForm_of_isOverfull (h : IsOverfull v) : ¬ d.IsForm v := by
  refine Value.not_isStructure_of_isOverfull (fun f hf v hv => ?_) h
  simp only [forms, List.mem_cons, List.not_mem_nil, or_false] at hf
  rcases hf with rfl | rfl | rfl <;> exact Pair.not_isForm_of_isOverfull hv

end Delimiters

namespace TagSpacing

variable {s : TagSpacing} {v : Value}

/-- Each switch may be left out if it is off. -/
def forms (s : TagSpacing) : List FieldForm :=
  let unset : TagSpacing := {}
  [⟨"lstrip_blocks", (· = .bool s.lstripBlocks), s.lstripBlocks = unset.lstripBlocks⟩,
    ⟨"trim_blocks", (· = .bool s.trimBlocks), s.trimBlocks = unset.trimBlocks⟩]

/-- The written forms of the two switches. -/
def IsForm (s : TagSpacing) : Value → Prop := Value.IsStructure s.forms

/-- Switches with another key, or with more than two items. -/
def IsOverfull : Value → Prop := Value.IsOverfull fieldNames fun _ _ => False

theorem isForm_encode (s : TagSpacing) : s.IsForm s.encode :=
  .record (.written rfl (.written rfl .nil)) (.refl _)

theorem decode?_eq_some_iff : decode? v = some s ↔ s.IsForm v := by
  refine Value.bind_slots?_eq_some_iff rfl (by decide) fun slots hslots => ?_
  match slots, hslots with
  | [lstripBlocks, trimBlocks], _ =>
    cases s
    simp only [forms, List.forall₂_cons, List.forall₂_nil_right_iff, and_true, Option.pure_def,
      Option.bind_eq_bind, Option.bind_eq_some_iff, Option.some.injEq, mk.injEq,
      ↓existsAndEq]
    exact and_congr (Value.readSlot_eq_some_iff (fun _ => Value.bool?_eq_some_iff) .rfl)
      (Value.readSlot_eq_some_iff (fun _ => Value.bool?_eq_some_iff) .rfl)

theorem not_isForm_of_isOverfull (h : IsOverfull v) : ¬ s.IsForm v :=
  Value.not_isStructure_of_isOverfull (fun _ _ _ hfalse => hfalse.elim) h

end TagSpacing

namespace Legacy

variable {l : Legacy} {v : Value}

/-- The switch may be left out if it is off. -/
def forms (l : Legacy) : List FieldForm :=
  let unset : Legacy := {}
  [⟨"whitespace_required_within_tokens", (· = .bool l.boundaryRequired),
    l.boundaryRequired = unset.boundaryRequired⟩]

/-- The written forms of the switch. -/
def IsForm (l : Legacy) : Value → Prop := Value.IsStructure l.forms

/-- A switch with another key, or with more than one item. -/
def IsOverfull : Value → Prop := Value.IsOverfull fieldNames fun _ _ => False

theorem isForm_encode (l : Legacy) : l.IsForm l.encode := .record (.written rfl .nil) (.refl _)

theorem decode?_eq_some_iff : decode? v = some l ↔ l.IsForm v := by
  refine Value.bind_slots?_eq_some_iff rfl (by decide) fun slots hslots => ?_
  match slots, hslots with
  | [boundaryRequired], _ =>
    cases l
    simp only [forms, List.forall₂_cons, List.forall₂_nil_right_iff, and_true, Option.pure_def,
      Option.bind_eq_bind, Option.bind_eq_some_iff, Option.some.injEq, mk.injEq, exists_eq_right]
    exact Value.readSlot_eq_some_iff (fun _ => Value.bool?_eq_some_iff) .rfl

theorem not_isForm_of_isOverfull (h : IsOverfull v) : ¬ l.IsForm v :=
  Value.not_isStructure_of_isOverfull (fun _ _ _ hfalse => hfalse.elim) h

end Legacy

namespace Settings

variable {s : Settings} {v : Value}

/-- Each field may be left out if it has its default value. -/
def forms (s : Settings) : List FieldForm :=
  let unset : Settings := {}
  [⟨"delimiters", s.delimiters.IsForm, s.delimiters = unset.delimiters⟩,
    ⟨"escape_char", (· = .text [s.escape]), s.escape = unset.escape⟩,
    ⟨"whitespace", s.spacing.IsForm, s.spacing = unset.spacing⟩,
    ⟨"legacy", s.legacy.IsForm, s.legacy = unset.legacy⟩,
    ⟨"raw_blocks", (· = .bool s.rawBlocks), s.rawBlocks = unset.rawBlocks⟩]

/-- The written forms of settings. -/
def IsForm (s : Settings) : Value → Prop := Value.IsStructure s.forms

/-- Settings with another key or more than five items, or with such a structure in them. -/
def IsOverfull : Value → Prop := Value.IsOverfull fieldNames fun
  | "delimiters" => Delimiters.IsOverfull
  | "whitespace" => TagSpacing.IsOverfull
  | "legacy" => Legacy.IsOverfull
  | _ => fun _ => False

theorem isForm_encode (s : Settings) : s.IsForm s.encode :=
  .record (.written s.delimiters.isForm_encode (.written rfl
    (.written s.spacing.isForm_encode (.written s.legacy.isForm_encode (.written rfl .nil)))))
    (.refl _)

theorem decode?_eq_some_iff : decode? v = some s ↔ s.IsForm v := by
  refine Value.bind_slots?_eq_some_iff rfl (by decide) fun slots hslots => ?_
  match slots, hslots with
  | [delimiters, escape, spacing, legacy, rawBlocks], _ =>
    cases s
    simp only [forms, List.forall₂_cons, List.forall₂_nil_right_iff, and_true, Option.pure_def,
      Option.bind_eq_bind, Option.bind_eq_some_iff, Option.some.injEq, mk.injEq,
      ↓existsAndEq]
    exact and_congr (Value.readSlot_eq_some_iff (fun _ => Delimiters.decode?_eq_some_iff) .rfl)
      (and_congr (Value.readSlot_eq_some_iff (fun _ => Value.char?_eq_some_iff) .rfl)
        (and_congr (Value.readSlot_eq_some_iff (fun _ => TagSpacing.decode?_eq_some_iff) .rfl)
          (and_congr (Value.readSlot_eq_some_iff (fun _ => Legacy.decode?_eq_some_iff) .rfl)
            (Value.readSlot_eq_some_iff (fun _ => Value.bool?_eq_some_iff) .rfl))))

theorem not_isForm_of_isOverfull (h : IsOverfull v) : ¬ s.IsForm v := by
  refine Value.not_isStructure_of_isOverfull (fun f hf v hv => ?_) h
  simp only [forms, List.mem_cons, List.not_mem_nil, or_false] at hf
  rcases hf with rfl | rfl | rfl | rfl | rfl
  · exact Delimiters.not_isForm_of_isOverfull hv
  · cases hv
  · exact TagSpacing.not_isForm_of_isOverfull hv
  · exact Legacy.not_isForm_of_isOverfull hv
  · cases hv

/-- Settings are read back from what is written for them. They are read from all their written forms
and from nothing else, and a value in which a structure has another key or too many items is not
read as any settings. -/
theorem decode?_forms (s : Settings) :
    decode? s.encode = some s ∧ (∀ v, decode? v = some s ↔ s.IsForm v) ∧
      ∀ v, IsOverfull v → decode? v = none := by
  refine ⟨decode?_eq_some_iff.2 s.isForm_encode, fun v => decode?_eq_some_iff, fun v hv => ?_⟩
  cases hdecode : decode? v with
  | none => rfl
  | some s' => exact absurd (decode?_eq_some_iff.1 hdecode) (not_isForm_of_isOverfull hv)

/-- A record that holds a list that holds a list, with fields out of order and others left out; and
the same with a third item in the pair. -/
theorem decode?_forms_nested :
    let s : Settings :=
      { delimiters := { expression := ⟨['<'], ['>']⟩ }, spacing := { trimBlocks := true }
        rawBlocks := false }
    let written (pair : Value) : Value :=
      .record [("raw_blocks", .bool false), ("delimiters", .list [pair]),
        ("whitespace", .record [("trim_blocks", .bool true)])]
    let pair : Value := .list [.text ['<'], .text ['>']]
    let longer : Value := .list [.text ['<'], .text ['>'], .null]
    s.IsForm (written pair) ∧ decode? (written pair) = some s ∧
      IsOverfull (written longer) ∧ decode? (written longer) = none := by
  intro s written pair longer
  have hpair : Pair.IsForm ⟨['<'], ['>']⟩ pair := .list (.written rfl (.written rfl (.unset nofun)))
  have hdelimiters : s.delimiters.IsForm (.list [pair]) :=
    .list (.written hpair (.unset (by simp [s])))
  have hspacing : s.spacing.IsForm (.record [("trim_blocks", .bool true)]) :=
    .record (.unset rfl (.written rfl .nil)) (.refl _)
  have hform : s.IsForm (written pair) :=
    .record (.written hdelimiters (.unset rfl (.written hspacing (.unset rfl (.written rfl .nil)))))
      (List.perm_append_singleton _ [_, _]).symm
  have hlonger : Pair.IsOverfull longer := .item (by decide)
  have hoverfull : IsOverfull (written longer) :=
    .insideRecord (List.mem_cons_of_mem _ List.mem_cons_self)
      (.insideList (i := 0) rfl rfl hlonger)
  obtain ⟨-, hread, hrefused⟩ := decode?_forms s
  exact ⟨hform, (hread _).2 hform, hoverfull, hrefused _ hoverfull⟩

end Settings

end TemplateLexer
