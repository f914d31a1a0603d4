import Mathlib.Data.List.Forall2
import Mathlib.Data.List.Nodup
import TemplateLexer.Settings.Value

/-!
# Written forms of structures

A structure can be written in many ways: as a record with its fields in any order, or as a list of
its fields in their declared order. A field may be left out of a record if that is allowed for it,
and out of a list if it is allowed for all fields behind it, too.

* `Value.IsStructure`: the ways to write a structure, from the ways to write each of its fields.
* `Value.isStructure_iff`: these are the values whose slots fit the fields, so that a structure is
  read from its written forms and from nothing else (`Value.bind_slots?_eq_some_iff`).
* `Value.IsOverfull`: a structure has a key that it does not declare, or more items than fields. No
  such value is a written form (`Value.not_isStructure_of_isOverfull`).
-/

namespace TemplateLexer

/-! ## Structures -/

/-- What may be written for a field of a structure. -/
structure FieldForm where
  name : String
  /-- The values that stand for the field. -/
  IsForm : Value → Prop
  /-- Whether the field may be left out. -/
  IsUnset : Prop

/-- What may be in the slot of a field. -/
def FieldForm.Fits (f : FieldForm) : Option Value → Prop
  | none => f.IsUnset
  | some v => f.IsForm v

namespace Value

/-- The fields of a record in their declared order, without those that are left out. -/
inductive IsFields : List FieldForm → List (String × Value) → Prop
  | nil : IsFields [] []
  | written {f : FieldForm} {fs : List FieldForm} {v : Value} {fields : List (String × Value)}
      (form : f.IsForm v) (rest : IsFields fs fields) :
      IsFields (f :: fs) ((f.name, v) :: fields)
  | unset {f : FieldForm} {fs : List FieldForm} {fields : List (String × Value)}
      (unset : f.IsUnset) (rest : IsFields fs fields) : IsFields (f :: fs) fields

/-- The items of a list, one for each field but for those at the end that are left out. -/
inductive IsItems : List FieldForm → List Value → Prop
  | unset {fs : List FieldForm} (unset : ∀ f ∈ fs, f.IsUnset) : IsItems fs []
  | written {f : FieldForm} {fs : List FieldForm} {v : Value} {items : List Value}
      (form : f.IsForm v) (rest : IsItems fs items) : IsItems (f :: fs) (v :: items)

/-- The ways to write a structure: a record with its fields in any order, or a list. -/
inductive IsStructure (fs : List FieldForm) : Value → Prop
  | record {declared fields : List (String × Value)} (declares : IsFields fs declared)
      (order : fields.Perm declared) : IsStructure fs (.record fields)
  | list {items : List Value} (declares : IsItems fs items) : IsStructure fs (.list items)

/-- A structure with these names of fields has another key or more items than names, or this holds
of a structure inside it; `inner` says of which values of a field it does. -/
inductive IsOverfull (names : List String) (inner : String → Value → Prop) : Value → Prop
  | key {name : String} {v : Value} {fields : List (String × Value)} (unknown : name ∉ names)
      (mem : (name, v) ∈ fields) : IsOverfull names inner (.record fields)
  | item {items : List Value} (longer : names.length < items.length) :
      IsOverfull names inner (.list items)
  | insideRecord {name : String} {v : Value} {fields : List (String × Value)}
      (mem : (name, v) ∈ fields) (overfull : inner name v) :
      IsOverfull names inner (.record fields)
  | insideList {i : Nat} {name : String} {v : Value} {items : List Value}
      (declared : names[i]? = some name) (mem : items[i]? = some v) (overfull : inner name v) :
      IsOverfull names inner (.list items)

/-! ## Slots -/

section Slots

variable {fs : List FieldForm} {declared fields : List (String × Value)} {items : List Value}
  {v : Value}

theorem IsFields.sublist (h : IsFields fs declared) :
    (declared.map (·.1)).Sublist (fs.map (·.name)) := by
  induction h with
  | nil => exact .slnil
  | written _ _ ih => exact ih.cons_cons _
  | unset _ _ ih => exact ih.cons _

theorem IsFields.exists_of_mem (h : IsFields fs declared) {name : String}
    (hmem : (name, v) ∈ declared) : ∃ f ∈ fs, f.name = name ∧ f.IsForm v := by
  induction h with
  | nil => cases hmem
  | @written f fs w declared form _ ih =>
    rcases List.mem_cons.1 hmem with heq | hmem
    · obtain ⟨rfl, rfl⟩ := Prod.mk.inj heq
      exact ⟨f, List.mem_cons_self, rfl, form⟩
    · obtain ⟨f', hf', hform⟩ := ih hmem
      exact ⟨f', List.mem_cons_of_mem _ hf', hform⟩
  | unset _ _ ih =>
    obtain ⟨f', hf', hform⟩ := ih hmem
    exact ⟨f', List.mem_cons_of_mem _ hf', hform⟩

/-- Among fields with different names, a value is found for a name if it is written for it. -/
theorem lookup_eq_some_iff_mem (hnodup : (fields.map (·.1)).Nodup) {name : String} :
    fields.lookup name = some v ↔ (name, v) ∈ fields := by
  rw [List.lookup_eq_some_iff]
  constructor
  · rintro ⟨front, back, rfl, -⟩
    simp
  · intro hmem
    obtain ⟨front, back, rfl⟩ := List.append_of_mem hmem
    refine ⟨front, back, rfl, fun field hfield => bne_iff_ne.2 fun heq => ?_⟩
    rw [List.map_append, List.map_cons] at hnodup
    exact (List.nodup_append.1 hnodup).2.2 _ (List.mem_map_of_mem hfield) _ List.mem_cons_self
      heq.symm

/-- What is found for a name does not depend on the order of fields with different names. -/
theorem lookup_eq_of_perm (h : fields.Perm declared) (hnodup : (fields.map (·.1)).Nodup)
    (name : String) : fields.lookup name = declared.lookup name := by
  have hnodup' := (h.map (·.1)).nodup_iff.1 hnodup
  refine Option.ext fun v => ?_
  rw [lookup_eq_some_iff_mem hnodup, lookup_eq_some_iff_mem hnodup', h.mem_iff]

/-- What is found for the names of the fields fits them. -/
theorem IsFields.fits_lookup (hnames : (fs.map (·.name)).Nodup) (h : IsFields fs declared)
    {f : FieldForm} (hf : f ∈ fs) : f.Fits (declared.lookup f.name) := by
  induction h with
  | nil => cases hf
  | @written f' fs w declared form _ ih =>
    obtain ⟨hf', hnames⟩ := List.nodup_cons.1 hnames
    rcases List.mem_cons.1 hf with rfl | hf
    · rwa [List.lookup_cons_self]
    · have hne : f.name ≠ f'.name := fun heq => hf' (List.mem_map.2 ⟨f, hf, heq⟩)
      rw [List.lookup_cons, beq_eq_false_iff_ne.2 hne]
      exact ih hnames hf
  | @unset f' fs declared unset rest ih =>
    obtain ⟨hf', hnames⟩ := List.nodup_cons.1 hnames
    rcases List.mem_cons.1 hf with rfl | hf
    · have hnone : declared.lookup f.name = none := by
        refine List.lookup_eq_none_iff.2 fun field hfield => bne_iff_ne.2 fun heq => hf' ?_
        exact rest.sublist.subset (List.mem_map.2 ⟨field, hfield, heq.symm⟩)
      rwa [hnone]
    · exact ih hnames hf

/-- The fields that are found for the declared names, if what is found fits. -/
theorem isFields_of_fits (hfits : ∀ f ∈ fs, f.Fits (fields.lookup f.name)) :
    IsFields fs (fs.filterMap fun f => (fields.lookup f.name).map (f.name, ·)) := by
  induction fs with
  | nil => exact .nil
  | cons f fs ih =>
    have hrest := ih fun f hf => hfits f (List.mem_cons_of_mem _ hf)
    have hfirst := hfits f List.mem_cons_self
    cases hlookup : fields.lookup f.name with
    | none =>
      rw [hlookup] at hfirst
      rw [List.filterMap_cons_none (by rw [hlookup]; rfl)]
      exact .unset hfirst hrest
    | some v =>
      rw [hlookup] at hfirst
      rw [List.filterMap_cons_some (by rw [hlookup]; rfl)]
      exact .written hfirst hrest

/-- Fields with different names that are all declared, each of which fits, are the declared ones in
some order. -/
theorem IsFields.exists_of_fits (hnames : (fs.map (·.name)).Nodup)
    (hnodup : (fields.map (·.1)).Nodup) (hkeys : ∀ field ∈ fields, field.1 ∈ fs.map (·.name))
    (hfits : ∀ f ∈ fs, f.Fits (fields.lookup f.name)) :
    ∃ declared, IsFields fs declared ∧ fields.Perm declared := by
  have hdeclared := isFields_of_fits hfits
  refine ⟨_, hdeclared, ?_⟩
  have hnodup' := hdeclared.sublist.nodup hnames
  rw [List.perm_ext_iff_of_nodup (.of_map _ hnodup) (.of_map _ hnodup')]
  rintro ⟨name, v⟩
  simp only [List.mem_filterMap, Option.map_eq_some_iff, lookup_eq_some_iff_mem hnodup]
  constructor
  · intro hmem
    obtain ⟨f, hf, rfl⟩ := List.mem_map.1 (hkeys _ hmem)
    exact ⟨f, hf, v, hmem, rfl⟩
  · rintro ⟨f, -, w, hmem, heq⟩
    rwa [← heq]

theorem isItems_iff : IsItems fs items ↔ items.length ≤ fs.length ∧
    List.Forall₂ FieldForm.Fits fs
      (items.map some ++ List.replicate (fs.length - items.length) none) := by
  induction fs generalizing items with
  | nil =>
    cases items with
    | nil => exact ⟨fun _ => ⟨Nat.le_refl _, .nil⟩, fun _ => .unset nofun⟩
    | cons v items => exact ⟨nofun, fun h => absurd h.1 (Nat.not_succ_le_zero _)⟩
  | cons f fs ih =>
    cases items with
    | nil =>
      have hnil : IsItems (f :: fs) [] ↔ f.IsUnset ∧ IsItems fs [] := by
        constructor
        · rintro ⟨unset⟩
          exact ⟨unset f List.mem_cons_self, .unset fun f hf => unset f (List.mem_cons_of_mem _ hf)⟩
        · rintro ⟨hf, ⟨unset⟩⟩
          exact .unset (List.forall_mem_cons.2 ⟨hf, unset⟩)
      rw [hnil, ih]
      simp [List.replicate_succ, FieldForm.Fits]
    | cons v items =>
      have hcons : IsItems (f :: fs) (v :: items) ↔ f.IsForm v ∧ IsItems fs items :=
        ⟨fun | .written form rest => ⟨form, rest⟩, fun h => .written h.1 h.2⟩
      rw [hcons, ih]
      simp [FieldForm.Fits, and_left_comm]

/-- The written forms of a structure are the values whose slots fit its fields. -/
theorem isStructure_iff (hnames : (fs.map (·.name)).Nodup) :
    IsStructure fs v ↔
      ∃ slots, v.slots? (fs.map (·.name)) = some slots ∧ List.Forall₂ FieldForm.Fits fs slots := by
  constructor
  · rintro (⟨declares, order⟩ | ⟨declares⟩)
    · have hnodup := (order.map (·.1)).nodup_iff.2 (declares.sublist.nodup hnames)
      refine ⟨_, slots?_record_eq_some_iff.2 ⟨fun field hfield => ?_, hnodup, rfl⟩, ?_⟩
      · exact declares.sublist.subset (List.mem_map_of_mem (order.subset hfield))
      · rw [List.map_map, List.forall₂_map_right_iff, List.forall₂_same]
        intro f hf
        rw [Function.comp_apply, lookup_eq_of_perm order hnodup]
        exact declares.fits_lookup hnames hf
    · obtain ⟨hlength, hfits⟩ := isItems_iff.1 declares
      refine ⟨_, slots?_list_eq_some_iff.2 ⟨?_, rfl⟩, ?_⟩
      · rwa [List.length_map]
      · rwa [List.length_map]
  · rintro ⟨slots, hslots, hfits⟩
    cases v with
    | record fields =>
      obtain ⟨hkeys, hnodup, rfl⟩ := slots?_record_eq_some_iff.1 hslots
      rw [List.map_map, List.forall₂_map_right_iff, List.forall₂_same] at hfits
      obtain ⟨declared, declares, order⟩ := IsFields.exists_of_fits hnames hnodup hkeys hfits
      exact .record declares order
    | list items =>
      obtain ⟨hlength, rfl⟩ := slots?_list_eq_some_iff.1 hslots
      rw [List.length_map] at hlength hfits
      exact .list (isItems_iff.2 ⟨hlength, hfits⟩)
    | _ => cases hslots

/-- The item for a field stands where the field is declared. -/
theorem IsItems.exists_of_getElem? (h : IsItems fs items) {i : Nat} (hi : items[i]? = some v) :
    ∃ f, fs[i]? = some f ∧ f.IsForm v := by
  induction h generalizing i with
  | unset _ => cases hi
  | written form _ ih =>
    cases i with
    | zero => exact ⟨_, rfl, Option.some.inj hi ▸ form⟩
    | succ i => exact ih hi

/-- An overfull value is no form of a structure if what stands for a field is not overfull. -/
theorem not_isStructure_of_isOverfull {inner : String → Value → Prop}
    (hinner : ∀ f ∈ fs, ∀ v, inner f.name v → ¬ f.IsForm v)
    (h : IsOverfull (fs.map (·.name)) inner v) : ¬ IsStructure fs v := by
  rintro (⟨declares, order⟩ | ⟨declares⟩)
  · cases h with
    | key unknown mem =>
      exact unknown (declares.sublist.subset (List.mem_map_of_mem (order.subset mem)))
    | insideRecord mem overfull =>
      obtain ⟨f, hf, rfl, form⟩ := declares.exists_of_mem (order.subset mem)
      exact hinner f hf _ overfull form
  · cases h with
    | item longer =>
      rw [List.length_map] at longer
      exact Nat.not_lt.2 (isItems_iff.1 declares).1 longer
    | insideList declared mem overfull =>
      obtain ⟨f, hf, form⟩ := declares.exists_of_getElem? mem
      rw [List.getElem?_map, hf] at declared
      obtain rfl := Option.some.inj declared
      exact hinner f (List.mem_of_getElem? hf) _ overfull form

/-- A structure is read from its written forms if its value is read from the slots that fit. -/
theorem bind_slots?_eq_some_iff {α : Type} {names : List String} {a : α}
    {read : List (Option Value) → Option α} (hfields : fs.map (·.name) = names)
    (hnames : names.Nodup)
    (hread : ∀ slots, slots.length = names.length →
      (read slots = some a ↔ List.Forall₂ FieldForm.Fits fs slots)) :
    v.slots? names >>= read = some a ↔ IsStructure fs v := by
  subst hfields
  rw [isStructure_iff hnames, Option.bind_eq_bind, Option.bind_eq_some_iff]
  refine exists_congr fun slots => and_congr_right fun hslots => ?_
  exact hread slots (length_of_slots? hslots)

end Slots

/-- A slot is read as the value of its field if it fits the field. -/
theorem readSlot_eq_some_iff {α : Type} {unset a : α} {read : Value → Option α} {f : FieldForm}
    (hform : ∀ v, read v = some a ↔ f.IsForm v) (hunset : a = unset ↔ f.IsUnset)
    {slot : Option Value} : readSlot unset read slot = some a ↔ f.Fits slot := by
  cases slot with
  | none => rw [readSlot, Option.some.injEq, eq_comm, hunset, FieldForm.Fits]
  | some v => exact hform v

@[simp] theorem text?_eq_some_iff {v : Value} {cs : List Char} :
    v.text? = some cs ↔ v = .text cs := by
  cases v <;> simp [text?]

@[simp] theorem bool?_eq_some_iff {v : Value} {b : Bool} : v.bool? = some b ↔ v = .bool b := by
  cases v <;> simp [bool?]

@[simp] theorem char?_eq_some_iff {v : Value} {c : Char} : v.char? = some c ↔ v = .text [c] := by
  unfold char?
  split <;> simp_all

end Value

end TemplateLexer
