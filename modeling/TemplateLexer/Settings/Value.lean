/-!
# Data values

Settings come from a file of values in records and lists. A record may be written as a list of its
fields in their declared order; `slots?` reads either form into one slot per declared field.
-/

namespace TemplateLexer

/-- A value of a data file. -/
inductive Value where
  | null
  | bool (b : Bool)
  /-- The number `mantissa * 10 ^ exponent`. -/
  | number (mantissa exponent : Int)
  | text (cs : List Char)
  | list (items : List Value)
  | record (fields : List (String × Value))
  deriving Inhabited

namespace Value

/-- The truth value, if the value is one. -/
def bool? : Value → Option Bool
  | bool b => some b
  | _ => none

/-- The text, if the value is one. -/
def text? : Value → Option (List Char)
  | text cs => some cs
  | _ => none

/-- The character, if the value is a text of exactly one. -/
def char? : Value → Option Char
  | text [c] => some c
  | _ => none

/-- The fields of a record with the declared `names`, in their order; a field that is not written
has an empty slot. A record must have no other fields and none twice, and a list must not be
longer than the names. -/
def slots? (names : List String) : Value → Option (List (Option Value))
  | record fields =>
    let keys := fields.map (·.1)
    if keys.all names.contains && keys.Nodup then
      some (names.map fun name => List.lookup name fields)
    else none
  | list items =>
    if items.length ≤ names.length then
      some (items.map some ++ List.replicate (names.length - items.length) none)
    else none
  | _ => none

theorem slots?_record_eq_some_iff {names : List String} {fields : List (String × Value)}
    {slots : List (Option Value)} :
    (record fields).slots? names = some slots ↔
      (∀ field ∈ fields, field.1 ∈ names) ∧ (fields.map (·.1)).Nodup ∧
        (names.map fun name => fields.lookup name) = slots := by
  unfold slots?
  rw [Option.ite_none_right_eq_some, Bool.and_eq_true, List.all_eq_true, decide_eq_true_eq,
    List.forall_mem_map, and_assoc, Option.some.injEq]
  simp only [List.contains_iff_mem]

theorem slots?_list_eq_some_iff {names : List String} {items : List Value}
    {slots : List (Option Value)} :
    (list items).slots? names = some slots ↔
      items.length ≤ names.length ∧
        items.map some ++ List.replicate (names.length - items.length) none = slots := by
  unfold slots?
  rw [Option.ite_none_right_eq_some, Option.some.injEq]

/-- There is one slot for each name. -/
theorem length_of_slots? {names : List String} {v : Value} {slots : List (Option Value)}
    (h : v.slots? names = some slots) : slots.length = names.length := by
  cases v with
  | record fields =>
    obtain ⟨-, -, rfl⟩ := slots?_record_eq_some_iff.1 h
    rw [List.length_map]
  | list items =>
    obtain ⟨hlength, rfl⟩ := slots?_list_eq_some_iff.1 h
    rw [List.length_append, List.length_map, List.length_replicate]
    omega
  | _ => cases h

/-- Reads a slot, which is `unset` if it is empty. -/
def readSlot {α : Type} (unset : α) (read : Value → Option α) (slot : Option Value) : Option α :=
  match slot with
  | none => some unset
  | some v => read v

end Value

end TemplateLexer
