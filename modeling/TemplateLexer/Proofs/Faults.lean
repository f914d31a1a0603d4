import Mathlib.Data.List.OfFn
import TemplateLexer.Dialect

/-!
# Settings that are refused

Settings are checked in three passes over a list of their delimiters. Here it is said without these
passes, by the numbers of the delimiters, which settings make a dialect and which fault the others
are refused for.

* `Delimiter.Clash`: what is told of two delimiters of which one is the beginning of the other.
* `Settings.FirstFault`: the fault that comes before all others.
* `ofSettings_exact`: settings make a dialect if and only if no delimiter is empty, none starts with
  the escape character and none is the beginning of another; all others are refused for their first
  fault.
-/

namespace TemplateLexer

/-! ## The first in a list -/

section FirstInList

variable {α β : Type} {n : Nat} {f : Fin n → α}

theorem findSome?_ofFn_eq_some_iff {g : α → Option β} {b : β} :
    (List.ofFn f).findSome? g = some b ↔ ∃ i, g (f i) = some b ∧ ∀ j < i, g (f j) = none := by
  induction n with
  | zero => simp
  | succ n ih =>
    rw [List.ofFn_succ, List.findSome?_cons, Fin.exists_fin_succ]
    cases hzero : g (f 0) with
    | some b' =>
      have hlater (i : Fin n) : ¬ ∀ j < i.succ, g (f j) = none := fun h => by
        have := h 0 (Fin.succ_pos i)
        rw [hzero] at this
        cases this
      simp [hlater]
    | none => simp [ih, Fin.forall_fin_succ, hzero]

/-- The first clash of a list is that of its first pair, in the order of first members and then of
second ones. -/
theorem firstClash?_ofFn_eq_some_iff {f : Fin n → Delimiter} {fault : Fault} :
    firstClash? (List.ofFn f) = some fault ↔
      ∃ i j, i < j ∧ (f i).clash? (f j) = some fault ∧
        ∀ k l, k < l → k < i ∨ k = i ∧ l < j → (f k).clash? (f l) = none := by
  induction n with
  | zero => simp [firstClash?]
  | succ n ih =>
    rw [List.ofFn_succ, firstClash?]
    cases hzero : (List.ofFn fun i : Fin n => f i.succ).findSome? (f 0).clash? with
    | some fault' =>
      obtain ⟨m, hm, hfirst⟩ := findSome?_ofFn_eq_some_iff.1 hzero
      rw [Option.some_or]
      constructor
      · rintro ⟨⟩
        refine ⟨0, m.succ, Fin.succ_pos m, hm, fun k l hkl horder => ?_⟩
        obtain ⟨rfl, hl⟩ := horder.resolve_left (Fin.not_lt_zero k)
        obtain ⟨l, rfl⟩ := Fin.exists_succ_eq.2 (Fin.ne_of_gt hkl)
        exact hfirst l (Fin.succ_lt_succ_iff.1 hl)
      · rintro ⟨i, j, hij, hclash, hfirst'⟩
        -- The pair is that of the first delimiter with the first one that it clashes with.
        have hclash' : (f 0).clash? (f m.succ) ≠ none := by simp [hm]
        obtain rfl : i = 0 := by
          by_contra hi
          exact hclash' (hfirst' 0 m.succ (Fin.succ_pos m) (.inl (Fin.pos_of_ne_zero hi)))
        obtain ⟨j, rfl⟩ := Fin.exists_succ_eq.2 (Fin.ne_of_gt hij)
        obtain rfl : j = m := by
          rcases lt_trichotomy j m with hj | hj | hj
          · rw [hfirst j hj] at hclash
            cases hclash
          · exact hj
          · exact absurd (hfirst' 0 m.succ (Fin.succ_pos m)
              (.inr ⟨rfl, Fin.succ_lt_succ_iff.2 hj⟩)) hclash'
        rw [← hclash, hm]
    | none =>
      have hnone : ∀ l : Fin n, (f 0).clash? (f l.succ) = none := by
        simpa [List.findSome?_eq_none_iff, List.mem_ofFn] using hzero
      rw [Option.none_or, ih, Fin.exists_fin_succ]
      simp [Fin.exists_fin_succ, Fin.forall_fin_succ, hnone]

end FirstInList

/-! ## What is told of two delimiters -/

namespace Delimiter

variable {a b : Delimiter} {fault : Fault}

/-- The fault of two delimiters of which one is the beginning of the other, where `a` comes before
`b`. The same text is told of `a` and then of `b`. Of two texts the shorter is told to be the
beginning of the longer, whichever comes first. -/
inductive Clash (a b : Delimiter) : Fault → Prop
  | duplicateOpener (same : a.text = b.text)
      (openers : a.side = .opening ∧ b.side = .opening) :
      Clash a b (.duplicateOpener a.markup b.markup a.text)
  | duplicateDelimiter (same : a.text = b.text)
      (not_openers : ¬ (a.side = .opening ∧ b.side = .opening)) :
      Clash a b (.duplicateDelimiter a b)
  | ambiguousOpener {shorter longer : Delimiter}
      (members : shorter = a ∧ longer = b ∨ shorter = b ∧ longer = a)
      (begins : shorter.text <+: longer.text) (differ : shorter.text ≠ longer.text)
      (openers : a.side = .opening ∧ b.side = .opening) :
      Clash a b (.ambiguousOpener shorter longer)
  | ambiguousDelimiter {shorter longer : Delimiter}
      (members : shorter = a ∧ longer = b ∨ shorter = b ∧ longer = a)
      (begins : shorter.text <+: longer.text) (differ : shorter.text ≠ longer.text)
      (not_openers : ¬ (a.side = .opening ∧ b.side = .opening)) :
      Clash a b (.ambiguousDelimiter shorter longer)

theorem bothOpen_iff : a.bothOpen b = true ↔ a.side = .opening ∧ b.side = .opening := by
  rw [bothOpen, Bool.and_eq_true, beq_iff_eq, beq_iff_eq]

theorem clash_duplicate (h : a.text = b.text) : Clash a b (duplicate a b) := by
  unfold duplicate
  split
  · next hopen => exact .duplicateOpener h (bothOpen_iff.1 hopen)
  · next hopen => exact .duplicateDelimiter h fun h => hopen (bothOpen_iff.2 h)

theorem bothOpen_iff_of_members {shorter longer : Delimiter}
    (hmembers : shorter = a ∧ longer = b ∨ shorter = b ∧ longer = a) :
    shorter.bothOpen longer = true ↔ a.side = .opening ∧ b.side = .opening := by
  rw [bothOpen_iff]
  rcases hmembers with ⟨rfl, rfl⟩ | ⟨rfl, rfl⟩
  · rfl
  · exact and_comm

theorem clash_ambiguous {shorter longer : Delimiter}
    (hmembers : shorter = a ∧ longer = b ∨ shorter = b ∧ longer = a)
    (hbegins : shorter.text <+: longer.text) (hdiffer : shorter.text ≠ longer.text) :
    Clash a b (ambiguous shorter longer) := by
  have hopen := bothOpen_iff_of_members hmembers
  unfold ambiguous
  split
  · next h => exact .ambiguousOpener hmembers hbegins hdiffer (hopen.1 h)
  · next h => exact .ambiguousDelimiter hmembers hbegins hdiffer fun h' => h (hopen.2 h')

theorem clash_of_clash? (h : a.clash? b = some fault) : Clash a b fault := by
  unfold clash? at h
  split at h
  · next hsame => exact Option.some.inj h ▸ clash_duplicate hsame
  · next hdiffer =>
    simp only [List.isPrefixOf_iff_prefix] at h
    split at h
    · next hbegins => exact Option.some.inj h ▸ clash_ambiguous (.inl ⟨rfl, rfl⟩) hbegins hdiffer
    · split at h
      · next hbegins =>
        exact Option.some.inj h ▸ clash_ambiguous (.inr ⟨rfl, rfl⟩) hbegins (Ne.symm hdiffer)
      · cases h

/-- Two different texts clash if one is the beginning of the other, whichever comes first. -/
theorem clash?_of_begins {shorter longer : Delimiter}
    (hmembers : shorter = a ∧ longer = b ∨ shorter = b ∧ longer = a)
    (hbegins : shorter.text <+: longer.text) (hdiffer : shorter.text ≠ longer.text) :
    a.clash? b = some (ambiguous shorter longer) := by
  have hnot : ¬ longer.text <+: shorter.text :=
    fun h => hdiffer (hbegins.eq_of_length_le h.length_le)
  unfold clash?
  simp only [List.isPrefixOf_iff_prefix]
  rcases hmembers with ⟨rfl, rfl⟩ | ⟨rfl, rfl⟩
  · rw [if_neg hdiffer, if_pos hbegins]
  · rw [if_neg (Ne.symm hdiffer), if_neg hnot, if_pos hbegins]

theorem clash?_eq_some_iff : a.clash? b = some fault ↔ Clash a b fault := by
  refine ⟨clash_of_clash?, fun h => ?_⟩
  cases h with
  | duplicateOpener same openers => simp [clash?, duplicate, same, bothOpen_iff.2 openers]
  | duplicateDelimiter same not_openers =>
    simp [clash?, duplicate, same, mt bothOpen_iff.1 not_openers]
  | ambiguousOpener members begins differ openers =>
    rw [clash?_of_begins members begins differ, ambiguous,
      if_pos ((bothOpen_iff_of_members members).2 openers)]
  | ambiguousDelimiter members begins differ not_openers =>
    rw [clash?_of_begins members begins differ, ambiguous,
      if_neg (mt (bothOpen_iff_of_members members).1 not_openers)]

end Delimiter

/-! ## The first fault -/

/-- The delimiters by their numbers: those of notes, of tags and of expressions, and the opener
before the closer. -/
def Settings.delimiter (s : Settings) : Fin 6 → Delimiter
  | 0 => ⟨.note, .opening, s.delimiters.note.opener⟩
  | 1 => ⟨.note, .closing, s.delimiters.note.closer⟩
  | 2 => ⟨.tag, .opening, s.delimiters.tag.opener⟩
  | 3 => ⟨.tag, .closing, s.delimiters.tag.closer⟩
  | 4 => ⟨.expression, .opening, s.delimiters.expression.opener⟩
  | 5 => ⟨.expression, .closing, s.delimiters.expression.closer⟩

namespace Settings

variable {s : Settings}

/-- The fault that comes before all others: an empty delimiter before any other fault, then one that
starts with the escape character, then two of which one is the beginning of the other. Among faults
of one sort the delimiter with the smallest number comes first, and for two delimiters the number of
the first, then that of the second. -/
inductive FirstFault (s : Settings) : Fault → Prop
  | emptyDelimiter {i : Fin 6} (empty : (s.delimiter i).text = [])
      (first : ∀ j < i, (s.delimiter j).text ≠ []) :
      FirstFault s (.emptyDelimiter (s.delimiter i).markup (s.delimiter i).side)
  | escapeInDelimiter {i : Fin 6} (nonempty : ∀ j, (s.delimiter j).text ≠ [])
      (escaped : (s.delimiter i).text.head? = some s.escape)
      (first : ∀ j < i, (s.delimiter j).text.head? ≠ some s.escape) :
      FirstFault s (.escapeInDelimiter (s.delimiter i) s.escape)
  | clash {i j : Fin 6} {fault : Fault} (nonempty : ∀ k, (s.delimiter k).text ≠ [])
      (unescaped : ∀ k, (s.delimiter k).text.head? ≠ some s.escape)
      (lt : i < j) (clash : (s.delimiter i).Clash (s.delimiter j) fault)
      (first : ∀ k l, k < l → k < i ∨ k = i ∧ l < j →
        ¬ (s.delimiter k).text <+: (s.delimiter l).text ∧
          ¬ (s.delimiter l).text <+: (s.delimiter k).text) :
      FirstFault s fault

theorem listed_delimiters (s : Settings) : s.delimiters.listed = List.ofFn s.delimiter := rfl

theorem findSome?_emptiness?_eq_none_iff :
    s.delimiters.listed.findSome? Delimiter.emptiness? = none ↔
      ∀ i, (s.delimiter i).text ≠ [] := by
  rw [listed_delimiters, List.findSome?_eq_none_iff, List.forall_mem_ofFn_iff]
  simp [Delimiter.emptiness?]

theorem findSome?_escaped?_eq_none_iff :
    s.delimiters.listed.findSome? (Delimiter.escaped? s.escape) = none ↔
      ∀ i, (s.delimiter i).text.head? ≠ some s.escape := by
  rw [listed_delimiters, List.findSome?_eq_none_iff, List.forall_mem_ofFn_iff]
  simp [Delimiter.escaped?]

theorem firstClash?_listed_eq_none_iff :
    firstClash? s.delimiters.listed = none ↔
      ∀ i j, i ≠ j → ¬ (s.delimiter i).text <+: (s.delimiter j).text := by
  rw [listed_delimiters, firstClash?_eq_none_iff, List.pairwise_ofFn]
  simp only [Delimiter.clash?_eq_none_iff]
  constructor
  · intro h i j hne
    rcases lt_or_gt_of_ne hne with hlt | hlt
    · exact (h hlt).1
    · exact (h hlt).2
  · exact fun h i j hlt => ⟨h i j (Fin.ne_of_lt hlt), h j i (Fin.ne_of_gt hlt)⟩

theorem fault?_eq_none_iff :
    s.fault? = none ↔ (∀ i, (s.delimiter i).text ≠ []) ∧
      (∀ i, (s.delimiter i).text.head? ≠ some s.escape) ∧
        ∀ i j, i ≠ j → ¬ (s.delimiter i).text <+: (s.delimiter j).text := by
  unfold fault?
  rw [Option.or_eq_none_iff, Option.or_eq_none_iff, findSome?_emptiness?_eq_none_iff,
    findSome?_escaped?_eq_none_iff, firstClash?_listed_eq_none_iff, and_assoc]

theorem fault?_eq_some_iff {fault : Fault} : s.fault? = some fault ↔ s.FirstFault fault := by
  unfold fault?
  rw [Option.or_eq_some_iff, Option.or_eq_some_iff, Option.or_eq_none_iff,
    findSome?_emptiness?_eq_none_iff, findSome?_escaped?_eq_none_iff, listed_delimiters,
    findSome?_ofFn_eq_some_iff, findSome?_ofFn_eq_some_iff, firstClash?_ofFn_eq_some_iff]
  simp only [Delimiter.clash?_eq_some_iff, Delimiter.clash?_eq_none_iff]
  constructor
  · rintro ((⟨i, hempty, hfirst⟩ | ⟨hnonempty, i, hescaped, hfirst⟩) |
      ⟨⟨hnonempty, hunescaped⟩, i, j, hlt, hclash, hfirst⟩)
    · simp only [Delimiter.emptiness?, Option.ite_none_right_eq_some, ite_eq_right_iff,
        reduceCtorEq, imp_false, Option.some.injEq] at hempty hfirst
      obtain ⟨hempty, rfl⟩ := hempty
      exact .emptyDelimiter hempty hfirst
    · simp only [Delimiter.escaped?, Option.ite_none_right_eq_some, ite_eq_right_iff,
        reduceCtorEq, imp_false, Option.some.injEq] at hescaped hfirst
      obtain ⟨hescaped, rfl⟩ := hescaped
      exact .escapeInDelimiter hnonempty hescaped hfirst
    · exact .clash hnonempty hunescaped hlt hclash hfirst
  · intro h
    cases h with
    | emptyDelimiter empty first =>
      exact .inl (.inl ⟨_, if_pos empty, fun j hj => if_neg (first j hj)⟩)
    | escapeInDelimiter nonempty escaped first =>
      exact .inl (.inr ⟨nonempty, _, if_pos escaped, fun j hj => if_neg (first j hj)⟩)
    | clash nonempty unescaped lt clash first =>
      exact .inr ⟨⟨nonempty, unescaped⟩, _, _, lt, clash, first⟩

end Settings

/-- Settings make a dialect, with these settings, if and only if none of the six delimiters is empty
or starts with the escape character and none is the beginning of another. All other settings are
refused, and what is told is their first fault. -/
theorem ofSettings_exact (s : Settings) :
    ((∃ d, Dialect.ofSettings s = .ok d ∧ d.settings = s) ↔
      (∀ i, (s.delimiter i).text ≠ []) ∧ (∀ i, (s.delimiter i).text.head? ≠ some s.escape) ∧
        ∀ i j, i ≠ j → ¬ (s.delimiter i).text <+: (s.delimiter j).text) ∧
    ∀ fault, Dialect.ofSettings s = .error fault ↔ s.FirstFault fault := by
  rw [← Settings.fault?_eq_none_iff]
  simp only [← Settings.fault?_eq_some_iff]
  unfold Dialect.ofSettings
  split
  · next hnone => simp [hnone]
  · next fault hfault => simp [hfault]

/-- The opener of tags is the beginning of the two others. The first pair is that of the opener of
notes with it, and it is the shorter one of the pair though it comes second. -/
theorem ofSettings_ambiguous :
    let s : Settings := { delimiters := { tag := ⟨['\x7b'], ['%', '\x7d']⟩ } }
    let fault : Fault :=
      .ambiguousOpener ⟨.tag, .opening, ['\x7b']⟩ ⟨.note, .opening, ['\x7b', '#']⟩
    s.FirstFault fault ∧ ¬ ∃ d, Dialect.ofSettings s = .ok d ∧ d.settings = s := by
  intro s fault
  have hfault : Dialect.ofSettings s = .error fault := rfl
  refine ⟨((ofSettings_exact s).2 fault).1 hfault, fun hok => ?_⟩
  obtain ⟨-, -, happart⟩ := (ofSettings_exact s).1.1 hok
  exact happart 2 0 (by decide) (by decide)

end TemplateLexer
