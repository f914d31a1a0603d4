import TemplateLexer.Body.Reading

/-!
# Bodies, one step at a time

A step of the automaton that reads bodies either ends the body or goes on with another state. Here
the two are taken apart: where a body can end, and what state a character leads to.

* `readBody_cons`: one step.
* `endHere?_eq_none_iff`, `endHere?_eq_closed_iff`: where a body goes on, and where it is closed.
* `escaped_next`: which characters of a body are escaped does not depend on quotes.
-/

namespace TemplateLexer

namespace BodyState

/-- Whether a body can end before `c`: neither is `c` escaped or quoted, nor does it escape or
quote what follows. -/
def canEnd (d : Dialect) (state : BodyState) (c : Char) : Bool :=
  !state.escaped && c != d.escape && state.quote.isNone && (Quote.ofChar? c).isNone

/-- What has been seen of a body after one more character. -/
def next (d : Dialect) (state : BodyState) (c : Char) : BodyState :=
  if state.escaped then { state with escaped := false }
  else if c = d.escape then { state with escaped := true }
  else match state.quote with
    | some quote => if quote.char = c then {} else state
    | none => { quote := Quote.ofChar? c }

/-- What has been seen of a body after some more text. -/
def after (d : Dialect) (state : BodyState) (text : List Char) : BodyState :=
  text.foldl (next d) state

variable (d : Dialect)

@[simp] theorem after_nil (state : BodyState) : state.after d [] = state := rfl

@[simp] theorem after_cons (state : BodyState) (c : Char) (text : List Char) :
    state.after d (c :: text) = (state.next d c).after d text := rfl

@[simp] theorem after_append (state : BodyState) (front back : List Char) :
    state.after d (front ++ back) = (state.after d front).after d back :=
  List.foldl_append

theorem escaped_next (state : BodyState) (c : Char) :
    (state.next d c).escaped = (!state.escaped && c == d.escape) := by
  unfold next
  by_cases hescaped : state.escaped = true
  · simp [hescaped]
  · by_cases hc : c = d.escape
    · simp [hescaped, hc]
    · rw [if_neg hescaped, if_neg hc]
      cases state.quote with
      | none => simp [hc]
      | some quote =>
        by_cases hquote : quote.char = c
        · simp [hquote, hc]
        · simp [hquote, hescaped, hc]

end BodyState

namespace BodyEnd

/-- The same end, of a body with more text in front. -/
def behind (front : List Char) : BodyEnd → BodyEnd
  | closed content rest => closed (front ++ content) rest
  | interrupted content rest => interrupted (front ++ content) rest
  | unterminated content => unterminated (front ++ content)

@[simp] theorem behind_nil (e : BodyEnd) : e.behind [] = e := by
  cases e <;> rfl

@[simp] theorem behind_cons (c : Char) (front : List Char) (e : BodyEnd) :
    e.behind (c :: front) = (e.behind front).push c := by
  cases e <;> rfl

end BodyEnd

namespace Dialect

variable (d : Dialect)

/-- The end of a body, if it is at the front of `source`. -/
def endHere? (markup : Markup) (state : BodyState) (source : List Char) : Option BodyEnd :=
  if source.head?.any (state.canEnd d) then
    match (d.closer markup).isPrefixOf? source with
    | some rest => some (.closed [] rest)
    | none => if (d.afterOpener? .note source).isSome then some (.interrupted [] source) else none
  else none

/-- One step: either the body ends here, or the character is in its content. -/
theorem readBody_cons (markup : Markup) (state : BodyState) (c : Char) (source : List Char) :
    d.readBody markup state (c :: source) = match d.endHere? markup state (c :: source) with
      | some e => e
      | none => (d.readBody markup (state.next d c) source).push c := by
  rw [readBody, endHere?, List.head?_cons, Option.any_some]
  unfold BodyState.canEnd BodyState.next
  by_cases hescaped : state.escaped = true
  · simp [hescaped]
  by_cases hc : c = d.escape
  · simp [hescaped, hc]
  cases hquote : state.quote with
  | some quote => simp [hescaped, hc]
  | none =>
    cases hofChar : Quote.ofChar? c with
    | some quote => simp [hescaped, hc]
    | none =>
      have hstate : state = {} := by
        obtain ⟨quote, escaped⟩ := state
        simp_all
      subst hstate
      cases (d.closer markup).isPrefixOf? (c :: source) with
      | some rest => simp [hc]
      | none =>
        by_cases hnote : (d.afterOpener? .note (c :: source)).isSome = true
        · simp [hc, hnote]
        · simp [hc, hnote]

/-- A character before which a body cannot end is in its content. -/
theorem readBody_cons_of_canEnd {markup : Markup} {state : BodyState} {c : Char}
    (h : state.canEnd d c = false) (source : List Char) :
    d.readBody markup state (c :: source) = (d.readBody markup (state.next d c) source).push c := by
  rw [readBody_cons, endHere?, List.head?_cons, Option.any_some, h, if_neg Bool.false_ne_true]

variable {d} {markup : Markup} {state : BodyState} {content rest : List Char}

/-- A body closes here if it can end here and its closer stands here. -/
theorem endHere?_eq_closed_iff {source : List Char} :
    d.endHere? markup state source = some (.closed content rest) ↔
      source.head?.any (state.canEnd d) = true ∧ content = []
        ∧ d.closer markup ++ rest = source := by
  unfold endHere?
  by_cases hend : source.head?.any (state.canEnd d) = true
  · rw [if_pos hend]
    cases hcloser : (d.closer markup).isPrefixOf? source with
    | some rest' =>
      have hsource := append_of_isPrefixOf? hcloser
      constructor
      · rintro ⟨⟩
        exact ⟨hend, rfl, hsource⟩
      · rintro ⟨-, rfl, h⟩
        rw [← hsource, List.append_cancel_left_eq] at h
        rw [h]
    | none =>
      have hnot := isPrefixOf?_eq_none_iff.1 hcloser
      refine iff_of_false ?_ fun h => hnot ⟨rest, h.2.2⟩
      dsimp only
      split <;> simp
  · rw [if_neg hend]
    simp [hend]

/-- A body goes on here if it cannot end here, or if neither its closer stands here nor a note
opens. -/
theorem endHere?_eq_none_iff {source : List Char} :
    d.endHere? markup state source = none ↔
      (source.head?.any (state.canEnd d) = true →
        ¬ d.closer markup <+: source ∧ (d.afterOpener? .note source).isSome = false) := by
  unfold endHere?
  by_cases hend : source.head?.any (state.canEnd d) = true
  · rw [if_pos hend, ← isPrefixOf?_eq_none_iff]
    cases (d.closer markup).isPrefixOf? source with
    | some rest => simp [hend]
    | none => simp [hend]
  · simp [hend]

/-- A body is closed at its front or behind its first character. -/
theorem readBody_cons_eq_closed_iff {c : Char} {source : List Char} :
    d.readBody markup state (c :: source) = .closed content rest ↔
      d.endHere? markup state (c :: source) = some (.closed content rest) ∨
        d.endHere? markup state (c :: source) = none ∧ ∃ content', content = c :: content' ∧
          d.readBody markup (state.next d c) source = .closed content' rest := by
  rw [readBody_cons]
  cases d.endHere? markup state (c :: source) with
  | some e => simp
  | none =>
    cases d.readBody markup (state.next d c) source with
    | closed content' rest' =>
      constructor
      · rintro ⟨⟩
        exact .inr ⟨rfl, content', rfl, rfl⟩
      · rintro (h | ⟨-, content'', rfl, ⟨⟩⟩)
        · cases h
        · rfl
    | interrupted content' rest' => simp [BodyEnd.push]
    | unterminated content' => simp [BodyEnd.push]

end Dialect

end TemplateLexer
