import Mathlib.Data.List.Basic
import TemplateLexer.Proofs.Offsets
import TemplateLexer.Text.Quoted.Reading

/-!
# Descriptions of tokens

A description shows the kind of a token, its position and the beginning of its content in quotes,
with dots behind if there is more of it. Each part is written so that it can be seen where it ends:
no name of a kind has an `@` in it, no number a colon or a space, and the quoted text has its closing
quote.

* `Token.render_eq_iff`: two tokens have the same description if the descriptions show the same.
* `Token.describe_eq`: the shown part of the content is cut off between two characters.
* `Token.render_lossless`: what can be told from a description, for short and for long contents.
-/

namespace TemplateLexer

/-- A text that is divided at its first `k` is divided in one way. -/
theorem append_cons_inj {k : Char} {front front' rest rest' : List Char} (hk : k ∉ front)
    (hk' : k ∉ front') :
    front ++ k :: rest = front' ++ k :: rest' ↔ front = front' ∧ rest = rest' := by
  constructor
  · intro h
    have hpos : ∀ c ∈ front, (c != k) = true := fun c hc => by
      simpa using fun heq : c = k => hk (heq ▸ hc)
    have hpos' : ∀ c ∈ front', (c != k) = true := fun c hc => by
      simpa using fun heq : c = k => hk' (heq ▸ hc)
    have htake := congrArg (List.takeWhile (· != k)) h
    rw [List.takeWhile_append_of_pos hpos, List.takeWhile_append_of_pos hpos'] at htake
    obtain rfl : front = front' := by simpa using htake
    exact ⟨rfl, (List.cons.inj (List.append_cancel_left h)).2⟩
  · rintro ⟨rfl, rfl⟩
    rfl

/-! ## The parts of a description -/

theorem Kind.at_not_mem_name (k : Kind) : '@' ∉ k.name.toList := by cases k <;> decide

theorem Kind.toList_name_inj {k k' : Kind} : k.name.toList = k'.name.toList ↔ k = k' := by
  cases k <;> cases k' <;> decide

theorem not_mem_toDigits {c : Char} (hc : c.isDigit = false) (n : Nat) : c ∉ Nat.toDigits 10 n :=
  fun hmem => by simp [Nat.isDigit_of_mem_toDigits (by decide) (by decide) hmem] at hc

theorem toDigits_inj {m n : Nat} : Nat.toDigits 10 m = Nat.toDigits 10 n ↔ m = n := by
  refine ⟨fun h => ?_, fun h => h ▸ rfl⟩
  have hvalue := congrArg (Nat.ofDigitChars 10 · 0) h
  simpa [Nat.ofDigitChars_ten_toDigits] using hvalue

theorem Position.render_inj {p q : Position} : p.render = q.render ↔ p = q := by
  rw [render, render, append_cons_inj (not_mem_toDigits rfl _) (not_mem_toDigits rfl _),
    toDigits_inj, toDigits_inj, Position.mk.injEq]

theorem Position.space_not_mem_render (p : Position) : ' ' ∉ p.render := by
  simp [render, not_mem_toDigits]

namespace Token

variable {t u : Token}

/-- Two descriptions are the same if they show the same kind, position and text, and both say that
there is more or neither does. -/
theorem render_eq_iff :
    t.render = u.render ↔ t.kind = u.kind ∧ t.position = u.position ∧
      t.content.take shownLength = u.content.take shownLength ∧
      (shownLength < t.content.length ↔ shownLength < u.content.length) := by
  simp only [render, List.append_assoc, List.cons_append]
  rw [append_cons_inj t.kind.at_not_mem_name u.kind.at_not_mem_name, Kind.toList_name_inj,
    append_cons_inj t.position.space_not_mem_render u.position.space_not_mem_render,
    Position.render_inj, Quoted.encode_append_inj]
  by_cases ht : shownLength < t.content.length <;>
    by_cases hu : shownLength < u.content.length <;> simp [ht, hu]

/-- A description ends in dots if the content goes on. Otherwise it ends in the closing quote. -/
theorem dots_suffix_render_iff :
    ['.', '.', '.'] <:+ t.render ↔ shownLength < t.content.length := by
  unfold render
  constructor
  · rintro ⟨front, h⟩
    by_contra hlength
    have hlast := congrArg List.getLast? h
    rw [if_neg hlength, List.append_nil, Quoted.encode, ← List.cons_append, ← List.append_assoc,
      List.getLast?_concat] at hlast
    simp at hlast
  · intro hlength
    rw [if_pos hlength]
    exact List.suffix_append _ _

/-- Dots of the content itself stand in front of the closing quote. -/
example : (stamp .start .note "\x7b# \"...#\x7d".toList " \"...".toList {}).render =
    "note@1:0 \" \\\"...\"".toList := by decide +kernel

/-! ## Cutting off -/

/-- The offset in bytes of the `n`-th character of a text, counted from 0, if there is one. -/
def charOffset? : Nat → List Char → Option Nat
  | _, [] => none
  | 0, _ :: _ => some 0
  | n + 1, c :: text => (charOffset? n text).map (c.utf8Size + ·)

theorem charOffset?_eq (n : Nat) (text : List Char) :
    charOffset? n text = if n < text.length then some (utf8Size (text.take n)) else none := by
  induction text generalizing n with
  | nil => cases n <;> rfl
  | cons c text ih =>
    cases n with
    | zero => rfl
    | succ n =>
      rw [charOffset?, ih]
      by_cases h : n < text.length <;> simp [h]

/-- The description of a token whose content is cut at the offset of the first character that is not
shown. -/
def describe (t : Token) : Except Breach (List Char) := do
  let front := t.kind.name.toList ++ '@' :: t.position.render ++ [' ']
  match charOffset? shownLength t.content with
  | some cut =>
    let shown ← slice t.content 0 cut
    return front ++ Quoted.encode shown ++ ['.', '.', '.']
  | none => return front ++ Quoted.encode t.content

/-- The cut is never inside a character. -/
theorem describe_eq (t : Token) : t.describe = .ok t.render := by
  unfold describe render
  rw [charOffset?_eq]
  by_cases h : shownLength < t.content.length
  · have hslice : slice t.content 0 (utf8Size (t.content.take shownLength)) =
        .ok (t.content.take shownLength) :=
      slice_eq_ok_iff.2 ⟨[], t.content.drop shownLength, by simp, rfl, Nat.zero_add _⟩
    simp [h, hslice, bind, Except.bind, pure, Except.pure]
  · simp [h, pure, Except.pure, List.take_of_length_le (Nat.not_lt.1 h)]

/-! ## What a description tells -/

/-- A description is cut between two characters, and dots at its end say that it was cut. It tells
the kind and the position of a token and its content, or the first 32 characters of a longer
content, and no more than this. -/
theorem render_lossless (t u : Token) :
    t.describe = .ok t.render ∧
    (['.', '.', '.'] <:+ t.render ↔ 32 < t.content.length) ∧
    (t.content.length ≤ 32 → u.content.length ≤ 32 → (t.render = u.render ↔
      t.kind = u.kind ∧ t.position = u.position ∧ t.content = u.content)) ∧
    (32 < t.content.length → 32 < u.content.length → (t.render = u.render ↔
      t.kind = u.kind ∧ t.position = u.position ∧ t.content.take 32 = u.content.take 32)) := by
  refine ⟨t.describe_eq, dots_suffix_render_iff, fun ht hu => ?_, fun ht hu => ?_⟩
  · rw [render_eq_iff, shownLength, List.take_of_length_le ht, List.take_of_length_le hu]
    simp [Nat.not_lt.2 ht, Nat.not_lt.2 hu]
  · rw [render_eq_iff, shownLength]
    simp [ht, hu]

/-- A line feed and a backslash before the letter `n` are not described alike. What follows 32
letters is not seen. -/
theorem render_lossless_line_feed :
    let literal (text : List Char) := stamp .start .fixed text text {}
    (literal ['\n']).render ≠ (literal ['\\', 'n']).render ∧
      (literal (.replicate 32 'é' ++ ['a'])).render =
        (literal (.replicate 32 'é' ++ ['"'])).render := by
  intro literal
  obtain ⟨-, -, hshort, -⟩ := render_lossless (literal ['\n']) (literal ['\\', 'n'])
  obtain ⟨-, -, -, hlong⟩ := render_lossless (literal (.replicate 32 'é' ++ ['a']))
    (literal (.replicate 32 'é' ++ ['"']))
  refine ⟨fun h => ?_, (hlong (by decide) (by decide)).2 ⟨rfl, rfl, rfl⟩⟩
  have hcontent := ((hshort (by decide) (by decide)).1 h).2.2
  exact absurd hcontent (by decide)

end Token

end TemplateLexer
