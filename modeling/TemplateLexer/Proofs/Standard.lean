import TemplateLexer.Proofs.RawBlocks

/-!
# The standard delimiters

A dialect with the standard delimiters and the standard escape character may still have any
switches, any boundary and any precedence. What holds of all these dialects at once is collected
here: every delimiter has two characters, and none can be confused with the inside of an `endraw`
tag.
-/

namespace TemplateLexer

/-- The dialect has the standard delimiters and the standard escape character. -/
structure Dialect.UsesStandard (d : Dialect) : Prop where
  delimiters : d.settings.delimiters = {}
  escape : d.settings.escape = '\\'

namespace Dialect.UsesStandard

variable {d : Dialect} (hd : d.UsesStandard)
include hd

theorem opener_eq (markup : Markup) : d.opener markup = standard.opener markup := by
  rw [opener, pair, hd.delimiters]
  rfl

theorem closer_eq (markup : Markup) : d.closer markup = standard.closer markup := by
  rw [closer, pair, hd.delimiters]
  rfl

theorem length_opener (markup : Markup) : (d.opener markup).length = 2 := by
  rw [hd.opener_eq]
  cases markup <;> rfl

theorem length_closer (markup : Markup) : (d.closer markup).length = 2 := by
  rw [hd.closer_eq]
  cases markup <;> rfl

theorem endRawApart : d.EndRawApart := by
  intro text htext c hc
  rw [hd.closer_eq, hd.opener_eq, Dialect.escape, hd.escape] at htext
  simp only [List.mem_cons, List.not_mem_nil, or_false] at htext
  rcases htext with rfl | rfl | rfl <;> cases hc <;> exact ⟨rfl, rfl⟩

theorem closerApart : d.CloserApart := hd.endRawApart.closerApart

end Dialect.UsesStandard

theorem Dialect.standard_usesStandard : standard.UsesStandard := ⟨rfl, rfl⟩

end TemplateLexer
