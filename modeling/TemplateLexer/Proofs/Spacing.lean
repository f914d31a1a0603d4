import TemplateLexer.Proofs.Regions

/-!
# Switches for white space around tags

With the switches of a dialect off, white space around tags stays in the text unless a marker in the
source says otherwise. A switch that is on moves the ends of texts and nothing else. The two runs
over one source, with a switch off and on, are compared construct by construct: between two
constructs they may stand at different places, but no construct opens in the line break that one of
them skips, so they meet again at the next one.

* `Reads.exists_within`: a run is followed by one with more switches on.
* `tokenize_withSpacing`: the constructs of a source do not depend on the switches, and with more
  switches on every text is a part of what it was.
-/

namespace TemplateLexer

/-! ## Dialects that differ in the switches -/

/-- Every switch that is on in `s` is on in `t`. -/
structure TagSpacing.Within (s t : TagSpacing) : Prop where
  lstripBlocks : s.lstripBlocks = true → t.lstripBlocks = true
  trimBlocks : s.trimBlocks = true → t.trimBlocks = true

/-- The dialect with other switches for white space around tags. -/
def Dialect.withSpacing (d : Dialect) (s : TagSpacing) : Dialect :=
  { d with
    settings := { d.settings with spacing := s }
    fault?_eq_none := d.fault?_eq_none }

/-- No opener starts with a character of which blank line ends consist. -/
def Dialect.OpenersVisible (d : Dialect) : Prop :=
  ∀ markup, ∀ c ∈ (d.opener markup).head?, c ∉ [' ', '\t', '\r', '\n']

variable {d : Dialect} {s : TagSpacing}

theorem Dialect.nextOpening?_withSpacing (d : Dialect) (s : TagSpacing) (raw : Bool)
    (source : List Char) : (d.withSpacing s).nextOpening? raw source = d.nextOpening? raw source :=
  rfl

theorem Dialect.locate_withSpacing (d : Dialect) (s : TagSpacing) (markup : Markup)
    (body : List Char) : (d.withSpacing s).locate markup body = d.locate markup body :=
  locate_congr (show (d.withSpacing s).escape = d.escape from rfl) rfl rfl markup body

theorem Construct.token_withSpacing (d : Dialect) (s : TagSpacing) (m : Mark) (c : Construct) :
    c.token (d.withSpacing s) m = c.token d m := rfl

/-! ## A skipped line break -/

/-- What one of two runs may skip where the other one skips nothing. -/
def IsSkipped (skipped : List Char) : Prop := skipped = [] ∨ IsBlankLineEnd skipped

variable {skipped : List Char}

theorem IsSkipped.mem (h : IsSkipped skipped) {c : Char} (hc : c ∈ skipped) :
    c ∈ [' ', '\t', '\r', '\n'] := by
  rcases h with rfl | ⟨blanks, hblanks, hskipped⟩
  · cases hc
  · have hinline (hc : c ∈ blanks) : c = ' ' ∨ c = '\t' := by
      simpa [isInlineBlank] using hblanks c hc
    rcases hskipped with rfl | rfl <;> rcases List.mem_append.1 hc with hc | hc <;> grind

theorem IsSkipped.getLast? (h : IsSkipped skipped) {c : Char} (hc : c ∈ skipped.getLast?) :
    c = '\n' := by
  rcases h with rfl | ⟨blanks, -, rfl | rfl⟩
  · cases hc
  · simpa using hc.symm
  · simpa using hc.symm

theorem isSkipped_split_line (rest : List Char) : IsSkipped (LeadTrim.line.split rest).1 := by
  rcases split_line rest with ⟨hend, -⟩ | ⟨hnil, -⟩
  · exact .inr hend
  · exact .inl hnil

/-- No construct opens in a skipped line break. -/
theorem nextOpening?_of_isSkipped (hopeners : d.OpenersVisible) (h : IsSkipped skipped) (raw : Bool)
    (body : List Char) : d.nextOpening? raw (skipped ++ body)
      = (d.nextOpening? raw body).map fun o => { o with before := skipped ++ o.before } := by
  have hnone : ∀ back, back <:+ skipped → back ≠ [] → d.opensHere? raw (back ++ body) = none := by
    intro back hback hne
    cases hmarkup : d.opensHere? raw (back ++ body) with
    | none => rfl
    | some markup =>
      refine absurd ⟨_, Dialect.opener_append_drop hmarkup⟩ (Dialect.not_prefix_append_of_head?_ne
        (d.opener_ne_nil markup) hne fun c hc hhead => ?_)
      exact hopeners markup c hhead (h.mem (hback.mem hc))
  rw [Dialect.nextOpening?_eq, Dialect.nextOpening?_eq, firstPlace?_behind hnone, Option.map_map,
    Option.map_map]
  rfl

/-! ## One step -/

/-- The carry of a second run, with more switches on, after the same construct. -/
structure Carry.Within (carry carry' : Carry) : Prop where
  raw : carry'.raw = carry.raw
  trim : carry'.trim = carry.trim ∨ carry.trim = .none ∧ carry'.trim = .line

theorem Carry.Within.textFlags_eq {carry carry' : Carry} (h : carry.Within carry')
    (unterminated : Bool) : carry'.textFlags unterminated = carry.textFlags unterminated := by
  rw [textFlags, textFlags, h.raw]

theorem Carry.within_after (hs : d.settings.spacing.Within s) (c : Construct) :
    (Carry.after d c).Within (.after (d.withSpacing s) c) := by
  cases c with
  | closed markup content =>
    refine ⟨rfl, ?_⟩
    have htrim := hs.trimBlocks
    cases markup <;> simp only [after, Dialect.withSpacing] <;> grind
  | openNote content => exact ⟨rfl, .inl rfl⟩
  | degraded markup content => exact ⟨rfl, .inl rfl⟩

/-- The second run removes at the front what the first one removes, and may skip a line break. -/
theorem Carry.Within.split {carry carry' : Carry} (h : carry.Within carry')
    {source lead body : List Char} (hlead : carry.trim.split source = (lead, body)) :
    ∃ skipped body', IsSkipped skipped ∧ body = skipped ++ body' ∧
      carry'.trim.split source = (lead ++ skipped, body') := by
  rcases h.trim with htrim | ⟨hnone, hline⟩
  · exact ⟨[], body, .inl rfl, rfl, by rw [htrim, hlead, List.append_nil]⟩
  · rw [hnone] at hlead
    obtain ⟨rfl, rfl⟩ := Prod.mk.inj hlead
    exact ⟨_, _, isSkipped_split_line source, (LeadTrim.line.append_split source).symm,
      by rw [hline]; rfl⟩

/-- Behind a skipped line break, the second run keeps a part of the text before a construct. -/
theorem Construct.splitBefore_within (hs : d.settings.spacing.Within s) (h : IsSkipped skipped)
    {lineStart : Bool} {before text tail text' tail' : List Char} {c : Construct}
    (htail : c.splitBefore d lineStart (skipped ++ before) = (text, tail))
    (htail' : c.splitBefore (d.withSpacing s) (startsLineAfter lineStart skipped) before
      = (text', tail')) (hne : text' ≠ []) : skipped ++ text' <+: text := by
  have hinline : trimEnd isInlineBlank (skipped ++ before)
      = skipped ++ trimEnd isInlineBlank before :=
    trimEnd_append fun _ c hc => h.getLast? hc ▸ rfl
  have hpart : text' <+: before := by
    have hbefore :=
      c.append_splitBefore (d.withSpacing s) (startsLineAfter lineStart skipped) before
    rw [htail'] at hbefore
    exact ⟨tail', hbefore⟩
  have hwhole : skipped ++ text' <+: skipped ++ before := (List.prefix_append_right_inj _).2 hpart
  cases c with
  | closed markup content =>
    simp only [splitBefore] at htail htail'
    split at htail
    · next htrim =>
      rw [if_pos htrim] at htail'
      obtain ⟨rfl, -⟩ := Prod.mk.inj htail
      obtain ⟨rfl, -⟩ := Prod.mk.inj htail'
      have hblank : trimEnd isBlank (skipped ++ before) = skipped ++ trimEnd isBlank before :=
        trimEnd_append fun hnil => absurd hnil hne
      exact hblank ▸ List.prefix_refl _
    · next htrim =>
      rw [if_neg htrim] at htail'
      split at htail
      · next hstrip =>
        -- The first run strips the line, so the second one does, too.
        rw [hinline, ← startsLineAfter_append] at hstrip
        simp only [Bool.and_eq_true] at hstrip
        obtain ⟨⟨⟨htag, hon⟩, hkeep⟩, hline⟩ := hstrip
        obtain ⟨rfl, -⟩ := Prod.mk.inj htail
        have hon' : (d.withSpacing s).settings.spacing.lstripBlocks = true := hs.lstripBlocks hon
        rw [if_pos (by simp only [htag, hon', hkeep, hline, Bool.and_self])] at htail'
        obtain ⟨rfl, -⟩ := Prod.mk.inj htail'
        exact hinline ▸ List.prefix_refl _
      · obtain ⟨rfl, -⟩ := Prod.mk.inj htail
        exact hwhole
  | openNote content =>
    obtain ⟨rfl, -⟩ := Prod.mk.inj htail
    exact hwhole
  | degraded markup content =>
    obtain ⟨rfl, -⟩ := Prod.mk.inj htail
    exact hwhole

/-! ## Streams -/

/-- The text `t` is a part of the text `u` of the same sort. -/
def Token.IsPartOf (t u : Token) : Prop :=
  u.isText = true ∧ u.flags = t.flags ∧ u.span.start ≤ t.span.start ∧ t.span.stop ≤ u.span.stop

/-- The constructs of `tokens'` are those of `tokens`, and its texts are parts of texts there. -/
structure TrimsTo (tokens tokens' : List Token) : Prop where
  constructs : tokens'.filter (!·.isText) = tokens.filter (!·.isText)
  texts : ∀ t ∈ tokens', t.isText = true → ∃ u ∈ tokens, t.IsPartOf u

namespace TrimsTo

variable {tokens tokens' : List Token}

theorem cons (h : TrimsTo tokens tokens') {k : Token} (hk : k.isText = false) :
    TrimsTo (k :: tokens) (k :: tokens') where
  constructs := by simp [hk, h.constructs]
  texts := by
    intro t ht htext
    rcases List.mem_cons.1 ht with rfl | ht
    · rw [hk] at htext
      cases htext
    · obtain ⟨u, hu, hpart⟩ := h.texts t ht htext
      exact ⟨u, List.mem_cons_of_mem k hu, hpart⟩

theorem append {more more' : List Token} (h : TrimsTo tokens tokens') (hmore : TrimsTo more more') :
    TrimsTo (tokens ++ more) (tokens' ++ more') where
  constructs := by rw [List.filter_append, List.filter_append, h.constructs, hmore.constructs]
  texts := by
    intro t ht htext
    rcases List.mem_append.1 ht with ht | ht
    · obtain ⟨u, hu, hpart⟩ := h.texts t ht htext
      exact ⟨u, List.mem_append_left _ hu, hpart⟩
    · obtain ⟨u, hu, hpart⟩ := hmore.texts t ht htext
      exact ⟨u, List.mem_append_right _ hu, hpart⟩

/-- A part of a text is a part of its token. -/
theorem ofText? {front text text' : List Char} {carry : Carry} {unterminated : Bool}
    (hpart : text' ≠ [] → skipped ++ text' <+: text) :
    TrimsTo (Token.ofText? (.after front) text (carry.textFlags unterminated)).toList
      (Token.ofText? (.after (front ++ skipped)) text' (carry.textFlags unterminated)).toList where
  constructs := by
    rw [List.filter_eq_nil_iff.2, List.filter_eq_nil_iff.2] <;>
      exact fun t ht => by simp [isText_of_mem_ofText? ht]
  texts := by
    intro t ht htext
    obtain ⟨hne, rfl⟩ := Token.mem_ofText?.1 ht
    obtain ⟨rest, rfl⟩ := hpart hne
    refine ⟨_, Token.mem_ofText?.2 ⟨by simp [hne], rfl⟩, htext, rfl, ?_, ?_⟩
    · simp [Token.stamp]
    · simp only [Token.stamp, Mark.offset_after, utf8Size_append]
      omega

end TrimsTo

/-! ## Runs -/

/-- A run is followed by one with more switches on, construct by construct. By induction on the
run. -/
theorem Reads.exists_within (hopeners : d.OpenersVisible) (hs : d.settings.spacing.Within s)
    {carry carry' : Carry} {front rest : List Char} {tokens : List Token}
    (h : Reads d carry front rest tokens) (hcarry : carry.Within carry') :
    ∃ tokens', Reads (d.withSpacing s) carry' front rest tokens' ∧ TrimsTo tokens tokens' := by
  induction h generalizing carry' with
  | @last carry front lead text lead_split no_opening =>
    obtain ⟨skipped, text', hskipped, rfl, hsplit⟩ := hcarry.split lead_split
    rw [nextOpening?_of_isSkipped hopeners hskipped, Option.map_eq_none_iff, ← hcarry.raw]
      at no_opening
    rw [← List.append_assoc] at hsplit ⊢
    refine ⟨_, .last hsplit no_opening, ?_⟩
    rw [hcarry.textFlags_eq, ← List.append_assoc]
    exact .ofText? fun _ => List.prefix_refl _
  | @next carry front lead text tail markup body c rest tokens lead_split opening located tail_split
      reads ih =>
    obtain ⟨skipped, body', hskipped, hbody, hsplit⟩ := hcarry.split lead_split
    rw [hbody, nextOpening?_of_isSkipped hopeners hskipped, Option.map_eq_some_iff] at opening
    obtain ⟨⟨before', _, _⟩, hopening', hopening⟩ := opening
    obtain ⟨hbefore, rfl, rfl⟩ := Opening.mk.inj hopening
    rcases htail : c.splitBefore (d.withSpacing s)
      (startsLineAfter true (front ++ (lead ++ skipped))) before' with ⟨text', tail'⟩
    obtain rfl : text' ++ tail' = before' := by
      simpa [htail] using c.append_splitBefore (d.withSpacing s)
        (startsLineAfter true (front ++ (lead ++ skipped))) before'
    have hregion : lead ++ text ++ tail = lead ++ skipped ++ text' ++ tail' := by
      rw [List.append_assoc, ← hbefore]
      simp only [List.append_assoc]
    obtain rfl : body' = text' ++ tail' ++ c.image d ++ rest := by
      rw [← hbefore] at hbody
      simpa using hbody.symm
    have hpart (hne : text' ≠ []) : skipped ++ text' <+: text := by
      rw [← hbefore] at tail_split
      rw [← List.append_assoc, ← startsLineAfter_append] at htail
      exact c.splitBefore_within hs hskipped tail_split htail hne
    -- The second run finds the same construct at the same place, and both go on after it.
    obtain ⟨tokens', hreads, htrims⟩ := ih (Carry.within_after hs c)
    rw [hregion] at hsplit hreads
    rw [← hcarry.raw, ← d.nextOpening?_withSpacing s] at hopening'
    rw [← d.locate_withSpacing s] at located
    have hnext := Reads.next (d := d.withSpacing s) hsplit hopening' located htail hreads
    rw [hregion, ← Construct.token_withSpacing d s]
    refine ⟨_, hnext, ?_⟩
    rw [hcarry.textFlags_eq, ← List.append_assoc front lead skipped]
    exact (TrimsTo.ofText? hpart).append (htrims.cons (isText_token _ _ c))

/-- The stream with more switches on. -/
theorem trimsTo_withSpacing (hopeners : d.OpenersVisible) (hs : d.settings.spacing.Within s)
    (source : List Char) : TrimsTo (tokenize d source) (tokenize (d.withSpacing s) source) := by
  have hcarry : ({} : Carry).Within {} := ⟨rfl, .inl rfl⟩
  obtain ⟨tokens, hreads, htrims⟩ := (reads_tokenize d source).exists_within hopeners hs hcarry
  rw [hreads.eq_tokenizeFrom] at htrims
  exact htrims

/-- Switches for white space around tags do not change what is recognized. Whatever they are, the
constructs of a source are the same tokens at the same places. And with more switches on, every text
is a part of what it was. -/
theorem tokenize_withSpacing (hopeners : d.OpenersVisible) (s : TagSpacing) (source : List Char) :
    (tokenize (d.withSpacing s) source).filter (!·.isText)
      = (tokenize d source).filter (!·.isText) ∧
    (d.settings.spacing.Within s → ∀ t ∈ tokenize (d.withSpacing s) source, t.isText = true →
      ∃ u ∈ tokenize d source, t.IsPartOf u) := by
  refine ⟨?_, fun hs => (trimsTo_withSpacing hopeners hs source).texts⟩
  -- Both streams are compared with the one that has all switches off.
  have hoff : (d.withSpacing {}).OpenersVisible := hopeners
  have hnew := trimsTo_withSpacing (s := s) hoff ⟨nofun, nofun⟩ source
  have hold := trimsTo_withSpacing (s := d.settings.spacing) hoff ⟨nofun, nofun⟩ source
  exact hnew.constructs.trans hold.constructs.symm

/-- The line of the tag goes, and the tag and the ends of the two texts stay where they were. -/
theorem tokenize_withSpacing_standard :
    let source := "a\n  \x7b% b %\x7d \nc".toList
    let s : TagSpacing := { lstripBlocks := true, trimBlocks := true }
    let tokens := tokenize .standard source
    let tokens' := tokenize (Dialect.standard.withSpacing s) source
    tokens.map Token.image = ["a\n  ".toList, "\x7b% b %\x7d".toList, " \nc".toList] ∧
      tokens'.map Token.image = ["a\n".toList, "\x7b% b %\x7d".toList, "c".toList] ∧
      tokens'.filter (!·.isText) = tokens.filter (!·.isText) ∧
      ∀ t ∈ tokens', t.isText = true → ∃ u ∈ tokens, t.IsPartOf u := by
  intro source s tokens tokens'
  have hopeners : Dialect.standard.OpenersVisible := by
    intro markup c hc
    cases markup <;> cases hc <;> decide
  obtain ⟨hconstructs, hparts⟩ := tokenize_withSpacing hopeners s source
  exact ⟨by decide +kernel, by decide +kernel, hconstructs, hparts ⟨fun _ => rfl, fun _ => rfl⟩⟩

end TemplateLexer
