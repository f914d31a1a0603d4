import TemplateLexer.Proofs.Run

/-!
# Text between constructs

The tokens of a source are constructs and texts. What stands between two constructs, before the
first or after the last, is a region. Here it is said which white space of a region is removed,
without the scanner's state: from the token before the region, the token after it, and the source.

* `IsRemovedAfter`, `IsRemovedBefore`: what a construct removes of the region after it and of the
  region before it.
* `tokenize_region`: a region is what the construct before it removes, the text of one token, and
  what the construct after it removes.
-/

namespace TemplateLexer

/-! ## Longest ends of a text -/

/-- `front` is the longest beginning of `text` that has only characters with property `p`. -/
structure IsLongestFront (p : Char → Bool) (text front : List Char) : Prop where
  isPrefix : front <+: text
  all : ∀ c ∈ front, p c = true
  longest : ∀ other, other <+: text → (∀ c ∈ other, p c = true) → other <+: front

/-- `back` is the longest end of `text` that has only characters with property `p`. -/
structure IsLongestBack (p : Char → Bool) (text back : List Char) : Prop where
  isSuffix : back <:+ text
  all : ∀ c ∈ back, p c = true
  longest : ∀ other, other <:+ text → (∀ c ∈ other, p c = true) → other <:+ back

theorem isLongestFront_takeWhile (p : Char → Bool) (text : List Char) :
    IsLongestFront p text (text.takeWhile p) where
  isPrefix := List.takeWhile_prefix p
  all := fun c hc => List.all_eq_true.1 List.all_takeWhile c hc
  longest := by
    rintro other ⟨rest, rfl⟩ hall
    rw [List.takeWhile_append_of_pos hall]
    exact List.prefix_append _ _

theorem isLongestBack_trailing (p : Char → Bool) (text : List Char) :
    IsLongestBack p text (trailing p text) := by
  have hfront := isLongestFront_takeWhile p text.reverse
  unfold trailing
  refine ⟨?_, fun c hc => hfront.all c (List.mem_reverse.1 hc), fun other hother hall => ?_⟩
  · rw [← List.reverse_prefix, List.reverse_reverse]
    exact hfront.isPrefix
  · rw [← List.reverse_prefix, List.reverse_reverse]
    exact hfront.longest _ (List.reverse_prefix.2 hother) fun c hc => hall c (List.mem_reverse.1 hc)

/-- Spaces and tabs with the line break after them. -/
def IsBlankLineEnd (text : List Char) : Prop :=
  ∃ blanks, (∀ c ∈ blanks, isInlineBlank c = true) ∧
    (text = blanks ++ ['\n'] ∨ text = blanks ++ ['\r', '\n'])

/-- Nothing stands before the next character on its line. -/
def BeginsLine (front : List Char) : Prop := front = [] ∨ front.getLast? = some '\n'

/-- `lead` is what the construct `previous` removes at the front of `rest`, which follows it. -/
def IsRemovedAfter (d : Dialect) (previous : Option Token) (rest lead : List Char) : Prop :=
  match previous with
  | none => lead = []
  | some t =>
    if t.isClosed && t.flags.trimAfter then IsLongestFront isBlank rest lead
    else if t.isClosed && t.kind == .tag && d.settings.spacing.trimBlocks && !t.flags.keepAfter then
      (IsBlankLineEnd lead ∧ lead <+: rest) ∨
        (lead = [] ∧ ∀ other, other <+: rest → ¬ IsBlankLineEnd other)
    else lead = []

/-- `tail` is what the construct `next` removes at the end of `text ++ tail`, which stands between
`front` and the construct. -/
def IsRemovedBefore (d : Dialect) (next : Option Token) (front text tail : List Char) : Prop :=
  match next with
  | none => tail = []
  | some t =>
    if t.isClosed && t.flags.trimBefore then IsLongestBack isBlank (text ++ tail) tail
    else if t.isClosed && t.kind == .tag && d.settings.spacing.lstripBlocks
        && !t.flags.keepBefore then
      ∃ kept blanks, kept ++ blanks = text ++ tail ∧
        IsLongestBack isInlineBlank (text ++ tail) blanks ∧
        (BeginsLine (front ++ kept) ∧ tail = blanks ∨ ¬ BeginsLine (front ++ kept) ∧ tail = [])
    else tail = []

/-! ## One region -/

/-- The split at the end of a line finds the blank line end, if the text starts with one. -/
theorem split_line (rest : List Char) :
    (IsBlankLineEnd (LeadTrim.line.split rest).1 ∧ (LeadTrim.line.split rest).1 <+: rest) ∨
      ((LeadTrim.line.split rest).1 = [] ∧ ∀ other, other <+: rest → ¬ IsBlankLineEnd other) := by
  have hblanks : ∀ c ∈ rest.takeWhile isInlineBlank, isInlineBlank c = true :=
    List.all_eq_true.1 List.all_takeWhile
  have hrest : rest.takeWhile isInlineBlank ++ rest.dropWhile isInlineBlank = rest :=
    List.takeWhile_append_dropWhile
  unfold LeadTrim.split
  dsimp only
  split
  · next rest' hdrop =>
    rw [hdrop] at hrest
    exact .inl ⟨⟨_, hblanks, .inl rfl⟩, rest', by rw [List.append_assoc]; exact hrest⟩
  · next rest' hdrop =>
    rw [hdrop] at hrest
    exact .inl ⟨⟨_, hblanks, .inr rfl⟩, rest', by rw [List.append_assoc]; exact hrest⟩
  · next hfeed hreturn =>
    refine .inr ⟨rfl, ?_⟩
    rintro other ⟨rest', rfl⟩ ⟨blanks, hall, rfl | rfl⟩
    · apply hfeed rest'
      rw [List.append_assoc, List.dropWhile_append_of_pos hall]
      rfl
    · apply hreturn rest'
      rw [List.append_assoc, List.dropWhile_append_of_pos hall]
      rfl

theorem isClosed_token_closed (d : Dialect) (m : Mark) (markup : Markup) (content : List Char) :
    (Construct.token d m (.closed markup content)).isClosed = true := by
  cases markup <;> rfl

/-- What a construct leaves to be removed is what its token says. -/
theorem isRemovedAfter_token (d : Dialect) (c : Construct) (m : Mark) (rest : List Char) :
    IsRemovedAfter d (some (c.token d m)) rest ((Carry.after d c).trim.split rest).1 := by
  cases c with
  | closed markup content =>
    simp only [IsRemovedAfter, isClosed_token_closed, Construct.kind_token, Construct.flags_token,
      Construct.kind, Construct.flags, Markup.kind_beq_tag, Bool.true_and, Carry.after]
    split
    · exact isLongestFront_takeWhile isBlank rest
    · split
      · exact split_line rest
      · rfl
  | openNote content => rfl
  | degraded markup content => rfl

/-- What a construct removes before it is what its token says. -/
theorem isRemovedBefore_token {d : Dialect} {c : Construct} {front text tail : List Char}
    (h : c.splitBefore d (startsLineAfter true front) (text ++ tail) = (text, tail)) (m : Mark) :
    IsRemovedBefore d (some (c.token d m)) front text tail := by
  cases c with
  | closed markup content =>
    simp only [IsRemovedBefore, isClosed_token_closed, Construct.kind_token, Construct.flags_token,
      Construct.kind, Construct.flags, Markup.kind_beq_tag, Bool.true_and]
    simp only [Construct.splitBefore, startsLineAfter_append] at h
    split
    · next htrim =>
      rw [if_pos htrim] at h
      have hlongest := isLongestBack_trailing isBlank (text ++ tail)
      rwa [(Prod.mk.inj h).2] at hlongest
    · next htrim =>
      rw [if_neg htrim] at h
      split
      · next hstrip =>
        refine ⟨_, _, trimEnd_append_trailing isInlineBlank (text ++ tail),
          isLongestBack_trailing isInlineBlank (text ++ tail), ?_⟩
        rw [BeginsLine, ← startsLineAfter_iff]
        rw [hstrip, Bool.true_and] at h
        split at h
        · next hline => exact .inl ⟨hline, (Prod.mk.inj h).2.symm⟩
        · next hline => exact .inr ⟨hline, (Prod.mk.inj h).2.symm⟩
      · next hstrip =>
        rw [Bool.not_eq_true] at hstrip
        rw [hstrip, Bool.false_and, if_neg Bool.false_ne_true] at h
        exact (Prod.mk.inj h).2.symm
  | openNote content => exact (Prod.mk.inj h).2.symm
  | degraded markup content => exact (Prod.mk.inj h).2.symm

/-- `texts` are the tokens between the constructs `previous` and `next`. They are at most one, and
its image is what the region keeps when both constructs have removed their part. -/
def IsRegion (d : Dialect) (source : List Char) (previous next : Option Token)
    (texts : List Token) : Prop :=
  ∃ front lead text tail back,
    source = front ++ (lead ++ text ++ tail) ++ back ∧
    utf8Size front = previous.elim 0 (fun t => t.span.stop) ∧
    utf8Size (front ++ (lead ++ text ++ tail))
      = next.elim (utf8Size source) (fun t => t.span.start) ∧
    IsRemovedAfter d previous (lead ++ text ++ tail ++ back) lead ∧
    IsRemovedBefore d next (front ++ lead) text tail ∧
    (text = [] ∧ texts = [] ∨
      text ≠ [] ∧ ∃ t, texts = [t] ∧ t.image = text ∧ t.span.start = utf8Size (front ++ lead))

/-! ## All regions -/

/-- The tokens of the text in a region, if that is not empty. -/
theorem ofText?_toList (front text : List Char) (flags : Flags) :
    (text = [] ∧ (Token.ofText? (.after front) text flags).toList = [] ∨
      text ≠ [] ∧ ∃ t, (Token.ofText? (.after front) text flags).toList = [t] ∧ t.image = text ∧
        t.span.start = utf8Size front) := by
  unfold Token.ofText?
  by_cases h : text = []
  · exact .inl ⟨h, by simp [h]⟩
  · exact .inr ⟨h, _, by simp [h]; rfl, rfl, by simp [Token.stamp]⟩

/-- The first region of a run. What the construct before it has left to be removed is what the run
starts with. -/
theorem Reads.isRegion {d : Dialect} {carry : Carry} {front rest : List Char}
    {texts after : List Token} (h : Reads d carry front rest (texts ++ after))
    (previous : Option Token)
    (hprevious : ∀ rest, IsRemovedAfter d previous rest (carry.trim.split rest).1)
    (hfront : utf8Size front = previous.elim 0 (fun t => t.span.stop))
    (htexts : ∀ t ∈ texts, t.isText = true) (hafter : ∀ t ∈ after.head?, t.isText = false) :
    IsRegion d (front ++ rest) previous after.head? texts := by
  generalize htokens : texts ++ after = tokens at h
  cases h with
  | @last _ _ lead text lead_split no_opening =>
    obtain rfl : after = [] := by
      cases after with
      | nil => rfl
      | cons t after =>
        have htext := isText_of_mem_ofText? (htokens ▸ List.mem_append_right texts
          List.mem_cons_self)
        rw [hafter t rfl] at htext
        cases htext
    have hlead := hprevious (lead ++ text)
    rw [lead_split] at hlead
    refine ⟨front, lead, text, [], [], by simp, hfront, by simp, by simpa using hlead, rfl, ?_⟩
    rw [List.append_nil] at htokens
    rw [htokens]
    exact ofText?_toList (front ++ lead) text (carry.textFlags true)
  | @next _ _ lead text tail markup body c rest tokens lead_split opening located tail_split
      reads =>
    have hkept : ∀ t ∈ (Token.ofText? (.after (front ++ lead)) text (carry.textFlags false)).toList,
        t.isText = true := fun t ht => isText_of_mem_ofText? ht
    have hconstruct := isText_token d (.after (front ++ (lead ++ text ++ tail))) c
    obtain ⟨rfl, rfl⟩ := texts_eq_of_append_eq htokens htexts hafter hkept hconstruct
    have hlead := hprevious (lead ++ text ++ tail ++ c.image d ++ rest)
    rw [lead_split] at hlead
    refine ⟨front, lead, text, tail, c.image d ++ rest, by simp, hfront, ?_, ?_, ?_, ?_⟩
    · simp
    · simpa using hlead
    · exact isRemovedBefore_token tail_split _
    · exact ofText?_toList (front ++ lead) text (carry.textFlags false)

/-- Between two constructs next to each other in the stream, before the first and after the last,
the source is what the first removes, the text of the one token that may stand there, and what the
second removes. -/
theorem tokenize_region (d : Dialect) {source : List Char} {before texts after : List Token}
    (htokens : tokenize d source = before ++ texts ++ after)
    (hbefore : ∀ t ∈ before.getLast?, t.isText = false)
    (htexts : ∀ t ∈ texts, t.isText = true)
    (hafter : ∀ t ∈ after.head?, t.isText = false) :
    IsRegion d source before.getLast? after.head? texts := by
  have hreads := reads_tokenize d source
  rcases List.eq_nil_or_concat before with rfl | ⟨before, t, rfl⟩
  · rw [htokens, List.nil_append] at hreads
    exact hreads.isRegion none (fun _ => rfl) rfl htexts hafter
  · rw [List.concat_eq_append, List.append_assoc, List.append_assoc, List.singleton_append]
      at htokens
    rw [List.concat_eq_append] at hbefore ⊢
    have ht : t.isText = false := hbefore t (by simp)
    obtain ⟨c, read, rest, hsource, rfl, hrest⟩ := hreads.after_construct htokens ht
    rw [List.nil_append] at hsource
    rw [hsource, List.getLast?_concat]
    exact hrest.isRegion _ (isRemovedAfter_token d c (.after read)) (by simp) htexts hafter

/-- A dialect that strips blanks around tags. -/
def Dialect.stripping : Dialect :=
  { Dialect.standard with
    settings := { spacing := { lstripBlocks := true, trimBlocks := true } }
    fault?_eq_none := by decide }

/-- Between the tag and the expression only the letter stays: the line of the tag is removed, and so
is the white space before the marker. -/
theorem tokenize_region_stripping : ∃ before texts after,
    tokenize .stripping "a\n  {% if x %} \nb {{- y }}".toList = before ++ texts ++ after ∧
    (∀ t ∈ before.getLast?, t.isText = false) ∧ (∀ t ∈ texts, t.isText = true) ∧
    (∀ t ∈ after.head?, t.isText = false) ∧ texts.map Token.image = [['b']] ∧
    IsRegion .stripping "a\n  {% if x %} \nb {{- y }}".toList before.getLast? after.head?
      texts := by
  generalize htokens : tokenize .stripping "a\n  {% if x %} \nb {{- y }}".toList = tokens
  have hsplit : tokens = tokens.take 2 ++ (tokens.drop 2).take 1 ++ tokens.drop 3 := by
    rw [List.append_assoc, ← List.drop_drop (i := 1) (j := 2), List.take_append_drop,
      List.take_append_drop]
  have hbefore : ∀ t ∈ (tokens.take 2).getLast?, t.isText = false := by
    rw [← htokens]
    decide +kernel
  have htexts : ∀ t ∈ (tokens.drop 2).take 1, t.isText = true := by
    rw [← htokens]
    decide +kernel
  have hafter : ∀ t ∈ (tokens.drop 3).head?, t.isText = false := by
    rw [← htokens]
    decide +kernel
  have himages : ((tokens.drop 2).take 1).map Token.image = [['b']] := by
    rw [← htokens]
    decide +kernel
  exact ⟨_, _, _, hsplit, hbefore, htexts, hafter, himages,
    tokenize_region .stripping (htokens.trans hsplit) hbefore htexts hafter⟩

end TemplateLexer
