import RelQuery.Text

/-!
# Replacing a pattern

A text in which the pattern does not occur stays as it is (`replaceAll_of_not_infix`). When the
characters of the pattern count and those of the replacement do not, a text in which the pattern
does occur has fewer characters that count afterwards (`countP_replaceAll_lt`).

A mark that is put in for the pattern parts the text: a word without the mark occurs only on one
side of it (`infix_append_cons_iff`). So the pattern is gone (`not_infix_replaceAll`) and no other
word has come up (`infix_of_infix_replaceAll`). A mark that is in the text already and not in the
pattern parts the text too: each side is replaced in by itself (`replaceAll_append_cons`).
-/

namespace RelQuery.Text

variable {pattern replacement text word left right : Text} {counts : Char → Bool} {mark : Char}
variable {skip : Nat}

/-- Where the pattern begins it is replaced and skipped. -/
theorem replaceFrom_of_isPrefix {c : Char} (h : pattern <+: c :: text) :
    replaceFrom pattern replacement 0 (c :: text) =
      replacement ++ replaceFrom pattern replacement (pattern.length - 1) text := by
  rw [replaceFrom, if_pos (List.isPrefixOf_iff_prefix.2 h)]

/-- Elsewhere a character stays. -/
theorem replaceFrom_of_not_isPrefix {c : Char} (h : ¬ pattern <+: c :: text) :
    replaceFrom pattern replacement 0 (c :: text) =
      c :: replaceFrom pattern replacement 0 text := by
  rw [replaceFrom, if_neg (mt List.isPrefixOf_iff_prefix.1 h)]

/-- There is nothing to replace in a text in which the pattern does not occur. -/
theorem replaceAll_of_not_infix (h : ¬ pattern <:+: text) :
    replaceAll pattern replacement text = text := by
  rw [replaceAll]
  induction text with
  | nil => rfl
  | cons c text ih =>
      rw [List.infix_cons_iff, not_or] at h
      rw [replaceFrom_of_not_isPrefix h.1, ih h.2]

/-- A pattern at the beginning of a text is passed over from its second character on. -/
theorem countP_of_isPrefix (counts : Char → Bool) {c : Char} (hne : pattern ≠ [])
    (h : pattern <+: c :: text) :
    (c :: text).countP counts =
      pattern.countP counts + (text.drop (pattern.length - 1)).countP counts := by
  obtain ⟨rest, hrest⟩ := h
  obtain ⟨d, tail, rfl⟩ := List.exists_cons_of_ne_nil hne
  obtain ⟨rfl, rfl⟩ := List.cons_eq_cons.1 hrest
  simp [List.countP_append, List.countP_cons, Nat.add_right_comm]

/-- No replacement adds a character that counts. -/
theorem countP_replaceFrom_le (hne : pattern ≠ []) (hreplacement : replacement.countP counts = 0)
    (skip : Nat) :
    (replaceFrom pattern replacement skip text).countP counts ≤ (text.drop skip).countP counts := by
  induction text generalizing skip with
  | nil => simp [replaceFrom]
  | cons c text ih =>
      cases skip with
      | succ skip => exact ih skip
      | zero =>
          by_cases h : pattern <+: c :: text
          · have htext := countP_of_isPrefix counts hne h
            have hrest := ih (pattern.length - 1)
            rw [replaceFrom_of_isPrefix h, List.countP_append, List.drop_zero]
            omega
          · have hrest := ih 0
            rw [replaceFrom_of_not_isPrefix h, List.drop_zero, List.countP_cons,
              List.countP_cons]
            exact Nat.add_le_add_right hrest _

/-- Replacing adds nothing that counts if the replacement does not count. -/
theorem countP_replaceAll_le (hne : pattern ≠ []) (hreplacement : replacement.countP counts = 0) :
    (replaceAll pattern replacement text).countP counts ≤ text.countP counts :=
  countP_replaceFrom_le hne hreplacement 0

/-- Where the pattern occurs some of its characters are lost. -/
theorem countP_replaceAll_lt (hpattern : 0 < pattern.countP counts)
    (hreplacement : replacement.countP counts = 0) (h : pattern <:+: text) :
    (replaceAll pattern replacement text).countP counts < text.countP counts := by
  have hne : pattern ≠ [] := by
    rintro rfl
    cases hpattern
  rw [replaceAll]
  induction text with
  | nil => exact absurd (List.infix_nil.1 h) hne
  | cons c text ih =>
      by_cases hprefix : pattern <+: c :: text
      · have htext := countP_of_isPrefix counts hne hprefix
        rw [replaceFrom_of_isPrefix hprefix, List.countP_append, htext, hreplacement, Nat.zero_add]
        exact Nat.lt_of_le_of_lt (countP_replaceFrom_le hne hreplacement _)
          (Nat.lt_add_of_pos_left hpattern)
      · have hrest := ih ((List.infix_cons_iff.1 h).resolve_left hprefix)
        rw [replaceFrom_of_not_isPrefix hprefix, List.countP_cons, List.countP_cons]
        exact Nat.add_lt_add_right hrest _

/-! ## Marks -/

/-- No word without the mark begins at the mark. -/
theorem eq_nil_of_prefix_mark (hmark : mark ∉ word) (h : word <+: mark :: text) : word = [] := by
  cases word with
  | nil => rfl
  | cons w word =>
      obtain ⟨rfl, -⟩ := List.cons_prefix_cons.1 h
      exact absurd List.mem_cons_self hmark

/-- A word without the mark occurs behind the mark or not at all. -/
theorem infix_mark_cons_iff (hmark : mark ∉ word) : word <:+: mark :: right ↔ word <:+: right := by
  rw [List.infix_cons_iff]
  refine ⟨fun h => ?_, .inr⟩
  obtain hbegins | hright := h
  · rw [eq_nil_of_prefix_mark hmark hbegins]
    exact List.nil_infix
  · exact hright

/-- A word without the mark lies on one side of the mark. -/
theorem infix_append_cons_iff (hmark : mark ∉ word) :
    word <:+: left ++ mark :: right ↔ word <:+: left ∨ word <:+: right := by
  rw [List.infix_append_iff, infix_mark_cons_iff hmark]
  constructor
  · intro h
    obtain hleft | hright | ⟨front, back, rfl, hfront, hback⟩ := h
    · exact .inl hleft
    · exact .inr hright
    · -- Of a word on both sides the part behind the seam would begin at the mark.
      have hseam : mark ∉ back := fun hmem => hmark (List.mem_append_right front hmem)
      rw [eq_nil_of_prefix_mark hseam hback, List.append_nil]
      exact .inl hfront.isInfix
  · intro h
    exact h.imp_right .inl

/-- A word without the mark at the beginning of a text was there before the mark was put in. -/
theorem prefix_of_prefix_replaceFrom (hmark : mark ∉ word)
    (h : word <+: replaceFrom pattern [mark] skip text) : word <+: text.drop skip := by
  induction text generalizing word skip with
  | nil => simpa [replaceFrom] using h
  | cons c text ih =>
      cases skip with
      | succ skip => exact ih hmark h
      | zero =>
          by_cases hpattern : pattern <+: c :: text
          · rw [replaceFrom_of_isPrefix hpattern] at h
            rw [eq_nil_of_prefix_mark hmark h]
            exact List.nil_prefix
          · rw [replaceFrom_of_not_isPrefix hpattern] at h
            cases word with
            | nil => exact List.nil_prefix
            | cons w word =>
                obtain ⟨rfl, hrest⟩ := List.cons_prefix_cons.1 h
                have hword : mark ∉ word := fun hmem => hmark (List.mem_cons_of_mem _ hmem)
                exact List.cons_prefix_cons.2 ⟨rfl, ih hword hrest⟩

/-- So where the pattern does not begin, nothing else begins there afterwards. -/
theorem prefix_of_prefix_cons (hmark : mark ∉ word) {c : Char} (hpattern : ¬ pattern <+: c :: text)
    (h : word <+: c :: replaceFrom pattern [mark] 0 text) : word <+: c :: text := by
  rw [← replaceFrom_of_not_isPrefix hpattern] at h
  exact prefix_of_prefix_replaceFrom hmark h

/-- No word without the mark comes up when the mark is put in. -/
theorem infix_of_infix_replaceFrom (hmark : mark ∉ word)
    (h : word <:+: replaceFrom pattern [mark] skip text) : word <:+: text.drop skip := by
  induction text generalizing skip with
  | nil => simpa [replaceFrom] using h
  | cons c text ih =>
      cases skip with
      | succ skip => exact ih h
      | zero =>
          have hbehind {skip : Nat} (h : word <:+: replaceFrom pattern [mark] skip text) :
              word <:+: c :: text := by
            have hdrop : text.drop skip <:+ c :: text :=
              (List.drop_suffix skip text).trans (List.suffix_cons c text)
            exact (ih h).trans hdrop.isInfix
          by_cases hpattern : pattern <+: c :: text
          · rw [replaceFrom_of_isPrefix hpattern, List.singleton_append,
              infix_mark_cons_iff hmark] at h
            exact hbehind h
          · rw [replaceFrom_of_not_isPrefix hpattern, List.infix_cons_iff] at h
            obtain hbegins | hrest := h
            · exact (prefix_of_prefix_cons hmark hpattern hbegins).isInfix
            · exact hbehind hrest

/-- A word without the mark that occurs afterwards has occurred before: it lies between two marks.
-/
theorem infix_of_infix_replaceAll (hmark : mark ∉ word)
    (h : word <:+: replaceAll pattern [mark] text) : word <:+: text :=
  infix_of_infix_replaceFrom hmark h

/-- A pattern that marks have been put in for does not occur any more. -/
theorem not_infix_replaceFrom (hne : pattern ≠ []) (hmark : mark ∉ pattern) :
    ¬ pattern <:+: replaceFrom pattern [mark] skip text := by
  intro h
  induction text generalizing skip with
  | nil => exact hne (by simpa [replaceFrom] using h)
  | cons c text ih =>
      cases skip with
      | succ skip => exact ih h
      | zero =>
          by_cases hpattern : pattern <+: c :: text
          · rw [replaceFrom_of_isPrefix hpattern, List.singleton_append,
              infix_mark_cons_iff hmark] at h
            exact ih h
          · rw [replaceFrom_of_not_isPrefix hpattern, List.infix_cons_iff] at h
            obtain hbegins | hrest := h
            · exact hpattern (prefix_of_prefix_cons hmark hpattern hbegins)
            · exact ih hrest

/-- The pattern does not occur afterwards. -/
theorem not_infix_replaceAll (hne : pattern ≠ []) (hmark : mark ∉ pattern) :
    ¬ pattern <:+: replaceAll pattern [mark] text :=
  not_infix_replaceFrom hne hmark

/-! ## Both sides of a mark -/

/-- A word without the mark ends in front of it. -/
theorem prefix_append_cons_iff (hmark : mark ∉ word) :
    word <+: left ++ mark :: right ↔ word <+: left := by
  refine ⟨?_, fun h => h.trans (List.prefix_append _ _)⟩
  rintro ⟨rest, hrest⟩
  obtain ⟨middle, rfl, -⟩ | ⟨middle, rfl, hmiddle⟩ := List.append_eq_append_iff.1 hrest
  · exact List.prefix_append _ _
  · have hbehind : middle <+: mark :: right := ⟨rest, hmiddle.symm⟩
    have hmiddle : mark ∉ middle := fun hmem => hmark (List.mem_append_right _ hmem)
    simp [eq_nil_of_prefix_mark hmiddle hbehind]

/-- Nothing is replaced across a character that the pattern does not have. -/
theorem replaceFrom_append_cons (hne : pattern ≠ []) (hmark : mark ∉ pattern)
    (hskip : skip ≤ left.length) :
    replaceFrom pattern replacement skip (left ++ mark :: right) =
      replaceFrom pattern replacement skip left ++
        mark :: replaceFrom pattern replacement 0 right := by
  induction left generalizing skip with
  | nil =>
      obtain rfl := Nat.le_zero.1 hskip
      have hbegins : ¬ pattern <+: mark :: right := fun h => hne (eq_nil_of_prefix_mark hmark h)
      exact replaceFrom_of_not_isPrefix hbegins
  | cons c left ih =>
      cases skip with
      | succ skip => exact ih (Nat.le_of_succ_le_succ hskip)
      | zero =>
          have hsame : pattern <+: c :: left ++ mark :: right ↔ pattern <+: c :: left :=
            prefix_append_cons_iff hmark
          rw [List.cons_append] at hsame ⊢
          by_cases hpattern : pattern <+: c :: left
          · -- All characters to be passed over are in front of the mark.
            have hlength : pattern.length - 1 ≤ left.length := by
              have := hpattern.length_le
              rw [List.length_cons] at this
              omega
            rw [replaceFrom_of_isPrefix hpattern, replaceFrom_of_isPrefix (hsame.2 hpattern),
              ih hlength, List.append_assoc]
          · rw [replaceFrom_of_not_isPrefix hpattern,
              replaceFrom_of_not_isPrefix (mt hsame.1 hpattern), ih (Nat.zero_le _),
              List.cons_append]

/-- Nothing that is replaced reaches over a mark that is not in the pattern. -/
theorem replaceAll_append_cons (hne : pattern ≠ []) (hmark : mark ∉ pattern) :
    replaceAll pattern replacement (left ++ mark :: right) =
      replaceAll pattern replacement left ++ mark :: replaceAll pattern replacement right :=
  replaceFrom_append_cons hne hmark (Nat.zero_le _)

/-- Something is left of a text that has something in it. -/
theorem replaceAll_ne_nil (hreplacement : replacement ≠ []) (h : text ≠ []) :
    replaceAll pattern replacement text ≠ [] := by
  obtain ⟨c, rest, rfl⟩ := List.exists_cons_of_ne_nil h
  by_cases hpattern : pattern <+: c :: rest
  · rw [replaceAll, replaceFrom_of_isPrefix hpattern]
    exact List.append_ne_nil_of_left_ne_nil hreplacement _
  · rw [replaceAll, replaceFrom_of_not_isPrefix hpattern]
    exact List.cons_ne_nil _ _

end RelQuery.Text
