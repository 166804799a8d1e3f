import RelQuery.Proofs.Condition.Apart

/-!
# Quotes that are closed

Of a text in which every quote is closed, a reader leaves such a text: the parts that are read have
no quotes, or they are text between quotes and have both of them (`Passes`). So a reader that goes
through such a text part by part does not come to its end within text between quotes.
-/

namespace RelQuery.Condition

/-- The quote that is open behind a text when `quote?` is open in front of it. -/
def openQuote : (quote? : Option Char) → Text → Option Char
  | quote?, [] => quote?
  | some quote, c :: text => openQuote (if c = quote then none else some quote) text
  | none, c :: text => openQuote (if c = '\'' ∨ c = '"' then some c else none) text

/-- Every quote that is opened in the text is closed in it. -/
def Unquoted (text : Text) : Prop :=
  openQuote none text = none

/-- Decided by going through the text. -/
instance (text : Text) : Decidable (Unquoted text) :=
  inferInstanceAs (Decidable (_ = _))

/-- What is in front of `rest` in the text has no quote that it does not close. -/
def Skips (text rest : Text) : Prop :=
  ∃ part, text = part ++ rest ∧ Unquoted part

/-- And there is something in front of `rest`. -/
structure Passes (text rest : Text) : Prop where
  skips : Skips text rest
  length_lt : rest.length < text.length

variable {text rest part body run : Text} {c quote : Char} {quote? : Option Char}
variable {operand : Operand} {value : Literal} {op : Comparison}

/-! ## Quotes -/

/-- The quote that is open behind the first text is open in front of the second. -/
theorem openQuote_append : openQuote quote? (part ++ rest) =
    openQuote (openQuote quote? part) rest := by
  induction part generalizing quote? with
  | nil => cases quote? <;> rfl
  | cons c part ih => cases quote? <;> exact ih

/-- In front of the second text none is open if the first one closes its own. -/
theorem Unquoted.append_iff (h : Unquoted part) : Unquoted (part ++ rest) ↔ Unquoted rest := by
  rw [Unquoted, Unquoted, openQuote_append, h]

/-- A quote stays open up to the next one of its kind. -/
theorem openQuote_of_not_mem (h : quote ∉ body) : openQuote (some quote) body = some quote := by
  induction body with
  | nil => rfl
  | cons c body ih =>
      obtain ⟨hne, hbody⟩ : quote ≠ c ∧ quote ∉ body := by simpa using h
      rw [openQuote, if_neg (Ne.symm hne), ih hbody]

/-- Text between quotes closes the quote that it opens. -/
theorem unquoted_quoted (hquote : quote = '\'' ∨ quote = '"') (hbody : quote ∉ body) :
    Unquoted (quote :: body ++ [quote]) := by
  rw [Unquoted, List.cons_append, openQuote, if_pos hquote, openQuote_append,
    openQuote_of_not_mem hbody, openQuote, if_pos rfl, openQuote]

/-- The quote that a text begins with is closed in the text. -/
theorem Unquoted.mem (hquote : quote = '\'' ∨ quote = '"') (h : Unquoted (quote :: text)) :
    quote ∈ text := by
  by_contra hmem
  rw [Unquoted, openQuote, if_pos hquote, openQuote_of_not_mem hmem] at h
  cases h

/-- Without quotes there is none to close. -/
theorem unquoted_of_all (h : text.all fun c => c ≠ '\'' && c ≠ '"') : Unquoted text := by
  induction text with
  | nil => rfl
  | cons c text ih =>
      simp only [List.all_cons, Bool.and_eq_true, decide_eq_true_eq] at h
      rw [Unquoted, openQuote, if_neg (not_or.2 h.1)]
      exact ih h.2

/-- There are none in a word. -/
theorem unquoted_of_isWordChar (h : run.all isWordChar) : Unquoted run := by
  refine unquoted_of_all (List.all_eq_true.2 fun c hc => ?_)
  have hword := List.all_eq_true.1 h c hc
  have hsingle : c ≠ '\'' := ne_of_isWordChar hword (isWordChar_of_mem (by decide))
  have hdouble : c ≠ '"' := ne_of_isWordChar hword (isWordChar_of_mem (by decide))
  simp [hsingle, hdouble]

/-! ## Parts that are read -/

/-- Going past one part and then another is going past both. -/
theorem Skips.trans {behind : Text} (h : Skips text rest) (h' : Skips rest behind) :
    Skips text behind := by
  obtain ⟨part, rfl, hpart⟩ := h
  obtain ⟨next, rfl, hnext⟩ := h'
  exact ⟨part ++ next, (List.append_assoc ..).symm, hpart.append_iff.2 hnext⟩

/-- What is behind a part is no longer than all. -/
theorem Skips.length_le (h : Skips text rest) : rest.length ≤ text.length := by
  obtain ⟨part, rfl, -⟩ := h
  simp

/-- A text without open quotes in front is passed if it is not empty. -/
theorem passes_append (hne : part ≠ []) (hpart : Unquoted part) : Passes (part ++ rest) rest := by
  have hpos := List.length_pos_iff.2 hne
  refine ⟨⟨part, rfl, hpart⟩, ?_⟩
  rw [List.length_append]
  omega

/-- Behind what was passed more may be skipped. -/
theorem Passes.trans {behind : Text} (h : Passes text rest) (h' : Skips rest behind) :
    Passes text behind :=
  ⟨h.skips.trans h', Nat.lt_of_le_of_lt h'.length_le h.length_lt⟩

/-- In front of what is passed more may be skipped. -/
theorem Skips.trans_passes {behind : Text} (h : Skips text rest) (h' : Passes rest behind) :
    Passes text behind :=
  ⟨h.trans h'.skips, Nat.lt_of_lt_of_le h'.length_lt h.length_le⟩

/-- Blanks are no quotes. -/
theorem skips_dropWhile {kind : Char → Bool} (hkind : ∀ c, kind c → Text.isBlank c) :
    Skips text (text.dropWhile kind) := by
  refine ⟨text.takeWhile kind, List.takeWhile_append_dropWhile.symm,
    unquoted_of_all (List.all_eq_true.2 fun c hc => ?_)⟩
  have hblank := hkind c (List.all_eq_true.1 List.all_takeWhile c hc)
  have hsingle : c ≠ '\'' := fun h => nomatch h ▸ hblank
  have hdouble : c ≠ '"' := fun h => nomatch h ▸ hblank
  simp [hsingle, hdouble]

/-- Skipping blanks goes past blanks only. -/
theorem skips_skipSpace : Skips text (skipSpace text) :=
  skips_dropWhile fun _ => isBlank_of_isSpace

/-- A run of a kind of word characters that the text begins with is passed. -/
theorem passes_dropWhile {kind : Char → Bool} (hkind : ∀ c, kind c → isWordChar c)
    (h : text.head?.any kind) : Passes text (text.dropWhile kind) := by
  obtain ⟨c, hc, hkindc⟩ := (Option.any_eq_true _ _).1 h
  obtain ⟨tail, rfl⟩ := List.head?_eq_some_iff.1 hc
  have hne : (c :: tail).takeWhile kind ≠ [] := by
    rw [List.takeWhile_cons_of_pos hkindc]
    exact List.cons_ne_nil _ _
  have hrun : ((c :: tail).takeWhile kind).all isWordChar :=
    List.all_eq_true.2 fun d hd => hkind d (List.all_eq_true.1 List.all_takeWhile d hd)
  have hpasses : Passes ((c :: tail).takeWhile kind ++ (c :: tail).dropWhile kind)
      ((c :: tail).dropWhile kind) := passes_append hne (unquoted_of_isWordChar hrun)
  rwa [List.takeWhile_append_dropWhile] at hpasses

/-- A sign without quotes is passed. -/
theorem strip?_passes {sign : Text} (hne : sign ≠ []) (hsign : sign.all fun c => c ≠ '\'' && c ≠ '"')
    (h : Text.strip? sign text = some rest) : Passes text rest := by
  obtain rfl := strip?_eq_some h
  exact passes_append hne (unquoted_of_all hsign)

/-- A keyword is passed. -/
theorem keyword?_passes {word : String} (hword : word.toList.all Char.isLower)
    (hne : word.toList ≠ []) (h : keyword? word text = some rest) : Passes text rest := by
  obtain ⟨run, hcase, rfl, -⟩ := keyword?_eq_some h
  exact passes_append (ne_nil_of_inAnyCase hne hcase)
    (unquoted_of_isWordChar (all_isWordChar_of_inAnyCase hword hcase))

/-- A connective is passed, whichever of its spellings is read. -/
theorem mark_passes {word double single : String} (hword : word.toList.all Char.isLower)
    (hne : word.toList ≠ [])
    (hsigns : ∀ sign ∈ [double, single],
      sign.toList ≠ [] ∧ sign.toList.all fun c => c ≠ '\'' && c ≠ '"')
    (h : (keyword? word text <|> sign? double text <|> sign? single text) = some rest) :
    Passes text rest := by
  obtain ⟨hdouble, hsingle⟩ := List.forall_mem_cons.1 hsigns
  rw [List.forall_mem_singleton] at hsingle
  simp only [Option.orElse_eq_orElse, Option.orElse_eq_or, Option.or_eq_some_iff] at h
  obtain h | ⟨-, h | ⟨-, h⟩⟩ := h
  · exact keyword?_passes hword hne h
  · exact strip?_passes hdouble.1 hdouble.2 h
  · exact strip?_passes hsingle.1 hsingle.2 h

/-- So is an `or`. -/
theorem orMark?_passes (h : orMark? text = some rest) : Passes text rest :=
  mark_passes (by decide) (by decide) (by decide) h

/-- So is an `and`. -/
theorem andMark?_passes (h : andMark? text = some rest) : Passes text rest :=
  mark_passes (by decide) (by decide) (by decide) h

/-- So is a `not`. -/
theorem notMark?_passes (h : notMark? text = some rest) : Passes text rest := by
  simp only [notMark?, Option.orElse_eq_orElse, Option.orElse_eq_or, Option.or_eq_some_iff] at h
  obtain h | ⟨-, h⟩ := h
  · exact keyword?_passes (by decide) (by decide) h
  · exact strip?_passes (by decide) (by decide) (Option.filter_eq_some_iff.1 h).1

/-- So is the sign of a comparison. -/
theorem comparison?_passes (h : comparison? text = some (op, rest)) : Passes text rest := by
  obtain ⟨sign, hsign, rfl⟩ := comparison?_eq_some h
  have hspelling : ∀ sign ∈ op.spellings,
      sign.toList ≠ [] ∧ sign.toList.all fun c => c ≠ '\'' && c ≠ '"' := by
    cases op <;> decide
  exact passes_append (hspelling sign hsign).1 (unquoted_of_all (hspelling sign hsign).2)

/-- A minus sign is passed if there is one. -/
theorem skips_minus (text : Text) : Skips text (minus text).2 := by
  unfold minus
  split
  · exact ⟨['-'], rfl, rfl⟩
  · exact ⟨[], rfl, rfl⟩

/-- A run of digits is passed. -/
theorem digits?_passes {digits : Text} (h : digits? text = some (digits, rest)) :
    Passes text rest := by
  unfold digits? at h
  split at h
  · rename_i hhead
    cases h
    exact passes_dropWhile (fun _ => isWordChar_of_isDigit) hhead
  · cases h

/-- So is a word. -/
theorem word?_passes {word : Text} (h : word? text = some (word, rest)) : Passes text rest := by
  unfold word? at h
  split at h
  · rename_i hhead
    cases h
    exact passes_dropWhile (fun _ => id) hhead
  · cases h

/-- So is a number of either kind. -/
theorem number?_passes (h : number? text = some (value, rest)) : Passes text rest := by
  obtain ⟨hnumber, -⟩ := Option.filter_eq_some_iff.1 h
  rw [Option.orElse_eq_orElse, Option.orElse_eq_or, Option.or_eq_some_iff] at hnumber
  obtain hfloat | ⟨-, hint⟩ := hnumber
  · simp only [float?, bind, Option.bind_eq_some_iff, Prod.exists] at hfloat
    obtain ⟨whole, behind, hwhole, tail, hpoint, fraction, tail', hfraction, hvalue⟩ := hfloat
    cases hvalue
    have hpoint := strip?_passes (by decide) (by decide) hpoint
    exact (skips_minus text).trans_passes <| (digits?_passes hwhole).trans <|
      hpoint.skips.trans (digits?_passes hfraction).skips
  · simp only [int?_eq_bind, Option.bind_eq_some_iff, Prod.exists] at hint
    obtain ⟨digits, behind, hdigits, hvalue⟩ := hint
    split at hvalue
    · cases hvalue
      exact (skips_minus text).trans_passes (digits?_passes hdigits)
    · cases hvalue

/-- So is a truth value. -/
theorem truth?_passes (h : truth? text = some (value, rest)) : Passes text rest := by
  simp only [truth?, Option.orElse_eq_orElse, Option.orElse_eq_or, Option.or_eq_some_iff,
    Option.map_eq_some_iff] at h
  obtain ⟨found, hkeyword, hfound⟩ | ⟨-, found, hkeyword, hfound⟩ := h
  all_goals
    cases hfound
    exact keyword?_passes (by decide) (by decide) hkeyword

/-- So is any operand: text between quotes closes what it opens. -/
theorem operand?_passes (h : operand? text = some (operand, rest)) : Passes text rest := by
  simp only [operand?, Option.orElse_eq_orElse, Option.orElse_eq_or, Option.or_eq_some_iff,
    Option.map_eq_some_iff, Prod.exists] at h
  obtain ⟨value, behind, hvalue, hrest⟩ | ⟨-, word, behind, hword, hrest⟩ := h
  · cases hrest
    obtain hnumber | ⟨-, hquoted | ⟨-, htruth⟩⟩ := hvalue
    · exact number?_passes hnumber
    · obtain ⟨quote, body, hquote, hbody, rfl, -⟩ := quotedText?_eq_some hquoted
      exact passes_append (List.cons_ne_nil _ _) (unquoted_quoted hquote hbody)
    · exact truth?_passes htruth
  · cases hrest
    exact word?_passes hword

end RelQuery.Condition
