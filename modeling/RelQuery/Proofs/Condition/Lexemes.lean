import RelQuery.Proofs.Condition.Written

/-!
# Reading the parts of a predicate

In front of a gap every part of a predicate is read as it was written: an operand
(`operand?_written`), although numbers, text and truth values are tried before words, a comparison,
although the sign of one begins that of another, and a connective. What is read as a negation off an
operand is a word (`notMark?_of_operand?`).
-/

namespace RelQuery.Condition

variable {c : Char} {text rest run body digits mark : Text} {operand : Operand} {negative : Bool}

/-- A text that is not all of a kind has a character. -/
theorem ne_nil_of_not_all {kind : Char → Bool} (h : ¬ text.all kind) : text ≠ [] := by
  rintro rfl
  exact h rfl

/-! ## Numbers -/

/-- All digits up to another character are read. -/
theorem digits?_append (hne : digits ≠ []) (hdigits : digits.all Char.isDigit)
    (hrest : ∀ c ∈ rest.head?, c.isDigit = false) :
    digits? (digits ++ rest) = some (digits, rest) := by
  rw [digits?, takeWhile_run hdigits hrest, dropWhile_run hdigits hrest]
  obtain ⟨c, digits, rfl⟩ := List.exists_cons_of_ne_nil hne
  simp [List.all_eq_true.1 hdigits c List.mem_cons_self]

/-- Without a digit in front there is no run of digits. -/
theorem digits?_eq_none (h : ∀ c ∈ text.head?, c.isDigit = false) : digits? text = none := by
  cases text with
  | nil => rfl
  | cons c text => simp [digits?, h c rfl]

/-- Without a minus sign in front there is none. -/
theorem minus_of_ne (h : text.head? ≠ some '-') : minus text = (false, text) := by
  unfold minus
  split
  · simp at h
  · rfl

/-- No number of double precision is read where no point follows the digits. -/
theorem float?_eq_none (h : minus text = (negative, digits ++ rest)) (hne : digits ≠ [])
    (hdigits : digits.all Char.isDigit) (hrest : ∀ c ∈ rest.head?, c.isDigit = false)
    (hpoint : rest.head? ≠ some '.') : float? text = none := by
  have hsign : sign? "." rest = none := by
    cases rest with
    | nil => rfl
    | cons c rest =>
        have hc : '.' ≠ c := fun hc => hpoint (hc ▸ rfl)
        simp [sign?, Text.strip?, hc]
  simp [float?, h, digits?_append hne hdigits hrest, hsign]

/-- The integer that digits stand for. -/
def signedValue (negative : Bool) (digits : Text) : Int :=
  if negative then -Text.digitsValue digits else Text.digitsValue digits

/-- An integer is a run of digits, behind a minus sign or not, whose value has room in 64 bits. -/
theorem int?_eq_bind : int? text = (digits? (minus text).2).bind fun found =>
    if isInt64 (signedValue (minus text).1 found.1)
      then some (.int (signedValue (minus text).1 found.1), found.2) else none := rfl

/-- An integer is read with all its digits. -/
theorem int?_eq (h : minus text = (negative, digits ++ rest)) (hne : digits ≠ [])
    (hdigits : digits.all Char.isDigit) (hrest : ∀ c ∈ rest.head?, c.isDigit = false) :
    int? text = if isInt64 (signedValue negative digits)
      then some (.int (signedValue negative digits), rest) else none := by
  simp only [int?_eq_bind, h, digits?_append hne hdigits hrest, Option.bind_some]

/-- Digits are a number where neither a word nor a fraction goes on, if it is one of 64 bits. -/
theorem number?_digits (h : minus text = (negative, digits ++ rest)) (hne : digits ≠ [])
    (hdigits : digits.all Char.isDigit) (hrest : atWordEnd rest) (hpoint : rest.head? ≠ some '.') :
    number? text = if isInt64 (signedValue negative digits)
      then some (.int (signedValue negative digits), rest) else none := by
  have hdigit : ∀ c ∈ rest.head?, c.isDigit = false :=
    fun c hc => isDigit_of_isWordChar (atWordEnd_iff.1 hrest c hc)
  rw [number?, float?_eq_none h hne hdigits hdigit hpoint, int?_eq h hne hdigits hdigit]
  split
  · simp [hrest]
  · rfl

/-- No number begins with another character than a digit or a minus sign. -/
theorem number?_eq_none (hminus : text.head? ≠ some '-')
    (hdigit : ∀ c ∈ text.head?, c.isDigit = false) : number? text = none := by
  simp [number?, float?, int?, minus_of_ne hminus, digits?_eq_none hdigit]

/-- No number begins with a quote. -/
theorem number?_quote {quote : Char} (hquote : quote = '\'' ∨ quote = '"') :
    number? (quote :: text) = none := by
  refine number?_eq_none ?_ ?_ <;> obtain rfl | rfl := hquote <;> simp [Char.isDigit]

/-- A run of word characters that are not all digits is no number: what goes on behind the digits is
a word. -/
theorem number?_word (hrun : run.all isWordChar) (hdigit : ¬ run.all Char.isDigit) :
    number? (run ++ rest) = none := by
  obtain ⟨digits, other, rfl, hdigits, hother⟩ := exists_run_append Char.isDigit run
  obtain ⟨c, other, rfl⟩ : ∃ c tail, other = c :: tail := by
    refine List.exists_cons_of_ne_nil ?_
    rintro rfl
    exact hdigit (by simpa using hdigits)
  have hword : isWordChar c := List.all_eq_true.1 hrun c (by simp)
  have hafter : ∀ d ∈ (c :: other ++ rest).head?, d.isDigit = false := by simpa using hother
  have hpoint : (c :: other ++ rest).head? ≠ some '.' := fun h =>
    ne_of_isWordChar hword (isWordChar_of_mem (by decide)) (Option.some.inj h)
  rw [List.append_assoc]
  cases digits with
  | nil =>
      refine number?_eq_none (fun h => ?_) hafter
      exact ne_of_isWordChar hword (isWordChar_of_mem (by decide)) (Option.some.inj h)
  | cons d digits =>
      have hminus : minus (d :: digits ++ (c :: other ++ rest)) =
          (false, d :: digits ++ (c :: other ++ rest)) := by
        refine minus_of_ne ?_
        rintro ⟨rfl⟩
        cases List.all_eq_true.1 hdigits '-' List.mem_cons_self
      have hgoes : atWordEnd (c :: other ++ rest) = false := by simp [atWordEnd, hword]
      rw [number?, float?_eq_none hminus (List.cons_ne_nil _ _) hdigits hafter hpoint,
        int?_eq hminus (List.cons_ne_nil _ _) hdigits hafter]
      cases isInt64 (signedValue false (d :: digits)) with
      | true => exact Option.filter_eq_none_iff.2 (by simpa using hgoes)
      | false => rfl

/-! ## Other operands -/

/-- Text between quotes of one kind is read as it is, if no such quote is in it. -/
theorem quotedText?_quoted {quote : Char} (hquote : quote = '\'' ∨ quote = '"')
    (hbody : quote ∉ body) :
    quotedText? (quote :: body ++ [quote] ++ rest) = some (.text body, rest) := by
  have hcut : Text.cut? quote (body ++ quote :: rest) = some (body, rest) :=
    Text.cut?_eq_some_iff.2 ⟨rfl, hbody⟩
  obtain rfl | rfl := hquote <;> simp [quotedText?, hcut]

/-- Without a quote in front there is no text between quotes. -/
theorem quotedText?_eq_none (hsingle : text.head? ≠ some '\'') (hdouble : text.head? ≠ some '"') :
    quotedText? text = none := by
  unfold quotedText?
  split
  · simp at hsingle
  · simp at hdouble
  · rfl

/-- Where a word begins there is none. -/
theorem quotedText?_word (hne : run ≠ []) (hrun : run.all isWordChar) :
    quotedText? (run ++ rest) = none :=
  quotedText?_eq_none (head?_append_ne hne hrun (isWordChar_of_mem (by decide)))
    (head?_append_ne hne hrun (isWordChar_of_mem (by decide)))

/-- The words for truth values are in lower case. -/
theorem isLower_truthWord (value : Bool) : (Cell.truthWord value).all Char.isLower := by
  cases value <;> decide

/-- A run of word characters is read as a truth value if it is one of the two words for them. -/
theorem truth?_append (hrun : run.all isWordChar) (hrest : atWordEnd rest) :
    truth? (run ++ rest) =
      if InAnyCase (Cell.truthWord true) run then some (.truth true, rest)
      else if InAnyCase (Cell.truthWord false) run then some (.truth false, rest) else none := by
  have htrue : keyword? "true" (run ++ rest) =
      if InAnyCase (Cell.truthWord true) run then some rest else none :=
    keyword?_append (isLower_truthWord true) hrun hrest
  have hfalse : keyword? "false" (run ++ rest) =
      if InAnyCase (Cell.truthWord false) run then some rest else none :=
    keyword?_append (isLower_truthWord false) hrun hrest
  rw [truth?, htrue, hfalse]
  by_cases hcase : InAnyCase (Cell.truthWord true) run
  · rw [if_pos hcase, if_pos hcase]
    rfl
  · rw [if_neg hcase, if_neg hcase]
    split <;> rfl

/-- The word for a truth value is read in any case. -/
theorem truth?_of_inAnyCase {value : Bool} (h : InAnyCase (Cell.truthWord value) run)
    (hrest : AtGap rest) : truth? (run ++ rest) = some (.truth value, rest) := by
  rw [truth?_append (all_isWordChar_of_inAnyCase (isLower_truthWord value) h) hrest.atWordEnd]
  cases value with
  | true => rw [if_pos h]
  | false =>
      have hne : ¬ InAnyCase (Cell.truthWord true) run := fun htrue => nomatch h.symm.trans htrue
      rw [if_neg hne, if_pos h]

/-- A run of word characters is read as a word. -/
theorem word?_append (hne : run ≠ []) (hrun : run.all isWordChar) (hrest : atWordEnd rest) :
    word? (run ++ rest) = some (run, rest) := by
  rw [word?, takeWhile_run hrun (atWordEnd_iff.1 hrest), dropWhile_run hrun (atWordEnd_iff.1 hrest)]
  obtain ⟨c, run, rfl⟩ := List.exists_cons_of_ne_nil hne
  simp [List.all_eq_true.1 hrun c List.mem_cons_self]

/-! ## Operands -/

/-- A run of word characters that is no number and no truth value is read as a word. -/
theorem operand?_word (h : Operand.Writable (.word run)) (hrest : atWordEnd rest) :
    operand? (run ++ rest) = some (.word run, rest) := by
  obtain ⟨hrun, hdigit, htruth⟩ := h
  have hne := ne_nil_of_not_all hdigit
  rw [operand?, number?_word hrun hdigit, quotedText?_word hne hrun, truth?_append hrun hrest,
    if_neg (htruth true), if_neg (htruth false), word?_append hne hrun hrest]
  rfl

/-- So it is where an operand is read. -/
theorem operand?_truth {value : Bool} (h : InAnyCase (Cell.truthWord value) run)
    (hrest : AtGap rest) : operand? (run ++ rest) = some (.literal (.truth value), rest) := by
  have hrun := all_isWordChar_of_inAnyCase (isLower_truthWord value) h
  have hempty : Cell.truthWord value ≠ [] := by cases value <;> decide
  have hne := ne_nil_of_inAnyCase hempty h
  have hdigit := not_all_isDigit_of_inAnyCase (isLower_truthWord value) hempty h
  rw [operand?, number?_word hrun hdigit, quotedText?_word hne hrun, truth?_of_inAnyCase h hrest]
  rfl

/-- An integer that has room in 64 bits is read as an operand. -/
theorem operand?_number (h : minus text = (negative, digits ++ rest)) (hne : digits ≠ [])
    (hdigits : digits.all Char.isDigit) (hint : isInt64 (signedValue negative digits))
    (hrest : AtGap rest) :
    operand? text = some (.literal (.int (signedValue negative digits)), rest) := by
  have hpoint : rest.head? ≠ some '.' := fun hc => nomatch hrest '.' hc
  rw [operand?, number?_digits h hne hdigits hrest.atWordEnd hpoint, if_pos hint]
  rfl

/-- So is text between quotes. -/
theorem operand?_quoted {quote : Char} (hquote : quote = '\'' ∨ quote = '"')
    (hbody : quote ∉ body) :
    operand? (quote :: body ++ [quote] ++ rest) = some (.literal (.text body), rest) := by
  have hnumber : number? (quote :: body ++ [quote] ++ rest) = none := number?_quote hquote
  rw [operand?, hnumber, quotedText?_quoted hquote hbody]
  rfl

/-- An operand is a run of word characters or begins with a minus sign or a quote. -/
theorem Operand.Written.isRun_or_begins (h : operand.Written text) (hwritable : operand.Writable) :
    (text ≠ [] ∧ text.all isWordChar) ∨
      ∃ c tail, text = c :: tail ∧ (c = '-' ∨ c = '\'' ∨ c = '"') := by
  cases h with
  | word => exact .inl ⟨ne_nil_of_not_all hwritable.2.1, hwritable.1⟩
  | digits hne hdigits => exact .inl ⟨hne, all_isWordChar_of_all_isDigit hdigits⟩
  | minus hne hdigits => exact .inr ⟨'-', _, rfl, .inl rfl⟩
  | @quoted quote body hquote hbody => exact .inr ⟨quote, _, rfl, .inr hquote⟩
  | @truth value text hcase =>
      exact .inl ⟨ne_nil_of_inAnyCase (by cases value <;> decide) hcase,
        all_isWordChar_of_inAnyCase (isLower_truthWord value) hcase⟩

/-- An operand is read as it was written. -/
theorem operand?_written (h : operand.Written text) (hwritable : operand.Writable)
    (hrest : AtGap rest) : operand? (text ++ rest) = some (operand, rest) := by
  cases h with
  | word => exact operand?_word hwritable hrest.atWordEnd
  | digits hne hdigits =>
      have hminus : minus (text ++ rest) = (false, text ++ rest) :=
        minus_of_ne (head?_append_ne hne (all_isWordChar_of_all_isDigit hdigits)
          (isWordChar_of_mem (by decide)))
      exact operand?_number hminus hne hdigits hwritable hrest
  | @minus digits hne hdigits =>
      have hminus : minus ('-' :: digits ++ rest) = (true, digits ++ rest) := rfl
      exact operand?_number hminus hne hdigits hwritable hrest
  | quoted hquote hbody => exact operand?_quoted hquote hbody
  | truth hcase => exact operand?_truth hcase hrest

/-- No operand that can be written begins with a blank. -/
theorem Operand.Written.begins (h : operand.Written text) (hwritable : operand.Writable) :
    Begins text := by
  obtain ⟨hne, hrun⟩ | ⟨c, tail, rfl, hc⟩ := h.isRun_or_begins hwritable
  · exact begins_of_isWordChar hne hrun
  · exact ⟨c, rfl, by obtain rfl | rfl | rfl := hc <;> rfl⟩

/-- And none ends with one. -/
theorem Operand.Written.ends (h : operand.Written text) (hwritable : operand.Writable) :
    Ends text := by
  cases h with
  | word => exact ends_of_isWordChar (ne_nil_of_not_all hwritable.2.1) hwritable.1
  | digits hne hdigits => exact ends_of_isWordChar hne (all_isWordChar_of_all_isDigit hdigits)
  | @minus digits hne hdigits =>
      have hends : Ends digits := ends_of_isWordChar hne (all_isWordChar_of_all_isDigit hdigits)
      exact show Ends (['-'] ++ digits) from hends.append
  | @quoted quote body hquote hbody =>
      have hends : Ends [quote] := ⟨quote, rfl, by obtain rfl | rfl := hquote <;> rfl⟩
      exact hends.append
  | @truth value text hcase =>
      exact ends_of_isWordChar (ne_nil_of_inAnyCase (by cases value <;> decide) hcase)
        (all_isWordChar_of_inAnyCase (isLower_truthWord value) hcase)

/-- Off a text that begins with no word character, numbers and text between quotes are all that may
be read. -/
theorem operand?_cons_eq_none (hword : isWordChar c = false) (hnumber : number? (c :: text) = none)
    (hquoted : quotedText? (c :: text) = none) : operand? (c :: text) = none := by
  have hend : atWordEnd (c :: text) := by simp [atWordEnd, hword]
  have htrue : keyword? "true" (c :: text) = none :=
    keyword?_eq_none (by decide) (by decide) hend
  have hfalse : keyword? "false" (c :: text) = none :=
    keyword?_eq_none (by decide) (by decide) hend
  simp [operand?, hnumber, hquoted, truth?, htrue, hfalse, word?, hword]

/-- No operand is read off a text that begins with the character of a sign. -/
theorem operand?_eq_none {first : Char} (hword : isWordChar first = false)
    (hmark : first ≠ '-' ∧ first ≠ '\'' ∧ first ≠ '"') : operand? (first :: text) = none := by
  obtain ⟨hminus, hsingle, hdouble⟩ := hmark
  exact operand?_cons_eq_none hword
    (number?_eq_none (by simpa using hminus) (by simpa using isDigit_of_isWordChar hword))
    (quotedText?_eq_none (by simpa using hsingle) (by simpa using hdouble))

/-! ## Comparisons -/

/-- A sign is not read where the text goes on with another character. -/
theorem strip?_cons_eq_none {d : Char} {pattern : Text} (h : text.head? ≠ some d) :
    Text.strip? (d :: pattern) text = none := by
  cases text with
  | nil => rfl
  | cons c text =>
      have hc : d ≠ c := fun hc => h (congrArg some hc.symm)
      rw [Text.strip?, if_neg hc]

/-- What is left when a pattern is taken off is what stands behind it. -/
theorem strip?_eq_some {pattern : Text} (h : Text.strip? pattern text = some rest) :
    text = pattern ++ rest := by
  induction pattern generalizing text with
  | nil =>
      cases h
      rfl
  | cons d pattern ih =>
      cases text with
      | nil => cases h
      | cons c text =>
          by_cases hc : d = c
          · rw [Text.strip?, if_pos hc] at h
            rw [ih h, hc, List.cons_append]
          · rw [Text.strip?, if_neg hc] at h
            cases h

/-- The signs in the table are the spellings of the comparisons beside them. -/
theorem mem_spellings : ∀ entry ∈ comparisonSigns, entry.1 ∈ entry.2.spellings := by
  decide

/-- A comparison is read off one of its spellings. -/
theorem comparison?_eq_some {op : Comparison} (h : comparison? text = some (op, rest)) :
    ∃ sign ∈ op.spellings, text = sign.toList ++ rest := by
  obtain ⟨⟨sign, read⟩, hmem, hfound⟩ := List.exists_of_findSome?_eq_some h
  obtain ⟨behind, hstrip, hread⟩ := Option.map_eq_some_iff.1 hfound
  cases hread
  exact ⟨sign, mem_spellings _ hmem, strip?_eq_some hstrip⟩

/-- A comparison is read as it was written: no sign goes on in a gap. -/
theorem comparison?_written {op : Comparison} {sign : String} (h : sign ∈ op.spellings)
    (hrest : AtGap rest) : comparison? (sign.toList ++ rest) = some (op, rest) := by
  have hequals : Text.strip? ['='] rest = none := strip?_cons_eq_none fun hc => nomatch hrest '=' hc
  have hgreater : Text.strip? ['>'] rest = none :=
    strip?_cons_eq_none fun hc => nomatch hrest '>' hc
  cases op <;> simp only [Comparison.spellings, List.mem_cons, List.not_mem_nil, or_false] at h
  case eq | ne =>
    obtain rfl | rfl := h <;> simp [comparison?, comparisonSigns, sign?, Text.strip?, hequals]
  all_goals
    subst h
    simp [comparison?, comparisonSigns, sign?, Text.strip?, hequals, hgreater]

/-- Signs of comparisons begin with no blank. -/
theorem begins_sign {op : Comparison} {sign : String} (h : sign ∈ op.spellings) :
    Begins sign.toList := by
  revert sign
  cases op <;> simp [Comparison.spellings, Begins, Text.isBlank]

/-! ## Connectives -/

/-- A connective begins with something else than a blank. -/
theorem IsMark.begins {word : String} {signs : List String}
    (hword : word.toList.all Char.isLower) (hne : word.toList ≠ [])
    (hsigns : ∀ sign ∈ signs, Begins sign.toList)
    (h : IsMark word signs mark) : Begins mark := by
  obtain hcase | ⟨sign, hsign, rfl⟩ := h
  · exact begins_of_isWordChar (ne_nil_of_inAnyCase hne hcase)
      (all_isWordChar_of_inAnyCase hword hcase)
  · exact hsigns sign hsign

/-- Neither do the spellings of `and`. -/
theorem IsAnd.begins (h : IsAnd mark) : Begins mark :=
  IsMark.begins (by decide) (by decide) (List.forall_mem_cons.2 ⟨⟨'&', rfl, rfl⟩,
    List.forall_mem_singleton.2 ⟨'&', rfl, rfl⟩⟩) h

/-- Nor those of `or`. -/
theorem IsOr.begins (h : IsOr mark) : Begins mark :=
  IsMark.begins (by decide) (by decide) (List.forall_mem_cons.2 ⟨⟨'|', rfl, rfl⟩,
    List.forall_mem_singleton.2 ⟨'|', rfl, rfl⟩⟩) h

/-- Nor those of `not`. -/
theorem IsNot.begins (h : IsNot mark) : Begins mark :=
  IsMark.begins (by decide) (by decide) (List.forall_mem_singleton.2 ⟨'!', rfl, rfl⟩) h

/-- No keyword begins with a character that is in no word. -/
theorem keyword?_cons_eq_none {word : String} (hword : word.toList.all Char.isLower)
    (hne : word.toList ≠ []) (hc : isWordChar c = false) : keyword? word (c :: text) = none :=
  keyword?_eq_none hword hne (by simp [atWordEnd, hc])

/-- A keyword or a sign of one or two equal characters is read as it was written. -/
theorem mark_written {word double single : String} (hword : word.toList.all Char.isLower)
    (hne : word.toList ≠ []) (hdouble : double.toList = [c, c]) (hsingle : single.toList = [c])
    (hc : isWordChar c = false) (hspace : isSpace c = false) (h : IsMark word [double, single] mark)
    (hrest : AtGap rest) :
    (keyword? word (mark ++ rest) <|> sign? double (mark ++ rest) <|>
      sign? single (mark ++ rest)) = some rest := by
  obtain hcase | ⟨sign, hsign, rfl⟩ := h
  · have hrun := all_isWordChar_of_inAnyCase hword hcase
    rw [keyword?_append hword hrun hrest.atWordEnd, if_pos hcase]
    rfl
  · have hgap : Text.strip? [c] rest = none := strip?_cons_eq_none fun h => by
      rw [hrest c h] at hspace
      cases hspace
    obtain rfl | hsign := List.mem_cons.1 hsign
    · rw [sign?, sign?, hdouble, List.cons_append, keyword?_cons_eq_none hword hne hc]
      simp [Text.strip?]
    · obtain rfl := List.mem_singleton.1 hsign
      rw [sign?, sign?, hdouble, hsingle, List.cons_append, keyword?_cons_eq_none hword hne hc]
      simp [Text.strip?, hgap]

/-- No connective is read where there is neither its word nor the character of its signs. -/
theorem mark_eq_none {word double single : String} (hdouble : double.toList = [c, c])
    (hsingle : single.toList = [c]) (hkeyword : keyword? word text = none)
    (hhead : text.head? ≠ some c) :
    (keyword? word text <|> sign? double text <|> sign? single text) = none := by
  rw [hkeyword, sign?, sign?, hdouble, hsingle, strip?_cons_eq_none hhead,
    strip?_cons_eq_none hhead]
  rfl

/-- Every spelling of `and` is read as that. -/
theorem andMark?_written (h : IsAnd mark) (hrest : AtGap rest) :
    andMark? (mark ++ rest) = some rest :=
  mark_written (c := '&') (by decide) (by decide) rfl rfl (isWordChar_of_mem (by decide)) rfl h
    hrest

/-- Every spelling of `or` is read as that. -/
theorem orMark?_written (h : IsOr mark) (hrest : AtGap rest) :
    orMark? (mark ++ rest) = some rest :=
  mark_written (c := '|') (by decide) (by decide) rfl rfl (isWordChar_of_mem (by decide)) rfl h
    hrest

/-- A conjunction ends where a disjunction goes on. -/
theorem andMark?_of_orMark? (h : orMark? text = some rest) : andMark? text = none := by
  cases hkeyword : keyword? "or" text with
  | some behind =>
      obtain ⟨run, hcase, rfl, hend⟩ := keyword?_eq_some hkeyword
      have hrun := all_isWordChar_of_inAnyCase (by decide) hcase
      have hand : ¬ InAnyCase "and".toList run := by
        intro hand
        cases hcase.symm.trans hand
      have hword : keyword? "and" (run ++ behind) = none := by
        rw [keyword?_append (by decide) hrun hend, if_neg hand]
      exact mark_eq_none (c := '&') rfl rfl hword (head?_append_ne
        (ne_nil_of_inAnyCase (by decide) hcase) hrun (isWordChar_of_mem (by decide)))
  | none =>
      by_cases hhead : text.head? = some '|'
      · obtain ⟨tail, rfl⟩ := List.head?_eq_some_iff.1 hhead
        exact mark_eq_none (c := '&') rfl rfl (keyword?_cons_eq_none (by decide) (by decide)
          (isWordChar_of_mem (by decide))) (by simp)
      · cases (mark_eq_none (c := '|') rfl rfl hkeyword hhead).symm.trans h

/-- No spelling of `or` is read as `and`. -/
theorem andMark?_or (h : IsOr mark) (hrest : AtGap rest) : andMark? (mark ++ rest) = none :=
  andMark?_of_orMark? (orMark?_written h hrest)

/-- A group and a text end where no connective goes on. -/
theorem andMark?_close : andMark? (')' :: rest) = none :=
  mark_eq_none (c := '&') rfl rfl (keyword?_cons_eq_none (by decide) (by decide)
    (isWordChar_of_mem (by decide))) (by simp)

/-- A closing parenthesis is no `or`. -/
theorem orMark?_close : orMark? (')' :: rest) = none :=
  mark_eq_none (c := '|') rfl rfl (keyword?_cons_eq_none (by decide) (by decide)
    (isWordChar_of_mem (by decide))) (by simp)

/-! ## Negations -/

/-- Every spelling of `not` is read as that. -/
theorem notMark?_written (h : IsNot mark) (hrest : AtGap rest) :
    notMark? (mark ++ rest) = some rest := by
  obtain hcase | ⟨sign, hsign, rfl⟩ := h
  · have hrun := all_isWordChar_of_inAnyCase (by decide) hcase
    rw [notMark?, keyword?_append (by decide) hrun hrest.atWordEnd, if_pos hcase]
    rfl
  · obtain rfl := List.mem_singleton.1 hsign
    have hequals : rest.head? ≠ some '=' := fun hc => nomatch hrest '=' hc
    have hkeyword : keyword? "not" ('!' :: rest) = none := keyword?_cons_eq_none (by decide)
      (by decide) (isWordChar_of_mem (by decide))
    simp [notMark?, hkeyword, sign?, Text.strip?, hequals]

/-- No negation begins with another character than one of a word or an exclamation mark. -/
theorem notMark?_cons_eq_none (hc : isWordChar c = false) (hne : c ≠ '!') :
    notMark? (c :: text) = none := by
  have hsign : sign? "!" (c :: text) = none :=
    strip?_cons_eq_none (d := '!') (by simpa using hne)
  rw [notMark?, keyword?_cons_eq_none (by decide) (by decide) hc, hsign]
  rfl

/-- If a negation is read off an operand, then it is all of the operand. -/
theorem notMark?_of_operand? {behind : Text} (h : operand? text = some (operand, rest))
    (hmark : notMark? text = some behind) : behind = rest := by
  cases hkeyword : keyword? "not" text with
  | some after =>
      obtain ⟨run, hcase, rfl, hend⟩ := keyword?_eq_some hkeyword
      have htruth : ∀ value, ¬ InAnyCase (Cell.truthWord value) run := by
        intro value htruth
        cases value <;> cases hcase.symm.trans htruth
      have hwritable : Operand.Writable (.word run) :=
        ⟨all_isWordChar_of_inAnyCase (by decide) hcase,
          not_all_isDigit_of_inAnyCase (by decide) (by decide) hcase, htruth⟩
      rw [operand?_word hwritable hend] at h
      rw [notMark?, hkeyword] at hmark
      cases h
      exact (Option.some.inj hmark).symm
  | none =>
      by_cases hhead : text.head? = some '!'
      · obtain ⟨tail, rfl⟩ := List.head?_eq_some_iff.1 hhead
        rw [operand?_eq_none (isWordChar_of_mem (by decide)) (by decide)] at h
        cases h
      · have hsign : sign? "!" text = none := strip?_cons_eq_none hhead
        rw [notMark?, hkeyword, hsign] at hmark
        cases hmark

/-- Neither a negation nor a group nor an operand is read off a comparison. -/
theorem comparison_stops {op : Comparison} {sign : String} (h : sign ∈ op.spellings)
    (rest : Text) :
    notMark? (sign.toList ++ rest) = none ∧ (sign.toList ++ rest).head? ≠ some '(' ∧
      operand? (sign.toList ++ rest) = none := by
  have hbegins : sign = "!=" ∨
      ∃ c tail, sign.toList = c :: tail ∧ (c = '=' ∨ c = '<' ∨ c = '>') := by
    revert sign
    cases op <;> simp [Comparison.spellings]
  obtain rfl | ⟨c, tail, htail, hc⟩ := hbegins
  · have hbang : isWordChar '!' = false := isWordChar_of_mem (by decide)
    have hkeyword : keyword? "not" ('!' :: '=' :: rest) = none :=
      keyword?_cons_eq_none (by decide) (by decide) hbang
    refine ⟨?_, by simp, operand?_eq_none hbang (by decide)⟩
    simp [notMark?, hkeyword, sign?, Text.strip?]
  · have hword : isWordChar c = false := by
      obtain rfl | rfl | rfl := hc <;> exact isWordChar_of_mem (by decide)
    have hne : c ≠ '!' ∧ c ≠ '(' := by obtain rfl | rfl | rfl := hc <;> decide
    have hother : c ≠ '-' ∧ c ≠ '\'' ∧ c ≠ '"' := by obtain rfl | rfl | rfl := hc <;> decide
    rw [htail]
    exact ⟨notMark?_cons_eq_none hword hne.1, by simpa using hne.2, operand?_eq_none hword hother⟩

end RelQuery.Condition
