import RelQuery.Proofs.Condition.Lexemes

/-!
# Parts that do not go on

What is read off a text can change when more text follows, because a word, a number, a sign or
blanks go on in it. They do not if the texts are `Apart`: the text behind begins with no blank and no
sign, and where the texts meet there is a character with which words and numbers end. Then all parts
but text between quotes, which goes on up to the next quote, are read or not as they are at the end
of the text in front.
-/

namespace RelQuery.Condition

/-- No word and no number goes on in the text. -/
def Stops (text : Text) : Prop :=
  ∀ c ∈ text.head?, isWordChar c = false ∧ c ≠ '.' ∧ c ≠ '-'

/-- The characters of comparisons and connectives. -/
def isSign (c : Char) : Bool :=
  "=!<>&|".toList.contains c

/-- No part that begins in `text` goes on in `more`, text between quotes apart. -/
structure Apart (text more : Text) : Prop where
  begins : ∀ c ∈ more.head?, isSpace c = false ∧ isSign c = false
  stops : Stops more ∨ ∃ front last, text = front ++ [last] ∧ Stops [last]

/-- What was read, and what is behind it when more text follows. -/
def followedBy {α : Type} (more : Text) (found : α × Text) : α × Text :=
  (found.1, found.2 ++ more)

variable {text rest more sign word : Text} {kind : Char → Bool} {last : Char}
variable {value : Literal}

/-! ## Runs and blanks -/

/-- The kind of the first character stays, if a text that follows does not begin with that kind. -/
theorem head?_any_append (h : ∀ c ∈ more.head?, kind c = false) :
    (text ++ more).head?.any kind = text.head?.any kind := by
  cases text with
  | nil =>
      cases more with
      | nil => rfl
      | cons c more => simp [h c rfl]
  | cons c text => rfl

/-- A run of characters does not go on in a text that begins with no such character. -/
theorem takeWhile_append_of_head? (h : ∀ c ∈ more.head?, kind c = false) :
    (text ++ more).takeWhile kind = text.takeWhile kind := by
  induction text with
  | nil =>
      cases more with
      | nil => rfl
      | cons c more => simp [h c rfl]
  | cons c text ih => simp only [List.cons_append, List.takeWhile_cons, ih]

/-- And so that text is left behind the run, after what was left there anyway. -/
theorem dropWhile_append_of_head? (h : ∀ c ∈ more.head?, kind c = false) :
    (text ++ more).dropWhile kind = text.dropWhile kind ++ more := by
  induction text with
  | nil =>
      cases more with
      | nil => rfl
      | cons c more => simp [h c rfl]
  | cons c text ih =>
      simp only [List.cons_append, List.dropWhile_cons, ih]
      split <;> rfl

/-- A sign does not go on in a text that begins with no character of it. -/
theorem strip?_append (h : ∀ c ∈ more.head?, c ∉ sign) :
    Text.strip? sign (text ++ more) = (Text.strip? sign text).map (· ++ more) := by
  induction sign generalizing text with
  | nil => rfl
  | cons s sign ih =>
      cases text with
      | nil => exact strip?_cons_eq_none fun hc => h s hc List.mem_cons_self
      | cons c text =>
          simp only [List.cons_append, Text.strip?,
            ih fun d hd hmem => h d hd (List.mem_cons_of_mem s hmem)]
          split <;> rfl

/-! ## In front of a character with which words and numbers end -/

section

variable (h : Stops more)
include h

/-- It begins with no character of a word. -/
theorem Stops.isWordChar : ∀ c ∈ more.head?, isWordChar c = false :=
  fun c hc => (h c hc).1

/-- It begins with no digit, since a digit may stand in a word. -/
theorem Stops.isDigit : ∀ c ∈ more.head?, c.isDigit = false :=
  fun c hc => isDigit_of_isWordChar (h.isWordChar c hc)

/-- A word that ends in front of such a text ends there without it. -/
theorem Stops.atWordEnd_append : atWordEnd (text ++ more) = atWordEnd text := by
  rw [atWordEnd, atWordEnd, head?_any_append h.isWordChar]

/-- Such a text makes no keyword and unmakes none. -/
theorem Stops.keyword?_append {word : String} (hword : word.toList.all Char.isLower) :
    keyword? word (text ++ more) = (keyword? word text).map (· ++ more) := by
  obtain ⟨run, tail, rfl, hrun, htail⟩ := exists_run_append Condition.isWordChar text
  have hend := atWordEnd_iff.2 htail
  rw [List.append_assoc, Condition.keyword?_append hword hrun hend,
    Condition.keyword?_append hword hrun (h.atWordEnd_append.trans hend)]
  split <;> rfl

/-- A truth value is one whether such a text follows or not. -/
theorem Stops.truth?_append : truth? (text ++ more) = (truth? text).map (followedBy more) := by
  simp (disch := decide) only [truth?, h.keyword?_append, Option.orElse_eq_orElse,
    Option.orElse_eq_or, Option.map_or, Option.map_map, Function.comp_def, followedBy]

/-- A word does not go on in such a text. -/
theorem Stops.word?_append : word? (text ++ more) = (word? text).map (followedBy more) := by
  rw [word?, word?, head?_any_append h.isWordChar, takeWhile_append_of_head? h.isWordChar,
    dropWhile_append_of_head? h.isWordChar]
  split <;> rfl

/-- A run of digits does not go on in such a text. -/
theorem Stops.digits?_append : digits? (text ++ more) = (digits? text).map (followedBy more) := by
  rw [digits?, digits?, head?_any_append h.isDigit, takeWhile_append_of_head? h.isDigit,
    dropWhile_append_of_head? h.isDigit]
  split <;> rfl

/-- A minus sign in front is split off the same way. -/
theorem Stops.minus_append : minus (text ++ more) = ((minus text).1, (minus text).2 ++ more) := by
  cases text with
  | nil => exact minus_of_ne fun hc => (h '-' hc).2.2 rfl
  | cons c text =>
      by_cases hc : c = '-'
      · subst hc
        rfl
      · rw [minus_of_ne (by simpa using hc), minus_of_ne (by simpa using hc)]

/-- A numeral with a point has the same fraction, since no digit and no point follows. -/
theorem Stops.float?_append : float? (text ++ more) = (float? text).map (followedBy more) := by
  simp only [float?, h.minus_append, h.digits?_append]
  cases digits? (minus text).2 with
  | none => rfl
  | some whole =>
      have hpoint : sign? "." (whole.2 ++ more) = (sign? "." whole.2).map (· ++ more) :=
        strip?_append fun c hc hmem => (h c hc).2.1 (List.mem_singleton.1 hmem)
      simp only [Option.map_some, bind, Option.bind_some, followedBy, hpoint]
      cases sign? "." whole.2 with
      | none => rfl
      | some rest =>
          simp only [Option.map_some, Option.bind_some, h.digits?_append]
          cases digits? rest <;> rfl

/-- An integer has the same digits. -/
theorem Stops.int?_append : int? (text ++ more) = (int? text).map (followedBy more) := by
  rw [int?_eq_bind, int?_eq_bind, h.minus_append, h.digits?_append]
  cases digits? (minus text).2 with
  | none => rfl
  | some found =>
      simp only [Option.map_some, Option.bind_some, followedBy]
      split <;> rfl

/-- A number is read the same way. Both kinds of numerals are tried in turn. -/
theorem Stops.number?_append : number? (text ++ more) = (number? text).map (followedBy more) := by
  have hend : (fun found : Literal × Text => atWordEnd found.2) ∘ followedBy more =
      fun found => atWordEnd found.2 := by
    funext found
    exact h.atWordEnd_append
  simp only [number?, h.float?_append, h.int?_append, Option.orElse_eq_orElse,
    Option.orElse_eq_or, ← Option.map_or, Option.filter_map, hend]

end

/-! ## Text between quotes -/

/-- Text between quotes ends at the next quote of the same kind. -/
theorem quotedText?_eq_some (h : quotedText? text = some (value, rest)) :
    ∃ quote body, (quote = '\'' ∨ quote = '"') ∧ quote ∉ body ∧
      text = quote :: body ++ [quote] ++ rest ∧ value = .text body := by
  unfold quotedText? at h
  split at h
  case h_1 tail | h_2 tail =>
    obtain ⟨⟨body, behind⟩, hcut, hfound⟩ := Option.map_eq_some_iff.1 h
    obtain ⟨rfl, hbody⟩ := Text.cut?_eq_some_iff.1 hcut
    cases hfound
    exact ⟨_, body, by simp, hbody, by simp, rfl⟩
  case h_3 => cases h

/-- Text that is closed is the same text when more follows. -/
theorem quotedText?_append (h : quotedText? text = some (value, rest)) :
    quotedText? (text ++ more) = some (value, rest ++ more) := by
  obtain ⟨quote, body, hquote, hbody, rfl, rfl⟩ := quotedText?_eq_some h
  rw [List.append_assoc]
  exact quotedText?_quoted hquote hbody

/-! ## Texts that are apart -/

/-- All comparisons are spelled with the characters of signs. -/
theorem isSign_of_mem_comparisonSigns : ∀ entry ∈ comparisonSigns,
    entry.1.toList.all isSign := by
  decide

/-- What a text begins with decides, so more may follow that. -/
theorem Stops.cons (h : Stops [last]) : Stops (last :: more) := by
  rintro c ⟨rfl⟩
  exact h _ rfl

section

variable (h : Apart text more)
include h

/-- It does not matter on which side the character stands. -/
theorem Apart.of_stops {β : Type} {f : Text → Option β} (extend : Text → β → β)
    (hextend : ∀ left right found, extend right (extend left found) = extend (left ++ right) found)
    (hf : ∀ {text more}, Stops more → f (text ++ more) = (f text).map (extend more)) :
    f (text ++ more) = (f text).map (extend more) := by
  obtain hmore | ⟨front, last, rfl, hlast⟩ := h.stops
  · exact hf hmore
  · have hboth : f (front ++ last :: more) = _ := hf hlast.cons
    rw [List.append_assoc, List.singleton_append, hboth, hf hlast, Option.map_map]
    congr 1
    funext found
    exact (hextend [last] more found).symm

/-- Keywords are the same: the text in front may itself end with a character that ends words. -/
theorem Apart.keyword?_append {word : String} (hword : word.toList.all Char.isLower) :
    keyword? word (text ++ more) = (keyword? word text).map (· ++ more) :=
  h.of_stops (fun more rest => rest ++ more) (fun _ _ _ => List.append_assoc ..)
    fun hmore => hmore.keyword?_append hword

/-- A sign does not go on in the text behind. -/
theorem Apart.sign?_append {sign : String} (hsign : sign.toList.all isSign) :
    sign? sign (text ++ more) = (sign? sign text).map (· ++ more) :=
  strip?_append fun c hc hmem =>
    Bool.eq_false_iff.1 (h.begins c hc).2 (List.all_eq_true.1 hsign c hmem)

/-- Blanks do not go on in the text behind. -/
theorem Apart.skipSpace_append : skipSpace (text ++ more) = skipSpace text ++ more :=
  dropWhile_append_of_head? fun c hc => (h.begins c hc).1

/-- An `or`, as a word or as bars, is found as without the text behind. -/
theorem Apart.orMark?_append : orMark? (text ++ more) = (orMark? text).map (· ++ more) := by
  simp (disch := decide) only [orMark?, h.keyword?_append, h.sign?_append,
    Option.orElse_eq_orElse, Option.orElse_eq_or, Option.map_or]

/-- So is an `and`. -/
theorem Apart.andMark?_append : andMark? (text ++ more) = (andMark? text).map (· ++ more) := by
  simp (disch := decide) only [andMark?, h.keyword?_append, h.sign?_append,
    Option.orElse_eq_orElse, Option.orElse_eq_or, Option.map_or]

/-- So is a `not`, although the exclamation mark may also begin a comparison. -/
theorem Apart.notMark?_append : notMark? (text ++ more) = (notMark? text).map (· ++ more) := by
  have hhead : (fun rest : Text => decide (rest.head? ≠ some '=')) ∘ (· ++ more) =
      fun rest => decide (rest.head? ≠ some '=') := by
    funext rest
    cases rest with
    | nil =>
        have hequals : more.head? ≠ some '=' := fun hc => nomatch (h.begins '=' hc).2
        simpa using hequals
    | cons c rest => rfl
  simp (disch := decide) only [notMark?, h.keyword?_append, h.sign?_append,
    Option.orElse_eq_orElse, Option.orElse_eq_or, Option.map_or, Option.filter_map, hhead]

/-- The longest comparison that fits is the same one. -/
theorem Apart.comparison?_append :
    comparison? (text ++ more) = (comparison? text).map (followedBy more) := by
  unfold comparison?
  have hsigns := isSign_of_mem_comparisonSigns
  revert hsigns
  induction comparisonSigns with
  | nil =>
      intro _
      rfl
  | cons entry signs ih =>
      intro hsigns
      obtain ⟨sign, op⟩ := entry
      obtain ⟨hsign, hsigns⟩ := List.forall_mem_cons.1 hsigns
      simp only [List.findSome?_cons, ih hsigns, h.sign?_append hsign]
      cases sign? sign text <;> rfl

/-- Numbers end within the text in front. -/
theorem Apart.number?_append : number? (text ++ more) = (number? text).map (followedBy more) :=
  h.of_stops followedBy (fun _ _ _ => by simp [followedBy]) Stops.number?_append

/-- So do truth values. -/
theorem Apart.truth?_append : truth? (text ++ more) = (truth? text).map (followedBy more) :=
  h.of_stops followedBy (fun _ _ _ => by simp [followedBy]) Stops.truth?_append

/-- And so do words. -/
theorem Apart.word?_append : word? (text ++ more) = (word? text).map (followedBy more) :=
  h.of_stops followedBy (fun _ _ _ => by simp [followedBy]) Stops.word?_append

/-- Operands are read or not as at the end of the text in front, if text between quotes is. -/
theorem Apart.operand?_append
    (hquoted : quotedText? (text ++ more) = (quotedText? text).map (followedBy more)) :
    operand? (text ++ more) = (operand? text).map (followedBy more) := by
  simp only [operand?, h.number?_append, hquoted, h.truth?_append, h.word?_append,
    Option.orElse_eq_orElse, Option.orElse_eq_or, Option.map_or, Option.map_map,
    Function.comp_def, followedBy]

end

end RelQuery.Condition
