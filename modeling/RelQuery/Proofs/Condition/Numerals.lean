import RelQuery.Proofs.Condition.Templates
import RelQuery.Proofs.Condition.Combined

/-!
# Numerals as operands

A numeral that stands for an integer of 64 bits is read as this integer, wherever in a condition it
stands. Of the others, those with a minus sign are refused, and those without are read as words,
because a choice that fails is undone and the digits are a run of word characters
(`readPredicate_numeral`). What can be said of all these operands at once is that a condition has a
template for each place (`readPredicate_at`): if the place is one for an operand, then every text
off which an operand is read there yields the template with this operand, and otherwise every
text is refused.
-/

namespace RelQuery.Condition

/-- Digits with a minus sign in front of them or without. -/
def numeral (negative : Bool) (digits : Text) : Text :=
  if negative then '-' :: digits else digits

/-- One or more digits, with a minus sign or without. -/
def IsNumeral (text : Text) : Prop :=
  ∃ negative digits, digits ≠ [] ∧ digits.all Char.isDigit ∧ text = numeral negative digits

/-- What a numeral is read as, if an operand is read off it: an integer if that has 64 bits, and
otherwise its digits as a word. -/
def numeralOperand (negative : Bool) (digits : Text) : Operand :=
  if isInt64 (signedValue negative digits) then .literal (.int (signedValue negative digits))
  else .word digits

/-- A word that is neither a number nor a truth value nor a connective. -/
def IsPlainWord (word : Text) : Prop :=
  (Operand.word word).Writable ∧ ∀ mark ∈ ["and", "or", "not"], ¬ InAnyCase mark.toList word

/-- Decided character by character and keyword by keyword. -/
instance (word : Text) : Decidable (IsPlainWord word) :=
  inferInstanceAs (Decidable (_ ∧ _))

/-- A place between delimiters or the ends of the condition that is not within text between
quotes. -/
structure Place (before after : Text) : Prop where
  clear : Clear before
  ends : ∀ c ∈ after.head?, isDelimiter c

/-- A place for an operand: there is a word or a numeral with which the condition is accepted. -/
structure OperandPlace (before after : Text) : Prop extends Place before after where
  accepted : ∃ x p, (IsPlainWord x ∨ IsNumeral x) ∧ readPredicate (before ++ x ++ after) = .ok p

/-- The condition is read as a predicate, or it is refused. -/
def ReadAs (condition : Text) : (answer : Option Predicate) → Prop
  | some p => readPredicate condition = .ok p
  | none => ∃ offset, readPredicate condition = .error (.invalid condition offset)

/-- Nothing but blanks is left to be read. -/
def Draft.IsRead : Draft → Prop
  | ahead _ => False
  | behind text => Condition.skipSpace text = []

/-- Only a draft behind the place may be read. -/
instance : (d : Draft) → Decidable d.IsRead
  | .ahead _ => inferInstanceAs (Decidable False)
  | .behind text => inferInstanceAs (Decidable (Condition.skipSpace text = []))

variable {before after text rest x digits word condition : Text} {d : Draft} {operand : Operand}
variable {p : Predicate} {negative readable : Bool}

/-! ## Texts that fill a place -/

/-- A character of a word is no delimiter. -/
theorem isDelimiter_of_isWordChar {c : Char} (h : isWordChar c) : isDelimiter c = false := by
  cases hdelimiter : isDelimiter c with
  | false => rfl
  | true =>
      rw [isWordChar_of_isDelimiter hdelimiter] at h
      cases h

/-- A run of word characters that is no connective fills a place, if an operand is read off it. -/
theorem fills_of_isWordChar (hne : word ≠ []) (hword : word.all isWordChar)
    (hmark : ∀ mark ∈ ["and", "or", "not"], ¬ InAnyCase mark.toList word) (hafter : Stops after)
    (hread : operand? (word ++ after) = if readable then some (operand, after) else none) :
    Fills after readable word operand where
  begins := by
    obtain ⟨c, tail, rfl⟩ := List.exists_cons_of_ne_nil hne
    exact ⟨c, tail, rfl,
      isDelimiter_of_isWordChar (List.all_eq_true.1 hword c List.mem_cons_self)⟩
  keyword := by
    intro mark hmem
    have hlower : ∀ mark ∈ ["and", "or", "not"], mark.toList.all Char.isLower := by decide
    rw [keyword?_append (hlower mark hmem) hword (atWordEnd_iff.2 hafter.isWordChar),
      if_neg (hmark mark hmem)]
  read := hread

/-- A plain word has a character. -/
theorem IsPlainWord.ne_nil (h : IsPlainWord word) : word ≠ [] :=
  ne_nil_of_not_all h.1.2.1

/-- A plain word may fill a place, and is read there as a word. -/
theorem IsPlainWord.fills (h : IsPlainWord word) (hafter : Stops after) :
    Fills after true word (.word word) :=
  fills_of_isWordChar h.ne_nil h.1.1 h.2 hafter
    (operand?_word h.1 (atWordEnd_iff.2 hafter.isWordChar))

section

variable (hne : digits ≠ []) (hdigits : digits.all Char.isDigit)
include hne hdigits

/-- A numeral is read, unless it has a minus sign and stands for no integer of 64 bits. -/
theorem operand?_numeral (hafter : Stops after) : operand? (numeral negative digits ++ after) =
    if isInt64 (signedValue negative digits) || !negative
      then some (numeralOperand negative digits, after) else none := by
  have hend := atWordEnd_iff.2 hafter.isWordChar
  have hpoint : after.head? ≠ some '.' := fun hc => (hafter '.' hc).2.1 rfl
  have hword := all_isWordChar_of_all_isDigit hdigits
  have hminus : minus (numeral negative digits ++ after) = (negative, digits ++ after) := by
    cases negative with
    | false => exact minus_of_ne (head?_append_ne hne hword (isWordChar_of_mem (by decide)))
    | true => rfl
  have hnumber := number?_digits hminus hne hdigits hend hpoint
  rw [numeralOperand]
  cases hint : isInt64 (signedValue negative digits) with
  | true =>
      rw [hint, if_pos rfl] at hnumber
      rw [operand?, hnumber]
      rfl
  | false =>
      rw [hint, if_neg Bool.false_ne_true] at hnumber
      cases negative with
      | true =>
          exact operand?_cons_eq_none (isWordChar_of_mem (by decide)) hnumber
            (quotedText?_eq_none (by simp) (by simp))
      | false =>
          have htruth (value : Bool) : ¬ InAnyCase (Cell.truthWord value) digits := fun hcase =>
            not_all_isDigit_of_inAnyCase (isLower_truthWord value) (by cases value <;> decide) hcase
              hdigits
          change number? (digits ++ after) = none at hnumber
          change operand? (digits ++ after) = some (.word digits, after)
          rw [operand?, hnumber, quotedText?_word hne hword, truth?_append hword hend,
            if_neg (htruth true), if_neg (htruth false), word?_append hne hword hend]
          rfl

/-- A numeral fills a place, be it one that is read or one that is refused. -/
theorem fills_numeral (hafter : Stops after) :
    Fills after (isInt64 (signedValue negative digits) || !negative) (numeral negative digits)
      (numeralOperand negative digits) := by
  have hread : operand? (numeral negative digits ++ after) = _ :=
    operand?_numeral hne hdigits hafter
  have hlower : ∀ mark ∈ ["and", "or", "not"],
      mark.toList.all Char.isLower ∧ mark.toList ≠ [] := by decide
  cases negative with
  | true =>
      refine ⟨⟨'-', digits, rfl, rfl⟩, fun mark hmem => ?_, hread⟩
      exact keyword?_cons_eq_none (hlower mark hmem).1 (hlower mark hmem).2
        (isWordChar_of_mem (by decide))
  | false =>
      refine fills_of_isWordChar hne (all_isWordChar_of_all_isDigit hdigits)
        (fun mark hmem hcase => ?_) hafter hread
      exact not_all_isDigit_of_inAnyCase (hlower mark hmem).1 (hlower mark hmem).2 hcase hdigits

/-- No numeral ends with a blank. -/
theorem ends_numeral : Ends (numeral negative digits) := by
  have hends := ends_of_isWordChar hne (all_isWordChar_of_all_isDigit hdigits)
  cases negative with
  | true => exact show Ends (['-'] ++ digits) from hends.append
  | false => exact hends

end

/-! ## Whole conditions -/

/-- What fills a place begins with no blank. -/
theorem begins_of_fills (h : Fills after readable x operand) : Begins x := by
  obtain ⟨c, tail, rfl, hc⟩ := h.begins
  simp only [isDelimiter, Bool.or_eq_false_iff] at hc
  exact ⟨c, rfl, hc.1.1.1⟩

/-- Blanks are trimmed on both sides of a text that begins and ends with something else. -/
theorem trim_append (hbegins : Begins x) (hends : Ends x) :
    Text.trim (before ++ (x ++ after)) = Text.trimLeft before ++ (x ++ Text.trimRight after) := by
  have hleft : Text.trimLeft (before ++ (x ++ after)) = Text.trimLeft before ++ (x ++ after) := by
    refine dropWhile_append_of_head? fun c hc => ?_
    obtain ⟨d, hd, hblank⟩ := hbegins
    rw [List.head?_append, Option.mem_def.1 hd] at hc
    exact Option.some.inj hc ▸ hblank
  have hreverse : ∀ c ∈ (Text.trimLeft before ++ x).reverse.head?, Text.isBlank c = false := by
    intro c hc
    obtain ⟨d, hd, hblank⟩ := hends
    rw [List.head?_reverse, List.getLast?_append, Option.mem_def.1 hd] at hc
    exact Option.some.inj hc ▸ hblank
  rw [Text.trim, hleft, Text.trimRight, ← List.append_assoc, List.reverse_append,
    dropWhile_append_of_head? hreverse, List.reverse_append, List.reverse_reverse,
    List.append_assoc]
  rfl

/-- A predicate that is read is the answer if nothing but blanks is behind it. -/
theorem readAs_found? : ReadAs condition ((readPredicateAt (Text.trim condition)).found?.bind
    fun found => if skipSpace found.2 = [] then some found.1 else none) := by
  cases hread : readPredicateAt (Text.trim condition) with
  | stopped rest => exact ⟨_, by rw [readPredicate, hread]⟩
  | done p rest =>
      by_cases hrest : skipSpace rest = []
      · simp [Reading.found?, ReadAs, readPredicate, hread, hrest]
      · simp [Reading.found?, ReadAs, readPredicate, hread, hrest]

/-- What fills the place is not passed over with the blanks. -/
theorem Fills.isRead_iff (h : Fills after readable x operand) :
    skipSpace (d.fill after x) = [] ↔ d.IsRead := by
  rw [← h.fill_skipSpace]
  cases d with
  | ahead front =>
      have hpos := h.length_pos
      simp [Draft.skipSpace, Draft.fill, Draft.IsRead, List.ne_nil_of_length_pos hpos]
  | behind text => rfl

/-- A place is one for an operand, and the condition has a template for it, or the condition is
refused whatever fills the place. Where none can be read off what fills it, it is refused. -/
theorem readPredicate_at (hplace : Place before after) (readable : Bool) :
    ∃ out : Option Template, (∀ template ∈ out, template.places = 1 ∧ readable = true) ∧
      ∀ x operand, Fills (Text.trimRight after) readable x operand → Ends x →
        ReadAs (before ++ x ++ after) (out.map (Template.fill operand)) := by
  have hclear : Clear (Text.trimLeft before) := (skips_dropWhile fun _ => id).clear hplace.clear
  have hitem : PredicatesAlike (Text.trimRight after) readable
      ((Draft.ahead (Text.trimLeft before)).size (Text.trimRight after) + 1) readNegation :=
    readsAlike_readNegation _
  obtain ⟨out, hout, hread⟩ :=
    hitem.readDisjunction (.ahead (Text.trimLeft before)) hclear (Nat.lt_succ_self _)
  refine ⟨out.bind fun found => if found.2.IsRead then some found.1 else none,
    fun template htemplate => ?_, fun x operand hx hends => ?_⟩
  · obtain ⟨⟨first, e⟩, hfound, hite⟩ := Option.bind_eq_some_iff.1 htemplate
    obtain ⟨hisRead, hsome⟩ := Option.ite_none_right_eq_some.1 hite
    cases hsome
    obtain ⟨hleaves, -⟩ := hout _ hfound
    -- Nothing is left, so the place is behind what is left.
    have hplaces : first.places = 1 := by
      cases e with
      | ahead front => exact hisRead.elim
      | behind text => exact hleaves.places
    refine ⟨hplaces, ?_⟩
    by_contra hreadable
    cases hplaces.symm.trans (hleaves.readable (Bool.eq_false_iff.2 hreadable))
  · have hfound : (readPredicateAt (Text.trim (before ++ x ++ after))).found? = out.map fun found =>
        (found.1.fill operand, found.2.fill (Text.trimRight after) x) := by
      rw [List.append_assoc, trim_append (begins_of_fills hx) hends]
      exact hread x operand _ hx (Nat.lt_succ_self _)
    have hanswer : ReadAs (before ++ x ++ after) _ := readAs_found?
    rw [hfound, Option.bind_map] at hanswer
    cases out with
    | none => exact hanswer
    | some found =>
        simp only [Option.bind_some, Function.comp_apply, hx.isRead_iff] at hanswer ⊢
        by_cases hisRead : found.2.IsRead
        · rw [if_pos hisRead] at hanswer ⊢
          exact hanswer
        · rw [if_neg hisRead] at hanswer ⊢
          exact hanswer

/-- The delimiter behind a place is still there when blanks are trimmed. -/
theorem Place.stops (h : Place before after) : Stops (Text.trimRight after) := by
  refine stops_of_isDelimiter fun c hc => h.ends c ?_
  obtain ⟨tail, htail⟩ : Text.trimRight after <+: after := List.rdropWhile_prefix _ _
  rw [← htail, List.head?_append, Option.mem_def.1 hc]
  rfl

/-- The words and the numerals fill places. -/
theorem Place.exists_fills (h : Place before after) (hx : IsPlainWord x ∨ IsNumeral x) :
    ∃ readable operand, Fills (Text.trimRight after) readable x operand ∧ Ends x := by
  obtain hword | ⟨negative, digits, hne, hdigits, rfl⟩ := hx
  · exact ⟨true, _, hword.fills h.stops, ends_of_isWordChar hword.ne_nil hword.1.1⟩
  · exact ⟨_, _, fills_numeral hne hdigits h.stops, ends_numeral hne hdigits⟩

/-- A place for an operand has a template. -/
theorem OperandPlace.exists_template (h : OperandPlace before after) :
    ∃ template : Template, template.places = 1 ∧
      ∀ x operand, Fills (Text.trimRight after) true x operand → Ends x →
        readPredicate (before ++ x ++ after) = .ok (template.fill operand) := by
  obtain ⟨x, p, hx, hread⟩ := h.accepted
  obtain ⟨readable, operand, hfills, hends⟩ := h.exists_fills hx
  obtain ⟨out, hout, hall⟩ := readPredicate_at h.toPlace readable
  cases out with
  | none =>
      obtain ⟨offset, herror⟩ := hall x operand hfills hends
      cases hread.symm.trans herror
  | some template =>
      obtain ⟨hplaces, rfl⟩ := hout template rfl
      exact ⟨template, hplaces, hall⟩

/-- A condition is refused if no operand is read off what fills the place. -/
theorem Place.readPredicate_eq_error (h : Place before after)
    (hx : Fills (Text.trimRight after) false x operand) (hends : Ends x) :
    ∃ offset, readPredicate (before ++ x ++ after) =
      .error (.invalid (before ++ x ++ after) offset) := by
  obtain ⟨out, hout, hall⟩ := readPredicate_at h false
  cases out with
  | none => exact hall x operand hx hends
  | some template => cases (hout template rfl).2

/-- Numerals at a place for an operand. The place has a template, so that every word gives the
predicate with this word in it. A numeral gives the predicate with its integer if that has 64 bits.
One that is too great or too small for that is refused if it has a minus sign; without one it gives
the predicate with its digits as a word. -/
theorem readPredicate_numeral (h : OperandPlace before after) :
    ∃ template : Template, template.places = 1 ∧
      (∀ word, IsPlainWord word →
        readPredicate (before ++ word ++ after) = .ok (template.fill (.word word))) ∧
      ∀ negative digits, digits ≠ [] → digits.all Char.isDigit →
        let condition := before ++ numeral negative digits ++ after
        let value := signedValue negative digits
        (isInt64 value → readPredicate condition = .ok (template.fill (.literal (.int value)))) ∧
        (isInt64 value = false → negative = true →
          ∃ offset, readPredicate condition = .error (.invalid condition offset)) ∧
        (isInt64 value = false → negative = false →
          readPredicate condition = .ok (template.fill (.word digits))) := by
  obtain ⟨template, hplaces, hall⟩ := h.exists_template
  refine ⟨template, hplaces, fun word hword => ?_, fun negative digits hne hdigits => ?_⟩
  · exact hall word _ (hword.fills h.stops) (ends_of_isWordChar hword.ne_nil hword.1.1)
  · intro condition value
    have hfills : Fills (Text.trimRight after) (isInt64 value || !negative)
        (numeral negative digits)
        (if isInt64 value then .literal (.int value) else .word digits) :=
      fills_numeral hne hdigits h.stops
    have hends : Ends (numeral negative digits) := ends_numeral hne hdigits
    refine ⟨fun hint => ?_, fun hint hnegative => ?_, fun hint hnegative => ?_⟩
    · rw [hint] at hfills
      exact hall _ _ hfills hends
    · subst hnegative
      rw [hint] at hfills
      exact h.readPredicate_eq_error hfills hends
    · subst hnegative
      rw [hint] at hfills
      exact hall _ _ hfills hends

/-- The place behind `A = ` in a negated group. The least integer of 64 bits is read there, the one
below it is refused, and the one that is too great by one is a word. -/
theorem readPredicate_numeral_bounds :
    let before : Text := "b<2 or !(A = ".toList
    let after : Text := ")".toList
    let read (operand : Operand) : Predicate :=
      .or (.compare .lt (.word ['b']) (.literal (.int 2)))
        (.not (.compare .eq (.word ['A']) operand))
    OperandPlace before after ∧ IsPlainWord ['x'] ∧
      ∃ template : Template, template.places = 1 ∧
        template.fill (.word ['x']) = read (.word ['x']) ∧
        readPredicate (before ++ "-9223372036854775808".toList ++ after) =
          .ok (template.fill (.literal (.int (-9223372036854775808)))) ∧
        (∃ offset, readPredicate (before ++ "-9223372036854775809".toList ++ after) =
          .error (.invalid (before ++ "-9223372036854775809".toList ++ after) offset)) ∧
        readPredicate (before ++ "9223372036854775808".toList ++ after) =
          .ok (template.fill (.word "9223372036854775808".toList)) := by
  intro before after read
  have hx : IsPlainWord ['x'] := by decide +kernel
  have hread : readPredicate (before ++ ['x'] ++ after) = .ok (read (.word ['x'])) := by
    decide +kernel
  have hplace : OperandPlace before after :=
    { clear := ⟨by decide, by rintro c ⟨rfl⟩; rfl⟩
      ends := by rintro c ⟨rfl⟩; rfl
      accepted := ⟨['x'], _, .inl hx, hread⟩ }
  obtain ⟨template, hplaces, hword, hnumeral⟩ := readPredicate_numeral hplace
  have hleast := hnumeral true "9223372036854775808".toList (by decide) (by decide)
  have hbelow := hnumeral true "9223372036854775809".toList (by decide) (by decide)
  have habove := hnumeral false "9223372036854775808".toList (by decide) (by decide)
  exact ⟨hplace, hx, template, hplaces, Except.ok.inj ((hword ['x'] hx).symm.trans hread),
    hleast.1 (by decide +kernel), hbelow.2.1 (by decide +kernel) rfl,
    habove.2.2 (by decide +kernel) rfl⟩

/-- Not every numeral for more than 64 bits is refused: without a minus sign it is read as a
word. -/
theorem not_readPredicate_numeral_refused :
    ¬ ∀ before after negative digits, OperandPlace before after → digits ≠ [] →
      digits.all Char.isDigit → isInt64 (signedValue negative digits) = false →
      ∃ offset, readPredicate (before ++ numeral negative digits ++ after) =
        .error (.invalid (before ++ numeral negative digits ++ after) offset) := by
  intro h
  have hplace : OperandPlace "A = ".toList [] :=
    { clear := ⟨by decide, by rintro c ⟨rfl⟩; rfl⟩
      ends := nofun
      accepted := ⟨['x'], .compare .eq (.word ['A']) (.word ['x']), .inl (by decide +kernel),
        by decide +kernel⟩ }
  have hread : readPredicate ("A = ".toList ++ numeral false "9223372036854775808".toList ++ []) =
      .ok (.compare .eq (.word ['A']) (.word "9223372036854775808".toList)) := by
    decide +kernel
  obtain ⟨offset, herror⟩ := h _ _ false "9223372036854775808".toList hplace (by decide) (by decide)
    (by decide +kernel)
  cases hread.symm.trans herror

end RelQuery.Condition
