import RelQuery.Proofs.Condition.Words
import RelQuery.Table.Cell

/-!
# How predicates are written

The grammar of conditions, as a relation between predicates and the texts that may be written for
them. Of the connectives `not` binds tightest and `or` loosest, and `and` and `or` associate to the
left; parentheses may stand around every predicate and must where a part binds looser than its place
allows. Parts are separated by gaps. Keywords are written in any letter case and text in one of the
quotes that are not in it. `Predicate.Writable` says of which predicates there are texts
(`Predicate.exists_written`).
-/

namespace RelQuery.Condition

/-! ## Parts -/

/-- The spellings of a comparison. -/
def Comparison.spellings : Comparison → List String
  | eq => ["=", "=="]
  | ne => ["!=", "<>"]
  | lt => ["<"]
  | le => ["<="]
  | gt => [">"]
  | ge => [">="]

/-- A connective: a word in any letter case, or one of some signs. -/
def IsMark (word : String) (signs : List String) (text : Text) : Prop :=
  InAnyCase word.toList text ∨ ∃ sign ∈ signs, text = sign.toList

/-- A conjunction's mark. -/
def IsAnd (text : Text) : Prop :=
  IsMark "and" ["&&", "&"] text

/-- A disjunction's mark. -/
def IsOr (text : Text) : Prop :=
  IsMark "or" ["||", "|"] text

/-- A negation's mark. -/
def IsNot (text : Text) : Prop :=
  IsMark "not" ["!"] text

/-- The operands that can be written: words that are read neither as numbers nor as truth values,
integers of 64 bits, text in which one of the quotes does not occur, and truth values. Numbers of
double precision are left out, since not every one is written as it is read. -/
def Operand.Writable : Operand → Prop
  | .word run => run.all isWordChar ∧ ¬ run.all Char.isDigit ∧
      ∀ value, ¬ InAnyCase (Cell.truthWord value) run
  | .literal (.int n) => isInt64 n
  | .literal (.text body) => '\'' ∉ body ∨ '"' ∉ body
  | .literal (.truth _) => True
  | .literal (.float _) => False

/-- Decided by the kind of the operand. -/
instance : (operand : Operand) → Decidable operand.Writable
  | .word run => inferInstanceAs (Decidable (run.all isWordChar ∧ ¬ run.all Char.isDigit ∧
      ∀ value, ¬ InAnyCase (Cell.truthWord value) run))
  | .literal (.int n) => inferInstanceAs (Decidable (isInt64 n))
  | .literal (.text body) => inferInstanceAs (Decidable ('\'' ∉ body ∨ '"' ∉ body))
  | .literal (.truth _) => inferInstanceAs (Decidable True)
  | .literal (.float _) => inferInstanceAs (Decidable False)

/-- What an operand is written as. -/
inductive Operand.Written : Operand → Text → Prop where
  | word (run : Text) : Written (.word run) run
  | digits {digits : Text} (hne : digits ≠ []) (hdigits : digits.all Char.isDigit) :
      Written (.literal (.int (Text.digitsValue digits))) digits
  | minus {digits : Text} (hne : digits ≠ []) (hdigits : digits.all Char.isDigit) :
      Written (.literal (.int (-Text.digitsValue digits))) ('-' :: digits)
  | quoted {quote : Char} {body : Text} (hquote : quote = '\'' ∨ quote = '"')
      (hbody : quote ∉ body) : Written (.literal (.text body)) (quote :: body ++ [quote])
  | truth {value : Bool} {text : Text} (h : InAnyCase (Cell.truthWord value) text) :
      Written (.literal (.truth value)) text

/-! ## Predicates -/

/-- How tightly a text holds together. -/
inductive Level where
  /-- A comparison, a negation or a group. -/
  | single
  /-- One or more of these with `and` between them. -/
  | conjunction
  /-- One or more of these with `or` between them. -/
  | disjunction

/-- The predicates that can be written: those of operands that can be written. -/
def Predicate.Writable : Predicate → Prop
  | compare _ lhs rhs => lhs.Writable ∧ rhs.Writable
  | and lhs rhs => lhs.Writable ∧ rhs.Writable
  | or lhs rhs => lhs.Writable ∧ rhs.Writable
  | not inner => inner.Writable

/-- Decided part by part. -/
instance Predicate.decidableWritable : (p : Predicate) → Decidable p.Writable
  | compare _ lhs rhs => inferInstanceAs (Decidable (lhs.Writable ∧ rhs.Writable))
  | and lhs rhs =>
      have := decidableWritable lhs
      have := decidableWritable rhs
      inferInstanceAs (Decidable (lhs.Writable ∧ rhs.Writable))
  | or lhs rhs =>
      have := decidableWritable lhs
      have := decidableWritable rhs
      inferInstanceAs (Decidable (lhs.Writable ∧ rhs.Writable))
  | not inner => decidableWritable inner

/-- What a predicate is written as. -/
inductive Predicate.Written : Level → Predicate → Text → Prop where
  | compare {op : Comparison} {lhs rhs : Operand} {left before after right : Text} {sign : String}
      (hleft : lhs.Written left) (hbefore : IsGap before) (hsign : sign ∈ op.spellings)
      (hafter : IsGap after) (hright : rhs.Written right) :
      Written .single (.compare op lhs rhs) (left ++ before ++ sign.toList ++ after ++ right)
  | not {inner : Predicate} {mark gap text : Text} (hmark : IsNot mark) (hgap : IsGap gap)
      (hinner : Written .single inner text) : Written .single (.not inner) (mark ++ gap ++ text)
  | group {inner : Predicate} {before text after : Text} (hbefore : IsGap before)
      (hinner : Written .disjunction inner text) (hafter : IsGap after) :
      Written .single inner ('(' :: before ++ text ++ after ++ [')'])
  | single {p : Predicate} {text : Text} (h : Written .single p text) :
      Written .conjunction p text
  | and {lhs rhs : Predicate} {left before mark after right : Text}
      (hleft : Written .conjunction lhs left) (hbefore : IsGap before) (hmark : IsAnd mark)
      (hafter : IsGap after) (hright : Written .single rhs right) :
      Written .conjunction (.and lhs rhs) (left ++ before ++ mark ++ after ++ right)
  | conjunction {p : Predicate} {text : Text} (h : Written .conjunction p text) :
      Written .disjunction p text
  | or {lhs rhs : Predicate} {left before mark after right : Text}
      (hleft : Written .disjunction lhs left) (hbefore : IsGap before) (hmark : IsOr mark)
      (hafter : IsGap after) (hright : Written .conjunction rhs right) :
      Written .disjunction (.or lhs rhs) (left ++ before ++ mark ++ after ++ right)

/-! ## Existence -/

variable {operand : Operand} {p : Predicate} {n : Nat}

/-- The numeral of a number stands for it. -/
theorem digitsValue_ofNat : Text.digitsValue (Text.ofNat n) = n := by
  have hvalue : Nat.ofDigitChars 10 (Text.ofNat n) 0 = Text.digitsValue (Text.ofNat n) :=
    Nat.ofDigitChars_eq_foldl
  rw [← hvalue]
  exact Nat.ofDigitChars_ten_toDigits

/-- A decimal numeral is made of digits. -/
theorem all_isDigit_ofNat : (Text.ofNat n).all Char.isDigit :=
  List.all_eq_true.2 fun _ => Nat.isDigit_of_mem_toDigits (by decide) (by decide)

/-- Every operand that can be written has a text. -/
theorem Operand.exists_written (h : operand.Writable) : ∃ text, operand.Written text := by
  cases operand with
  | word run => exact ⟨run, .word run⟩
  | literal value =>
      cases value with
      | text body =>
          obtain hbody | hbody : '\'' ∉ body ∨ '"' ∉ body := h
          · exact ⟨_, .quoted (.inl rfl) hbody⟩
          · exact ⟨_, .quoted (.inr rfl) hbody⟩
      | int n =>
          have hne : Text.ofNat n.natAbs ≠ [] := Nat.toDigits_ne_nil
          obtain hn | hn := Int.natAbs_eq n
          · have hwritten := Written.digits hne all_isDigit_ofNat
            rw [digitsValue_ofNat, ← hn] at hwritten
            exact ⟨_, hwritten⟩
          · have hwritten := Written.minus hne all_isDigit_ofNat
            rw [digitsValue_ofNat, ← hn] at hwritten
            exact ⟨_, hwritten⟩
      | float x => cases h
      | truth value => exact ⟨_, .truth (show InAnyCase _ (Cell.truthWord value) by
          cases value <;> decide)⟩

/-- There is a text for every predicate that can be written: one with parentheses around all parts
of a connective. -/
theorem Predicate.exists_written (h : p.Writable) : ∃ text, p.Written .single text := by
  have hgap : IsGap [' '] := isGap_singleton rfl
  induction p with
  | compare op lhs rhs =>
      obtain ⟨hlhs, hrhs⟩ := h
      obtain ⟨left, hleft⟩ := Operand.exists_written hlhs
      obtain ⟨right, hright⟩ := Operand.exists_written hrhs
      obtain ⟨sign, hsign⟩ : ∃ sign, sign ∈ op.spellings := by
        cases op <;> exact ⟨_, List.mem_cons_self⟩
      exact ⟨_, .compare hleft hgap hsign hgap hright⟩
  | and lhs rhs ihl ihr =>
      obtain ⟨left, hleft⟩ := ihl h.1
      obtain ⟨right, hright⟩ := ihr h.2
      have hmark : IsAnd "&".toList := .inr ⟨_, by simp, rfl⟩
      exact ⟨_, .group hgap (.conjunction (.and (.single hleft) hgap hmark hgap hright)) hgap⟩
  | or lhs rhs ihl ihr =>
      obtain ⟨left, hleft⟩ := ihl h.1
      obtain ⟨right, hright⟩ := ihr h.2
      have hmark : IsOr "|".toList := .inr ⟨_, by simp, rfl⟩
      exact ⟨_, .group hgap
        (.or (.conjunction (.single hleft)) hgap hmark hgap (.single hright)) hgap⟩
  | not inner ih =>
      obtain ⟨text, htext⟩ := ih h
      exact ⟨_, .not (.inr ⟨"!", by simp, rfl⟩) hgap htext⟩

end RelQuery.Condition
