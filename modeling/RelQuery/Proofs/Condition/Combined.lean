import RelQuery.Proofs.Condition.Closing

/-!
# Conditions in parentheses

A condition that is accepted can be put between parentheses and combined with others
(`readPredicate_combined`). Reading goes by ordered choice, and a chain leaves a mark unread that no
item follows, so what is read off a text could change when more text follows. In front of a closing
parenthesis it does not: the choices that were made are made again (`readNegation_append_close`), if
at the end of every chain there is no mark. A text is accepted as a whole, so this is true of the
outermost chain, and of a chain between parentheses since the parenthesis that closes it follows.
-/

namespace RelQuery.Condition

variable {mark? : Text → Option Text} {item other : Text → Reading} {settled : Text → Prop}
variable {combine : Predicate → Predicate → Predicate} {text rest behind after gap : Text}
variable {operand : Operand} {op : Comparison} {p q first : Predicate} {depth more limit : Nat}

/-! ## Chains -/

/-- What `item` reads off a text, `other` reads off the text in front of a closing parenthesis, if
the text behind is settled. -/
def Keeps (settled : Text → Prop) (after : Text) (item other : Text → Reading) : Prop :=
  ∀ {text p rest}, item text = .done p rest → settled rest →
    other (text ++ ')' :: after) = .done p (rest ++ ')' :: after)

section

variable (hmarked : ∀ {rest behind}, mark? (skipSpace rest) = some behind → settled rest)
include hmarked

/-- Where a chain goes on, and where it ends in front of a settled text, the text is settled. -/
theorem settled_of_readMore (h : readMore mark? item combine limit first text = (p, rest))
    (hrest : settled rest) : settled text := by
  cases hmark : mark? (skipSpace text) with
  | none =>
      rw [readMore_of_mark hmark] at h
      cases h
      exact hrest
  | some behind => exact hmarked hmark

variable (hread : ∀ {text}, mark? (text ++ ')' :: after) = (mark? text).map (· ++ ')' :: after))
variable (hitem : Keeps settled after item other)
include hread hitem

/-- A chain that ends where no mark follows has the same items in front of a closing parenthesis. -/
theorem readMore_append_close (hlimit : limit ≤ more)
    (h : readMore mark? item combine limit first text = (p, rest)) (hrest : settled rest)
    (hend : mark? (skipSpace rest) = none) :
    readMore mark? other combine more first (text ++ ')' :: after) = (p, rest ++ ')' :: after) := by
  have hends : mark? (skipSpace (rest ++ ')' :: after)) = none := by
    rw [skipSpace_append_close, hread, hend, Option.map_none]
  induction limit generalizing more first text with
  | zero =>
      cases h
      exact readMore_of_mark hends
  | succ limit ih =>
      obtain ⟨more, rfl⟩ : ∃ n, more = n + 1 := Nat.exists_eq_add_one.2 (by omega)
      cases hmark : mark? (skipSpace text) with
      | none =>
          rw [readMore_of_mark hmark] at h
          cases h
          exact readMore_of_mark hends
      | some behind =>
          simp only [readMore, hmark] at h
          cases hnext : item (skipSpace behind) with
          | stopped stop =>
              -- The mark would be left unread, and at the end there is none.
              rw [hnext] at h
              cases h
              cases hend.symm.trans hmark
          | done next found =>
              rw [hnext] at h
              have hfound := hitem hnext (settled_of_readMore hmarked h hrest)
              simp only [readMore, skipSpace_append_close, hread, hmark, Option.map_some, hfound]
              exact ih (by omega) h

/-- A chain is kept if its items are, and if no mark follows it that would let it go on. -/
theorem readChain_append_close :
    Keeps (fun rest => settled rest ∧ mark? (skipSpace rest) = none) after
      (readChain mark? item combine) (readChain mark? other combine) := by
  intro text p rest h hsettled
  obtain ⟨hrest, hend⟩ := hsettled
  cases hfirst : item text with
  | stopped stop =>
      rw [readChain, hfirst] at h
      cases h
  | done first found =>
      cases hmore : readMore mark? item combine found.length first found with
      | mk predicate behind =>
          simp only [readChain, hfirst, hmore] at h
          cases h
          -- There is more text to go through, so more items may be read than before.
          have hlimit : found.length ≤ (found ++ ')' :: after).length := by simp
          have hother := hitem hfirst (settled_of_readMore hmarked hmore hrest)
          simp only [readChain, hother,
            readMore_append_close hmarked hread hitem hlimit hmore hrest hend]

end

/-! ## Conjunctions and disjunctions -/

/-- No chain goes on in the text behind. -/
def NoMark (rest : Text) : Prop :=
  orMark? (skipSpace rest) = none ∧ andMark? (skipSpace rest) = none

/-- So a disjunction is kept if neither mark follows. -/
theorem readDisjunction_append_close (hitem : Keeps (fun _ => True) after item other) :
    Keeps NoMark after (readDisjunction item) (readDisjunction other) := by
  intro text p rest h hrest
  have hconjunction : Keeps (fun rest => andMark? (skipSpace rest) = none) after
      (readConjunction item) (readConjunction other) := by
    intro text p rest h hrest
    exact readChain_append_close (fun _ => trivial) andMark?_append_close hitem h ⟨trivial, hrest⟩
  -- A conjunction is settled where no `and` follows, and in front of an `or` none does.
  exact readChain_append_close andMark?_of_orMark? orMark?_append_close hconjunction h
    ⟨hrest.2, hrest.1⟩

/-! ## Comparisons -/

/-- A comparison is kept, since no operand goes on in a parenthesis. -/
theorem readComparison_append_close (h : readComparison text = .done p rest) :
    readComparison (text ++ ')' :: after) = .done p (rest ++ ')' :: after) := by
  obtain ⟨lhs, op, rhs, before, behind, hleft, hsign, hright, hp⟩ := readComparison_eq_done_iff.1 h
  refine readComparison_eq_done_iff.2 ⟨lhs, op, rhs, before ++ ')' :: after,
    behind ++ ')' :: after, operand?_append_close hleft, ?_, ?_, hp⟩
  · rw [skipSpace_append_close, comparison?_append_close, hsign]
    rfl
  · rw [skipSpace_append_close]
    exact operand?_append_close hright

/-! ## Negations and groups -/

/-- A negation is kept if what it negates is. -/
theorem readNegated?_append_close (hitem : Keeps (fun _ => True) after item other)
    (h : readNegated? item text = some (p, rest)) :
    readNegated? other (text ++ ')' :: after) = some (p, rest ++ ')' :: after) := by
  obtain ⟨behind, inner, hmark, hinner, hp⟩ := readNegated?_eq_some_iff.1 h
  refine readNegated?_eq_some_iff.2 ⟨behind ++ ')' :: after, inner, ?_, ?_, hp⟩
  · rw [notMark?_append_close, hmark]
    rfl
  · rw [skipSpace_append_close]
    exact hitem hinner trivial

/-- A group ends with its own parenthesis, so another one behind it does not matter. -/
theorem readGroup?_append_close (hitem : Keeps (fun _ => True) after item other)
    (h : readGroup? item text = some (p, rest)) :
    readGroup? other (text ++ ')' :: after) = some (p, rest ++ ')' :: after) := by
  obtain ⟨inside, behind, rfl, hinside, hbehind⟩ := readGroup?_eq_some_iff.1 h
  have hmark : NoMark behind := by
    rw [NoMark, hbehind]
    exact ⟨orMark?_close, andMark?_close⟩
  refine readGroup?_eq_some_iff.2
    ⟨inside ++ ')' :: after, behind ++ ')' :: after, rfl, ?_, ?_⟩
  · rw [skipSpace_append_close]
    exact readDisjunction_append_close hitem hinside hmark
  · rw [skipSpace_append_close, hbehind]
    rfl

/-- What is read off a text is read off it in front of a closing parenthesis, also if more may be
nested. -/
theorem readNegation_append_close (hdepth : depth ≤ more) :
    Keeps (fun _ => True) after (readNegation depth) (readNegation more) := by
  induction depth generalizing more with
  | zero =>
      intro text p rest h _
      cases h
  | succ depth ih =>
      intro text p rest h _
      obtain ⟨more, rfl⟩ : ∃ n, more = n + 1 := Nat.exists_eq_add_one.2 (by omega)
      have hitem : Keeps (fun _ => True) after (readNegation depth) (readNegation more) :=
        ih (by omega)
      simp only [readNegation, skipSpace_append_close] at h ⊢
      generalize skipSpace text = text at h ⊢
      -- The alternatives are tried in the same order, so the earlier ones must fail again.
      cases hnegated : readNegated? (readNegation depth) text with
      | some found =>
          rw [hnegated] at h
          cases h
          rw [readNegated?_append_close hitem hnegated]
          rfl
      | none =>
          cases hgroup : readGroup? (readNegation depth) text with
          | some found =>
              rw [hnegated, hgroup] at h
              cases h
              obtain ⟨inside, -, rfl, -⟩ := readGroup?_eq_some_iff.1 hgroup
              rw [readGroup?_append_close hitem hgroup, List.cons_append, readNegated?_open]
              rfl
          | none =>
              rw [hnegated, hgroup] at h
              have hcomparison : readComparison (text ++ ')' :: after) =
                  .done p (rest ++ ')' :: after) := readComparison_append_close h
              rw [readNegated?_of_readComparison hcomparison,
                readGroup?_of_readComparison hcomparison]
              exact hcomparison

/-! ## Whole conditions -/

/-- A condition between parentheses. -/
def enclosed (condition : Text) : Text :=
  '(' :: (Text.trim condition ++ [')'])

/-- A text in parentheses begins with no blank. -/
theorem begins_enclosed : Begins (enclosed text) :=
  ⟨'(', rfl, rfl⟩

/-- And ends with none. -/
theorem ends_enclosed : Ends (enclosed text) := by
  have hclose : Ends [')'] := ⟨')', rfl, rfl⟩
  exact show Ends ('(' :: Text.trim text ++ [')']) from hclose.append

/-- A predicate that is read is read to the end of the trimmed text. -/
theorem readDisjunction_of_readPredicate (h : readPredicate text = .ok p) :
    ∃ rest, readDisjunction (readNegation ((Text.trim text).length + 1)) (Text.trim text) =
      .done p rest ∧ skipSpace rest = [] := by
  simp only [readPredicate, readPredicateAt] at h
  cases hread : readDisjunction (readNegation ((Text.trim text).length + 1)) (Text.trim text) with
  | stopped stop =>
      rw [hread] at h
      cases h
  | done predicate behind =>
      cases hrest : skipSpace behind with
      | nil =>
          simp only [hread, hrest, List.isEmpty_nil, if_true] at h
          cases h
          exact ⟨behind, rfl, hrest⟩
      | cons c tail =>
          simp only [hread, hrest, List.isEmpty_cons] at h
          cases h

/-- And what is read to the end is a predicate, if there is nothing to trim. -/
theorem readPredicate_of_readDisjunction (hbegins : Begins text) (hends : Ends text)
    (h : readDisjunction (readNegation (text.length + 1)) text = .done p []) :
    readPredicate text = .ok p := by
  rw [readPredicate, trim_eq_self hbegins hends, readPredicateAt, h]
  rfl

/-- A condition is read between parentheses as it is read by itself. -/
theorem readNegation_enclosed (rest : Text) (h : readPredicate text = .ok p)
    (hdepth : (enclosed text).length ≤ depth + 1) :
    readNegation (depth + 1) (enclosed text ++ rest) = .done p rest := by
  obtain ⟨behind, hread, hbehind⟩ := readDisjunction_of_readPredicate h
  simp only [enclosed, List.length_cons, List.length_append, List.length_nil] at hdepth
  have hitem : Keeps (fun _ => True) rest (readNegation ((Text.trim text).length + 1))
      (readNegation depth) := readNegation_append_close (by omega)
  -- The whole condition was read, so the parenthesis is what follows it.
  have hmark : NoMark behind := by
    rw [NoMark, hbehind]
    exact ⟨rfl, rfl⟩
  have hgroup : readGroup? (readNegation depth) ('(' :: (Text.trim text ++ ')' :: rest)) =
      some (p, rest) := by
    refine readGroup?_eq_some_iff.2
      ⟨Text.trim text ++ ')' :: rest, behind ++ ')' :: rest, rfl, ?_, ?_⟩
    · rw [skipSpace_append_close, skipSpace_trim]
      exact readDisjunction_append_close hitem hread hmark
    · rw [skipSpace_append_close, hbehind]
      rfl
  have htext : enclosed text ++ rest = '(' :: (Text.trim text ++ ')' :: rest) := by
    simp [enclosed]
  rw [htext]
  exact readNegation_of_readGroup ⟨'(', rfl, rfl⟩ readNegated?_open hgroup

/-- A predicate in parentheses is read to the end. -/
theorem readNegation_enclosed_end (h : readPredicate text = .ok p)
    (hdepth : (enclosed text).length ≤ depth + 1) :
    readNegation (depth + 1) (enclosed text) = .done p [] := by
  simpa using readNegation_enclosed [] h hdepth

section

variable {left right mark : Text}

/-- A chain of two conditions between parentheses, with gaps around the mark. -/
theorem readChain_enclosed
    (hfirst : ∀ rest, item (enclosed left ++ (gap ++ (mark ++ (after ++ rest)))) =
      .done p (gap ++ (mark ++ (after ++ rest))))
    (hsecond : item (enclosed right) = .done q []) (hgap : IsGap gap) (hmark : Begins mark)
    (hafter : IsGap after) (hread : ∀ rest, mark? (mark ++ (after ++ rest)) = some (after ++ rest))
    (hend : mark? [] = none) :
    readChain mark? item combine (enclosed left ++ (gap ++ (mark ++ (after ++ enclosed right)))) =
      .done (combine p q) [] := by
  rw [← List.append_nil (enclosed right)] at hsecond ⊢
  exact ((ReadsOn.first (hfirst _)).next_written hgap hmark (hread _) hafter begins_enclosed
    hsecond).ends hend

variable (hp : readPredicate left = .ok p) (hq : readPredicate right = .ok q) (hgap : IsGap gap)
variable (hafter : IsGap after)
include hp hq hgap hafter

/-- Two predicates in parentheses with an `and` between them are their conjunction. -/
theorem readPredicate_and (hmark : IsAnd mark) :
    readPredicate (enclosed left ++ (gap ++ (mark ++ (after ++ enclosed right)))) =
      .ok (.and p q) := by
  refine readPredicate_of_readDisjunction begins_enclosed.append
    ends_enclosed.append.append.append.append ?_
  generalize hdepth : (enclosed left ++ (gap ++ (mark ++ (after ++ enclosed right)))).length = depth
  simp only [List.length_append] at hdepth
  have hsecond : readNegation (depth + 1) (enclosed right) = .done q [] :=
    readNegation_enclosed_end hq (by omega)
  have hand : readConjunction (readNegation (depth + 1))
      (enclosed left ++ (gap ++ (mark ++ (after ++ enclosed right)))) = .done (.and p q) [] :=
    readChain_enclosed (fun rest => readNegation_enclosed _ hp (by omega)) hsecond hgap
      hmark.begins hafter (fun rest => andMark?_written hmark hafter.atGap) rfl
  exact (ReadsOn.first hand).ends rfl

/-- With an `or` between them they are their disjunction. -/
theorem readPredicate_or (hmark : IsOr mark) :
    readPredicate (enclosed left ++ (gap ++ (mark ++ (after ++ enclosed right)))) =
      .ok (.or p q) := by
  refine readPredicate_of_readDisjunction begins_enclosed.append
    ends_enclosed.append.append.append.append ?_
  generalize hdepth : (enclosed left ++ (gap ++ (mark ++ (after ++ enclosed right)))).length = depth
  simp only [List.length_append] at hdepth
  have hsecond : readConjunction (readNegation (depth + 1)) (enclosed right) = .done q [] := by
    have hright : readNegation (depth + 1) (enclosed right) = .done q [] :=
      readNegation_enclosed_end hq (by omega)
    exact (ReadsOn.first hright).ends rfl
  -- Each condition is a conjunction of its own: behind the first one there is an `or`.
  have hfirst : ∀ rest, readConjunction (readNegation (depth + 1))
      (enclosed left ++ (gap ++ (mark ++ (after ++ rest)))) =
        .done p (gap ++ (mark ++ (after ++ rest))) := by
    intro rest
    have hend : andMark? (skipSpace (gap ++ (mark ++ (after ++ rest)))) = none := by
      rw [hgap.skipSpace hmark.begins.append, andMark?_or hmark hafter.atGap]
    exact (ReadsOn.first (readNegation_enclosed _ hp (by omega))).ends hend
  exact readChain_enclosed hfirst hsecond hgap hmark.begins hafter
    (fun rest => orMark?_written hmark hafter.atGap) rfl

end

/-- A predicate in parentheses behind a `not` is its negation. -/
theorem readPredicate_not {mark : Text} (h : readPredicate text = .ok p) (hmark : IsNot mark)
    (hgap : IsGap gap) : readPredicate (mark ++ (gap ++ enclosed text)) = .ok (.not p) := by
  refine readPredicate_of_readDisjunction hmark.begins.append ends_enclosed.append.append ?_
  have hpos := hmark.begins.length_pos
  obtain ⟨depth, hdepth⟩ : ∃ n, (mark ++ (gap ++ enclosed text)).length = n + 1 := by
    refine Nat.exists_eq_add_one.2 ?_
    rw [List.length_append]
    omega
  have hinner : readNegation (depth + 1) (enclosed text) = .done p [] := by
    simp only [List.length_append] at hdepth
    exact readNegation_enclosed_end h (by omega)
  rw [hdepth]
  rw [← List.append_nil (enclosed text)] at hinner ⊢
  have hnot := readNegation_not hmark hgap begins_enclosed.append hinner
  exact (ReadsOn.first ((ReadsOn.first hnot).ends rfl)).ends rfl

/-- Two conditions that are accepted can be put between parentheses and combined by `and`, `or` and
`not`, and what is read is the combination of what is read off the two. -/
theorem readPredicate_combined {left right : Text} (hp : readPredicate left = .ok p)
    (hq : readPredicate right = .ok q) :
    readPredicate ("(".toList ++ Text.trim left ++ ") and (".toList ++ Text.trim right ++
        ")".toList) = .ok (.and p q) ∧
      readPredicate ("(".toList ++ Text.trim left ++ ") or (".toList ++ Text.trim right ++
        ")".toList) = .ok (.or p q) ∧
      readPredicate ("not (".toList ++ Text.trim left ++ ")".toList) = .ok (.not p) := by
  have hgap : IsGap [' '] := isGap_singleton rfl
  have hand : IsAnd "and".toList := .inl (by decide)
  have hor : IsOr "or".toList := .inl (by decide)
  have hnot : IsNot "not".toList := .inl (by decide)
  refine ⟨?_, ?_, ?_⟩
  · simpa [enclosed] using readPredicate_and hp hq hgap hgap hand
  · simpa [enclosed] using readPredicate_or hp hq hgap hgap hor
  · simpa [enclosed] using readPredicate_not hp hnot hgap

/-- A parenthesis in a text, a word that is also a keyword, and blanks around a condition. -/
theorem readPredicate_combined_keywords :
    let left : Text := " not = 'a) or (' ".toList
    let right : Text := "!(b<2) | c = 1".toList
    let p : Predicate := .compare .eq (.word "not".toList) (.literal (.text "a) or (".toList))
    let q : Predicate := .or (.not (.compare .lt (.word ['b']) (.literal (.int 2))))
      (.compare .eq (.word ['c']) (.literal (.int 1)))
    readPredicate left = .ok p ∧ readPredicate right = .ok q ∧
      readPredicate "(not = 'a) or (') and (!(b<2) | c = 1)".toList = .ok (.and p q) ∧
      readPredicate "(not = 'a) or (') or (!(b<2) | c = 1)".toList = .ok (.or p q) ∧
      readPredicate "not (not = 'a) or (')".toList = .ok (.not p) := by
  intro left right p q
  have hp : readPredicate left = .ok p := rfl
  have hq : readPredicate right = .ok q := rfl
  exact ⟨hp, hq, readPredicate_combined hp hq⟩

end RelQuery.Condition
