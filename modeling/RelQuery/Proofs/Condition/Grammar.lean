import RelQuery.Proofs.Condition.Lexemes

/-!
# Predicates are read as they are written

Reading is ordered choice, and a choice that fails is undone; written predicates are texts of a
grammar. Off a text of the grammar the choices read the predicate that it was written for
(`readPredicate_written`). What carries the induction is what is known of the text behind
(`Level.Reads`): it begins with a gap, and behind a disjunction no `and` goes on. A conjunction or
disjunction that has been read so far may go on in the text behind (`ReadsOn`), so that chains
associate to the left.
-/

namespace RelQuery.Condition

variable {mark? : Text → Option Text} {item : Text → Reading}
variable {combine : Predicate → Predicate → Predicate} {text rest behind after gap : Text}
variable {p q : Predicate} {level : Level} {depth : Nat} {operand : Operand} {op : Comparison}

/-! ## Chains -/

/-- A chain with `p` for its first items goes on in the text behind these, if it does. -/
def ReadsOn (mark? : Text → Option Text) (item : Text → Reading)
    (combine : Predicate → Predicate → Predicate) (text : Text) (p : Predicate) (rest : Text) :
    Prop :=
  ∃ limit, rest.length ≤ limit ∧ readChain mark? item combine text =
    let (predicate, after) := readMore mark? item combine limit p rest
    .done predicate after

/-- One item is a chain by itself. -/
theorem ReadsOn.first (h : item text = .done p rest) : ReadsOn mark? item combine text p rest :=
  ⟨rest.length, Nat.le_refl _, by rw [readChain, h]⟩

/-- A chain goes on if a mark and an item follow. -/
theorem ReadsOn.next (h : ReadsOn mark? item combine text p rest)
    (hmark : mark? (skipSpace rest) = some behind) (hitem : item (skipSpace behind) = .done q after)
    (hlength : after.length < rest.length) :
    ReadsOn mark? item combine text (combine p q) after := by
  obtain ⟨limit, hlimit, hread⟩ := h
  obtain ⟨limit, rfl⟩ : ∃ n, limit = n + 1 := Nat.exists_eq_add_one.2 (by omega)
  refine ⟨limit, by omega, ?_⟩
  rw [hread, readMore, hmark]
  simp only [hitem]

/-- So it does if they are written with gaps between them. -/
theorem ReadsOn.next_written {before mark right : Text}
    (h : ReadsOn mark? item combine text p (before ++ (mark ++ (after ++ (right ++ rest)))))
    (hbefore : IsGap before) (hmark : Begins mark)
    (hread : mark? (mark ++ (after ++ (right ++ rest))) = some (after ++ (right ++ rest)))
    (hafter : IsGap after) (hright : Begins right) (hitem : item (right ++ rest) = .done q rest) :
    ReadsOn mark? item combine text (combine p q) rest := by
  refine h.next (by rw [hbefore.skipSpace hmark.append, hread])
    (by rw [hafter.skipSpace hright.append, hitem]) ?_
  have hlength := hmark.length_pos
  simp only [List.length_append]
  omega

/-- Nothing more is read where no mark follows. -/
theorem readMore_of_mark {limit : Nat} (hmark : mark? (skipSpace text) = none) :
    readMore mark? item combine limit p text = (p, text) := by
  cases limit with
  | zero => rfl
  | succ limit => rw [readMore, hmark]

/-- A chain ends where no mark follows. -/
theorem ReadsOn.ends (h : ReadsOn mark? item combine text p rest)
    (hmark : mark? (skipSpace rest) = none) : readChain mark? item combine text = .done p rest := by
  obtain ⟨limit, -, hread⟩ := h
  rw [hread, readMore_of_mark hmark]

/-! ## Single predicates -/

/-- A comparison is read where an operand, a sign and an operand follow one another. -/
theorem readComparison_eq_done_iff : readComparison text = .done p rest ↔
    ∃ lhs op rhs before behind, operand? text = some (lhs, before) ∧
      comparison? (skipSpace before) = some (op, behind) ∧
      operand? (skipSpace behind) = some (rhs, rest) ∧ p = .compare op lhs rhs := by
  constructor
  · intro h
    cases hleft : operand? text with
    | none =>
        simp only [readComparison, hleft] at h
        cases h
    | some found =>
        obtain ⟨lhs, before⟩ := found
        cases hsign : comparison? (skipSpace before) with
        | none =>
            simp only [readComparison, hleft, hsign] at h
            cases h
        | some found =>
            obtain ⟨op, behind⟩ := found
            cases hright : operand? (skipSpace behind) with
            | none =>
                simp only [readComparison, hleft, hsign, hright] at h
                cases h
            | some found =>
                simp only [readComparison, hleft, hsign, hright] at h
                cases h
                exact ⟨lhs, op, found.1, before, behind, rfl, hsign, hright, rfl⟩
  · intro h
    obtain ⟨lhs, op, rhs, before, behind, hleft, hsign, hright, rfl⟩ := h
    simp only [readComparison, hleft, hsign, hright]

/-- A negation is read where a `not` and a predicate follow one another. -/
theorem readNegated?_eq_some_iff : readNegated? item text = some (p, rest) ↔
    ∃ behind inner, notMark? text = some behind ∧ item (skipSpace behind) = .done inner rest ∧
      p = .not inner := by
  unfold readNegated?
  constructor
  · intro h
    cases hmark : notMark? text with
    | none =>
        rw [hmark] at h
        cases h
    | some behind =>
        cases hinner : item (skipSpace behind) with
        | stopped stop =>
            simp only [hmark, hinner] at h
            cases h
        | done inner after =>
            simp only [hmark, hinner] at h
            cases h
            exact ⟨behind, inner, rfl, hinner, rfl⟩
  · intro h
    obtain ⟨behind, inner, hmark, hinner, rfl⟩ := h
    simp only [hmark, hinner]

/-- A group is read where a predicate stands between parentheses. -/
theorem readGroup?_eq_some_iff : readGroup? item text = some (p, rest) ↔
    ∃ inside behind, text = '(' :: inside ∧
      readDisjunction item (skipSpace inside) = .done p behind ∧
      skipSpace behind = ')' :: rest := by
  constructor
  · intro h
    unfold readGroup? at h
    split at h
    · rename_i inside
      split at h
      · cases h
      · rename_i inner behind hinside
        split at h
        · rename_i closing hbehind
          cases h
          exact ⟨inside, behind, rfl, hinside, hbehind⟩
        · cases h
    · cases h
  · intro h
    obtain ⟨inside, behind, rfl, hinside, hbehind⟩ := h
    simp only [readGroup?, hinside, hbehind]

/-- No negation begins with a parenthesis. -/
theorem readNegated?_open : readNegated? item ('(' :: text) = none := by
  rw [readNegated?, notMark?_cons_eq_none (isWordChar_of_mem (by decide)) (by decide)]

/-- Without a parenthesis in front there is no group. -/
theorem readGroup?_eq_none (h : text.head? ≠ some '(') : readGroup? item text = none := by
  unfold readGroup?
  split
  · simp at h
  · rfl

/-- A negation is tried first. -/
theorem readNegation_of_readNegated (h : Begins text)
    (hnegated : readNegated? (readNegation depth) text = some (p, rest)) :
    readNegation (depth + 1) text = .done p rest := by
  rw [readNegation, h.skipSpace, hnegated]
  rfl

/-- A group is tried where there is no negation. -/
theorem readNegation_of_readGroup (h : Begins text)
    (hnegated : readNegated? (readNegation depth) text = none)
    (hgroup : readGroup? (readNegation depth) text = some (p, rest)) :
    readNegation (depth + 1) text = .done p rest := by
  rw [readNegation, h.skipSpace, hnegated, hgroup]
  rfl

/-- A text that is neither a negation nor a group is read as a comparison. -/
theorem readNegation_eq_readComparison (h : Begins text)
    (hnegated : readNegated? (readNegation depth) text = none) (hopen : text.head? ≠ some '(') :
    readNegation (depth + 1) text = readComparison text := by
  rw [readNegation, h.skipSpace, hnegated, readGroup?_eq_none hopen]
  rfl

/-- Nothing is read off the sign of a comparison. -/
theorem readNegation_sign {op : Comparison} {sign : String} (hsign : sign ∈ op.spellings) :
    readNegation depth (sign.toList ++ rest) = .stopped (sign.toList ++ rest) := by
  cases depth with
  | zero => rfl
  | succ depth =>
      obtain ⟨hnot, hopen, hoperand⟩ := comparison_stops hsign rest
      have hnegated : readNegated? (readNegation depth) (sign.toList ++ rest) = none := by
        rw [readNegated?, hnot]
      rw [readNegation_eq_readComparison (begins_sign hsign).append hnegated hopen, readComparison,
        hoperand]

/-- Off a comparison no negation is read, since its sign follows a word that could be one. -/
theorem readNegated?_of_readComparison (h : readComparison text = .done p rest) :
    readNegated? (readNegation depth) text = none := by
  obtain ⟨lhs, op, rhs, before, behind, hleft, hsign, -, -⟩ := readComparison_eq_done_iff.1 h
  cases hmark : notMark? text with
  | none => rw [readNegated?, hmark]
  | some inner =>
      obtain rfl := notMark?_of_operand? hleft hmark
      obtain ⟨sign, hspelling, htext⟩ := comparison?_eq_some hsign
      simp only [readNegated?, hmark, htext, readNegation_sign hspelling]

/-- A comparison does not begin with a parenthesis. -/
theorem readGroup?_of_readComparison (h : readComparison text = .done p rest) :
    readGroup? item text = none := by
  obtain ⟨lhs, op, rhs, before, behind, hleft, -⟩ := readComparison_eq_done_iff.1 h
  apply readGroup?_eq_none
  intro hopen
  obtain ⟨tail, rfl⟩ := List.head?_eq_some_iff.1 hopen
  rw [operand?_eq_none (isWordChar_of_mem (by decide)) (by decide)] at hleft
  cases hleft

/-- So a comparison is read, as neither a negation nor a group begins there. -/
theorem readNegation_of_readComparison (hbegins : Begins text)
    (h : readComparison text = .done p rest) : readNegation (depth + 1) text = .done p rest := by
  rw [readNegation, hbegins.skipSpace, readNegated?_of_readComparison h,
    readGroup?_of_readComparison h]
  exact h

/-- A comparison is read, also if its left operand is a word that is read as a negation first. -/
theorem readNegation_compare {op : Comparison} {lhs rhs : Operand} {left before right : Text}
    {sign : String} (hleft : lhs.Written left) (hlhs : lhs.Writable) (hbefore : IsGap before)
    (hsign : sign ∈ op.spellings) (hafter : IsGap after) (hright : rhs.Written right)
    (hrhs : rhs.Writable) (hrest : AtGap rest) :
    readNegation (depth + 1) (left ++ (before ++ (sign.toList ++ (after ++ (right ++ rest))))) =
      .done (.compare op lhs rhs) rest := by
  apply readNegation_of_readComparison (hleft.begins hlhs).append
  refine readComparison_eq_done_iff.2 ⟨lhs, op, rhs,
    before ++ (sign.toList ++ (after ++ (right ++ rest))), after ++ (right ++ rest),
    operand?_written hleft hlhs hbefore.atGap, ?_, ?_, rfl⟩
  · rw [hbefore.skipSpace (begins_sign hsign).append]
    exact comparison?_written hsign hafter.atGap
  · rw [hafter.skipSpace (hright.begins hrhs).append]
    exact operand?_written hright hrhs hrest

/-- A negation of a predicate that is read is read. -/
theorem readNegation_not {mark : Text} (hmark : IsNot mark) (hgap : IsGap gap)
    (hbegins : Begins (text ++ rest)) (hinner : readNegation depth (text ++ rest) = .done p rest) :
    readNegation (depth + 1) (mark ++ (gap ++ (text ++ rest))) = .done (.not p) rest := by
  refine readNegation_of_readNegated hmark.begins.append ?_
  rw [readNegated?, notMark?_written hmark hgap.atGap]
  simp only [hgap.skipSpace hbegins, hinner]

/-- A predicate that is read is read between parentheses. -/
theorem readNegation_group {before : Text} (hbefore : IsGap before) (hafter : IsGap after)
    (hbegins : Begins text)
    (hinner : readDisjunction (readNegation depth) (text ++ (after ++ ')' :: rest)) =
      .done p (after ++ ')' :: rest)) :
    readNegation (depth + 1) ('(' :: (before ++ (text ++ (after ++ ')' :: rest)))) =
      .done p rest := by
  have hclose : Begins (')' :: rest) := ⟨')', rfl, rfl⟩
  refine readNegation_of_readGroup ⟨'(', rfl, rfl⟩ readNegated?_open ?_
  refine readGroup?_eq_some_iff.2 ⟨_, _, rfl, ?_, hafter.skipSpace hclose⟩
  rw [hbefore.skipSpace hbegins.append]
  exact hinner

/-! ## Predicates -/

/-- What is read off a text of a level that was written for a predicate, if a gap or nothing is
behind. -/
def Level.Reads : Level → Predicate → Text → Prop
  | single, p, text => ∀ depth rest, text.length ≤ depth → AtGap rest →
      readNegation depth (text ++ rest) = .done p rest
  | conjunction, p, text => ∀ depth rest, text.length ≤ depth → AtGap rest →
      ReadsOn andMark? (readNegation depth) .and (text ++ rest) p rest
  | disjunction, p, text => ∀ depth rest, text.length ≤ depth → AtGap rest →
      andMark? (skipSpace rest) = none →
      ReadsOn orMark? (readConjunction (readNegation depth)) .or (text ++ rest) p rest

/-- No predicate that can be written begins with a blank. -/
theorem Predicate.Written.begins (h : p.Written level text) (hwritable : p.Writable) :
    Begins text := by
  induction h with
  | compare hleft hbefore hsign hafter hright =>
      exact (hleft.begins hwritable.1).append.append.append.append
  | not hmark hgap hinner ih => exact hmark.begins.append.append
  | group hbefore hinner hafter ih => exact ⟨'(', rfl, rfl⟩
  | single h ih => exact ih hwritable
  | and hleft hbefore hmark hafter hright ihl ihr =>
      exact (ihl hwritable.1).append.append.append.append
  | conjunction h ih => exact ih hwritable
  | or hleft hbefore hmark hafter hright ihl ihr =>
      exact (ihl hwritable.1).append.append.append.append

/-- And none ends with one. -/
theorem Predicate.Written.ends (h : p.Written level text) (hwritable : p.Writable) :
    Ends text := by
  induction h with
  | compare hleft hbefore hsign hafter hright => exact (hright.ends hwritable.2).append
  | not hmark hgap hinner ih => exact (ih hwritable).append
  | group hbefore hinner hafter ih =>
      have hends : Ends [')'] := ⟨')', rfl, rfl⟩
      exact hends.append
  | single h ih => exact ih hwritable
  | and hleft hbefore hmark hafter hright ihl ihr => exact (ihr hwritable.2).append
  | conjunction h ih => exact ih hwritable
  | or hleft hbefore hmark hafter hright ihl ihr => exact (ihr hwritable.2).append

/-- A predicate is read off every text of the grammar that is written for it. -/
theorem Predicate.Written.reads (h : p.Written level text) (hwritable : p.Writable) :
    level.Reads p text := by
  have hpos := (h.begins hwritable).length_pos
  induction h with
  | compare hleft hbefore hsign hafter hright =>
      intro depth rest hdepth hrest
      obtain ⟨depth, rfl⟩ : ∃ n, depth = n + 1 := Nat.exists_eq_add_one.2 (by omega)
      simp only [List.append_assoc]
      exact readNegation_compare hleft hwritable.1 hbefore hsign hafter hright hwritable.2 hrest
  | not hmark hgap hinner ih =>
      intro depth rest hdepth hrest
      have hmarkPos := hmark.begins.length_pos
      simp only [List.length_append] at hdepth
      obtain ⟨depth, rfl⟩ : ∃ n, depth = n + 1 := Nat.exists_eq_add_one.2 (by omega)
      simp only [List.append_assoc]
      have hbegins := hinner.begins hwritable
      exact readNegation_not hmark hgap hbegins.append
        (ih hwritable hbegins.length_pos depth rest (by omega) hrest)
  | group hbefore hinner hafter ih =>
      intro depth rest hdepth hrest
      simp only [List.length_append, List.length_cons] at hdepth
      obtain ⟨depth, rfl⟩ : ∃ n, depth = n + 1 := Nat.exists_eq_add_one.2 (by omega)
      have hbegins := hinner.begins hwritable
      have hclose : Begins (')' :: rest) := ⟨')', rfl, rfl⟩
      have hskip := hafter.skipSpace hclose
      have hreads := ih hwritable hbegins.length_pos depth _ (by omega) hafter.atGap
        (by rw [hskip, andMark?_close])
      simp only [List.append_assoc, List.cons_append, List.nil_append]
      exact readNegation_group hbefore hafter hbegins (hreads.ends (by rw [hskip, orMark?_close]))
  | single h ih =>
      intro depth rest hdepth hrest
      exact .first (ih hwritable hpos depth rest hdepth hrest)
  | and hleft hbefore hmark hafter hright ihl ihr =>
      intro depth rest hdepth hrest
      simp only [List.length_append] at hdepth
      simp only [List.append_assoc]
      have hl := hleft.begins hwritable.1
      have hr := hright.begins hwritable.2
      exact (ihl hwritable.1 hl.length_pos depth _ (by omega) hbefore.atGap).next_written hbefore
        hmark.begins (andMark?_written hmark hafter.atGap) hafter hr
        (ihr hwritable.2 hr.length_pos depth rest (by omega) hrest)
  | conjunction h ih =>
      intro depth rest hdepth hrest hand
      exact .first ((ih hwritable hpos depth rest hdepth hrest).ends hand)
  | @or lhs rhs left before mark after right hleft hbefore hmark hafter hright ihl ihr =>
      intro depth rest hdepth hrest hand
      simp only [List.length_append] at hdepth
      simp only [List.append_assoc]
      have hl := hleft.begins hwritable.1
      have hr := hright.begins hwritable.2
      have hend : andMark? (skipSpace (before ++ (mark ++ (after ++ (right ++ rest))))) = none := by
        rw [hbefore.skipSpace hmark.begins.append, andMark?_or hmark hafter.atGap]
      exact (ihl hwritable.1 hl.length_pos depth _ (by omega) hbefore.atGap hend).next_written
        hbefore hmark.begins (orMark?_written hmark hafter.atGap) hafter hr
        ((ihr hwritable.2 hr.length_pos depth rest (by omega) hrest).ends hand)

/-- Predicates that can be written are read as they are written, with every spelling of comparisons
and connectives, parentheses wherever they are needed or not, and any gaps between the parts; and
there is a text for each of them. -/
theorem readPredicate_written (hwritable : p.Writable) :
    (∃ text, p.Written .disjunction text) ∧
      ∀ text, p.Written .disjunction text → readPredicate text = .ok p := by
  constructor
  · obtain ⟨text, h⟩ := Predicate.exists_written hwritable
    exact ⟨text, .conjunction (.single h)⟩
  · intro text h
    have hread := (h.reads hwritable (text.length + 1) [] (Nat.le_succ _) nofun rfl).ends rfl
    rw [List.append_nil] at hread
    have htrim := trim_eq_self (h.begins hwritable) (h.ends hwritable)
    rw [readPredicate, htrim, readPredicateAt, readDisjunction, hread]
    rfl

/-- A word that is also a keyword, negated, beside a group with another one in it. -/
theorem readPredicate_written_keywords :
    let negated : Predicate := .not (.compare .eq (.word "not".toList) (.literal (.int 1)))
    let quoted : Predicate := .compare .eq (.word ['a']) (.literal (.text ['x']))
    let negative : Predicate := .compare .ne (.word "And".toList) (.literal (.int (-5)))
    let p : Predicate := .or negated (.and quoted negative)
    let text : Text := "NOT not = 1\tOr ( a == 'x' & And <> -5 )".toList
    p.Writable ∧ p.Written .disjunction text ∧ readPredicate text = .ok p := by
  intro negated quoted negative p text
  have hwritable : p.Writable := by decide
  have hblank : IsGap [' '] := isGap_singleton rfl
  have htab : IsGap ['\t'] := isGap_singleton rfl
  have hnot : IsNot "NOT".toList := .inl (by decide)
  have hnegated : negated.Written .single "NOT not = 1".toList :=
    .not hnot hblank (@Predicate.Written.compare .eq _ _ _ _ _ _ "=" (.word _) hblank (by decide)
      hblank (@Operand.Written.digits ['1'] (by decide) (by decide)))
  have hquoted : quoted.Written .single "a == 'x'".toList :=
    @Predicate.Written.compare .eq _ _ _ _ _ _ "==" (.word _) hblank (by decide) hblank
      (.quoted (.inl rfl) (by decide))
  have hnegative : negative.Written .single "And <> -5".toList :=
    @Predicate.Written.compare .ne _ _ _ _ _ _ "<>" (.word _) hblank (by decide) hblank
      (@Operand.Written.minus ['5'] (by decide) (by decide))
  have hand : IsAnd "&".toList := .inr ⟨"&", by decide, rfl⟩
  have hor : IsOr "Or".toList := .inl (by decide)
  have hgroup : Predicate.Written .single (.and quoted negative)
      "( a == 'x' & And <> -5 )".toList :=
    .group hblank (.conjunction (.and (.single hquoted) hblank hand hblank hnegative)) hblank
  have hwritten : p.Written .disjunction text :=
    .or (.conjunction (.single hnegated)) htab hor hblank (.single hgroup)
  exact ⟨hwritable, hwritten, (readPredicate_written hwritable).2 text hwritten⟩

end RelQuery.Condition
