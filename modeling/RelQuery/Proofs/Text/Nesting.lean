import RelQuery.Text

/-!
# Parentheses and conditions in a text

Two readings of the parentheses in a text. Over the bare text every parenthesis counts
(`depthAfter?`, `Balanced`); in `outside` the conditions between braces are left out first.
`WellNested` texts are balanced in the second reading. `WellNested.eq_of_append_eq` says that such
a text in front of a closing parenthesis is determined by the text that both begin, so two readers
that find one behind the same opening parenthesis find the same.
-/

namespace RelQuery.Text

/-- The number of parentheses that are open behind a text when `depth` are open before it, unless
the text closes one more than are open. -/
def depthAfter? : (depth : Nat) → Text → Option Nat
  | depth, [] => some depth
  | depth, c :: text =>
      if c = '(' then depthAfter? (depth + 1) text
      else if c = ')' then
        match depth with
        | 0 => none
        | depth + 1 => depthAfter? depth text
      else depthAfter? depth text

/-- No beginning of the text closes more parentheses than it opens, and the whole closes as many as
it opens. -/
def Balanced (text : Text) : Prop :=
  (∀ start, start <+: text → start.count ')' ≤ start.count '(') ∧ text.count ')' = text.count '('

/-- Whether a text ends within a condition, when it begins within one or not. -/
def insideAfter : (inside : Bool) → Text → Bool
  | inside, [] => inside
  | true, c :: text => if c = '}' then insideAfter false text else insideAfter true text
  | false, c :: text => if c = '{' then insideAfter true text else insideAfter false text

/-- What stands outside the conditions of a text that begins within one or not. -/
def outsideFrom : (inside : Bool) → Text → Text
  | _, [] => []
  | true, c :: text => if c = '}' then outsideFrom false text else outsideFrom true text
  | false, c :: text => if c = '{' then outsideFrom true text else c :: outsideFrom false text

/-- What stands outside the conditions of a text. A condition reaches from an opening brace to the
next closing one, or to the end. -/
def outside (text : Text) : Text :=
  outsideFrom false text

/-- The text does not end within a condition. -/
def EndsOutside (text : Text) : Prop :=
  insideAfter false text = false

/-- The largest number of parentheses that are open anywhere in a text when `depth` are open
before it. -/
def deepest : (depth : Nat) → Text → Nat
  | depth, [] => depth
  | depth, c :: text =>
      if c = '(' then deepest (depth + 1) text
      else if c = ')' then max depth (deepest (depth - 1) text)
      else deepest depth text

/-- How deep parentheses are nested in a text, those in conditions left out. -/
def nesting (text : Text) : Nat :=
  deepest 0 (outside text)

/-- No parenthesis occurs in the text and no condition begins in it. -/
structure Plain (text : Text) : Prop where
  open_not_mem : '(' ∉ text
  close_not_mem : ')' ∉ text
  brace_not_mem : '{' ∉ text

/-- Conditions apart the parentheses of the text are balanced, and it does not end within a
condition. -/
structure WellNested (text : Text) : Prop where
  balanced : depthAfter? 0 (outside text) = some 0
  endsOutside : EndsOutside text

/-! ## Counting parentheses -/

variable {depth after : Nat} {text left right : Text} {c : Char} {inside : Bool}

/-- A character that is no parenthesis does not count. -/
theorem depthAfter?_cons_of_ne (hopen : c ≠ '(') (hclose : c ≠ ')') :
    depthAfter? depth (c :: text) = depthAfter? depth text := by
  simp [depthAfter?, hopen, hclose]

/-- An opening parenthesis makes the text one deeper. -/
theorem depthAfter?_open : depthAfter? depth ('(' :: text) = depthAfter? (depth + 1) text := by
  simp [depthAfter?]

/-- A closing parenthesis that closes none is an error. -/
theorem depthAfter?_close_zero : depthAfter? 0 (')' :: text) = none := by
  simp [depthAfter?]

/-- A closing parenthesis closes the one that was opened last. -/
theorem depthAfter?_close_succ :
    depthAfter? (depth + 1) (')' :: text) = depthAfter? depth text := by
  simp [depthAfter?]

/-- A character opens a parenthesis, closes one or does neither. -/
theorem parenthesis_cases (c : Char) : c = '(' ∨ c = ')' ∨ c ≠ '(' ∧ c ≠ ')' := by
  by_cases hopen : c = '('
  · exact .inl hopen
  by_cases hclose : c = ')'
  · exact .inr (.inl hclose)
  · exact .inr (.inr ⟨hopen, hclose⟩)

/-- Counting goes on in the second text where it ended in the first one. -/
theorem depthAfter?_append :
    depthAfter? depth (left ++ right) =
      (depthAfter? depth left).bind fun depth => depthAfter? depth right := by
  induction left generalizing depth with
  | nil => rfl
  | cons c left ih =>
      rw [List.cons_append]
      rcases parenthesis_cases c with rfl | rfl | ⟨hopen, hclose⟩
      · simp only [depthAfter?_open, ih]
      · cases depth with
        | zero => simp only [depthAfter?_close_zero, Option.bind_none]
        | succ depth => simp only [depthAfter?_close_succ, ih]
      · simp only [depthAfter?_cons_of_ne hopen hclose, ih]

/-- A text without parentheses does not change the depth. -/
theorem depthAfter?_of_not_mem (hopen : '(' ∉ text) (hclose : ')' ∉ text) :
    depthAfter? depth text = some depth := by
  induction text with
  | nil => rfl
  | cons c text ih =>
      simp only [List.mem_cons, not_or] at hopen hclose
      rw [depthAfter?_cons_of_ne (Ne.symm hopen.1) (Ne.symm hclose.1), ih hopen.2 hclose.2]

/-- Parentheses that were open before and stay open do not matter. -/
theorem depthAfter?_add (h : depthAfter? depth text = some after) (more : Nat) :
    depthAfter? (depth + more) text = some (after + more) := by
  induction text generalizing depth with
  | nil =>
      cases h
      rfl
  | cons c text ih =>
      rcases parenthesis_cases c with rfl | rfl | ⟨hopen, hclose⟩
      · rw [depthAfter?_open] at h ⊢
        rw [Nat.add_right_comm]
        exact ih h
      · cases depth with
        | zero => simp [depthAfter?_close_zero] at h
        | succ depth =>
            rw [depthAfter?_close_succ] at h
            rw [Nat.add_right_comm, depthAfter?_close_succ]
            exact ih h
      · rw [depthAfter?_cons_of_ne hopen hclose] at h ⊢
        exact ih h

/-- The beginnings of a text that is not empty. -/
theorem forall_prefix_cons {P : Text → Prop} :
    (∀ start, start <+: c :: text → P start) ↔ P [] ∧ ∀ start, start <+: text → P (c :: start) := by
  constructor
  · intro h
    exact ⟨h [] List.nil_prefix, fun start hs => h _ (List.cons_prefix_cons.2 ⟨rfl, hs⟩)⟩
  · rintro ⟨hnil, hcons⟩ start hs
    rcases List.prefix_cons_iff.1 hs with rfl | ⟨rest, rfl, hrest⟩
    · exact hnil
    · exact hcons rest hrest

/-- The count in terms of the numbers of both parentheses in the text and its beginnings. -/
theorem depthAfter?_eq_some_iff :
    depthAfter? depth text = some after ↔
      (∀ start, start <+: text → start.count ')' ≤ start.count '(' + depth) ∧
        text.count ')' + after = text.count '(' + depth := by
  induction text generalizing depth with
  | nil => simp [depthAfter?, eq_comm]
  | cons c text ih =>
      rw [forall_prefix_cons]
      rcases parenthesis_cases c with rfl | rfl | ⟨hopen, hclose⟩
      · rw [depthAfter?_open, ih]
        simp [Nat.add_right_comm, Nat.add_assoc]
      · cases depth with
        | zero =>
            simp only [depthAfter?_close_zero, reduceCtorEq, false_iff, not_and]
            rintro ⟨-, h⟩
            exact absurd (h [] List.nil_prefix) (by decide)
        | succ depth =>
            rw [depthAfter?_close_succ, ih]
            simp only [List.count_nil, Nat.zero_le, true_and, List.count_cons_self,
              List.count_cons_of_ne (show ')' ≠ '(' by decide)]
            grind
      · rw [depthAfter?_cons_of_ne hopen hclose, ih]
        simp [List.count_cons_of_ne hopen, List.count_cons_of_ne hclose]

/-- A text is balanced if counting from nothing ends with nothing open, which can be computed. -/
theorem balanced_iff : Balanced text ↔ depthAfter? 0 text = some 0 := by
  simp [Balanced, depthAfter?_eq_some_iff]

/-- Decided by counting. -/
instance (text : Text) : Decidable (Balanced text) :=
  decidable_of_iff _ balanced_iff.symm

/-- Without parentheses there is nothing to balance. -/
theorem Plain.balanced (h : Plain text) : Balanced text :=
  balanced_iff.2 (depthAfter?_of_not_mem h.open_not_mem h.close_not_mem)

/-- A balanced text leaves open what was open in front of it. -/
theorem Balanced.depthAfter?_eq (h : Balanced text) (depth : Nat) :
    depthAfter? depth text = some depth := by
  simpa using depthAfter?_add (balanced_iff.1 h) depth

/-- Two balanced texts in a row are balanced. -/
theorem Balanced.append (hleft : Balanced left) (hright : Balanced right) :
    Balanced (left ++ right) := by
  rw [balanced_iff, depthAfter?_append, hleft.depthAfter?_eq]
  exact hright.depthAfter?_eq 0

/-- A balanced text in parentheses is balanced. -/
theorem Balanced.group (h : Balanced text) : Balanced ('(' :: text ++ [')']) := by
  rw [balanced_iff, List.cons_append, depthAfter?_open, depthAfter?_append, h.depthAfter?_eq]
  rfl

/-- How many parentheses are open before a text is determined by how many are open behind it. -/
theorem eq_of_depthAfter?_eq {first second : Nat} (hfirst : depthAfter? first text = some after)
    (hsecond : depthAfter? second text = some after) : first = second := by
  have h₁ := (depthAfter?_eq_some_iff.1 hfirst).2
  have h₂ := (depthAfter?_eq_some_iff.1 hsecond).2
  omega

/-! ## Leaving conditions out -/

/-- Whether one is inside a condition is carried from the first text to the second. -/
theorem insideAfter_append :
    insideAfter inside (left ++ right) = insideAfter (insideAfter inside left) right := by
  induction left generalizing inside with
  | nil => rfl
  | cons c left ih =>
      cases inside with
      | true => by_cases hc : c = '}' <;> simp [insideAfter, hc, ih]
      | false => by_cases hc : c = '{' <;> simp [insideAfter, hc, ih]

/-- What is outside conditions in two texts is that of the first and then that of the second, which
may begin inside one. -/
theorem outsideFrom_append :
    outsideFrom inside (left ++ right) =
      outsideFrom inside left ++ outsideFrom (insideAfter inside left) right := by
  induction left generalizing inside with
  | nil => rfl
  | cons c left ih =>
      cases inside with
      | true => by_cases hc : c = '}' <;> simp [outsideFrom, insideAfter, hc, ih]
      | false => by_cases hc : c = '{' <;> simp [outsideFrom, insideAfter, hc, ih]

/-- A condition goes on as long as no brace closes it. -/
theorem insideAfter_true_of_not_mem (h : '}' ∉ text) : insideAfter true text = true := by
  induction text with
  | nil => rfl
  | cons c text ih =>
      simp only [List.mem_cons, not_or] at h
      simp [insideAfter, Ne.symm h.1, ih h.2]

/-- A condition goes on to its closing brace. -/
theorem outsideFrom_true_of_not_mem (h : '}' ∉ text) : outsideFrom true text = [] := by
  induction text with
  | nil => rfl
  | cons c text ih =>
      simp only [List.mem_cons, not_or] at h
      simp [outsideFrom, Ne.symm h.1, ih h.2]

/-- A condition begins with an opening brace. -/
theorem insideAfter_false_of_not_mem (h : '{' ∉ text) : insideAfter false text = false := by
  induction text with
  | nil => rfl
  | cons c text ih =>
      simp only [List.mem_cons, not_or] at h
      simp [insideAfter, Ne.symm h.1, ih h.2]

/-- Without an opening brace all of a text is outside conditions. -/
theorem outsideFrom_false_of_not_mem (h : '{' ∉ text) : outsideFrom false text = text := by
  induction text with
  | nil => rfl
  | cons c text ih =>
      simp only [List.mem_cons, not_or] at h
      simp [outsideFrom, Ne.symm h.1, ih h.2]

/-- A plain text is outside conditions as a whole. -/
theorem Plain.outside_eq (h : Plain text) : outside text = text :=
  outsideFrom_false_of_not_mem h.brace_not_mem

/-- Two plain texts in a row are plain. -/
theorem Plain.append (hleft : Plain left) (hright : Plain right) : Plain (left ++ right) where
  open_not_mem := by simp [hleft.open_not_mem, hright.open_not_mem]
  close_not_mem := by simp [hleft.close_not_mem, hright.close_not_mem]
  brace_not_mem := by simp [hleft.brace_not_mem, hright.brace_not_mem]

/-- Behind a text that ends outside conditions the next one begins outside. -/
theorem EndsOutside.outside_append (h : EndsOutside left) :
    outside (left ++ right) = outside left ++ outside right := by
  rw [outside, outsideFrom_append, h, outside, outside]

/-- Two texts in a row end outside conditions if both do. -/
theorem EndsOutside.append (hleft : EndsOutside left) (hright : EndsOutside right) :
    EndsOutside (left ++ right) := by
  rw [EndsOutside, insideAfter_append, hleft, hright]

/-- What follows a text that ends outside a condition may be looked at by itself. -/
theorem EndsOutside.of_append (hleft : EndsOutside left) (h : EndsOutside (left ++ right)) :
    EndsOutside right := by
  rwa [EndsOutside, insideAfter_append, hleft] at h

/-! ## Well-nested texts -/

/-- The empty text is well nested. -/
theorem WellNested.nil : WellNested [] :=
  ⟨rfl, rfl⟩

/-- Two well nested texts in a row are well nested. -/
theorem WellNested.append (hleft : WellNested left) (hright : WellNested right) :
    WellNested (left ++ right) where
  balanced := by
    rw [hleft.endsOutside.outside_append, depthAfter?_append, hleft.balanced]
    exact hright.balanced
  endsOutside := hleft.endsOutside.append hright.endsOutside

/-- A plain text is well nested. -/
theorem Plain.wellNested (h : Plain text) : WellNested text where
  balanced := by rw [h.outside_eq, depthAfter?_of_not_mem h.open_not_mem h.close_not_mem]
  endsOutside := insideAfter_false_of_not_mem h.brace_not_mem

/-- A condition by itself leaves nothing outside. -/
theorem outside_condition {body : Text} (h : '}' ∉ body) : outside ('{' :: body ++ ['}']) = [] := by
  have hbody : outside ('{' :: body ++ ['}']) = outsideFrom true (body ++ ['}']) := by
    simp [outside, outsideFrom]
  rw [hbody, outsideFrom_append, outsideFrom_true_of_not_mem h, insideAfter_true_of_not_mem h]
  rfl

/-- A condition is well nested, whatever parentheses are in it. -/
theorem WellNested.condition {body : Text} (h : '}' ∉ body) :
    WellNested ('{' :: body ++ ['}']) where
  balanced := by rw [outside_condition h, depthAfter?]
  endsOutside := by
    have hbody : insideAfter false ('{' :: body ++ ['}']) = insideAfter true (body ++ ['}']) := by
      simp [insideAfter]
    rw [EndsOutside, hbody, insideAfter_append, insideAfter_true_of_not_mem h]
    rfl

/-- An opening parenthesis in front is outside conditions. -/
theorem outside_cons_open : outside ('(' :: text) = '(' :: outside text := by
  simp [outside, outsideFrom]

/-- So is a closing one behind a text that ends outside. -/
theorem EndsOutside.outside_append_close (h : EndsOutside left) :
    outside (left ++ ')' :: right) = outside left ++ ')' :: outside right := by
  rw [h.outside_append]
  simp [outside, outsideFrom]

/-- A well nested text in parentheses is well nested. -/
theorem WellNested.group (h : WellNested text) : WellNested ('(' :: text ++ [')']) where
  balanced := by
    rw [List.cons_append, outside_cons_open, h.endsOutside.outside_append_close, depthAfter?_open,
      depthAfter?_append, depthAfter?_add h.balanced 1]
    rfl
  endsOutside := by
    have hopen : EndsOutside ['('] := rfl
    have hclose : EndsOutside [')'] := rfl
    exact (hopen.append h.endsOutside).append hclose

/-- A closing parenthesis behind a well-nested text is one too many. -/
theorem WellNested.depthAfter?_close (h : WellNested left) :
    depthAfter? 0 (outside (left ++ ')' :: right)) = none := by
  rw [h.endsOutside.outside_append_close, depthAfter?_append, h.balanced]
  exact depthAfter?_close_zero

/-- Of two well-nested texts in front of closing parentheses none is a proper beginning of the
other. -/
theorem WellNested.eq_of_append_eq {first second : Text} (hfirst : WellNested first)
    (hsecond : WellNested second) (h : first ++ ')' :: left = second ++ ')' :: right) :
    first = second := by
  -- The longer one would go on with the parenthesis behind the shorter one, which closes too many.
  rcases List.append_eq_append_iff.1 h with ⟨more, hmore, hrest⟩ | ⟨more, hmore, hrest⟩
  · cases more with
    | nil => simpa using hmore.symm
    | cons c more =>
        cases hrest
        have := hsecond.balanced
        rw [hmore, hfirst.depthAfter?_close] at this
        cases this
  · cases more with
    | nil => simpa using hmore
    | cons c more =>
        cases hrest
        have := hfirst.balanced
        rw [hmore, hsecond.depthAfter?_close] at this
        cases this

/-! ## How deep parentheses are nested -/

/-- The depth at the beginning is the least that the deepest place can have. -/
theorem le_deepest (depth : Nat) (text : Text) : depth ≤ deepest depth text := by
  induction text generalizing depth with
  | nil => exact Nat.le_refl _
  | cons c text ih =>
      unfold deepest
      split
      · exact Nat.le_trans (Nat.le_succ _) (ih _)
      · split
        · exact Nat.le_max_left _ _
        · exact ih _

/-- The deepest place of two texts is the deeper one of both. -/
theorem deepest_append (h : depthAfter? depth left = some after) :
    deepest depth (left ++ right) = max (deepest depth left) (deepest after right) := by
  induction left generalizing depth with
  | nil =>
      cases h
      exact (Nat.max_eq_right (le_deepest _ _)).symm
  | cons c left ih =>
      rcases parenthesis_cases c with rfl | rfl | ⟨hopen, hclose⟩
      · rw [depthAfter?_open] at h
        simp [deepest, ih h]
      · cases depth with
        | zero => simp [depthAfter?_close_zero] at h
        | succ depth =>
            rw [depthAfter?_close_succ] at h
            simp [deepest, ih h, Nat.max_assoc]
      · rw [depthAfter?_cons_of_ne hopen hclose] at h
        simp [deepest, hopen, hclose, ih h]

/-- A text without parentheses is as deep as its beginning. -/
theorem deepest_of_not_mem (hopen : '(' ∉ text) (hclose : ')' ∉ text) :
    deepest depth text = depth := by
  induction text with
  | nil => rfl
  | cons c text ih =>
      simp only [List.mem_cons, not_or] at hopen hclose
      simp [deepest, Ne.symm hopen.1, Ne.symm hclose.1, ih hopen.2 hclose.2]

/-- A plain text is no deeper than its beginning. -/
theorem Plain.deepest_eq (h : Plain text) : deepest depth (outside text) = depth := by
  rw [h.outside_eq, deepest_of_not_mem h.open_not_mem h.close_not_mem]

/-- Behind a well nested text the next one begins as deep as that text began. -/
theorem WellNested.deepest_append (h : WellNested left) :
    deepest depth (outside (left ++ right)) =
      max (deepest depth (outside left)) (deepest depth (outside right)) := by
  have hdepth := depthAfter?_add h.balanced depth
  rw [Nat.zero_add] at hdepth
  rw [h.endsOutside.outside_append, Text.deepest_append hdepth]

/-- Parentheses around a text are one level more. -/
theorem WellNested.deepest_group (h : WellNested text) :
    deepest depth (outside ('(' :: text ++ [')'])) = deepest (depth + 1) (outside text) := by
  have hdepth := depthAfter?_add h.balanced (depth + 1)
  rw [Nat.zero_add] at hdepth
  have hclose : deepest (depth + 1) [')'] = depth + 1 := by simp [deepest]
  have hopen : outside ('(' :: text ++ [')']) = '(' :: (outside text ++ [')']) := by
    rw [List.cons_append, outside_cons_open, h.endsOutside.outside_append_close]
    rfl
  rw [hopen, deepest, if_pos rfl, Text.deepest_append hdepth, hclose]
  exact Nat.max_eq_left (le_deepest _ _)

/-- With one more parenthesis open before it a text is one level deeper. -/
theorem deepest_succ (h : depthAfter? depth text = some after) :
    deepest (depth + 1) text = deepest depth text + 1 := by
  induction text generalizing depth with
  | nil => rfl
  | cons c text ih =>
      rcases parenthesis_cases c with rfl | rfl | ⟨hopen, hclose⟩
      · rw [depthAfter?_open] at h
        simp only [deepest, if_true]
        exact ih h
      · cases depth with
        | zero => simp [depthAfter?_close_zero] at h
        | succ depth =>
            rw [depthAfter?_close_succ] at h
            have := ih h
            simp only [deepest, Nat.add_sub_cancel]
            simp only [show ')' ≠ '(' by decide, if_false, if_true]
            omega
      · rw [depthAfter?_cons_of_ne hopen hclose] at h
        simp only [deepest, hopen, hclose, if_false]
        exact ih h

/-- Two texts are nested as deeply as the deeper one. -/
theorem WellNested.nesting_append (h : WellNested left) :
    nesting (left ++ right) = max (nesting left) (nesting right) :=
  h.deepest_append

/-- Parentheses around a text nest it one level deeper. -/
theorem WellNested.nesting_group (h : WellNested text) :
    nesting ('(' :: text ++ [')']) = nesting text + 1 := by
  rw [nesting, h.deepest_group, deepest_succ h.balanced, nesting]

/-- A plain text nests nothing. -/
theorem Plain.nesting_eq (h : Plain text) : nesting text = 0 :=
  h.deepest_eq

/-- Neither does a condition. -/
theorem nesting_condition {body : Text} (h : '}' ∉ body) : nesting ('{' :: body ++ ['}']) = 0 := by
  rw [nesting, outside_condition h, deepest]

end RelQuery.Text
