import RelQuery.Proofs.Text.Nesting

/-!
# Runs of characters

`runs` are the maximal runs of the characters of a kind in a text. A text falls into two parts with
runs of their own wherever a character of another kind stands on either side of the cut, also when
its conditions are `covered` first (`runs_covered_append`, `runs_covered_append_of_head`).
-/

namespace RelQuery.Text

/-- The maximal runs of the characters of a kind, from left to right: what stands between the
characters of other kinds, where anything does. -/
def runs (kind : Char → Bool) (text : Text) : List Text :=
  (text.splitOnP fun c => !kind c).filter (· ≠ [])

/-- A text that begins within a condition or not, with a blank for every character of a condition
and for its braces. -/
def coveredFrom : (inside : Bool) → Text → Text
  | _, [] => []
  | true, c :: text =>
      ' ' :: if c = '}' then coveredFrom false text else coveredFrom true text
  | false, c :: text =>
      if c = '{' then ' ' :: coveredFrom true text else c :: coveredFrom false text

/-- A text with a blank for every character of a condition and for its braces. -/
def covered (text : Text) : Text :=
  coveredFrom false text

variable {kind : Char → Bool} {text left right : Text} {c : Char} {inside : Bool}

/-! ## Runs of two parts -/

/-- Nothing runs in the empty text. -/
@[simp] theorem runs_nil : runs kind [] = [] := by
  simp [runs, List.splitOnP_nil]

/-- No run goes on across a character of another kind. -/
theorem runs_append_cons (hc : kind c = false) :
    runs kind (left ++ c :: right) = runs kind left ++ runs kind right := by
  rw [runs, List.splitOnP_append_cons left right (by simp [hc]), List.filter_append, runs, runs]

/-- A character of another kind in front belongs to no run. -/
theorem runs_cons (hc : kind c = false) : runs kind (c :: text) = runs kind text := by
  have h : runs kind ([] ++ c :: text) = runs kind [] ++ runs kind text := runs_append_cons hc
  rwa [runs_nil, List.nil_append, List.nil_append] at h

/-- Neither does one at the end. -/
theorem runs_append_singleton (hc : kind c = false) : runs kind (text ++ [c]) = runs kind text := by
  rw [runs_append_cons hc, runs_nil, List.append_nil]

/-- A text without characters of the kind has no run. -/
theorem runs_eq_nil (h : ∀ c ∈ text, kind c = false) : runs kind text = [] := by
  induction text with
  | nil => exact runs_nil
  | cons c text ih =>
      obtain ⟨hc, htext⟩ := List.forall_mem_cons.1 h
      rw [runs_cons hc, ih htext]

/-- A text of nothing but these is one run. -/
theorem runs_eq_singleton (hne : text ≠ []) (h : ∀ c ∈ text, kind c) : runs kind text = [text] := by
  rw [runs, List.splitOnP_eq_singleton fun c hc => by simp [h c hc]]
  simp [hne]

/-! ## Covering conditions -/

/-- Two texts are covered one behind the other, the second one from inside a condition if the first
one ends there. -/
theorem coveredFrom_append :
    coveredFrom inside (left ++ right) =
      coveredFrom inside left ++ coveredFrom (insideAfter inside left) right := by
  induction left generalizing inside with
  | nil => rfl
  | cons c left ih =>
      cases inside with
      | true => by_cases hc : c = '}' <;> simp [coveredFrom, insideAfter, hc, ih]
      | false => by_cases hc : c = '{' <;> simp [coveredFrom, insideAfter, hc, ih]

/-- A text behind one that ends outside conditions is covered by itself. -/
theorem EndsOutside.covered_append (h : EndsOutside left) :
    covered (left ++ right) = covered left ++ covered right := by
  rw [covered, coveredFrom_append, h, covered, covered]

/-- Without an opening brace there is nothing to cover. -/
theorem covered_of_not_mem (h : '{' ∉ text) : covered text = text := by
  rw [covered]
  induction text with
  | nil => rfl
  | cons c text ih =>
      simp only [List.mem_cons, not_or] at h
      simp [coveredFrom, Ne.symm h.1, ih h.2]

/-- Up to the closing brace a condition is covered with blanks. -/
theorem coveredFrom_true_of_not_mem (h : '}' ∉ text) :
    coveredFrom true text = List.replicate text.length ' ' := by
  induction text with
  | nil => rfl
  | cons c text ih =>
      simp only [List.mem_cons, not_or] at h
      simp [coveredFrom, Ne.symm h.1, ih h.2, List.replicate_succ]

/-- Of a condition only blanks are left. -/
theorem covered_condition {body : Text} (h : '}' ∉ body) :
    covered ('{' :: body ++ ['}']) = List.replicate (body.length + 2) ' ' := by
  have hbody : covered ('{' :: body ++ ['}']) = ' ' :: coveredFrom true (body ++ ['}']) := by
    simp [covered, coveredFrom]
  have hclose : coveredFrom true ['}'] = [' '] := rfl
  rw [hbody, coveredFrom_append, insideAfter_true_of_not_mem h, coveredFrom_true_of_not_mem h,
    hclose, ← List.replicate_succ', ← List.replicate_succ]

/-- A character that is in no run is covered by one that is in no run. -/
theorem exists_coveredFrom_singleton (inside : Bool) (hblank : kind ' ' = false)
    (hc : kind c = false) : ∃ d, coveredFrom inside [c] = [d] ∧ kind d = false := by
  cases inside with
  | true => exact ⟨' ', by simp [coveredFrom], hblank⟩
  | false =>
      by_cases hbrace : c = '{'
      · exact ⟨' ', by simp [coveredFrom, hbrace], hblank⟩
      · exact ⟨c, by simp [coveredFrom, hbrace], hc⟩

/-- No run goes on into a part that begins with a character of another kind. -/
theorem runs_covered_append_of_head (hblank : kind ' ' = false) (h : EndsOutside left)
    (hhead : ∀ c ∈ right.head?, kind c = false) :
    runs kind (covered (left ++ right)) =
      runs kind (covered left) ++ runs kind (covered right) := by
  rw [h.covered_append]
  cases right with
  | nil => simp [covered, coveredFrom]
  | cons c right =>
      obtain ⟨d, hd, hkind⟩ := exists_coveredFrom_singleton false hblank (hhead c rfl)
      rw [← List.singleton_append, covered, covered, coveredFrom_append, hd, List.singleton_append,
        runs_append_cons hkind, runs_cons hkind]

/-- No run goes on from a part that ends with a character of another kind. -/
theorem runs_covered_append (hblank : kind ' ' = false) (h : EndsOutside left)
    (hlast : ∀ c ∈ left.getLast?, kind c = false) :
    runs kind (covered (left ++ right)) =
      runs kind (covered left) ++ runs kind (covered right) := by
  rw [h.covered_append]
  cases hleft : left.getLast? with
  | none =>
      rw [List.getLast?_eq_none_iff.1 hleft]
      simp [covered, coveredFrom]
  | some c =>
      obtain ⟨front, rfl⟩ := List.getLast?_eq_some_iff.1 hleft
      obtain ⟨d, hd, hkind⟩ :=
        exists_coveredFrom_singleton (insideAfter false front) hblank (hlast c hleft)
      rw [covered, coveredFrom_append, hd, List.append_assoc, List.singleton_append,
        runs_append_cons hkind, runs_append_singleton hkind]

end RelQuery.Text
