import RelQuery.Proofs.Syntax.Limits

/-!
# The places of errors

An error says where it is and what stands there. Its place is in a `Segment` of the text: the text
itself or, if a group was being read, the text between the parentheses of the group. An error that
has a character has the one at its place (`IsAt`), and the errors without a character are those of a
node that is due or of a text that ends too early (`Cause.isOfParts`). Each cause comes up in some
modes only (`Cause.modes`). `read_error_place` says all this of every text that is refused.
-/

namespace RelQuery.Syntax

/-- The text itself, or what stands in it between an opening parenthesis and a closing one behind
it. -/
def Segment (part text : Text) : Prop :=
  part = text ∨ ∃ before after, text = before ++ Expr.parenthesized part ++ after

/-- Whether the cause is not about a character: the parts of a node that is due do not fit or make
too high a tree, or the text ends before the tree is complete. -/
def Cause.isOfParts : Cause → Bool
  | treeTooHigh _ | defect (.missingCondition _) | defect (.unexpectedCondition _) => true
  | noRelation | unfinished => true
  | _ => false

/-- Whether the cause is that the text ends. -/
def Cause.isOfEnd : Cause → Bool
  | noRelation | unfinished => true
  | _ => false

/-- The modes in which a cause comes up. Some causes never do. -/
def Cause.modes : Cause → List Mode
  | unexpectedToken | openCondition => [.start, .operand, .operator]
  | misplacedUnary => [.operator]
  | unbalancedParenthesis | emptyGroup | unknownRelation _ | nestedTooDeep _ => [.start, .operand]
  | treeTooHigh _ | defect (.missingCondition _) | defect (.unexpectedCondition _) => [.build]
  | noRelation => [.start, .operand]
  | unfinished => [.operand, .operator]
  | emptyName | missingOperator | defect (.missingOperand _) => []

/-- The place of the error is in the text or behind it: behind all of it if the cause is that the
text ends. A character that the error has stands there. -/
structure ReadError.IsAt (e : ReadError) (text : Text) : Prop where
  position_le : e.position ≤ text.length
  found : ∀ c ∈ e.found, text[e.position]? = some c
  position_eq : e.cause.isOfEnd → e.position = text.length

/-- The error has a character or not as its cause says, and comes up in a mode that fits. -/
structure ReadError.FitsCause (e : ReadError) : Prop where
  found_eq_none : e.found = none ↔ e.cause.isOfParts
  mode_mem : e.mode ∈ e.cause.modes

variable {settings : Settings} {groups : Nat} {text part body : Text} {s : State} {token : Token}
variable {rest : List Token} {e : ReadError}

/-! ## Segments -/

/-- A text is a segment of itself. -/
theorem Segment.refl (text : Text) : Segment text text :=
  .inl rfl

/-- A segment between the parentheses of a group is one of the text that the group stands in. -/
theorem Segment.of_group (h : Segment part body) (hmem : .group body ∈ tokens text) :
    Segment part text := by
  obtain ⟨before, after, htokens⟩ := List.append_of_mem hmem
  have htext := textOf_tokens text
  rw [htokens, textOf_append, textOf_cons, Token.text_group] at htext
  rcases h with rfl | ⟨front, back, rfl⟩
  · exact .inr ⟨textOf before, textOf after, by simp [← htext, Expr.parenthesized]⟩
  · exact .inr ⟨textOf before ++ '(' :: front, back ++ ')' :: textOf after, by
      simp [← htext, Expr.parenthesized]⟩

/-! ## Errors of a turn -/

/-- The token that is taken in a turn begins at the place that the reader has come to. -/
theorem Turn.getElem?_position (h : Turn settings groups text s (token :: rest)) :
    text[s.position]? = token.text.head? := by
  obtain ⟨before, htokens⟩ := h.suffix
  have hposition := h.position_eq
  have htext := textOf_tokens text
  rw [← htokens, textOf_append] at htext
  rw [← htext, List.length_append] at hposition
  have hlength : (textOf before).length = s.position := by omega
  obtain ⟨c, tail, htoken⟩ := List.exists_cons_of_ne_nil
    (text_ne_nil_of_mem_tokens (h.suffix.subset List.mem_cons_self))
  rw [← htext, ← hlength, textOf_cons, htoken]
  simp

/-- The reader never comes further than the text. -/
theorem Turn.position_le (h : Turn settings groups text s rest) : s.position ≤ text.length := by
  have hposition := h.position_eq
  omega

/-- A token is refused at its first character, unless the error is one inside a group. -/
theorem Refuses.place (h : Refuses settings groups s token e) (hmode : s.mode ≠ .build)
    (hne : token.text ≠ []) :
    (e.position = s.position ∧ e.found = token.text.head? ∧ e.cause.isOfParts = false ∧
      e.mode ∈ e.cause.modes) ∨
    ∃ inner body, groups = inner + 1 ∧ token = .group body ∧
      readNested settings inner body = .error e := by
  have hany : s.mode ∈ [Mode.start, .operand, .operator] := by
    cases hs : s.mode <;> simp_all
  cases h with
  | openCondition => exact .inl ⟨rfl, rfl, rfl, hany⟩
  | misplacedUnary hunary hmode => exact .inl ⟨rfl, rfl, rfl, by simp [hmode, Cause.modes]⟩
  | openGroup hmode => exact .inl ⟨rfl, rfl, rfl, by simpa [Cause.modes] using hmode⟩
  | emptyGroup hmode => exact .inl ⟨rfl, rfl, rfl, by simpa [Cause.modes] using hmode⟩
  | nestedTooDeep hmode => exact .inl ⟨rfl, rfl, rfl, by simpa [Cause.modes] using hmode⟩
  | unknownRelation hmode => exact .inl ⟨rfl, rfl, rfl, by simpa [Cause.modes] using hmode⟩
  | unexpected => exact .inl ⟨rfl, rfl, rfl, hany⟩
  | emptyName => exact absurd rfl hne
  | @inGroup inner _ body _ hmode hread => exact .inr ⟨inner, body, rfl, rfl, hread⟩

/-- A node cannot be built behind its last operand. -/
theorem CannotBuild.place (h : CannotBuild settings text s e) (hs : s.Consistent)
    (hmode : s.mode = .build) :
    e.position = s.position ∧ e.cause.isOfEnd = false ∧ e.found = none ∧ e.FitsCause := by
  obtain ⟨hleft, op, hop, hright⟩ := hs.build hmode
  cases h with
  | noOperator hnone => cases hop.symm.trans hnone
  | tooHigh hop' hheight =>
      exact ⟨rfl, rfl, rfl, by simp [Cause.isOfParts], by simp [hmode, Cause.modes]⟩
  | defect hop' hnode =>
      cases hop.symm.trans hop'
      rcases Expr.assemble_eq_error hnode hleft hright.2 with ⟨-, rfl⟩ | ⟨-, rfl⟩ <;>
        exact ⟨rfl, rfl, rfl, by simp [Cause.isOfParts], by simp [hmode, Cause.modes]⟩

/-- A text ends too early where there is no operand at all or something is left beside one. -/
theorem LeavesOver.place (h : LeavesOver s e) (hs : s.Consistent) (hmode : s.mode ≠ .build) :
    e.position = s.position ∧ e.found = none ∧ e.FitsCause := by
  cases h with
  | noRelation hlhs =>
      have hleft := State.lhs_eq_none_iff.1 hlhs
      have hother : s.mode ≠ .operator := fun hoperator => by
        simpa [hleft] using (hs.operator hoperator).1
      refine ⟨rfl, rfl, by simp [Cause.isOfParts], ?_⟩
      cases hs : s.mode <;> simp_all [Cause.modes]
  | unfinished hlhs =>
      have hother : s.mode ≠ .start := fun hstart => by
        simp [State.lhs_eq_none_iff.2 (hs.start hstart).1] at hlhs
      refine ⟨rfl, rfl, by simp [Cause.isOfParts], ?_⟩
      cases hs : s.mode <;> simp_all [Cause.modes]

/-! ## Errors of a text -/

/-- An error at the end is about parts that are missing or left over. -/
theorem isOfEnd_of_isOfParts {cause : Cause} (h : cause.isOfParts = false) :
    cause.isOfEnd = false := by
  cases cause <;> simp_all [Cause.isOfParts, Cause.isOfEnd]

/-- Every error is at its place in a segment of the text, and fits its cause. -/
theorem readNested_error_place (h : readNested settings groups text = .error e) :
    (∃ part, Segment part text ∧ e.IsAt part) ∧ e.FitsCause := by
  induction groups using Nat.strongRecOn generalizing text e with
  | ind groups ih =>
      obtain ⟨s, rest, hturn, hends⟩ := exists_endsIn settings groups text
      rw [h] at hends
      cases hends with
      | @refused token rest e hmode hrefuses =>
          have hmem := hturn.suffix.subset List.mem_cons_self
          have hne := text_ne_nil_of_mem_tokens hmem
          rcases hrefuses.place hmode hne with ⟨hposition, hfound, hcause, hmodes⟩ |
            ⟨inner, body, rfl, rfl, hread⟩
          · have hplace := hturn.getElem?_position
            rw [← hfound, ← hposition] at hplace
            refine ⟨⟨text, .refl text, hposition ▸ hturn.position_le, ?_, ?_⟩, ?_, hmodes⟩
            · intro c hc
              rw [hplace, Option.mem_def.1 hc]
            · simp [isOfEnd_of_isOfParts hcause]
            · simpa [hfound, hcause] using hne
          · obtain ⟨⟨part, hpart, hat⟩, hfits⟩ := ih inner (Nat.lt_succ_self inner) hread
            exact ⟨⟨part, hpart.of_group hmem, hat⟩, hfits⟩
      | unbuilt hmode hbuild =>
          obtain ⟨hposition, hend, hfound, hfits⟩ := hbuild.place hturn.consistent hmode
          refine ⟨⟨text, .refl text, hposition ▸ hturn.position_le, ?_, ?_⟩, hfits⟩
          · simp [hfound]
          · simp [hend]
      | leftOver hmode hleft =>
          obtain ⟨hposition, hfound, hfits⟩ := hleft.place hturn.consistent hmode
          have hlength := hturn.position_eq
          refine ⟨⟨text, .refl text, hposition ▸ hturn.position_le, ?_, fun _ => ?_⟩, hfits⟩
          · simp [hfound]
          · rw [hposition, ← hlength]
            rfl

/-- Errors point at what they report. A text that is refused has a segment, the text itself or one
between two parentheses of it, in which the error lies: its place is no farther than the end, where
it is if the text is found to end, and the character that it has stands there. It has no character
just if it is about a node that is due or about the end, and each cause comes up only in its
modes. -/
theorem read_error_place (settings : Settings) (text : Text) (e : ReadError)
    (h : read settings text = .error e) :
    (∃ part, Segment part text ∧ e.IsAt part) ∧ (e.found = none ↔ e.cause.isOfParts) ∧
      e.mode ∈ e.cause.modes := by
  obtain ⟨hplace, hfits⟩ := readNested_error_place (read_eq_error_iff.1 h)
  exact ⟨hplace, hfits.found_eq_none, hfits.mode_mem⟩

/-- A unary operator behind an operand in a group, where the place is one within the group, and a
group that ends within a node. -/
theorem read_error_place_in_group :
    let misplaced : ReadError := ⟨.misplacedUnary, 3, some 'σ', .operator⟩
    let unfinished : ReadError := ⟨.unfinished, 3, none, .operand⟩
    read {} "R ∪ ( é σ {A} S)".toList = .error misplaced ∧
      (∃ part, Segment part "R ∪ ( é σ {A} S)".toList ∧ misplaced.IsAt part) ∧
      misplaced.mode ∈ misplaced.cause.modes ∧
      read {} "R ∪ (S −)".toList = .error unfinished ∧
      (∃ part, Segment part "R ∪ (S −)".toList ∧ unfinished.IsAt part) ∧
      unfinished.cause.isOfParts := by
  intro misplaced unfinished
  have hmisplaced : read {} "R ∪ ( é σ {A} S)".toList = .error misplaced := by rfl
  have hunfinished : read {} "R ∪ (S −)".toList = .error unfinished := by rfl
  obtain ⟨hplace, -, hmode⟩ := read_error_place {} _ _ hmisplaced
  obtain ⟨hend, hnone, -⟩ := read_error_place {} _ _ hunfinished
  exact ⟨hmisplaced, hplace, hmode, hunfinished, hend, hnone.1 rfl⟩

end RelQuery.Syntax
