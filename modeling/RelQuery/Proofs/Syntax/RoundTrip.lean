import RelQuery.Proofs.Syntax.Printing

/-!
# Reading the one-line form back

A printable tree within the limits is read back from its one-line form if the parentheses in its
conditions are balanced (`read_toText`). For a tree that has been read the limits hold already, and
`read_toText_of_read` says exactly when its form is read back: when what stands between parentheses
in the form is balanced over the bare text. A text can hide an unbalanced condition from the reader
behind a second one that replaces it; in the form of its tree the first one is missing.
-/

namespace RelQuery

open Syntax

namespace Expr

/-- The one-line form of `group` stands between parentheses in the text, outside conditions. -/
def StandsIn (group : Expr) (text : Text) : Prop :=
  ∃ front tail, text = front ++ '(' :: (group.toText ++ ')' :: tail) ∧ Text.EndsOutside front

variable {op : Operator} {given : Option Text} {e lhs rhs operand group : Expr} {left right : Text}

/-- A group of a text is one of a longer text, if it is not taken into a condition. -/
theorem StandsIn.append_left (h : group.StandsIn right) (hleft : Text.EndsOutside left) :
    group.StandsIn (left ++ right) := by
  obtain ⟨front, tail, rfl, hfront⟩ := h
  exact ⟨left ++ front, tail, by simp, hleft.append hfront⟩

/-- More text behind does not matter. -/
theorem StandsIn.append_right (h : group.StandsIn left) (right : Text) :
    group.StandsIn (left ++ right) := by
  obtain ⟨front, tail, rfl, hfront⟩ := h
  exact ⟨front, tail ++ right, by simp, hfront⟩

/-- A group of an operand stands in its text, where the operand itself may be the group. -/
theorem standsIn_operandText (h : group ∈ operand.printedGroups → group.StandsIn operand.toText)
    (hgroup : group ∈ operandGroups operand operand.printedGroups) :
    group.StandsIn (operandText operand operand.toText) := by
  unfold operandGroups at hgroup
  unfold operandText
  split at hgroup
  · cases hgroup
  · rename_i he
    rw [if_neg he, parenthesized]
    rcases List.mem_cons.1 hgroup with rfl | hinner
    · exact ⟨[], [], rfl, rfl⟩
    · have hopen : Text.EndsOutside ['('] := rfl
      exact ((h hinner).append_left hopen).append_right [')']

/-- Every group that is printed stands in the one-line form. -/
theorem standsIn_toText (h : e.Printable) (hgroup : group ∈ e.printedGroups) :
    group.StandsIn e.toText := by
  induction e using nodeInduction with
  | relation name source => cases hgroup
  | unary op condition operand source ih =>
      obtain ⟨-, hcondition, ho⟩ := printable_unary.1 h
      have hfront : Text.WellNested ([op.symbol, ' '] ++ conditionText (some condition)) :=
        wellNested_prefixText hcondition.2
      rw [toText_unary]
      exact (standsIn_operandText (ih ho) hgroup).append_left hfront.endsOutside
  | binary op given lhs rhs e hnode ihl ihr =>
      obtain ⟨-, hgiven, hl, hr⟩ := hnode.printable h
      have hbetween : Text.WellNested ([' ', op.symbol, ' '] ++ conditionText given) :=
        wellNested_infixText fun c hc => (hgiven c hc).2
      have hbefore := (wellNested_toText hl).append hbetween
      rw [hnode.printedGroups_eq] at hgroup
      rw [hnode.toText_eq]
      rcases List.mem_append.1 hgroup with hleft | hright
      · exact ((ihl hl hleft).append_right _).append_right _
      · exact (standsIn_operandText (ihr hr) hright).append_left hbefore.endsOutside

/-- A group of an operand is the operand itself or one of its own. -/
theorem printable_of_mem_operandGroups (h : group ∈ operand.printedGroups → group.Printable)
    (ho : operand.Printable) (hgroup : group ∈ operandGroups operand operand.printedGroups) :
    group.Printable := by
  unfold operandGroups at hgroup
  split at hgroup
  · cases hgroup
  · rcases List.mem_cons.1 hgroup with rfl | hinner
    · exact ho
    · exact h hinner

/-- The groups of a printable tree are printable. -/
theorem printable_of_mem_printedGroups (h : e.Printable) (hgroup : group ∈ e.printedGroups) :
    group.Printable := by
  induction e using nodeInduction with
  | relation name source => cases hgroup
  | unary op condition operand source ih =>
      obtain ⟨-, -, ho⟩ := printable_unary.1 h
      exact printable_of_mem_operandGroups (ih ho) ho hgroup
  | binary op given lhs rhs e hnode ihl ihr =>
      obtain ⟨-, -, hl, hr⟩ := hnode.printable h
      rw [hnode.printedGroups_eq] at hgroup
      rcases List.mem_append.1 hgroup with hleft | hright
      · exact ihl hl hleft
      · exact printable_of_mem_operandGroups (ihr hr) hr hright

/-- A one-line form is accepted only if what stands between parentheses in it is balanced over the
bare text, because the reader takes just that for the groups. -/
theorem balanced_of_readNested {settings : Settings} {groups : Nat} {root : Operand}
    (h : readNested settings groups e.toText = .ok root) (he : e.Printable) :
    ∀ group ∈ e.printedGroups, group.toText.Balanced := by
  intro group hgroup
  obtain ⟨front, tail, htext, hfront⟩ := standsIn_toText he hgroup
  rw [htext] at h
  obtain ⟨body, after, htail, hbalanced, hnested⟩ := group_of_readNested h hfront
  -- The printed operand and the group that is read begin at the same place.
  have hprinted := wellNested_toText (printable_of_mem_printedGroups he hgroup)
  rwa [hprinted.eq_of_append_eq hnested htail]

end Expr

namespace Syntax

variable {settings : Settings} {groups : Nat} {text : Text} {e n : Expr}

/-- A tree within the limits is read back if the groups in its one-line form are what the reader
takes for them. -/
theorem read_toText_of_fits (h : Fits settings settings.maxDepth e)
    (hgroups : ∀ group ∈ e.printedGroups, group.toText.Balanced) :
    ∃ m, read settings e.toText = .ok m ∧ m.erase = e.erase ∧ m.source = e.toText := by
  obtain ⟨s, hreached, hs⟩ := reached_printedTokens h hgroups List.prefix_rfl
  rw [← Expr.tokens_toText h.printable hgroups] at hreached
  obtain ⟨m, hread, herase, hsource⟩ := readNested_of_reached hreached hs
  exact ⟨m, read_eq_ok_iff.2 ⟨_, hread, rfl⟩, herase, hsource⟩

/-- A tree that has been read keeps within the limits. -/
theorem fits_of_read (h : read settings text = .ok e) : Fits settings settings.maxDepth e := by
  obtain ⟨root, hread, rfl⟩ := read_eq_ok_iff.1 h
  exact (readNested_sound hread).fits

/-- Without a list of relations, printing and reading give a printable tree back, but for sources,
if its height and the nesting of its form keep within the limits and the parentheses in its
conditions are balanced. -/
theorem read_toText (hknown : settings.known = none) (hprintable : n.Printable)
    (hbalanced : ∀ condition ∈ n.conditions, condition.Balanced)
    (hheight : n.height ≤ settings.maxTreeDepth) (hnesting : n.toText.nesting ≤ settings.maxDepth) :
    ∃ m, read settings n.toText = .ok m ∧ m.erase = n.erase ∧ m.source = n.toText := by
  have hallowed : ∀ name ∈ n.relationNames, settings.allows name := by
    intro name _
    simp [Settings.allows, hknown]
  rw [Expr.nesting_toText hprintable] at hnesting
  exact read_toText_of_fits ⟨hprintable, hallowed, .inr hheight, hnesting⟩
    (Expr.balanced_printedGroups hprintable hbalanced)

/-- A union under a selection with parentheses in its condition, on the right of a join. -/
theorem read_toText_join_select :
    let n : Expr := .join .naturalJoin (.named ['R'])
      (.unary .select "f(a)".toList (.setOp .union (.named ['S']) (.named ['T']) []) []) []
    ∃ m, read {} n.toText = .ok m ∧ m.erase = n.erase ∧ m.source = n.toText := by
  refine read_toText rfl ⟨?_, by decide +kernel, by decide⟩ (by decide) (by decide) (by decide)
  exact ⟨rfl, trivial, rfl, rfl, trivial, trivial⟩

/-- The form of a tree that has been read is accepted exactly when the text between the parentheses
of every printed group is balanced, and then the same tree is read from it. -/
theorem read_toText_of_read (h : read settings text = .ok n) :
    ((∃ m, read settings n.toText = .ok m ∧ m.erase = n.erase) ↔
      ∀ group ∈ n.printedGroups, group.toText.Balanced) ∧
    ∀ m, read settings n.toText = .ok m → m.erase = n.erase := by
  have hfits := fits_of_read h
  have hbalanced (m : Expr) (hm : read settings n.toText = .ok m) :
      ∀ group ∈ n.printedGroups, group.toText.Balanced := by
    obtain ⟨root, hread, -⟩ := read_eq_ok_iff.1 hm
    exact Expr.balanced_of_readNested hread hfits.printable
  refine ⟨⟨?_, ?_⟩, ?_⟩
  · rintro ⟨m, hm, -⟩
    exact hbalanced m hm
  · intro hgroups
    obtain ⟨m, hm, herase, -⟩ := read_toText_of_fits hfits hgroups
    exact ⟨m, hm, herase⟩
  · intro m hm
    obtain ⟨m', hm', herase, -⟩ := read_toText_of_fits hfits (hbalanced m hm)
    rw [hm'] at hm
    cases hm
    exact herase

/-- A text with two conditions in one place. The tree has only the second, whose parenthesis closes
the group that the join is printed in. -/
theorem read_replaced_condition : read {} "R ∪ (S θ \x7b(\x7d\x7b)\x7d T)".toList = .ok
    (.setOp .union (.named ['R'])
      (.conditionalJoin .thetaJoin [')'] (.named ['S']) (.named ['T'])
        "(S θ \x7b(\x7d\x7b)\x7d T)".toList)
      "R ∪ (S θ \x7b(\x7d\x7b)\x7d T)".toList) := by
  rfl

/-- Here the last condition has a closing parenthesis, which the one that it replaced had balanced.
-/
theorem read_toText_of_read_replaced_condition :
    ∃ n, read {} "R ∪ (S θ \x7b(\x7d\x7b)\x7d T)".toList = .ok n ∧
      n.toText = "R ∪ (S θ \x7b)\x7d T)".toList ∧
      ((∃ m, read {} n.toText = .ok m ∧ m.erase = n.erase) ↔
        ∀ group ∈ n.printedGroups, group.toText.Balanced) ∧
      ∀ m, read {} n.toText = .ok m → m.erase = n.erase :=
  ⟨_, read_replaced_condition, by decide, read_toText_of_read read_replaced_condition⟩

/-- Not every tree that has been read is read back from its one-line form. -/
theorem not_read_toText_of_read : ¬ ∀ text n, read {} text = .ok n →
    ∃ m, read {} n.toText = .ok m ∧ m.erase = n.erase := by
  intro h
  obtain ⟨m, hm, -⟩ := h _ _ read_replaced_condition
  obtain ⟨root, hroot, -⟩ := read_eq_ok_iff.1 hm
  have hfits := fits_of_read read_replaced_condition
  have hgroups := Expr.balanced_of_readNested hroot hfits.printable
  exact absurd hgroups (by decide)

end Syntax

end RelQuery
