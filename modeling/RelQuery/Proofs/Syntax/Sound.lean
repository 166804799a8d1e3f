import RelQuery.Proofs.Syntax.Accepted

/-!
# Trees that are read

`Fits` collects what holds of every tree that the reader builds: it is printable, mentions only
relations that may be mentioned and keeps both limits of the settings. `readNested_sound` says so of
what a text is read as, and that the height kept beside the tree is its height. A text may nest
parentheses deeper than its tree needs them, so the depth is bounded, not determined.
-/

namespace RelQuery.Syntax

/-- A tree within the limits when `groups` groups may be opened. -/
structure Fits (settings : Settings) (groups : Nat) (e : Expr) : Prop where
  printable : e.Printable
  allowed : ∀ name ∈ e.relationNames, settings.allows name
  height_le : e.isRelation ∨ e.height ≤ settings.maxTreeDepth
  groupDepth_le : e.groupDepth ≤ groups

/-- What holds of an operand that the reader builds when `groups` groups may be opened. -/
structure Operand.Sound (settings : Settings) (groups : Nat) (operand : Operand) : Prop where
  fits : Fits settings groups operand.expr
  height_eq : operand.height = operand.expr.height

/-- What holds of the parts that the reader keeps. -/
structure State.Sound (settings : Settings) (groups : Nat) (s : State) : Prop where
  lhs : ∀ operand ∈ s.lhs, operand.Sound settings groups
  condition : ∀ condition ∈ s.condition, '}' ∉ condition

/-- A sound operand that may also be printed between parentheses where it needs them. -/
structure Operand.Enclosed (settings : Settings) (groups : Nat) (operand : Operand) : Prop
    extends operand.Sound settings groups where
  operandDepth_le : Expr.operandDepth operand.expr operand.expr.groupDepth ≤ groups

variable {settings : Settings} {groups : Nat} {text body : Text} {s s' : State} {token : Token}
variable {before : List Token} {root lhs operand : Operand} {op : Operator} {node : Expr}

/-- A relation that is known is within all limits. -/
theorem Operand.Enclosed.name {word : Text} (hword : isRelationName word)
    (hknown : settings.allows word) :
    Operand.Enclosed settings groups ⟨.named word, 1⟩ where
  fits := {
    printable := .relation hword
    allowed := by simpa [Expr.named, Expr.relationNames] using hknown
    height_le := .inl rfl
    groupDepth_le := Nat.zero_le groups }
  height_eq := rfl
  operandDepth_le := Nat.zero_le groups

/-- An operand between parentheses may need one group more. -/
theorem Operand.Sound.grouped (h : operand.Sound settings groups) :
    operand.grouped.Enclosed settings (groups + 1) where
  fits := {
    printable := h.fits.printable.withSource _
    allowed := by simpa [Operand.grouped] using h.fits.allowed
    height_le := by simpa [Operand.grouped] using h.fits.height_le
    groupDepth_le := by simpa [Operand.grouped] using Nat.le_succ_of_le h.fits.groupDepth_le }
  height_eq := by simpa [Operand.grouped] using h.height_eq
  operandDepth_le := by
    unfold Expr.operandDepth
    split
    · exact Nat.zero_le _
    · simpa [Operand.grouped] using h.fits.groupDepth_le

/-- The node of a unary operator is as deep as its operand between parentheses. -/
theorem Operand.Enclosed.unary {given : Option Text} {source : Text}
    (h : operand.Enclosed settings groups) (hgiven : ∀ condition ∈ given, '}' ∉ condition)
    (hop : op.category = .unary) (hheight : 1 + operand.height ≤ settings.maxTreeDepth)
    (hnode : Expr.assemble op (some operand.expr) none given source = .ok node) :
    Operand.Sound settings groups ⟨node, 1 + operand.height⟩ := by
  rw [h.height_eq] at hheight ⊢
  obtain ⟨condition, hcondition, rfl⟩ := Expr.assemble_unary hop hnode
  obtain ⟨rfl, hne⟩ := Expr.presentCondition_eq_some hcondition
  refine ⟨⟨?_, h.fits.allowed, .inr hheight, h.operandDepth_le⟩, rfl⟩
  exact Expr.printable_unary.2 ⟨hop, ⟨hne, hgiven condition rfl⟩, h.fits.printable⟩

/-- The node of a binary operator is as deep as its left operand or the right one between
parentheses. -/
theorem Operand.Sound.binary {given : Option Text} {source : Text}
    (hlhs : lhs.Sound settings groups) (h : operand.Enclosed settings groups)
    (hgiven : ∀ condition ∈ given, '}' ∉ condition) (hop : op.category ≠ .unary)
    (hheight : 1 + max lhs.height operand.height ≤ settings.maxTreeDepth)
    (hnode : Expr.assemble op (some lhs.expr) (some operand.expr) given source = .ok node) :
    Operand.Sound settings groups ⟨node, 1 + max lhs.height operand.height⟩ := by
  have hbinary := Expr.assemble_binary hop hnode
  have hl := hlhs.fits.printable
  have hr := h.fits.printable
  have hwellFormed : node.WellFormed := by
    refine Expr.wellFormed_assemble ?_ ?_ hnode
    · rintro _ ⟨⟩
      exact hl.wellFormed
    · rintro _ ⟨⟩
      exact hr.wellFormed
  have hpresent : ∀ c ∈ Expr.presentCondition given, c ≠ [] ∧ '}' ∉ c := by
    intro c hc
    obtain ⟨rfl, hne⟩ := Expr.presentCondition_eq_some hc
    exact ⟨hne, hgiven c rfl⟩
  have hnodeHeight : 1 + max lhs.height operand.height = node.height := by
    rw [hlhs.height_eq, h.height_eq, hbinary.height_eq]
  rw [hnodeHeight] at hheight ⊢
  refine ⟨⟨hbinary.printable_of hwellFormed hpresent hl hr, ?_, .inr hheight, ?_⟩, rfl⟩
  · rw [hbinary.relationNames_eq]
    exact List.forall_mem_append.2 ⟨hlhs.fits.allowed, h.fits.allowed⟩
  · rw [hbinary.groupDepth_eq]
    exact Nat.max_le.2 ⟨hlhs.fits.groupDepth_le, h.operandDepth_le⟩

/-- At the beginning nothing is kept that could be wrong. -/
theorem State.Sound.initial : State.Sound settings groups {} where
  lhs := nofun
  condition := nofun

/-- A step keeps the parts sound if it reads a sound operand or none. -/
theorem Step.sound (h : Step settings groups text s token s') (hs : s.Sound settings groups)
    (hcondition : ∀ body, token = .condition body → '}' ∉ body)
    (hoperand : ∀ operand, ReadsOperand settings groups token operand →
      operand.Enclosed settings groups) : s'.Sound settings groups := by
  cases h with
  | blank c => exact ⟨hs.lhs, hs.condition⟩
  | condition body =>
      refine ⟨hs.lhs, ?_⟩
      rintro _ ⟨⟩
      exact hcondition body rfl
  | operator op hmode => exact ⟨hs.lhs, hs.condition⟩
  | left hmode hread hop hlhs =>
      refine ⟨?_, hs.condition⟩
      rintro _ ⟨⟩
      exact (hoperand _ hread).toSound
  | unary hmode hread hop hunary hheight hnode =>
      refine ⟨?_, nofun⟩
      rintro _ ⟨⟩
      exact (hoperand _ hread).unary hs.condition hunary hheight hnode
  | binary hmode hread hop hbinary hlhs hheight hnode =>
      refine ⟨?_, nofun⟩
      rintro _ ⟨⟩
      exact (hs.lhs _ hlhs).binary (hoperand _ hread) hs.condition hbinary hheight hnode

/-- What a text is read as is printable and keeps within the limits. -/
theorem readNested_sound (h : readNested settings groups text = .ok root) :
    root.Sound settings groups := by
  induction groups using Nat.strongRecOn generalizing text root with
  | ind groups ih =>
      obtain ⟨s, hs, hroot, -⟩ := readNested_invariant (P := fun _ s => s.Sound settings groups) h
        .initial fun _ _ hlexed hstep hs => by
          refine hstep.sound hs ?_ ?_
          · rintro body rfl
            exact hlexed
          · intro operand hread
            cases hread with
            | name _ hknown => exact .name hlexed.1 hknown
            | group _ hread => exact (ih _ (Nat.lt_succ_self _) hread).grouped
      exact hs.lhs root hroot

end RelQuery.Syntax
