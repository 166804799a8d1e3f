import RelQuery.Proofs.Operator.Spelling
import RelQuery.Proofs.Syntax.Known
import RelQuery.Proofs.Syntax.RoundTrip

/-!
# Relation names as expressions

A relation name that may be mentioned is read as the relation of that name (`read_name`), and no
relation is read but those whose names are in the text (`infix_of_read`). A query replaces words for
operators first, so that there it is read as that relation just when none occurs in it
(`readQuery_name_iff`).
-/

namespace RelQuery.Syntax

variable {settings : Settings} {groups : Nat} {text name : Text} {token : Token} {e : Expr}
variable {root operand : Operand} {s s' : State} {before : List Token}

/-- A name is an expression: the relation of that name. -/
theorem read_name (h : isRelationName name) (hallowed : settings.allows name) :
    read settings name = .ok (.named name) := by
  have hfits : Fits settings settings.maxDepth (.named name) := {
    printable := .relation h
    allowed := by simpa [Expr.named, Expr.relationNames] using hallowed
    height_le := .inl rfl
    groupDepth_le := Nat.zero_le _ }
  obtain ⟨m, hread, herase, hsource⟩ :=
    read_toText_of_fits hfits (by simp [Expr.named, Expr.printedGroups])
  cases m with
  | relation found source =>
      cases herase
      cases hsource
      exact hread
  | _ => cases herase

/-- The relations in an operand occur in the text of its token if those of a group occur in the body
of the group. -/
theorem ReadsOperand.infix_text (h : ReadsOperand settings groups token operand)
    (hgroup : ∀ inner body root, groups = inner + 1 → readNested settings inner body = .ok root →
      ∀ name ∈ root.expr.relationNames, name <:+: body) :
    ∀ name ∈ operand.expr.relationNames, name <:+: token.text := by
  cases h with
  | name hne hknown =>
      intro name hmem
      rw [List.mem_singleton.1 hmem]
      exact List.infix_rfl
  | group hne hread =>
      intro name hmem
      have hbody := hgroup _ _ _ rfl hread name (by simpa [Operand.grouped] using hmem)
      exact hbody.trans ⟨['('], [')'], rfl⟩

/-- A step keeps the names within the text that has been read. -/
theorem Step.infix_textOf (h : Step settings groups text s token s') (hs : s.BetweenTokens)
    (hgroup : ∀ inner body root, groups = inner + 1 → readNested settings inner body = .ok root →
      ∀ name ∈ root.expr.relationNames, name <:+: body)
    (hbefore : ∀ name ∈ s.relationNames, name <:+: textOf before) :
    ∀ name ∈ s'.relationNames, name <:+: textOf (before ++ [token]) := by
  have hold : ∀ name ∈ s.relationNames, name <:+: textOf (before ++ [token]) := by
    intro name hmem
    rw [textOf_append]
    exact (hbefore name hmem).trans (List.prefix_append _ _).isInfix
  rcases h.relationNames_cases hs with ⟨operand, hread, -, hnames⟩ | ⟨-, hnames⟩
  · rw [hnames]
    refine List.forall_mem_append.2 ⟨hold, fun name hmem => ?_⟩
    rw [textOf_append]
    have htoken : name <:+: textOf [token] := by
      simpa using hread.infix_text hgroup name hmem
    exact htoken.trans (List.suffix_append _ _).isInfix
  · exact hnames ▸ hold

/-- The names in a tree that has been read stand in the text. -/
theorem infix_of_readNested (h : readNested settings groups text = .ok root) :
    ∀ name ∈ root.expr.relationNames, name <:+: text := by
  induction groups using Nat.strongRecOn generalizing text root with
  | ind groups ih =>
      obtain ⟨s, hs, hroot, -⟩ := readNested_invariant
        (P := fun before s => ∀ name ∈ s.relationNames, name <:+: textOf before) h nofun
        fun hreached _ _ hstep hs => hstep.infix_textOf hreached.betweenTokens
          (fun inner body root h hread => ih inner (by omega) hread) hs
      have htext : textOf (tokens text) = text := tokens_text text
      simpa [State.relationNames, hroot, htext] using hs

/-- The names in a tree are pieces of its text. -/
theorem infix_of_read (h : read settings text = .ok e) :
    ∀ name ∈ e.relationNames, name <:+: text := by
  obtain ⟨root, hread, rfl⟩ := read_eq_ok_iff.1 h
  exact infix_of_readNested hread

/-- A query that is a name is read as the relation of that name if no word for an operator occurs in
it. Otherwise a part of the name is lost, so that the name is not in the text that is read. -/
theorem readQuery_name_iff (h : isRelationName name) (hallowed : settings.allows name) :
    readQuery settings name = .ok (.named name) ↔ ¬ Operator.Spelled name := by
  constructor
  · intro hread hspelled
    have hlost := Operator.wordLength_symbolize_lt hspelled
    have hinfix : name <:+: Operator.symbolize name :=
      infix_of_read hread name (by simp [Expr.named, Expr.relationNames])
    have hkept : Operator.wordLength name ≤ Operator.wordLength (Operator.symbolize name) :=
      hinfix.sublist.countP_le
    omega
  · intro hspelled
    rw [readQuery, Operator.symbolize_of_not_spelled hspelled]
    exact read_name h hallowed

end RelQuery.Syntax
