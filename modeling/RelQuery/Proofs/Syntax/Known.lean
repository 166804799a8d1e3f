import RelQuery.Proofs.Expr.Nodes
import RelQuery.Proofs.Syntax.Step

/-!
# Reading with a list of known relations

A text is read twice, with the list of relations that the settings give and without one. The list
changes nothing but this: where a relation is met that is not in it, reading ends with an error that
names the relation. `Vetted` compares the two results, and `read_vetted` says that they compare so
for every text: of the names in the tree that are not known, the first one is in the error.
`read_known` says the same for a list given apart from the other settings, in terms of the names in
the tree.
-/

namespace RelQuery.Syntax

/-- The settings without their list of relations. -/
def Settings.anyName (settings : Settings) : Settings :=
  { settings with known := none }

/-- The first of some names that may not be mentioned. -/
def Settings.firstUnknown? (settings : Settings) (names : List Text) : Option Text :=
  names.find? fun name => !settings.allows name

/-- How a result with a list of known relations compares to the one without. Either they are the
same and every name in it is known, or the list refuses a name: the first one, if reading without
the list succeeds. -/
inductive Vetted {α : Type} (settings : Settings) (names : α → List Text) :
    (checked free : Except ReadError α) → Prop where
  | same {result : Except ReadError α}
      (hknown : ∀ a, result = .ok a → settings.firstUnknown? (names a) = none) :
      Vetted settings names result result
  | refused {free : Except ReadError α} {e : ReadError} {name : Text}
      (hcause : e.cause = .unknownRelation name) (hname : settings.allows name = false)
      (hfirst : ∀ a, free = .ok a → settings.firstUnknown? (names a) = some name) :
      Vetted settings names (.error e) free

/-- The relations in what the reader keeps between two tokens. -/
def State.relationNames (s : State) : List Text :=
  s.lhs.toList.flatMap fun operand => operand.expr.relationNames

/-- Whether a token can be an operand. -/
def Token.isOperand : Token → Bool
  | .name _ | .group _ => true
  | _ => false

variable {settings : Settings} {groups : Nat} {text : Text} {s s' : State} {token : Token}
variable {toks : List Token} {operand root : Operand} {left right : List Text} {name : Text}

/-- Behind names that are all known the first unknown one is that of the others. -/
theorem firstUnknown?_append (h : settings.firstUnknown? left = none) :
    settings.firstUnknown? (left ++ right) = settings.firstUnknown? right := by
  rw [Settings.firstUnknown?, List.find?_append, ← Settings.firstUnknown?, h, Option.none_or,
    Settings.firstUnknown?]

/-- The first unknown name stays the first when more names follow. -/
theorem firstUnknown?_of_prefix (h : left <+: right)
    (hfirst : settings.firstUnknown? left = some name) :
    settings.firstUnknown? right = some name := by
  obtain ⟨more, rfl⟩ := h
  rw [Settings.firstUnknown?, List.find?_append, ← Settings.firstUnknown?, hfirst, Option.some_or]

/-- There is no unknown name if all are allowed. -/
theorem firstUnknown?_eq_none_iff :
    settings.firstUnknown? left = none ↔ ∀ name ∈ left, settings.allows name := by
  simp [Settings.firstUnknown?]

/-- The first unknown name has only known ones before it. -/
theorem firstUnknown?_append_cons (hleft : ∀ other ∈ left, settings.allows other)
    (hname : settings.allows name = false) :
    settings.firstUnknown? (left ++ name :: right) = some name := by
  rw [firstUnknown?_append (firstUnknown?_eq_none_iff.2 hleft)]
  simp [Settings.firstUnknown?, hname]

/-- Without a list every name is allowed. -/
theorem Settings.allows_anyName : settings.anyName.allows name := rfl

/-- A list of known relations allows what is in it. -/
theorem Settings.allows_known {known : List Text} :
    ({ settings with known := some known } : Settings).allows name ↔ name ∈ known := by
  show known.contains name ↔ name ∈ known
  exact List.contains_iff_mem

/-- Reading on compares as each part does, if no name is lost on the way. -/
theorem Vetted.bind {α β : Type} {names : α → List Text} {names' : β → List Text}
    {checked free : Except ReadError α} {next next' : α → Except ReadError β}
    (h : Vetted settings names checked free)
    (hnext : ∀ a, free = .ok a → settings.firstUnknown? (names a) = none →
      Vetted settings names' (next a) (next' a))
    (hkept : ∀ a b, free = .ok a → next' a = .ok b → names a <+: names' b) :
    Vetted settings names' (checked.bind next) (free.bind next') := by
  cases h with
  | same hsame =>
      cases checked with
      | error e => exact .same nofun
      | ok a => exact hnext a rfl (hsame a rfl)
  | refused hcause hname hfirst =>
      refine .refused hcause hname fun b hb => ?_
      cases free with
      | error e => cases hb
      | ok a => exact firstUnknown?_of_prefix (hkept a b rfl hb) (hfirst a rfl)

/-- A result that the list allows is the one without it. -/
theorem Vetted.free_eq_ok {α : Type} {names : α → List Text} {free : Except ReadError α} {a : α}
    (h : Vetted settings names (.ok a) free) : free = .ok a := by
  cases h
  rfl

/-- A result without the list is allowed, or the list does not have a name in it. -/
theorem Vetted.checked_cases {α : Type} {names : α → List Text} {checked : Except ReadError α}
    {a : α} (h : Vetted settings names checked (.ok a)) :
    checked = .ok a ∨ ∃ name, settings.firstUnknown? (names a) = some name := by
  cases h with
  | same hknown => exact .inl rfl
  | refused hcause hname hfirst => exact .inr ⟨_, hfirst a rfl⟩

/-- An error that is not about a relation comes up without the list too. -/
theorem Vetted.free_cases {α : Type} {names : α → List Text} {free : Except ReadError α}
    {e : ReadError} (h : Vetted settings names (.error e) free) :
    free = .error e ∨ ∃ name, e.cause = .unknownRelation name ∧
      ∀ a, free = .ok a → settings.firstUnknown? (names a) = some name := by
  cases h with
  | same hknown => exact .inl rfl
  | refused hcause hname hfirst => exact .inr ⟨_, hcause, hfirst⟩

/-- What is read without the list is read with it if all its names are known, else the first
unknown one is refused. -/
theorem Vetted.of_ok {α : Type} {names : α → List Text} {checked : Except ReadError α} {a : α}
    (h : Vetted settings names checked (.ok a)) :
    (settings.firstUnknown? (names a) = none ∧ checked = .ok a) ∨
      ∃ name e, settings.firstUnknown? (names a) = some name ∧ checked = .error e ∧
        e.cause = .unknownRelation name := by
  cases h with
  | same hknown => exact .inl ⟨hknown a rfl, rfl⟩
  | @refused _ e name hcause hname hfirst => exact .inr ⟨name, e, hfirst a rfl, rfl, hcause⟩

/-- What is refused without the list is refused with it, for the same reason or because of a name
that is not known. -/
theorem Vetted.of_error {α : Type} {names : α → List Text} {checked : Except ReadError α}
    {e : ReadError} (h : Vetted settings names checked (.error e)) :
    ∃ e', checked = .error e' ∧
      (e' = e ∨ ∃ name, e'.cause = .unknownRelation name ∧ settings.allows name = false) := by
  cases h with
  | same hknown => exact ⟨e, rfl, .inl rfl⟩
  | @refused _ e' name hcause hname hfirst => exact ⟨e', rfl, .inr ⟨name, hcause, hname⟩⟩

/-! ## One step -/

/-- A token adds the relations of the operand that it is, and no others. -/
theorem Step.relationNames_cases (h : Step settings groups text s token s')
    (hs : s.BetweenTokens) :
    (∃ operand, ReadsOperand settings groups token operand ∧
      (s.mode = .start ∨ s.mode = .operand) ∧
      s'.relationNames = s.relationNames ++ operand.expr.relationNames) ∨
    token.isOperand = false ∧ s'.relationNames = s.relationNames := by
  cases h with
  | blank c => exact .inr ⟨rfl, rfl⟩
  | condition body => exact .inr ⟨rfl, rfl⟩
  | operator op hmode => exact .inr ⟨rfl, rfl⟩
  | @left _ operand hmode hread hop hlhs =>
      refine .inl ⟨operand, hread, hmode, ?_⟩
      simp [State.relationNames, hlhs]
  | @unary _ operand op node hmode hread hop hunary hheight hnode =>
      refine .inl ⟨operand, hread, .inr hmode, ?_⟩
      obtain ⟨op', hop', hlhs⟩ := hs.operand hmode
      cases hop.symm.trans hop'
      obtain ⟨condition, -, rfl⟩ := Expr.assemble_unary hunary hnode
      simp [State.relationNames, hlhs hunary, Expr.relationNames]
  | @binary _ lhs operand op node hmode hread hop hbinary hlhs hheight hnode =>
      refine .inl ⟨operand, hread, .inr hmode, ?_⟩
      have hnames := (Expr.assemble_binary hbinary hnode).relationNames_eq
      simp [State.relationNames, hlhs, hnames]

/-- A step keeps the relations that the reader has, and may add some behind them. -/
theorem Step.relationNames_prefix (h : Step settings groups text s token s')
    (hs : s.BetweenTokens) : s.relationNames <+: s'.relationNames := by
  rcases h.relationNames_cases hs with ⟨operand, -, -, hnames⟩ | ⟨-, hnames⟩
  · exact ⟨_, hnames.symm⟩
  · exact hnames ▸ List.prefix_rfl

/-- A step that accepts the token as it does without the list, and only known names in it. -/
theorem vetted_of_accept_eq (hs : s.BetweenTokens)
    (hknown : settings.firstUnknown? s.relationNames = none)
    (haccept : accept settings (groupReader settings groups) s token =
      accept settings.anyName (groupReader settings.anyName groups) s token)
    (hoperand : s.mode = .start ∨ s.mode = .operand → ∀ operand,
      ReadsOperand settings.anyName groups token operand →
      settings.firstUnknown? operand.expr.relationNames = none) :
    Vetted settings State.relationNames (step settings (groupReader settings groups) text s token)
      (step settings.anyName (groupReader settings.anyName groups) text s token) := by
  have hstep : step settings (groupReader settings groups) text s token =
      step settings.anyName (groupReader settings.anyName groups) text s token := by
    rw [step, haccept]
    rfl
  rw [hstep]
  refine .same fun s' hs' => ?_
  rcases ((step_eq_ok_iff hs).1 hs').relationNames_cases hs with ⟨operand, hread, hmode, hnames⟩ |
    ⟨-, hnames⟩
  · rw [hnames, firstUnknown?_append hknown, hoperand hmode operand hread]
  · rw [hnames, hknown]

/-- A step that refuses an operand because of a name in it. -/
theorem vetted_of_accept_error (hs : s.BetweenTokens)
    (hknown : settings.firstUnknown? s.relationNames = none) (htoken : token.isOperand)
    {e : ReadError} (haccept : accept settings (groupReader settings groups) s token = .error e)
    (hcause : e.cause = .unknownRelation name) (hname : settings.allows name = false)
    (hoperand : ∀ operand, ReadsOperand settings.anyName groups token operand →
      settings.firstUnknown? operand.expr.relationNames = some name) :
    Vetted settings State.relationNames (step settings (groupReader settings groups) text s token)
      (step settings.anyName (groupReader settings.anyName groups) text s token) := by
  have hstep : step settings (groupReader settings groups) text s token = .error e := by
    rw [step, haccept]
    rfl
  rw [hstep]
  refine .refused hcause hname fun s' hs' => ?_
  rcases ((step_eq_ok_iff hs).1 hs').relationNames_cases hs with ⟨operand, hread, -, hnames⟩ |
    ⟨hno, -⟩
  · rw [hnames, firstUnknown?_append hknown, hoperand operand hread]
  · rw [htoken] at hno
    cases hno

/-- The names in the operand that a token stands for. -/
theorem ReadsOperand.relationNames_name {word : Text}
    (h : ReadsOperand settings groups (.name word) operand) :
    operand.expr.relationNames = [word] := by
  cases h
  rfl

/-- A name is taken with the list as without it, if it is on the list, and refused otherwise. -/
theorem vetted_step_name {word : Text} (hs : s.BetweenTokens)
    (hknown : settings.firstUnknown? s.relationNames = none) :
    Vetted settings State.relationNames
      (step settings (groupReader settings groups) text s (.name word))
      (step settings.anyName (groupReader settings.anyName groups) text s (.name word)) := by
  by_cases hallowed : settings.allows word
  · refine vetted_of_accept_eq hs hknown ?_ fun _ operand hread => ?_
    · cases hmode : s.mode <;> simp [accept, hmode, acceptName, hallowed, Settings.allows_anyName]
    · simp [hread.relationNames_name, Settings.firstUnknown?, hallowed]
  by_cases hplace : word ≠ [] ∧ (s.mode = .start ∨ s.mode = .operand)
  · obtain ⟨hne, hmode⟩ := hplace
    have haccept : accept settings (groupReader settings groups) s (.name word) =
        .error ⟨.unknownRelation word, s.position, word.head?, s.mode⟩ := by
      rcases hmode with hmode | hmode <;>
        simp [accept, hmode, acceptName, List.isEmpty_eq_false_iff.2 hne, hallowed, State.fail]
    refine vetted_of_accept_error hs hknown rfl haccept rfl (by simpa using hallowed)
      fun operand hread => ?_
    simp [hread.relationNames_name, Settings.firstUnknown?, hallowed]
  · -- The token is refused before its name is looked up.
    refine vetted_of_accept_eq hs hknown ?_ fun hmode operand hread => ?_
    · cases word with
      | nil => cases hmode : s.mode <;> simp [accept, hmode, acceptName]
      | cons c word =>
          cases hmode : s.mode <;> simp_all [accept]
    · cases hread with
      | name hne _ => exact absurd ⟨hne, hmode⟩ hplace

/-- What the reader of groups does with the body of a group is all that matters of it. -/
theorem vetted_step_group {body : Text} (hs : s.BetweenTokens)
    (hknown : settings.firstUnknown? s.relationNames = none)
    (hread : Vetted settings (fun operand : Operand => operand.expr.relationNames)
      (readNested settings groups body) (readNested settings.anyName groups body)) :
    Vetted settings State.relationNames
      (step settings (groupReader settings (groups + 1)) text s (.group body))
      (step settings.anyName (groupReader settings.anyName (groups + 1)) text s (.group body)) := by
  generalize hchecked : readNested settings groups body = checked at hread
  generalize hfree : readNested settings.anyName groups body = free at hread
  have hnames (operand : Operand)
      (h : ReadsOperand settings.anyName (groups + 1) (.group body) operand) :
      ∃ inner, free = .ok inner ∧ operand.expr.relationNames = inner.expr.relationNames := by
    cases h with
    | group hne hread => exact ⟨_, hfree ▸ hread, by simp [Operand.grouped]⟩
  cases hread with
  | same hsame =>
      refine vetted_of_accept_eq hs hknown ?_ fun _ operand hoperand => ?_
      · cases hmode : s.mode <;>
          simp [accept, hmode, acceptGroup, groupReader, hchecked, hfree]
      · obtain ⟨inner, hinner, hrelations⟩ := hnames operand hoperand
        rw [hrelations, hsame inner hinner]
  | @refused _ e name hcause hname hfirst =>
      by_cases hplace : body ≠ [] ∧ (s.mode = .start ∨ s.mode = .operand)
      · obtain ⟨hne, hmode⟩ := hplace
        have haccept : accept settings (groupReader settings (groups + 1)) s (.group body) =
            .error e := by
          rcases hmode with hmode | hmode <;>
            simp [accept, hmode, acceptGroup, List.isEmpty_eq_false_iff.2 hne, groupReader,
              hchecked]
        refine vetted_of_accept_error hs hknown rfl haccept hcause hname fun operand hoperand => ?_
        obtain ⟨inner, hinner, hrelations⟩ := hnames operand hoperand
        rw [hrelations, hfirst inner hinner]
      · -- The token is refused before the group is read.
        refine vetted_of_accept_eq hs hknown ?_ fun hmode operand hoperand => ?_
        · cases body with
          | nil => cases hmode : s.mode <;> simp [accept, hmode, acceptGroup]
          | cons c body => cases hmode : s.mode <;> simp_all [accept]
        · cases hoperand with
          | group hne _ => exact absurd ⟨hne, hmode⟩ hplace

/-- No other token is read as an operand. -/
theorem not_readsOperand (h : token.isOperand = false) :
    ¬ ReadsOperand settings groups token operand := by
  intro hread
  cases hread <;> cases h

/-- One step with the list and without it. -/
theorem vetted_step (hs : s.BetweenTokens)
    (hknown : settings.firstUnknown? s.relationNames = none)
    (hread : ∀ inner body, groups = inner + 1 →
      Vetted settings (fun operand : Operand => operand.expr.relationNames)
        (readNested settings inner body) (readNested settings.anyName inner body)) :
    Vetted settings State.relationNames (step settings (groupReader settings groups) text s token)
      (step settings.anyName (groupReader settings.anyName groups) text s token) := by
  have hother (haccept : accept settings (groupReader settings groups) s token =
      accept settings.anyName (groupReader settings.anyName groups) s token)
      (hoperand : ∀ operand, ¬ ReadsOperand settings.anyName groups token operand) :
      Vetted settings State.relationNames
        (step settings (groupReader settings groups) text s token)
        (step settings.anyName (groupReader settings.anyName groups) text s token) :=
    vetted_of_accept_eq hs hknown haccept fun _ operand h => absurd h (hoperand operand)
  cases token with
  | name word => exact vetted_step_name hs hknown
  | group body =>
      cases groups with
      | zero =>
          refine hother ?_ (by rintro operand ⟨⟩)
          cases hmode : s.mode <;> simp [accept, hmode, acceptGroup, groupReader] <;> rfl
      | succ inner => exact vetted_step_group hs hknown (hread inner body rfl)
  | operator op =>
      exact hother (by cases hmode : s.mode <;> simp [accept, hmode])
        fun _ => not_readsOperand rfl
  | openGroup rest =>
      exact hother (by cases hmode : s.mode <;> simp [accept, hmode])
        fun _ => not_readsOperand rfl
  | blank c => exact hother rfl fun _ => not_readsOperand rfl
  | condition body => exact hother rfl fun _ => not_readsOperand rfl
  | openCondition rest => exact hother rfl fun _ => not_readsOperand rfl
  | other c => exact hother rfl fun _ => not_readsOperand rfl

/-! ## Runs -/

/-- A row of steps keeps them, too. -/
theorem relationNames_prefix_of_readTokens {settings : Settings} (hs : s.BetweenTokens)
    (h : readTokens settings (groupReader settings groups) text s toks = .ok s') :
    s.relationNames <+: s'.relationNames := by
  induction toks generalizing s with
  | nil =>
      cases h
      exact List.prefix_rfl
  | cons token toks ih =>
      obtain ⟨middle, hstep, hrest⟩ := readTokens_cons_eq_ok_iff.1 h
      have hstep := (step_eq_ok_iff hs).1 hstep
      exact (hstep.relationNames_prefix hs).trans (ih (hstep.betweenTokens hs) hrest)

/-- So rows of tokens compare like that: the first step that is refused for its name decides. -/
theorem vetted_readTokens (hs : s.BetweenTokens)
    (hknown : settings.firstUnknown? s.relationNames = none)
    (hread : ∀ inner body, groups = inner + 1 →
      Vetted settings (fun operand : Operand => operand.expr.relationNames)
        (readNested settings inner body) (readNested settings.anyName inner body)) :
    Vetted settings State.relationNames
      (readTokens settings (groupReader settings groups) text s toks)
      (readTokens settings.anyName (groupReader settings.anyName groups) text s toks) := by
  induction toks generalizing s with
  | nil =>
      refine .same ?_
      rintro _ ⟨⟩
      exact hknown
  | cons token toks ih =>
      have hbetween (middle : State)
          (hstep : step settings.anyName (groupReader settings.anyName groups) text s token =
            .ok middle) : middle.BetweenTokens :=
        ((step_eq_ok_iff hs).1 hstep).betweenTokens hs
      refine (vetted_step hs hknown hread).bind ?_ ?_
      · intro middle hstep hmiddle
        exact ih (hbetween middle hstep) hmiddle
      · intro middle last hstep hrest
        exact relationNames_prefix_of_readTokens (hbetween middle hstep) hrest

/-- The relations of what is left at the end are those that the reader keeps. -/
theorem relationNames_of_finish (h : finish s = .ok root) :
    root.expr.relationNames = s.relationNames := by
  obtain ⟨hlhs, -⟩ := finish_eq_ok_iff.1 h
  simp [State.relationNames, hlhs]

/-- Reading with a list of relations compares to reading without one at every depth. -/
theorem vetted_readNested (settings : Settings) (groups : Nat) (text : Text) :
    Vetted settings (fun operand : Operand => operand.expr.relationNames)
      (readNested settings groups text) (readNested settings.anyName groups text) := by
  induction groups using Nat.strongRecOn generalizing text with
  | ind groups ih =>
      have hrun : Vetted settings State.relationNames
          (readTokens settings (groupReader settings groups) text {} (tokens text)) _ :=
        vetted_readTokens .initial rfl fun inner body h =>
          ih inner (h ▸ Nat.lt_succ_self inner) body
      rw [readNested_eq_readWith, readNested_eq_readWith]
      refine hrun.bind ?_ ?_
      · intro last _ hlast
        refine .same fun root hroot => ?_
        rw [relationNames_of_finish hroot, hlast]
      · intro last root _ hroot
        exact relationNames_of_finish hroot ▸ List.prefix_rfl

/-- With a list of known relations an expression is read as without it, if it names none but known
ones; else the first one that is not known is refused. -/
theorem read_vetted (settings : Settings) (text : Text) :
    Vetted settings Expr.relationNames (read settings text) (read settings.anyName text) := by
  have hmap (result : Except ReadError Operand) :
      result.map Operand.expr = result.bind fun root => .ok root.expr := by
    cases result <;> rfl
  have hdepth : settings.anyName.maxDepth = settings.maxDepth := rfl
  rw [read, read, hmap, hmap, hdepth]
  refine (vetted_readNested settings settings.maxDepth text).bind ?_ ?_
  · intro root _ hroot
    refine .same ?_
    rintro _ ⟨⟩
    exact hroot
  · rintro root _ _ ⟨⟩
    exact List.prefix_rfl

/-- A list of known relations refuses the trees that name a relation outside it, and no others: the
error is about the first such relation from the left, however deep in groups it stands. A text that
is refused without the list is refused with it, for the same reason or because of a name that is not
in the list. -/
theorem read_known (settings : Settings) (known : List Text) (text : Text) :
    (∀ n, read { settings with known := none } text = .ok n →
      (read { settings with known := some known } text = .ok n ↔
        ∀ name ∈ n.relationNames, name ∈ known) ∧
      ∀ before name after, n.relationNames = before ++ name :: after →
        (∀ other ∈ before, other ∈ known) → name ∉ known →
        ∃ e, read { settings with known := some known } text = .error e ∧
          e.cause = .unknownRelation name) ∧
    ∀ e, read { settings with known := none } text = .error e →
      ∃ e', read { settings with known := some known } text = .error e' ∧
        (e' = e ∨ ∃ name, e'.cause = .unknownRelation name ∧ name ∉ known) := by
  have hvetted : Vetted { settings with known := some known } Expr.relationNames
      (read { settings with known := some known } text)
      (read { settings with known := none } text) := read_vetted _ text
  have hallows (name : Text) :
      ({ settings with known := some known } : Settings).allows name ↔ name ∈ known :=
    Settings.allows_known
  have hrefuses (name : Text) :
      ({ settings with known := some known } : Settings).allows name = false ↔ name ∉ known := by
    rw [← hallows, Bool.not_eq_true]
  refine ⟨fun n hfree => ?_, fun e hfree => ?_⟩
  · rw [hfree] at hvetted
    rcases hvetted.of_ok with ⟨hnone, hchecked⟩ | ⟨first, e, hfirst, hchecked, hcause⟩
    · have hknown : ∀ name ∈ n.relationNames, name ∈ known := by
        intro name hmem
        exact (hallows name).1 (firstUnknown?_eq_none_iff.1 hnone name hmem)
      refine ⟨iff_of_true hchecked hknown, ?_⟩
      intro before name after hnames hbefore hname
      exact absurd (hknown name (by simp [hnames])) hname
    · have hunknown : ¬ ∀ name ∈ n.relationNames, name ∈ known := by
        intro hknown
        have hnone := firstUnknown?_eq_none_iff.2 fun name hmem =>
          (hallows name).2 (hknown name hmem)
        rw [hfirst] at hnone
        cases hnone
      refine ⟨iff_of_false (by rw [hchecked]; nofun) hunknown, ?_⟩
      intro before name after hnames hbefore hname
      -- The name is the one that the error is about, since both are the first one.
      have hallowed := fun other hmem => (hallows other).2 (hbefore other hmem)
      rw [hnames, firstUnknown?_append_cons hallowed ((hrefuses name).2 hname)] at hfirst
      cases hfirst
      exact ⟨e, hchecked, hcause⟩
  · rw [hfree] at hvetted
    obtain ⟨e', hchecked, hsame | ⟨name, hcause, hname⟩⟩ := hvetted.of_error
    · exact ⟨e', hchecked, .inl hsame⟩
    · exact ⟨e', hchecked, .inr ⟨name, hcause, (hrefuses name).1 hname⟩⟩

/-- An unknown relation in a group behind known ones, and one in a text that is refused anyway. -/
theorem read_known_in_group :
    (∃ n e, read {} "R ∪ (S ∩ T)".toList = .ok n ∧ n.relationNames = [['R'], ['S']] ++ [['T']] ∧
      read { known := some [['R'], ['S']] } "R ∪ (S ∩ T)".toList = .error e ∧
      e.cause = .unknownRelation ['T']) ∧
    ∃ e e', read {} "Q ∪ (S".toList = .error e ∧ e.cause = .unbalancedParenthesis ∧
      read { known := some [['R'], ['S']] } "Q ∪ (S".toList = .error e' ∧
      (e' = e ∨ ∃ name, e'.cause = .unknownRelation name ∧ name ∉ [['R'], ['S']]) := by
  have hread : read {} "R ∪ (S ∩ T)".toList =
      .ok (.setOp .union (.named ['R'])
        (.setOp .intersect (.named ['S']) (.named ['T']) "(S ∩ T)".toList)
        "R ∪ (S ∩ T)".toList) := by
    rfl
  have hopen : read {} "Q ∪ (S".toList =
      .error ⟨.unbalancedParenthesis, 4, some '(', .operand⟩ := by
    rfl
  obtain ⟨e, hchecked, hcause⟩ := ((read_known {} [['R'], ['S']] _).1 _ hread).2 [['R'], ['S']]
    ['T'] [] rfl (by simp) (by decide)
  obtain ⟨e', hchecked', hcause'⟩ := (read_known {} [['R'], ['S']] _).2 _ hopen
  exact ⟨⟨_, e, hread, rfl, hchecked, hcause⟩, _, e', hopen, rfl, hchecked', hcause'⟩

end RelQuery.Syntax
