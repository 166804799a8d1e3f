import RelQuery.Proofs.Condition.Drafts
import RelQuery.Proofs.Condition.Grammar

/-!
# Predicates with a place for an operand

What is read off a condition with a place in it is a `Template`, a predicate in which operands are
left open, and it does not depend on what fills the place (`readsAlike_readNegation`). The readers
are put together from parts that are read one behind the other (`readBoth`) and from choices, and
both keep that drafts are read alike; a chain is followed mark by mark.
-/

namespace RelQuery.Condition

/-- A predicate in which operands may be left open. -/
inductive Template where
  | compare (op : Comparison) (lhs rhs : Option Operand)
  | and (lhs rhs : Template)
  | or (lhs rhs : Template)
  | not (inner : Template)

namespace Template

/-- The predicate with the operand wherever one is left open. -/
def fill (operand : Operand) : Template → Predicate
  | compare op lhs rhs => .compare op (lhs.getD operand) (rhs.getD operand)
  | and lhs rhs => .and (lhs.fill operand) (rhs.fill operand)
  | or lhs rhs => .or (lhs.fill operand) (rhs.fill operand)
  | not inner => .not (inner.fill operand)

/-- The number of operands that are left open. -/
def places : Template → Nat
  | compare _ lhs rhs => lhs.isNone.toNat + rhs.isNone.toNat
  | and lhs rhs => lhs.places + rhs.places
  | or lhs rhs => lhs.places + rhs.places
  | not inner => inner.places

end Template

/-- The predicate that was read and the text behind it, if one was read. -/
def Reading.found? : Reading → Option (Predicate × Text)
  | done predicate rest => some (predicate, rest)
  | stopped _ => none

/-- Reads a part and another one behind it, with blanks between them. -/
def readBoth {α β γ : Type} (combine : α → β → γ) (first : Text → Option (α × Text))
    (second : Text → Option (β × Text)) (text : Text) : Option (γ × Text) :=
  (first text).bind fun found =>
    (second (skipSpace found.2)).map fun next => (combine found.1 next.1, next.2)

/-- Predicates are read alike off all drafts that are shorter than `n`. -/
def PredicatesAlike (after : Text) (readable : Bool) (n : Nat)
    (item : (depth : Nat) → Text → Reading) : Prop :=
  ∀ d : Draft, d.Clear → d.size after < n →
    ReadsAlike after readable Template.places Template.fill
      (fun depth text => (item depth text).found?) d

variable {after text rest : Text} {readable : Bool} {d e : Draft} {n used : Nat}
variable {item : (depth : Nat) → Text → Reading} {read : Text → Reading} {mark? : Text → Option Text}
variable {reading : Reading} {p : Predicate}

/-- A predicate is found where reading is done. -/
theorem Reading.found?_eq_some_iff : reading.found? = some (p, rest) ↔ reading = .done p rest := by
  cases reading <;> simp [found?]

/-- None is found where reading has stopped. -/
theorem Reading.found?_eq_none_iff : reading.found? = none ↔ ∃ rest, reading = .stopped rest := by
  cases reading <;> simp [found?]

/-! ## Readers put together from parts -/

section

variable {α β γ : Type} {combine : α → β → γ} {first : Text → Option (α × Text)}
variable {second : Text → Option (β × Text)} {value : γ}

/-- Two parts are read if the second one is read behind the blanks behind the first. -/
theorem readBoth_eq_some_iff : readBoth combine first second text = some (value, rest) ↔
    ∃ a behind b, first text = some (a, behind) ∧ second (skipSpace behind) = some (b, rest) ∧
      combine a b = value := by
  simp [readBoth, Option.bind_eq_some_iff]

end

/-- A mark is read as a part where it is found. -/
theorem unit?_eq_some_iff {u : Unit} : unit? mark? text = some (u, rest) ↔
    mark? text = some rest := by
  simp [unit?]

/-- One character is taken off a text that begins with it. -/
theorem strip?_singleton_eq_some_iff {c : Char} : Text.strip? [c] text = some rest ↔
    text = c :: rest := by
  refine ⟨strip?_eq_some, ?_⟩
  rintro rfl
  simp [Text.strip?]

/-- A comparison is an operand and a sign, and then an operand. -/
theorem readComparison_eq_readBoth (text : Text) : (readComparison text).found? =
    readBoth (fun found rhs => .compare found.2 found.1 rhs)
      (readBoth Prod.mk operand? comparison?) operand? text := by
  ext ⟨p, rest⟩
  simp only [Reading.found?_eq_some_iff, readComparison_eq_done_iff, readBoth_eq_some_iff]
  constructor
  · rintro ⟨lhs, op, rhs, before, behind, hlhs, hop, hrhs, rfl⟩
    exact ⟨(lhs, op), behind, rhs, ⟨lhs, before, op, hlhs, hop, rfl⟩, hrhs, rfl⟩
  · rintro ⟨_, behind, rhs, ⟨lhs, before, op, hlhs, hop, rfl⟩, hrhs, rfl⟩
    exact ⟨lhs, op, rhs, before, behind, hlhs, hop, hrhs, rfl⟩

/-- A negation is a `not`, and then a predicate. -/
theorem readNegated?_eq_readBoth (text : Text) : readNegated? read text =
    readBoth (fun _ p => .not p) (unit? notMark?) (fun text => (read text).found?) text := by
  ext ⟨p, rest⟩
  simp only [readNegated?_eq_some_iff, readBoth_eq_some_iff, unit?_eq_some_iff,
    Reading.found?_eq_some_iff]
  constructor
  · rintro ⟨behind, inner, hmark, hinner, rfl⟩
    exact ⟨(), behind, inner, hmark, hinner, rfl⟩
  · rintro ⟨-, behind, inner, hmark, hinner, rfl⟩
    exact ⟨behind, inner, hmark, hinner, rfl⟩

/-- A group is an opening parenthesis, a predicate and a closing parenthesis. -/
theorem readGroup?_eq_readBoth (text : Text) : readGroup? read text =
    readBoth (fun p _ => p)
      (readBoth (fun _ p => p) (unit? (Text.strip? ['(']))
        fun text => (readDisjunction read text).found?)
      (unit? (Text.strip? [')'])) text := by
  ext ⟨p, rest⟩
  simp only [readGroup?_eq_some_iff, readBoth_eq_some_iff, unit?_eq_some_iff,
    strip?_singleton_eq_some_iff, Reading.found?_eq_some_iff]
  constructor
  · rintro ⟨inside, behind, htext, hinside, hbehind⟩
    exact ⟨p, behind, (), ⟨(), inside, p, htext, hinside, rfl⟩, hbehind, rfl⟩
  · rintro ⟨_, behind, -, ⟨-, inside, _, htext, hinside, rfl⟩, hbehind, rfl⟩
    exact ⟨inside, behind, htext, hinside, hbehind⟩

/-- A negation, a group and a comparison are tried in this order. -/
theorem found?_readNegation (depth : Nat) (text : Text) :
    (readNegation (depth + 1) text).found? =
      (readNegated? (readNegation depth) (skipSpace text)).or
        ((readGroup? (readNegation depth) (skipSpace text)).or
          (readComparison (skipSpace text)).found?) := by
  rw [readNegation, Option.orElse_eq_orElse, Option.orElse_eq_or, ← Option.or_assoc]
  cases (readNegated? (readNegation depth) (skipSpace text)).or
    (readGroup? (readNegation depth) (skipSpace text)) <;> rfl

/-! ## Reading alike -/

section

variable {α β γ δ ε ζ : Type} {places : α → Nat} {fill : Operand → α → β}
variable {read₁ read₂ : (depth : Nat) → Text → Option (β × Text)}

/-- What is read alike behind blanks is read alike with blanks in front. -/
theorem ReadsAlike.skipSpace (hd : d.Clear)
    (h : ReadsAlike after readable places fill read₁ d.skipSpace) :
    ReadsAlike after readable places fill (fun depth text => read₁ depth (skipSpace text)) d := by
  obtain ⟨out, hout, hread⟩ := h
  have hskip : Leaves after readable 0 d d.skipSpace := leaves_skipSpace hd
  refine ⟨out, fun found hfound => ?_, fun x operand depth hx hdepth => ?_⟩
  · obtain ⟨hleaves, hlt⟩ := hout found hfound
    exact ⟨Nat.zero_add (places found.1) ▸ hskip.trans hleaves,
      Nat.lt_of_lt_of_le hlt hskip.size_le⟩
  · have hlength := hskip.length_fill hx.length_pos
    have hsize := hskip.size_le
    change read₁ depth (Condition.skipSpace (d.fill after x)) = _
    rw [← hx.fill_skipSpace]
    exact hread x operand depth hx (by omega)

/-- A choice is read alike if both alternatives are. -/
theorem ReadsAlike.or (h₁ : ReadsAlike after readable places fill read₁ d)
    (h₂ : ReadsAlike after readable places fill read₂ d) :
    ReadsAlike after readable places fill
      (fun depth text => (read₁ depth text).or (read₂ depth text)) d := by
  obtain ⟨out₁, hout₁, hread₁⟩ := h₁
  obtain ⟨out₂, hout₂, hread₂⟩ := h₂
  refine ⟨out₁.or out₂, fun found hfound => ?_, fun x operand depth hx hdepth => ?_⟩
  · obtain hfound | ⟨-, hfound⟩ := Option.or_eq_some_iff.1 hfound
    · exact hout₁ found hfound
    · exact hout₂ found hfound
  · change (read₁ depth (d.fill after x)).or (read₂ depth (d.fill after x)) = _
    rw [hread₁ x operand depth hx hdepth, hread₂ x operand depth hx hdepth, Option.map_or]

/-- Two parts are read alike if the first one is, and the second one off all that is shorter. -/
theorem ReadsAlike.both {places₂ : γ → Nat} {fill₂ : Operand → γ → δ}
    {places₃ : ε → Nat} {fill₃ : Operand → ε → ζ}
    {second : (depth : Nat) → Text → Option (δ × Text)} (combine : β → δ → ζ) (both : α → γ → ε)
    (hfill : ∀ operand a c,
      fill₃ operand (both a c) = combine (fill operand a) (fill₂ operand c))
    (hplaces : ∀ a c, places₃ (both a c) = places a + places₂ c)
    (hfirst : ReadsAlike after readable places fill read₁ d)
    (hsecond : ∀ e : Draft, e.Clear → e.size after < d.size after →
      ReadsAlike after readable places₂ fill₂ second e) :
    ReadsAlike after readable places₃ fill₃
      (fun depth => readBoth combine (read₁ depth) (second (depth - 1))) d := by
  obtain ⟨out, hout, hread⟩ := hfirst
  cases out with
  | none =>
      refine ⟨none, nofun, fun x operand depth hx hdepth => ?_⟩
      exact congrArg (Option.bind · _) (hread x operand depth hx hdepth)
  | some found =>
      obtain ⟨a, e⟩ := found
      obtain ⟨hleaves, hlt⟩ : Leaves after readable (places a) d e ∧ e.size after < d.size after :=
        hout _ rfl
      have hskip : Leaves after readable 0 e e.skipSpace := leaves_skipSpace hleaves.clear
      obtain ⟨next, hnext, hreadNext⟩ :=
        hsecond e.skipSpace hskip.clear (Nat.lt_of_le_of_lt hskip.size_le hlt)
      refine ⟨next.map fun found => (both a found.1, found.2), fun found hfound => ?_,
        fun x operand depth hx hdepth => ?_⟩
      · obtain ⟨⟨c, f⟩, hf, rfl⟩ := Option.map_eq_some_iff.1 hfound
        obtain ⟨hleavesNext, hltNext⟩ := hnext _ hf
        have hthrough := (hleaves.trans hskip).trans hleavesNext
        rw [Nat.add_zero, ← hplaces] at hthrough
        exact ⟨hthrough, Nat.lt_trans (Nat.lt_of_lt_of_le hltNext hskip.size_le) hlt⟩
      · have hlength := (hleaves.trans hskip).length_fill hx.length_pos
        have hsize := hskip.size_le
        simp only [readBoth, hread x operand depth hx hdepth, Option.map_some, Option.bind_some,
          ← hx.fill_skipSpace, hreadNext x operand (depth - 1) hx (by omega), Option.map_map,
          Function.comp_def, hfill]

end

/-- Comparisons are read alike: either operand may be the one that is left open. -/
theorem readsAlike_readComparison (hd : d.Clear) :
    ReadsAlike after readable Template.places Template.fill
      (fun _ text => (readComparison text).found?) d := by
  simp only [readComparison_eq_readBoth]
  have hleft : ReadsAlike after readable
      (fun found : Option Operand × Comparison => found.1.isNone.toNat)
      (fun operand found => (found.1.getD operand, found.2))
      (fun _ => readBoth Prod.mk operand? comparison?) d :=
    ReadsAlike.both _ Prod.mk (fun _ _ _ => rfl) (fun _ _ => rfl) (readsAlike_operand? hd)
      fun e he _ => readsAlike_comparison? he
  exact ReadsAlike.both _ (fun found rhs => .compare found.2 found.1 rhs) (fun _ _ _ => rfl)
    (fun _ _ => rfl) hleft fun e he _ => readsAlike_operand? he

/-! ## Chains -/

/-- A mark and the item behind it. -/
def nextItem? (mark? : Text → Option Text) (read : Text → Reading) :
    Text → Option (Predicate × Text) :=
  readBoth (fun _ p => p) (fun text => unit? mark? (skipSpace text)) fun text => (read text).found?

section

variable {combine : Predicate → Predicate → Predicate} {first next : Predicate} {limit : Nat}

/-- A chain ends where no further item is read. -/
theorem readMore_of_nextItem?_eq_none (h : nextItem? mark? read text = none) :
    readMore mark? read combine limit first text = (first, text) := by
  cases limit with
  | zero => rfl
  | succ limit =>
      rw [readMore]
      cases hmark : mark? (skipSpace text) with
      | none => rfl
      | some behind =>
          have hitem : (read (skipSpace behind)).found? = none := by
            simpa [nextItem?, readBoth, unit?, hmark] using h
          obtain ⟨stop, hstop⟩ := Reading.found?_eq_none_iff.1 hitem
          simp only [hstop]

/-- It goes on with an item that is read. -/
theorem readMore_of_nextItem?_eq_some (h : nextItem? mark? read text = some (next, rest)) :
    readMore mark? read combine (limit + 1) first text =
      readMore mark? read combine limit (combine first next) rest := by
  obtain ⟨_, behind, _, hmark, hitem, rfl⟩ := readBoth_eq_some_iff.1 h
  simp only [readMore, unit?_eq_some_iff.1 hmark, Reading.found?_eq_some_iff.1 hitem]

/-- A chain is a first item with the further ones. -/
theorem found?_readChain (text : Text) : (readChain mark? read combine text).found? =
    (read text).found?.map fun found =>
      readMore mark? read combine found.2.length found.1 found.2 := by
  rw [readChain]
  cases read text <;> rfl

end

section

variable {combine : Predicate → Predicate → Predicate} (both : Template → Template → Template)
variable (hfill : ∀ operand s t, (both s t).fill operand =
  combine (s.fill operand) (t.fill operand))
variable (hplaces : ∀ s t, (both s t).places = s.places + t.places)
variable (hmark : ∀ e : Draft, e.Clear →
  ReadsAlike after readable (fun _ => 0) (fun _ => id) (fun _ => unit? mark?) e)
variable (hitem : PredicatesAlike after readable n item)

include hmark hitem in
/-- The next item of a chain is read alike if its mark and shorter predicates are. -/
theorem readsAlike_nextItem? (hd : d.Clear) (hn : d.size after ≤ n) :
    ReadsAlike after readable Template.places Template.fill
      (fun depth => nextItem? mark? (item (depth - 1))) d :=
  ReadsAlike.both (fun _ p => p) (fun _ template => template) (fun _ _ _ => rfl)
    (fun _ template => (Nat.zero_add (Template.places template)).symm)
    (.skipSpace hd (hmark _ hd.skipSpace))
    fun e he hlt => hitem e he (Nat.lt_of_lt_of_le hlt hn)

include hfill hplaces hmark hitem

/-- A chain goes on alike. The induction is on what is still to be read, so the chain is followed
whatever the limit is, if it is high enough. -/
theorem exists_readMore (first : Template) (hd : d.Clear) (hn : d.size after ≤ n) :
    ∃ (template : Template) (e : Draft) (used : Nat),
      template.places = first.places + used ∧ Leaves after readable used d e ∧
      ∀ x operand depth limit, Fills after readable x operand →
        (d.fill after x).length < depth → (d.fill after x).length ≤ limit →
        readMore mark? (item depth) combine limit (first.fill operand) (d.fill after x) =
          (template.fill operand, e.fill after x) := by
  induction hsize : d.size after using Nat.strong_induction_on generalizing d first with
  | _ size ih =>
    subst hsize
    obtain ⟨out, hout, hread⟩ := readsAlike_nextItem? hmark hitem hd hn
    cases out with
    | none =>
        refine ⟨first, d, 0, rfl, .refl hd, fun x operand depth limit hx hdepth _ => ?_⟩
        exact readMore_of_nextItem?_eq_none (hread x operand (depth + 1) hx (by omega))
    | some found =>
        obtain ⟨next, e⟩ := found
        obtain ⟨hleaves, hlt⟩ : Leaves after readable next.places d e ∧
            e.size after < d.size after := hout _ rfl
        obtain ⟨template, f, used, htemplate, hrest, hmore⟩ :=
          ih (e.size after) hlt (both first next) hleaves.clear (by omega) rfl
        refine ⟨template, f, next.places + used, ?_, hleaves.trans hrest,
          fun x operand depth limit hx hdepth hlimit => ?_⟩
        · rw [htemplate, hplaces, Nat.add_assoc]
        · have hlength := hleaves.length_fill hx.length_pos
          obtain ⟨limit, rfl⟩ : ∃ n, limit = n + 1 := Nat.exists_eq_add_one.2 (by omega)
          have hnext : nextItem? mark? (item depth) (d.fill after x) =
              some (next.fill operand, e.fill after x) := hread x operand (depth + 1) hx (by omega)
          rw [readMore_of_nextItem?_eq_some hnext, ← hfill]
          exact hmore x operand depth limit hx (by omega) (by omega)

/-- So the whole chain is read alike, by induction on the length of what is left. -/
theorem predicatesAlike_readChain : PredicatesAlike after readable n
    (fun depth => readChain mark? (item depth) combine) := by
  intro d hd hn
  obtain ⟨out, hout, hread⟩ := hitem d hd hn
  cases out with
  | none =>
      refine ⟨none, nofun, fun x operand depth hx hdepth => ?_⟩
      simp only [found?_readChain, hread x operand depth hx hdepth, Option.map_none]
  | some found =>
      obtain ⟨first, e⟩ := found
      obtain ⟨hleaves, hlt⟩ : Leaves after readable first.places d e ∧
          e.size after < d.size after := hout _ rfl
      obtain ⟨template, f, used, htemplate, hrest, hmore⟩ :=
        exists_readMore both hfill hplaces hmark hitem first hleaves.clear (by omega)
      refine ⟨some (template, f), ?_, fun x operand depth hx hdepth => ?_⟩
      · rintro _ ⟨rfl⟩
        exact ⟨htemplate ▸ hleaves.trans hrest, Nat.lt_of_le_of_lt hrest.size_le hlt⟩
      · have hlength := hleaves.length_fill hx.length_pos
        simp only [found?_readChain, hread x operand depth hx hdepth, Option.map_some]
        rw [hmore x operand depth _ hx (by omega) (Nat.le_refl _)]

end

/-- Disjunctions are chains of chains. -/
theorem PredicatesAlike.readDisjunction (h : PredicatesAlike after readable n item) :
    PredicatesAlike after readable n fun depth => readDisjunction (item depth) := by
  have hand : PredicatesAlike after readable n fun depth => readConjunction (item depth) :=
    predicatesAlike_readChain .and (fun _ _ _ => rfl) (fun _ _ => rfl)
      (fun _ => readsAlike_andMark?) h
  exact predicatesAlike_readChain .or (fun _ _ _ => rfl) (fun _ _ => rfl)
    (fun _ => readsAlike_orMark?) hand

/-! ## Negations and groups -/

section

variable (h : PredicatesAlike after readable n item) (hd : d.Clear) (hn : d.size after ≤ n)
include h hd hn

/-- Negations are read alike if shorter predicates are. -/
theorem readsAlike_readNegated? : ReadsAlike after readable Template.places Template.fill
    (fun depth => readNegated? (item (depth - 1))) d := by
  simp only [funext readNegated?_eq_readBoth]
  exact ReadsAlike.both _ (fun _ inner => .not inner) (fun _ _ _ => rfl)
    (fun _ inner => (Nat.zero_add inner.places).symm) (readsAlike_notMark? hd)
    fun e he hlt => h e he (Nat.lt_of_lt_of_le hlt hn)

/-- So are groups. -/
theorem readsAlike_readGroup? : ReadsAlike after readable Template.places Template.fill
    (fun depth => readGroup? (item (depth - 1))) d := by
  simp only [funext readGroup?_eq_readBoth]
  have hopen : ReadsAlike after readable (fun _ => 0) (fun _ => id)
      (fun _ => unit? (Text.strip? ['('])) d := readsAlike_strip? hd (.inl rfl)
  have hinside : ReadsAlike after readable Template.places Template.fill
      (fun depth => readBoth (fun _ p => p) (unit? (Text.strip? ['(']))
        fun text => (readDisjunction (item (depth - 1)) text).found?) d :=
    ReadsAlike.both (fun _ p => p) (fun _ inner => inner) (fun _ _ _ => rfl)
      (fun _ inner => (Nat.zero_add (Template.places inner)).symm) hopen
      fun e he hlt => h.readDisjunction e he (Nat.lt_of_lt_of_le hlt hn)
  have hclose (e : Draft) (he : e.Clear) : ReadsAlike after readable (fun _ => 0) (fun _ => id)
      (fun _ => unit? (Text.strip? [')'])) e := readsAlike_strip? he (.inr rfl)
  exact ReadsAlike.both (fun p _ => p) (fun inner _ => inner) (fun _ _ _ => rfl) (fun _ _ => rfl)
    hinside fun e he _ => hclose e he

end

/-- What is read off a condition with a place in it does not depend on what fills the place, nor on
how much nesting is allowed, if it is enough. -/
theorem readsAlike_readNegation (n : Nat) : PredicatesAlike after readable n readNegation := by
  induction n with
  | zero => exact fun d hd hlt => absurd hlt (Nat.not_lt_zero _)
  | succ n ih =>
      intro d hd hlt
      have hskip : Leaves after readable 0 d d.skipSpace := leaves_skipSpace hd
      have hsize : d.skipSpace.size after ≤ n :=
        Nat.le_trans hskip.size_le (Nat.le_of_lt_succ hlt)
      obtain ⟨out, hout, hread⟩ := ((readsAlike_readNegated? ih hskip.clear hsize).or
        ((readsAlike_readGroup? ih hskip.clear hsize).or
          (readsAlike_readComparison hskip.clear))).skipSpace hd
      refine ⟨out, hout, fun x operand depth hx hdepth => ?_⟩
      obtain ⟨depth, rfl⟩ : ∃ n, depth = n + 1 := Nat.exists_eq_add_one.2 (by omega)
      exact (found?_readNegation depth (d.fill after x)).trans <| hread x operand (depth + 1) hx hdepth

end RelQuery.Condition
