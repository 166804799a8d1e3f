import RelQuery.Proofs.Syntax.Accepted
import RelQuery.Proofs.Syntax.Lockstep

/-!
# Changing a condition in a text

What an accepted text is read as when a condition in it is changed. Outside groups nothing else
changes. Within a group the reader counts parentheses in conditions too when it looks for the end of
the group, so the change must leave as many parentheses open (`SameDepthBehind`); then the text is
accepted and the tree differs in one condition at most, and otherwise the text is not accepted
(`read_change_condition`). Conditions with balanced parentheses may always be changed into each
other (`read_change_balanced`).
-/

namespace RelQuery.Syntax

open Text (depthAfter? outside)
open RelQuery.Expr (braced)

/-- In every group that is open behind `u` as many parentheses are open, over the bare text, behind
one condition as behind the other. -/
def SameDepthBehind (u c c' : Text) : Prop :=
  ∀ before inner, u = before ++ '(' :: inner → before.EndsOutside →
    (depthAfter? 0 (outside inner)).isSome →
    depthAfter? 0 (inner ++ braced c') = depthAfter? 0 (inner ++ braced c)

variable {settings : Settings} {groups : Nat} {text u v c c' : Text} {root root' : Operand} {n : Expr}
variable {before after toks : List Token} {token token' : Token} {rest : Text}

/-- Conditions that end at the same depth behind a beginning do so within a group that is open
there. -/
theorem SameDepthBehind.of_group {front inner : Text}
    (h : SameDepthBehind (front ++ '(' :: inner) c c') (hfront : front.EndsOutside) :
    SameDepthBehind inner c c' := by
  rintro before inside rfl hbefore hopen
  have hparen : Text.EndsOutside ['('] := rfl
  refine h (front ++ '(' :: before) inside (by simp) ?_ hopen
  exact hfront.append (hparen.append hbefore)

/-- Conditions with balanced parentheses leave the count as it was. -/
theorem sameDepthBehind_of_balanced (hc : c.Balanced) (hc' : c'.Balanced) :
    SameDepthBehind u c c' := by
  intro before inner _ _ _
  have hbraced := Expr.balanced_braced hc
  have hbraced' := Expr.balanced_braced hc'
  simp only [Text.depthAfter?_append, hbraced.depthAfter?_eq, hbraced'.depthAfter?_eq]

/-! ## The changed text is accepted -/

/-- A name ends in front of a condition. -/
theorem nameEnds_condition : NameEnds (Token.text (.condition c) ++ rest) := by
  simpa [NameEnds] using isNameChar_brace

/-- A name ends in front of a group. -/
theorem nameEnds_group : NameEnds (Token.text (.group c) ++ rest) := by
  simpa [NameEnds] using isNameChar_open

/-- A token may be replaced by one that begins with no name character. -/
theorem tokens_replace (h : LexedBefore [] (before ++ token :: after))
    (htoken' : token'.Lexed (textOf after)) (hends : NameEnds (token'.text ++ textOf after)) :
    tokens (textOf before ++ token'.text ++ textOf after) = before ++ token' :: after := by
  obtain ⟨hbefore, -, hafter⟩ := lexedBefore_append.1 h
  have hlexed : LexedBefore [] (before ++ token' :: after) := by
    refine lexedBefore_append.2 ⟨hbefore.of_nameEnds (by simpa using hends), ?_, hafter⟩
    rwa [List.append_nil]
  have htoks := tokens_append_of_lexedBefore hlexed
  simpa [tokens_nil] using htoks

/-- A group may be replaced by one that is read as a tree with one condition changed, and is as
high. -/
theorem readNested_change_group {body body' : Text} {operand operand' : Operand}
    (h : readNested settings (groups + 1) text = .ok root)
    (htoks : tokens text = before ++ .group body :: after)
    (hread : readNested settings groups body = .ok operand) (hbalanced' : body'.Balanced)
    (hread' : readNested settings groups body' = .ok operand')
    (hheight : operand'.height = operand.height)
    (hdiffers : operand.expr.DiffersAtMostAt c c' operand'.expr) :
    ∃ root', readNested settings (groups + 1)
        (textOf before ++ Token.text (.group body') ++ textOf after) = .ok root' ∧
      root'.height = root.height ∧ root.expr.DiffersAtMostAt c c' root'.expr := by
  obtain ⟨s, hreached, -⟩ := readNested_eq_ok_iff.1 h
  have hlexed := htoks ▸ hreached.lexedBefore
  have htoken' : Token.Lexed (textOf after) (.group body') := hbalanced'
  have htoks' := tokens_replace hlexed htoken' nameEnds_group
  exact readNested_change h htoks htoks' fun hs hsame hstep =>
    hstep.group_change hs hsame hread hread' hheight hdiffers _

/-- A condition that stands in a group ends in it. -/
theorem exists_of_group {inner more behind : Text} (hinner : Text.EndsOutside inner)
    (hbody : Text.WellNested (inner ++ '{' :: more)) (hc : '}' ∉ c)
    (h : c ++ '}' :: v = more ++ ')' :: behind) :
    ∃ tail, more = c ++ '}' :: tail ∧ v = tail ++ ')' :: behind := by
  rcases List.append_eq_append_iff.1 h with ⟨tail, rfl, htail⟩ | ⟨tail, rfl, htail⟩
  · cases tail with
    | nil => cases htail
    | cons b tail =>
        obtain ⟨rfl, rfl⟩ := List.cons_eq_cons.1 htail
        exact ⟨tail, rfl, rfl⟩
  · have hmore : '}' ∉ more := fun hmem => hc (List.mem_append_left _ hmem)
    have hends : Text.insideAfter true more = false := hinner.of_append hbody.endsOutside
    rw [Text.insideAfter_true_of_not_mem hmore] at hends
    cases hends

/-- The tokens of a text in which a condition begins outside any group. -/
theorem eq_condition_of_lexed (h : token.Lexed (textOf after)) (hc : '}' ∉ c)
    (htail : '{' :: (c ++ '}' :: v) = token.text ++ textOf after) :
    token = .condition c ∧ v = textOf after := by
  obtain ⟨body, rfl, hbody⟩ := h.eq_condition htail
  have hcut : Text.cut? '}' (c ++ '}' :: v) = some (c, v) := Text.cut?_eq_some_iff.2 ⟨rfl, hc⟩
  rw [Text.cut?_eq_some_iff.2 ⟨hbody, h⟩] at hcut
  cases hcut
  exact ⟨rfl, rfl⟩

/-- A changed condition leaves the group around it balanced. -/
theorem balanced_change {front inner tail : Text}
    (hbody : Text.Balanced (inner ++ braced c ++ tail))
    (hnested : Text.WellNested (inner ++ braced c ++ tail)) (hinner : Text.EndsOutside inner)
    (hsame : SameDepthBehind (front ++ '(' :: inner) c c') (hfront : front.EndsOutside) :
    Text.Balanced (inner ++ braced c' ++ tail) := by
  have hopen : (depthAfter? 0 (outside inner)).isSome := by
    have hbalanced := hnested.balanced
    rw [List.append_assoc, hinner.outside_append, Text.depthAfter?_append,
      Option.bind_eq_some_iff] at hbalanced
    obtain ⟨depth, hdepth, -⟩ := hbalanced
    rw [hdepth]
    rfl
  rw [Text.balanced_iff] at hbody ⊢
  rwa [Text.depthAfter?_append, hsame front inner rfl hfront hopen, ← Text.depthAfter?_append]

/-- A changed condition is read where the old one was. -/
theorem readNested_of_sameDepthBehind
    (h : readNested settings groups (u ++ braced c ++ v) = .ok root)
    (hu : u.EndsOutside) (hc : c ≠ [] ∧ '}' ∉ c) (hc' : c' ≠ [] ∧ '}' ∉ c')
    (hsame : SameDepthBehind u c c') :
    ∃ root', readNested settings groups (u ++ braced c' ++ v) = .ok root' ∧
      root'.height = root.height ∧ root.expr.DiffersAtMostAt c c' root'.expr := by
  induction groups using Nat.strongRecOn generalizing u v root with
  | ind groups ih =>
      -- The condition is a token of the text or stands in a group, which is a shorter text.
      obtain ⟨s, hreached, -⟩ := readNested_eq_ok_iff.1 h
      have hgroup : ∀ body, .group body ∈ tokens (u ++ braced c ++ v) → body.WellNested :=
        fun body hmem => hreached.wellNested_group hmem
      have hplace : textOf (tokens (u ++ braced c ++ v)) = u ++ '{' :: (c ++ '}' :: v) := by
        rw [textOf, tokens_text]
        simp [braced]
      rcases hreached.lexedBefore.exists_token_outside hgroup hplace hu isNameChar_brace
          (by decide) with
        ⟨before, token, after, htoks, rfl, htail⟩ |
        ⟨before, body, after, inner, more, htoks, rfl, hbefore, hinner, rfl, htail⟩
      · have hlexed := htoks ▸ hreached.lexedBefore
        obtain ⟨-, htoken, -⟩ := lexedBefore_append.1 hlexed
        rw [List.append_nil] at htoken
        obtain ⟨rfl, rfl⟩ := eq_condition_of_lexed htoken hc.2 htail
        have htoken' : Token.Lexed (textOf after) (.condition c') := hc'.2
        have htoks' := tokens_replace hlexed htoken' nameEnds_condition
        exact readNested_change h htoks htoks' fun _ hsame hstep =>
          hstep.condition_change hsame hc.1 hc'.1 _
      · have hmem : .group (inner ++ '{' :: more) ∈
            tokens (textOf before ++ '(' :: inner ++ braced c ++ v) := by
          rw [htoks]
          simp
        have hnested := hgroup _ hmem
        obtain ⟨tail, rfl, rfl⟩ := exists_of_group hinner hnested hc.2 htail
        have hbody : inner ++ '{' :: (c ++ '}' :: tail) = inner ++ braced c ++ tail := by
          simp [braced]
        rw [hbody] at hmem hnested htoks
        have hlexed := htoks ▸ hreached.lexedBefore
        obtain ⟨-, htoken, -⟩ := lexedBefore_append.1 hlexed
        have hbalanced := balanced_change htoken hnested hinner hsame hbefore
        obtain ⟨inside, operand, rfl, hread⟩ := hreached.read_group hmem
        obtain ⟨operand', hread', hheight, hdiffers⟩ :=
          ih inside (Nat.lt_succ_self inside) hread hinner (hsame.of_group hbefore)
        obtain ⟨root', hroot', hchange⟩ :=
          readNested_change_group h htoks hread hbalanced hread' hheight hdiffers
        refine ⟨root', ?_, hchange⟩
        rw [← hroot']
        simp

/-! ## What acceptance of both texts says -/

/-- A group that is open behind `inner` goes on behind a condition, and without the condition what
is in it is still well nested. -/
theorem exists_group_tail {front inner : Text}
    (h : readNested settings groups (front ++ '(' :: inner ++ braced c ++ v) = .ok root)
    (hfront : front.EndsOutside) (hinner : Text.EndsOutside inner) (hc : '}' ∉ c)
    (hopen : (depthAfter? 0 (outside inner)).isSome) :
    ∃ tail after, v = tail ++ ')' :: after ∧ Text.Balanced (inner ++ braced c ++ tail) ∧
      Text.WellNested (inner ++ tail) := by
  have hcondition : Text.WellNested (braced c) := .condition hc
  have hends := hinner.append hcondition.endsOutside
  have houtside : outside (inner ++ braced c) = outside inner := by
    rw [hinner.outside_append, braced, Text.outside_condition hc, List.append_nil]
  have htext : front ++ '(' :: inner ++ braced c ++ v =
      front ++ '(' :: (inner ++ braced c ++ v) := by
    simp
  rw [htext] at h
  obtain ⟨body, after, hbody, hbalanced, hnested⟩ := group_of_readNested h hfront
  have hlonger : ∃ tail, body = inner ++ braced c ++ tail ∧ v = tail ++ ')' :: after := by
    rcases List.append_eq_append_iff.1 hbody with ⟨tail, htail, hv⟩ | ⟨tail, htail, hv⟩
    · exact ⟨tail, htail, hv⟩
    · cases tail with
      | nil => exact ⟨[], by simpa using htail.symm, by simpa using hv.symm⟩
      | cons b tail =>
          -- The parenthesis that closes the group would stand in `inner`.
          obtain ⟨rfl, -⟩ := List.cons_eq_cons.1 hv
          have hclosed : depthAfter? 0 (outside (body ++ ')' :: tail)) = none :=
            hnested.depthAfter?_close
          rw [← htail, houtside] at hclosed
          rw [hclosed] at hopen
          cases hopen
  obtain ⟨tail, rfl, rfl⟩ := hlonger
  refine ⟨tail, after, rfl, hbalanced, ?_, ?_⟩
  · have := hnested.balanced
    rwa [hends.outside_append, houtside, ← hinner.outside_append] at this
  · exact hinner.append (hends.of_append hnested.endsOutside)

/-- If both texts are accepted, both conditions leave as many parentheses open in every group around
them: behind them the group ends at the same place. -/
theorem sameDepthBehind_of_readNested
    (h : readNested settings groups (u ++ braced c ++ v) = .ok root)
    (h' : readNested settings groups (u ++ braced c' ++ v) = .ok root') (hu : u.EndsOutside)
    (hc : '}' ∉ c) (hc' : '}' ∉ c') : SameDepthBehind u c c' := by
  rintro front inner rfl hfront hopen
  have hgroup : Text.EndsOutside ('(' :: inner) := hfront.of_append hu
  have hinner : Text.EndsOutside inner := hgroup
  obtain ⟨tail, after, rfl, hbalanced, hnested⟩ := exists_group_tail h hfront hinner hc hopen
  obtain ⟨tail', after', htail, hbalanced', hnested'⟩ :=
    exists_group_tail h' hfront hinner hc' hopen
  -- Without the conditions both groups begin the same text and end where it is first balanced.
  have hsame : inner ++ tail = inner ++ tail' :=
    hnested.eq_of_append_eq hnested' (by rw [List.append_assoc, htail, List.append_assoc])
  rw [List.append_cancel_left hsame] at hbalanced
  rw [Text.balanced_iff, Text.depthAfter?_append, Option.bind_eq_some_iff] at hbalanced hbalanced'
  obtain ⟨depth, hdepth, hclose⟩ := hbalanced
  obtain ⟨depth', hdepth', hclose'⟩ := hbalanced'
  rw [hdepth, hdepth', Text.eq_of_depthAfter?_eq hclose' hclose]

/-! ## Changing a condition -/

/-- A condition may be changed into one that leaves as many parentheses open in every group around
it. -/
theorem read_of_sameDepthBehind (h : read settings (u ++ braced c ++ v) = .ok n)
    (hu : u.EndsOutside) (hc : c ≠ [] ∧ '}' ∉ c) (hc' : c' ≠ [] ∧ '}' ∉ c')
    (hsame : SameDepthBehind u c c') :
    ∃ n', read settings (u ++ braced c' ++ v) = .ok n' ∧ n.DiffersAtMostAt c c' n' := by
  obtain ⟨root, hread, rfl⟩ := read_eq_ok_iff.1 h
  obtain ⟨root', hread', -, hdiffers⟩ := readNested_of_sameDepthBehind hread hu hc hc' hsame
  exact ⟨root'.expr, read_eq_ok_iff.2 ⟨root', hread', rfl⟩, hdiffers⟩

/-- A condition with balanced parentheses may be changed into any other one. -/
theorem read_change_balanced (h : read settings (u ++ braced c ++ v) = .ok n) (hu : u.EndsOutside)
    (hc : c ≠ [] ∧ '}' ∉ c) (hc' : c' ≠ [] ∧ '}' ∉ c') (hbalanced : c.Balanced)
    (hbalanced' : c'.Balanced) :
    ∃ n', read settings (u ++ braced c' ++ v) = .ok n' ∧ n.DiffersAtMostAt c c' n' :=
  read_of_sameDepthBehind h hu hc hc' (sameDepthBehind_of_balanced hbalanced hbalanced')

/-- When a condition of an accepted text is changed, the text is accepted exactly if the change
leaves as many parentheses open in every group around it, and then the tree differs in one condition
at most. -/
theorem read_change_condition (h : read settings (u ++ braced c ++ v) = .ok n) (hu : u.EndsOutside)
    (hc : c ≠ [] ∧ '}' ∉ c) (hc' : c' ≠ [] ∧ '}' ∉ c') :
    ((∃ n', read settings (u ++ braced c' ++ v) = .ok n' ∧ n.DiffersAtMostAt c c' n') ↔
      SameDepthBehind u c c') ∧
    ∀ n', read settings (u ++ braced c' ++ v) = .ok n' → n.DiffersAtMostAt c c' n' := by
  have hsame (n' : Expr) (h' : read settings (u ++ braced c' ++ v) = .ok n') :
      SameDepthBehind u c c' := by
    obtain ⟨root, hread, -⟩ := read_eq_ok_iff.1 h
    obtain ⟨root', hread', -⟩ := read_eq_ok_iff.1 h'
    exact sameDepthBehind_of_readNested hread hread' hu hc.2 hc'.2
  refine ⟨⟨?_, read_of_sameDepthBehind h hu hc hc'⟩, ?_⟩
  · rintro ⟨n', h', -⟩
    exact hsame n' h'
  · intro n' h'
    obtain ⟨n'', h'', hdiffers⟩ := read_of_sameDepthBehind h hu hc hc' (hsame n' h')
    rw [h'] at h''
    cases h''
    exact hdiffers

/-- A selection between parentheses. -/
theorem read_enclosed_selection : read {} ("(σ ".toList ++ braced ['A'] ++ " R)".toList) = .ok
    (.unary .select ['A'] (.named ['R']) ("(σ ".toList ++ braced ['A'] ++ " R)".toList)) := by
  rfl

/-- A closing parenthesis in the condition closes the group around the selection. -/
theorem read_change_condition_enclosed_selection :
    ∃ n, read {} ("(σ ".toList ++ braced ['A'] ++ " R)".toList) = .ok n ∧
      ((∃ n', read {} ("(σ ".toList ++ braced [')'] ++ " R)".toList) = .ok n' ∧
        n.DiffersAtMostAt ['A'] [')'] n') ↔ SameDepthBehind "(σ ".toList ['A'] [')']) ∧
      ∀ n', read {} ("(σ ".toList ++ braced [')'] ++ " R)".toList) = .ok n' →
        n.DiffersAtMostAt ['A'] [')'] n' :=
  ⟨_, read_enclosed_selection,
    read_change_condition read_enclosed_selection rfl (by decide) (by decide)⟩

/-- Not every change of a condition leaves a text accepted: a parenthesis in the condition ends the
group that it stands in. -/
theorem not_read_change_condition : ¬ ∀ u c v c' n,
    Text.EndsOutside u → (c ≠ [] ∧ '}' ∉ c) → (c' ≠ [] ∧ '}' ∉ c') →
    read {} (u ++ braced c ++ v) = .ok n →
    ∃ n', read {} (u ++ braced c' ++ v) = .ok n' ∧ n.DiffersAtMostAt c c' n' := by
  intro h
  obtain ⟨n', hread, -⟩ := h "(σ ".toList ['A'] " R)".toList [')'] _ rfl (by decide) (by decide)
    read_enclosed_selection
  have herror : read {} ("(σ ".toList ++ braced [')'] ++ " R)".toList) =
      .error ⟨.openCondition, 2, some '\x7b', .operand⟩ := by
    rfl
  rw [herror] at hread
  cases hread

end RelQuery.Syntax
