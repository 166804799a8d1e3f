import RelQuery.Proofs.Syntax.Opacity

/-!
# Blanks in a text

Blanks may be put into a text or taken out of it anywhere but within a condition or a name: the text
is accepted or not as it was, and nothing but sources changes in its tree (`read_blanks`). Between
two tokens blanks are steps that change only the position. Within a group they change the group,
whose text is shorter, so the induction is over the groups that may be opened.
-/

namespace RelQuery.Syntax

/-- Two texts meet within a condition that is closed in the second one. -/
def InCondition (left right : Text) : Prop :=
  Text.insideAfter false left ∧ '}' ∈ right

variable {settings : Settings} {groups : Nat} {text text' u v blanks blanks' : Text}
variable {s s' : State} {before after : List Token} {root : Operand}

/-! ## More and fewer blanks between tokens -/

/-- A blank changes nothing that is kept. -/
theorem Step.eq_advance_of_blank {c : Char} (h : Step settings groups text s (.blank c) s') :
    s' = s.advance (.blank c) := by
  cases h with
  | blank => rfl
  | left _ hread _ _ => cases hread
  | unary _ hread _ _ _ _ => cases hread
  | binary _ hread _ _ _ _ _ => cases hread

/-- A run goes on over blanks, with the same parts. -/
theorem Reached.append_blanks (h : Reached settings groups text before s) (blanks : Text) :
    ∃ t, Reached settings groups text (before ++ blanks.map .blank) t ∧ s.SameParts t := by
  induction blanks generalizing before s with
  | nil => exact ⟨s, by simpa using h, .refl s⟩
  | cons c blanks ih =>
      obtain ⟨t, hreached, hsame⟩ := ih (h.snoc (.blank s c))
      exact ⟨t, by simpa using hreached, (State.SameParts.advance s _).trans hsame⟩

/-- And blanks at the end of a run may be left out. -/
theorem Reached.of_append_blanks
    (h : Reached settings groups text (before ++ blanks.map .blank) s) :
    ∃ t, Reached settings groups text before t ∧ t.SameParts s := by
  induction blanks generalizing before with
  | nil => exact ⟨s, by simpa using h, .refl s⟩
  | cons c blanks ih =>
      have hfirst : Reached settings groups text (before ++ [.blank c] ++ blanks.map .blank) s := by
        simpa using h
      obtain ⟨t, hreached, hsame⟩ := ih hfirst
      obtain ⟨r, hreached', hstep⟩ := hreached.of_append_singleton
      obtain rfl := hstep.eq_advance_of_blank
      exact ⟨r, hreached', (State.SameParts.advance r _).trans hsame⟩

/-- A run that ends with other blanks keeps the same parts. -/
theorem Reached.change_blanks
    (h : Reached settings groups text (before ++ blanks.map .blank) s) (blanks' text' : Text) :
    ∃ t, Reached settings groups text' (before ++ blanks'.map .blank) t ∧ s.SameParts t := by
  obtain ⟨front, hfront, hsame⟩ := h.of_append_blanks
  obtain ⟨front', hfront', hsame'⟩ := hfront.sameParts text'
  obtain ⟨t, hreached, hblanks⟩ := hfront'.append_blanks blanks'
  exact ⟨t, hreached, (hsame.symm.trans hsame').trans hblanks⟩

/-- What is read from the same tokens, other blanks at one place apart, is the same but for
sources. -/
theorem readNested_change_blanks (h : readNested settings groups text = .ok root)
    (htoks : tokens text = before ++ blanks.map .blank ++ after)
    (htoks' : tokens text' = before ++ blanks'.map .blank ++ after) :
    ∃ root', readNested settings groups text' = .ok root' ∧ root'.height = root.height ∧
      root'.expr.erase = root.expr.erase := by
  have hmiddle {s : State} (hs : Reached settings groups text (before ++ blanks.map .blank) s) :
      ∃ t, Reached settings groups text' (before ++ blanks'.map .blank) t ∧ s.Alike t ∧
        OneChange [] [] s.conditions t.conditions := by
    obtain ⟨t, ht, hsame⟩ := hs.change_blanks blanks' text'
    exact ⟨t, ht, hsame.toAlike, .inl hsame.conditions_eq⟩
  obtain ⟨root', hread', hheight, hdiffers⟩ := readNested_replace h htoks htoks' hmiddle
  exact ⟨root', hread', hheight, Expr.differsAtMostAt_self_iff.1 hdiffers⟩

/-! ## Blanks in a text -/

/-- Blanks hold no other character. -/
theorem not_mem_of_blanks {c : Char} (h : ∀ b ∈ blanks, Text.isBlank b)
    (hc : Text.isBlank c = false) : c ∉ blanks := by
  intro hmem
  rw [h c hmem] at hc
  cases hc

/-- Blanks are cut one by one. -/
theorem tokens_blanks_append (h : ∀ c ∈ blanks, Text.isBlank c) :
    tokens (blanks ++ v) = blanks.map .blank ++ tokens v := by
  induction blanks with
  | nil => rfl
  | cons c blanks ih =>
      obtain ⟨hc, hblanks⟩ := List.forall_mem_cons.1 h
      have hlexed : Token.Lexed (blanks ++ v) (.blank c) := hc
      have hfirst : tokens ([c] ++ (blanks ++ v)) = .blank c :: tokens (blanks ++ v) :=
        tokens_append_of_lexed hlexed
      rw [List.cons_append, ← List.singleton_append, hfirst, ih hblanks, List.map_cons,
        List.cons_append]

/-- No name goes on behind a blank. -/
theorem not_inName_blanks_append (h : ¬ InName u v) (hblanks : ∀ c ∈ blanks, Text.isBlank c) :
    ¬ InName u (blanks ++ v) := by
  cases blanks with
  | nil => exact h
  | cons c blanks =>
      refine NameEnds.not_inName ?_
      intro d hd
      cases hd
      exact isNameChar_of_isBlank (hblanks c List.mem_cons_self)

/-- Blanks in a text leave its parentheses balanced. -/
theorem balanced_change_blanks {inner tail : Text} (h : Text.Balanced (inner ++ blanks ++ tail))
    (hblanks : ∀ c ∈ blanks, Text.isBlank c) (hblanks' : ∀ c ∈ blanks', Text.isBlank c) :
    Text.Balanced (inner ++ blanks' ++ tail) := by
  have hdepth {more : Text} (hmore : ∀ c ∈ more, Text.isBlank c) :
      Text.depthAfter? 0 (inner ++ more ++ tail) = Text.depthAfter? 0 (inner ++ tail) := by
    have hsame (depth : Nat) : Text.depthAfter? depth more = some depth :=
      Text.depthAfter?_of_not_mem (not_mem_of_blanks hmore rfl) (not_mem_of_blanks hmore rfl)
    simp [Text.depthAfter?_append, hsame]
  rw [Text.balanced_iff, hdepth hblanks] at h
  rw [Text.balanced_iff, hdepth hblanks', h]

/-- Blanks that stand in a group end in it. -/
theorem exists_of_blanks_append {more behind : Text} (hblanks : ∀ c ∈ blanks, Text.isBlank c)
    (h : blanks ++ v = more ++ ')' :: behind) :
    ∃ tail, more = blanks ++ tail ∧ v = tail ++ ')' :: behind := by
  obtain ⟨tail, hmore, hv⟩ | ⟨tail, rfl, hv⟩ := List.append_eq_append_iff.1 h
  · exact ⟨tail, hmore, hv⟩
  · cases tail with
    | nil => exact ⟨[], by simp, hv.symm⟩
    | cons c tail =>
        obtain ⟨rfl, -⟩ := List.cons_eq_cons.1 hv
        have hblank := hblanks ')' (by simp)
        cases hblank

/-- The blanks at a place outside conditions and names may be changed. -/
theorem readNested_blanks (h : readNested settings groups (u ++ blanks ++ v) = .ok root)
    (hu : u.EndsOutside) (hname : ¬ InName u v) (hblanks : ∀ c ∈ blanks, Text.isBlank c)
    (hblanks' : ∀ c ∈ blanks', Text.isBlank c) :
    ∃ root', readNested settings groups (u ++ blanks' ++ v) = .ok root' ∧
      root'.height = root.height ∧ root'.expr.erase = root.expr.erase := by
  induction groups using Nat.strongRecOn generalizing u v root with
  | ind groups ih =>
      -- The place is between two tokens or in a group, which is a shorter text.
      obtain ⟨s, hreached, -⟩ := readNested_eq_ok_iff.1 h
      have hlexed := hreached.lexedBefore
      have hplace : textOf (tokens (u ++ blanks ++ v)) = u ++ (blanks ++ v) := by
        rw [textOf_tokens, List.append_assoc]
      obtain ⟨before, after, htoks, rfl, hafter⟩ | ⟨before, body, after, inner, more, htoks, rfl,
        hbefore, hinner, rfl, htail⟩ := hlexed.exists_gap
          (fun body hmem => hreached.wellNested_group hmem) hplace hu
          (not_inName_blanks_append hname hblanks)
      · rw [htoks] at hlexed
        obtain ⟨hfront, -⟩ := lexedBefore_append.1 hlexed
        have htokens {more : Text} (hmore : ∀ c ∈ more, Text.isBlank c) :
            tokens (textOf before ++ more ++ v) = before ++ more.map .blank ++ tokens v := by
          have hlexed' := hfront.of_not_inName (not_inName_blanks_append hname hmore)
          rw [List.append_assoc, tokens_append_of_lexedBefore hlexed', tokens_blanks_append hmore,
            List.append_assoc]
        exact readNested_change_blanks h (htokens hblanks) (htokens hblanks')
      · obtain ⟨tail, rfl, rfl⟩ := exists_of_blanks_append hblanks htail
        have hbody : inner ++ (blanks ++ tail) = inner ++ blanks ++ tail := by
          simp
        rw [hbody] at htoks
        have hmem : .group (inner ++ blanks ++ tail) ∈
            tokens (textOf before ++ '(' :: inner ++ blanks ++ (tail ++ ')' :: textOf after)) := by
          rw [htoks]
          simp
        rw [htoks] at hlexed
        obtain ⟨-, hbalanced, -⟩ := lexedBefore_append.1 hlexed
        obtain ⟨inside, operand, rfl, hread⟩ := hreached.read_group hmem
        have hname' : ¬ InName inner tail := by
          intro hin
          have hlonger : InName (textOf before ++ ['('] ++ inner) (tail ++ ')' :: textOf after) :=
            hin.append
          rw [List.append_assoc] at hlonger
          exact hname hlonger
        obtain ⟨operand', hread', hheight, herase⟩ :=
          ih inside (Nat.lt_succ_self inside) hread hinner hname'
        have hdiffers := (Expr.differsAtMostAt_self_iff (c := [])).2 herase
        obtain ⟨root', hroot', hheight', hdiffers'⟩ := readNested_change_group h htoks hread
          (balanced_change_blanks hbalanced hblanks hblanks') hread' hheight hdiffers
        refine ⟨root', ?_, hheight', Expr.differsAtMostAt_self_iff.1 hdiffers'⟩
        rw [← hroot']
        simp

/-- A place in an accepted text that is not within a condition that is closed is within none. -/
theorem endsOutside_of_readNested (h : readNested settings groups (u ++ v) = .ok root)
    (hcondition : ¬ InCondition u v) : u.EndsOutside := by
  cases hu : Text.insideAfter false u with
  | false => exact hu
  | true =>
      have hclose : '}' ∉ v := fun hmem => hcondition ⟨hu, hmem⟩
      have hends : Text.insideAfter false (u ++ v) = false := (readNested_wellNested h).endsOutside
      rw [Text.insideAfter_append, hu, Text.insideAfter_true_of_not_mem hclose] at hends
      cases hends

/-- Blanks close no condition. -/
theorem not_inCondition_blanks_append (h : ¬ InCondition u v)
    (hblanks : ∀ c ∈ blanks, Text.isBlank c) : ¬ InCondition u (blanks ++ v) := by
  intro hin
  obtain ⟨hu, hmem⟩ := hin
  obtain hmem | hmem := List.mem_append.1 hmem
  · exact not_mem_of_blanks hblanks rfl hmem
  · exact h ⟨hu, hmem⟩

/-- Layout outside conditions and names does not matter. Blanks put into a text at a place that is
neither within a condition nor within a name leave it accepted or not as it was, and change only
sources in its tree. -/
theorem read_blanks (settings : Settings) (u v blanks : Text) (hcondition : ¬ InCondition u v)
    (hname : ¬ InName u v) (hblanks : ∀ c ∈ blanks, Text.isBlank c) :
    ((∃ n, read settings (u ++ v) = .ok n) ↔ ∃ n, read settings (u ++ blanks ++ v) = .ok n) ∧
      ∀ n n', read settings (u ++ v) = .ok n → read settings (u ++ blanks ++ v) = .ok n' →
        n'.erase = n.erase := by
  have hinsert (n : Expr) (h : read settings (u ++ v) = .ok n) :
      ∃ n', read settings (u ++ blanks ++ v) = .ok n' ∧ n'.erase = n.erase := by
    obtain ⟨root, hread, rfl⟩ := read_eq_ok_iff.1 h
    have hu := endsOutside_of_readNested hread hcondition
    have hnone : readNested settings settings.maxDepth (u ++ [] ++ v) = .ok root := by
      rwa [List.append_nil]
    obtain ⟨root', hread', -, herase⟩ := readNested_blanks hnone hu hname nofun hblanks
    exact ⟨root'.expr, read_eq_ok_iff.2 ⟨root', hread', rfl⟩, herase⟩
  have hremove (n' : Expr) (h : read settings (u ++ blanks ++ v) = .ok n') :
      ∃ n, read settings (u ++ v) = .ok n := by
    obtain ⟨root', hread', -⟩ := read_eq_ok_iff.1 h
    have hlonger := hread'
    rw [List.append_assoc] at hlonger
    have hu := endsOutside_of_readNested hlonger (not_inCondition_blanks_append hcondition hblanks)
    have hnil : ∀ c ∈ ([] : Text), Text.isBlank c := nofun
    obtain ⟨root, hread, -⟩ := readNested_blanks hread' hu hname hblanks hnil
    rw [List.append_nil] at hread
    exact ⟨root.expr, read_eq_ok_iff.2 ⟨root, hread, rfl⟩⟩
  refine ⟨⟨?_, ?_⟩, ?_⟩
  · intro hn
    obtain ⟨n, h⟩ := hn
    obtain ⟨n', h', -⟩ := hinsert n h
    exact ⟨n', h'⟩
  · intro hn'
    obtain ⟨n', h'⟩ := hn'
    exact hremove n' h'
  · intro n n' h h'
    obtain ⟨n'', h'', herase⟩ := hinsert n h
    rw [h'] at h''
    cases h''
    exact herase

/-- Blanks behind a name, at the end of a group. -/
theorem read_blanks_in_group :
    let u := "R ∪ (S ∩ T".toList
    let v := [')']
    let blanks := [' ', '\n']
    ¬ InCondition u v ∧ ¬ InName u v ∧ (∀ c ∈ blanks, Text.isBlank c) ∧
      ∃ n n', read {} (u ++ v) = .ok n ∧ read {} (u ++ blanks ++ v) = .ok n' ∧
        n'.erase = n.erase := by
  intro u v blanks
  have hcondition : ¬ InCondition u v := fun hin => Bool.false_ne_true hin.1
  have hends : NameEnds v := by
    intro c hc
    cases hc
    exact isNameChar_close
  have hblanks : ∀ c ∈ blanks, Text.isBlank c :=
    List.forall_mem_cons.2 ⟨rfl, List.forall_mem_singleton.2 rfl⟩
  have hread : read {} (u ++ v) = .ok (.setOp .union (.named ['R'])
      (.setOp .intersect (.named ['S']) (.named ['T']) "(S ∩ T)".toList)
      "R ∪ (S ∩ T)".toList) := by
    rfl
  obtain ⟨hiff, herase⟩ := read_blanks {} u v blanks hcondition hends.not_inName hblanks
  obtain ⟨n', hread'⟩ := hiff.1 ⟨_, hread⟩
  exact ⟨hcondition, hends.not_inName, hblanks, _, n', hread, hread', herase _ n' hread hread'⟩

end RelQuery.Syntax
