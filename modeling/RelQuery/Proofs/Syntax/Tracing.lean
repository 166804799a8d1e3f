import RelQuery.Proofs.Expr.Postorder
import RelQuery.Proofs.Syntax.Events
import RelQuery.Proofs.Syntax.Sources
import RelQuery.Proofs.Text.Utf8
import RelQuery.Proofs.Text.Wrapped

/-!
# The nodes in the trace

The reader that logs says just what happens in the run of the one that does not (`readLogged_eq`),
so reading is the same whether it is traced or not. Of the events of an accepted text those about
nodes that were built are the composite nodes of the tree in post-order (`builds_traceNested`).
Between two tokens the reader holds at most a left operand, and what has been built so far are the
nodes of that operand (`Step.builtEvents_eq`): a group that is read brings its own nodes behind
them, and a node that is built comes behind the nodes of its operands.

A node is built with the text up to the token that completes it. Behind a token that is an operand
this text has another token in front, so that it is not wrapped in parentheses itself
(`unwrapped_textOf`); parentheses are put around it when the group is closed.
-/

namespace RelQuery

open Text (unwrapped utf8Length utf8Length_append)

namespace Expr

variable {e : Expr} {source : Text}

/-- A node has the same operands whatever its source. -/
theorem children_withSource : (e.withSource source).children = e.children := by
  cases e <;> rfl

/-- It has the same operator, too. -/
theorem operator?_withSource : (e.withSource source).operator? = e.operator? := by
  cases e <;> rfl

end Expr

namespace Syntax

variable {settings : Settings} {groups inner depth : Nat} {text body rest : Text}
variable {s s' taken : State} {token : Token} {before toks : List Token} {root operand : Operand}
variable {e node : Expr} {op : Operator} {source : Text} {readGroup : GroupReader}
variable {traceGroup : Text → List Event} {events : List Event}

/-! ## Texts of nodes -/

/-- The beginning of an accepted text up to a token is well nested. -/
theorem wellNested_textOf_beginning (h : readNested settings groups text = .ok root)
    (hpre : before <+: tokens text) : (textOf before).WellNested := by
  obtain ⟨s, hreached, -⟩ := readNested_eq_ok_iff.1 h
  obtain ⟨-, hlexed⟩ := lexedBefore_of_prefix h hpre
  exact wellNested_textOf (hlexed.wellNested_text fun body hmem =>
    hreached.wellNested_group (hpre.subset hmem))

/-- The text of an operand is well nested: a group is if what is read in it is. -/
theorem ReadsOperand.wellNested_source (h : ReadsOperand settings groups token operand)
    (hlexed : token.Lexed rest)
    (hgroup : ∀ inner body root, groups = inner + 1 → readNested settings inner body = .ok root →
      root.expr.source.WellNested) : operand.expr.source.WellNested := by
  cases h with
  | name hne hknown => exact (plain_of_isRelationName hlexed.1).wellNested
  | @group inner body root hne hread =>
      rw [Operand.grouped, Expr.source_withSource]
      exact (hgroup inner body root rfl hread).group

/-- The text of a tree that has been read is well nested. -/
theorem wellNested_source_of_readNested (h : readNested settings groups text = .ok root) :
    root.expr.source.WellNested := by
  induction groups using Nat.strongRecOn generalizing text root with
  | ind groups ih =>
      obtain ⟨s, hs, hroot, -⟩ := readNested_invariant
        (P := fun before s => before <+: tokens text →
          ∀ lhs ∈ s.lhs, lhs.expr.source.WellNested) h
        (fun _ => nofun) fun {before s token s' _} hreached _ hlexed hstep hs hpre => by
          have hbefore := hs ((List.prefix_append before [token]).trans hpre)
          have hbuilt := wellNested_textOf_beginning h hpre
          obtain ⟨htext, -⟩ := lexedBefore_of_prefix h hpre
          rw [← hreached.take_advance htext] at hbuilt
          have hoperand (operand : Operand) (hread : ReadsOperand settings groups token operand) :
              operand.expr.source.WellNested :=
            hread.wellNested_source hlexed fun inner body root hinner hbody =>
              ih inner (by omega) hbody
          intro lhs hlhs'
          cases hstep with
          | blank c => exact hbefore lhs hlhs'
          | condition body => exact hbefore lhs hlhs'
          | operator op hmode => exact hbefore lhs hlhs'
          | left hmode hread hop hlhs =>
              cases hlhs'
              exact hoperand _ hread
          | unary hmode hread hop hunary hheight hnode =>
              cases hlhs'
              exact Expr.source_of_assemble hnode ▸ hbuilt
          | binary hmode hread hop hbinary hlhs hheight hnode =>
              cases hlhs'
              exact Expr.source_of_assemble hnode ▸ hbuilt
      exact hs List.prefix_rfl root hroot

/-- A text of more than one token is not wrapped in parentheses: if the first token is a group, its
parentheses close in front of the others. -/
theorem unwrapped_textOf (hlexed : LexedBefore [] (token :: toks))
    (hgroup : ∀ body, .group body ∈ token :: toks → body.WellNested) (hne : textOf toks ≠ []) :
    unwrapped (textOf (token :: toks)) = textOf (token :: toks) := by
  refine Text.unwrapped_of_peel?_eq_none (Option.eq_none_iff_forall_ne_some.2 fun body h => hne ?_)
  obtain ⟨htext, hbody⟩ := Text.peel?_eq_some_iff.1 h
  rw [textOf_cons, List.cons_append] at htext
  have hfirst := hlexed.1
  rw [List.append_nil] at hfirst
  obtain ⟨inner, rfl, hinner⟩ := hfirst.eq_group htext.symm
  -- The group ends where the parentheses around the whole do, so nothing is left for the others.
  obtain rfl := hbody.eq_of_append_eq (hgroup inner List.mem_cons_self) hinner
  exact (List.cons_eq_cons.1 (List.append_cancel_left hinner)).2.symm

/-! ## Places -/

/-- A step comes as many bytes further as its token has. -/
theorem Step.offset_eq (h : Step settings groups text s token s') :
    s'.offset = (s.advance token).offset := by
  cases h <;> rfl

/-- The reader has come as far as what it has read is long, in bytes. -/
theorem Reached.offset_eq (h : Reached settings groups text before s) :
    s.offset = utf8Length (textOf before) := by
  induction h with
  | initial => rfl
  | snoc _ hstep ih => simp [hstep.offset_eq, State.advance, ih, utf8Length_append]

/-- Where an operand is expected something has been read. -/
theorem Reached.ne_nil (h : Reached settings groups text before s) (hmode : s.mode = .operand) :
    before ≠ [] := by
  rintro rfl
  generalize hbefore : ([] : List Token) = toks at h
  cases h with
  | initial => cases hmode
  | snoc => simp at hbefore

/-- What has been read up to an operand that completes a node: it is not wrapped in parentheses,
because the operator stands in front of the operand. -/
theorem Reached.unwrapped_take (h : readNested settings groups text = .ok root)
    (hreached : Reached settings groups text before s)
    (hstep : Step settings groups text s token s') (hpre : before ++ [token] <+: tokens text)
    (hmode : s.mode = .operand) :
    unwrapped (text.take (s.advance token).position) = text.take (s.advance token).position ∧
      utf8Length (text.take (s.advance token).position) = (s.advance token).offset := by
  obtain ⟨htext, hlexed⟩ := lexedBefore_of_prefix h hpre
  have hreached' := hreached.snoc hstep
  rw [hreached.take_advance htext, ← hstep.offset_eq, hreached'.offset_eq]
  refine ⟨?_, rfl⟩
  have htoken : token.text ≠ [] := text_ne_nil_of_mem_tokens (hpre.subset (by simp))
  obtain ⟨first, front, rfl⟩ := List.exists_cons_of_ne_nil (hreached.ne_nil hmode)
  exact unwrapped_textOf hlexed (fun _ hmem => hreached'.wellNested_group hmem) (by simp [htoken])

/-! ## Events about nodes -/

/-- Whether the event is that a node was built. -/
def Event.isBuilt : Event → Bool
  | .built _ _ _ => true
  | _ => false

/-- The events about nodes that were built. -/
def builds (events : List Event) : List Event :=
  events.filter Event.isBuilt

/-- What the reader says when it builds the node, if the node is composite: how far it has come, the
operator, and the text of the node without the parentheses that it is wrapped in. -/
def builtEvent? (e : Expr) : Option Event :=
  e.operator?.map fun op => .built (utf8Length (unwrapped e.source)) op (unwrapped e.source)

/-- What the reader says about all nodes of a tree. -/
def builtEvents (e : Expr) : List Event :=
  e.postorder.filterMap builtEvent?

/-- The nodes that were built first come first. -/
theorem builds_append (first second : List Event) :
    builds (first ++ second) = builds first ++ builds second :=
  List.filter_append ..

/-- The nodes of the operands come before the node. -/
theorem builtEvents_eq (e : Expr) :
    builtEvents e = e.children.flatMap builtEvents ++ (builtEvent? e).toList := by
  have hroot : [e].filterMap builtEvent? = (builtEvent? e).toList := by
    cases h : builtEvent? e <;> simp [h]
  rw [builtEvents, Expr.postorder_eq, List.filterMap_append, List.filterMap_flatMap, hroot]
  rfl

/-- A composite node comes behind the nodes of its operands, with its text if this is not wrapped in
parentheses. -/
theorem builtEvents_of_unwrapped (hop : e.operator? = some op)
    (h : unwrapped e.source = e.source) :
    builtEvents e = e.children.flatMap builtEvents ++
      [.built (utf8Length e.source) op e.source] := by
  rw [builtEvents_eq, builtEvent?, hop, h]
  rfl

/-- Parentheses around the text of a tree do not change what is said about its nodes. -/
theorem builtEvents_withSource (h : unwrapped source = unwrapped e.source) :
    builtEvents (e.withSource source) = builtEvents e := by
  rw [builtEvents_eq, builtEvents_eq e, Expr.children_withSource, builtEvent?, builtEvent?,
    Expr.operator?_withSource, Expr.source_withSource, h]

/-- A group adds no node. -/
theorem builtEvents_grouped (h : operand.expr.source.WellNested) :
    builtEvents operand.grouped.expr = builtEvents operand.expr :=
  builtEvents_withSource (Text.unwrapped_group h)

/-- What has been said about the nodes of what the reader holds. -/
def State.builtEvents (s : State) : List Event :=
  s.lhs.toList.flatMap fun lhs => Syntax.builtEvents lhs.expr

/-- If an operand is held, its nodes have been built. -/
theorem State.builtEvents_of_lhs (h : s.lhs = some operand) :
    s.builtEvents = Syntax.builtEvents operand.expr := by
  simp [State.builtEvents, h]

/-- If none is held, none has. -/
theorem State.builtEvents_of_lhs_none (h : s.lhs = none) : s.builtEvents = [] := by
  simp [State.builtEvents, h]

/-- An operand that completes a node has the node built. -/
theorem eventsOfBuild_withOperand (hop : s.op = some op)
    (hmode : (s.withOperand operand).mode = .build) :
    eventsOfBuild (s.withOperand operand) (s'.built root) =
      [.built s.offset op root.expr.source] := by
  have hkept : (s.withOperand operand).op = some op ∧
      (s.withOperand operand).offset = s.offset := by
    unfold State.withOperand
    split
    · exact ⟨hop, rfl⟩
    · split <;> exact ⟨hop, rfl⟩
  simp only [eventsOfBuild, hkept, State.lhs_built, if_pos hmode]

/-! ## Steps and runs -/

/-- The events of a group when `groups` groups may still be opened one inside another. -/
def groupTracer (settings : Settings) : (groups : Nat) → Text → List Event
  | 0 => fun _ => []
  | groups + 1 => traceNested settings groups

/-- A text is traced with the tracer for the groups that may still be opened. -/
theorem traceNested_eq (settings : Settings) (groups : Nat) (text : Text) :
    traceNested settings groups text =
      .started (settings.maxDepth - groups) text ::
        traceTokens settings (groupReader settings groups) (groupTracer settings groups)
          (settings.maxDepth - groups) text {} (tokens text) := by
  cases groups <;> rfl

/-- A step is taking a token and building the node that it may complete. -/
theorem step_eq_ok_iff_accept :
    step settings readGroup text s token = .ok s' ↔
      ∃ taken, accept settings readGroup s token = .ok taken ∧
        settle settings text taken = .ok s' := by
  rw [step]
  cases accept settings readGroup s token <;> simp [Except.bind]

/-- The events about nodes are those of the first token and those of the others. -/
theorem builds_traceTokens_cons (haccept : accept settings readGroup s token = .ok taken)
    (hsettle : settle settings text taken = .ok s') :
    builds (traceTokens settings readGroup traceGroup depth text s (token :: toks)) =
      builds (eventsInGroup readGroup traceGroup s token) ++ eventsOfBuild taken s' ++
        builds (traceTokens settings readGroup traceGroup depth text s' toks) := by
  have htoken : builds (eventsOfToken s token) = [] := by
    cases token <;> rfl
  have hmode (before after : State) : builds (eventsOfMode before after) = [] := by
    unfold eventsOfMode
    split <;> rfl
  have hbuild : builds (eventsOfBuild taken s') = eventsOfBuild taken s' := by
    unfold eventsOfBuild
    split
    · split <;> rfl
    · rfl
  simp only [traceTokens, haccept, hsettle, builds_append, htoken, hmode, hbuild, List.nil_append,
    List.append_assoc]

/-- Nothing is built while the reader holds what it has held before. -/
theorem builtEvents_of_quiet (hmode : taken.mode ≠ .build) (hlhs : s'.lhs = s.lhs)
    (hevents : eventsInGroup readGroup traceGroup s token = []) :
    s.builtEvents ++ (builds (eventsInGroup readGroup traceGroup s token) ++
      eventsOfBuild taken s') = s'.builtEvents := by
  rw [Logged.eventsOfBuild_of_ne_build hmode, hevents, State.builtEvents, State.builtEvents, hlhs]
  exact List.append_nil _

section

variable (hgroup : ∀ inner body root, groups = inner + 1 →
  readNested settings inner body = .ok root →
    builds (traceNested settings inner body) = builtEvents root.expr)
include hgroup

/-- What was built while an operand was read was built in a group. -/
theorem ReadsOperand.builds_eventsInGroup (h : ReadsOperand settings groups token operand)
    (hmode : s.mode = .start ∨ s.mode = .operand) :
    builds (eventsInGroup (groupReader settings groups) (groupTracer settings groups) s token) =
      builtEvents operand.expr := by
  cases h with
  | name hne hknown => rfl
  | @group inner body root hne hread =>
      rw [eventsInGroup, if_pos ⟨hmode, hne, rfl⟩, groupTracer, hgroup inner body root rfl hread,
        builtEvents_grouped (wellNested_source_of_readNested hread)]

/-- The nodes that were built before a step, in the group of its token and by the step are those of
what the reader holds behind it. -/
theorem Step.builtEvents_eq (hstep : Step settings groups text s token s') (hs : s.BetweenTokens)
    (haccept : accept settings (groupReader settings groups) s token = .ok taken)
    (hsource : s.mode = .operand →
      unwrapped (text.take (s.advance token).position) = text.take (s.advance token).position ∧
        utf8Length (text.take (s.advance token).position) = (s.advance token).offset) :
    s.builtEvents ++
      (builds (eventsInGroup (groupReader settings groups) (groupTracer settings groups) s token) ++
        eventsOfBuild taken s') = s'.builtEvents := by
  have hnode {op : Operator} {node : Expr} (hmode : s.mode = .operand)
      (hop : node.operator? = some op)
      (hposition : node.source = text.take (s.advance token).position) :
      builtEvents node = node.children.flatMap builtEvents ++
        [.built (s.advance token).offset op node.source] := by
    obtain ⟨hunwrapped, hoffset⟩ := hsource hmode
    rw [← hposition] at hunwrapped hoffset
    rw [builtEvents_of_unwrapped hop hunwrapped, hoffset]
  cases hstep with
  | blank c =>
      cases haccept
      exact builtEvents_of_quiet hs.not_build rfl rfl
  | condition body =>
      cases haccept
      exact builtEvents_of_quiet hs.not_build rfl rfl
  | operator op hmode =>
      -- Of the tokens that the reader may accept this one is an operator.
      obtain ⟨_, ⟨⟩, -⟩ | ⟨_, ⟨⟩, -⟩ | ⟨_, -, -, rfl⟩ | ⟨_, ⟨⟩, -⟩ := accept_cases haccept
      exact builtEvents_of_quiet nofun rfl rfl
  | @left _ operand hmode hread hop hlhs =>
      rw [accept_operand hmode hread, withOperand_left (s := s.advance token) hop hlhs] at haccept
      cases haccept
      have hheld : ((s.advance token).holding operand).mode ≠ .build := nofun
      rw [Logged.eventsOfBuild_of_ne_build hheld, hread.builds_eventsInGroup hgroup hmode,
        State.builtEvents_of_lhs_none hlhs, State.builtEvents_of_lhs State.lhs_holding]
      simp
  | @unary _ operand op node hmode hread hop hunary hheight hassemble =>
      rw [accept_operand (.inr hmode) hread] at haccept
      cases haccept
      have hbuild : ((s.advance token).withOperand operand).mode = .build := by
        rw [withOperand_unary (s := s.advance token) hop hunary]
      have hposition := Expr.source_of_assemble hassemble
      obtain ⟨condition, -, rfl⟩ := Expr.assemble_unary hunary hassemble
      -- A unary operator comes first, so that nothing is held in front of its operand.
      obtain ⟨_, hop', hlhs⟩ := hs.operand hmode
      cases hop.symm.trans hop'
      rw [eventsOfBuild_withOperand (s := s.advance token) hop hbuild,
        hread.builds_eventsInGroup hgroup (.inr hmode), State.builtEvents_of_lhs_none (hlhs hunary),
        State.builtEvents_of_lhs State.lhs_built, hnode hmode rfl hposition]
      simp [Expr.children]
  | @binary _ lhs operand op node hmode hread hop hbinary hlhs hheight hassemble =>
      rw [accept_operand (.inr hmode) hread] at haccept
      cases haccept
      have hbuild : ((s.advance token).withOperand operand).mode = .build := by
        rw [withOperand_right (s := s.advance token) hop hbinary hlhs]
      have hposition := Expr.source_of_assemble hassemble
      have hbinaryNode := Expr.assemble_binary hbinary hassemble
      rw [eventsOfBuild_withOperand (s := s.advance token) hop hbuild,
        hread.builds_eventsInGroup hgroup (.inr hmode), State.builtEvents_of_lhs hlhs,
        State.builtEvents_of_lhs State.lhs_built, hnode hmode hbinaryNode.operator?_eq hposition,
        hbinaryNode.children_eq]
      simp

/-- What was built before a token and what is built from it on are the nodes of the result. -/
theorem builds_traceTokens (h : readNested settings groups text = .ok root)
    (hreached : Reached settings groups text before s) (htoks : before ++ toks = tokens text) :
    s.builtEvents ++ builds (traceTokens settings (groupReader settings groups)
      (groupTracer settings groups) depth text s toks) = builtEvents root.expr := by
  have hread := h
  rw [readNested_eq_readWith, readWith, ← htoks,
    readTokens_append (reached_iff.1 hreached)] at hread
  -- The induction is on the tokens that are left, with any tokens read before.
  induction toks generalizing before s with
  | nil =>
      have hfinish : finish s = .ok root := hread
      rw [traceTokens, hfinish, State.builtEvents_of_lhs (finish_eq_ok_iff.1 hfinish).1]
      exact List.append_nil _
  | cons token toks ih =>
      cases hrest : readTokens settings (groupReader settings groups) text s (token :: toks) with
      | error e =>
          rw [hrest] at hread
          cases hread
      | ok last =>
          obtain ⟨s', hstep, hlast⟩ := readTokens_cons_eq_ok_iff.1 hrest
          obtain ⟨taken, haccept, hsettle⟩ := step_eq_ok_iff_accept.1 hstep
          have hnext := (step_eq_ok_iff hreached.betweenTokens).1 hstep
          have hpre : before ++ [token] <+: tokens text := ⟨toks, by simpa using htoks⟩
          have hevents := hnext.builtEvents_eq hgroup hreached.betweenTokens haccept
            (hreached.unwrapped_take h hnext hpre)
          rw [builds_traceTokens_cons haccept hsettle, ← List.append_assoc, hevents]
          rw [hrest, ← hlast] at hread
          exact ih (hreached.snoc hnext) (by simpa using htoks) hread

end

/-- The events about nodes of an accepted text are those of its tree. -/
theorem builds_traceNested (h : readNested settings groups text = .ok root) :
    builds (traceNested settings groups text) = builtEvents root.expr := by
  induction groups using Nat.strongRecOn generalizing text root with
  | ind groups ih =>
      rw [traceNested_eq]
      exact builds_traceTokens (fun inner body root hinner hbody => ih inner (by omega) hbody) h
        .initial rfl

/-! ## The log -/

/-- Whether the line says that a node was built: no other line about a place is of this level. -/
def isBuiltLine (line : LogLine) : Bool :=
  line.level = .debug && "index ".toList.isPrefixOf line.text

/-- The lines about nodes that were built are told from the others. -/
theorem isBuiltLine_line (event : Event) : isBuiltLine event.line = event.isBuilt := by
  cases event <;> rfl

/-- Of the lines about some events those about nodes are the lines about the events about nodes. -/
theorem filter_isBuiltLine (events : List Event) :
    (events.map Event.line).filter isBuiltLine = (builds events).map Event.line := by
  have hsame : isBuiltLine ∘ Event.line = Event.isBuilt := funext isBuiltLine_line
  rw [List.filter_map, hsame, builds]

section

variable {traced : Bool}

/-- No token is read differently. -/
theorem readTokens_withTrace :
    readTokens { settings with trace := traced } readGroup text s toks =
      readTokens settings readGroup text s toks := by
  have hstep (s : State) (token : Token) :
      step { settings with trace := traced } readGroup text s token =
        step settings readGroup text s token := rfl
  induction toks generalizing s with
  | nil => rfl
  | cons token toks ih => simp only [readTokens, hstep, ih]

/-- What is read does not depend on whether it is traced. -/
theorem readNested_withTrace (groups : Nat) :
    readNested { settings with trace := traced } groups = readNested settings groups := by
  induction groups with
  | zero =>
      funext text
      simp only [readNested, readWith, readTokens_withTrace]
  | succ groups ih =>
      funext text
      simp only [readNested, readWith, readTokens_withTrace, ih]

/-- What is read in the end is the same with and without a trace. -/
theorem read_withTrace (traced : Bool) :
    read { settings with trace := traced } text = read settings text := by
  rw [read, read, readNested_withTrace]

end

/-- Tracing changes nothing about the result, and nothing is logged without it. When a traced text
is accepted, the lines about nodes that were built are those about the composite nodes of the tree
in post-order, one for each, with the operator and the text of the node without the parentheses that
it is wrapped in. -/
theorem readLogged_traced (settings : Settings) (text : Text) :
    let traced := readLogged { settings with trace := true } text
    let untraced := readLogged { settings with trace := false } text
    traced.1 = untraced.1 ∧ untraced.2 = [] ∧
    ∀ n, traced.1 = .ok n → traced.2.filter isBuiltLine =
      n.postorder.filterMap fun node => (builtEvent? node).map Event.line := by
  intro traced untraced
  have htraced : traced = (read settings text,
      (trace { settings with trace := true } text).map Event.line) := by
    rw [← read_withTrace true]
    exact readLogged_eq { settings with trace := true } text
  have huntraced : untraced = (read settings text, []) := by
    rw [← read_withTrace false]
    exact readLogged_eq { settings with trace := false } text
  refine ⟨by rw [htraced, huntraced], by rw [huntraced], fun n h => ?_⟩
  rw [htraced, ← read_withTrace true] at h
  obtain ⟨root, hread, rfl⟩ := read_eq_ok_iff.1 h
  rw [htraced, filter_isBuiltLine, trace, builds_traceNested hread, builtEvents, List.map_filterMap]

/-- Two groups in a group that is the whole text: the root's own text begins and ends with a
parenthesis, but is not wrapped in these. -/
theorem readLogged_traced_groups :
    let text : Text := "((R ∪ S) ∩ (T θ {f(a)} U))".toList
    let n : Expr := .setOp .intersect
      (.setOp .union (.named ['R']) (.named ['S']) "(R ∪ S)".toList)
      (.conditionalJoin .thetaJoin "f(a)".toList (.named ['T']) (.named ['U'])
        "(T θ {f(a)} U)".toList) text
    (readLogged { trace := true } text).1 = .ok n ∧ (readLogged {} text).1 = .ok n ∧
    (readLogged { trace := true } text).2.filter isBuiltLine =
      [⟨.debug, "index 7: built union node \"R ∪ S\"".toList⟩,
       ⟨.debug, "index 13: built theta-join node \"T θ {f(a)} U\"".toList⟩,
       ⟨.debug, "index 29: built intersect node \"(R ∪ S) ∩ (T θ {f(a)} U)\"".toList⟩] := by
  intro text n
  have hread : (readLogged { trace := true } text).1 = .ok n := by decide +kernel
  obtain ⟨hsame, -, hlines⟩ := readLogged_traced {} text
  refine ⟨hread, hsame ▸ hread, (hlines n hread).trans ?_⟩
  decide +kernel

end Syntax

end RelQuery
