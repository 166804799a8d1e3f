import RelQuery.Syntax.Trace

/-!
# What the log says

What happens while a text is read can be told from the run of the reader that does not log
(`trace`): for each token what it was found to be, how the mode changed and which node was built, and
all that happened in a group in the place of its token. Up to an error it tells all that happened
before.

The reader that logs has the result of the one that does not, and its log has just the lines about
these events if the settings ask for them, and none otherwise (`readLogged_eq`). This holds of every
function of its own: it gives what its counterpart without a log gives, and its log is about what
happened (`Logged.about`).
-/

namespace RelQuery.Syntax

/-- What happened inside the group that a token is, if the reader opened it. -/
def eventsInGroup (readGroup : GroupReader) (traceGroup : Text → List Event) (s : State)
    (token : Token) : List Event :=
  match token with
  | .group body =>
      if (s.mode = .start ∨ s.mode = .operand) ∧ body ≠ [] ∧ readGroup.isSome then traceGroup body
      else []
  | _ => []

/-- What the reader found when it took a token. -/
def eventsOfToken (s : State) (token : Token) : List Event :=
  match token with
  | .condition body => [.foundCondition s.offset body]
  | .operator op => [.foundOperator s.offset op]
  | .name name => [.foundRelation s.offset name]
  | _ => []

/-- How the mode changed between two states. -/
def eventsOfMode (before after : State) : List Event :=
  if before.mode = after.mode then [] else [.changedMode after.offset before.mode after.mode]

/-- The node that was built between two states. -/
def eventsOfBuild (before after : State) : List Event :=
  match before.op, after.lhs with
  | some op, some operand =>
      if before.mode = .build then [.built before.offset op operand.expr.source] else []
  | _, _ => []

/-- What happens while the tokens are read from a state on, up to the end or an error. -/
def traceTokens (settings : Settings) (readGroup : GroupReader) (traceGroup : Text → List Event)
    (depth : Nat) (text : Text) : State → List Token → List Event
  | s, [] =>
      match finish s with
      | .error _ => []
      | .ok root => [.returned depth root.expr.source]
  | s, token :: rest =>
      eventsInGroup readGroup traceGroup s token ++
        match accept settings readGroup s token with
        | .error _ => []
        | .ok taken =>
            eventsOfToken s token ++ eventsOfMode s taken ++
              match settle settings text taken with
              | .error _ => []
              | .ok settled =>
                  eventsOfBuild taken settled ++ eventsOfMode taken settled ++
                    traceTokens settings readGroup traceGroup depth text settled rest

/-- What happens while a text is read in which `groups` groups may be opened one inside another. -/
def traceNested (settings : Settings) : (groups : Nat) → Text → List Event
  | 0, text =>
      .started settings.maxDepth text ::
        traceTokens settings none (fun _ => []) settings.maxDepth text {} (tokens text)
  | groups + 1, text =>
      let depth := settings.maxDepth - (groups + 1)
      .started depth text ::
        traceTokens settings (some (readNested settings groups)) (traceNested settings groups) depth
          text {} (tokens text)

/-- What happens while an expression is read. -/
def trace (settings : Settings) (text : Text) : List Event :=
  traceNested settings settings.maxDepth text

/-- The lines about events, if the settings ask for them. -/
def lines (settings : Settings) (events : List Event) : List LogLine :=
  if settings.trace then events.map Event.line else []

/-- The lines about some events come before those about later ones. -/
theorem lines_append (settings : Settings) (events later : List Event) :
    lines settings (events ++ later) = lines settings events ++ lines settings later := by
  unfold lines
  split
  · exact List.map_append
  · rfl

namespace Logged

variable {α β : Type} {settings : Settings} {readGroup : Syntax.GroupReader}
variable {traceGroup : Text → List Event} {s : State} {operand : Operand} {op : Operator}
variable {events later : List Event} {e : ReadError} {a : α} {name body text : Text} {token : Token}

/-- A program with that result that logs the lines about those events. -/
def about (settings : Settings) (result : Except ReadError α) (events : List Event) : Logged α :=
  ⟨result, lines settings events⟩

/-- The events of two programs follow one another. -/
theorem about_ok_bind {next : α → Logged β} {result : Except ReadError β}
    (h : next a = about settings result later) :
    (about settings (.ok a) events >>= next) = about settings result (events ++ later) := by
  have hbind : (about settings (.ok a) events >>= next) =
      ⟨(next a).result, lines settings events ++ (next a).log⟩ := rfl
  rw [hbind, h, about, about, lines_append]

/-- A program without a log is about nothing. -/
theorem silent_eq (result : Except ReadError α) : silent result = about settings result [] := by
  rw [silent, about, lines, List.map_nil, ite_self]

/-- A value by itself is about nothing. -/
theorem pure_eq (a : α) : (pure a : Logged α) = about settings (.ok a) [] :=
  silent_eq (.ok a)

/-- Three programs may be grouped in either way. -/
theorem bind_assoc {γ : Type} (first : Logged α) (second : α → Logged β) (third : β → Logged γ) :
    (first >>= second >>= third) = first >>= fun a => second a >>= third := by
  obtain ⟨result, log⟩ := first
  cases result with
  | error e => rfl
  | ok a =>
      have hleft : ((⟨.ok a, log⟩ : Logged α) >>= second) =
          ⟨(second a).result, log ++ (second a).log⟩ := rfl
      have hright : ((⟨.ok a, log⟩ : Logged α) >>= fun a => second a >>= third) =
          ⟨(second a >>= third).result, log ++ (second a >>= third).log⟩ := rfl
      rw [hleft, hright]
      cases hsecond : second a with
      | mk result more =>
          cases result with
          | error e => rfl
          | ok b =>
              have hend : ((⟨.ok b, log ++ more⟩ : Logged β) >>= third) =
                  ⟨(third b).result, log ++ more ++ (third b).log⟩ := rfl
              rw [hend, List.append_assoc]
              rfl

/-- What is said is about the event. -/
theorem say_eq (event : Event) : say settings event = about settings (.ok ()) [event] := rfl

/-! ## One token -/

/-- A change of the mode is about itself. -/
theorem transition_eq (mode : Mode) : transition settings s mode =
    about settings (.ok { s with mode := mode }) [.changedMode s.offset s.mode mode] := by
  rw [transition, say_eq]
  exact about_ok_bind (pure_eq _)

/-- An operand is taken where one is expected, and this changes the mode. -/
theorem withOperand_eq (h : s.mode = .start ∨ s.mode = .operand) :
    withOperand settings s operand = about settings (.ok (s.withOperand operand))
      (eventsOfMode s (s.withOperand operand)) := by
  have hbuild : s.mode ≠ .build := by obtain h | h := h <;> rw [h] <;> decide
  have hoperator : s.mode ≠ .operator := by obtain h | h := h <;> rw [h] <;> decide
  unfold withOperand State.withOperand
  split
  · rw [transition_eq, eventsOfMode, if_neg hbuild]
  · split
    · rw [transition_eq, eventsOfMode, if_neg hoperator]
    · rw [transition_eq, eventsOfMode, if_neg hbuild]

/-- What happens when the reader takes a token, apart from what happens in a group. -/
def eventsOfTaking (s : State) (token : Token) (taken : Except ReadError State) : List Event :=
  match taken with
  | .error _ => []
  | .ok taken => eventsOfToken s token ++ eventsOfMode s taken

/-- An operator is found where one may stand. -/
theorem acceptOperator_eq (h : s.mode = .start ∨ s.mode = .operator) :
    acceptOperator settings s op = about settings (Syntax.acceptOperator s op)
      (eventsOfTaking s (.operator op) (Syntax.acceptOperator s op)) := by
  have hoperand : s.mode ≠ .operand := by obtain h | h := h <;> rw [h] <;> decide
  unfold acceptOperator Syntax.acceptOperator
  split
  · exact silent_eq _
  · have hmode : eventsOfMode s ((s.advance (.operator op)).withOperator op) =
        [.changedMode (s.advance (.operator op)).offset s.mode .operand] := if_neg hoperand
    rw [say_eq, eventsOfTaking, hmode]
    exact about_ok_bind (transition_eq _)

/-- A name is found where an operand is expected. -/
theorem acceptName_eq (h : s.mode = .start ∨ s.mode = .operand) :
    acceptName settings s name = about settings (Syntax.acceptName settings s name)
      (eventsOfTaking s (.name name) (Syntax.acceptName settings s name)) := by
  unfold acceptName Syntax.acceptName
  split
  · exact silent_eq _
  · split
    · rw [say_eq]
      exact about_ok_bind (withOperand_eq (s := s.advance (.name name)) h)
    · exact silent_eq _

/-- The reader of groups that logs what happens in them. -/
def loggedGroups (settings : Settings) (readGroup : Syntax.GroupReader)
    (traceGroup : Text → List Event) : GroupReader :=
  readGroup.map fun read body => about settings (read body) (traceGroup body)

/-- A group is opened where an operand is expected. What happens in it comes first. -/
theorem acceptGroup_eq (h : s.mode = .start ∨ s.mode = .operand) :
    acceptGroup settings (loggedGroups settings readGroup traceGroup) s body =
      about settings (Syntax.acceptGroup settings readGroup s body)
        (eventsInGroup readGroup traceGroup s (.group body) ++
          eventsOfTaking s (.group body) (Syntax.acceptGroup settings readGroup s body)) := by
  unfold acceptGroup Syntax.acceptGroup
  by_cases hempty : body.isEmpty
  · have hnothing : eventsInGroup readGroup traceGroup s (.group body) = [] :=
      if_neg fun hopened => hopened.2.1 (List.isEmpty_iff.1 hempty)
    simp only [if_pos hempty, hnothing]
    exact silent_eq _
  · have hbody : body ≠ [] := fun hbody => hempty (List.isEmpty_iff.2 hbody)
    simp only [if_neg hempty]
    cases readGroup with
    | none =>
        have hnothing : eventsInGroup none traceGroup s (.group body) = [] :=
          if_neg fun hopened => nomatch hopened.2.2
        rw [hnothing]
        exact silent_eq _
    | some read =>
        have hinside : eventsInGroup (some read) traceGroup s (.group body) = traceGroup body :=
          if_pos ⟨h, hbody, rfl⟩
        simp only [loggedGroups, Option.map_some, hinside]
        cases read body with
        | error e => exact congrArg (about settings (.error e)) (List.append_nil _).symm
        | ok operand => exact about_ok_bind (withOperand_eq (s := s.advance (.group body)) h)

/-- Whatever token is read, the log is about what happens in the group that it may be and about what
it is. -/
theorem accept_eq : accept settings (loggedGroups settings readGroup traceGroup) s token =
    about settings (Syntax.accept settings readGroup s token)
      (eventsInGroup readGroup traceGroup s token ++
        eventsOfTaking s token (Syntax.accept settings readGroup s token)) := by
  have hfail (cause : Cause) (found : Option Char) : silent (s.fail cause found) =
      about settings (s.fail cause found) (eventsOfTaking s token (s.fail cause found)) :=
    silent_eq _
  cases token with
  | blank c =>
      have hmode : eventsOfMode s (s.advance (.blank c)) = [] := if_pos rfl
      simp only [accept, Syntax.accept, eventsInGroup, eventsOfTaking, eventsOfToken, hmode]
      exact pure_eq _
  | condition body =>
      have hmode : eventsOfMode s ((s.advance (.condition body)).withCondition body) = [] :=
        if_pos rfl
      simp only [accept, Syntax.accept, eventsInGroup, eventsOfTaking, eventsOfToken, hmode, say_eq]
      exact about_ok_bind (pure_eq _)
  | openCondition rest => exact hfail _ _
  | operator op =>
      cases hmode : s.mode with
      | start =>
          simp only [accept, Syntax.accept, hmode]
          exact acceptOperator_eq (.inl hmode)
      | operator =>
          simp only [accept, Syntax.accept, hmode]
          exact acceptOperator_eq (.inr hmode)
      | operand | build =>
          simp only [accept, Syntax.accept, hmode]
          exact hfail _ _
  | group body =>
      cases hmode : s.mode with
      | start =>
          simp only [accept, Syntax.accept, hmode]
          exact acceptGroup_eq (.inl hmode)
      | operand =>
          simp only [accept, Syntax.accept, hmode]
          exact acceptGroup_eq (.inr hmode)
      | operator | build =>
          have hnothing : eventsInGroup readGroup traceGroup s (.group body) = [] :=
            if_neg fun hopened => by simp [hmode] at hopened
          simp only [accept, Syntax.accept, hmode, hnothing]
          exact hfail _ _
  | openGroup rest =>
      cases hmode : s.mode with
      | start | operand | operator | build =>
          simp only [accept, Syntax.accept, hmode]
          exact hfail _ _
  | name name =>
      cases hmode : s.mode with
      | start =>
          simp only [accept, Syntax.accept, hmode]
          exact acceptName_eq (.inl hmode)
      | operand =>
          simp only [accept, Syntax.accept, hmode]
          exact acceptName_eq (.inr hmode)
      | operator | build =>
          simp only [accept, Syntax.accept, hmode]
          exact hfail _ _
  | other c => exact hfail _ _

/-! ## One node -/

/-- Nothing is built in another mode. -/
theorem eventsOfBuild_of_ne_build {s' : State} (h : s.mode ≠ .build) : eventsOfBuild s s' = [] := by
  unfold eventsOfBuild
  split
  · rw [if_neg h]
  · rfl

/-- What happens when the reader builds the node that is complete, if one is. -/
def eventsOfSettling (s : State) (settled : Except ReadError State) : List Event :=
  match settled with
  | .error _ => []
  | .ok settled => eventsOfBuild s settled ++ eventsOfMode s settled

/-- A node is built with its own text, and then an operator may follow. -/
theorem build_eq (h : s.mode = .build) : build settings text s =
    about settings (Syntax.build settings text s)
      (eventsOfSettling s (Syntax.build settings text s)) := by
  have hbuilt {op : Operator} {after : State} {root : Operand} (hop : s.op = some op)
      (hroot : after.lhs = some root) :
      eventsOfBuild s after = [.built s.offset op root.expr.source] := by
    simp only [eventsOfBuild, hop, hroot, if_pos h]
  have hmode {after : State} (hafter : after.mode = .operator) :
      eventsOfMode s after = [.changedMode after.offset s.mode .operator] := by
    rw [eventsOfMode, hafter, h]
    rfl
  unfold build Syntax.build
  cases hop : s.op with
  | none => exact silent_eq _
  | some op =>
      dsimp only
      split
      · exact silent_eq _
      · cases Expr.assemble op s.left s.right s.condition (text.take s.position) with
        | error defect => exact silent_eq _
        | ok node =>
            dsimp only
            rw [say_eq, eventsOfSettling, hbuilt hop rfl, hmode rfl]
            exact about_ok_bind (transition_eq _)

/-- Whether a node is built or not, the log is about what happens. -/
theorem settle_eq : settle settings text s = about settings (Syntax.settle settings text s)
    (eventsOfSettling s (Syntax.settle settings text s)) := by
  unfold settle Syntax.settle
  by_cases h : s.mode = .build
  · rw [if_pos h, if_pos h]
    exact build_eq h
  · have hevents : eventsOfSettling s (.ok s) = [] := by
      rw [eventsOfSettling, eventsOfBuild_of_ne_build h]
      exact if_pos rfl
    rw [if_neg h, if_neg h, hevents]
    exact pure_eq s

/-- What happens when all has been read. -/
def eventsOfFinishing (depth : Nat) (result : Except ReadError Operand) : List Event :=
  match result with
  | .error _ => []
  | .ok root => [.returned depth root.expr.source]

/-- The operand that is left is returned. -/
theorem finish_eq (depth : Nat) : finish settings depth s = about settings (Syntax.finish s)
    (eventsOfFinishing depth (Syntax.finish s)) := by
  unfold finish Syntax.finish
  cases s.lhs with
  | none => exact silent_eq _
  | some root =>
      dsimp only
      split
      · exact silent_eq _
      · rw [say_eq]
        exact about_ok_bind (pure_eq root)

/-! ## Whole texts -/

/-- What happens from a state on: the events of the first token come before those of the others. -/
theorem readTokens_eq (depth : Nat) (toks : List Token) :
    (readTokens settings (loggedGroups settings readGroup traceGroup) text s toks >>=
        finish settings depth) =
      about settings ((Syntax.readTokens settings readGroup text s toks).bind Syntax.finish)
        (traceTokens settings readGroup traceGroup depth text s toks) := by
  induction toks generalizing s with
  | nil => exact finish_eq depth
  | cons token toks ih =>
      rw [readTokens, bind_assoc, accept_eq, Syntax.readTokens, step, traceTokens]
      cases Syntax.accept settings readGroup s token with
      | error e => rfl
      | ok taken =>
          have hrest : (settle settings text taken >>= fun settled =>
              readTokens settings (loggedGroups settings readGroup traceGroup) text settled toks >>=
                finish settings depth) =
              about settings (((Syntax.settle settings text taken).bind fun settled =>
                Syntax.readTokens settings readGroup text settled toks).bind Syntax.finish)
                (match Syntax.settle settings text taken with
                | .error _ => []
                | .ok settled =>
                    eventsOfBuild taken settled ++ eventsOfMode taken settled ++
                      traceTokens settings readGroup traceGroup depth text settled toks) := by
            rw [settle_eq]
            cases Syntax.settle settings text taken with
            | error e => rfl
            | ok settled => exact about_ok_bind ih
          rw [← List.append_assoc]
          refine (about_ok_bind ?_).trans rfl
          rw [bind_assoc]
          exact hrest

/-- Reading a text begins with the text itself. -/
theorem readWith_eq (depth : Nat) (text : Text) :
    readWith settings (loggedGroups settings readGroup traceGroup) depth text =
      about settings (Syntax.readWith settings readGroup text)
        (.started depth text ::
          traceTokens settings readGroup traceGroup depth text {} (tokens text)) := by
  rw [readWith, say_eq]
  refine about_ok_bind ?_
  exact readTokens_eq depth (tokens text)

/-- The log of reading a text, with the groups in it, is about what happens. -/
theorem readNested_eq (groups : Nat) (text : Text) : readNested settings groups text =
    about settings (Syntax.readNested settings groups text)
      (traceNested settings groups text) := by
  induction groups generalizing text with
  | zero =>
      have hgroups : (none : GroupReader) = loggedGroups settings none fun _ => [] := rfl
      rw [readNested, hgroups]
      exact readWith_eq settings.maxDepth text
  | succ groups ih =>
      have hgroups : some (readNested settings groups) = loggedGroups settings
          (some (Syntax.readNested settings groups)) (traceNested settings groups) :=
        congrArg some (funext ih)
      rw [readNested, hgroups]
      exact readWith_eq (settings.maxDepth - (groups + 1)) text

end Logged

/-- The reader that logs gives what the one that does not log gives, and its log has the lines about
what happens if the settings ask for them, and none otherwise. -/
theorem readLogged_eq (settings : Settings) (text : Text) :
    readLogged settings text = (read settings text, lines settings (trace settings text)) := by
  rw [readLogged, Logged.readNested_eq]
  rfl

end RelQuery.Syntax
