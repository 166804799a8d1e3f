import RelQuery.Files.Tree

/-!
# Patterns of paths

A pattern is a path in whose parts a question mark stands for any character, an asterisk for any
text, and brackets for one of some characters, or for any other one behind an exclamation mark. A
part of two asterisks stands for any number of directories. A pattern finds what it leads to in a
tree, in the order of a walk through the directories.
-/

namespace RelQuery.Glob

/-- What one character, or a run of them, in a name must be. -/
inductive Token where
  | char (c : Char)
  | any
  /-- Any text. -/
  | run
  /-- One of the characters in some ranges, or any other one. -/
  | oneOf (negated : Bool) (ranges : List (Char × Char))
  deriving DecidableEq, Repr

/-- What one part of a path must be. -/
inductive Part where
  /-- A name that fits. -/
  | name (tokens : List Token)
  /-- Any number of directories. -/
  | deep
  deriving DecidableEq, Repr

/-- Whether a path is a pattern. -/
def isPattern (path : Text) : Bool :=
  path.any fun c => c = '*' || c = '?' || c = '['

/-- The ranges between brackets. A single character is a range too. -/
def rangesOf : Text → List (Char × Char)
  | [] => []
  | a :: '-' :: b :: rest => (a, b) :: rangesOf rest
  | c :: rest => (c, c) :: rangesOf rest

/-- Cuts off what stands before the closing bracket. A closing bracket in front is a character like
others. -/
def cutBrackets : Text → Option (List (Char × Char) × Text)
  | [] => none
  | c :: text => (Text.cut? ']' text).map fun (inside, rest) => (rangesOf (c :: inside), rest)

/-- Brackets are longer than nothing. -/
theorem length_lt_of_cutBrackets {text rest : Text} {ranges : List (Char × Char)}
    (h : cutBrackets text = some (ranges, rest)) : rest.length < text.length := by
  cases text with
  | nil => simp [cutBrackets] at h
  | cons c text =>
    simp only [cutBrackets, Option.map_eq_some_iff, Prod.exists, Prod.mk.injEq] at h
    obtain ⟨inside, after, hc, _, rfl⟩ := h
    rw [(Text.cut?_eq_some_iff.1 hc).1]
    simp only [List.length_cons, List.length_append]
    omega

/-- Reads what a name must be. There is no such reading if a bracket stays open, or if asterisks
stand together. -/
def tokens? : Text → Option (List Token)
  | [] => some []
  | '?' :: text => (tokens? text).map (.any :: ·)
  | '*' :: text =>
      if text.head? = some '*' then none else (tokens? text).map (.run :: ·)
  | '[' :: '!' :: text =>
      match h : cutBrackets text with
      | none => none
      | some (ranges, rest) =>
          have := length_lt_of_cutBrackets h
          (tokens? rest).map (.oneOf true ranges :: ·)
  | '[' :: text =>
      match h : cutBrackets text with
      | none => none
      | some (ranges, rest) =>
          have := length_lt_of_cutBrackets h
          (tokens? rest).map (.oneOf false ranges :: ·)
  | c :: text => (tokens? text).map (.char c :: ·)
termination_by text => text.length

/-- Reads one part of a pattern. -/
def part? (text : Text) : Option Part :=
  if text = ['*', '*'] then some .deep else (tokens? text).map .name

/-- The parts of a path between its slashes; behind a slash at the end there is none. -/
def split (path : Text) : List Text :=
  let parts := Text.splitOn '/' path
  if parts.getLast? = some [] then parts.dropLast else parts

/-- The directory where a search begins and the parts of the pattern from there on: the parts in
front that leave no choice, but for those that the pattern climbs out of again. -/
def base (path : Text) : Text × List Text :=
  let parts := split path
  let plain := parts.takeWhile fun part => !isPattern part
  let climbs := (parts.drop plain.length).count ['.', '.']
  let root := if path.head? = some '/' then 1 else 0
  let kept := max root (plain.length - climbs)
  let start := (parts.take kept).flatMap (· ++ ['/'])
  (if start.isEmpty then ['.', '/'] else start, parts.drop kept)

/-- Whether a name is what it must be. -/
def fits : List Token → Text → Bool
  | [], name => name.isEmpty
  | .run :: tokens, [] => fits tokens []
  | .run :: tokens, c :: name => fits tokens (c :: name) || fits (.run :: tokens) name
  | _ :: _, [] => false
  | .char a :: tokens, c :: name => a = c && fits tokens name
  | .any :: tokens, _ :: name => fits tokens name
  | .oneOf negated ranges :: tokens, c :: name =>
      (ranges.any fun (first, last) => first ≤ c && c ≤ last) != negated && fits tokens name

/-- The name that alone fits, if there is no choice. -/
def literal? : List Token → Option Text
  | [] => some []
  | .char c :: tokens => (literal? tokens).map (c :: ·)
  | _ :: _ => none

/-- The names of no entry that fit. A dot in front has to be a dot of the pattern. -/
def dots (tokens : List Token) : List Text :=
  if tokens.head? = some (.char '.') then
    [['.', '.'], ['.']].filter (fits tokens)
  else []

/-- What a pattern finds below a directory, given the directories above from the inside out. A part
of two asterisks at the end finds no files. -/
def find (above : List FileTree) (here : FileTree) (parts : List Part) : List FileTree :=
  match parts with
  | [] => [here]
  | .deep :: rest =>
      here.sortedEntries.attach.flatMap fun ⟨(name, inner), _⟩ =>
        (match _h : rest.dropWhile (· = .deep) with
          | .name tokens :: after =>
              if fits tokens name then find (here :: above) inner after else []
          | _ => []) ++
        find (here :: above) inner (.deep :: rest)
  | .name tokens :: rest =>
      match literal? tokens with
      | some name =>
          match FileTree.step above here name with
          | none => []
          | some (above, next) => find above next rest
      | none =>
          ((dots tokens).flatMap fun name =>
            match FileTree.step above here name with
            | none => []
            | some (above, next) => find above next rest) ++
          here.sortedEntries.flatMap fun (name, inner) =>
            if fits tokens name then find (here :: above) inner rest else []
termination_by (parts.length, sizeOf here)
decreasing_by
  all_goals simp only [Prod.lex_def, List.length_cons]
  · left
    have := (List.dropWhile_sublist (p := fun part => decide (part = Part.deep)) (l := rest)).length_le
    rw [_h, List.length_cons] at this
    omega
  · right
    exact ⟨trivial, FileTree.sizeOf_lt_of_mem_sortedEntries (by assumption)⟩
  all_goals exact Or.inl (Nat.lt_succ_self _)

/-- Whether a pattern can lead anywhere: not if an empty part follows nothing but dots. -/
def leads (path : Text) : Bool :=
  match split path with
  | ['.'] :: parts => (parts.dropWhile (· = ['.'])).head? ≠ some []
  | _ => true

/-- What a pattern finds, given what paths lead to. No pattern is read from a text of which some part
is wrong. -/
def search? (look : Text → Option FileTree) (path : Text) : Option (List FileTree) :=
  ((split path).mapM part?).map fun _ =>
    let (start, rest) := base path
    match look start, rest.mapM part? with
    | some tree, some parts => if leads path then find [] tree parts else []
    | _, _ => []

end RelQuery.Glob
