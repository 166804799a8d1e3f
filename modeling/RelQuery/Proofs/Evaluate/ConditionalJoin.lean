import RelQuery.Proofs.Evaluate.Resolve
import RelQuery.Proofs.Operator.Spelling
import RelQuery.Proofs.Syntax.Limits
import RelQuery.Proofs.Syntax.RoundTrip
import RelQuery.Proofs.Table.Catalog

/-!
# Joins under a condition

A join under a condition means the selection from the join (`resolve_conditionalJoin`), and a query
for the one gives what a query for the other gives (`run_conditionalJoin`). Both queries are what
the printer makes of their trees, with words for operators in the condition. Replacing these leaves
everything outside the condition as it is and rewrites the condition alike in both queries, so that
both are read. What may be wrong with the condition comes up when the trees are evaluated.
-/

namespace RelQuery

open RelQuery.Expr (named braced parenthesized operandText)
open Operator (Separates symbolize symbolize_append_cons symbolize_cons separates_symbol
  separates_of_mem)
open Syntax (Settings readQuery)

variable {catalog : Catalog} {op : Operator} {e m n lhs rhs : Expr}
variable {condition source inner query text name left right : Text}

/-! ## Evaluating the trees -/

/-- The texts that nodes were read from do not matter. -/
theorem resolve_erase (e : Expr) : resolve catalog e.erase = resolve catalog e := by
  induction e with
  | relation name source => rfl
  | setOp op lhs rhs source ihl ihr => simp only [Expr.erase, resolve, ihl, ihr]
  | unary op condition operand source ih => simp only [Expr.erase, resolve, ih]
  | join op lhs rhs source ihl ihr => simp only [Expr.erase, resolve, ihl, ihr]
  | conditionalJoin op condition lhs rhs source ihl ihr =>
      simp only [Expr.erase, resolve, ihl, ihr]

/-- Trees that differ in sources only evaluate to the same. -/
theorem evaluate_eq_of_erase_eq (h : m.erase = n.erase) :
    evaluate catalog m = evaluate catalog n := by
  rw [evaluate, ← resolve_erase m, h, resolve_erase, evaluate]

/-- The condition of a join is met after it, like that of a selection. -/
theorem resolve_conditionalJoin (inner : Text) :
    resolve catalog (.conditionalJoin op condition lhs rhs source) =
      resolve catalog (.unary .select condition (.join op lhs rhs inner) source) := by
  simp only [resolve, planUnary, bind_assoc]

/-- A conditional join evaluates to the selection from the join. -/
theorem evaluate_conditionalJoin (inner : Text) :
    evaluate catalog (.conditionalJoin op condition lhs rhs source) =
      evaluate catalog (.unary .select condition (.join op lhs rhs inner) source) := by
  rw [evaluate, resolve_conditionalJoin inner, evaluate]

/-! ## Reading the queries -/

/-- A relation of the catalog that a query can mention by its name. -/
structure Mentionable (catalog : Catalog) (name : Text) : Prop where
  isRelationName : isRelationName name
  mem_names : name ∈ catalog.names
  symbolize_eq : symbolize name = name

/-- A query that is the one-line form of a tree once words have been replaced is run as the tree. -/
theorem run_of_symbolize_eq_toText (h : symbolize query = n.toText)
    (hfits : Syntax.Fits catalog.settings catalog.settings.maxDepth n)
    (hgroups : ∀ group ∈ n.printedGroups, group.toText.Balanced) :
    run catalog query = (evaluate catalog n).mapError .eval := by
  obtain ⟨m, hread, herase, -⟩ := Syntax.read_toText_of_fits hfits hgroups
  have hquery : readQuery { known := some catalog.names } query = .ok m := by
    rw [readQuery, h]
    exact hread
  rw [run, hquery, ← evaluate_eq_of_erase_eq herase]
  rfl

/-- A space is in no word. -/
theorem separates_space : Separates ' ' :=
  separates_of_mem (by decide)

/-- Words are replaced within braces and behind them, each by themselves. -/
theorem symbolize_braced_append :
    symbolize (braced condition ++ text) = braced (symbolize condition) ++ symbolize text := by
  have hopen : Separates '{' := separates_of_mem (by decide)
  have hclose : Separates '}' := separates_of_mem (by decide)
  have htext : braced condition ++ text = '{' :: (condition ++ '}' :: text) := by simp [braced]
  rw [htext, symbolize_cons hopen, symbolize_append_cons hclose]
  simp [braced]

/-- So they are between parentheses. -/
theorem symbolize_parenthesized :
    symbolize (parenthesized text) = parenthesized (symbolize text) := by
  have hopen : Separates '(' := separates_of_mem (by decide)
  have hclose : Separates ')' := separates_of_mem (by decide)
  have hnil : symbolize [] = [] := by decide
  rw [parenthesized, List.cons_append, symbolize_cons hopen, symbolize_append_cons hclose, hnil]
  rfl

/-- And on both sides of an operator. -/
theorem symbolize_append_infix :
    symbolize (left ++ [' ', op.symbol, ' '] ++ right) =
      symbolize left ++ [' ', op.symbol, ' '] ++ symbolize right := by
  have htext : left ++ [' ', op.symbol, ' '] ++ right =
      left ++ ' ' :: op.symbol :: ' ' :: right := by simp
  rw [htext, symbolize_append_cons separates_space, symbolize_cons (separates_symbol op),
    symbolize_cons separates_space]
  simp

/-- With its words replaced a conditional join is the text of one. -/
theorem symbolize_conditionalJoin (op : Operator) (condition : Text) (hl : symbolize left = left)
    (hr : symbolize right = right) :
    symbolize (left ++ [' ', op.symbol, ' '] ++ braced condition ++ [' '] ++ right) =
      (Expr.conditionalJoin op (symbolize condition) (named left) (named right) []).toText := by
  have htext : left ++ [' ', op.symbol, ' '] ++ braced condition ++ [' '] ++ right =
      left ++ [' ', op.symbol, ' '] ++ (braced condition ++ ' ' :: right) := by simp
  rw [htext, symbolize_append_infix, symbolize_braced_append, symbolize_cons separates_space, hl,
    hr]
  simp [Expr.toText, operandText, Expr.isRelation, named]

/-- And a selection from a join is the text of that. -/
theorem symbolize_select_join (op : Operator) (condition : Text) (hl : symbolize left = left)
    (hr : symbolize right = right) :
    symbolize ([Operator.select.symbol, ' '] ++ braced condition ++ [' '] ++
      parenthesized (left ++ [' ', op.symbol, ' '] ++ right)) =
      (Expr.unary .select (symbolize condition)
        (.join op (named left) (named right) []) []).toText := by
  have htext : [Operator.select.symbol, ' '] ++ braced condition ++ [' '] ++
      parenthesized (left ++ [' ', op.symbol, ' '] ++ right) =
      Operator.select.symbol :: ' ' :: (braced condition ++
        ' ' :: parenthesized (left ++ [' ', op.symbol, ' '] ++ right)) := by simp
  rw [htext, symbolize_cons (separates_symbol _), symbolize_cons separates_space,
    symbolize_braced_append, symbolize_cons separates_space, symbolize_parenthesized,
    symbolize_append_infix, hl, hr]
  simp [Expr.toText, operandText, Expr.isRelation, named]

/-- A condition that can stand between braces can also do so when words have been replaced in it. -/
theorem symbolize_condition (hne : condition ≠ []) (hbrace : '}' ∉ condition) :
    symbolize condition ≠ [] ∧ '}' ∉ symbolize condition := by
  have hsymbol : ∀ op : Operator, '}' ≠ op.symbol := by
    rintro ⟨⟩ <;> decide
  exact ⟨Operator.symbolize_ne_nil hne, mt (Operator.mem_of_mem_symbolize hsymbol) hbrace⟩

section

variable (hop : op.category = .join) (hl : Mentionable catalog left)
  (hr : Mentionable catalog right)

/-- A relation that can be mentioned is one that is known. -/
theorem Mentionable.allows (h : Mentionable catalog name) : catalog.settings.allows name := by
  simpa [Settings.allows, Catalog.settings] using h.mem_names

include hop hl hr in
/-- A conditional join of two relations needs no group. -/
theorem fits_conditionalJoin (hne : condition ≠ []) (hbrace : '}' ∉ condition) :
    Syntax.Fits catalog.settings catalog.settings.maxDepth
      (.conditionalJoin op condition (named left) (named right) []) where
  printable := (Expr.BinaryNode.conditionalJoin condition []).printable_of
    ⟨hop, trivial, trivial⟩ (by simpa using ⟨hne, hbrace⟩) (.relation hl.isRelationName)
    (.relation hr.isRelationName)
  allowed := List.forall_mem_cons.2 ⟨hl.allows, List.forall_mem_singleton.2 hr.allows⟩
  height_le := .inr (show 2 ≤ 1024 by decide)
  groupDepth_le := Nat.zero_le _

include hop hl hr in
/-- A selection from a join needs one. -/
theorem fits_select_join (hne : condition ≠ []) (hbrace : '}' ∉ condition) :
    Syntax.Fits catalog.settings catalog.settings.maxDepth
      (.unary .select condition (.join op (named left) (named right) []) []) where
  printable := Expr.printable_unary.2 ⟨rfl, ⟨hne, hbrace⟩,
    (Expr.BinaryNode.join []).printable_of ⟨hop, trivial, trivial⟩ nofun
      (.relation hl.isRelationName) (.relation hr.isRelationName)⟩
  allowed := List.forall_mem_cons.2 ⟨hl.allows, List.forall_mem_singleton.2 hr.allows⟩
  height_le := .inr (show 3 ≤ 1024 by decide)
  groupDepth_le := show 1 ≤ 64 by decide

/-- There are no conditions, and so no parentheses, in the group of the selection. -/
theorem balanced_join (hl : isRelationName left) (hr : isRelationName right) :
    (Expr.join op (named left) (named right) []).toText.Balanced := by
  have hplain := ((plain_of_isRelationName hl).append (Expr.plain_infixOperator op)).append
    (plain_of_isRelationName hr)
  exact hplain.balanced

end

/-- A query for a join under a condition gives what the query for the selection from the join gives,
a frame or an error, whatever the condition is. Neither can fail to be read: the result is that of
the tree, with the words in the condition replaced by symbols. -/
theorem run_conditionalJoin (op : Operator) (condition : Text) (hop : op.category = .join)
    (hl : Mentionable catalog left) (hr : Mentionable catalog right) (hne : condition ≠ [])
    (hbrace : '}' ∉ condition) :
    run catalog (left ++ [' ', op.symbol, ' '] ++ braced condition ++ [' '] ++ right) =
      run catalog ([Operator.select.symbol, ' '] ++ braced condition ++ [' '] ++
        parenthesized (left ++ [' ', op.symbol, ' '] ++ right)) ∧
    run catalog (left ++ [' ', op.symbol, ' '] ++ braced condition ++ [' '] ++ right) =
      (evaluate catalog (.conditionalJoin op (symbolize condition) (named left) (named right)
        [])).mapError .eval := by
  obtain ⟨hne', hbrace'⟩ := symbolize_condition hne hbrace
  have hjoin := run_of_symbolize_eq_toText
    (symbolize_conditionalJoin op condition hl.symbolize_eq hr.symbolize_eq)
    (fits_conditionalJoin hop hl hr hne' hbrace') nofun
  have hselect := run_of_symbolize_eq_toText
    (symbolize_select_join op condition hl.symbolize_eq hr.symbolize_eq)
    (fits_select_join hop hl hr hne' hbrace')
    (List.forall_mem_singleton.2 (balanced_join hl.isRelationName hr.isRelationName))
  refine ⟨?_, hjoin⟩
  rw [hjoin, hselect, evaluate_conditionalJoin []]

/-- A condition in which a word is replaced between quotes, and one that is no condition with an
open parenthesis and a column that is called like the symbol of an operator. -/
theorem run_conditionalJoin_words :
    let catalog : Catalog := ⟨[(['R'], ⟨[⟨['A'], .int64⟩], [[.int 1]]⟩),
      (['S'], ⟨[⟨['B'], .text⟩], [[.text ['∪']], [.text "union".toList]]⟩)]⟩
    Mentionable catalog ['R'] ∧ Mentionable catalog ['S'] ∧
    run catalog "R θ \x7bB = \"union\"\x7d S".toList =
      run catalog "σ \x7bB = \"union\"\x7d (R θ S)".toList ∧
    run catalog "R θ \x7bB = \"union\"\x7d S".toList =
      .ok ⟨[⟨['A'], .int64⟩, ⟨['B'], .text⟩], [[.int 1, .text ['∪']]]⟩ ∧
    run catalog "R × \x7b(X = 1\x7d S".toList = run catalog "σ \x7b(X = 1\x7d (R × S)".toList ∧
    run catalog "R × \x7b(X = 1\x7d S".toList =
      .error (.eval (.condition (.invalid "(× = 1".toList 0))) := by
  intro catalog
  have hl : Mentionable catalog ['R'] := ⟨by decide, by decide, by decide⟩
  have hr : Mentionable catalog ['S'] := ⟨by decide, by decide, by decide⟩
  have hquoted := run_conditionalJoin .thetaJoin "B = \"union\"".toList rfl hl hr (by decide)
    (by decide)
  have hopen := run_conditionalJoin .cartesian "(X = 1".toList rfl hl hr (by decide) (by decide)
  exact ⟨hl, hr, hquoted.1, hquoted.2.trans (by decide +kernel), hopen.1,
    hopen.2.trans (by decide +kernel)⟩

end RelQuery
