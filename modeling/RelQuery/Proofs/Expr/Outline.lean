import RelQuery.Expr.Printer
import RelQuery.Proofs.Expr.Nodes
import RelQuery.Proofs.Syntax.Lexing
import RelQuery.Proofs.Text.Pieces

/-!
# The outline as a text

An outline has one line for every node, in pre-order, indented by two spaces for each of its
ancestors. The blanks in front of a line and the label behind them can be told apart, because no
label begins with a blank, and a label says what kind of node it belongs to and how many operands
the node has. So labels in pre-order are a code in which every tree ends where it ends
(`erase_eq_of_labels_append_eq`), and an outline determines its tree but for the sources
(`outline_faithful`).
-/

namespace RelQuery.Expr

/-- Operators fit their nodes, relations have names that can be read, and every condition is on one
line. -/
structure Outlinable (e : Expr) : Prop where
  wellFormed : e.WellFormed
  names : ∀ name ∈ e.relationNames, isRelationName name
  conditions : ∀ condition ∈ e.conditions, '\n' ∉ condition

/-- How many of the first `i` nodes of some trees in pre-order have the node behind them below
them: those whose own nodes reach beyond it. -/
def coverCount (nodes : List Expr) (i : Nat) : Nat :=
  (List.range i).countP fun j => nodes[j]?.any fun node => i < j + node.nodes.length

/-- The number of ancestors of the `i`-th node in pre-order. -/
def ancestorCount (e : Expr) (i : Nat) : Nat :=
  coverCount e.nodes i

/-- A line of the outline without its end. -/
def outlineRow (entry : Nat × Expr) : Text :=
  List.replicate (2 * entry.1) ' ' ++ entry.2.label

/-- A condition, if there is one, as it stands behind the word of an operator. -/
def labelEnd : (given : Option Text) → Text
  | none => []
  | some condition => ' ' :: braced condition

variable {op op' : Operator} {given given' : Option Text} {name condition source : Text}
variable {e e' a b lhs rhs operand node : Expr} {depth i k : Nat} {left right rest rest' : Text}
variable {nodes nodes' : List Expr}

/-! ## Nodes in pre-order -/

/-- A binary node comes before the nodes of its operands. -/
theorem BinaryNode.nodes_eq (h : BinaryNode op lhs rhs given e) :
    e.nodes = e :: (lhs.nodes ++ rhs.nodes) := by
  cases h <;> rfl

/-- Its line comes before those of its operands, which are one deeper. -/
theorem BinaryNode.outlineFrom_eq (h : BinaryNode op lhs rhs given e) :
    outlineFrom depth e =
      (depth, e) :: (outlineFrom (depth + 1) lhs ++ outlineFrom (depth + 1) rhs) := by
  cases h <;> rfl

/-- The nodes of a node are among those of the tree, from the node on. -/
theorem length_nodes_le (h : e.nodes[i]? = some node) :
    i + node.nodes.length ≤ e.nodes.length := by
  induction e using nodeInduction generalizing i with
  | relation name source =>
      cases i with
      | zero =>
          cases h
          exact Nat.le_refl _
      | succ i => cases h
  | unary op condition operand source ih =>
      cases i with
      | zero =>
          cases h
          omega
      | succ i =>
          have hle := ih h
          simp only [Expr.nodes, List.length_cons]
          omega
  | binary op given lhs rhs e hnode ihl ihr =>
      rw [hnode.nodes_eq] at h
      have hlength : e.nodes.length = lhs.nodes.length + rhs.nodes.length + 1 := by
        simp [hnode.nodes_eq]
      cases i with
      | zero =>
          cases h
          omega
      | succ i =>
          rw [List.getElem?_cons_succ, List.getElem?_append] at h
          split at h
          · have hle := ihl h
            omega
          · have hle := ihr h
            omega

/-! ## Ancestors -/

/-- A node in front covers as many nodes as it has below it. -/
theorem coverCount_cons (e : Expr) (nodes : List Expr) (i : Nat) :
    coverCount (e :: nodes) (i + 1) =
      (if i + 1 < e.nodes.length then 1 else 0) + coverCount nodes i := by
  have hshift : (fun j => (e :: nodes)[j]?.any fun node => i + 1 < j + node.nodes.length) ∘
      Nat.succ = fun j => nodes[j]?.any fun node => i < j + node.nodes.length := by
    funext j
    have hlt (node : Expr) : (i + 1 < j + 1 + node.nodes.length) =
        (i < j + node.nodes.length) := by
      rw [eq_iff_iff]
      omega
    simp [hlt]
  rw [coverCount, List.range_succ_eq_map, List.countP_cons, List.countP_map, hshift, Nat.add_comm,
    ← coverCount]
  simp

/-- Nodes that come later cover none. -/
theorem coverCount_append_left (h : i < nodes.length) :
    coverCount (nodes ++ nodes') i = coverCount nodes i := by
  refine List.countP_congr fun j hj => ?_
  have hlt : j < nodes.length := Nat.lt_trans (List.mem_range.1 hj) h
  rw [List.getElem?_append_left hlt]

/-- Nodes of trees that are complete are no ancestors of what comes behind these. -/
theorem coverCount_append_right
    (h : ∀ j node, nodes[j]? = some node → j + node.nodes.length ≤ nodes.length) :
    coverCount (nodes ++ nodes') (nodes.length + i) = coverCount nodes' i := by
  have hnone : (List.range nodes.length).countP (fun j => (nodes ++ nodes')[j]?.any fun node =>
      nodes.length + i < j + node.nodes.length) = 0 := by
    refine List.countP_eq_zero.2 fun j hj => ?_
    rw [List.getElem?_append_left (List.mem_range.1 hj)]
    cases hnode : nodes[j]? with
    | none => simp
    | some node =>
        have hle := h j node hnode
        simp only [Option.any_some, decide_eq_true_eq]
        omega
  have hshift : (fun j => (nodes ++ nodes')[j]?.any fun node =>
      nodes.length + i < j + node.nodes.length) ∘ (nodes.length + ·) =
        fun j => nodes'[j]?.any fun node => i < j + node.nodes.length := by
    funext j
    have hlt (node : Expr) : (nodes.length + i < nodes.length + j + node.nodes.length) =
        (i < j + node.nodes.length) := by
      rw [eq_iff_iff]
      omega
    simp [hlt, List.getElem?_append_right]
  rw [coverCount, List.range_add, List.countP_append, hnone, List.countP_map, hshift,
    Nat.zero_add]
  rfl

/-- Behind the root every node has the root for an ancestor. -/
theorem ancestorCount_succ (h : e.nodes = e :: nodes) (hi : i < nodes.length) :
    e.ancestorCount (i + 1) = coverCount nodes i + 1 := by
  have hlength : i + 1 < e.nodes.length := by
    rw [h, List.length_cons]
    omega
  rw [ancestorCount, h, coverCount_cons, if_pos hlength, Nat.add_comm]

/-- The root stands in front of what is below it, indented by one more. -/
theorem getElem?_cons_below {below : List (Nat × Expr)} (hnodes : e.nodes = e :: nodes)
    (hbelow : ∀ i, below[i]? = nodes[i]?.map fun node => (depth + 1 + coverCount nodes i, node))
    (i : Nat) :
    ((depth, e) :: below)[i]? = e.nodes[i]?.map fun node => (depth + e.ancestorCount i, node) := by
  cases i with
  | zero =>
      rw [hnodes]
      rfl
  | succ i =>
      rw [hnodes, List.getElem?_cons_succ, List.getElem?_cons_succ, hbelow i]
      cases hi : nodes[i]? with
      | none => rfl
      | some node =>
          obtain ⟨hlt, -⟩ := List.getElem?_eq_some_iff.1 hi
          rw [Option.map_some, Option.map_some, ancestorCount_succ hnodes hlt]
          congr 2
          omega

/-- There is a line for every node, in their order. -/
theorem map_snd_outlineFrom : (outlineFrom depth e).map Prod.snd = e.nodes := by
  induction e using nodeInduction generalizing depth with
  | relation name source => rfl
  | unary op condition operand source ih => simp [outlineFrom, Expr.nodes, ih]
  | binary op given lhs rhs e hnode ihl ihr =>
      simp [hnode.outlineFrom_eq, hnode.nodes_eq, ihl, ihr]

/-- There are as many lines as nodes. -/
theorem length_outlineFrom : (outlineFrom depth e).length = e.nodes.length := by
  rw [← map_snd_outlineFrom, List.length_map]

/-- A line of the outline belongs to the node at the same place in pre-order, and is indented for
the ancestors of this node. -/
theorem getElem?_outlineFrom (depth : Nat) (e : Expr) (i : Nat) :
    (outlineFrom depth e)[i]? = e.nodes[i]?.map fun node => (depth + e.ancestorCount i, node) := by
  induction e using nodeInduction generalizing depth i with
  | relation name source => exact getElem?_cons_below rfl (fun i => rfl) i
  | unary op condition operand source ih =>
      exact getElem?_cons_below rfl (fun i => ih (depth + 1) i) i
  | binary op given lhs rhs e hnode ihl ihr =>
      rw [hnode.outlineFrom_eq]
      refine getElem?_cons_below hnode.nodes_eq (fun i => ?_) i
      rw [List.getElem?_append, List.getElem?_append, length_outlineFrom]
      split
      · rename_i hlt
        rw [coverCount_append_left hlt]
        exact ihl (depth + 1) i
      · rename_i hle
        obtain ⟨k, rfl⟩ := Nat.exists_eq_add_of_le (Nat.le_of_not_lt hle)
        rw [coverCount_append_right fun j node => length_nodes_le, Nat.add_sub_cancel_left]
        exact ihr (depth + 1) k

/-! ## Labels -/

/-- The label of a composite node. -/
theorem label_of_operator? (h : e.operator? = some op) :
    e.label = op.symbol :: ' ' :: (op.word ++ labelEnd e.condition?) := by
  cases e <;> cases h <;> simp [label, labelEnd, condition?]

/-- Different operators have different symbols. -/
theorem symbol_injective (h : op.symbol = op'.symbol) : op = op' := by
  have hsymbol := congrArg Operator.ofSymbol? h
  rw [Operator.ofSymbol?_symbol, Operator.ofSymbol?_symbol] at hsymbol
  exact Option.some.inj hsymbol

/-- A condition can be told from its braces, and from there being none. -/
theorem labelEnd_injective (h : labelEnd given = labelEnd given') : given = given' := by
  cases given with
  | none =>
      cases given' with
      | none => rfl
      | some condition => cases h
  | some condition =>
      cases given' with
      | none => cases h
      | some condition' =>
          have hcondition : condition ++ ['}'] = condition' ++ ['}'] := by
            simpa [labelEnd, braced] using h
          rw [List.append_cancel_right hcondition]

/-- The labels of composite nodes say what their operators and conditions are. -/
theorem eq_of_label_eq (he : e.operator? = some op) (he' : e'.operator? = some op')
    (h : e.label = e'.label) : op = op' ∧ e.condition? = e'.condition? := by
  rw [label_of_operator? he, label_of_operator? he'] at h
  obtain ⟨hsymbol, hrest⟩ := List.cons_eq_cons.1 h
  obtain rfl := symbol_injective hsymbol
  exact ⟨rfl, labelEnd_injective (List.append_cancel_left (List.cons_eq_cons.1 hrest).2)⟩

/-- No relation has the label of a composite node. -/
theorem label_relation_ne (hname : isRelationName name) (he : e.operator? = some op) :
    (relation name source).label ≠ e.label := by
  intro h
  rw [label_of_operator? he] at h
  obtain rfl : name = _ := h
  have hsymbol := (isRelationName_iff.1 hname).2 op.symbol List.mem_cons_self
  rw [isNameChar_symbol] at hsymbol
  cases hsymbol

/-! ## Trees that have outlines -/

/-- A relation that can be outlined has a relation name. -/
theorem Outlinable.isRelationName (h : (Expr.relation name source).Outlinable) :
    isRelationName name :=
  h.names name (by simp [relationNames])

/-- The operand of a tree that can be outlined can be outlined. -/
theorem Outlinable.unary (h : (Expr.unary op condition operand source).Outlinable) :
    op.category = .unary ∧ '\n' ∉ condition ∧ operand.Outlinable := by
  obtain ⟨⟨hop, ho⟩, hnames, hconditions⟩ := h
  rw [conditions_unary, List.forall_mem_cons] at hconditions
  exact ⟨hop, hconditions.1, ho, hnames, hconditions.2⟩

/-- So can both operands of a binary node. -/
theorem BinaryNode.outlinable (h : BinaryNode op lhs rhs given e) (he : e.Outlinable) :
    op.category ≠ .unary ∧ (∀ c ∈ given, '\n' ∉ c) ∧ lhs.Outlinable ∧ rhs.Outlinable := by
  obtain ⟨hop, hl, hr⟩ := h.wellFormed he.wellFormed
  obtain ⟨hln, hrn⟩ := List.forall_mem_append.1 (h.relationNames_eq ▸ he.names)
  have hconditions := he.conditions
  rw [h.conditions_eq, List.forall_mem_append, List.forall_mem_append] at hconditions
  obtain ⟨hgiven, hlc, hrc⟩ := hconditions
  exact ⟨hop, fun c hc => hgiven c (Option.mem_toList.2 hc), ⟨hl, hln, hlc⟩, ⟨hr, hrn, hrc⟩⟩

/-- A binary node has the condition that it was given. -/
theorem BinaryNode.condition?_eq (h : BinaryNode op lhs rhs given e) : e.condition? = given := by
  cases h <;> rfl

/-- The category of the operator tells the kinds of binary nodes without a condition apart. -/
theorem BinaryNode.erase_eq {lhs' rhs' : Expr} (h : BinaryNode op lhs rhs given e)
    (h' : BinaryNode op lhs' rhs' given e') (he : e.WellFormed) (he' : e'.WellFormed)
    (hlhs : lhs.erase = lhs'.erase) (hrhs : rhs.erase = rhs'.erase) : e.erase = e'.erase := by
  cases h with
  | setOp source =>
      cases h' with
      | setOp source' => simp [Expr.erase, hlhs, hrhs]
      | join source' => cases he.1.symm.trans he'.1
  | join source =>
      cases h' with
      | setOp source' => cases he.1.symm.trans he'.1
      | join source' => simp [Expr.erase, hlhs, hrhs]
  | conditionalJoin condition source =>
      cases h' with
      | conditionalJoin condition source' => simp [Expr.erase, hlhs, hrhs]

/-- The labels of a tree in pre-order say where the tree ends, and which tree it is. -/
theorem erase_eq_of_labels_append_eq {rest rest' : List Text} (ha : a.Outlinable)
    (hb : b.Outlinable) (h : a.nodes.map label ++ rest = b.nodes.map label ++ rest') :
    a.erase = b.erase ∧ rest = rest' := by
  induction a using nodeInduction generalizing b rest rest' with
  | relation name source =>
      cases b using nodeInduction with
      | relation name' source' =>
          obtain ⟨hname, hrest⟩ := List.cons_eq_cons.1 h
          obtain rfl : name = name' := hname
          exact ⟨rfl, hrest⟩
      | unary op condition operand source' _ =>
          exact absurd (List.cons_eq_cons.1 h).1 (label_relation_ne ha.isRelationName rfl)
      | binary op given lhs rhs e hnode _ _ =>
          rw [hnode.nodes_eq] at h
          exact absurd (List.cons_eq_cons.1 h).1
            (label_relation_ne ha.isRelationName hnode.operator?_eq)
  | unary op condition operand source ih =>
      cases b using nodeInduction with
      | relation name source' =>
          exact absurd (List.cons_eq_cons.1 h).1.symm (label_relation_ne hb.isRelationName rfl)
      | unary op' condition' operand' source' _ =>
          obtain ⟨hlabel, hrest⟩ := List.cons_eq_cons.1 h
          obtain ⟨rfl, hcondition⟩ := eq_of_label_eq rfl rfl hlabel
          obtain rfl : condition = condition' := Option.some.inj hcondition
          obtain ⟨herase, hrest⟩ := ih ha.unary.2.2 hb.unary.2.2 hrest
          exact ⟨by simp [erase, herase], hrest⟩
      | binary op' given lhs rhs e hnode _ _ =>
          rw [hnode.nodes_eq] at h
          obtain ⟨rfl, -⟩ := eq_of_label_eq rfl hnode.operator?_eq (List.cons_eq_cons.1 h).1
          exact absurd ha.unary.1 (hnode.outlinable hb).1
  | binary op given lhs rhs e hnode ihl ihr =>
      rw [hnode.nodes_eq] at h
      obtain ⟨-, -, hl, hr⟩ := hnode.outlinable ha
      cases b using nodeInduction with
      | relation name source' =>
          exact absurd (List.cons_eq_cons.1 h).1.symm
            (label_relation_ne hb.isRelationName hnode.operator?_eq)
      | unary op' condition operand source' _ =>
          obtain ⟨rfl, -⟩ := eq_of_label_eq hnode.operator?_eq rfl (List.cons_eq_cons.1 h).1
          exact absurd hb.unary.1 (hnode.outlinable ha).1
      | binary op' given' lhs' rhs' e' hnode' _ _ =>
          rw [hnode'.nodes_eq] at h
          obtain ⟨-, -, hl', hr'⟩ := hnode'.outlinable hb
          obtain ⟨hlabel, hrest⟩ := List.cons_eq_cons.1 h
          obtain ⟨rfl, hgiven⟩ := eq_of_label_eq hnode.operator?_eq hnode'.operator?_eq hlabel
          rw [hnode.condition?_eq, hnode'.condition?_eq] at hgiven
          subst hgiven
          replace hrest : (lhs.nodes ++ rhs.nodes).map label ++ rest =
              (lhs'.nodes ++ rhs'.nodes).map label ++ rest' := hrest
          rw [List.map_append, List.map_append, List.append_assoc, List.append_assoc] at hrest
          obtain ⟨hlhs, hrest⟩ := ihl hl hl' hrest
          obtain ⟨hrhs, hrest⟩ := ihr hr hr' hrest
          exact ⟨hnode.erase_eq hnode' ha.wellFormed hb.wellFormed hlhs hrhs, hrest⟩

/-! ## Lines -/

/-- A label begins with no blank and has no line break. -/
def LabelFits (text : Text) : Prop :=
  '\n' ∉ text ∧ ' ' ∉ text.head?

/-- Without line ends in conditions there is none in what stands behind a word. -/
theorem newline_not_mem_labelEnd (h : ∀ condition ∈ given, '\n' ∉ condition) :
    '\n' ∉ labelEnd given := by
  cases given with
  | none => exact List.not_mem_nil
  | some condition => simp [labelEnd, braced, h condition rfl]

/-- A label is an operator's word with a condition, or a relation's name. -/
theorem labelFits_of_operator? (he : e.operator? = some op)
    (h : ∀ condition ∈ e.condition?, '\n' ∉ condition) : LabelFits e.label := by
  have hword : '\n' ∉ op.symbol :: ' ' :: op.word ∧ ' ' ≠ op.symbol := by
    cases op <;> decide
  have hend := newline_not_mem_labelEnd h
  rw [label_of_operator? he, LabelFits, ← List.cons_append, ← List.cons_append, List.mem_append]
  exact ⟨fun hmem => hmem.elim hword.1 hend, fun hmem => hword.2 (Option.some.inj hmem).symm⟩

/-- The label of every node of the tree can be told from what stands in front of it. -/
theorem Outlinable.labelFits (h : e.Outlinable) : ∀ node ∈ e.nodes, LabelFits node.label := by
  induction e using nodeInduction with
  | relation name source =>
      rw [Expr.nodes, List.forall_mem_singleton]
      refine ⟨not_mem_of_isRelationName h.isRelationName (isNameChar_of_isBlank rfl), fun hmem => ?_⟩
      exact not_mem_of_isRelationName h.isRelationName isNameChar_space (List.mem_of_mem_head? hmem)
  | unary op condition operand source ih =>
      obtain ⟨-, hcondition, ho⟩ := h.unary
      rw [Expr.nodes, List.forall_mem_cons]
      refine ⟨labelFits_of_operator? rfl fun c hc => ?_, ih ho⟩
      exact Option.some.inj hc ▸ hcondition
  | binary op given lhs rhs e hnode ihl ihr =>
      obtain ⟨-, hgiven, hl, hr⟩ := hnode.outlinable h
      rw [hnode.nodes_eq, List.forall_mem_cons, List.forall_mem_append]
      exact ⟨labelFits_of_operator? hnode.operator?_eq (hnode.condition?_eq ▸ hgiven), ihl hl,
        ihr hr⟩

/-- The blanks in front of two labels say nothing of the labels. -/
theorem replicate_append_inj {m n : Nat} (hleft : ' ' ∉ left.head?) (hright : ' ' ∉ right.head?)
    (h : List.replicate m ' ' ++ left = List.replicate n ' ' ++ right) : left = right := by
  induction m generalizing n with
  | zero =>
      cases n with
      | zero => exact h
      | succ n =>
          rw [List.replicate_zero, List.nil_append] at h
          exact absurd (h ▸ rfl) hleft
  | succ m ih =>
      cases n with
      | zero =>
          rw [List.replicate_zero, List.nil_append] at h
          exact absurd (h ▸ rfl) hright
      | succ n => exact ih (List.cons_eq_cons.1 h).2

/-- The lines of the outline, which ends with a line break. -/
theorem Outlinable.splitOn_outline (h : e.Outlinable) :
    Text.splitOn '\n' e.outline = (outlineFrom 0 e).map outlineRow ++ [[]] := by
  refine Text.splitOn_flatMap fun entry hentry => ?_
  have hnode : entry.2 ∈ e.nodes := by
    rw [← map_snd_outlineFrom]
    exact List.mem_map_of_mem hentry
  change '\n' ∉ outlineRow entry
  rw [outlineRow, List.mem_append]
  rintro (hmem | hmem)
  · cases List.eq_of_mem_replicate hmem
  · exact (h.labelFits _ hnode).1 hmem

/-- Lines that agree belong to nodes whose labels agree. -/
theorem map_label_eq_of_rows {entries entries' : List (Nat × Expr)}
    (h : entries.map outlineRow = entries'.map outlineRow)
    (hfits : ∀ entry ∈ entries, LabelFits entry.2.label)
    (hfits' : ∀ entry ∈ entries', LabelFits entry.2.label) :
    (entries.map Prod.snd).map label = (entries'.map Prod.snd).map label := by
  induction entries generalizing entries' with
  | nil =>
      cases entries' with
      | nil => rfl
      | cons entry' entries' => cases h
  | cons entry entries ih =>
      cases entries' with
      | nil => cases h
      | cons entry' entries' =>
          obtain ⟨hrow, hrows⟩ := List.cons_eq_cons.1 h
          obtain ⟨hentry, hentries⟩ := List.forall_mem_cons.1 hfits
          obtain ⟨hentry', hentries'⟩ := List.forall_mem_cons.1 hfits'
          exact List.cons_eq_cons.2
            ⟨replicate_append_inj hentry.2 hentry'.2 hrow, ih hrows hentries hentries'⟩

/-- The outline reads no source. -/
theorem map_outlineLine_erase (depth : Nat) (e : Expr) :
    (outlineFrom depth e.erase).map outlineLine = (outlineFrom depth e).map outlineLine := by
  induction e generalizing depth with
  | relation name source => rfl
  | setOp op lhs rhs source ihl ihr => simp [erase, outlineFrom, ihl, ihr, outlineLine, label]
  | unary op condition operand source ih => simp [erase, outlineFrom, ih, outlineLine, label]
  | join op lhs rhs source ihl ihr => simp [erase, outlineFrom, ihl, ihr, outlineLine, label]
  | conditionalJoin op condition lhs rhs source ihl ihr =>
      simp [erase, outlineFrom, ihl, ihr, outlineLine, label]

/-- Sources are not outlined. -/
theorem outline_erase (e : Expr) : e.erase.outline = e.outline := by
  rw [outline, outline, List.flatMap_def, List.flatMap_def, map_outlineLine_erase]

/-- The outline loses nothing but the sources: trees with the same outline differ in their sources
at most. It has one line for every node in pre-order, each ended by a line break and made of the
label of the node behind two spaces for each of its ancestors. -/
theorem outline_faithful (ha : a.Outlinable) :
    (∀ b : Expr, b.Outlinable → (a.outline = b.outline ↔ a.erase = b.erase)) ∧
      ∃ lines : List Text, Text.splitOn '\n' a.outline = lines ++ [[]] ∧
        lines.length = a.nodes.length ∧
        ∀ i, lines[i]? = a.nodes[i]?.map fun node =>
          List.replicate (2 * a.ancestorCount i) ' ' ++ node.label := by
  refine ⟨fun b hb => ⟨fun h => ?_, fun h => ?_⟩, _, ha.splitOn_outline, ?_, fun i => ?_⟩
  · have hsplit := congrArg (Text.splitOn '\n') h
    rw [ha.splitOn_outline, hb.splitOn_outline] at hsplit
    have hlabels := map_label_eq_of_rows (List.append_cancel_right hsplit)
      (fun entry hentry => ha.labelFits _ (map_snd_outlineFrom ▸ List.mem_map_of_mem hentry))
      (fun entry hentry => hb.labelFits _ (map_snd_outlineFrom ▸ List.mem_map_of_mem hentry))
    rw [map_snd_outlineFrom, map_snd_outlineFrom] at hlabels
    have happend : a.nodes.map label ++ [] = b.nodes.map label ++ [] := by rw [hlabels]
    exact (erase_eq_of_labels_append_eq ha hb happend).1
  · rw [← outline_erase a, h, outline_erase b]
  · rw [List.length_map, length_outlineFrom]
  · rw [List.getElem?_map, getElem?_outlineFrom, Option.map_map]
    cases a.nodes[i]? with
    | none => rfl
    | some node => simp [outlineRow]

/-- A join with a condition below a join without one. Other sources leave the outline as it is, and
the third line, that of `R`, is indented for two ancestors. -/
theorem outline_faithful_joins :
    let inner (source : Text) :=
      conditionalJoin .thetaJoin "A < B".toList (named "R".toList) (named "S".toList) source
    let tree (source : Text) := join .naturalJoin (inner source) (named "T".toList) source
    (tree []).Outlinable ∧ (tree "R S T".toList).Outlinable ∧
      (tree []).outline = (tree "R S T".toList).outline ∧
      ∃ lines : List Text, Text.splitOn '\n' (tree []).outline = lines ++ [[]] ∧
        lines.length = 5 ∧ lines[2]? = some "    R".toList := by
  intro inner tree
  have houtlinable (source : Text) : (tree source).Outlinable := by
    refine ⟨⟨rfl, ⟨rfl, trivial, trivial⟩, trivial⟩, ?_, ?_⟩
    · simp only [tree, inner, relationNames, named]
      decide +kernel
    · have hconditions : (tree source).conditions = ["A < B".toList] := rfl
      rw [hconditions]
      decide
  obtain ⟨hiff, lines, hlines, hlength, hrows⟩ := outline_faithful (houtlinable [])
  exact ⟨houtlinable [], houtlinable _, (hiff _ (houtlinable _)).2 rfl, lines, hlines, hlength,
    hrows 2⟩

end RelQuery.Expr
