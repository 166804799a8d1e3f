import Mathlib.Data.List.Infix
import RelQuery.Operator.Alias
import RelQuery.Proofs.Text.Replace

/-!
# Texts with and without words for operators

A text in which no word for an operator occurs stays as it is when words are replaced by symbols
(`symbolize_of_not_spelled`). In any other text some characters that are no symbols are lost
(`wordLength_symbolize_lt`). Afterwards no word occurs any more (`not_spelled_symbolize`): a symbol
occurs in no word, so it separates texts like any other such character (`spelled_append_cons_iff`),
and a word that has been replaced cannot come up again from what is left on its two sides. Which
characters separate can be told from what is replaced alone (`symbolize_local`).
-/

namespace RelQuery.Operator

/-- The spelling occurs in the text, as it is listed or in upper case. -/
def Occurs (spelling : Text × Operator) (text : Text) : Prop :=
  spelling.1 <:+: text ∨ spelling.1.map Char.toUpper <:+: text

/-- A word for an operator occurs in the text. -/
def Spelled (text : Text) : Prop :=
  ∃ spelling ∈ aliases, Occurs spelling text

/-- Decided by searching the text for both spellings. -/
instance (spelling : Text × Operator) (text : Text) : Decidable (Occurs spelling text) :=
  inferInstanceAs (Decidable (_ ∨ _))

/-- Decided by going through all words. -/
instance (text : Text) : Decidable (Spelled text) :=
  inferInstanceAs (Decidable (∃ spelling ∈ aliases, Occurs spelling text))

/-- The character occurs in no word for an operator. -/
def Separates (c : Char) : Prop :=
  ∀ spelling ∈ aliases, c ∉ spelling.1 ∧ c ∉ spelling.1.map Char.toUpper

/-- Decided by going through all words. -/
instance (c : Char) : Decidable (Separates c) :=
  inferInstanceAs (Decidable (∀ spelling ∈ aliases, _))

/-- The number of characters that are no operator symbols. -/
def wordLength (text : Text) : Nat :=
  text.countP fun c => (ofSymbol? c).isNone

variable {text part left right : Text} {c : Char} {spelling other : Text × Operator}
variable {spellings : List (Text × Operator)}

/-- A symbol does not count. -/
theorem wordLength_symbol (op : Operator) : wordLength [op.symbol] = 0 := by
  simp [wordLength, ofSymbol?_symbol]

/-- Every word has a character that counts, in either case. -/
theorem wordLength_spelling : ∀ spelling ∈ aliases,
    0 < wordLength spelling.1 ∧ 0 < wordLength (spelling.1.map Char.toUpper) := by
  decide

/-- A text in which something counts is not empty. -/
theorem ne_nil_of_wordLength_pos (h : 0 < wordLength text) : text ≠ [] := by
  rintro rfl
  cases h

/-- Nothing is replaced where the word does not occur. -/
theorem replaceAlias_of_not_occurs (h : ¬ Occurs spelling text) :
    replaceAlias text spelling = text := by
  obtain ⟨hlower, hupper⟩ := not_or.1 h
  rw [replaceAlias, Text.replaceAll_of_not_infix hlower, Text.replaceAll_of_not_infix hupper]

/-- Replacing a word adds nothing that counts. -/
theorem wordLength_replaceAlias_le (hmem : spelling ∈ aliases) :
    wordLength (replaceAlias text spelling) ≤ wordLength text := by
  obtain ⟨hlower, hupper⟩ := wordLength_spelling spelling hmem
  have hsymbol := wordLength_symbol spelling.2
  exact Nat.le_trans (Text.countP_replaceAll_le (ne_nil_of_wordLength_pos hupper) hsymbol)
    (Text.countP_replaceAll_le (ne_nil_of_wordLength_pos hlower) hsymbol)

/-- Where the word occurs something that counts is lost. -/
theorem wordLength_replaceAlias_lt (hmem : spelling ∈ aliases) (h : Occurs spelling text) :
    wordLength (replaceAlias text spelling) < wordLength text := by
  obtain ⟨hlower, hupper⟩ := wordLength_spelling spelling hmem
  have hsymbol := wordLength_symbol spelling.2
  by_cases hinfix : spelling.1 <:+: text
  · exact Nat.lt_of_le_of_lt
      (Text.countP_replaceAll_le (ne_nil_of_wordLength_pos hupper) hsymbol)
      (Text.countP_replaceAll_lt hlower hsymbol hinfix)
  · rw [replaceAlias, Text.replaceAll_of_not_infix hinfix]
    exact Text.countP_replaceAll_lt hupper hsymbol (h.resolve_left hinfix)

/-- So none of the replacements adds anything. -/
theorem wordLength_foldl_le (hmem : ∀ spelling ∈ spellings, spelling ∈ aliases) :
    wordLength (spellings.foldl replaceAlias text) ≤ wordLength text := by
  induction spellings generalizing text with
  | nil => exact Nat.le_refl _
  | cons spelling spellings ih =>
      obtain ⟨hspelling, hspellings⟩ := List.forall_mem_cons.1 hmem
      exact Nat.le_trans (ih hspellings) (wordLength_replaceAlias_le hspelling)

/-- A word that occurs in a text may be gone when its turn comes, but only because a word before it
has been replaced. -/
theorem wordLength_foldl_lt (hmem : ∀ spelling ∈ spellings, spelling ∈ aliases)
    (h : ∃ spelling ∈ spellings, Occurs spelling text) :
    wordLength (spellings.foldl replaceAlias text) < wordLength text := by
  induction spellings with
  | nil => simp at h
  | cons spelling spellings ih =>
      obtain ⟨hspelling, hspellings⟩ := List.forall_mem_cons.1 hmem
      rw [List.foldl_cons]
      by_cases hoccurs : Occurs spelling text
      · exact Nat.lt_of_le_of_lt (wordLength_foldl_le hspellings)
          (wordLength_replaceAlias_lt hspelling hoccurs)
      · rw [replaceAlias_of_not_occurs hoccurs]
        obtain ⟨other, hother, hoccurs'⟩ := h
        rcases List.mem_cons.1 hother with rfl | hother
        · exact absurd hoccurs' hoccurs
        · exact ih hspellings ⟨other, hother, hoccurs'⟩

/-- A text with a word in it gets shorter in this way. -/
theorem wordLength_symbolize_lt (h : Spelled text) :
    wordLength (symbolize text) < wordLength text :=
  wordLength_foldl_lt (fun _ hmem => hmem) h

/-- A text without words for operators keeps all its characters. -/
theorem symbolize_of_not_spelled (h : ¬ Spelled text) : symbolize text = text := by
  have hfold : ∀ spellings : List (Text × Operator),
      (∀ spelling ∈ spellings, ¬ Occurs spelling text) →
      spellings.foldl replaceAlias text = text := by
    intro spellings hnone
    induction spellings with
    | nil => rfl
    | cons spelling spellings ih =>
        obtain ⟨hspelling, hspellings⟩ := List.forall_mem_cons.1 hnone
        rw [List.foldl_cons, replaceAlias_of_not_occurs hspelling, ih hspellings]
  exact hfold aliases fun spelling hmem hoccurs => h ⟨spelling, hmem, hoccurs⟩

/-! ## Separate texts -/

/-- No symbol is part of a word. -/
theorem separates_symbol (op : Operator) : Separates op.symbol := by
  cases op <;> decide

/-- Neither is a brace, a parenthesis, a space or a comma. -/
theorem separates_of_mem (h : c ∈ ['{', '}', '(', ')', ' ', ',']) : Separates c := by
  -- One character at a time, as all words are searched for each.
  simp only [List.mem_cons, List.not_mem_nil, or_false] at h
  obtain rfl | rfl | rfl | rfl | rfl | rfl := h <;> decide

/-- A word lies on one side of a character that occurs in none. -/
theorem occurs_append_cons_iff (hc : Separates c) (hmem : spelling ∈ aliases) :
    Occurs spelling (left ++ c :: right) ↔ Occurs spelling left ∨ Occurs spelling right := by
  obtain ⟨hlower, hupper⟩ := hc spelling hmem
  unfold Occurs
  rw [Text.infix_append_cons_iff hlower, Text.infix_append_cons_iff hupper]
  exact or_or_or_comm

/-- A word occurs on one side of such a character or on the other. -/
theorem spelled_append_cons_iff (hc : Separates c) :
    Spelled (left ++ c :: right) ↔ Spelled left ∨ Spelled right := by
  constructor
  · intro h
    obtain ⟨spelling, hmem, hoccurs⟩ := h
    obtain hleft | hright := (occurs_append_cons_iff hc hmem).1 hoccurs
    · exact .inl ⟨spelling, hmem, hleft⟩
    · exact .inr ⟨spelling, hmem, hright⟩
  · intro h
    obtain ⟨spelling, hmem, hleft⟩ | ⟨spelling, hmem, hright⟩ := h
    · exact ⟨spelling, hmem, (occurs_append_cons_iff hc hmem).2 (.inl hleft)⟩
    · exact ⟨spelling, hmem, (occurs_append_cons_iff hc hmem).2 (.inr hright)⟩

/-- No word occurs in the empty text. -/
theorem not_spelled_nil : ¬ Spelled [] := by
  decide

/-- A word occurs behind such a character if it occurs at all. -/
theorem spelled_cons_iff (hc : Separates c) : Spelled (c :: right) ↔ Spelled right := by
  have h := @spelled_append_cons_iff [] right c hc
  rwa [List.nil_append, or_iff_right not_spelled_nil] at h

/-- No word occurs in a part of a text if none does in the text. -/
theorem not_spelled_of_part (h : ¬ Spelled text) (hpart : part <:+: text) : ¬ Spelled part := by
  intro hspelled
  obtain ⟨spelling, hmem, hoccurs⟩ := hspelled
  exact h ⟨spelling, hmem, hoccurs.imp (·.trans hpart) (·.trans hpart)⟩

/-- The two sides of a character that occurs in no word are replaced in by themselves. -/
theorem replaceAlias_append_cons (hc : Separates c) (hmem : spelling ∈ aliases) :
    replaceAlias (left ++ c :: right) spelling =
      replaceAlias left spelling ++ c :: replaceAlias right spelling := by
  obtain ⟨hlower, hupper⟩ := hc spelling hmem
  obtain ⟨hlowerPos, hupperPos⟩ := wordLength_spelling spelling hmem
  rw [replaceAlias, Text.replaceAll_append_cons (ne_nil_of_wordLength_pos hlowerPos) hlower,
    Text.replaceAll_append_cons (ne_nil_of_wordLength_pos hupperPos) hupper]
  rfl

/-- Words are replaced on both sides of such a character, each by itself. -/
theorem foldl_replaceAlias_append_cons (hc : Separates c)
    (hmem : ∀ spelling ∈ spellings, spelling ∈ aliases) :
    spellings.foldl replaceAlias (left ++ c :: right) =
      spellings.foldl replaceAlias left ++ c :: spellings.foldl replaceAlias right := by
  induction spellings generalizing left right with
  | nil => rfl
  | cons spelling spellings ih =>
      obtain ⟨hspelling, hspellings⟩ := List.forall_mem_cons.1 hmem
      simp only [List.foldl_cons, replaceAlias_append_cons hc hspelling, ih hspellings]

/-- So a text may be cut there before its words are replaced. -/
theorem symbolize_append_cons (hc : Separates c) :
    symbolize (left ++ c :: right) = symbolize left ++ c :: symbolize right :=
  foldl_replaceAlias_append_cons hc fun _ hmem => hmem

/-- A character in front that separates stays there. -/
theorem symbolize_cons (hc : Separates c) : symbolize (c :: right) = c :: symbolize right := by
  have h := @symbolize_append_cons [] right c hc
  rwa [symbolize_of_not_spelled not_spelled_nil] at h

/-- Texts between separating characters are replaced in by themselves, however many there are. -/
theorem symbolize_joinWith (hc : Separates c) (pieces : List Text) :
    symbolize (Text.joinWith [c] pieces) = Text.joinWith [c] (pieces.map symbolize) := by
  unfold Text.joinWith
  induction pieces with
  | nil => exact symbolize_of_not_spelled not_spelled_nil
  | cons first rest ih =>
      cases rest with
      | nil => rw [List.map_singleton, List.intercalate_singleton, List.intercalate_singleton]
      | cons second rest =>
          rw [List.map_cons, List.map_cons, List.intercalate_cons_cons, List.intercalate_cons_cons,
            List.append_assoc, List.append_assoc, List.singleton_append, List.singleton_append,
            symbolize_append_cons hc, ih, List.map_cons]

/-! ## What is left of words -/

/-- No word comes up when another one is replaced. -/
theorem occurs_of_occurs_replaceAlias (hmem : other ∈ aliases)
    (h : Occurs other (replaceAlias text spelling)) : Occurs other text := by
  obtain ⟨hlower, hupper⟩ := separates_symbol spelling.2 other hmem
  have hback {word : Text} (hword : spelling.2.symbol ∉ word)
      (h : word <:+: replaceAlias text spelling) : word <:+: text :=
    Text.infix_of_infix_replaceAll hword (Text.infix_of_infix_replaceAll hword h)
  exact h.imp (hback hlower) (hback hupper)

/-- A word that has been replaced is gone. -/
theorem not_occurs_replaceAlias (hmem : spelling ∈ aliases) :
    ¬ Occurs spelling (replaceAlias text spelling) := by
  obtain ⟨hlower, hupper⟩ := separates_symbol spelling.2 spelling hmem
  obtain ⟨hlowerPos, hupperPos⟩ := wordLength_spelling spelling hmem
  intro h
  obtain hfound | hfound := h
  · -- The replacement of the upper-case word comes second and cannot bring the other one back.
    have hfirst := Text.infix_of_infix_replaceAll hlower hfound
    exact Text.not_infix_replaceAll (ne_nil_of_wordLength_pos hlowerPos) hlower hfirst
  · exact Text.not_infix_replaceAll (ne_nil_of_wordLength_pos hupperPos) hupper hfound

/-- A word that occurs after some replacements has occurred before. -/
theorem occurs_of_occurs_foldl (hmem : other ∈ aliases)
    (h : Occurs other (spellings.foldl replaceAlias text)) : Occurs other text := by
  induction spellings generalizing text with
  | nil => exact h
  | cons spelling spellings ih => exact occurs_of_occurs_replaceAlias hmem (ih h)

/-- A word that has been replaced does not occur again. -/
theorem not_occurs_foldl (hmem : ∀ spelling ∈ spellings, spelling ∈ aliases)
    (h : spelling ∈ spellings) : ¬ Occurs spelling (spellings.foldl replaceAlias text) := by
  induction spellings generalizing text with
  | nil => cases h
  | cons first spellings ih =>
      obtain ⟨hfirst, hspellings⟩ := List.forall_mem_cons.1 hmem
      rw [List.foldl_cons]
      obtain rfl | h := List.mem_cons.1 h
      · intro hoccurs
        exact not_occurs_replaceAlias hfirst (occurs_of_occurs_foldl hfirst hoccurs)
      · exact ih hspellings h

/-- Only symbols are put in. -/
theorem mem_of_mem_symbolize (hc : ∀ op : Operator, c ≠ op.symbol) (h : c ∈ symbolize text) :
    c ∈ text := by
  have hback (op : Operator) (word : Text) {text : Text}
      (h : c ∈ Text.replaceAll word [op.symbol] text) : c ∈ text := by
    rw [← List.singleton_infix_iff] at h ⊢
    exact Text.infix_of_infix_replaceAll (by simpa using (hc op).symm) h
  have hfold : ∀ (spellings : List (Text × Operator)) (text : Text),
      c ∈ spellings.foldl replaceAlias text → c ∈ text := by
    intro spellings
    induction spellings with
    | nil => exact fun _ h => h
    | cons spelling spellings ih => exact fun text h => hback _ _ (hback _ _ (ih _ h))
  exact hfold aliases text h

/-- A text that is not empty does not become empty. -/
theorem symbolize_ne_nil (h : text ≠ []) : symbolize text ≠ [] := by
  have hfold : ∀ (spellings : List (Text × Operator)) (text : Text), text ≠ [] →
      spellings.foldl replaceAlias text ≠ [] := by
    intro spellings
    induction spellings with
    | nil => exact fun _ h => h
    | cons spelling spellings ih =>
        intro text h
        have hsymbol := List.cons_ne_nil spelling.2.symbol []
        exact ih _ (Text.replaceAll_ne_nil hsymbol (Text.replaceAll_ne_nil hsymbol h))
  exact hfold aliases text h

/-- No word for an operator occurs where words have been replaced by symbols. -/
theorem not_spelled_symbolize : ¬ Spelled (symbolize text) := by
  intro h
  obtain ⟨spelling, hmem, hoccurs⟩ := h
  exact not_occurs_foldl (fun _ hmem => hmem) hmem hoccurs

/-- Replacing words by symbols leaves no word, neither as it is listed nor in upper case, so that
there is nothing to replace the second time; and it leaves a text as it is only if there was nothing
to replace. -/
theorem symbolize_symbolize (text : Text) :
    (∀ spelling ∈ aliases,
      ¬ spelling.1 <:+: symbolize text ∧ ¬ spelling.1.map Char.toUpper <:+: symbolize text) ∧
    symbolize (symbolize text) = symbolize text ∧ (symbolize text = text ↔ ¬ Spelled text) := by
  refine ⟨?_, symbolize_of_not_spelled not_spelled_symbolize, ?_, symbolize_of_not_spelled⟩
  · intro spelling hmem
    exact not_or.1 fun hoccurs => not_spelled_symbolize ⟨spelling, hmem, hoccurs⟩
  · intro h
    rw [← h]
    exact not_spelled_symbolize

/-- The replaced word parts what would make up another one. -/
example : symbolize "mi*nus UnION THETAJOIN_".toList = "mi×nus UnION θ".toList := by
  decide +kernel

/-! ## Characters that separate -/

/-- A word for an operator becomes its symbol as a whole, whatever other words are parts of it. -/
theorem symbolize_spelling : ∀ spelling ∈ aliases,
    symbolize spelling.1 = [spelling.2.symbol] ∧
      symbolize (spelling.1.map Char.toUpper) = [spelling.2.symbol] := by
  decide +kernel

/-- So no character of a word has its two sides replaced in by themselves: it would be left over. -/
theorem not_mem_of_symbolize_append_cons {word : Text} {op : Operator}
    (hword : symbolize word = [op.symbol]) (hsymbol : op.symbol ∉ word)
    (h : ∀ left right, symbolize (left ++ c :: right) = symbolize left ++ c :: symbolize right) :
    c ∉ word := by
  intro hmem
  obtain ⟨left, right, rfl⟩ := List.append_of_mem hmem
  have hleft : c ∈ symbolize left ++ c :: symbolize right := by simp
  rw [← h left right, hword, List.mem_singleton] at hleft
  exact hsymbol (hleft ▸ hmem)

/-- Replacing words by symbols is local: the two sides of a character are replaced in by themselves,
whatever they are, exactly if the character occurs in no word, neither as it is listed nor in upper
case. So are the texts between any number of such characters. Braces, parentheses, blanks, commas
and the symbols themselves are such characters. -/
theorem symbolize_local :
    (∀ c, Separates c ↔
      ∀ left right, symbolize (left ++ c :: right) = symbolize left ++ c :: symbolize right) ∧
    (∀ c, Separates c → ∀ pieces,
      symbolize (Text.joinWith [c] pieces) = Text.joinWith [c] (pieces.map symbolize)) ∧
    (∀ c ∈ ['{', '}', '(', ')', ' ', ','], Separates c) ∧ ∀ op : Operator, Separates op.symbol := by
  refine ⟨fun c => ⟨fun hc left right => symbolize_append_cons hc, fun h => ?_⟩,
    fun c hc => symbolize_joinWith hc, fun c => separates_of_mem, separates_symbol⟩
  intro spelling hmem
  obtain ⟨hlower, hupper⟩ := symbolize_spelling spelling hmem
  obtain ⟨hlowerSymbol, hupperSymbol⟩ := separates_symbol spelling.2 spelling hmem
  exact ⟨not_mem_of_symbolize_append_cons hlower hlowerSymbol h,
    not_mem_of_symbolize_append_cons hupper hupperSymbol h⟩

end RelQuery.Operator
