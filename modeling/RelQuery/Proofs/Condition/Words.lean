import RelQuery.Condition.Read
import RelQuery.Proofs.Syntax.Lexing
import Mathlib.Data.List.DropRight

/-!
# Words and gaps in conditions

A gap is one or more of the blanks that may separate the parts of a predicate. A run of word
characters ends in front of a gap and at the end of the text (`AtGap`), and there a keyword is read
off a run exactly if the run is that keyword in some letter case (`keyword?_append`). No
keyword is read off a text that begins with another character.
-/

namespace RelQuery.Condition

/-- One or more of the blanks that separate parts. -/
def IsGap (text : Text) : Prop :=
  text ≠ [] ∧ text.all isSpace

/-- A text that ends or begins with a blank that separates parts. -/
def AtGap (text : Text) : Prop :=
  ∀ c ∈ text.head?, isSpace c

/-- A word in some letter case. -/
def InAnyCase (word text : Text) : Prop :=
  text.map Char.toLower = word

/-- A text that begins with something else than a blank. -/
def Begins (text : Text) : Prop :=
  ∃ c ∈ text.head?, Text.isBlank c = false

/-- A text that ends with something else than a blank. -/
def Ends (text : Text) : Prop :=
  ∃ c ∈ text.getLast?, Text.isBlank c = false

/-- Decided character by character. -/
instance (word text : Text) : Decidable (InAnyCase word text) :=
  inferInstanceAs (Decidable (_ = _))

variable {c d : Char} {text rest after run gap word first : Text}

/-! ## Characters -/

/-- The codes of the letters of ASCII. -/
theorem isAlpha_iff :
    c.isAlpha ↔ 65 ≤ c.toNat ∧ c.toNat ≤ 90 ∨ 97 ≤ c.toNat ∧ c.toNat ≤ 122 := by
  show (decide ('A'.val ≤ c.val ∧ c.val ≤ 'Z'.val) ||
    decide ('a'.val ≤ c.val) && decide (c.val ≤ 'z'.val)) = true ↔ _
  simp only [Bool.or_eq_true, Bool.and_eq_true, decide_eq_true_eq, UInt32.le_iff_toNat_le]
  rfl

/-- The codes of the digits of ASCII. -/
theorem isDigit_iff : c.isDigit ↔ 48 ≤ c.toNat ∧ c.toNat ≤ 57 :=
  Char.isDigit_iff_toNat

/-- Within ASCII the letters and digits of the tables are these. -/
theorem inRanges_ascii : ∀ code < 128, (Text.inRanges code Text.alphanumericBasic ↔
    (65 ≤ code ∧ code ≤ 90 ∨ 97 ≤ code ∧ code ≤ 122) ∨ 48 ≤ code ∧ code ≤ 57) := by
  decide +kernel

/-- The letters and the digits of ASCII are word characters. -/
theorem isWordChar_of_ascii (h : c.isAlpha ∨ c.isDigit) : isWordChar c := by
  rw [isAlpha_iff, isDigit_iff] at h
  have hascii : c.toNat < 128 := by omega
  have hbasic : c.toNat < 0x10000 := by omega
  simp [isWordChar, Text.isAlphanumeric, hbasic, (inRanges_ascii c.toNat hascii).2 h]

/-- A digit may stand in a word. -/
theorem isWordChar_of_isDigit (h : c.isDigit) : isWordChar c :=
  isWordChar_of_ascii (.inr h)

/-- So may a run of digits. -/
theorem all_isWordChar_of_all_isDigit (h : text.all Char.isDigit) : text.all isWordChar :=
  List.all_eq_true.2 fun c hc => isWordChar_of_isDigit (List.all_eq_true.1 h c hc)

/-- A character that ends a word is no digit. -/
theorem isDigit_of_isWordChar (h : isWordChar c = false) : c.isDigit = false := by
  cases hdigit : c.isDigit with
  | false => rfl
  | true =>
      rw [isWordChar_of_isDigit hdigit] at h
      cases h

/-- No letter is a digit. -/
theorem isDigit_of_isAlpha (h : c.isAlpha) : c.isDigit = false := by
  rw [isAlpha_iff] at h
  rw [← Bool.not_eq_true, isDigit_iff]
  omega

/-- What is a small letter in lower case is a letter. -/
theorem isAlpha_of_isLower_toLower (h : c.toLower.isLower) : c.isAlpha := by
  unfold Char.toLower at h
  split at h
  · rename_i hupper
    exact isAlpha_iff.2 (.inl hupper)
  · show (c.isUpper || c.isLower) = true
    rw [h, Bool.or_true]

/-- The characters of signs, quotes, numbers and wildcards that are no word characters. -/
theorem isWordChar_of_mem (h : c ∈ ".-'\"!=<>&|()*^".toList) : isWordChar c = false := by
  have hall : ".-'\"!=<>&|()*^".toList.all fun c => !isWordChar c := by decide +kernel
  simpa using List.all_eq_true.1 hall c h

/-- A character of a word is none that ends one. -/
theorem ne_of_isWordChar (h : isWordChar c) (hd : isWordChar d = false) : c ≠ d := by
  rintro rfl
  rw [h] at hd
  cases hd

/-- No blank is a word character. -/
theorem isWordChar_of_isBlank (h : Text.isBlank c) : isWordChar c = false := by
  have hne : c ≠ '_' := by
    rintro rfl
    cases h
  simp [isWordChar, Text.isAlphanumeric_of_isBlank h, hne]

/-- A character of a word is no blank. -/
theorem isBlank_of_isWordChar (h : isWordChar c) : Text.isBlank c = false := by
  cases hblank : Text.isBlank c with
  | false => rfl
  | true =>
      rw [isWordChar_of_isBlank hblank] at h
      cases h

/-- The blanks between the parts of conditions are blanks of texts. -/
theorem isBlank_of_isSpace (h : isSpace c) : Text.isBlank c := by
  simp only [isSpace, Bool.or_eq_true, decide_eq_true_eq] at h
  obtain ((rfl | rfl) | rfl) | rfl := h <;> rfl

/-! ## Gaps -/

/-- A single blank is a gap. -/
theorem isGap_singleton (h : isSpace c) : IsGap [c] :=
  ⟨List.cons_ne_nil _ _, by simp [h]⟩

/-- Words and numbers end in front of a gap. -/
theorem IsGap.atGap (h : IsGap gap) : AtGap (gap ++ rest) := by
  obtain ⟨hne, hspace⟩ := h
  obtain ⟨c, gap, rfl⟩ := List.exists_cons_of_ne_nil hne
  rintro _ ⟨rfl⟩
  exact List.all_eq_true.1 hspace c List.mem_cons_self

/-- What begins a text begins it with more behind. -/
theorem Begins.append (h : Begins text) : Begins (text ++ rest) := by
  obtain ⟨c, hc, hblank⟩ := h
  exact ⟨c, by rw [List.head?_append, Option.mem_def.1 hc]; rfl, hblank⟩

/-- What ends a text ends it with more in front. -/
theorem Ends.append (h : Ends text) : Ends (first ++ text) := by
  obtain ⟨c, hc, hblank⟩ := h
  exact ⟨c, by rw [List.getLast?_append, Option.mem_def.1 hc]; rfl, hblank⟩

/-- A text that begins with something is not empty. -/
theorem Begins.length_pos (h : Begins text) : 0 < text.length := by
  obtain ⟨c, hc, -⟩ := h
  exact List.length_pos_of_mem (List.mem_of_mem_head? hc)

/-- There are no blanks to skip in front of it. -/
theorem Begins.skipSpace (h : Begins text) : skipSpace text = text := by
  obtain ⟨c, hc, hblank⟩ := h
  cases text with
  | nil => cases hc
  | cons d text =>
      obtain rfl := Option.some.inj hc
      have hspace : ¬ isSpace d := fun hspace => by
        rw [isBlank_of_isSpace hspace] at hblank
        cases hblank
      rw [Condition.skipSpace, List.dropWhile_cons_of_neg hspace]

/-- A gap is passed over up to the next part. -/
theorem IsGap.skipSpace (h : IsGap gap) (htext : Begins text) : skipSpace (gap ++ text) = text := by
  rw [Condition.skipSpace, List.dropWhile_append_of_pos (List.all_eq_true.1 h.2)]
  exact htext.skipSpace

/-- Nothing is trimmed of a text that begins and ends with other characters than blanks. -/
theorem trim_eq_self (hbegins : Begins text) (hends : Ends text) : Text.trim text = text := by
  obtain ⟨c, hc, hblank⟩ := hbegins
  have hleft : Text.trimLeft text = text := by
    cases text with
    | nil => cases hc
    | cons d text =>
        obtain rfl := Option.some.inj hc
        rw [Text.trimLeft, List.dropWhile_cons_of_neg (by simp [hblank])]
  obtain ⟨d, hd, hblank⟩ := hends
  obtain ⟨front, rfl⟩ := List.getLast?_eq_some_iff.1 hd
  rw [Text.trim, hleft, Text.trimRight, List.reverse_append, List.reverse_singleton,
    List.singleton_append, List.dropWhile_cons_of_neg (by simp [hblank])]
  simp

/-- What is trimmed begins and ends with something else than a blank, if there is anything left. -/
theorem begins_trim (h : Text.trim text ≠ []) : Begins (Text.trim text) := by
  obtain ⟨tail, htail⟩ : Text.trim text <+: Text.trimLeft text := List.rdropWhile_prefix _ _
  have hhead : (Text.trim text).head h ∈ (Text.trimLeft text).head? := by
    rw [← htail, List.head?_append, List.head?_eq_some_head h]
    rfl
  have hblank := List.head?_dropWhile_not Text.isBlank text
  rw [← Text.trimLeft, Option.mem_def.1 hhead] at hblank
  exact ⟨_, List.head?_eq_some_head h, hblank⟩

/-- A trimmed text ends with no blank, if anything is left. -/
theorem ends_trim (h : Text.trim text ≠ []) : Ends (Text.trim text) :=
  ⟨_, List.getLast?_eq_some_getLast h,
    Bool.eq_false_iff.2 (List.rdropWhile_last_not Text.isBlank (Text.trimLeft text) h)⟩

/-- Trimming twice is trimming once. -/
theorem trim_trim : Text.trim (Text.trim text) = Text.trim text := by
  by_cases h : Text.trim text = []
  · rw [h]
    rfl
  · exact trim_eq_self (begins_trim h) (ends_trim h)

/-- There are no blanks to skip in front of a trimmed text. -/
theorem skipSpace_trim : skipSpace (Text.trim text) = Text.trim text := by
  by_cases h : Text.trim text = []
  · rw [h]
    rfl
  · exact (begins_trim h).skipSpace

/-- A run of word characters begins and ends with one. -/
theorem begins_of_isWordChar (hne : run ≠ []) (hrun : run.all isWordChar) : Begins run :=
  ⟨run.head hne, List.head?_eq_some_head hne,
    isBlank_of_isWordChar (List.all_eq_true.1 hrun _ (List.head_mem hne))⟩

/-- A word ends with no blank. -/
theorem ends_of_isWordChar (hne : run ≠ []) (hrun : run.all isWordChar) : Ends run :=
  ⟨run.getLast hne, List.getLast?_eq_some_getLast hne,
    isBlank_of_isWordChar (List.all_eq_true.1 hrun _ (List.getLast_mem hne))⟩

/-- A word ends where no character of words follows. -/
theorem atWordEnd_iff : atWordEnd rest ↔ ∀ c ∈ rest.head?, isWordChar c = false := by
  cases rest <;> simp [atWordEnd]

/-- No word goes on in a gap. -/
theorem AtGap.isWordChar (h : AtGap rest) : ∀ c ∈ rest.head?, isWordChar c = false :=
  fun c hc => isWordChar_of_isBlank (isBlank_of_isSpace (h c hc))

/-- It does in front of a gap. -/
theorem AtGap.atWordEnd (h : AtGap rest) : atWordEnd rest :=
  atWordEnd_iff.2 h.isWordChar

/-! ## Runs -/

/-- A run of characters of a kind ends where a character of another kind follows. -/
theorem takeWhile_run {kind : Char → Bool} (hrun : run.all kind)
    (hrest : ∀ c ∈ rest.head?, kind c = false) : (run ++ rest).takeWhile kind = run := by
  rw [List.takeWhile_append_of_pos (List.all_eq_true.1 hrun)]
  cases rest with
  | nil => simp
  | cons c rest => simp [hrest c rfl]

/-- What is behind a run is what does not begin with its kind. -/
theorem dropWhile_run {kind : Char → Bool} (hrun : run.all kind)
    (hrest : ∀ c ∈ rest.head?, kind c = false) : (run ++ rest).dropWhile kind = rest := by
  rw [List.dropWhile_append_of_pos (List.all_eq_true.1 hrun)]
  cases rest with
  | nil => rfl
  | cons c rest => simp [hrest c rfl]

/-- A text that begins with a run of word characters does not begin with another character. -/
theorem head?_append_ne (hne : run ≠ []) (hrun : run.all isWordChar)
    (hd : isWordChar d = false) : (run ++ rest).head? ≠ some d := by
  obtain ⟨c, run, rfl⟩ := List.exists_cons_of_ne_nil hne
  have hc := List.all_eq_true.1 hrun c List.mem_cons_self
  exact fun h => ne_of_isWordChar hc hd (Option.some.inj h)

/-- The characters of a kind that a text begins with. -/
theorem exists_run_append (kind : Char → Bool) (text : Text) :
    ∃ run rest, text = run ++ rest ∧ run.all kind ∧ ∀ c ∈ rest.head?, kind c = false := by
  refine ⟨_, _, List.takeWhile_append_dropWhile.symm, List.all_takeWhile, ?_⟩
  intro c hc
  have h := List.head?_dropWhile_not kind text
  rw [Option.mem_def.1 hc] at h
  exact h

/-- A text is in one way a run of word characters and a text in which no word goes on. -/
theorem run_unique {other : Text} (hrun : run.all isWordChar) (hrest : atWordEnd rest)
    (hother : other.all isWordChar) (hafter : atWordEnd after)
    (h : run ++ rest = other ++ after) : run = other ∧ rest = after := by
  rw [atWordEnd_iff] at hrest hafter
  have htake := congrArg (List.takeWhile isWordChar) h
  have hdrop := congrArg (List.dropWhile isWordChar) h
  rw [takeWhile_run hrun hrest, takeWhile_run hother hafter] at htake
  rw [dropWhile_run hrun hrest, dropWhile_run hother hafter] at hdrop
  exact ⟨htake, hdrop⟩

/-! ## Keywords -/

/-- What is left when a word is taken off in any case is what stands behind it. -/
theorem stripCaseless?_eq_some_iff :
    stripCaseless? word text = some rest ↔ ∃ run, InAnyCase word run ∧ text = run ++ rest := by
  unfold InAnyCase
  induction word generalizing text with
  | nil => simp [stripCaseless?]
  | cons w word ih =>
      cases text with
      | nil =>
          constructor
          · rintro ⟨⟩
          · rintro ⟨run, hrun, htext⟩
            obtain ⟨rfl, -⟩ := List.append_eq_nil_iff.1 htext.symm
            cases hrun
      | cons c text =>
          rw [stripCaseless?]
          split
          · rename_i hc
            rw [ih]
            constructor
            · rintro ⟨run, hrun, rfl⟩
              exact ⟨c :: run, by simp [hc, hrun], rfl⟩
            · rintro ⟨run, hrun, htext⟩
              cases run with
              | nil => cases hrun
              | cons d run =>
                  cases htext
                  exact ⟨run, (List.cons.inj hrun).2, rfl⟩
          · rename_i hc
            constructor
            · rintro ⟨⟩
            · rintro ⟨run, hrun, htext⟩
              cases run with
              | nil => cases hrun
              | cons d run =>
                  cases htext
                  exact absurd (List.cons.inj hrun).1 hc

/-- A keyword is written with letters, whatever their case. -/
theorem all_isAlpha_of_inAnyCase (hword : word.all Char.isLower) (h : InAnyCase word run) :
    run.all Char.isAlpha := by
  refine List.all_eq_true.2 fun c hc => isAlpha_of_isLower_toLower ?_
  exact List.all_eq_true.1 hword _ (h ▸ List.mem_map_of_mem hc)

/-- A keyword is made of characters of words in any case. -/
theorem all_isWordChar_of_inAnyCase (hword : word.all Char.isLower) (h : InAnyCase word run) :
    run.all isWordChar := by
  refine List.all_eq_true.2 fun c hc => isWordChar_of_ascii (.inl ?_)
  exact List.all_eq_true.1 (all_isAlpha_of_inAnyCase hword h) c hc

/-- It has as many characters in any case. -/
theorem ne_nil_of_inAnyCase (hne : word ≠ []) (h : InAnyCase word run) : run ≠ [] := by
  rintro rfl
  exact hne h.symm

/-- No keyword is a numeral. -/
theorem not_all_isDigit_of_inAnyCase (hword : word.all Char.isLower) (hne : word ≠ [])
    (h : InAnyCase word run) : ¬ run.all Char.isDigit := by
  obtain ⟨c, hc⟩ := List.exists_mem_of_ne_nil run (ne_nil_of_inAnyCase hne h)
  have halpha := List.all_eq_true.1 (all_isAlpha_of_inAnyCase hword h) c hc
  intro hall
  rw [List.all_eq_true] at hall
  cases (isDigit_of_isAlpha halpha).symm.trans (hall c hc)

/-- A keyword is read off a run of word characters if the run is the keyword in some case. -/
theorem keyword?_append {word : String} (hword : word.toList.all Char.isLower)
    (hrun : run.all isWordChar) (hrest : atWordEnd rest) :
    keyword? word (run ++ rest) = if InAnyCase word.toList run then some rest else none := by
  ext after
  rw [keyword?, Option.filter_eq_some_iff, stripCaseless?_eq_some_iff,
    Option.ite_none_right_eq_some, Option.some_inj]
  constructor
  · rintro ⟨⟨other, hother, h⟩, hafter⟩
    obtain ⟨rfl, rfl⟩ :=
      run_unique hrun hrest (all_isWordChar_of_inAnyCase hword hother) hafter h
    exact ⟨hother, rfl⟩
  · rintro ⟨hcase, rfl⟩
    exact ⟨⟨run, hcase, rfl⟩, hrest⟩

/-- Where a keyword is found, the word ends behind it. -/
theorem keyword?_eq_some {word : String} (h : keyword? word text = some rest) :
    ∃ run, InAnyCase word.toList run ∧ text = run ++ rest ∧ atWordEnd rest := by
  obtain ⟨hstrip, hend⟩ := Option.filter_eq_some_iff.1 h
  obtain ⟨run, hrun, htext⟩ := stripCaseless?_eq_some_iff.1 hstrip
  exact ⟨run, hrun, htext, hend⟩

/-- No keyword is read where no word goes on. -/
theorem keyword?_eq_none {word : String} (hword : word.toList.all Char.isLower)
    (hne : word.toList ≠ []) (h : atWordEnd text) : keyword? word text = none := by
  have hkeyword : keyword? word ([] ++ text) = _ := keyword?_append hword rfl h
  rwa [if_neg fun hcase => hne hcase.symm] at hkeyword

end RelQuery.Condition
