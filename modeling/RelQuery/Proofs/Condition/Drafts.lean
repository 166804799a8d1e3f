import RelQuery.Proofs.Condition.Quotes

/-!
# A place in a condition

A place lies behind a beginning of the condition in which every quote is closed, at the beginning or
behind a delimiter, and in front of the end or a delimiter. What stands there is neither joined with
what is around it nor taken for a part of text between quotes. So every part that is read in front
of the place is the same whatever fills it, if that begins with no delimiter and is no connective.
A `Draft` is what is still to be read, in front of the place or behind it, and of each kind of part
the same is read off a draft whatever fills the place (`MarksAlike`, `ReadsAlike`).
-/

namespace RelQuery.Condition

/-- The characters that end a word or a number: blanks, the characters of signs and parentheses. -/
def isDelimiter (c : Char) : Bool :=
  Text.isBlank c || isSign c || c = '(' || c = ')'

/-- A place may lie behind the text. -/
structure Clear (front : Text) : Prop where
  unquoted : Unquoted front
  ends : ∀ c ∈ front.getLast?, isDelimiter c

/-- What fills a place in front of `after`. It is no connective, and an operand is read off it if it
is `readable` and none otherwise. -/
structure Fills (after : Text) (readable : Bool) (x : Text) (operand : Operand) : Prop where
  begins : ∃ c tail, x = c :: tail ∧ isDelimiter c = false
  keyword : ∀ word ∈ ["and", "or", "not"], keyword? word (x ++ after) = none
  read : operand? (x ++ after) = if readable then some (operand, after) else none

/-- What is still to be read: a text with the place and `after` behind it, or a text behind the
place. -/
inductive Draft where
  | ahead (front : Text)
  | behind (text : Text)

namespace Draft

/-- The text that is still to be read if `x` fills the place. -/
def fill (after x : Text) : Draft → Text
  | ahead front => front ++ (x ++ after)
  | behind text => text

/-- The number of places that are still to be read. -/
def places : Draft → Nat
  | ahead _ => 1
  | behind _ => 0

/-- The length of what is still to be read, where the place counts for one character. -/
def size (after : Text) : Draft → Nat
  | ahead front => front.length + (after.length + 1)
  | behind text => text.length

/-- The place may lie where it does. -/
def Clear : Draft → Prop
  | ahead front => Condition.Clear front
  | behind _ => True

/-- The draft without the blanks in front that separate parts. -/
def skipSpace : Draft → Draft
  | ahead front => ahead (Condition.skipSpace front)
  | behind text => behind (Condition.skipSpace text)

end Draft

/-- `e` is left of `d` when the operand at the place was read `used` times. -/
structure Leaves (after : Text) (readable : Bool) (used : Nat) (d e : Draft) : Prop where
  clear : e.Clear
  places : used + e.places = d.places
  size_le : e.size after ≤ d.size after
  readable : readable = false → used = 0

/-- A mark read as a part with nothing to say. -/
def unit? (mark? : Text → Option Text) (text : Text) : Option (Unit × Text) :=
  (mark? text).map fun rest => ((), rest)

/-- What is read off a draft, if it has fewer characters than `depth`, and what is left then, does
not depend on what fills the place, but for the places in the value that was read. -/
def ReadsAlike {α β : Type} (after : Text) (readable : Bool) (places : α → Nat)
    (fill : Operand → α → β) (read : (depth : Nat) → Text → Option (β × Text)) (d : Draft) :
    Prop :=
  ∃ out : Option (α × Draft),
    (∀ found ∈ out, Leaves after readable (places found.1) d found.2 ∧
      found.2.size after < d.size after) ∧
    ∀ x operand depth, Fills after readable x operand → (d.fill after x).length < depth →
      read depth (d.fill after x) =
        out.map fun found => (fill operand found.1, found.2.fill after x)

variable {after front rest text x : Text} {readable : Bool} {operand : Operand} {c : Char}
variable {d e f : Draft} {used more : Nat} {mark? : Text → Option Text}

/-! ## Around the place -/

/-- The characters of signs are delimiters. -/
theorem isDelimiter_of_isSign (h : isSign c) : isDelimiter c := by
  simp [isDelimiter, h]

/-- No delimiter stands in a word. -/
theorem isWordChar_of_isDelimiter (h : isDelimiter c) : isWordChar c = false := by
  simp only [isDelimiter, isSign, Bool.or_eq_true, List.contains_iff_mem, decide_eq_true_eq] at h
  obtain ((hblank | hsign) | rfl) | rfl := h
  · exact isWordChar_of_isBlank hblank
  · have hall : "=!<>&|".toList.all fun d => !isWordChar d := by decide +kernel
    simpa using List.all_eq_true.1 hall c hsign
  · exact isWordChar_of_mem (by decide)
  · exact isWordChar_of_mem (by decide)

/-- No word and no number goes on with a delimiter. -/
theorem stops_of_isDelimiter (h : ∀ c ∈ text.head?, isDelimiter c) : Stops text := by
  refine fun c hc => ⟨isWordChar_of_isDelimiter (h c hc), ?_, ?_⟩
  all_goals
    rintro rfl
    cases h _ hc

/-- What fills a place begins with no delimiter. -/
theorem Fills.isDelimiter (h : Fills after readable x operand) :
    ∀ c ∈ (x ++ after).head?, isDelimiter c = false := by
  obtain ⟨c, tail, rfl, hc⟩ := h.begins
  rintro _ ⟨rfl⟩
  exact hc

/-- So it does not begin with any one of them. -/
theorem Fills.head?_ne (h : Fills after readable x operand) (hc : Condition.isDelimiter c) :
    (x ++ after).head? ≠ some c := by
  intro hhead
  rw [h.isDelimiter c hhead] at hc
  cases hc

/-- It is not empty. -/
theorem Fills.length_pos (h : Fills after readable x operand) : 0 < x.length := by
  obtain ⟨c, tail, rfl, -⟩ := h.begins
  exact Nat.succ_pos _

/-- Blanks are delimiters. -/
theorem isDelimiter_of_isSpace (h : isSpace c) : isDelimiter c := by
  simp [isDelimiter, isBlank_of_isSpace h]

/-- What fills a place begins with no character of a kind of delimiters. -/
theorem Fills.head?_eq_false (h : Fills after readable x operand) {kind : Char → Bool}
    (hkind : ∀ c, kind c → Condition.isDelimiter c) : ∀ c ∈ (x ++ after).head?, kind c = false := by
  intro c hc
  cases hkindc : kind c with
  | false => rfl
  | true => exact absurd hc (h.head?_ne (hkind c hkindc))

/-- There are no blanks in front of what fills a place. -/
theorem Fills.isSpace (h : Fills after readable x operand) :
    ∀ c ∈ (x ++ after).head?, isSpace c = false :=
  h.head?_eq_false fun _ => isDelimiter_of_isSpace

/-- No part goes on from what is in front of the place into what fills it. -/
theorem Fills.apart (h : Fills after readable x operand) (hne : front ≠ []) (hfront : Clear front) :
    Apart front (x ++ after) where
  begins := fun c hc =>
    ⟨h.isSpace c hc, h.head?_eq_false (fun _ => isDelimiter_of_isSign) c hc⟩
  stops := .inr ⟨front.dropLast, front.getLast hne, (List.dropLast_concat_getLast hne).symm,
    stops_of_isDelimiter fun c hc => hfront.ends c (by
      rw [List.getLast?_eq_some_getLast hne]
      exact hc)⟩

/-- A place may lie behind what is left of the text in front of it. -/
theorem Skips.clear (h : Skips front rest) (hfront : Clear front) : Clear rest := by
  obtain ⟨part, rfl, hpart⟩ := h
  refine ⟨hpart.append_iff.1 hfront.unquoted, fun c hc => hfront.ends c ?_⟩
  rw [List.getLast?_append, Option.mem_def.1 hc]
  rfl

/-! ## What is left -/

/-- A draft is left of itself when nothing has been read. -/
theorem Leaves.refl (h : d.Clear) : Leaves after readable 0 d d where
  clear := h
  places := Nat.zero_add _
  size_le := Nat.le_refl _
  readable := fun _ => rfl

/-- What is left of what is left is left, and the places that were read add up. -/
theorem Leaves.trans (h : Leaves after readable used d e) (h' : Leaves after readable more e f) :
    Leaves after readable (used + more) d f where
  clear := h'.clear
  places := by rw [Nat.add_assoc, h'.places, h.places]
  size_le := Nat.le_trans h'.size_le h.size_le
  readable := fun hread => by rw [h.readable hread, h'.readable hread]

/-- What fills the place is read at once. -/
theorem Leaves.length_fill (h : Leaves after readable used d e) (hx : 0 < x.length) :
    (e.fill after x).length + d.size after ≤ (d.fill after x).length + e.size after := by
  have hplaces := h.places
  cases d <;> cases e <;>
    simp only [Draft.fill, Draft.size, Draft.places, List.length_append] at hplaces ⊢ <;> omega

/-- In front of the place what is skipped leaves the place where it is. -/
theorem Leaves.ahead (h : Skips front rest) (hfront : Clear front) :
    Leaves after readable 0 (.ahead front) (.ahead rest) where
  clear := h.clear hfront
  places := rfl
  size_le := Nat.add_le_add_right h.length_le _
  readable := fun _ => rfl

/-- Behind the place it does not matter what is skipped. -/
theorem Leaves.behind (h : Skips text rest) :
    Leaves after readable 0 (.behind text) (.behind rest) where
  clear := trivial
  places := rfl
  size_le := h.length_le
  readable := fun _ => rfl

/-- Blanks in front may be skipped. -/
theorem Draft.Clear.skipSpace (h : d.Clear) : d.skipSpace.Clear := by
  cases d with
  | ahead front => exact skips_skipSpace.clear h
  | behind text => trivial

/-- The draft without them is left. -/
theorem leaves_skipSpace (h : d.Clear) : Leaves after readable 0 d d.skipSpace := by
  cases d with
  | ahead front => exact .ahead skips_skipSpace h
  | behind text => exact .behind skips_skipSpace

/-- Skipping blanks and filling the place may be done in either order, because no blank is in front
of what fills it. -/
theorem Fills.fill_skipSpace (h : Fills after readable x operand) :
    d.skipSpace.fill after x = skipSpace (d.fill after x) := by
  cases d with
  | ahead front => exact (dropWhile_append_of_head? h.isSpace).symm
  | behind text => rfl

/-! ## Parts -/

section

variable {α β : Type} {places : α → Nat} {fill : Operand → α → β}
variable {read : Text → Option (β × Text)}

/-- Parts are read alike in front of the place and behind it, if what is read off the place itself
is. -/
theorem readsAlike_of_append (given : β → α)
    (hgiven : ∀ operand value, fill operand (given value) = value)
    (hplaces : ∀ value, places (given value) = 0)
    (happend : ∀ {front x operand}, front ≠ [] → Clear front → Fills after readable x operand →
      read (front ++ (x ++ after)) = (read front).map (followedBy (x ++ after)))
    (hplace : ReadsAlike after readable places fill (fun _ => read) (.ahead []))
    (hpasses : ∀ {text value rest}, read text = some (value, rest) → Passes text rest)
    (hd : d.Clear) : ReadsAlike after readable places fill (fun _ => read) d := by
  cases d with
  | behind text =>
      refine ⟨(read text).map fun found => (given found.1, .behind found.2), fun found he => ?_,
        fun x operand depth hx _ => ?_⟩
      · obtain ⟨⟨value, rest⟩, hrest, rfl⟩ := Option.map_eq_some_iff.1 he
        have hpass := hpasses hrest
        exact ⟨(hplaces value).symm ▸ .behind hpass.skips, hpass.length_lt⟩
      · simp [Option.map_map, Function.comp_def, hgiven, Draft.fill]
  | ahead front =>
      by_cases hne : front = []
      · exact hne ▸ hplace
      · refine ⟨(read front).map fun found => (given found.1, .ahead found.2), fun found he => ?_,
          fun x operand depth hx _ => ?_⟩
        · obtain ⟨⟨value, rest⟩, hrest, rfl⟩ := Option.map_eq_some_iff.1 he
          have hpass := hpasses hrest
          exact ⟨(hplaces value).symm ▸ .ahead hpass.skips hd,
            Nat.add_lt_add_right hpass.length_lt _⟩
        · simp only [Draft.fill, happend hne hd hx, Option.map_map, Function.comp_def, hgiven]
          rfl

end

/-! ## Marks -/

/-- Marks are read alike if they are found in front of the place as without it, never where it is
filled, and go past something. -/
theorem readsAlike_unit?
    (happend : ∀ {front x operand}, front ≠ [] → Clear front → Fills after readable x operand →
      mark? (front ++ (x ++ after)) = (mark? front).map (· ++ (x ++ after)))
    (hfill : ∀ {x operand}, Fills after readable x operand → mark? (x ++ after) = none)
    (hpasses : ∀ {text rest}, mark? text = some rest → Passes text rest) (hd : d.Clear) :
    ReadsAlike after readable (fun _ => 0) (fun _ => id) (fun _ => unit? mark?) d := by
  refine readsAlike_of_append id (fun _ _ => rfl) (fun _ => rfl) (fun hne hfront hx => ?_)
    ⟨none, nofun, fun x operand depth hx _ => ?_⟩ (fun h => ?_) hd
  · rw [unit?, unit?, happend hne hfront hx, Option.map_map, Option.map_map]
    rfl
  · exact congrArg (Option.map _) (hfill hx)
  · obtain ⟨rest, hrest, hfound⟩ := Option.map_eq_some_iff.1 h
    cases hfound
    exact hpasses hrest

/-- No sign is read where the place is filled. -/
theorem Fills.sign?_eq_none (h : Fills after readable x operand) {sign : String}
    (hsign : ∃ c tail, sign.toList = c :: tail ∧ Condition.isDelimiter c) :
    sign? sign (x ++ after) = none := by
  obtain ⟨c, tail, hc, hdelimiter⟩ := hsign
  rw [sign?, hc]
  exact strip?_cons_eq_none (h.head?_ne hdelimiter)

section

variable (hd : d.Clear)
include hd

/-- Every `or` is read alike. -/
theorem readsAlike_orMark? :
    ReadsAlike after readable (fun _ => 0) (fun _ => id) (fun _ => unit? orMark?) d :=
  readsAlike_unit? (fun hne hfront hx => (hx.apart hne hfront).orMark?_append)
    (fun hx => mark_eq_none (c := '|') rfl rfl (hx.keyword _ (by decide)) (hx.head?_ne rfl))
    orMark?_passes hd

/-- Every `and` is read alike. -/
theorem readsAlike_andMark? :
    ReadsAlike after readable (fun _ => 0) (fun _ => id) (fun _ => unit? andMark?) d :=
  readsAlike_unit? (fun hne hfront hx => (hx.apart hne hfront).andMark?_append)
    (fun hx => mark_eq_none (c := '&') rfl rfl (hx.keyword _ (by decide)) (hx.head?_ne rfl))
    andMark?_passes hd

/-- Every `not` is read alike. -/
theorem readsAlike_notMark? :
    ReadsAlike after readable (fun _ => 0) (fun _ => id) (fun _ => unit? notMark?) d :=
  readsAlike_unit? (fun hne hfront hx => (hx.apart hne hfront).notMark?_append)
    (fun hx => by
      rw [notMark?, hx.keyword _ (by decide), hx.sign?_eq_none ⟨'!', [], rfl, rfl⟩]
      rfl)
    notMark?_passes hd

/-- A parenthesis is read like a mark. -/
theorem readsAlike_strip? (hc : c = '(' ∨ c = ')') :
    ReadsAlike after readable (fun _ => 0) (fun _ => id) (fun _ => unit? (Text.strip? [c])) d := by
  have hdelimiter : isDelimiter c := by obtain rfl | rfl := hc <;> rfl
  have hquote : [c].all fun c => c ≠ '\'' && c ≠ '"' := by obtain rfl | rfl := hc <;> rfl
  exact readsAlike_unit?
    (fun _ _ hx => strip?_append fun _ hd hmem =>
      hx.head?_ne hdelimiter (List.mem_singleton.1 hmem ▸ hd))
    (fun hx => strip?_cons_eq_none (hx.head?_ne hdelimiter))
    (strip?_passes (List.cons_ne_nil _ _) hquote) hd

end

/-! ## Comparisons and operands -/

/-- The signs of comparisons begin with delimiters. -/
theorem isDelimiter_of_mem_comparisonSigns : ∀ entry ∈ comparisonSigns,
    (entry.1.toList.head?.any isDelimiter) := by
  decide

/-- No comparison begins where the place is filled. -/
theorem Fills.comparison?_eq_none (h : Fills after readable x operand) :
    comparison? (x ++ after) = none := by
  refine List.findSome?_eq_none_iff.2 fun entry hentry => ?_
  obtain ⟨c, hc, hdelimiter⟩ :=
    (Option.any_eq_true _ _).1 (isDelimiter_of_mem_comparisonSigns entry hentry)
  obtain ⟨tail, htail⟩ := List.head?_eq_some_iff.1 hc
  change (sign? entry.1 (x ++ after)).map _ = none
  rw [h.sign?_eq_none ⟨c, tail, htail, hdelimiter⟩, Option.map_none]

/-- A comparison is read off a draft, whatever fills the place, or none is. -/
theorem readsAlike_comparison? (hd : d.Clear) :
    ReadsAlike after readable (fun _ => 0) (fun _ => id) (fun _ => comparison?) d :=
  readsAlike_of_append id (fun _ _ => rfl) (fun _ => rfl)
    (fun hne hfront hx => (hx.apart hne hfront).comparison?_append)
    ⟨none, nofun, fun _ _ _ hx _ => hx.comparison?_eq_none⟩ comparison?_passes hd

/-- Text between quotes that begins in front of the place ends there. -/
theorem Clear.quotedText?_append (hfront : Clear front) (hne : front ≠ []) :
    quotedText? (front ++ text) = (quotedText? front).map (followedBy text) := by
  obtain ⟨c, front, rfl⟩ := List.exists_cons_of_ne_nil hne
  by_cases hc : c = '\'' ∨ c = '"'
  · have hmem := hfront.unquoted.mem hc
    obtain ⟨⟨body, rest⟩, hcut⟩ :=
      Option.ne_none_iff_exists'.1 fun hcut => Text.cut?_eq_none_iff.1 hcut hmem
    obtain ⟨rfl, hbody⟩ := Text.cut?_eq_some_iff.1 hcut
    have hquoted : quotedText? (c :: body ++ [c] ++ rest) = some (.text body, rest) :=
      quotedText?_quoted hc hbody
    rw [List.append_assoc, List.singleton_append, List.cons_append] at hquoted
    rw [hquoted]
    exact Condition.quotedText?_append hquoted
  · obtain ⟨hsingle, hdouble⟩ := not_or.1 hc
    rw [quotedText?_eq_none (by simpa using hsingle) (by simpa using hdouble),
      quotedText?_eq_none (by simpa using hsingle) (by simpa using hdouble)]
    rfl

/-- An operand is read off a draft, what fills the place or another one that does not depend on it,
or none is. -/
theorem readsAlike_operand? (hd : d.Clear) :
    ReadsAlike after readable (fun slot : Option Operand => slot.isNone.toNat)
      (fun operand slot => slot.getD operand) (fun _ => operand?) d := by
  refine readsAlike_of_append some (fun _ _ => rfl) (fun _ => rfl)
    (fun hne hfront hx => (hx.apart hne hfront).operand?_append (hfront.quotedText?_append hne))
    ?_ operand?_passes hd
  cases readable with
  | false => exact ⟨none, nofun, fun _ _ _ hx _ => hx.read⟩
  | true =>
      refine ⟨some (none, .behind after), ?_, fun _ _ _ hx _ => hx.read⟩
      rintro _ ⟨rfl⟩
      exact ⟨⟨trivial, rfl, by simp [Draft.size], nofun⟩, by simp [Draft.size]⟩

end RelQuery.Condition
