import RelQuery.Text
import RelQuery.Text.Emoji
import RelQuery.Text.Grapheme.Classes

/-!
# Grapheme clusters

A grapheme cluster is what a reader takes for one character: a letter with its marks, a syllable of
Hangul, a flag, a joined emoji, a conjunct of an Indic script. Whether a character belongs to the
cluster before it depends on its class and on what that cluster ends in (`ClusterEnd`), so clusters
are found in one pass from left to right.
-/

namespace RelQuery.Text

/-- The classes of characters that the rules for clusters tell apart. -/
inductive GraphemeClass where
  | other
  | carriageReturn
  | lineFeed
  | control
  /-- A mark that extends the character before it. -/
  | extending
  | joiner
  | regionalIndicator
  /-- A character that stays with the one behind it. -/
  | leading
  | spacingMark
  /-- The consonant at the beginning of a syllable of Hangul. -/
  | initialConsonant
  | vowel
  /-- The consonant at the end of a syllable of Hangul. -/
  | finalConsonant
  /-- A syllable of Hangul without a consonant at the end. -/
  | openSyllable
  /-- A syllable of Hangul with a consonant at the end. -/
  | closedSyllable
  deriving DecidableEq, Repr

namespace GraphemeClass

/-- The class of a character. -/
def ofChar (c : Char) : GraphemeClass :=
  let code := c.toNat
  if c = '\r' then carriageReturn
  else if c = '\n' then lineFeed
  else if code = 0x200D then joiner
  else if isRegionalIndicator c then regionalIndicator
  else if (0x1100 ≤ code ∧ code ≤ 0x115F) ∨ (0xA960 ≤ code ∧ code ≤ 0xA97C) then initialConsonant
  else if (0x1160 ≤ code ∧ code ≤ 0x11A7) ∨ (0xD7B0 ≤ code ∧ code ≤ 0xD7C6) then vowel
  else if (0x11A8 ≤ code ∧ code ≤ 0x11FF) ∨ (0xD7CB ≤ code ∧ code ≤ 0xD7FB) then finalConsonant
  else if 0xAC00 ≤ code ∧ code ≤ 0xD7A3 then
    if (code - 0xAC00) % 28 = 0 then openSyllable else closedSyllable
  else if inRanges code controlRanges then control
  else if inRanges code extendRanges then extending
  else if inRanges code spacingMarkRanges then spacingMark
  else if inRanges code prependRanges then leading
  else other

/-- Controls and line ends stand alone. -/
def isAlone : GraphemeClass → Bool
  | carriageReturn | lineFeed | control => true
  | _ => false

/-- Whether the parts of Hangul join to one syllable. -/
def joinsSyllable : GraphemeClass → GraphemeClass → Bool
  | initialConsonant, initialConsonant | initialConsonant, vowel
  | initialConsonant, openSyllable | initialConsonant, closedSyllable
  | openSyllable, vowel | openSyllable, finalConsonant
  | vowel, vowel | vowel, finalConsonant
  | closedSyllable, finalConsonant | finalConsonant, finalConsonant => true
  | _, _ => false

end GraphemeClass

/-- How far a conjunct has come at the end of a cluster. -/
inductive Conjunct where
  | none
  /-- A consonant, maybe with marks. -/
  | consonant
  /-- A consonant with a linker among its marks: another consonant joins it. -/
  | linked
  deriving DecidableEq, Repr

/-- How far a joined emoji has come at the end of a cluster. -/
inductive Pictograph where
  | none
  /-- A pictograph, maybe with marks. -/
  | shown
  /-- A pictograph and a joiner: another pictograph joins it. -/
  | joining
  deriving DecidableEq, Repr

/-- What a cluster ends in, as far as the place of the next character depends on it. -/
structure ClusterEnd where
  last : GraphemeClass
  /-- The last character is the first letter of a flag. -/
  halfFlag : Bool
  pictograph : Pictograph
  conjunct : Conjunct
  deriving DecidableEq, Repr

namespace ClusterEnd

/-- Whether a character belongs to the cluster that ends so. -/
def takes (before : ClusterEnd) (c : Char) : Bool :=
  let next := GraphemeClass.ofChar c
  if before.last.isAlone || next.isAlone then
    before.last = .carriageReturn && next = .lineFeed
  else
    before.last.joinsSyllable next || next = .extending || next = .joiner || next = .spacingMark ||
      before.last = .leading ||
      (before.conjunct = .linked && inRanges c.toNat conjunctConsonantRanges) ||
      (before.pictograph = .joining && inRanges c.toNat pictographRanges) ||
      (before.halfFlag && next = .regionalIndicator)

/-- The state of a conjunct behind one more character. -/
def conjunctAfter (before : Conjunct) (c : Char) : Conjunct :=
  if inRanges c.toNat conjunctConsonantRanges then .consonant
  else if before = .none then .none
  else if inRanges c.toNat conjunctLinkerRanges then .linked
  else if c.toNat = 0x200D ∨ (c.toNat ≠ 0x200C ∧ inRanges c.toNat extendRanges) then before
  else .none

/-- The state of a joined emoji behind one more character. -/
def pictographAfter (before : Pictograph) (c : Char) : Pictograph :=
  if inRanges c.toNat pictographRanges then .shown
  else if before ≠ .shown then .none
  else if c.toNat = 0x200D then .joining
  else if inRanges c.toNat extendRanges then .shown
  else .none

/-- The end behind one more character, which may begin a new cluster. -/
def after (before : ClusterEnd) (c : Char) : ClusterEnd where
  last := .ofChar c
  halfFlag := isRegionalIndicator c && !before.halfFlag
  pictograph := pictographAfter before.pictograph c
  conjunct := conjunctAfter before.conjunct c

/-- The end of no cluster. -/
def start : ClusterEnd := ⟨.control, false, .none, .none⟩

end ClusterEnd

/-- What of a text still belongs to the cluster that ends so, and the clusters behind it. -/
def clustersAfter (before : ClusterEnd) : Text → Text × List Text
  | [] => ([], [])
  | c :: text =>
      let (cluster, clusters) := clustersAfter (before.after c) text
      if before.takes c then (c :: cluster, clusters) else ([], (c :: cluster) :: clusters)

/-- The grapheme clusters of a text. -/
def graphemes (text : Text) : List Text :=
  (clustersAfter .start text).2

/-- The cluster before and the clusters behind are the text. -/
theorem clustersAfter_text (before : ClusterEnd) (text : Text) :
    (clustersAfter before text).1 ++ (clustersAfter before text).2.flatten = text := by
  induction text generalizing before with
  | nil => rfl
  | cons c text ih =>
    have h := ih (before.after c)
    by_cases ht : before.takes c <;> simp [clustersAfter, ht, h]

/-- No cluster is empty. -/
theorem ne_nil_of_mem_clustersAfter {before : ClusterEnd} {text cluster : Text}
    (h : cluster ∈ (clustersAfter before text).2) : cluster ≠ [] := by
  induction text generalizing before with
  | nil => simp [clustersAfter] at h
  | cons c text ih =>
    by_cases ht : before.takes c
    · simp only [clustersAfter, ht, if_true] at h
      exact ih h
    · simp only [clustersAfter, ht, Bool.false_eq_true, if_false, List.mem_cons] at h
      cases h with
      | inl he => simp [he]
      | inr hm => exact ih hm

end RelQuery.Text
