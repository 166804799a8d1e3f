import RelQuery.Text.Utf8

/-!
# Reading the bytes of a text

The bytes of a text are read as its characters (`read_encode`), so that the text that they are is
that text, and so is what is shown for them. Each character has from one to four bytes: its first
byte says how many, and the bounds of the second one leave out no character that has so many.
-/

namespace RelQuery.Utf8

variable {bytes : List UInt8} {text : Text} {n : Nat}

/-! ## One character -/

/-- A byte holds what is below 256. -/
theorem toNat_ofNat (h : n < 256) : (UInt8.ofNat n).toNat = n := by
  rw [UInt8.toNat_ofNat', Nat.mod_eq_of_lt h]

/-- A byte that begins a character by itself. -/
theorem readFrom_whole (h : n < 0x80) :
    readFrom none (UInt8.ofNat n :: bytes) = some (Char.ofNat n) :: readFrom none bytes := by
  rw [readFrom, toNat_ofNat (by omega)]
  simp [step, first, h]

/-- A byte that ends a character. -/
theorem readFrom_last {value low high : Nat} (hlow : low ≤ n) (hhigh : n ≤ high) (h : n < 256) :
    readFrom (some ⟨value, 1, low, high⟩) (UInt8.ofNat n :: bytes) =
      some (Char.ofNat (64 * value + (n - 0x80))) :: readFrom none bytes := by
  rw [readFrom, toNat_ofNat h]
  simp [step, next, hlow, hhigh]

/-- A byte in the middle of a character. -/
theorem readFrom_middle {value needed low high : Nat} (hlow : low ≤ n) (hhigh : n ≤ high)
    (h : n < 256) :
    readFrom (some ⟨value, needed + 2, low, high⟩) (UInt8.ofNat n :: bytes) =
      readFrom (some ⟨64 * value + (n - 0x80), needed + 1, 0x80, 0xBF⟩) bytes := by
  rw [readFrom, toNat_ofNat h]
  simp [step, next, hlow, hhigh]

/-- A byte that begins a character of several bytes. -/
theorem readFrom_first {begun : Begun} (hfirst : first n = ([], some begun)) (h : n < 256) :
    readFrom none (UInt8.ofNat n :: bytes) = readFrom (some begun) bytes := by
  rw [readFrom, toNat_ofNat h, step, hfirst]
  rfl

/-- The first of two bytes. -/
theorem first_two (hlow : 2 ≤ n) (h : n < 32) :
    first (n + 192) = ([], some ⟨n, 1, 0x80, 0xBF⟩) := by
  rw [first, if_neg (by omega), if_neg (by omega), if_pos (by omega), Nat.add_sub_cancel]

/-- The first of three bytes. -/
theorem first_three (h : n < 16) : first (n + 224) =
    ([], some ⟨n, 2, if n = 0 then 0xA0 else 0x80, if n = 13 then 0x9F else 0xBF⟩) := by
  rw [first, if_neg (by omega), if_neg (by omega), if_neg (by omega), if_pos (by omega),
    Nat.add_sub_cancel]
  simp only [Nat.add_eq_right, Nat.reduceEqDiff]

/-- The first of four bytes. -/
theorem first_four (h : n < 5) : first (n + 240) =
    ([], some ⟨n, 3, if n = 0 then 0x90 else 0x80, if n = 4 then 0x8F else 0xBF⟩) := by
  rw [first, if_neg (by omega), if_neg (by omega), if_neg (by omega), if_neg (by omega),
    if_pos (by omega), Nat.add_sub_cancel]
  simp only [Nat.add_eq_right, Nat.reduceEqDiff]

/-- The bytes of a character are read as that character. -/
theorem readFrom_encodeChar (c : Char) :
    readFrom none (String.utf8EncodeChar c ++ bytes) = some c :: readFrom none bytes := by
  have hvalid : c.toNat < 0xD800 ∨ 0xDFFF < c.toNat ∧ c.toNat < 0x110000 := c.valid
  have hchar : Char.ofNat c.toNat = c := Char.ofNat_toNat c
  have hval : c.val.toNat = c.toNat := rfl
  unfold String.utf8EncodeChar
  simp only [hval]
  generalize c.toNat = v at hvalid hchar
  subst hchar
  -- The pieces of the code point in the bytes are put together again.
  split
  · exact readFrom_whole (by omega)
  split
  · have hvalue : 64 * (v / 64 % 32) + (v % 64 + 128 - 0x80) = v := by omega
    rw [List.cons_append, List.cons_append, List.nil_append,
      readFrom_first (first_two (by omega) (by omega)) (by omega),
      readFrom_last (by omega) (by omega) (by omega), hvalue]
  split
  · have hvalue : 64 * (64 * (v / 4096 % 16) + (v / 64 % 64 + 128 - 0x80)) +
        (v % 64 + 128 - 0x80) = v := by omega
    rw [List.cons_append, List.cons_append, List.cons_append, List.nil_append,
      readFrom_first (first_three (by omega)) (by omega),
      readFrom_middle (by split <;> omega) (by split <;> omega) (by omega),
      readFrom_last (by omega) (by omega) (by omega), hvalue]
  · have hvalue : 64 * (64 * (64 * (v / 262144 % 8) + (v / 4096 % 64 + 128 - 0x80)) +
        (v / 64 % 64 + 128 - 0x80)) + (v % 64 + 128 - 0x80) = v := by omega
    rw [List.cons_append, List.cons_append, List.cons_append, List.cons_append, List.nil_append,
      readFrom_first (first_four (by omega)) (by omega),
      readFrom_middle (by split <;> omega) (by split <;> omega) (by omega),
      readFrom_middle (by omega) (by omega) (by omega),
      readFrom_last (by omega) (by omega) (by omega), hvalue]

/-! ## All characters -/

/-- The bytes of a text are read as its characters. -/
theorem read_encode (text : Text) : read (encode text) = text.map some := by
  induction text with
  | nil => rfl
  | cons c text ih =>
      have hrest : readFrom none (text.flatMap String.utf8EncodeChar) = text.map some := ih
      rw [read, encode, List.flatMap_cons, readFrom_encodeChar, hrest, List.map_cons]

/-- The bytes of a text are that text. -/
theorem text?_encode (text : Text) : text? (encode text) = some text := by
  rw [text?, read_encode]
  induction text with
  | nil => rfl
  | cons c text ih =>
      rw [List.map_cons, List.mapM_cons, ih]
      rfl

/-- And that text is shown for them. -/
theorem shown_encode (text : Text) : shown (encode text) = text := by
  rw [shown, read_encode, List.map_map]
  exact List.map_id text

/-- A text has as many bytes as its length in bytes says. -/
theorem length_encode (text : Text) : (encode text).length = Text.utf8Length text := by
  induction text with
  | nil => rfl
  | cons c text ih =>
      rw [encode, List.flatMap_cons, List.length_append, String.length_utf8EncodeChar, ← encode, ih]
      rfl

end RelQuery.Utf8

namespace RelQuery.Text

/-- The lengths of two texts add up. -/
theorem utf8Length_append (left right : Text) :
    utf8Length (left ++ right) = utf8Length left + utf8Length right := by
  simp only [← Utf8.length_encode, Utf8.encode, List.flatMap_append, List.length_append]

end RelQuery.Text
