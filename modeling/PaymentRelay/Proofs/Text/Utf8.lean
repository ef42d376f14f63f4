import PaymentRelay.Text.Symbol
import Mathlib.Tactic.IntervalCases

/-
  Text that is written as bytes is read back, and keeps its order.

  A character is written as one lead byte and up to three others that carry six bits each. The
  reader opens the character at the lead byte (`start_lead`), and every other byte continues it
  (`symbolsAfter_last`, `symbolsAfter_more`), since no character is written longer than it must be
  and none is half of a pair of surrogates. So the symbols of the bytes of a text are its characters
  (`symbols_bytes`). The lead bytes grow with the characters, and the others are the digits of what
is left: the order of texts by their characters is their order by bytes (`bytes_lt`).
-/

namespace PaymentRelay

namespace Utf8

theorem toNat_byte {n : Nat} (small : n < 256) : (UInt8.ofNat n).toNat = n :=
  UInt8.toNat_ofNat_of_lt' small

theorem byte_le {n m : Nat} (hn : n < 256) (hm : m < 256) :
    UInt8.ofNat n ≤ UInt8.ofNat m ↔ n ≤ m := by
  rw [UInt8.le_iff_toNat_le, toNat_byte hn, toNat_byte hm]

/-! Lead bytes of characters of one, two, three and four bytes. -/

theorem start_one {k : Nat} (high : k < 128) : start (.ofNat k) = .inl (.char (.ofNat k)) := by
  have small : UInt8.ofNat k < 0x80 := by
    rw [UInt8.lt_iff_toNat_lt, toNat_byte (by omega)]
    exact high
  rw [start, if_pos small, toNat_byte (by omega)]

theorem start_two {k : Nat} (low : 2 ≤ k) (high : k < 32) :
    start (.ofNat (k + 0xC0)) = .inr ⟨[.ofNat (k + 0xC0)], k, 0, 0x80, 0xBF⟩ := by
  interval_cases k <;> rfl

theorem start_three {k : Nat} (high : k < 16) :
    start (.ofNat (k + 0xE0)) = .inr ⟨[.ofNat (k + 0xE0)], k, 1,
      .ofNat (if k = 0 then 0xA0 else 0x80), .ofNat (if k = 13 then 0x9F else 0xBF)⟩ := by
  interval_cases k <;> rfl

theorem start_four {k : Nat} (high : k < 5) :
    start (.ofNat (k + 0xF0)) = .inr ⟨[.ofNat (k + 0xF0)], k, 2,
      .ofNat (if k = 0 then 0x90 else 0x80), .ofNat (if k = 4 then 0x8F else 0xBF)⟩ := by
  interval_cases k <;> rfl

/-! Bytes that continue a character. -/

section
variable {bytes rest : List UInt8} {bits owed low high k : Nat}

/-- The last byte of a character. -/
theorem symbolsAfter_last (inRange : low ≤ k + 0x80 ∧ k + 0x80 ≤ high) (small : high < 0xC0) :
    symbolsAfter (some ⟨bytes, bits, 0, .ofNat low, .ofNat high⟩) (.ofNat (k + 0x80) :: rest) =
      .char (.ofNat (bits * 64 + k)) :: symbolsAfter none rest := by
  have le : UInt8.ofNat low ≤ .ofNat (k + 0x80) ∧ UInt8.ofNat (k + 0x80) ≤ .ofNat high := by
    rw [byte_le (by omega) (by omega), byte_le (by omega) (by omega)]
    exact inRange
  have six : k + 0x80 - 0x80 = k := by omega
  simp only [symbolsAfter, le, and_self, if_true, Partial.feed,
    toNat_byte (n := k + 0x80) (by omega), six]

/-- A byte that others follow. -/
theorem symbolsAfter_more (inRange : low ≤ k + 0x80 ∧ k + 0x80 ≤ high) (small : high < 0xC0) :
    symbolsAfter (some ⟨bytes, bits, owed + 1, .ofNat low, .ofNat high⟩)
        (.ofNat (k + 0x80) :: rest) =
      symbolsAfter (some ⟨.ofNat (k + 0x80) :: bytes, bits * 64 + k, owed, .ofNat 0x80,
        .ofNat 0xBF⟩) rest := by
  have le : UInt8.ofNat low ≤ .ofNat (k + 0x80) ∧ UInt8.ofNat (k + 0x80) ≤ .ofNat high := by
    rw [byte_le (by omega) (by omega), byte_le (by omega) (by omega)]
    exact inRange
  have six : k + 0x80 - 0x80 = k := by omega
  simp only [symbolsAfter, le, and_self, if_true, Partial.feed,
    toNat_byte (n := k + 0x80) (by omega), six]
  rfl

end

theorem symbolsAfter_encode (c : Char) (rest : List UInt8) :
    symbolsAfter none (String.utf8EncodeChar c ++ rest) = .char c :: symbolsAfter none rest := by
  have scalar : c.val.toNat < 0xD800 ∨ 0xDFFF < c.val.toNat ∧ c.val.toNat < 0x110000 := c.valid
  have here {n : Nat} (eq : n = c.val.toNat) : Char.ofNat n = c := eq ▸ Char.ofNat_toNat c
  simp only [String.utf8EncodeChar]
  -- One case for each number of bytes; the leading bits choose the lead byte.
  split
  · simp only [List.cons_append, List.nil_append]
    rw [symbolsAfter, start_one (by omega), here rfl]
  · split
    · simp only [List.cons_append, List.nil_append]
      rw [symbolsAfter, start_two (by omega) (by omega)]
      have range : 0x80 ≤ c.val.toNat % 64 + 0x80 ∧ c.val.toNat % 64 + 0x80 ≤ 0xBF := by omega
      refine (symbolsAfter_last range (by omega)).trans ?_
      rw [here (by omega)]
    · split
      · simp only [List.cons_append, List.nil_append]
        rw [symbolsAfter, start_three (by omega)]
        refine (symbolsAfter_more (by split <;> split <;> omega) (by split <;> omega)).trans ?_
        refine (symbolsAfter_last (by omega) (by omega)).trans ?_
        rw [here (by omega)]
      · simp only [List.cons_append, List.nil_append]
        rw [symbolsAfter, start_four (by omega)]
        refine (symbolsAfter_more (by split <;> split <;> omega) (by split <;> omega)).trans ?_
        refine (symbolsAfter_more (by omega) (by omega)).trans ?_
        refine (symbolsAfter_last (by omega) (by omega)).trans ?_
        rw [here (by omega)]

/-- The loop that lists an array of bytes lists those that are left after the ones it has passed. -/
theorem loop_toList (b : ByteArray) (i : Nat) (passed : List UInt8) :
    ByteArray.toList.loop b i passed = passed.reverse ++ b.data.toList.drop i := by
  fun_induction ByteArray.toList.loop b i passed with
  | case1 i passed below ih =>
    have inside : i < b.data.toList.length := by simpa using below
    rw [ih, List.drop_eq_getElem_cons (l := b.data.toList) inside]
    simp [ByteArray.get!, below]
  | case2 i passed beyond =>
    rw [List.drop_eq_nil_of_le (by simpa using Nat.le_of_not_lt beyond), List.append_nil]

theorem bytes_eq (s : String) : bytes s = s.toList.flatMap String.utf8EncodeChar := by
  rw [bytes, String.toUTF8_eq_toByteArray, ← String.utf8Encode_toList, List.utf8Encode,
    ByteArray.toList, loop_toList, List.toList_data_toByteArray]
  rfl

theorem symbols_bytes (s : String) : symbols (bytes s) = ofChars s.toList := by
  rw [bytes_eq, symbols]
  induction s.toList with
  | nil => rfl
  | cons c rest ih => rw [List.flatMap_cons, symbolsAfter_encode, ih]; rfl

/-- The number of bytes of a text. -/
theorem length_bytes (s : String) : (bytes s).length = size s.toList := by
  rw [bytes_eq]
  induction s.toList with
  | nil => rfl
  | cons c rest ih =>
    rw [List.flatMap_cons, List.length_append, ih, String.length_utf8EncodeChar, size]

/-! Texts in their order. -/

theorem scalar_lt (c : Char) : c.val.toNat < 0x110000 := by
  rcases c.valid with below | ⟨-, above⟩
  · exact Nat.lt_trans below (by decide)
  · exact above

/-- Bytes are compared at the first place where they differ. -/
theorem cons_byte_lt {n m : Nat} (hn : n < 256) (hm : m < 256) {l l' : List UInt8} :
    UInt8.ofNat n :: l < UInt8.ofNat m :: l' ↔ n < m ∨ n = m ∧ l < l' := by
  rw [List.cons_lt_cons_iff, UInt8.lt_iff_toNat_lt, ← UInt8.toNat_inj, toNat_byte hn, toNat_byte hm]

/-- The bytes of a character come before those of a higher one, whatever follows. -/
theorem encode_lt {c d : Char} (lt : c < d) (rest rest' : List UInt8) :
    String.utf8EncodeChar c ++ rest < String.utf8EncodeChar d ++ rest' := by
  have lower : c.val.toNat < d.val.toNat := lt
  have scalar : d.val.toNat < 0x110000 := scalar_lt d
  have places {v : Nat} (small : v < 0x110000) :
      v / 4096 = v / 64 / 64 ∧ v / 262144 = v / 4096 / 64 ∧ v / 262144 % 8 = v / 262144 := by omega
  have ⟨_, _, _⟩ := places (Nat.lt_trans lower scalar)
  have ⟨_, _, _⟩ := places scalar
  simp only [String.utf8EncodeChar]
  -- One case for each two numbers of bytes. Where they differ the lead bytes are apart; where they
  -- do not, the bytes are the digits of the characters from the highest place down.
  repeat' split
  all_goals
    simp only [List.cons_append, List.nil_append]
    repeat rw [cons_byte_lt (by omega) (by omega)]
    omega

/-- Texts in the order of their characters are in the order of their bytes. -/
theorem bytes_lt {s t : String} (lt : s < t) : bytes s < bytes t := by
  rw [bytes_eq, bytes_eq]
  rw [String.lt_iff] at lt
  generalize s.toList = cs at lt
  generalize t.toList = ds at lt
  induction cs generalizing ds with
  | nil =>
    cases ds with
    | nil => exact absurd lt (List.lt_irrefl _)
    | cons d ds =>
      obtain ⟨b, more, eq⟩ := List.exists_cons_of_ne_nil (String.utf8EncodeChar_ne_nil (c := d))
      rw [List.flatMap_nil, List.flatMap_cons, eq]
      exact List.nil_lt_cons b _
  | cons c cs ih =>
    cases ds with
    | nil => exact absurd lt (List.not_lt_nil _)
    | cons d ds =>
      rw [List.flatMap_cons, List.flatMap_cons]
      rcases List.cons_lt_cons_iff.mp lt with first | ⟨rfl, later⟩
      · exact encode_lt first _ _
      · exact List.append_left_lt (ih ds later)

end Utf8

end PaymentRelay
