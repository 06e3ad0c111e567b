import CallChain.Data.SortedMap
import CallChain.Text.Bytes

/-!
# The order of texts and the order of their bytes

A character with a higher code point has the higher bytes: at the first byte in which their encodings
differ.  So texts that are in order character by character are in order byte by byte.
-/

set_option autoImplicit false

namespace CallChain

namespace Bytes

theorem ofText_eq (s : String) : ofText s = s.toList.flatMap String.utf8EncodeChar := by
  rw [ofText, ← String.utf8Encode_toList, List.utf8Encode, List.data_toByteArray]

theorem ofText_ofList (s : List Char) : ofText (String.ofList s) = s.flatMap String.utf8EncodeChar := by
  rw [ofText_eq, String.toList_ofList]

/-- A character of ASCII is one byte. -/
theorem utf8EncodeChar_ascii {c : Char} (h : c.toNat < 0x80) :
    String.utf8EncodeChar c = [UInt8.ofNat c.toNat] := by
  have hsize : c.utf8Size = 1 := by
    rw [Char.utf8Size_eq_one_iff, UInt32.le_iff_toNat_le]
    show c.toNat ≤ 127
    omega
  rw [String.utf8EncodeChar_eq_singleton hsize]
  have hbyte : c.val.toUInt8 = UInt8.ofNat c.toNat := by
    apply UInt8.toNat_inj.mp
    rw [UInt32.toNat_toUInt8, UInt8.toNat_ofNat']
    rfl
  rw [hbyte]

end Bytes

namespace KeyOrder

/-- Bytes are in order at the first place where they differ. -/
theorem cons_lt_cons_of_le {m n : Nat} {x y : Bytes} (hn : n < 256) (hle : m ≤ n)
    (hrest : m = n → x < y) : UInt8.ofNat m :: x < UInt8.ofNat n :: y := by
  rw [List.cons_lt_cons_iff, UInt8.lt_iff_toNat_lt, UInt8.toNat_ofNat', UInt8.toNat_ofNat',
    Nat.mod_eq_of_lt hn, Nat.mod_eq_of_lt (Nat.lt_of_le_of_lt hle hn)]
  rcases Nat.lt_or_eq_of_le hle with hlt | rfl
  · exact .inl hlt
  · exact .inr ⟨rfl, hrest rfl⟩

/-- Behind encodings of two characters, bytes are in the order of the characters. -/
theorem encoded_lt {a b : Char} (h : a.toNat < b.toNat) (x y : Bytes) :
    String.utf8EncodeChar a ++ x < String.utf8EncodeChar b ++ y := by
  have hvalid : b.val.toNat < 1114112 := by
    have := b.valid
    simp only [UInt32.isValidChar, Nat.isValidChar] at this
    omega
  have hval : a.val.toNat < b.val.toNat := h
  unfold String.utf8EncodeChar
  generalize a.val.toNat = m at *
  generalize b.val.toNat = n at *
  dsimp only
  -- A longer encoding has the higher first byte; encodings of one length differ in some digit.
  by_cases hn₁ : n ≤ 127
  · rw [if_pos hn₁, if_pos (by omega)]
    exact cons_lt_cons_of_le (by omega) (by omega) fun heq => by omega
  by_cases hn₂ : n ≤ 2047
  · rw [if_neg hn₁, if_pos hn₂]
    by_cases hm₁ : m ≤ 127
    · rw [if_pos hm₁]
      exact cons_lt_cons_of_le (by omega) (by omega) fun heq => by omega
    · rw [if_neg hm₁, if_pos (by omega)]
      refine cons_lt_cons_of_le (by omega) (by omega) fun hfirst => ?_
      exact cons_lt_cons_of_le (by omega) (by omega) fun hsecond => by omega
  by_cases hn₃ : n ≤ 65535
  · rw [if_neg hn₁, if_neg hn₂, if_pos hn₃]
    by_cases hm₁ : m ≤ 127
    · rw [if_pos hm₁]
      exact cons_lt_cons_of_le (by omega) (by omega) fun heq => by omega
    by_cases hm₂ : m ≤ 2047
    · rw [if_neg hm₁, if_pos hm₂]
      exact cons_lt_cons_of_le (by omega) (by omega) fun heq => by omega
    · rw [if_neg hm₁, if_neg hm₂, if_pos (by omega)]
      refine cons_lt_cons_of_le (by omega) (by omega) fun hfirst => ?_
      refine cons_lt_cons_of_le (by omega) (by omega) fun hsecond => ?_
      exact cons_lt_cons_of_le (by omega) (by omega) fun hthird => by omega
  · rw [if_neg hn₁, if_neg hn₂, if_neg hn₃]
    by_cases hm₁ : m ≤ 127
    · rw [if_pos hm₁]
      exact cons_lt_cons_of_le (by omega) (by omega) fun heq => by omega
    by_cases hm₂ : m ≤ 2047
    · rw [if_neg hm₁, if_pos hm₂]
      exact cons_lt_cons_of_le (by omega) (by omega) fun heq => by omega
    by_cases hm₃ : m ≤ 65535
    · rw [if_neg hm₁, if_neg hm₂, if_pos hm₃]
      exact cons_lt_cons_of_le (by omega) (by omega) fun heq => by omega
    · rw [if_neg hm₁, if_neg hm₂, if_neg hm₃]
      refine cons_lt_cons_of_le (by omega) (by omega) fun hfirst => ?_
      refine cons_lt_cons_of_le (by omega) (by omega) fun hsecond => ?_
      refine cons_lt_cons_of_le (by omega) (by omega) fun hthird => ?_
      exact cons_lt_cons_of_le (by omega) (by omega) fun hfourth => by omega

theorem append_lt_append_iff (first x y : Bytes) : first ++ x < first ++ y ↔ x < y := by
  induction first with
  | nil => rfl
  | cons b rest ih =>
    rw [List.cons_append, List.cons_append, List.cons_lt_cons_iff]
    simp [ih]

theorem encoded_ne_nil (c : Char) : String.utf8EncodeChar c ≠ [] := by
  unfold String.utf8EncodeChar
  dsimp only
  split
  · exact List.cons_ne_nil _ _
  · split
    · exact List.cons_ne_nil _ _
    · split <;> exact List.cons_ne_nil _ _

/-- Characters are in dictionary order exactly if their bytes are. -/
theorem charsBefore_iff (a b : List Char) :
    charsBefore a b = true ↔
      a.flatMap String.utf8EncodeChar < b.flatMap String.utf8EncodeChar := by
  induction a generalizing b with
  | nil =>
    cases b with
    | nil => simp [charsBefore]
    | cons y ys =>
      obtain ⟨first, rest, hfirst⟩ := List.exists_cons_of_ne_nil (encoded_ne_nil y)
      simp [charsBefore, hfirst]
  | cons x xs ih =>
    cases b with
    | nil => simp [charsBefore]
    | cons y ys =>
      rw [charsBefore, List.flatMap_cons, List.flatMap_cons]
      by_cases hxy : x.toNat < y.toNat
      · simp only [hxy, if_true, true_iff]
        exact encoded_lt hxy _ _
      by_cases hyx : y.toNat < x.toNat
      · simp only [hxy, hyx, if_true, if_false, Bool.false_eq_true, false_iff]
        exact List.lt_asymm (encoded_lt hyx _ _)
      · obtain rfl : x = y := Char.toNat_inj.mp (by omega)
        simp only [hxy, if_false, ih]
        exact (append_lt_append_iff _ _ _).symm

end KeyOrder

/-- The order of keys is the order of their bytes. -/
theorem before_iff_bytes_lt (a b : String) :
    KeyOrder.before a b = true ↔ Bytes.ofText a < Bytes.ofText b := by
  rw [Bytes.ofText_eq, Bytes.ofText_eq]
  exact KeyOrder.charsBefore_iff a.toList b.toList

end CallChain
