import CallChain.Json.Decode
import CallChain.Json.Printer

/-!
# Strings written and read back

A string is written byte by byte: as itself, behind a backslash, or as a code point below U+0020 in
four hexadecimal digits.  `Escaping` names the three cases.  Reading goes through the same cases, first
to find the closing quote and then to resolve the escapes, so every text comes back from what was
written for it.
-/

set_option autoImplicit false

namespace CallChain.Json

open Document

/-- What a byte of a string is written as. -/
inductive Escaping (b : UInt8) : Bytes → Prop where
  | plain (hquote : b ≠ 0x22) (hslash : b ≠ 0x5C) (hcontrol : ¬ b < 0x20) : Escaping b [b]
  | simple {e : UInt8} (hu : e ≠ byte 'u') (hsimple : isSimpleEscape e = true)
      (hvalue : escapedByte? e = some b) : Escaping b [0x5C, e]
  | codePoint {high low : UInt8} (hdigits : (Bytes.hexValue? high).isSome = true ∧
      (Bytes.hexValue? low).isSome = true) (hcontrol : b.toNat < 0x20)
      (hvalue : hexQuad? 0x30 0x30 high low = some b.toNat) (hb : codePoint b.toNat = [b]) :
      Escaping b [0x5C, byte 'u', 0x30, 0x30, high, low]

/-- The digits of a control character, and what they are read as. -/
theorem escaping_control {n : Nat} (hn : n < 0x20) :
    Escaping (UInt8.ofNat n) (Bytes.ofText "\\u00" ++ Bytes.ofText (Bytes.toHex [UInt8.ofNat n])) := by
  have hwritten : Bytes.ofText "\\u00" ++ Bytes.ofText (Bytes.toHex [UInt8.ofNat n]) =
      [0x5C, byte 'u', 0x30, 0x30, byte (Bytes.hexDigit (n / 16)), byte (Bytes.hexDigit (n % 16))] := by
    revert n
    decide +kernel
  have hread : ((Bytes.hexValue? (byte (Bytes.hexDigit (n / 16)))).isSome = true ∧
      (Bytes.hexValue? (byte (Bytes.hexDigit (n % 16)))).isSome = true) ∧
      hexQuad? 0x30 0x30 (byte (Bytes.hexDigit (n / 16))) (byte (Bytes.hexDigit (n % 16))) =
        some (UInt8.ofNat n).toNat ∧
      codePoint (UInt8.ofNat n).toNat = [UInt8.ofNat n] := by
    clear hwritten
    revert n
    decide +kernel
  obtain ⟨hdigits, hvalue, hb⟩ := hread
  have hsmall : (UInt8.ofNat n).toNat < 0x20 := by
    rw [UInt8.toNat_ofNat']
    omega
  rw [hwritten]
  exact .codePoint hdigits hsmall hvalue hb

theorem escaping_escapeByte (b : UInt8) : Escaping b (escapeByte b) := by
  unfold escapeByte
  split
  next h => rw [eq_of_beq h]; exact .simple (by decide) (by decide) (by decide)
  next hquote =>
  split
  next h => rw [eq_of_beq h]; exact .simple (by decide) (by decide) (by decide)
  next hslash =>
  split
  next h => rw [eq_of_beq h]; exact .simple (by decide) (by decide) (by decide)
  split
  next h => rw [eq_of_beq h]; exact .simple (by decide) (by decide) (by decide)
  split
  next h => rw [eq_of_beq h]; exact .simple (by decide) (by decide) (by decide)
  split
  next h => rw [eq_of_beq h]; exact .simple (by decide) (by decide) (by decide)
  split
  next h => rw [eq_of_beq h]; exact .simple (by decide) (by decide) (by decide)
  split
  next h =>
    have hn : b.toNat < 0x20 := h
    have hb : UInt8.ofNat b.toNat = b := UInt8.ofNat_toNat
    have hescaping := escaping_control hn
    rwa [hb] at hescaping
  next h => exact .plain (by simpa using hquote) (by simpa using hslash) h

/-- A written byte is passed over on the way to the closing quote. -/
theorem readString?_escaping {b : UInt8} {written : Bytes} (h : Escaping b written) (rest : Bytes) :
    readString? (written ++ rest) = (readString? rest).map (prepend written) := by
  cases h with
  | plain hquote hslash hcontrol =>
    rw [List.singleton_append, readString?.eq_def]
    simp [hquote, hslash, hcontrol]
  | simple hu hsimple hvalue =>
    rw [List.cons_append, List.singleton_append, readString?.eq_def]
    simp [hu, hsimple]
  | codePoint hdigits hcontrol hvalue hb =>
    have hzero : (Bytes.hexValue? 0x30).isSome = true := by decide
    show readString? (0x5C :: byte 'u' :: 0x30 :: 0x30 :: _ :: _ :: rest) = _
    rw [readString?.eq_def]
    simp [hdigits, hzero]

/-- The bytes between the quotes. -/
def escaped (s : String) : Bytes := (Bytes.ofText s).flatMap escapeByte

theorem readString?_flatMap (bytes rest : Bytes) :
    readString? (bytes.flatMap escapeByte ++ 0x22 :: rest) =
      some (bytes.flatMap escapeByte, rest) := by
  induction bytes with
  | nil => rw [List.flatMap_nil, List.nil_append, readString?.eq_def]; rfl
  | cons b bytes ih =>
    rw [List.flatMap_cons, List.append_assoc, readString?_escaping (escaping_escapeByte b), ih]
    rfl

/-- A string is found again in front of whatever follows it. -/
theorem readString?_escaped (s : String) (rest : Bytes) :
    readString? (escaped s ++ 0x22 :: rest) = some (escaped s, rest) :=
  readString?_flatMap (Bytes.ofText s) rest

/-- What was written for a byte is resolved to the byte. -/
theorem unescape?_escaping {b : UInt8} {written : Bytes} (h : Escaping b written) (rest : Bytes) :
    unescape? (written ++ rest) = (unescape? rest).map (b :: ·) := by
  cases h with
  | plain hquote hslash hcontrol =>
    rw [List.singleton_append, unescape?.eq_def]
    simp [hslash]
  | simple hu hsimple hvalue =>
    rw [List.cons_append, List.singleton_append, unescape?.eq_def]
    simp [hu, hvalue]
  | codePoint hdigits hcontrol hvalue hb =>
    show unescape? (0x5C :: byte 'u' :: 0x30 :: 0x30 :: _ :: _ :: rest) = _
    have hlow : ¬ (0xDC00 ≤ b.toNat ∧ b.toNat ≤ 0xDFFF) := by omega
    have hhigh : ¬ (0xD800 ≤ b.toNat ∧ b.toNat ≤ 0xDBFF) := by omega
    rw [unescape?.eq_def]
    simp only [beq_self_eq_true, if_true, hvalue, hb, if_neg hlow, if_neg hhigh]
    rfl

theorem unescape?_flatMap (bytes : Bytes) : unescape? (bytes.flatMap escapeByte) = some bytes := by
  induction bytes with
  | nil => rw [List.flatMap_nil, unescape?.eq_def]
  | cons b bytes ih =>
    rw [List.flatMap_cons, unescape?_escaping (escaping_escapeByte b), ih]
    rfl

/-- Every text comes back from what was written for it. -/
@[simp] theorem textOf?_escaped (s : String) : textOf? (escaped s) = some s := by
  rw [textOf?, escaped, unescape?_flatMap]
  exact Bytes.text?_ofText s

theorem writeString_eq (s : String) : writeString s = 0x22 :: (escaped s ++ [0x22]) := rfl

end CallChain.Json
