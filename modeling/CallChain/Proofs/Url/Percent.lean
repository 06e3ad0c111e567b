import CallChain.Proofs.Text.ByteOrder
import CallChain.Url.Percent
import Mathlib.Data.Bool.AllAny

/-!
# What percent encoding writes

Percent encoding writes `%`, capital hexadecimal digits and the characters that it leaves alone
(`Percent.outside_of_mem_encode`).  No part of a URL encodes the first two, so what is encoded already is
written once more as it is (`Percent.encode_eq_self`).  Decoding the bytes of what was written for a byte
gives the byte back (`Percent.decode_encodeByte`).
-/

set_option autoImplicit false

namespace CallChain

namespace Percent

/-- The characters that stand for a byte when it is encoded. -/
def marks : List Char := "%0123456789ABCDEF".toList

theorem digit_mem_marks {n : Nat} (h : n < 16) : digit n ∈ marks := by
  have hall : ∀ k : Fin 16, digit k ∈ marks := by decide
  exact hall ⟨n, h⟩

theorem mem_marks_of_mem_encodeByte {b : UInt8} {c : Char} (h : c ∈ encodeByte b) : c ∈ marks := by
  have hb : b.toNat < 256 := b.toNat_lt
  rw [encodeByte, List.mem_cons, List.mem_cons, List.mem_singleton] at h
  obtain rfl | rfl | rfl := h
  · decide
  · exact digit_mem_marks (by omega)
  · exact digit_mem_marks (by omega)

/-- A set of characters that leaves `%` and the hexadecimal digits alone. -/
def Stable (set : EncodeSet) : Prop := ∀ c ∈ marks, set c = false

instance (set : EncodeSet) : Decidable (Stable set) :=
  List.decidableBAll (fun c => set c = false) marks

theorem stable_fragment : Stable fragment := by decide

theorem stable_path : Stable path := by decide

theorem stable_userinfo : Stable userinfo := by decide

theorem stable_webQuery : Stable webQuery := by decide

section

variable {set : EncodeSet} {s : List Char}

/-- Nothing that encoding writes would be encoded. -/
theorem outside_of_mem_encode (hset : Stable set) : ∀ c ∈ (encode set s).toList, set c = false := by
  intro c hc
  rw [encode, String.toList_ofList] at hc
  obtain ⟨x, -, hx⟩ := List.mem_flatMap.mp hc
  unfold encodeChar at hx
  split at hx
  · obtain ⟨b, -, hb⟩ := List.mem_flatMap.mp hx
    exact hset c (mem_marks_of_mem_encodeByte hb)
  next houtside =>
    rw [List.mem_singleton.mp hx]
    simpa using houtside

/-- What encoding writes is a mark of a byte or was there. -/
theorem mem_encode {c : Char} (h : c ∈ (encode set s).toList) : c ∈ marks ∨ c ∈ s := by
  rw [encode, String.toList_ofList] at h
  obtain ⟨x, hx, hc⟩ := List.mem_flatMap.mp h
  unfold encodeChar at hc
  split at hc
  · obtain ⟨b, -, hb⟩ := List.mem_flatMap.mp hc
    exact .inl (mem_marks_of_mem_encodeByte hb)
  · rw [List.mem_singleton.mp hc]
    exact .inr hx

theorem toList_encode_eq_self (h : ∀ c ∈ s, set c = false) : (encode set s).toList = s := by
  rw [encode, String.toList_ofList]
  induction s with
  | nil => rfl
  | cons c r ih =>
    obtain ⟨hc, hr⟩ := List.forall_mem_cons.mp h
    have hself : encodeChar set c = [c] := by simp [encodeChar, hc]
    rw [List.flatMap_cons, hself, ih hr]
    rfl

/-- A text of which nothing would be encoded is written as it is. -/
theorem encode_eq_self {t : String} (h : ∀ c ∈ t.toList, set c = false) : encode set t.toList = t :=
  String.toList_inj.mp (toList_encode_eq_self h)

theorem encodeChar_ne_nil (c : Char) : encodeChar set c ≠ [] := by
  unfold encodeChar
  split
  · have hbytes := KeyOrder.encoded_ne_nil c
    cases hencoded : String.utf8EncodeChar c with
    | nil => exact absurd hencoded hbytes
    | cons b bs => simp [encodeByte]
  · exact List.cons_ne_nil c []

theorem toList_encode_eq_nil_iff : (encode set s).toList = [] ↔ s = [] := by
  rw [encode, String.toList_ofList, List.flatMap_eq_nil_iff]
  constructor
  · intro h
    rw [List.eq_nil_iff_forall_not_mem]
    exact fun c hc => encodeChar_ne_nil c (h c hc)
  · rintro rfl
    simp

end

/-! ## Decoding -/

theorem decode_cons_of_ne {a : UInt8} (h : a ≠ 0x25) (r : Bytes) : decode (a :: r) = a :: decode r := by
  match r with
  | [] => simp [decode]
  | [b] => simp [decode]
  | b :: c :: r => rw [decode, if_neg h]

theorem hexValue?_digit {n : Nat} (h : n < 16) :
    Bytes.hexValue? (UInt8.ofNat (digit n).toNat) = some n := by
  have hall : ∀ k : Fin 16, Bytes.hexValue? (UInt8.ofNat (digit k).toNat) = some k := by decide
  exact hall ⟨n, h⟩

/-- A byte that was encoded is decoded to itself. -/
theorem decode_encodeByte (b : UInt8) (r : Bytes) :
    decode ((encodeByte b).flatMap String.utf8EncodeChar ++ r) = b :: decode r := by
  have hb : b.toNat < 256 := b.toNat_lt
  have hascii {n : Nat} (h : n < 16) : (digit n).toNat < 0x80 := by
    have hall : ∀ k : Fin 16, (digit k).toNat < 0x80 := by decide
    exact hall ⟨n, h⟩
  have hbytes : (encodeByte b).flatMap String.utf8EncodeChar =
      [0x25, UInt8.ofNat (digit (b.toNat / 16)).toNat, UInt8.ofNat (digit (b.toNat % 16)).toNat] := by
    simp only [encodeByte, List.flatMap_cons, List.flatMap_nil,
      Bytes.utf8EncodeChar_ascii (hascii (show b.toNat / 16 < 16 by omega)),
      Bytes.utf8EncodeChar_ascii (hascii (show b.toNat % 16 < 16 by omega)),
      Bytes.utf8EncodeChar_ascii (show ('%').toNat < 0x80 by decide)]
    rfl
  have hvalue : Bytes.ofNat (16 * (b.toNat / 16) + b.toNat % 16) = b := by
    rw [Nat.div_add_mod]
    exact UInt8.ofNat_toNat
  rw [hbytes, List.cons_append, List.cons_append, List.cons_append, List.nil_append, decode,
    if_pos rfl, hexValue?_digit (by omega), hexValue?_digit (by omega)]
  dsimp only
  rw [hvalue]

end Percent

end CallChain
