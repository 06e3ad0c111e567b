import CallChain.Json.Numeral
import CallChain.Proofs.Decimal.Shortest

/-!
# Numbers written and read back

`Numeral.bytes` is how a numeral is written.  Where it has digits wherever the grammar wants some and
no superfluous zero in front (`WellFormed`), reading finds exactly this numeral and leaves what follows,
as long as that cannot continue a number (`readNumeral?_bytes`).
-/

set_option autoImplicit false

namespace CallChain.Json

open Document

/-- What may follow a value inside a document: nothing, a comma or a closing bracket. -/
def Stops (rest : Bytes) : Prop := ∀ b ∈ rest.head?, b = byte ',' ∨ b = byte ']' ∨ b = 0x7D

/-- What does not continue digits. -/
def NoDigit (rest : Bytes) : Prop := ∀ b ∈ rest.head?, digit? b = none

def digitByte (d : Nat) : UInt8 := UInt8.ofNat (0x30 + d)

def digitBytes (digits : List Nat) : Bytes := digits.map digitByte

namespace Numeral

def fractionBytes : List Nat → Bytes
  | [] => []
  | d :: r => byte '.' :: digitBytes (d :: r)

def exponentBytes : Option (Bool × List Nat) → Bytes
  | none => []
  | some (down, digits) => byte 'e' :: byte (if down then '-' else '+') :: digitBytes digits

/-- How a numeral is written, the sign of its exponent always shown. -/
def bytes (n : Numeral) : Bytes :=
  (if n.negative then [byte '-'] else []) ++
    (digitBytes n.whole ++ (fractionBytes n.fraction ++ exponentBytes n.exponent))

/-- Digits where the grammar wants some, and no superfluous zero in front. -/
structure WellFormed (n : Numeral) : Prop where
  whole : ∀ d ∈ n.whole, d < 10
  nonempty : n.whole ≠ []
  leading : n.whole.head? = some 0 → n.whole.length = 1
  fraction : ∀ d ∈ n.fraction, d < 10
  exponent : ∀ p ∈ n.exponent, p.2 ≠ [] ∧ ∀ d ∈ p.2, d < 10

theorem digit?_digitByte {d : Nat} (hd : d < 10) : digit? (digitByte d) = some d := by
  revert d
  decide

theorem digitByte_ne_minus {d : Nat} (hd : d < 10) : digitByte d ≠ byte '-' := by
  revert d
  decide

section

variable {digits : List Nat} {rest : Bytes}

/-- Digits are taken up to where they end. -/
theorem takeDigits_digitBytes (hdigits : ∀ d ∈ digits, d < 10) (hrest : NoDigit rest) :
    takeDigits (digitBytes digits ++ rest) = (digits, rest) := by
  induction digits with
  | nil =>
    cases rest with
    | nil => rfl
    | cons b r =>
      have hb : digit? b = none := hrest b rfl
      show takeDigits (b :: r) = _
      simp only [takeDigits, hb]
  | cons d digits ih =>
    obtain ⟨hd, hdigits⟩ := List.forall_mem_cons.mp hdigits
    show takeDigits (digitByte d :: (digitBytes digits ++ rest)) = _
    simp only [takeDigits, digit?_digitByte hd, ih hdigits]

theorem takeSomeDigits?_digitBytes (hdigits : ∀ d ∈ digits, d < 10) (hne : digits ≠ [])
    (hrest : NoDigit rest) : takeSomeDigits? (digitBytes digits ++ rest) = some (digits, rest) := by
  unfold takeSomeDigits?
  rw [takeDigits_digitBytes hdigits hrest]
  cases digits with
  | nil => exact absurd rfl hne
  | cons d digits => rfl

theorem Stops.cases_byte {b : UInt8} (hrest : Stops rest) (hb : b ∈ rest.head?) :
    b ≠ byte 'e' ∧ b ≠ byte 'E' ∧ b ≠ byte '.' ∧ digit? b = none := by
  rcases hrest b hb with rfl | rfl | rfl <;> decide

theorem readExponent?_exponentBytes {e : Option (Bool × List Nat)}
    (he : ∀ p ∈ e, p.2 ≠ [] ∧ ∀ d ∈ p.2, d < 10) (hrest : Stops rest) :
    readExponent? (exponentBytes e ++ rest) = some (e, rest) := by
  cases e with
  | none =>
    cases rest with
    | nil => rfl
    | cons b r =>
      obtain ⟨hsmall, hlarge, -, -⟩ := Stops.cases_byte hrest (b := b) rfl
      show readExponent? (b :: r) = _
      simp [readExponent?, hsmall, hlarge]
  | some p =>
    obtain ⟨down, digits⟩ := p
    obtain ⟨hne, hdigits⟩ := he _ rfl
    have hrest' : NoDigit rest := fun b hb => (Stops.cases_byte hrest hb).2.2.2
    have htaken := takeSomeDigits?_digitBytes hdigits hne hrest'
    show readExponent? (byte 'e' :: byte (if down then '-' else '+') ::
      (digitBytes digits ++ rest)) = _
    cases down with
    | true => simp [readExponent?, htaken]
    | false =>
      have hsign : byte '+' ≠ byte '-' := by decide
      simp [readExponent?, htaken, hsign]

/-- What follows the digits of a fraction. -/
theorem head_exponentBytes (e : Option (Bool × List Nat)) (hrest : Stops rest) :
    ∀ b ∈ (exponentBytes e ++ rest).head?, b ≠ byte '.' ∧ digit? b = none := by
  intro b hb
  cases e with
  | none => exact (Stops.cases_byte hrest hb).2.2
  | some p =>
    obtain rfl : byte 'e' = b := Option.some.inj hb
    decide

theorem readFraction?_fractionBytes (hdigits : ∀ d ∈ digits, d < 10)
    (hrest : ∀ b ∈ rest.head?, b ≠ byte '.' ∧ digit? b = none) :
    readFraction? (fractionBytes digits ++ rest) = some (digits, rest) := by
  cases digits with
  | nil =>
    cases rest with
    | nil => rfl
    | cons b r =>
      show readFraction? (b :: r) = _
      simp [readFraction?, (hrest b rfl).1]
  | cons d digits =>
    have htaken := takeSomeDigits?_digitBytes hdigits (List.cons_ne_nil d digits)
      fun b hb => (hrest b hb).2
    show readFraction? (byte '.' :: (digitBytes (d :: digits) ++ rest)) = _
    simp [readFraction?, htaken]

/-- What follows the digits before the point. -/
theorem noDigit_fractionBytes (digits : List Nat)
    (hrest : ∀ b ∈ rest.head?, b ≠ byte '.' ∧ digit? b = none) :
    NoDigit (fractionBytes digits ++ rest) := by
  intro b hb
  cases digits with
  | nil => exact (hrest b hb).2
  | cons d digits =>
    obtain rfl : byte '.' = b := Option.some.inj hb
    decide

end

/-- A well-formed numeral is read as it was written. -/
theorem readNumeral?_bytes {n : Numeral} (hn : n.WellFormed) {rest : Bytes} (hrest : Stops rest) :
    readNumeral? (n.bytes ++ rest) = some (n, rest) := by
  obtain ⟨negative, whole, fraction, exponent⟩ := n
  have htail := head_exponentBytes exponent hrest
  have hwhole := takeSomeDigits?_digitBytes hn.whole hn.nonempty
    (noDigit_fractionBytes fraction htail)
  have hfraction := readFraction?_fractionBytes hn.fraction htail
  have hexponent := readExponent?_exponentBytes hn.exponent hrest
  cases negative with
  | true =>
    show readNumeral? (byte '-' :: (digitBytes whole ++ (fractionBytes fraction ++
      exponentBytes exponent) ++ rest)) = _
    rw [List.append_assoc, List.append_assoc]
    simpa [readNumeral?, hwhole, hfraction, hexponent] using hn.leading
  | false =>
    cases whole with
    | nil => exact absurd rfl hn.nonempty
    | cons d whole =>
      have hsign : digitByte d ≠ byte '-' := digitByte_ne_minus (hn.whole d List.mem_cons_self)
      have hbytes : (⟨false, d :: whole, fraction, exponent⟩ : Numeral).bytes ++ rest =
          digitByte d :: (digitBytes whole ++ (fractionBytes fraction ++ (exponentBytes exponent ++ rest))) := by
        simp [bytes, digitBytes]
      have hwhole' : takeSomeDigits? (digitByte d :: (digitBytes whole ++
          (fractionBytes fraction ++ (exponentBytes exponent ++ rest)))) =
          some (d :: whole, fractionBytes fraction ++ (exponentBytes exponent ++ rest)) := hwhole
      have hzero : d = 0 → whole = [] := by
        intro h
        simpa [h] using hn.leading
      rw [hbytes]
      simpa [readNumeral?, hsign, hwhole', hfraction, hexponent] using hzero

/-- The first byte of a numeral starts no other kind of value. -/
theorem head_bytes {n : Numeral} (hn : n.WellFormed) :
    ∃ b tail, n.bytes = b :: tail ∧
      (b = byte '-' ∨ ∃ d, d < 10 ∧ b = digitByte d) := by
  obtain ⟨negative, whole, fraction, exponent⟩ := n
  cases negative with
  | true => exact ⟨_, _, rfl, .inl rfl⟩
  | false =>
    cases whole with
    | nil => exact absurd rfl hn.nonempty
    | cons d whole => exact ⟨_, _, rfl, .inr ⟨d, hn.whole d List.mem_cons_self, rfl⟩⟩

end Numeral

end CallChain.Json
