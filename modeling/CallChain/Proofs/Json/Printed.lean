import CallChain.Json.Printer
import CallChain.Proofs.Json.Numerals
import CallChain.Proofs.Text.ByteOrder
import Mathlib.Algebra.Group.Int.Defs

/-!
# The numbers that are printed

A whole number and a double are printed as the bytes of a numeral each, `Numeral.ofInt` and
`Numeral.ofDouble`.  The first is the numeral of the same number.  The second need not be read as the
same double, but it is read as some double: its digits fit the significand, and `scaled_shortest` keeps
the scaling from overflowing.
-/

set_option autoImplicit false

namespace CallChain.Json

open Document
open Decimal (shortest)

theorem ofText_append (s t : String) : Bytes.ofText (s ++ t) = Bytes.ofText s ++ Bytes.ofText t := by
  unfold Bytes.ofText
  rw [String.toByteArray_append]
  simp

/-- The digit a character stands for. -/
def charDigit (c : Char) : Nat := c.toNat - 0x30

theorem charDigit_lt {c : Char} (hc : c.isDigit = true) : charDigit c < 10 := by
  have h : c.val ≤ '9'.val := by
    simp only [Char.isDigit, Bool.and_eq_true, decide_eq_true_eq] at hc
    exact hc.2
  have hn : c.toNat ≤ 57 := h
  unfold charDigit
  omega

theorem utf8EncodeChar_digit {c : Char} (hc : c.isDigit = true) :
    String.utf8EncodeChar c = [digitByte (charDigit c)] := by
  simp only [Char.isDigit, Bool.and_eq_true, decide_eq_true_eq] at hc
  have hlow : 48 ≤ c.toNat := hc.1
  have hhigh : c.toNat ≤ 57 := hc.2
  rw [Bytes.utf8EncodeChar_ascii (by omega), digitByte, charDigit, Nat.add_sub_cancel' hlow]

/-- Characters that are digits are written as digits. -/
theorem ofText_ofList_digits {cs : List Char} (hcs : ∀ c ∈ cs, c.isDigit = true) :
    Bytes.ofText (String.ofList cs) = digitBytes (cs.map charDigit) := by
  rw [Bytes.ofText_ofList]
  induction cs with
  | nil => rfl
  | cons c cs ih =>
    obtain ⟨hc, hcs⟩ := List.forall_mem_cons.mp hcs
    rw [List.flatMap_cons, utf8EncodeChar_digit hc, ih hcs]
    rfl

/-- The decimal digits of a number. -/
def digitsOf (n : Nat) : List Nat := (Nat.toDigits 10 n).map charDigit

section

variable {n : Nat}

theorem isDigit_of_mem_toDigits {c : Char} (hc : c ∈ Nat.toDigits 10 n) : c.isDigit = true :=
  Nat.isDigit_of_mem_toDigits (by omega) (Nat.le_refl 10) hc

theorem lt_of_mem_digitsOf : ∀ d ∈ digitsOf n, d < 10 := by
  intro d hd
  obtain ⟨c, hc, rfl⟩ := List.mem_map.mp hd
  exact charDigit_lt (isDigit_of_mem_toDigits hc)

theorem digitsOf_ne_nil : digitsOf n ≠ [] := by
  unfold digitsOf
  rw [ne_eq, List.map_eq_nil_iff]
  exact Nat.toDigits_ne_nil

theorem ofText_repr : Bytes.ofText n.repr = digitBytes (digitsOf n) := by
  rw [Nat.repr_eq_ofList_toDigits]
  exact ofText_ofList_digits fun c hc => isDigit_of_mem_toDigits hc

theorem length_digitsOf_le {k : Nat} (hk : 0 < k) : (digitsOf n).length ≤ k ↔ n < 10 ^ k := by
  unfold digitsOf
  rw [List.length_map]
  exact Nat.length_toDigits_le_iff (by omega) hk

/-- A positive number does not start with a zero. -/
theorem head?_digitsOf (hn : 0 < n) : (digitsOf n).head? ≠ some 0 := by
  induction n using Nat.strongRecOn with
  | ind n ih =>
    by_cases hsmall : n < 10
    · have hdigit : ∀ n < 10, 0 < n → (digitsOf n).head? ≠ some 0 := by decide +kernel
      exact hdigit n hsmall hn
    · have hsplit : Nat.toDigits 10 (n / 10) ++ Nat.toDigits 10 (n % 10) = Nat.toDigits 10 n := by
        rw [Nat.toDigits_append_toDigits (by omega) (by omega) (by omega), Nat.div_add_mod]
      have hdigits : digitsOf n = digitsOf (n / 10) ++ digitsOf (n % 10) := by
        unfold digitsOf
        rw [← hsplit, List.map_append]
      have hhead := ih (n / 10) (by omega) (by omega)
      rw [hdigits, List.head?_append]
      cases hd : (digitsOf (n / 10)).head? with
      | none => exact absurd (List.head?_eq_none_iff.mp hd) digitsOf_ne_nil
      | some d =>
        rw [hd] at hhead
        exact hhead

end

namespace Numeral

/-- What digits are worth behind a number. -/
def gathered (acc : Nat) (digits : List Nat) : Nat := digits.foldl (fun acc d => acc * 10 + d) acc

theorem gathered_append (acc : Nat) (digits digits' : List Nat) :
    gathered acc (digits ++ digits') = gathered (gathered acc digits) digits' :=
  List.foldl_append

theorem le_gathered (acc : Nat) (digits : List Nat) : acc ≤ gathered acc digits := by
  induction digits generalizing acc with
  | nil => exact Nat.le_refl acc
  | cons d digits ih =>
    refine Nat.le_trans ?_ (ih (acc * 10 + d))
    omega

theorem gathered_digitsOf (n : Nat) : gathered 0 (digitsOf n) = n := by
  unfold gathered digitsOf
  rw [List.foldl_map]
  have hdigits : Nat.ofDigitChars 10 (Nat.toDigits 10 n) 0 = n := Nat.ofDigitChars_ten_toDigits
  rw [Nat.ofDigitChars_eq_foldl] at hdigits
  simp only [Nat.mul_comm 10] at hdigits
  exact hdigits

theorem gathered_replicate (acc k : Nat) : gathered acc (List.replicate k 0) = acc * 10 ^ k := by
  induction k generalizing acc with
  | zero => simp [gathered]
  | succ k ih =>
    rw [List.replicate_succ]
    show gathered (acc * 10 + 0) (List.replicate k 0) = _
    rw [ih, Nat.pow_succ]
    grind

/-- Digits that are worth less than the limit are all gathered. -/
theorem gather_eq {acc : Nat} {digits : List Nat} (h : gathered acc digits < significandLimit) :
    gather acc digits = (gathered acc digits, []) := by
  induction digits generalizing acc with
  | nil => rfl
  | cons d digits ih =>
    have hrest : gathered (acc * 10 + d) digits < significandLimit := h
    have hnext : acc * 10 + d < significandLimit := Nat.lt_of_le_of_lt (le_gathered _ digits) hrest
    rw [gather, if_pos hnext]
    exact ih hrest

/-- Scaling down never fails. -/
theorem isSome_scale_of_neg (fuel : Nat) {x : Binary64} {e : Int} (he : e < 0) :
    (scale fuel x e).isSome = true := by
  induction fuel generalizing x e with
  | zero => rfl
  | succ fuel ih =>
    have hdown : ¬ 0 ≤ e := by omega
    unfold scale
    rw [if_neg hdown, if_neg hdown]
    split
    · rfl
    · split
      · rfl
      · apply ih
        unfold greatestPower at *
        omega

theorem isSome_scaled_of_neg {negative : Bool} {significand : Nat} {e : Int} (he : e < 0) :
    (scaled negative significand e).isSome = true := by
  unfold scaled
  rw [Option.isSome_map]
  exact isSome_scale_of_neg 8 he

/-- The numeral of a whole number. -/
def ofInt (n : Int) : Numeral := ⟨decide (n < 0), digitsOf n.natAbs, [], none⟩

theorem ofText_int (n : Int) : Bytes.ofText (toString n) = (ofInt n).bytes := by
  cases n with
  | ofNat m =>
    show Bytes.ofText m.repr = _
    rw [ofText_repr]
    simp [ofInt, bytes, fractionBytes, exponentBytes]
  | negSucc m =>
    show Bytes.ofText ("-" ++ (m + 1).repr) = _
    rw [ofText_append, ofText_repr]
    simp [ofInt, bytes, fractionBytes, exponentBytes]
    rfl

theorem wellFormed_ofInt (n : Int) : (ofInt n).WellFormed where
  whole := lt_of_mem_digitsOf
  nonempty := digitsOf_ne_nil
  leading := by
    intro hzero
    show (digitsOf n.natAbs).length = 1
    cases Nat.eq_zero_or_pos n.natAbs with
    | inl hn =>
      rw [hn]
      decide
    | inr hpos => exact absurd hzero (head?_digitsOf hpos)
  fraction := by
    intro d hd
    cases hd
  exponent := by
    intro p hp
    cases hp

/-- A whole number that fits 64 bits, signed or unsigned, is read as itself. -/
theorem value?_ofInt {n : Int} (hlow : -2 ^ 63 ≤ n) (hhigh : n < 2 ^ 64) :
    (ofInt n).value? = some (.int n) := by
  have hgather : gather 0 (digitsOf n.natAbs) = (n.natAbs, []) := by
    have hlimit : gathered 0 (digitsOf n.natAbs) < significandLimit := by
      rw [gathered_digitsOf]
      show n.natAbs < 2 ^ 64
      omega
    rw [gather_eq hlimit, gathered_digitsOf]
  unfold value? ofInt
  dsimp only
  rw [hgather, if_pos ⟨rfl, rfl, rfl⟩]
  by_cases hn : n < 0
  · have hbound : n.natAbs ≠ 0 ∧ n.natAbs ≤ Nat.pow 2 63 := by
      rw [Nat.pow_eq]
      omega
    have habs : -(n.natAbs : Int) = n := by omega
    simp only [hn, decide_true, Bool.not_true, Bool.false_eq_true, if_false, if_pos hbound, habs]
  · have habs : (n.natAbs : Int) = n := by omega
    simp only [hn, decide_false, Bool.not_false, if_true, habs]

/-- The numeral of a positive decimal. -/
def ofDecimal (negative : Bool) (d : Decimal) : Numeral :=
  let digits := digitsOf d.digits
  let lead : Int := d.exponent + digits.length - 1
  if -5 ≤ lead ∧ lead < 16 then
    if 0 ≤ d.exponent then
      ⟨negative, digits ++ List.replicate d.exponent.toNat 0, [0], none⟩
    else if 0 ≤ lead then
      ⟨negative, digits.take (lead.toNat + 1), digits.drop (lead.toNat + 1), none⟩
    else ⟨negative, [0], List.replicate ((-lead).toNat - 1) 0 ++ digits, none⟩
  else ⟨negative, digits.take 1, digits.drop 1, some (decide (lead < 0), digitsOf lead.natAbs)⟩

/-- The numeral of a double. -/
def ofDouble (x : Binary64) : Numeral :=
  if (⟨x.magnitude⟩ : Binary64).isZero then ⟨x.isNegative, [0], [0], none⟩
  else ofDecimal x.isNegative (shortest ⟨x.magnitude⟩)

theorem fractionBytes_eq {digits : List Nat} (h : digits ≠ []) :
    fractionBytes digits = byte '.' :: digitBytes digits := by
  cases digits with
  | nil => exact absurd rfl h
  | cons d digits => rfl

/-- The exponent of a printed number. -/
theorem ofText_exponent (lead : Int) :
    Bytes.ofText "e" ++ Bytes.ofText (if 0 ≤ lead then numberFormat.plus ++ toString lead.toNat
      else "-" ++ toString (-lead).toNat) =
    exponentBytes (some (decide (lead < 0), digitsOf lead.natAbs)) := by
  by_cases h : 0 ≤ lead
  · have hsign : decide (lead < 0) = false := decide_eq_false (by omega)
    have habs : lead.toNat = lead.natAbs := by omega
    rw [if_pos h, ofText_append, habs, hsign]
    show _ ++ (_ ++ Bytes.ofText (lead.natAbs).repr) = _
    rw [ofText_repr]
    rfl
  · have hsign : decide (lead < 0) = true := decide_eq_true (by omega)
    have habs : (-lead).toNat = lead.natAbs := by omega
    rw [if_neg h, ofText_append, habs, hsign]
    show _ ++ (_ ++ Bytes.ofText (lead.natAbs).repr) = _
    rw [ofText_repr]
    rfl

/-- Digits around a point. -/
theorem ofText_point {a b : List Char} (ha : ∀ c ∈ a, c.isDigit = true)
    (hb : ∀ c ∈ b, c.isDigit = true) (hne : b ≠ []) :
    Bytes.ofText (String.ofList a ++ "." ++ String.ofList b) =
      digitBytes (a.map charDigit) ++ fractionBytes (b.map charDigit) := by
  have hne' : b.map charDigit ≠ [] := by simpa using hne
  rw [ofText_append, ofText_append, ofText_ofList_digits ha, ofText_ofList_digits hb,
    fractionBytes_eq hne', List.append_assoc]
  rfl

theorem ofList_point (a b : List Char) :
    String.ofList (a ++ '.' :: b) = String.ofList a ++ "." ++ String.ofList b := by
  rw [← List.singleton_append, String.ofList_append, String.ofList_append, String.append_assoc]

theorem isDigit_of_mem_replicate {k : Nat} : ∀ c ∈ List.replicate k '0', c.isDigit = true := by
  intro c hc
  rw [List.eq_of_mem_replicate hc]
  rfl

/-- The bytes of a numeral after its sign. -/
def unsigned (n : Numeral) : Bytes :=
  digitBytes n.whole ++ (fractionBytes n.fraction ++ exponentBytes n.exponent)

/-- Digits around a point, wherever the exponent puts it. -/
theorem ofText_positional {cs : List Char} (hdigits : ∀ c ∈ cs, c.isDigit = true) (hne : cs ≠ [])
    (negative : Bool) {exponent lead : Int} (hlead : exponent + (cs.length : Int) - 1 = lead) :
    Bytes.ofText
      (if 0 ≤ exponent then
        String.ofList (cs ++ List.replicate exponent.toNat '0') ++ numberFormat.whole
      else if 0 ≤ lead then
        String.ofList (cs.take (lead.toNat + 1) ++ '.' :: cs.drop (lead.toNat + 1))
      else "0." ++ String.ofList (List.replicate ((-lead).toNat - 1) '0' ++ cs)) =
    unsigned
      (if 0 ≤ exponent then
        ⟨negative, cs.map charDigit ++ List.replicate exponent.toNat 0, [0], none⟩
      else if 0 ≤ lead then
        ⟨negative, (cs.map charDigit).take (lead.toNat + 1), (cs.map charDigit).drop (lead.toNat + 1),
          none⟩
      else ⟨negative, [0], List.replicate ((-lead).toNat - 1) 0 ++ cs.map charDigit, none⟩) := by
  have hzero : ∀ c ∈ ['0'], c.isDigit = true := List.forall_mem_singleton.mpr rfl
  by_cases hwhole : 0 ≤ exponent
  · rw [if_pos hwhole, if_pos hwhole]
    have hpoint : String.ofList (cs ++ List.replicate exponent.toNat '0') ++ numberFormat.whole =
        String.ofList (cs ++ List.replicate exponent.toNat '0') ++ "." ++ String.ofList ['0'] := by
      rw [String.append_assoc]
      rfl
    have hall : ∀ c ∈ cs ++ List.replicate exponent.toNat '0', c.isDigit = true :=
      List.forall_mem_append.mpr ⟨hdigits, isDigit_of_mem_replicate⟩
    rw [hpoint, ofText_point hall hzero (List.cons_ne_nil _ _), List.map_append, List.map_replicate]
    simp [unsigned, exponentBytes, charDigit]
  rw [if_neg hwhole, if_neg hwhole]
  by_cases hinside : 0 ≤ lead
  · rw [if_pos hinside, if_pos hinside]
    have hdrop : cs.drop (lead.toNat + 1) ≠ [] := by
      rw [ne_eq, List.drop_eq_nil_iff]
      omega
    rw [ofList_point, ofText_point (fun c hc => hdigits c (List.mem_of_mem_take hc))
      (fun c hc => hdigits c (List.mem_of_mem_drop hc)) hdrop, List.map_take, List.map_drop]
    simp [unsigned, exponentBytes]
  · rw [if_neg hinside, if_neg hinside]
    have hpoint : "0." ++ String.ofList (List.replicate ((-lead).toNat - 1) '0' ++ cs) =
        String.ofList ['0'] ++ "." ++ String.ofList (List.replicate ((-lead).toNat - 1) '0' ++ cs) :=
      rfl
    have hall : ∀ c ∈ List.replicate ((-lead).toNat - 1) '0' ++ cs, c.isDigit = true :=
      List.forall_mem_append.mpr ⟨isDigit_of_mem_replicate, hdigits⟩
    have hfraction : List.replicate ((-lead).toNat - 1) '0' ++ cs ≠ [] := by simp [hne]
    rw [hpoint, ofText_point hzero hall hfraction, List.map_append, List.map_replicate]
    simp [unsigned, exponentBytes, charDigit]

/-- One digit before the point, and an exponent. -/
theorem ofText_scientific (negative : Bool) {d : Decimal} {lead : Int}
    (hlead : d.exponent + ((Nat.toDigits 10 d.digits).length : Int) - 1 = lead)
    (hscientific : ¬ (-5 ≤ lead ∧ lead < 16)) :
    Bytes.ofText (numberFormat.render d) =
      unsigned ⟨negative, (digitsOf d.digits).take 1, (digitsOf d.digits).drop 1,
        some (decide (lead < 0), digitsOf lead.natAbs)⟩ := by
  have hdigits : ∀ c ∈ Nat.toDigits 10 d.digits, c.isDigit = true :=
    fun c hc => isDigit_of_mem_toDigits hc
  have hne : Nat.toDigits 10 d.digits ≠ [] := Nat.toDigits_ne_nil
  unfold NumberFormat.render unsigned
  dsimp only
  rw [hlead, ← ofText_exponent lead, digitsOf]
  show Bytes.ofText (if -5 ≤ lead ∧ lead < 16 then _ else _) = _
  rw [if_neg hscientific]
  generalize (if 0 ≤ lead then numberFormat.plus ++ toString lead.toNat
    else "-" ++ toString (-lead).toNat) = exponent
  generalize Nat.toDigits 10 d.digits = cs at hdigits hne
  cases cs with
  | nil => exact absurd rfl hne
  | cons c cs =>
    obtain ⟨hc, hcs⟩ := List.forall_mem_cons.mp hdigits
    have hsingle : ∀ a ∈ [c], a.isDigit = true := by simpa using hc
    have hchar : String.singleton c = String.ofList [c] := by simp
    cases cs with
    | nil =>
      show Bytes.ofText (String.singleton c ++ "e" ++ exponent) = _
      rw [ofText_append, ofText_append, hchar, ofText_ofList_digits hsingle]
      simp [fractionBytes]
    | cons c' cs =>
      show Bytes.ofText (String.singleton c ++ "." ++ String.ofList (c' :: cs) ++ "e" ++ exponent) = _
      rw [ofText_append, ofText_append, hchar, ofText_point hsingle hcs (List.cons_ne_nil _ _)]
      simp

/-- A positive decimal is printed as its numeral is written. -/
theorem ofText_render (negative : Bool) (d : Decimal) :
    Bytes.ofText (numberFormat.render d) = unsigned (ofDecimal negative d) := by
  have hlength : (digitsOf d.digits).length = (Nat.toDigits 10 d.digits).length := List.length_map _
  generalize hlead : d.exponent + ((Nat.toDigits 10 d.digits).length : Int) - 1 = lead
  unfold ofDecimal
  dsimp only
  rw [hlength, hlead]
  by_cases hpositional : -5 ≤ lead ∧ lead < 16
  · have hrender := ofText_positional (fun c hc => isDigit_of_mem_toDigits hc) Nat.toDigits_ne_nil
      negative hlead
    unfold NumberFormat.render
    dsimp only
    rw [hlead, if_pos hpositional]
    show Bytes.ofText (if -5 ≤ lead ∧ lead < 16 then _ else _) = _
    rw [if_pos hpositional]
    exact hrender
  · rw [if_neg hpositional]
    exact ofText_scientific negative hlead hpositional

theorem negative_ofDecimal (negative : Bool) (d : Decimal) :
    (ofDecimal negative d).negative = negative := by
  unfold ofDecimal
  dsimp only
  repeat' split
  all_goals rfl

/-- A double is printed as its numeral is written. -/
theorem ofText_doubleText (x : Binary64) : Bytes.ofText (doubleText x) = (ofDouble x).bytes := by
  have hsign (b : Bool) : Bytes.ofText (if b then "-" else "") = if b then [byte '-'] else [] := by
    cases b <;> rfl
  unfold doubleText ofDouble
  dsimp only
  split
  · rw [ofText_append, ofText_append, hsign, List.append_assoc]
    rfl
  · rw [ofText_append, hsign, ofText_render x.isNegative, bytes, negative_ofDecimal, unsigned]

section

variable {negative : Bool} {d : Decimal}

theorem wellFormed_ofDecimal (hpos : 0 < d.digits) : (ofDecimal negative d).WellFormed := by
  have hdigits : ∀ x ∈ digitsOf d.digits, x < 10 := lt_of_mem_digitsOf
  have hne : digitsOf d.digits ≠ [] := digitsOf_ne_nil
  have hhead : (digitsOf d.digits).head? ≠ some 0 := head?_digitsOf hpos
  have hzeros (k : Nat) : ∀ x ∈ List.replicate k 0, x < 10 := by
    intro x hx
    rw [List.eq_of_mem_replicate hx]
    omega
  unfold ofDecimal
  dsimp only
  generalize digitsOf d.digits = digits at *
  -- the first digit is that of the number, however the digits are distributed
  have hfront {front : List Nat} (h : front.head? = digits.head?) :
      front.head? = some 0 → front.length = 1 := by
    intro hzero
    rw [h] at hzero
    exact absurd hzero hhead
  cases digits with
  | nil => exact absurd rfl hne
  | cons x digits =>
    split
    · split
      · exact ⟨List.forall_mem_append.mpr ⟨hdigits, hzeros _⟩, List.cons_ne_nil _ _, hfront rfl,
          by simp, by simp⟩
      · split
        · exact ⟨fun y hy => hdigits y (List.mem_of_mem_take hy), List.cons_ne_nil _ _, hfront rfl,
            fun y hy => hdigits y (List.mem_of_mem_drop hy), by simp⟩
        · exact ⟨by simp, List.cons_ne_nil _ _, fun _ => rfl,
            List.forall_mem_append.mpr ⟨hzeros _, hdigits⟩, by simp⟩
    · refine ⟨fun y hy => hdigits y (List.mem_of_mem_take hy), List.cons_ne_nil _ _, hfront rfl,
        fun y hy => hdigits y (List.mem_of_mem_drop hy), ?_⟩
      intro p hp
      obtain rfl := Option.some.inj hp
      exact ⟨digitsOf_ne_nil, lt_of_mem_digitsOf⟩

/-- A numeral with digits after the point and no exponent has a value as long as its digits fit the
significand. -/
theorem isSome_value?_of_fraction {n : Numeral} (hfraction : n.fraction ≠ [])
    (hexponent : n.exponent = none)
    (hlimit : gathered 0 (n.whole ++ n.fraction) < significandLimit) : n.value?.isSome = true := by
  obtain ⟨negative, whole, fraction, exponent⟩ := n
  obtain rfl : exponent = none := hexponent
  rw [gathered_append] at hlimit
  have hwhole : gathered 0 whole < significandLimit :=
    Nat.lt_of_le_of_lt (le_gathered _ fraction) hlimit
  unfold value?
  dsimp only
  rw [gather_eq hwhole, if_neg fun h => hfraction h.1, gather_eq hlimit]
  apply isSome_scaled_of_neg
  have hlength : 0 < fraction.length := List.length_pos_iff.mpr hfraction
  simp only [List.length_nil]
  omega

/-- A numeral with an exponent has a value if its digits fit the significand and scaling does. -/
theorem value?_of_exponent {n : Numeral} {p : Bool × List Nat} (hexponent : n.exponent = some p)
    (hlimit : gathered 0 (n.whole ++ n.fraction) < significandLimit) :
    n.value? = withExponent n.negative (gathered 0 (n.whole ++ n.fraction))
      (-(n.fraction.length : Int)) (some p) := by
  obtain ⟨negative, whole, fraction, exponent⟩ := n
  obtain rfl : exponent = some p := hexponent
  rw [gathered_append] at hlimit ⊢
  have hwhole : gathered 0 whole < significandLimit :=
    Nat.lt_of_le_of_lt (le_gathered _ fraction) hlimit
  unfold value?
  dsimp only
  rw [gather_eq hwhole, if_neg fun h => Option.some_ne_none p h.2.1, gather_eq hlimit]
  simp

/-- What is demanded of the power of ten by which digits are scaled. -/
def Scales (digits : Nat) (e : Int) : Prop :=
  ∀ n : Nat, e = n → n < 309 ∧
    ((Binary64.ofNat digits).mul (Binary64.ofNat (Nat.pow 10 n))).isInfinite = false

theorem isSome_scaled {negative : Bool} {digits : Nat} {e : Int} (hscale : Scales digits e) :
    (scaled negative digits e).isSome = true := by
  rcases Decimal.nonneg_or_neg e with ⟨n, rfl⟩ | ⟨n, rfl⟩
  · obtain ⟨hn, hfinite⟩ := hscale n rfl
    have hstep : (n : Int).natAbs ≤ greatestPower := by
      unfold greatestPower
      omega
    unfold scaled
    rw [Option.isSome_map, scale, if_pos hstep, if_pos (Int.natCast_nonneg n), Int.toNat_natCast]
    dsimp only
    rw [hfinite]
    rfl
  · apply isSome_scaled_of_neg
    omega

/-- An exponent moves the point back behind the digits before it scales them. -/
theorem isSome_withExponent {negative : Bool} {digits k : Nat} {e lead : Int} (hlead : lead - k = e)
    (hlarge : lead < 500) (hscale : Scales digits e) :
    (withExponent negative digits (-(k : Int))
      (some (decide (lead < 0), digitsOf lead.natAbs))).isSome = true := by
  have hwritten : digitsValue (digitsOf lead.natAbs) = lead.natAbs := gathered_digitsOf _
  unfold withExponent
  dsimp only
  rw [hwritten]
  by_cases hdown : lead < 0
  · rw [decide_eq_true hdown]
    split
    · simp
    · apply isSome_scaled_of_neg
      unfold exponentLimit
      omega
  · have hsmall : ¬ exponentLimit < (lead.natAbs : Int) := by
      unfold exponentLimit
      omega
    have hmin : min (-(k : Int) + (lead.natAbs : Int)) exponentLimit = e := by
      unfold exponentLimit
      omega
    rw [decide_eq_false hdown, if_neg hsmall, hmin]
    exact isSome_scaled hscale

theorem mul_pow_lt {digits k n m : Nat} (hdigits : digits < 10 ^ k) (hsum : k + n ≤ m) :
    digits * 10 ^ n < 10 ^ m :=
  calc digits * 10 ^ n < 10 ^ k * 10 ^ n := Nat.mul_lt_mul_of_pos_right hdigits (Nat.pow_pos (by omega))
    _ = 10 ^ (k + n) := (Nat.pow_add 10 k n).symm
    _ ≤ 10 ^ m := Nat.pow_le_pow_right (by omega) hsum

/-- The numeral of a decimal has a value if the digits fit the significand and scaling does not
overflow. -/
theorem isSome_value?_ofDecimal (hdigits : d.digits ≤ 10 ^ 18)
    (hscale : Scales d.digits d.exponent) : (ofDecimal negative d).value?.isSome = true := by
  have hvalue : gathered 0 (digitsOf d.digits) = d.digits := gathered_digitsOf _
  have hlength : 0 < (digitsOf d.digits).length := List.length_pos_iff.mpr digitsOf_ne_nil
  have hlong : (digitsOf d.digits).length ≤ 19 :=
    (length_digitsOf_le (by omega)).mpr (Nat.lt_of_le_of_lt hdigits (by decide))
  have hsize : d.digits < 10 ^ (digitsOf d.digits).length :=
    (length_digitsOf_le hlength).mp (Nat.le_refl _)
  have hfits : d.digits < significandLimit := Nat.lt_of_le_of_lt hdigits (by decide)
  unfold ofDecimal
  dsimp only
  generalize digitsOf d.digits = digits at *
  generalize hlead : d.exponent + (digits.length : Int) - 1 = lead
  by_cases hpositional : -5 ≤ lead ∧ lead < 16
  · rw [if_pos hpositional]
    split
    next hwhole =>
      apply isSome_value?_of_fraction (List.cons_ne_nil _ _) rfl
      rw [gathered_append, gathered_append, hvalue, gathered_replicate]
      have hproduct : d.digits * 10 ^ d.exponent.toNat < 10 ^ 16 :=
        mul_pow_lt hsize (by omega)
      show d.digits * 10 ^ d.exponent.toNat * 10 + 0 < 2 ^ 64
      omega
    next hwhole =>
      split
      next hinside =>
        have hdrop : digits.drop (lead.toNat + 1) ≠ [] := by
          rw [ne_eq, List.drop_eq_nil_iff]
          omega
        apply isSome_value?_of_fraction hdrop rfl
        rw [List.take_append_drop, hvalue]
        exact hfits
      next =>
        apply isSome_value?_of_fraction (by simp [List.length_pos_iff.mp hlength]) rfl
        rw [← List.append_assoc, gathered_append, gathered_append, gathered_replicate]
        show gathered (0 * 10 ^ _) digits < significandLimit
        rw [Nat.zero_mul, hvalue]
        exact hfits
  · rw [if_neg hpositional]
    have hdrop : lead - (digits.drop 1).length = d.exponent := by
      rw [List.length_drop]
      omega
    have hlarge : lead < 500 := by
      rcases Decimal.nonneg_or_neg d.exponent with ⟨n, hn⟩ | ⟨n, hn⟩
      · have := (hscale n hn).1
        omega
      · omega
    have hgathered : gathered 0 (digits.take 1 ++ digits.drop 1) = d.digits := by
      rw [List.take_append_drop, hvalue]
    rw [value?_of_exponent rfl (by rw [hgathered]; exact hfits), hgathered]
    exact isSome_withExponent hdrop hlarge hscale

end

section

variable {x : Binary64}

theorem magnitude_lt (hfinite : x.isInfinite = false) : x.magnitude < Binary64.infinityWord := by
  unfold Binary64.isInfinite at hfinite
  simpa using hfinite

theorem magnitude_pos (hzero : ¬ (⟨x.magnitude⟩ : Binary64).isZero = true) : 0 < x.magnitude := by
  apply Nat.pos_of_ne_zero
  intro h
  rw [h] at hzero
  exact hzero (by decide)

/-- The numeral of a finite double follows the grammar. -/
theorem wellFormed_ofDouble (hfinite : x.isInfinite = false) : (ofDouble x).WellFormed := by
  unfold ofDouble
  split
  · exact ⟨by simp, by simp, by simp, by simp, by simp⟩
  next hzero =>
    obtain ⟨hpos, -⟩ := Decimal.scaled_shortest (magnitude_pos hzero) (magnitude_lt hfinite)
    exact wellFormed_ofDecimal hpos

/-- The numeral of a finite double is that of some double. -/
theorem isSome_value?_ofDouble (hfinite : x.isInfinite = false) :
    (ofDouble x).value?.isSome = true := by
  unfold ofDouble
  split
  · apply isSome_value?_of_fraction (List.cons_ne_nil _ _) rfl
    show gathered 0 [0, 0] < significandLimit
    decide
  next hzero =>
    obtain ⟨-, hdigits, hscale⟩ :=
      Decimal.scaled_shortest (magnitude_pos hzero) (magnitude_lt hfinite)
    exact isSome_value?_ofDecimal hdigits hscale

end

end Numeral

end CallChain.Json
