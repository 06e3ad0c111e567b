/-!
# Case of the basic Latin letters

Header names and methods are compared without regard to the case of the letters `A` to `Z`; every
other character counts as it is.
-/

set_option autoImplicit false

namespace CallChain.Text

/-- The small letter of a capital `A` to `Z`, every other character itself. -/
def lowerChar (c : Char) : Char :=
  if 0x41 ≤ c.toNat ∧ c.toNat ≤ 0x5A then Char.ofNat (c.toNat + 0x20) else c

/-- A text with the capitals `A` to `Z` made small. -/
def lower (s : String) : String := String.ofList (s.toList.map lowerChar)

/-- Whether two texts differ in the case of `A` to `Z` at most. -/
def sameIgnoringCase (a b : String) : Bool := lower a == lower b

theorem lowerChar_lowerChar (c : Char) : lowerChar (lowerChar c) = lowerChar c := by
  by_cases h : 0x41 ≤ c.toNat ∧ c.toNat ≤ 0x5A
  · have hv : (Char.ofNat (c.toNat + 0x20)).toNat = c.toNat + 0x20 := by
      have : (c.toNat + 0x20).isValidChar := Or.inl (by omega)
      rw [Char.ofNat, dif_pos this]
      rfl
    have h' : ¬ (0x41 ≤ c.toNat + 0x20 ∧ c.toNat + 0x20 ≤ 0x5A) := by omega
    simp only [lowerChar, h, and_self, if_true, hv, h', if_false]
  · simp only [lowerChar, h, if_false]

/-- Making the capitals small a second time changes nothing. -/
@[simp] theorem lower_lower (s : String) : lower (lower s) = lower s := by
  simp only [lower, String.toList_ofList, List.map_map]
  congr 1
  exact List.map_congr_left fun c _ => lowerChar_lowerChar c

end CallChain.Text
