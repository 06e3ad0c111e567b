import CallChain.Fault.Registry
import CallChain.Proofs.Data.SortedMap

/-!
# What a registry can hold

A registry in use was made from the base table by registering codes, one after the other; `Built` says
so.  Registering changes a registry only where nothing was (`register_eq_ok`), so every code stands
under its own number and what once stands there stays.  It follows what a number resolves to: a code
with this number if one is registered, else the unknown code (`Built.code_lookup`).
-/

set_option autoImplicit false

namespace CallChain.CodeRegistry

/-- A registry as services make it: the base table, and codes registered since. -/
inductive Built : CodeRegistry → Prop where
  | new (service : ServiceIdentity) : Built (.new service)
  | register {r r' : CodeRegistry} {c : FaultCode} (h : Built r) (hregister : r.register c = .ok r') :
      Built r'

variable {r r' : CodeRegistry} {c : FaultCode} {code : Int}

/-- A code that is taken in was there already, or is put where nothing was. -/
theorem register_eq_ok (h : r.register c = .ok r') :
    (r.codes.get? c.code = some c ∧ r' = r) ∨
    (r.codes.get? c.code = none ∧ r' = { r with codes := r.codes.insert c.code c }) := by
  unfold register at h
  split at h
  · cases h
  · cases hpresent : r.codes.get? c.code with
    | none =>
      rw [hpresent] at h
      cases h
      exact Or.inr ⟨rfl, rfl⟩
    | some present =>
      rw [hpresent] at h
      dsimp only at h
      split at h
      · next heq =>
        cases h
        exact Or.inl ⟨by rw [heq], rfl⟩
      · cases h

/-- What is registered stays what it is. -/
theorem get?_of_register (h : r.register c = .ok r') {present : FaultCode}
    (hpresent : r.codes.get? code = some present) : r'.codes.get? code = some present := by
  obtain ⟨-, rfl⟩ | ⟨hfree, rfl⟩ := register_eq_ok h
  · exact hpresent
  · have hne : code ≠ c.code := by
      intro heq
      rw [heq, hfree] at hpresent
      cases hpresent
    rw [SortedMap.get?_insert, if_neg hne]
    exact hpresent

theorem nodup_baseTable : ((Codes.baseTable.map fun c => (c.code, c)).map Prod.fst).Nodup := by
  decide

theorem get?_baseCodes :
    baseCodes.get? code = SortedMap.lookupIn code (Codes.baseTable.map fun c => (c.code, c)) :=
  SortedMap.get?_ofList nodup_baseTable code

theorem unknownIn_baseTable : unknownIn Codes.baseTable = Codes.unknownCode := by
  decide

namespace Built

/-- The base table is part of every registry. -/
theorem get?_base (h : Built r) (hbase : baseCodes.get? code = some c) :
    r.codes.get? code = some c := by
  induction h with
  | new service => exact hbase
  | register _ hregister ih => exact get?_of_register hregister ih

theorem get?_baseTable (h : Built r) (hc : c ∈ Codes.baseTable) : r.codes.get? c.code = some c := by
  apply h.get?_base
  rw [get?_baseCodes, SortedMap.lookupIn_eq_some_iff nodup_baseTable]
  exact List.mem_map_of_mem hc

/-- A code of the base table has its own number in every registry. -/
theorem code_lookup_base (h : Built r) (hcode : code ∈ Codes.baseTable.map FaultCode.code) :
    (r.lookup code).code = code := by
  obtain ⟨c, hc, rfl⟩ := List.mem_map.mp hcode
  unfold lookup
  rw [h.get?_baseTable hc]
  rfl

/-- A code stands under its own number. -/
theorem code_eq (h : Built r) (hget : r.codes.get? code = some c) : c.code = code := by
  induction h with
  | new service =>
    have hmem : (code, c) ∈ Codes.baseTable.map fun c => (c.code, c) := by
      apply SortedMap.mem_of_lookupIn
      rw [← get?_baseCodes]
      exact hget
    obtain ⟨c', -, heq⟩ := List.mem_map.mp hmem
    cases heq
    rfl
  | register _ hregister ih =>
    obtain ⟨-, rfl⟩ | ⟨-, rfl⟩ := register_eq_ok hregister
    · exact ih hget
    · rw [SortedMap.get?_insert] at hget
      split at hget
      · next heq =>
        cases hget
        exact heq.symm
      · exact ih hget

/-- The code that stands for all others is the one of the base table, at all times. -/
theorem unknown_eq (h : Built r) : r.unknown = Codes.unknownCode := by
  induction h with
  | new service => exact unknownIn_baseTable
  | register _ hregister ih =>
    obtain ⟨-, rfl⟩ | ⟨-, rfl⟩ := register_eq_ok hregister
    · exact ih
    · exact ih

/-- A number resolves to a code with this number if it is registered, and to the unknown code if it is
not. -/
theorem code_lookup (h : Built r) (code : Int) :
    (r.lookup code).code = if r.isRegistered code = true then code else Codes.unknown := by
  unfold lookup isRegistered SortedMap.contains
  cases hget : r.codes.get? code with
  | none =>
    rw [h.unknown_eq]
    rfl
  | some c => exact h.code_eq hget

/-- The code that stands for all others is the one under its number. -/
theorem get?_unknown (h : Built r) : r.codes.get? Codes.unknown = some r.unknown := by
  have hmem : Codes.unknownCode ∈ Codes.baseTable := List.mem_cons_of_mem _ List.mem_cons_self
  rw [h.unknown_eq]
  exact h.get?_baseTable hmem

/-- The unknown code is the same in every registry. -/
theorem lookup_unknown (h : Built r) : r.lookup Codes.unknown = Codes.unknownCode := by
  unfold lookup
  rw [h.get?_unknown, Option.getD_some, h.unknown_eq]

/-- What a number resolves to, its own number resolves to as well. -/
theorem lookup_code_lookup (h : Built r) (code : Int) :
    r.lookup (r.lookup code).code = r.lookup code := by
  cases hget : r.codes.get? code with
  | none =>
    have hlookup : r.lookup code = Codes.unknownCode := by
      unfold lookup
      rw [hget, h.unknown_eq]
      rfl
    rw [hlookup]
    exact h.lookup_unknown
  | some c =>
    have hlookup : r.lookup code = c := by
      unfold lookup
      rw [hget]
      rfl
    rw [hlookup, h.code_eq hget, hlookup]

end Built

end CallChain.CodeRegistry
