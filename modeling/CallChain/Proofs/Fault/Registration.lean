import CallChain.Fault.Registration
import CallChain.Proofs.Fault.Registry

/-!
# What registrations leave behind

Whatever is registered, a registry holds the base table and the codes it accepted since, the first one
under each number.  `Extends` says so of one registry and a later one; a single registration
(`register_of_not_conflicts`), a batch (`extends_registerAll`) and any number of registrations
(`extends_performAll`) all extend the registry they start from by what they accepted.

Acceptance turns on one thing alone, whether another code stands under the same number (`Conflicts`).
Codes that agree wherever they share a number are therefore all accepted, in any order, and the first
code under a number is then any code under it: nothing of the order is left in the registry.
-/

set_option autoImplicit false

namespace CallChain

namespace FaultCode

/-- The first code with a number. -/
def first? (cs : List FaultCode) (code : Int) : Option FaultCode := cs.find? fun c => c.code == code

/-- Codes that share a number are the same. -/
def Consistent (cs : List FaultCode) : Prop := ∀ c ∈ cs, ∀ c' ∈ cs, c.code = c'.code → c = c'

instance (cs : List FaultCode) : Decidable (Consistent cs) :=
  inferInstanceAs (Decidable (∀ c ∈ cs, ∀ c' ∈ cs, c.code = c'.code → c = c'))

theorem first?_append (cs cs' : List FaultCode) (code : Int) :
    first? (cs ++ cs') code = (first? cs code).or (first? cs' code) :=
  List.find?_append

theorem first?_singleton (c : FaultCode) (code : Int) :
    first? [c] code = if c.code = code then some c else none := by
  by_cases h : c.code = code <;> simp [first?, h]

theorem mem_of_first? {cs : List FaultCode} {code : Int} {c : FaultCode}
    (h : first? cs code = some c) : c ∈ cs ∧ c.code = code := by
  refine ⟨List.mem_of_find?_eq_some h, ?_⟩
  simpa using List.find?_some h

/-- In a consistent list it does not matter which code with a number comes first. -/
theorem first?_eq_some_iff {cs : List FaultCode} (hcs : Consistent cs) {code : Int} {c : FaultCode} :
    first? cs code = some c ↔ c ∈ cs ∧ c.code = code := by
  constructor
  · exact mem_of_first?
  · rintro ⟨hmem, hcode⟩
    cases hfirst : first? cs code with
    | none =>
      have hnone := List.find?_eq_none.mp hfirst c hmem
      simp [hcode] at hnone
    | some c' =>
      obtain ⟨hmem', hcode'⟩ := mem_of_first? hfirst
      rw [hcs c' hmem' c hmem (hcode'.trans hcode.symm)]

theorem Consistent.congr {cs cs' : List FaultCode} (h : Consistent cs)
    (hmem : ∀ c, c ∈ cs' ↔ c ∈ cs) : Consistent cs' := by
  intro c hc c' hc'
  exact h c ((hmem c).mp hc) c' ((hmem c').mp hc')

theorem first?_congr {cs cs' : List FaultCode} (h : Consistent cs) (hmem : ∀ c, c ∈ cs' ↔ c ∈ cs)
    (code : Int) : first? cs' code = first? cs code := by
  apply Option.ext
  intro c
  rw [first?_eq_some_iff h, first?_eq_some_iff (h.congr hmem), hmem]

end FaultCode

namespace CodeRegistry

open FaultCode (Consistent first?)

variable {r r' r'' : CodeRegistry} {c : FaultCode} {code : Int}

/-- A different code stands under the number of a code. -/
def Conflicts (r : CodeRegistry) (c : FaultCode) : Prop :=
  ∃ present, r.codes.get? c.code = some present ∧ present ≠ c

/-- Why a code that conflicts is refused. -/
def refusal (c : FaultCode) : RegistryError :=
  if c.code = Codes.unknown then .reserved c.code else .duplicateCode c.code

/-- A later registry holds the codes of an earlier one and, under the numbers that were free, the first
of those that were added. -/
structure Extends (r : CodeRegistry) (added : List FaultCode) (r' : CodeRegistry) : Prop where
  codes : ∀ code, r'.codes.get? code = (r.codes.get? code).or (first? added code)
  unknown : r'.unknown = r.unknown
  service : r'.service = r.service

/-- The codes of a list that are accepted one after the other, up to the first that is refused. -/
def accepted (r : CodeRegistry) : List FaultCode → List FaultCode
  | [] => []
  | c :: cs =>
    match r.register c with
    | .ok r' => c :: accepted r' cs
    | .error _ => []

/-- All codes that registrations add with success, in order. -/
def history (r : CodeRegistry) : List Registration → List FaultCode
  | [] => []
  | o :: os => r.accepted o.offered ++ history (r.perform o).1 os

/-- All codes that registrations offer, in order. -/
def offeredBy (ops : List Registration) : List FaultCode := ops.flatMap Registration.offered

/-- What can be relied on in a registry that was new and has accepted some codes since, in order. -/
structure Settled (given : List FaultCode) (r : CodeRegistry) : Prop where
  /-- The base table is what it was. -/
  base : ∀ c ∈ Codes.baseTable, r.codes.get? c.code = some c
  /-- The code that stands for all others is the one under its number. -/
  unknown : r.unknown = Codes.unknownCode ∧ r.codes.get? Codes.unknown = some r.unknown
  /-- A number resolves to the code that was first under it, and to the unknown code if there is none. -/
  lookup : ∀ code,
    r.lookup code = (first? (Codes.baseTable ++ given) code).getD Codes.unknownCode
  code_lookup : ∀ code,
    (r.lookup code).code = if r.isRegistered code = true then code else Codes.unknown
  /-- What is registered stays, whatever is registered later. -/
  stays : ∀ ops code c, r.codes.get? code = some c → (r.performAll ops).codes.get? code = some c
  /-- A code is refused if another stands under its number, and then nothing changes. -/
  refused : ∀ c, r.Conflicts c →
    r.perform (.register c) = (r, .ok (.error (refusal c))) ∧
      r.perform (.mustRegister c) = (r, .error ⟨some (refusal c).message⟩)
  /-- It is accepted otherwise. -/
  accepted : ∀ c, ¬ r.Conflicts c → ∃ r', Extends r [c] r' ∧
    r.perform (.register c) = (r', .ok (.ok ())) ∧ r.perform (.mustRegister c) = (r', .ok (.ok ()))
  /-- Of several codes, those before the first conflict are registered. -/
  stops : ∀ cs, ∃ before rest r', cs = before ++ rest ∧ Extends r before r' ∧
    (∀ c ∈ before, r'.codes.get? c.code = some c) ∧
    (rest = [] ∧ r.perform (.registerAll cs) = (r', .ok (.ok ())) ∨
      ∃ c rest', rest = c :: rest' ∧ r'.Conflicts c ∧
        r.perform (.registerAll cs) = (r', .ok (.error (refusal c))))

/-! ## Registries that extend one another -/

namespace Extends

variable {added added' : List FaultCode}

theorem refl (r : CodeRegistry) : Extends r [] r :=
  ⟨fun code => by simp [first?], rfl, rfl⟩

theorem trans (h : Extends r added r') (h' : Extends r' added' r'') :
    Extends r (added ++ added') r'' where
  codes code := by rw [h'.codes, h.codes, FaultCode.first?_append, Option.or_assoc]
  unknown := h'.unknown.trans h.unknown
  service := h'.service.trans h.service

theorem get?_eq_some (h : Extends r added r') {present : FaultCode}
    (hpresent : r.codes.get? code = some present) : r'.codes.get? code = some present := by
  rw [h.codes, hpresent, Option.some_or]

/-- What is added says all there is to say about the later registry. -/
theorem unique (h : Extends r added r') (h' : Extends r added' r'')
    (hfirst : ∀ code, first? added code = first? added' code) : r' = r'' := by
  have hcodes : r'.codes = r''.codes := by
    apply SortedMap.ext_get?
    intro code
    rw [h.codes, h'.codes, hfirst]
  have hunknown : r'.unknown = r''.unknown := h.unknown.trans h'.unknown.symm
  have hservice : r'.service = r''.service := h.service.trans h'.service.symm
  cases r'
  cases r''
  simp_all

end Extends

theorem get?_new (service : ServiceIdentity) (code : Int) :
    (new service).codes.get? code = first? Codes.baseTable code := by
  have hbase : (new service).codes.get? code = baseCodes.get? code := rfl
  rw [hbase, get?_baseCodes]
  induction Codes.baseTable with
  | nil => rfl
  | cons c cs ih =>
    by_cases h : code = c.code
    · simp [SortedMap.lookupIn, first?, h]
    · simpa [SortedMap.lookupIn, first?, h, Ne.symm h] using ih

/-! ## One code -/

/-- A code that conflicts is refused, and that of the unknown code as reserved. -/
theorem register_of_conflicts (h : r.Built) (hc : r.Conflicts c) :
    r.register c = .error (refusal c) := by
  obtain ⟨present, hget, hne⟩ := hc
  unfold register refusal
  by_cases hcode : c.code = Codes.unknown
  · have hpresent : present = r.unknown := by
      rw [hcode, h.get?_unknown] at hget
      exact (Option.some.inj hget).symm
    have hne' : c ≠ r.unknown := by
      rintro rfl
      exact hne hpresent
    rw [if_pos ⟨hcode, hne'⟩, if_pos hcode]
  · rw [if_neg fun hboth => hcode hboth.1, if_neg hcode, hget]
    dsimp only
    rw [if_neg hne]

/-- A code that does not conflict is accepted. -/
theorem register_of_not_conflicts (h : r.Built) (hc : ¬ r.Conflicts c) :
    ∃ r', r.register c = .ok r' ∧ Extends r [c] r' := by
  have hreserved : ¬ (c.code = Codes.unknown ∧ c ≠ r.unknown) := by
    rintro ⟨hcode, hne⟩
    exact hc ⟨r.unknown, hcode ▸ h.get?_unknown, Ne.symm hne⟩
  unfold register
  rw [if_neg hreserved]
  cases hget : r.codes.get? c.code with
  | none =>
    refine ⟨_, rfl, ?_, rfl, rfl⟩
    intro code
    rw [SortedMap.get?_insert, FaultCode.first?_singleton]
    by_cases hcode : code = c.code
    · simp [hcode, hget]
    · simp [hcode, Ne.symm hcode]
  | some present =>
    have hpresent : present = c :=
      Decidable.byContradiction fun hne => hc ⟨present, hget, hne⟩
    refine ⟨r, if_pos hpresent, ?_, rfl, rfl⟩
    intro code
    rw [FaultCode.first?_singleton]
    by_cases hcode : c.code = code
    · rw [← hcode, hget, hpresent, Option.some_or]
    · rw [if_neg hcode, Option.or_none]

/-- What was accepted stands under its number. -/
theorem get?_of_register_ok (h : r.register c = .ok r') : r'.codes.get? c.code = some c := by
  obtain ⟨hpresent, rfl⟩ | ⟨-, rfl⟩ := register_eq_ok h
  · exact hpresent
  · simp

/-! ## Many codes -/

theorem Built.registerAll (h : r.Built) (cs : List FaultCode) : (r.registerAll cs).1.Built := by
  induction cs generalizing r with
  | nil => exact h
  | cons c cs ih =>
    unfold CodeRegistry.registerAll
    cases hregister : r.register c with
    | error e => exact h
    | ok r' => exact ih (h.register hregister)

theorem extends_registerAll (h : r.Built) (cs : List FaultCode) :
    Extends r (r.accepted cs) (r.registerAll cs).1 := by
  induction cs generalizing r with
  | nil => exact .refl r
  | cons c cs ih =>
    by_cases hc : r.Conflicts c
    · simp only [registerAll, accepted, register_of_conflicts h hc]
      exact .refl r
    · obtain ⟨r', hregister, hextends⟩ := register_of_not_conflicts h hc
      simp only [registerAll, accepted, hregister]
      exact hextends.trans (ih (h.register hregister))

/-- Codes are accepted up to the first that conflicts with what is registered by then. -/
theorem registerAll_stops (h : r.Built) (cs : List FaultCode) :
    ∃ before rest r', cs = before ++ rest ∧ Extends r before r' ∧
      (∀ c ∈ before, r'.codes.get? c.code = some c) ∧
      (rest = [] ∧ r.registerAll cs = (r', none) ∨
        ∃ c rest', rest = c :: rest' ∧ r'.Conflicts c ∧ r.registerAll cs = (r', some (refusal c))) := by
  induction cs generalizing r with
  | nil => exact ⟨[], [], r, rfl, .refl r, by simp, .inl ⟨rfl, rfl⟩⟩
  | cons c cs ih =>
    by_cases hc : r.Conflicts c
    · refine ⟨[], c :: cs, r, rfl, .refl r, by simp, .inr ⟨c, cs, rfl, hc, ?_⟩⟩
      simp only [registerAll, register_of_conflicts h hc]
    · obtain ⟨r', hregister, hextends⟩ := register_of_not_conflicts h hc
      have hstep : r.registerAll (c :: cs) = r'.registerAll cs := by
        simp only [registerAll, hregister]
      obtain ⟨before, rest, last, rfl, hlast, hbefore, hend⟩ := ih (h.register hregister)
      refine ⟨c :: before, rest, last, rfl, hextends.trans hlast, ?_, ?_⟩
      · intro c' hc'
        rcases List.mem_cons.mp hc' with rfl | hc'
        · exact hlast.get?_eq_some (get?_of_register_ok hregister)
        · exact hbefore c' hc'
      · rw [hstep]
        exact hend

/-! ## Any registrations -/

/-- Every registration does with the codes it offers what registering them in a row does. -/
theorem perform_fst (r : CodeRegistry) (o : Registration) :
    (r.perform o).1 = (r.registerAll o.offered).1 := by
  cases o with
  | register c =>
    simp only [perform, Registration.offered, registerAll]
    cases r.register c <;> rfl
  | mustRegister c =>
    simp only [perform, mustRegister, Registration.offered, registerAll]
    cases r.register c <;> rfl
  | registerAll cs =>
    simp only [perform, Registration.offered]
    rcases r.registerAll cs with ⟨r', _ | e⟩ <;> rfl

theorem Built.perform (h : r.Built) (o : Registration) : (r.perform o).1.Built := by
  rw [perform_fst]
  exact h.registerAll o.offered

theorem extends_perform (h : r.Built) (o : Registration) :
    Extends r (r.accepted o.offered) (r.perform o).1 := by
  rw [perform_fst]
  exact extends_registerAll h o.offered

theorem Built.performAll (h : r.Built) (ops : List Registration) : (r.performAll ops).Built := by
  induction ops generalizing r with
  | nil => exact h
  | cons o os ih => exact ih (h.perform o)

theorem extends_performAll (h : r.Built) (ops : List Registration) :
    Extends r (r.history ops) (r.performAll ops) := by
  induction ops generalizing r with
  | nil => exact .refl r
  | cons o os ih => exact (extends_perform h o).trans (ih (h.perform o))

/-- A registry that was new holds the base table and what it accepted. -/
theorem get?_performAll (service : ServiceIdentity) (ops : List Registration) (code : Int) :
    ((new service).performAll ops).codes.get? code =
      first? (Codes.baseTable ++ (new service).history ops) code := by
  rw [(extends_performAll (.new service) ops).codes, get?_new, FaultCode.first?_append]

/-! ## The order of registrations -/

section

variable {held : List FaultCode}

/-- Codes that agree with what is held and with each other are all accepted. -/
theorem accepted_of_consistent (h : r.Built) (hheld : ∀ code, r.codes.get? code = first? held code)
    {cs : List FaultCode} (hcs : Consistent (held ++ cs)) : r.accepted cs = cs := by
  induction cs generalizing r held with
  | nil => rfl
  | cons c cs ih =>
    have hc : ¬ r.Conflicts c := by
      rintro ⟨present, hget, hne⟩
      rw [hheld] at hget
      obtain ⟨hmem, hcode⟩ := FaultCode.mem_of_first? hget
      exact hne (hcs present (by simp [hmem]) c (by simp) hcode)
    obtain ⟨r', hregister, hextends⟩ := register_of_not_conflicts h hc
    have hheld' : ∀ code, r'.codes.get? code = first? (held ++ [c]) code := by
      intro code
      rw [hextends.codes, hheld, FaultCode.first?_append]
    have hrest : r'.accepted cs = cs := by
      apply ih (h.register hregister) hheld'
      rw [List.append_assoc]
      exact hcs
    simp only [accepted, hregister, hrest]

theorem history_of_consistent (h : r.Built) (hheld : ∀ code, r.codes.get? code = first? held code)
    {ops : List Registration} (hops : Consistent (held ++ offeredBy ops)) :
    r.history ops = offeredBy ops := by
  induction ops generalizing r held with
  | nil => rfl
  | cons o os ih =>
    have hsplit : offeredBy (o :: os) = o.offered ++ offeredBy os := List.flatMap_cons
    rw [hsplit, ← List.append_assoc] at hops
    have hfirst : r.accepted o.offered = o.offered := by
      apply accepted_of_consistent h hheld
      intro c hc c' hc'
      exact hops c (List.mem_append_left _ hc) c' (List.mem_append_left _ hc')
    have hextends := extends_perform h o
    rw [hfirst] at hextends
    have hrest : (r.perform o).1.history os = offeredBy os := by
      apply ih (h.perform o) _ hops
      intro code
      rw [hextends.codes, hheld, FaultCode.first?_append]
    rw [hsplit, history, hfirst, hrest]

end

theorem performAll_congr (service : ServiceIdentity) {ops ops' : List Registration}
    (hops : Consistent (Codes.baseTable ++ offeredBy ops))
    (hmem : ∀ c, c ∈ offeredBy ops' ↔ c ∈ offeredBy ops) :
    (new service).performAll ops' = (new service).performAll ops := by
  have hmem' : ∀ c, c ∈ Codes.baseTable ++ offeredBy ops' ↔ c ∈ Codes.baseTable ++ offeredBy ops := by
    intro c
    rw [List.mem_append, List.mem_append, hmem]
  have hbuilt : (new service).Built := .new service
  have hextends := extends_performAll hbuilt ops
  have hextends' := extends_performAll hbuilt ops'
  rw [history_of_consistent hbuilt (get?_new service) hops] at hextends
  rw [history_of_consistent hbuilt (get?_new service) (hops.congr hmem')] at hextends'
  have hoffered : Consistent (offeredBy ops) := by
    intro c hc c' hc'
    exact hops c (List.mem_append_right _ hc) c' (List.mem_append_right _ hc')
  exact hextends'.unique hextends (FaultCode.first?_congr hoffered hmem)

/-! ## Every run -/

theorem mustRegister_of_ok (h : r.register c = .ok r') : r.mustRegister c = .ok r' := by
  unfold mustRegister
  rw [h]
  rfl

theorem mustRegister_of_error {e : RegistryError} (h : r.register c = .error e) :
    r.mustRegister c = .error ⟨some e.message⟩ := by
  unfold mustRegister
  rw [h]
  rfl

theorem perform_of_conflicts (h : r.Built) (hc : r.Conflicts c) :
    r.perform (.register c) = (r, .ok (.error (refusal c))) ∧
      r.perform (.mustRegister c) = (r, .error ⟨some (refusal c).message⟩) := by
  have hregister := register_of_conflicts h hc
  constructor
  · simp only [perform, hregister]
  · simp only [perform, mustRegister_of_error hregister]

theorem perform_of_not_conflicts (h : r.Built) (hc : ¬ r.Conflicts c) :
    ∃ r', Extends r [c] r' ∧ r.perform (.register c) = (r', .ok (.ok ())) ∧
      r.perform (.mustRegister c) = (r', .ok (.ok ())) := by
  obtain ⟨r', hregister, hextends⟩ := register_of_not_conflicts h hc
  refine ⟨r', hextends, ?_, ?_⟩
  · simp only [perform, hregister]
  · simp only [perform, mustRegister_of_ok hregister]

theorem perform_stops (h : r.Built) (cs : List FaultCode) :
    ∃ before rest r', cs = before ++ rest ∧ Extends r before r' ∧
      (∀ c ∈ before, r'.codes.get? c.code = some c) ∧
      (rest = [] ∧ r.perform (.registerAll cs) = (r', .ok (.ok ())) ∨
        ∃ c rest', rest = c :: rest' ∧ r'.Conflicts c ∧
          r.perform (.registerAll cs) = (r', .ok (.error (refusal c)))) := by
  obtain ⟨before, rest, r', hcs, hextends, hbefore, hend⟩ := registerAll_stops h cs
  refine ⟨before, rest, r', hcs, hextends, hbefore, ?_⟩
  rcases hend with ⟨hrest, hall⟩ | ⟨c, rest', hrest, hc, hall⟩
  · refine .inl ⟨hrest, ?_⟩
    simp only [perform, hall]
  · refine .inr ⟨c, rest', hrest, hc, ?_⟩
    simp only [perform, hall]

/-- After any registrations a registry holds the base table and what it accepted, under each number what
came first, and it will keep that.  Codes that agree wherever they share a number, with each other and with
the table, leave the same registry in every order and however often they are registered. -/
theorem settled_performAll (service : ServiceIdentity) (ops : List Registration) :
    Settled ((new service).history ops) ((new service).performAll ops) ∧
      (Consistent (Codes.baseTable ++ offeredBy ops) →
        ∀ ops', (∀ c, c ∈ offeredBy ops' ↔ c ∈ offeredBy ops) →
          (new service).performAll ops' = (new service).performAll ops) := by
  have h : ((new service).performAll ops).Built := Built.performAll (.new service) ops
  constructor
  · constructor
    case base => exact fun c hc => h.get?_baseTable hc
    case unknown => exact ⟨h.unknown_eq, h.get?_unknown⟩
    case lookup =>
      intro code
      unfold CodeRegistry.lookup
      rw [get?_performAll, h.unknown_eq]
    case code_lookup => exact h.code_lookup
    case stays =>
      intro later code c hget
      exact (extends_performAll h later).get?_eq_some hget
    case refused => exact fun c hc => perform_of_conflicts h hc
    case accepted => exact fun c hc => perform_of_not_conflicts h hc
    case stops => exact perform_stops h
  · intro hops ops' hmem
    exact performAll_congr service hops hmem

/-- Two codes in three registrations, and in two the other way round. -/
theorem settled_performAll_swapped :
    let notFound : FaultCode := .withMessages 200001 404 "User not found." ""
    let badInput : FaultCode := .withMessages 200002 400 "Bad input." ""
    (new ⟨"localhost", 1, "users", .oneFile "library"⟩).performAll [.registerAll [badInput, notFound]] =
      (new ⟨"localhost", 1, "users", .oneFile "library"⟩).performAll
        [.register notFound, .mustRegister badInput, .register notFound] := by
  intro notFound badInput
  apply (settled_performAll ⟨"localhost", 1, "users", .oneFile "library"⟩
    [.register notFound, .mustRegister badInput, .register notFound]).2
  · decide
  · intro c
    simp only [offeredBy, Registration.offered, List.flatMap_cons, List.flatMap_nil, List.cons_append,
      List.nil_append, List.append_nil, List.mem_cons, List.not_mem_nil, or_false]
    constructor
    · rintro (rfl | rfl)
      · exact .inr (.inl rfl)
      · exact .inl rfl
    · rintro (rfl | rfl | rfl)
      · exact .inr rfl
      · exact .inl rfl
      · exact .inr rfl

end CodeRegistry

end CallChain
