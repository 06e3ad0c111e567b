import CallChain.Proofs.Json.Agreement
import CallChain.Proofs.Status.Agreement

/-!
# The shape of a status in a JSON value

A JSON value holds a status in its slot, the value under one of two keys.  `CallStatus.Shape` says which
slots hold which status: an object with any of the four fields, or an array of at most four of them in
order, each field of its own shape and the missing ones at their defaults.  Nothing else is read as a status
(`CallStatus.ofJson?_eq_some_iff`), so what a value shows is settled by its slot alone
(`StatusField.ofJson_eq_iff`).
-/

set_option autoImplicit false

namespace CallChain

open List (Forall₂)

namespace CallStatus

/-- A code is a whole number of 64 bits with a sign. -/
inductive CodeShape : Json → Int → Prop where
  | int {n : Int} : int64Bounds.1 ≤ n → n ≤ int64Bounds.2 → CodeShape (.int n) n

/-- A text is a string. -/
inductive TextShape : Json → String → Prop where
  | string (s : String) : TextShape (.string s) s

/-- Messages are an object of strings. -/
inductive MessageShape : Json → SortedMap String String → Prop where
  | object (texts : List (String × String)) :
      MessageShape (.object (texts.map fun e => (e.1, .string e.2))) (.ofList texts)

/-- A history is an array of strings. -/
inductive StackShape : Json → List String → Prop where
  | array (texts : List String) : StackShape (.array (texts.map .string)) texts

/-- A field is of the given shape where it occurs, and has its default where it does not. -/
inductive FieldShape {α : Type} (shape : Json → α → Prop) (default : α) : Option Json → α → Prop where
  | missing : FieldShape shape default none default
  | given {v : Json} {a : α} : shape v a → FieldShape shape default (some v) a

/-- The values of four fields, each of which may be missing, make a status. -/
structure FieldsShape (code message stack description : Option Json) (s : CallStatus) : Prop where
  code : FieldShape CodeShape 0 code s.code
  message : FieldShape MessageShape .empty message s.message
  stack : FieldShape StackShape [] stack s.stack
  description : FieldShape TextShape "" description s.description

/-- A value is a status: an object, whatever other keys it has, or an array that may break off. -/
inductive Shape : Json → CallStatus → Prop where
  | object {entries : List (String × Json)} {s : CallStatus} :
      FieldsShape ((Json.object entries).get? "code") ((Json.object entries).get? "message")
        ((Json.object entries).get? "stack") ((Json.object entries).get? "description") s →
      Shape (.object entries) s
  | array {items : List Json} {s : CallStatus} : items.length ≤ 4 →
      FieldsShape items[0]? items[1]? items[2]? items[3]? s → Shape (.array items) s

theorem codeOfJson?_eq_some_iff {v : Json} {n : Int} : codeOfJson? v = some n ↔ CodeShape v n := by
  constructor
  · intro h
    cases v with
    | int m =>
      rw [codeOfJson?] at h
      split at h
      next hbounds =>
        cases h
        exact .int hbounds.1 hbounds.2
      next => cases h
    | null | bool | double | string | array | object => cases h
  · rintro ⟨hlow, hhigh⟩
    rw [codeOfJson?, if_pos ⟨hlow, hhigh⟩]

theorem textOfJson?_eq_some_iff {v : Json} {s : String} : textOfJson? v = some s ↔ TextShape v s := by
  constructor
  · intro h
    cases v with
    | string t =>
      cases h
      exact .string _
    | null | bool | int | double | array | object => cases h
  · rintro ⟨⟩
    rfl

theorem textOfJson?_eq_some {v : Json} {s : String} (h : textOfJson? v = some s) : v = .string s := by
  obtain ⟨⟩ := textOfJson?_eq_some_iff.mp h
  rfl

theorem mapM_textOfJson?_eq_some_iff {items : List Json} {texts : List String} :
    items.mapM textOfJson? = some texts ↔ items = texts.map .string := by
  rw [Json.mapM_eq_some_iff, ← List.forall₂_eq_eq_eq, List.forall₂_map_right_iff]
  constructor
  · intro h
    exact h.imp fun _ _ => textOfJson?_eq_some
  · intro h
    refine h.imp ?_
    rintro _ s rfl
    rfl

theorem stackOfJson?_eq_some_iff {v : Json} {stack : List String} :
    stackOfJson? v = some stack ↔ StackShape v stack := by
  constructor
  · intro h
    cases v with
    | array items =>
      obtain rfl := mapM_textOfJson?_eq_some_iff.mp h
      exact .array stack
    | null | bool | int | double | string | object => cases h
  · rintro ⟨⟩
    exact mapM_textOfJson?_eq_some_iff.mpr rfl

theorem mapM_entries_textOfJson?_eq_some_iff {entries : List (String × Json)}
    {texts : List (String × String)} :
    (entries.mapM fun e => (textOfJson? e.2).map fun s => (e.1, s)) = some texts ↔
      entries = texts.map fun e => (e.1, .string e.2) := by
  rw [Json.mapM_entries_eq_some_iff, ← List.forall₂_eq_eq_eq, List.forall₂_map_right_iff]
  constructor
  · intro h
    exact h.imp fun _ _ he => Prod.ext he.1 (textOfJson?_eq_some he.2)
  · intro h
    refine h.imp ?_
    rintro _ e rfl
    exact ⟨rfl, rfl⟩

theorem messageOfJson?_eq_some_iff {v : Json} {message : SortedMap String String} :
    messageOfJson? v = some message ↔ MessageShape v message := by
  constructor
  · intro h
    cases v with
    | object entries =>
      obtain ⟨texts, htexts, rfl⟩ := Option.map_eq_some_iff.mp h
      obtain rfl := mapM_entries_textOfJson?_eq_some_iff.mp htexts
      exact .object texts
    | null | bool | int | double | string | array => cases h
  · rintro ⟨texts⟩
    exact Option.map_eq_some_iff.mpr ⟨texts, mapM_entries_textOfJson?_eq_some_iff.mpr rfl, rfl⟩

/-- A field is read as its shape says if its value is. -/
theorem fieldOfJson?_eq_some_iff {α : Type} {read : Json → Option α} {shape : Json → α → Prop}
    (hread : ∀ {v : Json} {a : α}, read v = some a ↔ shape v a) {default a : α} {v? : Option Json} :
    fieldOfJson? read default v? = some a ↔ FieldShape shape default v? a := by
  constructor
  · intro h
    cases v? with
    | none =>
      cases h
      exact .missing
    | some v => exact .given (hread.mp h)
  · rintro (_ | hshape)
    · rfl
    · exact hread.mpr hshape

theorem ofFields?_eq_some_iff {code message stack description : Option Json} {s : CallStatus} :
    ofFields? code message stack description = some s ↔
      FieldsShape code message stack description s := by
  constructor
  · intro h
    obtain ⟨n, hcode, h⟩ := Option.bind_eq_some_iff.mp h
    obtain ⟨m, hmessage, h⟩ := Option.bind_eq_some_iff.mp h
    obtain ⟨t, hstack, h⟩ := Option.bind_eq_some_iff.mp h
    obtain ⟨d, hdescription, h⟩ := Option.bind_eq_some_iff.mp h
    cases h
    exact ⟨(fieldOfJson?_eq_some_iff codeOfJson?_eq_some_iff).mp hcode,
      (fieldOfJson?_eq_some_iff messageOfJson?_eq_some_iff).mp hmessage,
      (fieldOfJson?_eq_some_iff stackOfJson?_eq_some_iff).mp hstack,
      (fieldOfJson?_eq_some_iff textOfJson?_eq_some_iff).mp hdescription⟩
  · rintro ⟨hcode, hmessage, hstack, hdescription⟩
    rw [ofFields?, (fieldOfJson?_eq_some_iff codeOfJson?_eq_some_iff).mpr hcode,
      (fieldOfJson?_eq_some_iff messageOfJson?_eq_some_iff).mpr hmessage,
      (fieldOfJson?_eq_some_iff stackOfJson?_eq_some_iff).mpr hstack,
      (fieldOfJson?_eq_some_iff textOfJson?_eq_some_iff).mpr hdescription]
    rfl

/-- A value is read as a status exactly if it has the shape of that status. -/
theorem ofJson?_eq_some_iff {v : Json} {s : CallStatus} : ofJson? v = some s ↔ Shape v s := by
  constructor
  · intro h
    cases v with
    | object entries => exact .object (ofFields?_eq_some_iff.mp h)
    | array items =>
      rw [ofJson?] at h
      split at h
      next hlength => exact .array hlength (ofFields?_eq_some_iff.mp h)
      next => cases h
    | null | bool | int | double | string => cases h
  · rintro (hfields | ⟨hlength, hfields⟩)
    · exact ofFields?_eq_some_iff.mpr hfields
    · rw [ofJson?, if_pos hlength]
      exact ofFields?_eq_some_iff.mpr hfields

/-- No value has the shapes of two statuses. -/
theorem Shape.unique {v : Json} {s s' : CallStatus} (h : Shape v s) (h' : Shape v s') : s = s' :=
  Option.some.inj ((ofJson?_eq_some_iff.mpr h).symm.trans (ofJson?_eq_some_iff.mpr h'))

end CallStatus

namespace StatusField

open CallStatus (Shape)

/-- The slot of a JSON value: what is under the one key if the value has it, and under the other if it does
not. -/
inductive Slot (v : Json) : Json → Prop where
  | camel {slot : Json} : v.get? key = some slot → Slot v slot
  | pascal {slot : Json} : v.get? key = none → v.get? pascalKey = some slot → Slot v slot

variable {v slot : Json}

theorem slot_iff : Slot v slot ↔ (v.get? key).or (v.get? pascalKey) = some slot := by
  rw [Option.or_eq_some_iff]
  constructor
  · rintro (hcamel | ⟨hnone, hpascal⟩)
    · exact .inl hcamel
    · exact .inr ⟨hnone, hpascal⟩
  · rintro (hcamel | ⟨hnone, hpascal⟩)
    · exact .camel hcamel
    · exact .pascal hnone hpascal

theorem Slot.ofJson_eq (h : Slot v slot) : ofJson v = ofSlot slot := by
  rw [ofJson, slot_iff.mp h]

/-- A value has no slot exactly if it is not an object or has neither key. -/
theorem no_slot_iff :
    (¬ ∃ slot, Slot v slot) ↔
      ∀ entries, v = .object entries →
        key ∉ entries.map Prod.fst ∧ pascalKey ∉ entries.map Prod.fst := by
  have hnone : (¬ ∃ slot, Slot v slot) ↔ v.get? key = none ∧ v.get? pascalKey = none := by
    simp only [slot_iff, ← Option.isSome_iff_exists, Bool.not_eq_true, Option.isSome_eq_false_iff,
      Option.isNone_iff_eq_none, Option.or_eq_none_iff]
  rw [hnone]
  constructor
  · rintro ⟨hcamel, hpascal⟩ entries rfl
    exact ⟨SortedMap.lookupIn_eq_none_iff.mp hcamel, SortedMap.lookupIn_eq_none_iff.mp hpascal⟩
  · intro h
    cases v with
    | object entries =>
      obtain ⟨hcamel, hpascal⟩ := h entries rfl
      exact ⟨SortedMap.lookupIn_eq_none_iff.mpr hcamel, SortedMap.lookupIn_eq_none_iff.mpr hpascal⟩
    | null | bool | int | double | string | array => exact ⟨rfl, rfl⟩

theorem ofSlot_eq_null_iff : ofSlot slot = .null ↔ slot = .null := by
  constructor
  · intro h
    cases slot with
    | null => rfl
    | bool | int | double | string | array | object =>
      rw [ofSlot] at h
      · split at h <;> cases h
      · intro hnull
        cases hnull
  · rintro rfl
    rfl

theorem ofSlot_eq_present_iff {s : CallStatus} : ofSlot slot = .present s ↔ Shape slot s := by
  rw [← CallStatus.ofJson?_eq_some_iff]
  constructor
  · intro h
    cases hread : CallStatus.ofJson? slot with
    | none =>
      unfold ofSlot at h
      split at h
      · cases h
      · rw [hread] at h
        cases h
    | some t =>
      rw [ofSlot_of_ofJson? hread] at h
      cases h
      rfl
  · exact ofSlot_of_ofJson?

theorem ofSlot_ne_absent : ofSlot slot ≠ .absent := by
  intro h
  unfold ofSlot at h
  split at h
  · cases h
  · split at h <;> cases h

/-- What a slot amounts to is invalid if it is neither of the other two. -/
theorem ofSlot_eq_invalid_iff :
    ofSlot slot = .invalid ↔ slot ≠ .null ∧ ∀ s, ¬ Shape slot s := by
  simp only [ne_eq, ← ofSlot_eq_null_iff, ← ofSlot_eq_present_iff]
  cases hfield : ofSlot slot with
  | absent => exact absurd hfield ofSlot_ne_absent
  | null | invalid | present => simp

/-- The field is absent exactly if the value has no slot. -/
theorem ofJson_eq_absent_iff : ofJson v = .absent ↔ ¬ ∃ slot, Slot v slot := by
  constructor
  · rintro habsent ⟨slot, hslot⟩
    rw [hslot.ofJson_eq] at habsent
    exact ofSlot_ne_absent habsent
  · intro hnone
    cases hfound : (v.get? key).or (v.get? pascalKey) with
    | none => rw [ofJson, hfound]
    | some slot => exact absurd ⟨slot, slot_iff.mpr hfound⟩ hnone

/-- Any other field is what some slot amounts to. -/
theorem ofJson_eq_iff_ofSlot {field : StatusField} (hfield : field ≠ .absent) :
    ofJson v = field ↔ ∃ slot, Slot v slot ∧ ofSlot slot = field := by
  constructor
  · rintro rfl
    have hsome : ∃ slot, Slot v slot := by
      by_contra hnone
      exact hfield (ofJson_eq_absent_iff.mpr hnone)
    obtain ⟨slot, hslot⟩ := hsome
    exact ⟨slot, hslot, hslot.ofJson_eq.symm⟩
  · rintro ⟨slot, hslot, rfl⟩
    exact hslot.ofJson_eq

/-- What a JSON value shows where its status belongs. -/
inductive Shown (v : Json) : StatusField → Prop where
  | absent : (∀ entries, v = .object entries →
      key ∉ entries.map Prod.fst ∧ pascalKey ∉ entries.map Prod.fst) → Shown v .absent
  | null : Slot v .null → Shown v .null
  | present {slot : Json} {s : CallStatus} : Slot v slot → Shape slot s → Shown v (.present s)
  | invalid {slot : Json} : Slot v slot → slot ≠ .null → (∀ s, ¬ Shape slot s) → Shown v .invalid

/-- The field read off a value is what the value shows. -/
theorem ofJson_eq_iff {field : StatusField} : ofJson v = field ↔ Shown v field := by
  cases field with
  | absent =>
    rw [ofJson_eq_absent_iff, no_slot_iff]
    constructor
    · exact .absent
    · rintro (hnone | _ | _ | _)
      exact hnone
  | null =>
    rw [ofJson_eq_iff_ofSlot (by simp)]
    constructor
    · rintro ⟨slot, hslot, hnull⟩
      obtain rfl := ofSlot_eq_null_iff.mp hnull
      exact .null hslot
    · rintro (_ | hslot | _ | _)
      exact ⟨.null, hslot, rfl⟩
  | present s =>
    rw [ofJson_eq_iff_ofSlot (by simp)]
    constructor
    · rintro ⟨slot, hslot, hpresent⟩
      exact .present hslot (ofSlot_eq_present_iff.mp hpresent)
    · rintro (_ | _ | ⟨hslot, hshape⟩ | _)
      exact ⟨_, hslot, ofSlot_eq_present_iff.mpr hshape⟩
  | invalid =>
    rw [ofJson_eq_iff_ofSlot (by simp)]
    constructor
    · rintro ⟨slot, hslot, hinvalid⟩
      obtain ⟨hnull, hshape⟩ := ofSlot_eq_invalid_iff.mp hinvalid
      exact .invalid hslot hnull hshape
    · rintro (_ | _ | _ | ⟨hslot, hnull, hshape⟩)
      exact ⟨_, hslot, ofSlot_eq_invalid_iff.mpr ⟨hnull, hshape⟩⟩

end StatusField

end CallChain
