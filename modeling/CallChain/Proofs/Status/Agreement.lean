import CallChain.Call.Reply
import CallChain.Proofs.Json.Agreement

/-!
# A status read off a body and off the value of the body

A status can be read off a document, as an envelope does it, or off the value that the document writes, as a
JSON value does it.  Both come to the same (`CallStatus.agrees_reader`), for objects and for arrays, with
fields missing or not.  So an envelope and the value of the same object show the same status; where there is
none, the envelope shows nothing and the value may show that the key is missing
(`Envelope.shows_of_decode`).
-/

set_option autoImplicit false

namespace CallChain

open Json (Fills)
open Json.Reader (Agrees)

namespace CallStatus

theorem agrees_text : Agrees Json.Reader.text textOfJson? := by
  intro room d v s hv hs
  unfold Json.Reader.text at hs
  split at hs
  next raw =>
    rw [Json.Document.value?, hs] at hv
    cases hv
    rfl
  next => cases hs

theorem agrees_code : Agrees (Json.Reader.integer int64Bounds.1 int64Bounds.2) codeOfJson? := by
  have heq : codeOfJson? = Json.integerOf? int64Bounds.1 int64Bounds.2 := by
    funext v
    cases v <;> rfl
  rw [heq]
  exact Json.Reader.agrees_integer _ _

theorem agrees_message : Agrees (Json.Reader.map Json.Reader.text) messageOfJson? := by
  have heq : messageOfJson? = Json.mapOf? textOfJson? := by
    funext v
    cases v <;> rfl
  rw [heq]
  exact Json.Reader.agrees_map agrees_text

theorem agrees_stack : Agrees (Json.Reader.list Json.Reader.text) stackOfJson? := by
  have heq : stackOfJson? = Json.listOf? textOfJson? := by
    funext v
    cases v <;> rfl
  rw [heq]
  exact Json.Reader.agrees_list agrees_text

theorem fieldOfJson?_of_fills {α : Type} {read : Json.Reader α} {f : Json → Option α} {room : Nat}
    {d? : Option Json.Document} {v? : Option Json} {default a : α} (h : Agrees read f)
    (hfills : Fills room d? v?) (ha : Json.Reader.withDefault read default room d? = some a) :
    fieldOfJson? f default v? = some a := by
  cases hfills with
  | none => exact ha
  | some hv => exact h hv ha

/-- A status is made of four fields, in an object or in an array. -/
theorem ofJson?_eq_fields (v : Json) :
    ofJson? v = (Json.fieldsOf? fieldNames v).bind fun fields =>
      match fields with
      | [code, message, stack, description] => ofFields? code message stack description
      | _ => none := by
  cases v with
  | array items =>
    match items with
    | [] | [_] | [_, _] | [_, _, _] | [_, _, _, _] => rfl
    | a :: b :: c :: d :: e :: rest =>
      have hlong : ¬ (a :: b :: c :: d :: e :: rest).length ≤ 4 := by simp
      have hlong' : ¬ (a :: b :: c :: d :: e :: rest).length ≤ fieldNames.length := hlong
      rw [ofJson?, if_neg hlong, Json.fieldsOf?, if_neg hlong']
      rfl
  | object | null | bool | int | double | string => rfl

theorem agrees_reader : Agrees reader ofJson? := by
  intro room d v s hv hs
  obtain ⟨⟨room', found⟩, hfields, hs⟩ := Option.bind_eq_some_iff.mp hs
  obtain ⟨vs, hvs, hfills⟩ := Json.Reader.forall₂_of_fields hv hfields
  rw [ofJson?_eq_fields, hvs]
  dsimp only at hs
  split at hs
  next code message stack description =>
    obtain ⟨c, hc, hs⟩ := Option.bind_eq_some_iff.mp hs
    obtain ⟨m, hm, hs⟩ := Option.bind_eq_some_iff.mp hs
    obtain ⟨t, ht, hs⟩ := Option.bind_eq_some_iff.mp hs
    obtain ⟨e, he, hs⟩ := Option.bind_eq_some_iff.mp hs
    obtain _ | ⟨hcode, _ | ⟨hmessage, _ | ⟨hstack, _ | ⟨hdescription, _ | _⟩⟩⟩⟩ := hfills
    show ofFields? _ _ _ _ = some s
    rw [ofFields?, fieldOfJson?_of_fills agrees_code hcode hc,
      fieldOfJson?_of_fills agrees_message hmessage hm, fieldOfJson?_of_fills agrees_stack hstack ht,
      fieldOfJson?_of_fills agrees_text hdescription he]
    exact hs
  next => cases hs

end CallStatus

namespace StatusField

/-- A value that is read as a status is not `null`. -/
theorem ofSlot_of_ofJson? {v : Json} {s : CallStatus} (h : CallStatus.ofJson? v = some s) :
    ofSlot v = .present s := by
  cases v with
  | null => cases h
  | object | array | bool | int | double | string => rw [ofSlot, h]; intro hnull; cases hnull

end StatusField

namespace Envelope

variable {α : Type} [Payload α]

/-- An envelope shows what stands under the key of the status in the object it was decoded from. -/
theorem status_of_decode {reply e : Envelope α} {body : Bytes} {entries : List (String × Json)}
    (hvalue : Json.parse? body = some (.object entries))
    (hdecode : Reply.decode? reply body = some e) :
    match (Json.object entries).get? StatusField.key with
    | none => e.callStatus = none
    | some slot => StatusField.ofSlot slot = .ofOption e.callStatus := by
  obtain ⟨d, hd, hv⟩ := Option.bind_eq_some_iff.mp hvalue
  obtain ⟨d', hd', he⟩ := Option.bind_eq_some_iff.mp hdecode
  obtain rfl := Option.some.inj (hd.symm.trans hd')
  obtain ⟨⟨room, found⟩, hfields, he⟩ := Option.bind_eq_some_iff.mp he
  obtain ⟨vs, hvs, hfills⟩ := Json.Reader.forall₂_of_fields hv hfields
  cases hvs
  dsimp only at he
  split at he
  next status data =>
    obtain ⟨s, hs, he⟩ := Option.bind_eq_some_iff.mp he
    obtain ⟨x, -, he⟩ := Option.bind_eq_some_iff.mp he
    cases he
    obtain ⟨slot, _, hslot, -, heq⟩ := List.forall₂_cons_left_iff.mp hfills
    obtain rfl : (Json.object entries).get? StatusField.key = slot := (List.cons.inj heq).1
    cases hget : (Json.object entries).get? StatusField.key with
    | none =>
      rw [hget] at hslot
      cases hslot
      exact (Option.some.inj hs).symm
    | some v =>
      rw [hget] at hslot
      cases hslot with
      | some hv =>
        dsimp only [Json.Reader.withDefault] at hs ⊢
        unfold Json.Reader.orNull at hs
        split at hs
        next =>
          cases hs
          cases hv
          rfl
        next =>
          obtain ⟨s', hs', rfl⟩ := Option.map_eq_some_iff.mp hs
          exact StatusField.ofSlot_of_ofJson? (CallStatus.agrees_reader hv hs')
  next => cases he

/-- An envelope and the value of the same object show the same, or both show that there is no status. -/
theorem shows_of_decode {reply e : Envelope α} {body : Bytes} {entries : List (String × Json)}
    (hvalue : Json.parse? body = some (.object entries))
    (hpascal : ((Json.object entries).get? StatusField.pascalKey).isSome →
      ((Json.object entries).get? StatusField.key).isSome)
    (hdecode : Reply.decode? reply body = some e) :
    StatusField.ofJson (.object entries) = Reply.statusField e ∨
      (StatusField.ofJson (.object entries) = .absent ∧ Reply.statusField e = .null) := by
  have hstatus := status_of_decode hvalue hdecode
  unfold StatusField.ofJson
  cases hkey : (Json.object entries).get? StatusField.key with
  | some slot =>
    rw [hkey] at hstatus
    exact .inl hstatus
  | none =>
    rw [hkey] at hstatus hpascal
    have hmissing : (Json.object entries).get? StatusField.pascalKey = none := by
      cases hother : (Json.object entries).get? StatusField.pascalKey with
      | none => rfl
      | some v => exact absurd (hpascal (by rw [hother]; rfl)) Bool.false_ne_true
    rw [hmissing]
    exact .inr ⟨rfl, congrArg StatusField.ofOption hstatus⟩

end Envelope

end CallChain
