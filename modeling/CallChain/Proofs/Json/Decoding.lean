import CallChain.Proofs.Data.SortedMap
import CallChain.Proofs.Json.RoundTrip

/-!
# Decoding what was written

The document of a held value decodes (`Held.value?_document`).  Whole numbers and texts come back as they
were; a double may come back as another double, so `reread` names what a value comes back as.  An object
comes back with the same keys, in key order, and every value reread.

A record is read by the keys of its members.  Where the keys are distinct, each field is found by its
key, wherever it stands (`fields_document`).
-/

set_option autoImplicit false

namespace CallChain.Json

open Document

/-- What a value comes back as. -/
def reread (room : Nat) (v : Json) : Json := ((document v).value? room).getD .null

section

variable {room : Nat}

theorem value?_document_iff {v : Json} :
    (document v).value? room = some (reread room v) ↔ ((document v).value? room).isSome = true := by
  unfold reread
  cases (document v).value? room with
  | none => simp
  | some j => simp

theorem values?_documents {items : List Json}
    (h : ∀ v ∈ items, (document v).value? room = some (reread room v)) :
    Document.values? room (documents items) = some (items.map (reread room)) := by
  induction items with
  | nil => rfl
  | cons v items ih =>
    obtain ⟨hv, hitems⟩ := List.forall_mem_cons.mp h
    rw [documents, Document.values?, hv, ih hitems]
    rfl

theorem entries?_members {entries : List (String × Json)}
    (h : ∀ e ∈ entries, (document e.2).value? room = some (reread room e.2)) :
    Document.entries? room (members entries) =
      some (entries.map fun e => (e.1, reread room e.2)) := by
  induction entries with
  | nil => rfl
  | cons e entries ih =>
    obtain ⟨k, v⟩ := e
    obtain ⟨hv, hentries⟩ := List.forall_mem_cons.mp h
    rw [members, Document.entries?, textOf?_escaped, hv, ih hentries]
    rfl

/-- A held value decodes. -/
theorem Held.value?_document {v : Json} (h : Held room v) :
    (document v).value? room = some (reread room v) := by
  rw [value?_document_iff]
  -- the depth goes down with the value, as `Held` has it
  induction h with
  | null => rfl
  | bool => rfl
  | int hlow hhigh =>
    show (Numeral.value? _).isSome = true
    rw [Numeral.value?_ofInt hlow hhigh]
    rfl
  | double hfinite => exact Numeral.isSome_value?_ofDouble hfinite
  | string =>
    show ((textOf? _).map _).isSome = true
    rw [textOf?_escaped]
    rfl
  | array hitems ih =>
    show ((Document.values? _ _).map _).isSome = true
    rw [values?_documents fun v hv => value?_document_iff.mpr (ih v hv)]
    rfl
  | object hentries ih =>
    show ((Document.entries? _ _).map _).isSome = true
    rw [entries?_members fun e he => value?_document_iff.mpr (ih e he)]
    rfl

theorem reread_eq {v j : Json} (h : (document v).value? room = some j) : reread room v = j := by
  rw [reread, h]
  rfl

theorem reread_int {n : Int} (hlow : -2 ^ 63 ≤ n) (hhigh : n < 2 ^ 64) :
    reread room (.int n) = .int n :=
  reread_eq (Numeral.value?_ofInt hlow hhigh)

theorem reread_string (s : String) : reread room (.string s) = .string s := by
  apply reread_eq
  show (textOf? _).map _ = _
  rw [textOf?_escaped]
  rfl

theorem reread_array {items : List Json} (h : ∀ v ∈ items, Held room v) :
    reread (room + 1) (.array items) = .array (items.map (reread room)) := by
  apply reread_eq
  show (Document.values? _ _).map _ = _
  rw [values?_documents fun v hv => (h v hv).value?_document]
  rfl

/-- An object comes back with its entries in key order. -/
theorem reread_object {entries : List (String × Json)} (h : ∀ e ∈ entries, Held room e.2) :
    reread (room + 1) (.object entries) =
      .ofEntries (entries.map fun e => (e.1, reread room e.2)) := by
  apply reread_eq
  show (Document.entries? _ _).map _ = _
  rw [entries?_members fun e he => (h e he).value?_document]
  rfl

/-- An object comes back with the value that its key leads to. -/
theorem get?_reread {entries : List (String × Json)} (hkeys : (entries.map Prod.fst).Nodup)
    (hheld : ∀ e ∈ entries, Held room e.2) (k : String) :
    (reread (room + 1) (.object entries)).get? k =
      (SortedMap.lookupIn k entries).map (reread room) := by
  rw [reread_object hheld]
  show (SortedMap.ofList _).get? k = _
  rw [SortedMap.get?_ofList (by rwa [SortedMap.map_fst_map]), SortedMap.lookupIn_map]

/-- A held value is parsed as what it comes back as. -/
theorem Held.parse?_write {v : Json} (h : Held greatestDepth v) :
    parse? (write v) = some (reread greatestDepth v) := by
  unfold parse?
  rw [h.read?_write]
  exact h.value?_document

end

namespace Reader

theorem run?_write {α : Type} {read : Reader α} {room : Nat} {v : Json} (h : Held room v) :
    read.run? (write v) = read greatestDepth (document v) := by
  unfold Reader.run?
  rw [h.read?_write]
  rfl

theorem members?_members (entries : List (String × Json)) :
    members? (members entries) = some (entries.map fun e => (e.1, document e.2)) := by
  induction entries with
  | nil => rfl
  | cons e entries ih =>
    obtain ⟨k, v⟩ := e
    rw [members, members?, textOf?_escaped, ih]
    rfl

/-- Where keys are distinct, a field is what its key leads to. -/
theorem field?_of_nodup {key : String} {entries : List (String × Document)}
    (hkeys : (entries.map Prod.fst).Nodup) :
    field? key entries = some (SortedMap.lookupIn key entries) := by
  induction entries with
  | nil => rfl
  | cons e entries ih =>
    obtain ⟨k, d⟩ := e
    obtain ⟨hk, hentries⟩ := List.nodup_cons.mp hkeys
    by_cases h : key = k
    · -- no second member has the key
      subst h
      have hnone : entries.filter (fun e => e.1 == key) = [] := by
        rw [List.filter_eq_nil_iff]
        intro e he heq
        exact hk (List.mem_map.mpr ⟨e, he, eq_of_beq heq⟩)
      simp [field?, hnone, SortedMap.lookupIn]
    · have hfilter : ((k, d) :: entries).filter (fun e => e.1 == key) =
          entries.filter (fun e => e.1 == key) := by
        rw [List.filter_cons_of_neg]
        simpa using Ne.symm h
      have hlookup : SortedMap.lookupIn key ((k, d) :: entries) = SortedMap.lookupIn key entries :=
        if_neg h
      rw [hlookup, ← ih hentries, field?, hfilter]
      rfl

/-- The fields of a record are found by their keys. -/
theorem fields_document {keys : List String} {entries : List (String × Json)} (room : Nat)
    (hkeys : (entries.map Prod.fst).Nodup) :
    fields keys (room + 1) (document (.object entries)) =
      some (room, keys.map fun k => (SortedMap.lookupIn k entries).map document) := by
  have hkeys' : ((entries.map fun e => (e.1, document e.2)).map Prod.fst).Nodup := by
    rwa [SortedMap.map_fst_map]
  have hfound (keys : List String) :
      (keys.mapM fun k => field? k (entries.map fun e => (e.1, document e.2))) =
        some (keys.map fun k => (SortedMap.lookupIn k entries).map document) := by
    induction keys with
    | nil => rfl
    | cons k keys ih =>
      rw [List.mapM_cons, ih, field?_of_nodup hkeys', SortedMap.lookupIn_map]
      rfl
  show (members? (members entries)).bind _ = _
  rw [members?_members, Option.bind_some, hfound]
  rfl

end Reader

end CallChain.Json
