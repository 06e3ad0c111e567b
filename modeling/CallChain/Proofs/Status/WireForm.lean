import CallChain.Call.Reply
import CallChain.Proofs.Json.Decoding

/-!
# The written form of a call status

A status is written as an object of its four fields.  Neither the order of the fields nor that of the
messages is fixed, so `CallStatus.Writes s v` takes in every value that says the same.  Three readers
have to agree on such a value: the one that reads a record from the written text
(`reader_document`), the one that takes a decoded JSON value apart (`ofJson?_reread`), and the one of an
envelope, which uses the first inside an optional field.  `roundTrip` puts them side by side.
-/

set_option autoImplicit false

namespace CallChain

open Json (Held document reread members)
open Json.Reader (members? field? fields)

namespace CallStatus

/-- The value that writes messages, in the order given. -/
def messageObject (texts : List (String × String)) : Json :=
  .object (texts.map fun e => (e.1, .string e.2))

/-- The entries of a status, in field order, for its messages in some order. -/
def entriesWith (s : CallStatus) (texts : List (String × String)) : List (String × Json) :=
  [("code", .int s.code), ("message", messageObject texts), ("stack", .texts s.stack),
    ("description", .string s.description)]

/-- A value that writes a status: an object of the four fields, in any order, with the messages in any
order. -/
def Writes (s : CallStatus) (v : Json) : Prop :=
  ∃ entries texts, v = .object entries ∧ entries.Perm (s.entriesWith texts) ∧
    texts.Perm s.message.entries

/-- A code of 64 bits with a sign. -/
def HasInt64Code (s : CallStatus) : Prop := int64Bounds.1 ≤ s.code ∧ s.code ≤ int64Bounds.2

section

variable {s : CallStatus} {room : Nat} {entries : List (String × Json)}
  {texts : List (String × String)}

theorem nodup_of_perm (h : entries.Perm (s.entriesWith texts)) : (entries.map Prod.fst).Nodup := by
  have hnodup : ((s.entriesWith texts).map Prod.fst).Nodup := by
    show ["code", "message", "stack", "description"].Nodup
    decide
  exact (h.map Prod.fst).symm.nodup hnodup

theorem lookupIn_of_perm (h : entries.Perm (s.entriesWith texts)) :
    SortedMap.lookupIn "code" entries = some (.int s.code) ∧
    SortedMap.lookupIn "message" entries = some (messageObject texts) ∧
    SortedMap.lookupIn "stack" entries = some (.texts s.stack) ∧
    SortedMap.lookupIn "description" entries = some (.string s.description) := by
  have hsame (k : String) : SortedMap.lookupIn k entries =
      SortedMap.lookupIn k (s.entriesWith texts) :=
    SortedMap.lookupIn_perm h (nodup_of_perm h) k
  simp [hsame, entriesWith, SortedMap.lookupIn]

/-- A status nests two deep. -/
theorem held_of_perm (room : Nat) (hcode : s.HasInt64Code) (h : entries.Perm (s.entriesWith texts)) :
    ∀ e ∈ entries, Held (room + 1) e.2 := by
  obtain ⟨hlow, hhigh⟩ := hcode
  unfold int64Bounds at hlow hhigh
  intro e he
  rw [h.mem_iff] at he
  simp only [entriesWith, List.mem_cons, List.not_mem_nil, or_false] at he
  rcases he with rfl | rfl | rfl | rfl
  · exact .int (by omega) (by omega)
  · refine .object fun e he => ?_
    obtain ⟨e', -, rfl⟩ := List.mem_map.mp he
    exact .string
  · refine .array fun v hv => ?_
    obtain ⟨t, -, rfl⟩ := List.mem_map.mp hv
    exact .string
  · exact .string

theorem Writes.held {v : Json} (room : Nat) (hcode : s.HasInt64Code) (h : s.Writes v) : Held (room + 2) v := by
  obtain ⟨entries, texts, rfl, hentries, -⟩ := h
  exact .object (held_of_perm _ hcode hentries)

/-- The record that is read from the written text. -/
theorem text_document (text : String) :
    Json.Reader.text room (document (.string text)) = some text :=
  Json.textOf?_escaped text

theorem map_text_document (h : texts.Perm s.message.entries) :
    Json.Reader.map Json.Reader.text (room + 1) (document (messageObject texts)) =
      some s.message := by
  have hread (texts : List (String × String)) :
      ((texts.map fun e => (e.1, Json.string e.2)).map fun e => (e.1, document e.2)).mapM
        (fun e => (Json.Reader.text room e.2).map fun v => (e.1, v)) = some texts := by
    induction texts with
    | nil => rfl
    | cons e texts ih =>
      rw [List.map_cons, List.map_cons, List.mapM_cons, ih]
      show ((Json.Reader.text room (document (.string e.2))).map _).bind _ = _
      rw [text_document]
      rfl
  show (members? (members _)).bind _ = _
  rw [Json.Reader.members?_members, Option.bind_some, hread]
  show some (SortedMap.ofList texts) = _
  rw [SortedMap.ofList_of_perm h]

theorem list_text_document (items : List String) :
    Json.Reader.list Json.Reader.text (room + 1) (document (.texts items)) = some items := by
  show (Json.documents (items.map .string)).mapM (Json.Reader.text room) = _
  induction items with
  | nil => rfl
  | cons t items ih =>
    rw [List.map_cons, Json.documents, List.mapM_cons, ih, text_document]
    rfl

theorem integer_document (hcode : s.HasInt64Code) :
    Json.Reader.integer int64Bounds.1 int64Bounds.2 room (document (.int s.code)) = some s.code := by
  have hbounds := hcode
  obtain ⟨hlow, hhigh⟩ := hcode
  unfold int64Bounds at hlow hhigh
  show Json.Numeral.integer? _ _ (.ofInt s.code) = _
  unfold Json.Numeral.integer?
  rw [Json.Numeral.value?_ofInt (by omega) (by omega)]
  exact if_pos hbounds

/-- The record read from a document is the status that was written. -/
theorem reader_document {v : Json} (room : Nat) (hcode : s.HasInt64Code) (h : s.Writes v) :
    reader (room + 2) (document v) = some s := by
  obtain ⟨entries, texts, rfl, hentries, htexts⟩ := h
  obtain ⟨hcode', hmessage, hstack, hdescription⟩ := lookupIn_of_perm hentries
  have hfields : fields fieldNames (room + 2) (document (.object entries)) =
      some (room + 1, [some (document (.int s.code)), some (document (messageObject texts)),
        some (document (.texts s.stack)), some (document (.string s.description))]) := by
    rw [Json.Reader.fields_document _ (nodup_of_perm hentries)]
    simp [fieldNames, hcode', hmessage, hstack, hdescription]
  unfold reader
  rw [hfields]
  simp [Json.Reader.withDefault, integer_document hcode, map_text_document htexts,
    list_text_document, text_document]

/-- The messages come back in key order. -/
theorem reread_messageObject (h : texts.Perm s.message.entries) :
    reread (room + 1) (messageObject texts) =
      .object (s.message.entries.map fun e => (e.1, .string e.2)) := by
  have hheld : ∀ e ∈ texts.map (fun e => (e.1, Json.string e.2)), Held room e.2 := by
    intro e he
    obtain ⟨e', -, rfl⟩ := List.mem_map.mp he
    exact .string
  have hmap : (texts.map fun e => (e.1, Json.string e.2)).map (fun e => (e.1, reread room e.2)) =
      texts.map fun e => (e.1, Json.string e.2) := by
    rw [List.map_map]
    apply List.map_congr_left
    intro e he
    show (e.1, reread room (.string e.2)) = _
    rw [Json.reread_string]
  have hperm : (texts.map fun e => (e.1, Json.string e.2)).Perm
      (s.message.mapValues Json.string).entries := h.map _
  rw [messageObject, Json.reread_object hheld, hmap, Json.ofEntries, SortedMap.ofList_of_perm hperm]
  rfl

theorem messageOfJson?_entries (m : SortedMap String String) :
    messageOfJson? (.object (m.entries.map fun e => (e.1, .string e.2))) = some m := by
  have hread (texts : List (String × String)) :
      (texts.map fun e => (e.1, Json.string e.2)).mapM
        (fun e => (textOfJson? e.2).map fun s => (e.1, s)) = some texts := by
    induction texts with
    | nil => rfl
    | cons e texts ih =>
      rw [List.map_cons, List.mapM_cons, ih]
      rfl
  unfold messageOfJson?
  dsimp only
  rw [hread]
  show some (SortedMap.ofList m.entries) = _
  rw [SortedMap.ofList_of_perm (List.Perm.refl _)]

theorem reread_texts (items : List String) : reread (room + 1) (.texts items) = .texts items := by
  have hheld : ∀ v ∈ items.map Json.string, Held room v := by
    intro v hv
    obtain ⟨t, -, rfl⟩ := List.mem_map.mp hv
    exact .string
  rw [Json.texts, Json.reread_array hheld, List.map_map]
  congr 1
  apply List.map_congr_left
  intro t ht
  exact Json.reread_string t

theorem stackOfJson?_texts (items : List String) : stackOfJson? (.texts items) = some items := by
  show (items.map Json.string).mapM textOfJson? = _
  induction items with
  | nil => rfl
  | cons t items ih =>
    rw [List.map_cons, List.mapM_cons, ih]
    rfl

/-- The status taken from a decoded value is the one that was written. -/
theorem ofJson?_reread {v : Json} (room : Nat) (hcode : s.HasInt64Code) (h : s.Writes v) :
    ofJson? (reread (room + 2) v) = some s := by
  obtain ⟨entries, texts, rfl, hentries, htexts⟩ := h
  obtain ⟨hcode', hmessage, hstack, hdescription⟩ := lookupIn_of_perm hentries
  have hget := Json.get?_reread (nodup_of_perm hentries) (held_of_perm room hcode hentries)
  have hint : reread (room + 1) (.int s.code) = .int s.code := by
    obtain ⟨hlow, hhigh⟩ := hcode
    unfold int64Bounds at hlow hhigh
    exact Json.reread_int (by omega) (by omega)
  have hobject : ∃ l, reread (room + 2) (.object entries) = .object l :=
    ⟨_, Json.reread_object (held_of_perm _ hcode hentries)⟩
  have hread : ofJson? (reread (room + 2) (.object entries)) =
      ofFields? (some (.int s.code)) (some (.object (s.message.entries.map fun e => (e.1, .string e.2))))
        (some (.texts s.stack)) (some (.string s.description)) := by
    obtain ⟨l, hl⟩ := hobject
    rw [hl] at hget ⊢
    unfold ofJson?
    dsimp only
    rw [hget, hget, hget, hget, hcode', hmessage, hstack, hdescription]
    simp only [Option.map_some, hint, reread_messageObject htexts, reread_texts, Json.reread_string]
  rw [hread]
  have hcode'' : codeOfJson? (.int s.code) = some s.code := if_pos hcode
  simp [ofFields?, fieldOfJson?, hcode'', messageOfJson?_entries, stackOfJson?_texts, textOfJson?]

/-- In the place of a status, the value that writes it shows it. -/
theorem ofSlot_reread {v : Json} (room : Nat) (hcode : s.HasInt64Code) (h : s.Writes v) :
    StatusField.ofSlot (reread (room + 2) v) = .present s := by
  have hread := ofJson?_reread room hcode h
  obtain ⟨entries, texts, rfl, hentries, -⟩ := h
  obtain ⟨l, hl⟩ : ∃ l, reread (room + 2) (.object entries) = .object l :=
    ⟨_, Json.reread_object (held_of_perm _ hcode hentries)⟩
  rw [hl] at hread ⊢
  unfold StatusField.ofSlot
  dsimp only
  rw [hread]

end

end CallStatus

/-- A reply of some type, whatever it was before, shows a status once a body has been decoded into
it. -/
def Shows (ρ : Type) [Reply ρ] (body : Bytes) (s : CallStatus) : Prop :=
  ∀ reply : ρ, ∃ reply', Reply.decode? reply body = some reply' ∧
    Reply.statusField reply' = .present s

namespace CallStatus

section

variable {s : CallStatus} {v : Json} {entries : List (String × Json)}

theorem parse?_write (hcode : s.HasInt64Code) (h : s.Writes v) : parse? (Json.write v) = some s := by
  unfold parse?
  rw [Json.Reader.run?_write (h.held 125 hcode)]
  exact reader_document 125 hcode h

/-- A JSON value shows the status under either key, the first of which goes before the second. -/
theorem shows_json (hkeys : (entries.map Prod.fst).Nodup)
    (hheld : Held Json.greatestDepth (.object entries)) (hcode : s.HasInt64Code) (h : s.Writes v)
    (hslot : (SortedMap.lookupIn StatusField.key entries).or
      (SortedMap.lookupIn StatusField.pascalKey entries) = some v) :
    Shows Json (Json.write (.object entries)) s := by
  intro reply
  refine ⟨_, hheld.parse?_write, ?_⟩
  cases hheld with
  | object hentries =>
    show StatusField.ofJson (reread (126 + 1) (.object entries)) = _
    unfold StatusField.ofJson
    rw [Json.get?_reread hkeys hentries, Json.get?_reread hkeys hentries, ← Option.map_or, hslot]
    exact ofSlot_reread 124 hcode h

/-- An envelope shows the status under its key, whatever the payload, as long as that can be read. -/
theorem shows_envelope {α : Type} [Payload α] (hkeys : (entries.map Prod.fst).Nodup)
    (hheld : Held Json.greatestDepth (.object entries)) (hcode : s.HasInt64Code) (h : s.Writes v)
    (hslot : (StatusField.key, v) ∈ entries)
    (hdata : ∀ data, ("data", data) ∈ entries →
      (Json.Reader.orNull (Payload.reader : Json.Reader α) (Json.greatestDepth - 1)
        (document data)).isSome = true) :
    Shows (Envelope α) (Json.write (.object entries)) s := by
  have hfields : fields Envelope.fieldNames Json.greatestDepth (document (.object entries)) =
      some (126, [(SortedMap.lookupIn "callStatus" entries).map document,
        (SortedMap.lookupIn "data" entries).map document]) :=
    Json.Reader.fields_document 126 hkeys
  have hstatus : SortedMap.lookupIn "callStatus" entries = some v :=
    (SortedMap.lookupIn_eq_some_iff hkeys).mpr hslot
  have hread : Json.Reader.orNull CallStatus.reader 126 (document v) = some (some s) := by
    have hreader := reader_document 124 hcode h
    obtain ⟨_, _, rfl, -⟩ := h
    show (CallStatus.reader 126 _).map some = _
    rw [hreader]
    rfl
  have hpayload : ∃ data, Json.Reader.withDefault (Json.Reader.orNull (Payload.reader : Json.Reader α)) none
      126 ((SortedMap.lookupIn "data" entries).map document) = some data := by
    cases hl : SortedMap.lookupIn "data" entries with
    | none => exact ⟨none, rfl⟩
    | some data =>
      exact Option.isSome_iff_exists.mp
        (hdata data ((SortedMap.lookupIn_eq_some_iff hkeys).mp hl))
  obtain ⟨data, hpayload⟩ := hpayload
  intro reply
  refine ⟨⟨some s, data⟩, ?_, rfl⟩
  show (Envelope.reader Payload.reader).run? _ = _
  rw [Json.Reader.run?_write hheld]
  unfold Envelope.reader
  rw [hfields, hstatus]
  show (Json.Reader.orNull CallStatus.reader 126 (document v)).bind _ = _
  rw [hread]
  show (Json.Reader.withDefault _ none 126 _).bind _ = _
  rw [hpayload]
  rfl

/-- A JSON value as a payload can always be read. -/
theorem isSome_orNull_any {room : Nat} (h : Held room v) :
    (Json.Reader.orNull (Payload.reader : Json.Reader Json) room (document v)).isSome = true := by
  unfold Json.Reader.orNull
  split
  · rfl
  · rw [Option.isSome_map]
    show ((document v).value? room).isSome = true
    rw [h.value?_document]
    rfl

/-- The object that is written in the first place. -/
theorem writes_toJson (s : CallStatus) : s.Writes s.toJson := by
  refine ⟨_, s.message.entries, rfl, ?_, List.Perm.refl _⟩
  exact SortedMap.perm_ofList (nodup_of_perm (List.Perm.refl _))

end

/-- A status is read back from its written form.  Alone, the text is read as the status; in an object
next to whatever else a document can hold, it is shown by a JSON value under either key, and by an
envelope with any payload that can be read, a JSON value among them. -/
theorem reads_back (s : CallStatus) (hcode : s.HasInt64Code) :
    s.Writes s.toJson ∧
    ∀ v, s.Writes v →
      parse? (Json.write v) = some s ∧
      ∀ entries : List (String × Json), (entries.map Prod.fst).Nodup →
        Held Json.greatestDepth (.object entries) →
        ((StatusField.key, v) ∈ entries →
          Shows Json (Json.write (.object entries)) s ∧
          Shows (Envelope Json) (Json.write (.object entries)) s ∧
          ∀ (α : Type) [Payload α],
            (∀ data, ("data", data) ∈ entries →
              (Json.Reader.orNull (Payload.reader : Json.Reader α) (Json.greatestDepth - 1)
                (document data)).isSome = true) →
            Shows (Envelope α) (Json.write (.object entries)) s) ∧
        ((StatusField.pascalKey, v) ∈ entries → StatusField.key ∉ entries.map Prod.fst →
          Shows Json (Json.write (.object entries)) s) := by
  refine ⟨writes_toJson s, fun v hv => ⟨parse?_write hcode hv, ?_⟩⟩
  intro entries hkeys hheld
  -- an envelope has no second key for the status
  constructor
  · intro hslot
    have hlookup : SortedMap.lookupIn StatusField.key entries = some v :=
      (SortedMap.lookupIn_eq_some_iff hkeys).mpr hslot
    refine ⟨shows_json hkeys hheld hcode hv (by rw [hlookup]; rfl), ?_, ?_⟩
    · apply shows_envelope hkeys hheld hcode hv hslot
      intro data hdata
      cases hheld with
      | object hentries => exact isSome_orNull_any (hentries _ hdata)
    · intro α _ hdata
      exact shows_envelope hkeys hheld hcode hv hslot hdata
  · intro hslot hmissing
    have hlookup : SortedMap.lookupIn StatusField.pascalKey entries = some v :=
      (SortedMap.lookupIn_eq_some_iff hkeys).mpr hslot
    have hnone : SortedMap.lookupIn StatusField.key entries = none :=
      SortedMap.lookupIn_eq_none_iff.mpr hmissing
    exact shows_json hkeys hheld hcode hv (by rw [hlookup, hnone]; rfl)

/-- A status with a negative code, and quotes, a backslash, control characters and letters beyond ASCII
in its texts. -/
def sample : CallStatus :=
  ⟨-7, .ofList [("zh", "请求\x0a失败"), ("en", "a \"b\" \\c")], ["code:-7,message:\u0001"], "\x00\x7f"⟩

theorem reads_back_sample :
    parse? (Json.write sample.toJson) = some sample ∧
    Shows (Envelope Json) (Json.write (.object
      [("data", .array [.double ⟨Binary64.infinityWord - 1⟩, .int (-2 ^ 63)]),
        (StatusField.key, sample.toJson)])) sample := by
  have hcode : sample.HasInt64Code := by
    unfold HasInt64Code
    decide
  obtain ⟨hwrites, hread⟩ := reads_back sample hcode
  obtain ⟨hparse, hobject⟩ := hread _ hwrites
  have hheld : Held Json.greatestDepth (.object
      [("data", .array [.double ⟨Binary64.infinityWord - 1⟩, .int (-2 ^ 63)]),
        (StatusField.key, sample.toJson)]) := by
    refine @Held.object 126 _ ?_
    intro e he
    simp only [List.mem_cons, List.not_mem_nil, or_false] at he
    rcases he with rfl | rfl
    · refine @Held.array 125 _ ?_
      intro v hv
      simp only [List.mem_cons, List.not_mem_nil, or_false] at hv
      rcases hv with rfl | rfl
      · exact .double (by decide +kernel)
      · exact .int (by decide) (by decide)
    · exact hwrites.held 124 hcode
  obtain ⟨hpresent, -⟩ := hobject _ (by decide) hheld
  exact ⟨hparse, (hpresent (by simp)).2.1⟩

end CallStatus

end CallChain
