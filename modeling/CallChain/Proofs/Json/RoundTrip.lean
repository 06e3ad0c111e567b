import CallChain.Proofs.Json.Printed
import CallChain.Proofs.Json.Text

/-!
# Values written and read back

`Held room v` says that a value can stand in a document: its whole numbers fit 64 bits, its doubles are
finite, and it nests at most `room` deep.  What is written for such a value is read as one document, the
one that `document` takes apart by the value itself (`read?_write`), and decoding never fails on it
(`isSome_value?_document`).  The bytes that may follow a value are those of `Stops`; they carry the
induction through arrays and objects.
-/

set_option autoImplicit false

namespace CallChain.Json

open Document

/-- A value that a document can hold when arrays and objects nest at most `room` deep. -/
inductive Held : Nat → Json → Prop where
  | null {room : Nat} : Held room .null
  | bool {room : Nat} {b : Bool} : Held room (.bool b)
  | int {room : Nat} {n : Int} (hlow : -2 ^ 63 ≤ n) (hhigh : n < 2 ^ 64) : Held room (.int n)
  | double {room : Nat} {x : Binary64} (hfinite : x.isInfinite = false) : Held room (.double x)
  | string {room : Nat} {s : String} : Held room (.string s)
  | array {room : Nat} {items : List Json} (hitems : ∀ v ∈ items, Held room v) :
      Held (room + 1) (.array items)
  | object {room : Nat} {entries : List (String × Json)} (hentries : ∀ e ∈ entries, Held room e.2) :
      Held (room + 1) (.object entries)

mutual

/-- What is written for a value, taken apart. -/
def document : Json → Document
  | .null => .null
  | .bool b => .bool b
  | .int n => .number (.ofInt n)
  | .double x => .number (.ofDouble x)
  | .string s => .string (escaped s)
  | .array items => .array (documents items)
  | .object entries => .object (members entries)

def documents : List Json → List Document
  | [] => []
  | v :: r => document v :: documents r

def members : List (String × Json) → List (Bytes × Document)
  | [] => []
  | (k, v) :: r => (escaped k, document v) :: members r

end

/-- Whatever may follow it, a value is read back as its document. -/
def Reads (v : Json) : Prop :=
  ∀ fuel rest, 2 * (write v).length ≤ fuel → Stops rest →
    readValue? fuel (write v ++ rest) = some (document v, rest)

theorem skipBlanks_cons {b : UInt8} {r : Bytes} (hb : isBlank b = false) :
    skipBlanks (b :: r) = b :: r := by
  rw [skipBlanks, List.dropWhile_cons_of_neg]
  simp [hb]

/-- A byte that a value can start with. -/
def Starts (b : UInt8) : Prop := isBlank b = false ∧ b ≠ byte ']' ∧ b ≠ 0x7D

theorem starts_numeral {b : UInt8} (hb : b = byte '-' ∨ ∃ d, d < 10 ∧ b = digitByte d) :
    Starts b ∧ b ≠ byte 'n' ∧ b ≠ byte 't' ∧ b ≠ byte 'f' ∧ b ≠ 0x22 ∧ b ≠ byte '[' ∧ b ≠ 0x7B := by
  rcases hb with rfl | ⟨d, hd, rfl⟩
  · unfold Starts
    decide
  · unfold Starts
    revert d
    decide

/-- A number is read as the numeral that was written for it. -/
theorem readValue?_bytes {n : Numeral} (hn : n.WellFormed) {fuel : Nat} {rest : Bytes}
    (hfuel : 0 < fuel) (hrest : Stops rest) :
    readValue? fuel (n.bytes ++ rest) = some (.number n, rest) := by
  obtain ⟨fuel, rfl⟩ := Nat.exists_eq_add_of_lt hfuel
  obtain ⟨b, tail, hbytes, hb⟩ := Numeral.head_bytes hn
  obtain ⟨⟨hblank, -⟩, hn', ht, hf, hquote, hbracket, hbrace⟩ := starts_numeral hb
  have hread := Numeral.readNumeral?_bytes hn hrest
  rw [hbytes] at hread ⊢
  rw [List.cons_append] at hread ⊢
  rw [Nat.zero_add, readValue?, skipBlanks_cons hblank]
  simp [hn', ht, hf, hquote, hbracket, hbrace, hread]

/-- A held value starts with a byte of its own kind. -/
theorem Held.starts {room : Nat} {v : Json} (h : Held room v) :
    ∃ b tail, write v = b :: tail ∧ Starts b := by
  have hstart (b : UInt8) (tail : Bytes) (hb : Starts b) : ∃ b' tail', b :: tail = b' :: tail' ∧
      Starts b' := ⟨b, tail, rfl, hb⟩
  have hnumeral {n : Numeral} (hn : n.WellFormed) : ∃ b tail, n.bytes = b :: tail ∧ Starts b := by
    obtain ⟨b, tail, hbytes, hb⟩ := Numeral.head_bytes hn
    exact ⟨b, tail, hbytes, (starts_numeral hb).1⟩
  cases h with
  | null => exact hstart _ _ (by unfold Starts; decide)
  | @bool _ b => cases b <;> exact hstart _ _ (by unfold Starts; decide)
  | int hlow hhigh =>
    rw [write, Numeral.ofText_int]
    exact hnumeral (Numeral.wellFormed_ofInt _)
  | double hfinite =>
    rw [write, Numeral.ofText_doubleText]
    exact hnumeral (Numeral.wellFormed_ofDouble hfinite)
  | string => exact hstart _ _ (by unfold Starts; decide)
  | array hitems => exact hstart _ _ (by unfold Starts; decide)
  | object hentries => exact hstart _ _ (by unfold Starts; decide)

section

variable {rest : Bytes}

theorem stops_bracket : Stops (byte ']' :: rest) := by
  intro b hb
  exact .inr (.inl (Option.some.inj hb).symm)

theorem stops_comma : Stops (byte ',' :: rest) := by
  intro b hb
  exact .inl (Option.some.inj hb).symm

theorem stops_brace : Stops (0x7D :: rest) := by
  intro b hb
  exact .inr (.inr (Option.some.inj hb).symm)

/-- Items are read up to the closing bracket. -/
theorem readItems?_writeItems {items : List Json} (hne : items ≠ []) (hread : ∀ v ∈ items, Reads v)
    {fuel : Nat} (hfuel : 2 * (writeItems items).length + 1 ≤ fuel) :
    readItems? fuel (writeItems items ++ byte ']' :: rest) = some (documents items, rest) := by
  -- an item and the comma behind it use up more text than the one unit of fuel
  induction items generalizing fuel with
  | nil => exact absurd rfl hne
  | cons v items ih =>
    obtain ⟨fuel, rfl⟩ := Nat.exists_eq_add_of_lt (Nat.lt_of_lt_of_le (Nat.succ_pos _) hfuel)
    obtain ⟨hv, hitems⟩ := List.forall_mem_cons.mp hread
    rw [Nat.zero_add] at hfuel ⊢
    cases items with
    | nil =>
      have hlength : 2 * (write v).length ≤ fuel := Nat.le_of_succ_le_succ hfuel
      show readItems? (fuel + 1) (write v ++ byte ']' :: rest) = _
      have hblank : isBlank (byte ']') = false := by decide
      simp [readItems?, hv fuel _ hlength stops_bracket, skipBlanks_cons hblank, documents]
    | cons w items =>
      have hwritten : writeItems (v :: w :: items) = write v ++ byte ',' :: writeItems (w :: items) := by
        rw [writeItems, List.append_assoc]
        rfl
      rw [hwritten] at hfuel ⊢
      rw [List.length_append, List.length_cons] at hfuel
      have hnext : readItems? fuel (writeItems (w :: items) ++ byte ']' :: rest) = _ :=
        ih (List.cons_ne_nil w items) hitems (by omega)
      have hcomma : isBlank (byte ',') = false := by decide
      have hbracket : byte ',' ≠ byte ']' := by decide
      rw [List.append_assoc, List.cons_append]
      simp [readItems?, hv fuel _ (by omega) stops_comma, skipBlanks_cons hcomma, hbracket, hnext,
        documents]

/-- An entry is read up to its value. -/
theorem writeEntry_eq (k : String) (v : Json) (tail : Bytes) :
    writeString k ++ Bytes.ofText ":" ++ write v ++ tail =
      0x22 :: (escaped k ++ 0x22 :: byte ':' :: (write v ++ tail)) := by
  rw [writeString_eq]
  simp
  rfl

/-- Members are read up to the closing brace. -/
theorem readMembers?_writeEntries {entries : List (String × Json)} (hne : entries ≠ [])
    (hread : ∀ e ∈ entries, Reads e.2) {fuel : Nat}
    (hfuel : 2 * (writeEntries entries).length + 1 ≤ fuel) :
    readMembers? fuel (writeEntries entries ++ 0x7D :: rest) = some (members entries, rest) := by
  have hquote : isBlank 0x22 = false := by decide
  have hcolon : isBlank (byte ':') = false := by decide
  have hbrace : isBlank 0x7D = false := by decide
  have hcomma : isBlank (byte ',') = false := by decide
  induction entries generalizing fuel with
  | nil => exact absurd rfl hne
  | cons e entries ih =>
    obtain ⟨k, v⟩ := e
    obtain ⟨fuel, rfl⟩ := Nat.exists_eq_add_of_lt (Nat.lt_of_lt_of_le (Nat.succ_pos _) hfuel)
    obtain ⟨hv, hentries⟩ := List.forall_mem_cons.mp hread
    rw [Nat.zero_add] at hfuel ⊢
    cases entries with
    | nil =>
      have hwritten : writeEntries [(k, v)] = writeString k ++ Bytes.ofText ":" ++ write v := rfl
      have hlength : 2 * (write v).length ≤ fuel := by
        rw [hwritten, List.length_append] at hfuel
        omega
      rw [hwritten, writeEntry_eq]
      simp [readMembers?, skipBlanks_cons hquote, readString?_escaped, skipBlanks_cons hcolon,
        hv fuel _ hlength stops_brace, skipBlanks_cons hbrace, members]
    | cons e entries =>
      have hwritten : writeEntries ((k, v) :: e :: entries) =
          writeString k ++ Bytes.ofText ":" ++ write v ++ byte ',' :: writeEntries (e :: entries) := by
        rw [writeEntries, List.append_assoc]
        rfl
      rw [hwritten] at hfuel ⊢
      rw [List.length_append, List.length_append, List.length_cons] at hfuel
      have hnext : readMembers? fuel (writeEntries (e :: entries) ++ 0x7D :: rest) = _ :=
        ih (List.cons_ne_nil e entries) hentries (by omega)
      have hlength : 2 * (write v).length ≤ fuel := by omega
      have hbrace' : byte ',' ≠ 0x7D := by decide
      rw [List.append_assoc, List.cons_append, writeEntry_eq]
      simp [readMembers?, skipBlanks_cons hquote, readString?_escaped, skipBlanks_cons hcolon,
        hv fuel _ hlength stops_comma, skipBlanks_cons hcomma, hbrace', hnext, members]

end

theorem afterWord?_append (word rest : Bytes) : afterWord? word (word ++ rest) = some rest := by
  induction word with
  | nil => rfl
  | cons w word ih => simp [afterWord?, ih]

theorem reads_of_bytes {v : Json} {n : Numeral} (hn : n.WellFormed) (hwritten : write v = n.bytes)
    (hdocument : document v = .number n) : Reads v := by
  intro fuel rest hfuel hrest
  obtain ⟨b, tail, hbytes, -⟩ := Numeral.head_bytes hn
  have hpos : 0 < (write v).length := by
    rw [hwritten, hbytes]
    exact Nat.succ_pos _
  rw [hwritten, hdocument]
  exact readValue?_bytes hn (by omega) hrest

/-- The first byte of a value tells its kind; there is fuel left for the others. -/
theorem reads_of_cons {v : Json} {b : UInt8} {tail : Bytes} (hwritten : write v = b :: tail)
    (hread : ∀ fuel rest, 2 * tail.length + 1 ≤ fuel →
      readValue? (fuel + 1) (b :: (tail ++ rest)) = some (document v, rest)) : Reads v := by
  intro fuel rest hfuel _
  rw [hwritten] at hfuel ⊢
  rw [List.length_cons] at hfuel
  obtain ⟨fuel, rfl⟩ : ∃ n, fuel = n + 1 := ⟨fuel - 1, by omega⟩
  rw [List.cons_append]
  exact hread fuel rest (by omega)

theorem reads_array {items : List Json} (hread : ∀ v ∈ items, Reads v)
    (hstarts : ∀ v ∈ items, ∃ b tail, write v = b :: tail ∧ Starts b) : Reads (.array items) := by
  have hopening : isBlank (byte '[') = false := by decide
  have hclosing : isBlank (byte ']') = false := by decide
  have hkind : byte '[' ≠ byte 'n' ∧ byte '[' ≠ byte 't' ∧ byte '[' ≠ byte 'f' ∧ byte '[' ≠ 0x22 := by
    decide
  have hwritten : write (.array items) = byte '[' :: (writeItems items ++ [byte ']']) := rfl
  refine reads_of_cons hwritten fun fuel rest hfuel => ?_
  rw [List.length_append] at hfuel
  rw [List.append_assoc, readValue?, skipBlanks_cons hopening]
  cases items with
  | nil =>
    simp [hkind, writeItems, skipBlanks_cons hclosing, document, documents]
  | cons v items =>
    -- the first item must not be taken for the closing bracket
    obtain ⟨b, tail, hb, hblank, hbracket, -⟩ := hstarts v List.mem_cons_self
    have hitems : ∃ tail', writeItems (v :: items) = b :: tail' := by
      cases items with
      | nil => exact ⟨tail, hb⟩
      | cons w items => exact ⟨_, by rw [writeItems, hb]; rfl⟩
    obtain ⟨tail', hitems⟩ := hitems
    have hread' : readItems? fuel (writeItems (v :: items) ++ byte ']' :: rest) = _ :=
      readItems?_writeItems (List.cons_ne_nil v items) hread (by omega)
    rw [hitems] at hread' ⊢
    rw [List.cons_append] at hread' ⊢
    simp [hkind, skipBlanks_cons hblank, hbracket, hread', document]

theorem reads_object {entries : List (String × Json)} (hread : ∀ e ∈ entries, Reads e.2) :
    Reads (.object entries) := by
  have hopening : isBlank 0x7B = false := by decide
  have hclosing : isBlank 0x7D = false := by decide
  have hkind : (0x7B : UInt8) ≠ byte 'n' ∧ (0x7B : UInt8) ≠ byte 't' ∧ (0x7B : UInt8) ≠ byte 'f' ∧
      (0x7B : UInt8) ≠ byte '[' := by
    decide
  have hwritten : write (.object entries) = 0x7B :: (writeEntries entries ++ [0x7D]) := rfl
  refine reads_of_cons hwritten fun fuel rest hfuel => ?_
  rw [List.length_append] at hfuel
  rw [List.append_assoc, readValue?, skipBlanks_cons hopening]
  cases entries with
  | nil =>
    simp [hkind, writeEntries, skipBlanks_cons hclosing, document, members]
  | cons e entries =>
    have hquote : isBlank 0x22 = false := by decide
    have hentries : ∃ tail, writeEntries (e :: entries) = 0x22 :: tail := by
      cases entries with
      | nil => exact ⟨_, rfl⟩
      | cons e' entries => exact ⟨_, rfl⟩
    obtain ⟨tail, hentries⟩ := hentries
    have hread' : readMembers? fuel (writeEntries (e :: entries) ++ 0x7D :: rest) = _ :=
      readMembers?_writeEntries (List.cons_ne_nil e entries) hread (by omega)
    rw [hentries] at hread' ⊢
    rw [List.cons_append] at hread' ⊢
    simp [hkind, skipBlanks_cons hquote, hread', document]

theorem reads_null : Reads .null := by
  have hblank : isBlank (byte 'n') = false := by decide
  have hwritten : write .null = byte 'n' :: Bytes.ofText "ull" := rfl
  refine reads_of_cons hwritten fun fuel rest _ => ?_
  rw [readValue?, skipBlanks_cons hblank]
  simp [afterWord?_append, document]

theorem reads_bool (b : Bool) : Reads (.bool b) := by
  have htrue : byte 't' ≠ byte 'n' ∧ isBlank (byte 't') = false := by decide
  have hfalse : byte 'f' ≠ byte 'n' ∧ byte 'f' ≠ byte 't' ∧ isBlank (byte 'f') = false := by decide
  cases b with
  | true =>
    have hwritten : write (.bool true) = byte 't' :: Bytes.ofText "rue" := rfl
    refine reads_of_cons hwritten fun fuel rest _ => ?_
    rw [readValue?, skipBlanks_cons htrue.2]
    simp [htrue, afterWord?_append, document]
  | false =>
    have hwritten : write (.bool false) = byte 'f' :: Bytes.ofText "alse" := rfl
    refine reads_of_cons hwritten fun fuel rest _ => ?_
    rw [readValue?, skipBlanks_cons hfalse.2.2]
    simp [hfalse, afterWord?_append, document]

theorem reads_string (text : String) : Reads (.string text) := by
  have hkind : (0x22 : UInt8) ≠ byte 'n' ∧ (0x22 : UInt8) ≠ byte 't' ∧ (0x22 : UInt8) ≠ byte 'f' ∧
      isBlank 0x22 = false := by
    decide
  refine reads_of_cons (writeString_eq text) fun fuel rest _ => ?_
  rw [List.append_assoc, readValue?, skipBlanks_cons hkind.2.2.2]
  simp [hkind, readString?_escaped, document]

/-- What is written for a held value is read as its document. -/
theorem Held.reads {room : Nat} {v : Json} (h : Held room v) : Reads v := by
  induction h with
  | null => exact reads_null
  | bool => exact reads_bool _
  | int hlow hhigh => exact reads_of_bytes (Numeral.wellFormed_ofInt _) (Numeral.ofText_int _) rfl
  | double hfinite =>
    exact reads_of_bytes (Numeral.wellFormed_ofDouble hfinite) (Numeral.ofText_doubleText _) rfl
  | string => exact reads_string _
  | array hitems ih => exact reads_array ih fun v hv => (hitems v hv).starts
  | object hentries ih => exact reads_object ih

/-- A held value is read back from what was written for it. -/
theorem Held.read?_write {room : Nat} {v : Json} (h : Held room v) :
    Document.read? (write v) = some (document v) := by
  have hread := h.reads (2 * (write v).length + 2) [] (Nat.le_add_right _ 2) (by simp [Stops])
  rw [List.append_nil] at hread
  unfold Document.read?
  rw [hread]
  rfl

end CallChain.Json
