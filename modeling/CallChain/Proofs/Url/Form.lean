import CallChain.Proofs.Url.Percent
import CallChain.Text.Split
import CallChain.Url.Form
import Mathlib.Data.List.Basic

/-!
# What form encoding writes is found again

A query is read as pairs: the pieces between the `&` that are not empty, each cut at its first `=`, name and
value decoded to bytes (`Form.decode`).  A text that was encoded is decoded to its own bytes
(`Form.decodePart_encode`), and neither `&` nor `=` is left in it.  So pairs added to a query stand behind
those that it had, each as it was given (`Form.decode_appendPairs`).
-/

set_option autoImplicit false

namespace CallChain

namespace Form

/-- Name and value of one piece of a query, without a value if there is no `=`. -/
def decodePiece (piece : List Char) : Bytes × Bytes :=
  match Text.splitFirst '=' piece with
  | some (name, value) =>
    (decodePart (Bytes.ofText (String.ofList name)), decodePart (Bytes.ofText (String.ofList value)))
  | none => (decodePart (Bytes.ofText (String.ofList piece)), [])

/-- The pairs that a query carries, in order. -/
def decode (query : String) : List (Bytes × Bytes) :=
  ((Text.splitAll '&' query.toList).filter (· ≠ [])).map decodePiece

/-- The bytes of a pair of texts. -/
def bytesOf (p : String × String) : Bytes × Bytes := (Bytes.ofText p.1, Bytes.ofText p.2)

/-! ## One text -/

/-- A character that stands for itself is a letter, a numeral or one of four marks. -/
theorem mem_of_isPlain {c : Char} (h : isPlain c = true) :
    (0x30 ≤ c.toNat ∧ c.toNat ≤ 0x39) ∨ (0x41 ≤ c.toNat ∧ c.toNat ≤ 0x5A) ∨
      (0x61 ≤ c.toNat ∧ c.toNat ≤ 0x7A) ∨ c ∈ "*-._".toList := by
  have halpha : c.isAlpha = (c.isUpper || c.isLower) := rfl
  have hupper : c.isUpper = decide ('A'.val ≤ c.val ∧ c.val ≤ 'Z'.val) := rfl
  have hlower : c.isLower = (decide ('a'.val ≤ c.val) && decide (c.val ≤ 'z'.val)) := rfl
  simp only [isPlain, Char.isAlphanum, halpha, hupper, hlower, Char.isDigit, Bool.or_eq_true,
    Bool.and_eq_true, decide_eq_true_eq, List.contains_iff_mem] at h
  obtain ((hupper | hlower) | hdigit) | hmark := h
  · exact .inr (.inl hupper)
  · exact .inr (.inr (.inl hlower))
  · exact .inl hdigit
  · exact .inr (.inr (.inr hmark))

/-- Such a character is visible, of ASCII, and neither a plus sign nor `%`. -/
theorem bounds_of_isPlain {c : Char} (h : isPlain c = true) :
    (0x20 < c.toNat ∧ c.toNat < 0x7F) ∧ c.toNat ≠ 0x2B ∧ c.toNat ≠ 0x25 := by
  obtain hdigit | hupper | hlower | hmark := mem_of_isPlain h
  · omega
  · omega
  · omega
  · have hall : ∀ d ∈ "*-._".toList,
        (0x20 < d.toNat ∧ d.toNat < 0x7F) ∧ d.toNat ≠ 0x2B ∧ d.toNat ≠ 0x25 :=
          List.all_iff_forall_prop.mp (by decide)
    exact hall c hmark

/-- What is in the place of a plus sign. -/
def spaced (b : UInt8) : UInt8 := if b = 0x2B then 0x20 else b

theorem decodePart_eq (s : Bytes) : decodePart s = Percent.decode (s.map spaced) := rfl

/-- No byte that is written for a byte is a plus sign. -/
theorem map_spaced_encodeByte (b : UInt8) :
    ((Percent.encodeByte b).flatMap String.utf8EncodeChar).map spaced =
      (Percent.encodeByte b).flatMap String.utf8EncodeChar := by
  have hmarks : ∀ c ∈ Percent.marks, (String.utf8EncodeChar c).map spaced = String.utf8EncodeChar c :=
    List.all_iff_forall_prop.mp (by decide)
  rw [List.map_flatMap]
  exact List.flatMap_congr fun c hc => hmarks c (Percent.mem_marks_of_mem_encodeByte hc)

/-- Encoded bytes are decoded to themselves. -/
theorem decodePart_encodeBytes (bs s : Bytes) :
    decodePart ((bs.flatMap Percent.encodeByte).flatMap String.utf8EncodeChar ++ s) =
      bs ++ decodePart s := by
  induction bs with
  | nil => rfl
  | cons b bs ih =>
    rw [decodePart_eq] at ih ⊢
    rw [List.flatMap_cons, List.flatMap_append, List.append_assoc, List.map_append,
      map_spaced_encodeByte, Percent.decode_encodeByte, ih]
    rfl

/-- One character that was encoded is decoded to its own bytes. -/
theorem decodePart_encodeChar (c : Char) (s : Bytes) :
    decodePart ((encodeChar c).flatMap String.utf8EncodeChar ++ s) =
      String.utf8EncodeChar c ++ decodePart s := by
  unfold encodeChar
  split
  next hspace =>
    have hplus : (['+'] : List Char).flatMap String.utf8EncodeChar = [0x2B] := by decide
    have hblank : String.utf8EncodeChar ' ' = [0x20] := by decide
    rw [hspace, hplus, hblank, decodePart_eq, List.singleton_append, List.map_cons]
    show Percent.decode (0x20 :: s.map spaced) = _
    rw [Percent.decode_cons_of_ne (by decide)]
    rfl
  next =>
    split
    next hplain =>
      obtain ⟨⟨-, hascii⟩, hplus, hpercent⟩ := bounds_of_isPlain hplain
      have hbyte : (UInt8.ofNat c.toNat).toNat = c.toNat := by
        rw [UInt8.toNat_ofNat']
        exact Nat.mod_eq_of_lt (by omega)
      have hne (n : UInt8) (h : c.toNat ≠ n.toNat) : UInt8.ofNat c.toNat ≠ n := fun heq =>
        h (hbyte.symm.trans (congrArg UInt8.toNat heq))
      have hkept : spaced (UInt8.ofNat c.toNat) = UInt8.ofNat c.toNat := if_neg (hne 0x2B hplus)
      rw [List.flatMap_singleton, Bytes.utf8EncodeChar_ascii (by omega), decodePart_eq,
        List.singleton_append, List.map_cons, hkept, Percent.decode_cons_of_ne (hne 0x25 hpercent)]
      rfl
    next => exact decodePart_encodeBytes _ s

/-- A text that was encoded is decoded to its own bytes. -/
theorem decodePart_encode (s : String) : decodePart (Bytes.ofText (encode s)) = Bytes.ofText s := by
  have hchars (cs : List Char) :
      decodePart ((cs.flatMap encodeChar).flatMap String.utf8EncodeChar) =
        cs.flatMap String.utf8EncodeChar := by
    induction cs with
    | nil => rfl
    | cons c cs ih =>
      rw [List.flatMap_cons, List.flatMap_append, decodePart_encodeChar, ih, List.flatMap_cons]
  rw [encode, Bytes.ofText_ofList, hchars, ← Bytes.ofText_eq]

/-! ## Many pairs -/

/-- The characters that encoding a text for a form can leave. -/
def leaves (c : Char) : Bool := isPlain c || c == '+' || Percent.marks.contains c

theorem leaves_of_mem_encode {s : String} {c : Char} (h : c ∈ (encode s).toList) : leaves c = true := by
  rw [encode, String.toList_ofList] at h
  obtain ⟨x, -, hc⟩ := List.mem_flatMap.mp h
  unfold encodeChar at hc
  split at hc
  · rw [List.mem_singleton.mp hc]
    decide
  · split at hc
    next hplain =>
      rw [List.mem_singleton.mp hc]
      simp [leaves, hplain]
    next =>
      obtain ⟨b, -, hb⟩ := List.mem_flatMap.mp hc
      simp [leaves, Percent.mem_marks_of_mem_encodeByte hb]

theorem not_mem_encode {s : String} {c : Char} (h : leaves c = false) : c ∉ (encode s).toList := by
  intro hc
  rw [leaves_of_mem_encode hc] at h
  cases h

theorem toList_encodePair (p : String × String) :
    (encodePair p).toList = (encode p.1).toList ++ '=' :: (encode p.2).toList := by
  simp [encodePair]

theorem not_mem_encodePair {p : String × String} {c : Char} (h : leaves c = false) (hne : c ≠ '=') :
    c ∉ (encodePair p).toList := by
  rw [toList_encodePair, List.mem_append, List.mem_cons]
  rintro (hname | heq | hvalue)
  · exact not_mem_encode h hname
  · exact hne heq
  · exact not_mem_encode h hvalue

/-- A pair that was encoded is decoded to its own bytes. -/
theorem decode_encodePair (p : String × String) : decode (encodePair p) = [bytesOf p] := by
  have hpiece : Text.splitAll '&' (encodePair p).toList = [(encodePair p).toList] :=
    Text.splitAll_of_not_mem (not_mem_encodePair (by decide) (by decide))
  have hcut : Text.splitFirst '=' (encodePair p).toList =
      some ((encode p.1).toList, (encode p.2).toList) :=
    Text.splitFirst_eq_some_iff.mpr ⟨not_mem_encode (by decide), toList_encodePair p⟩
  have hne : (encodePair p).toList ≠ [] := by
    rw [toList_encodePair]
    simp
  rw [decode, hpiece, List.filter_cons_of_pos (by simpa using hne), List.filter_nil, List.map_cons,
    List.map_nil, decodePiece, hcut]
  simp only [String.ofList_toList, decodePart_encode]
  rfl

/-- Queries with `&` between them carry the pairs of both. -/
theorem decode_append (q r : String) : decode (q ++ "&" ++ r) = decode q ++ decode r := by
  have hlist : (q ++ "&" ++ r).toList = q.toList ++ '&' :: r.toList := by simp
  rw [decode, hlist, Text.splitAll_append_cons, List.filter_append, List.map_append]
  rfl

theorem decode_empty : decode "" = [] := rfl

/-- Pairs that are added to a query stand behind those that it carries. -/
theorem decode_appendPairs (query : String) (pairs : List (String × String)) :
    decode (appendPairs query pairs) = decode query ++ pairs.map bytesOf := by
  induction pairs generalizing query with
  | nil => simp [appendPairs]
  | cons p pairs ih =>
    have hfirst : decode ((if query = "" then "" else query ++ "&") ++ encodePair p) =
        decode query ++ [bytesOf p] := by
      split
      next hempty => rw [hempty, String.empty_append, decode_encodePair, decode_empty, List.nil_append]
      next => rw [decode_append, decode_encodePair]
    show decode (appendPairs ((if query = "" then "" else query ++ "&") ++ encodePair p) pairs) = _
    rw [ih, hfirst, List.append_assoc]
    rfl

/-- A query with pairs added holds the characters that it had, those of encoded texts, and marks between
them. -/
theorem mem_appendPairs {query : String} {pairs : List (String × String)} {c : Char}
    (h : c ∈ (appendPairs query pairs).toList) :
    c ∈ query.toList ∨ c = '&' ∨ c = '=' ∨ leaves c = true := by
  induction pairs generalizing query with
  | nil => exact .inl h
  | cons p pairs ih =>
    have hpair {x : Char} (hx : x ∈ (encodePair p).toList) : x = '=' ∨ leaves x = true := by
      rw [toList_encodePair, List.mem_append, List.mem_cons] at hx
      obtain hname | heq | hvalue := hx
      · exact .inr (leaves_of_mem_encode hname)
      · exact .inl heq
      · exact .inr (leaves_of_mem_encode hvalue)
    have hstep : c ∈ (appendPairs ((if query = "" then "" else query ++ "&") ++ encodePair p) pairs).toList := h
    obtain hfirst | hrest := ih hstep
    · split at hfirst
      · rw [String.empty_append] at hfirst
        exact .inr (.inr (hpair hfirst))
      · rw [String.toList_append, String.toList_append, List.mem_append, List.mem_append] at hfirst
        obtain (hquery | hmark) | hnew := hfirst
        · exact .inl hquery
        · exact .inr (.inl (by simpa using hmark))
        · exact .inr (.inr (hpair hnew))
    · exact .inr hrest

end Form

end CallChain
