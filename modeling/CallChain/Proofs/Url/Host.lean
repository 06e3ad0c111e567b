import CallChain.Url.Reading
import Mathlib.Data.Bool.AllAny

/-!
# How hosts are written

The host of a URL of the web is written in the visible characters of ASCII, without any that would end the
authority or set off a port (`Host.Web.written`).  For a name that is so because neither mapping nor
Punycode leaves other characters; an IPv4 address has digits and points only, and the colons of an IPv6
address stand between its brackets.
-/

set_option autoImplicit false

namespace CallChain

namespace Text

/-- A character of joined pieces is a separator or in a piece. -/
theorem mem_intercalate {sep : List Char} {pieces : List (List Char)} {c : Char}
    (h : c ∈ List.intercalate sep pieces) : c ∈ sep ∨ ∃ piece ∈ pieces, c ∈ piece := by
  induction pieces with
  | nil => cases h
  | cons piece rest ih =>
    cases rest with
    | nil =>
      rw [List.intercalate_singleton] at h
      exact .inr ⟨piece, List.mem_cons_self, h⟩
    | cons next rest =>
      rw [List.intercalate_cons_cons, List.mem_append, List.mem_append] at h
      obtain (hpiece | hsep) | hrest := h
      · exact .inr ⟨piece, List.mem_cons_self, hpiece⟩
      · exact .inl hsep
      · obtain hsep | ⟨other, hother, hc⟩ := ih hrest
        · exact .inl hsep
        · exact .inr ⟨other, List.mem_cons_of_mem _ hother, hc⟩

theorem mem_of_mem_splitAll {sep : Char} {s piece : List Char} (h : piece ∈ splitAll sep s) {c : Char}
    (hc : c ∈ piece) : c ∈ s := by
  induction s generalizing piece with
  | nil =>
    rw [splitAll, List.mem_singleton] at h
    rw [h] at hc
    exact hc
  | cons x r ih =>
    rw [splitAll] at h
    split at h
    · rw [List.mem_cons] at h
      obtain rfl | h := h
      · cases hc
      · exact List.mem_cons_of_mem _ (ih h hc)
    · split at h
      next =>
        rw [List.mem_singleton.mp h, List.mem_singleton] at hc
        exact List.mem_cons.mpr (.inl hc)
      next first rest heq =>
        rw [heq] at ih
        obtain rfl | h := List.mem_cons.mp h
        · obtain rfl | hc := List.mem_cons.mp hc
          · exact List.mem_cons_self
          · exact List.mem_cons_of_mem _ (ih List.mem_cons_self hc)
        · exact List.mem_cons_of_mem _ (ih (List.mem_cons_of_mem _ h) hc)

end Text

/-! ## Punycode -/

namespace Punycode

/-- The letters and numerals of the digits. -/
def digits : List Char := "abcdefghijklmnopqrstuvwxyz0123456789".toList

theorem digit_mem_digits {n : Nat} (h : n < base) : digit n ∈ digits := by
  have hall : ∀ k : Fin 36, digit k ∈ digits := by decide
  exact hall ⟨n, h⟩

theorem mem_digits_of_mem_writeNumber {bias place n : Nat} {c : Char}
    (h : c ∈ writeNumber bias place n) : c ∈ digits := by
  induction n using Nat.strongRecOn generalizing place with
  | ind n ih =>
    have hbounds := threshold_bounds place bias
    rw [writeNumber] at h
    split at h
    next hlast =>
      rw [List.mem_singleton.mp h]
      exact digit_mem_digits (by unfold base; omega)
    next hmore =>
      obtain rfl | h := List.mem_cons.mp h
      · have hpos : 0 < base - threshold place bias := by unfold base; omega
        have hrest := Nat.mod_lt (n - threshold place bias) hpos
        exact digit_mem_digits (by omega)
      · refine ih _ ?_ h
        have hdiv := Nat.div_le_self (n - threshold place bias) (base - threshold place bias)
        omega

/-- Whether a character is one that the label starts with, or one that a number is written with. -/
def Stands (front : List Char) (c : Char) : Prop := c ∈ front ∨ c ∈ digits

theorem stands_pass {front : List Char} {point basic : Nat} {w : Writing}
    (h : ∀ c ∈ w.written, Stands front c) (x : Nat) :
    ∀ c ∈ (pass point basic w x).written, Stands front c := by
  intro c hc
  unfold pass at hc
  split at hc
  · exact h c hc
  · split at hc
    · obtain hold | hnew := List.mem_append.mp hc
      · exact h c hold
      · exact .inr (mem_digits_of_mem_writeNumber hnew)
    · exact h c hc

theorem stands_foldl_pass {front : List Char} {point basic : Nat} {w : Writing}
    (h : ∀ c ∈ w.written, Stands front c) (label : List Nat) :
    ∀ c ∈ (label.foldl (pass point basic) w).written, Stands front c := by
  induction label generalizing w with
  | nil => exact h
  | cons x label ih => exact ih (stands_pass h x)

theorem stands_round {front : List Char} {label : List Nat} {basic : Nat} {s : Writing × Nat}
    (h : ∀ c ∈ s.1.written, Stands front c) (point : Nat) :
    ∀ c ∈ (round label basic s point).1.written, Stands front c := by
  obtain ⟨w, next⟩ := s
  unfold round
  dsimp only
  refine stands_foldl_pass ?_ label
  exact h

theorem stands_foldl_round {front : List Char} {label : List Nat} {basic : Nat} {s : Writing × Nat}
    (h : ∀ c ∈ s.1.written, Stands front c) (points : List Nat) :
    ∀ c ∈ (points.foldl (round label basic) s).1.written, Stands front c := by
  induction points generalizing s with
  | nil => exact h
  | cons point points ih => exact ih (stands_round h point)

/-- Punycode writes the characters of ASCII that a label has, hyphens and digits. -/
theorem mem_encode {label : List Char} {c : Char} (h : c ∈ encode label) :
    (c ∈ label ∧ c.toNat < 0x80) ∨ c = '-' ∨ c ∈ digits := by
  obtain hfront | hdigit := stands_foldl_round (fun _ hx => .inl hx) _ c h
  · split at hfront
    · cases hfront
    · obtain hbasic | hhyphen := List.mem_append.mp hfront
      · obtain ⟨hlabel, hascii⟩ := List.mem_filter.mp hbasic
        exact .inl ⟨hlabel, of_decide_eq_true hascii⟩
      · exact .inr (.inl (List.mem_singleton.mp hhyphen))
  · exact .inr (.inr hdigit)

end Punycode

/-! ## Names -/

namespace Domain

/-- The characters that a domain name is written with. -/
def isWritten (c : Char) : Bool := !isForbidden c && !isWide c

theorem isWritten_of_mem_writeLabel {label : List Char} (hlabel : ∀ c ∈ label, isForbidden c = false)
    {c : Char} (h : c ∈ writeLabel label) : isWritten c = true := by
  unfold writeLabel at h
  split at h
  next hwide =>
    have hmark : ∀ c ∈ mark, isWritten c = true := List.all_iff_forall_prop.mp (by decide)
    have hdigits : ∀ c ∈ Punycode.digits, isWritten c = true := List.all_iff_forall_prop.mp (by decide)
    obtain hm | hencoded := List.mem_append.mp h
    · exact hmark c hm
    · obtain ⟨hc, hascii⟩ | rfl | hdigit := Punycode.mem_encode hencoded
      · have hnarrow : isWide c = false := by
          unfold isWide
          exact decide_eq_false (by omega)
        simp [isWritten, hlabel c hc, hnarrow]
      · decide
      · exact hdigits c hdigit
  next hwide =>
    have hnarrow : isWide c = false := by
      simp only [List.any_eq_true, not_exists, not_and, Bool.not_eq_true] at hwide
      exact hwide c h
    simp [isWritten, hlabel c h, hnarrow]

/-- A domain name is written without the characters that no domain name may hold, in ASCII. -/
theorem isWritten_of_ofText? {s name : String} (h : ofText? s = some name) :
    ∀ c ∈ name.toList, isWritten c = true := by
  obtain ⟨mapped, -, h⟩ := Option.bind_eq_some_iff.mp h
  dsimp only at h
  split at h
  · cases h
  next hallowed =>
    obtain ⟨letters, -, h⟩ := Option.bind_eq_some_iff.mp h
    split at h
    · cases h
      intro c hc
      rw [String.toList_ofList] at hc
      obtain hpoint | ⟨written, hwritten, hc⟩ := Text.mem_intercalate hc
      · rw [List.mem_singleton.mp hpoint]
        decide
      · obtain ⟨label, hlabel, rfl⟩ := List.mem_map.mp hwritten
        refine isWritten_of_mem_writeLabel (fun x hx => ?_) hc
        simp only [List.any_eq_true, not_exists, not_and, Bool.not_eq_true] at hallowed
        exact hallowed x (Text.mem_of_mem_splitAll hlabel hx)
    · cases h

end Domain

/-! ## Hosts -/

namespace Host

/-- A text that is read off as the host of an authority: it is not empty, has only visible characters none
of which ends the authority or the part before it, and is cut off at the colon of a port. -/
structure Written (text : List Char) : Prop where
  ne_nil : text ≠ []
  plain : ∀ c ∈ text, 0x20 < c.toNat ∧ c ∉ "/?#\\@".toList
  cutHost : ∀ rest : List Char, (rest = [] ∨ ∃ r, rest = ':' :: r) →
    Url.cutHost false (text ++ rest) = (text, rest)

theorem cutHost_port {rest : List Char} (h : rest = [] ∨ ∃ r, rest = ':' :: r) :
    Url.cutHost false rest = ([], rest) := by
  obtain rfl | ⟨r, rfl⟩ := h
  · rfl
  · simp [Url.cutHost]

/-- Outside of brackets, characters that neither set off a port nor open brackets are passed over. -/
theorem cutHost_append {text : List Char} (h : ∀ c ∈ text, c ≠ ':' ∧ c ≠ '[') (rest : List Char) :
    Url.cutHost false (text ++ rest) =
      (text ++ (Url.cutHost false rest).1, (Url.cutHost false rest).2) := by
  induction text with
  | nil => rfl
  | cons c text ih =>
    obtain ⟨⟨hcolon, hopen⟩, htext⟩ := List.forall_mem_cons.mp h
    rw [List.cons_append, Url.cutHost]
    simp [hcolon, hopen, ih htext]

/-- Inside of brackets, everything is passed over up to their end. -/
theorem cutHost_bracketed {text : List Char} (h : ∀ c ∈ text, c ≠ '[' ∧ c ≠ ']') (rest : List Char) :
    Url.cutHost true (text ++ ']' :: rest) =
      (text ++ ']' :: (Url.cutHost false rest).1, (Url.cutHost false rest).2) := by
  induction text with
  | nil => simp [Url.cutHost]
  | cons c text ih =>
    obtain ⟨⟨hopen, hclose⟩, htext⟩ := List.forall_mem_cons.mp h
    rw [List.cons_append, Url.cutHost]
    simp [hopen, hclose, ih htext]

/-- Without brackets, a host is written if its characters are those of a domain name. -/
theorem written_of_isWritten {text : List Char} (hne : text ≠ [])
    (h : ∀ c ∈ text, Domain.isWritten c = true) : Written text := by
  have hkeeps : ∀ c ∈ "/?#\\@:[".toList, Domain.isWritten c = false := List.all_iff_forall_prop.mp (by decide)
  have hnot {c d : Char} (hc : c ∈ text) (hd : d ∈ "/?#\\@:[".toList) : c ≠ d := by
    rintro rfl
    have hwritten := h c hc
    rw [hkeeps c hd] at hwritten
    cases hwritten
  refine ⟨hne, fun c hc => ⟨?_, fun hmem => ?_⟩, fun rest hrest => ?_⟩
  · have hc := h c hc
    simp only [Domain.isWritten, Domain.isForbidden, Bool.and_eq_true, Bool.not_eq_true',
      Bool.or_eq_false_iff, decide_eq_false_iff_not] at hc
    omega
  · have hsub : ∀ d ∈ "/?#\\@".toList, d ∈ "/?#\\@:[".toList := List.all_iff_forall_prop.mp (by decide)
    exact hnot hc (hsub c hmem) rfl
  · rw [cutHost_append (fun c hc => ⟨hnot hc (by decide), hnot hc (by decide)⟩) rest,
      cutHost_port hrest, List.append_nil]

/-- The digits of a number are those of its base. -/
theorem exists_of_mem_toDigits {b n : Nat} (hb : 1 < b) {c : Char} (h : c ∈ Nat.toDigits b n) :
    ∃ k < b, c = Nat.digitChar k := by
  induction n using Nat.strongRecOn with
  | ind n ih =>
    rw [Nat.toDigits_eq_if hb] at h
    split at h
    next hlt => exact ⟨n, hlt, List.mem_singleton.mp h⟩
    next hge =>
      obtain hfront | hlast := List.mem_append.mp h
      · exact ih (n / b) (Nat.div_lt_self (by omega) hb) hfront
      · exact ⟨n % b, Nat.mod_lt n (by omega), List.mem_singleton.mp hlast⟩

theorem toList_toString (n : Nat) : (toString n).toList = Nat.toDigits 10 n := by
  show n.repr.toList = _
  rw [Nat.repr_eq_ofList_toDigits, String.toList_ofList]

theorem isWritten_of_mem_repr {n : Nat} {c : Char} (h : c ∈ (toString n).toList) :
    Domain.isWritten c = true := by
  rw [toList_toString] at h
  obtain ⟨k, hk, rfl⟩ := exists_of_mem_toDigits (by decide) h
  have hall : ∀ k : Fin 10, Domain.isWritten (Nat.digitChar k) = true := by decide
  exact hall ⟨k, hk⟩

theorem mem_joinWith {sep : String} {pieces : List String} {c : Char}
    (h : c ∈ (Text.joinWith sep pieces).toList) :
    c ∈ sep.toList ∨ ∃ piece ∈ pieces, c ∈ piece.toList := by
  induction pieces with
  | nil => cases h
  | cons piece rest ih =>
    cases rest with
    | nil => exact .inr ⟨piece, List.mem_cons_self, h⟩
    | cons next rest =>
      rw [Text.joinWith, String.toList_append, String.toList_append, List.mem_append,
        List.mem_append] at h
      · obtain (hpiece | hsep) | hrest := h
        · exact .inr ⟨piece, List.mem_cons_self, hpiece⟩
        · exact .inl hsep
        · obtain hsep | ⟨other, hother, hc⟩ := ih hrest
          · exact .inl hsep
          · exact .inr ⟨other, List.mem_cons_of_mem _ hother, hc⟩
      · exact fun heq => by cases heq

theorem written_ipv4 (address : Nat) : Written (Ipv4.render address).toList := by
  refine written_of_isWritten ?_ fun c hc => ?_
  · simp [Ipv4.render, Text.joinWith]
  · obtain hpoint | ⟨piece, hpiece, hc⟩ := mem_joinWith hc
    · have hall : ∀ c ∈ ".".toList, Domain.isWritten c = true := List.all_iff_forall_prop.mp (by decide)
      exact hall c hpoint
    · obtain ⟨i, -, rfl⟩ := List.mem_map.mp hpiece
      exact isWritten_of_mem_repr hc

/-- Between its brackets, an IPv6 address has hexadecimal digits and colons. -/
theorem mem_render_ipv6 {pieces : List Nat} {c : Char} (h : c ∈ (Ipv6.render pieces).toList) :
    c ∈ "0123456789abcdef:".toList := by
  have hhex {n : Nat} {c : Char} (hc : c ∈ (Ipv6.hexText n).toList) :
      c ∈ "0123456789abcdef:".toList := by
    rw [Ipv6.hexText, String.toList_ofList] at hc
    obtain ⟨k, hk, rfl⟩ := exists_of_mem_toDigits (by decide) hc
    have hall : ∀ k : Fin 16, Nat.digitChar k ∈ "0123456789abcdef:".toList := by decide
    exact hall ⟨k, hk⟩
  have hcolon : ∀ c ∈ ":".toList, c ∈ "0123456789abcdef:".toList := List.all_iff_forall_prop.mp (by decide)
  have hwrite {l : List Nat} {c : Char}
      (hc : c ∈ (Text.joinWith ":" (l.map Ipv6.hexText)).toList) : c ∈ "0123456789abcdef:".toList := by
    obtain hsep | ⟨piece, hpiece, hc⟩ := mem_joinWith hc
    · exact hcolon c hsep
    · obtain ⟨n, -, rfl⟩ := List.mem_map.mp hpiece
      exact hhex hc
  unfold Ipv6.render at h
  dsimp only at h
  split at h
  · exact hwrite h
  · rw [String.toList_append, String.toList_append, List.mem_append, List.mem_append] at h
    obtain (hfront | hgap) | hback := h
    · exact hwrite hfront
    · have hgaps : ∀ c ∈ "::".toList, c ∈ "0123456789abcdef:".toList :=
        List.all_iff_forall_prop.mp (by decide)
      exact hgaps c hgap
    · exact hwrite hback

theorem written_ipv6 (pieces : List Nat) : Written (render (.ipv6 pieces)).toList := by
  have hlist : (render (.ipv6 pieces)).toList = '[' :: ((Ipv6.render pieces).toList ++ [']']) := by
    simp [render]
  have hbody : ∀ c ∈ "0123456789abcdef:".toList,
      (0x20 < c.toNat ∧ c ∉ "/?#\\@".toList) ∧ c ≠ '[' ∧ c ≠ ']' :=
    List.all_iff_forall_prop.mp (by decide)
  have hends : ∀ c ∈ "[]".toList, 0x20 < c.toNat ∧ c ∉ "/?#\\@".toList :=
    List.all_iff_forall_prop.mp (by decide)
  rw [hlist]
  refine ⟨List.cons_ne_nil _ _, fun c hc => ?_, fun rest hrest => ?_⟩
  · rw [List.mem_cons, List.mem_append, List.mem_singleton] at hc
    obtain rfl | hc | rfl := hc
    · exact hends _ (by decide)
    · exact (hbody c (mem_render_ipv6 hc)).1
    · exact hends _ (by decide)
  · have hinside : ∀ c ∈ (Ipv6.render pieces).toList, c ≠ '[' ∧ c ≠ ']' := fun c hc =>
      (hbody c (mem_render_ipv6 hc)).2
    have htext : '[' :: ((Ipv6.render pieces).toList ++ [']']) ++ rest =
        '[' :: ((Ipv6.render pieces).toList ++ ']' :: rest) := by
      simp
    rw [htext, Url.cutHost]
    simp only [Bool.not_false, and_true, if_neg (show ('[' : Char) ≠ ':' by decide), if_true,
      cutHost_bracketed hinside, cutHost_port hrest]

/-- What is read as a host of the web: an address, or a domain name that is not empty. -/
inductive Web : Host → Prop where
  | ipv4 (address : Nat) : Web (.ipv4 address)
  | ipv6 (pieces : List Nat) : Web (.ipv6 pieces)
  | name {t name : String} : Domain.ofText? t = some name → name ≠ "" → Web (.name name)

theorem web_of_ofWebText {s : List Char} {h : Host} (hread : ofWebText s = .ok h) : Web h := by
  unfold ofWebText at hread
  split at hread
  next host hbracketed =>
    unfold bracketed? at hbracketed
    split at hbracketed
    · split at hbracketed
      · split at hbracketed <;> cases hbracketed <;> cases hread
        exact .ipv6 _
      · cases hbracketed
        cases hread
    · cases hbracketed
  · split at hread
    · cases hread
    next name hname =>
      obtain ⟨t, -, ht⟩ := Option.bind_eq_some_iff.mp hname
      split at hread
      · cases hread
      next hne =>
        split at hread
        · split at hread
          · cases hread
            exact .ipv4 _
          · cases hread
        · cases hread
          exact .name ht hne

theorem Web.ne_empty {h : Host} (hweb : Web h) : h ≠ .name "" := by
  rintro rfl
  cases hweb with
  | name _ hne => exact hne rfl

/-- A host of the web is written as one. -/
theorem Web.written {h : Host} (hweb : Web h) : Written h.render.toList := by
  cases hweb with
  | ipv4 address => exact written_ipv4 address
  | ipv6 pieces => exact written_ipv6 pieces
  | @name t name ht hne =>
    refine written_of_isWritten ?_ (Domain.isWritten_of_ofText? ht)
    intro hnil
    exact hne (String.toList_inj.mp hnil)

end Host

end CallChain
