import CallChain.Data.SortedMap
import Mathlib.Data.List.Forall2

/-!
# Sorted maps from lists of entries

A list of entries with distinct keys holds each of its entries and nothing else, in whatever order they
stand, and so does the map made of it.  A sorted map is known by what it holds; hence the entries of a
map, put into any order, make the same map again.
-/

set_option autoImplicit false

namespace CallChain.SortedMap

open List (Forall₂)

universe u v

variable {κ : Type} {α : Type u} {β : Type v} [KeyOrder κ]

theorem nodup_of_keysIncrease {entries : List (κ × α)} (h : KeysIncrease entries) :
    (entries.map Prod.fst).Nodup := by
  rw [List.Nodup, List.pairwise_map]
  refine List.Pairwise.imp ?_ h
  intro a b hab heq
  rw [heq, KeyOrder.irrefl] at hab
  cases hab

variable [DecidableEq κ]

omit [KeyOrder κ] in
theorem lookupIn_eq_none_iff {k : κ} {entries : List (κ × α)} :
    lookupIn k entries = none ↔ k ∉ entries.map Prod.fst := by
  induction entries with
  | nil => simp [lookupIn]
  | cons e rest ih =>
    obtain ⟨k', v⟩ := e
    by_cases h : k = k' <;> simp [lookupIn, h, ih]

omit [KeyOrder κ] in
theorem mem_of_lookupIn {k : κ} {v : α} {entries : List (κ × α)}
    (h : lookupIn k entries = some v) : (k, v) ∈ entries := by
  induction entries with
  | nil => simp [lookupIn] at h
  | cons e rest ih =>
    obtain ⟨k', v'⟩ := e
    simp only [lookupIn] at h
    split at h
    · next heq =>
      cases h
      rw [heq]
      exact List.mem_cons_self
    · exact List.mem_cons_of_mem _ (ih h)

omit [KeyOrder κ] in
/-- Where keys are distinct, a key leads to the value it stands with. -/
theorem lookupIn_eq_some_iff {k : κ} {v : α} {entries : List (κ × α)}
    (hkeys : (entries.map Prod.fst).Nodup) : lookupIn k entries = some v ↔ (k, v) ∈ entries := by
  refine ⟨mem_of_lookupIn, fun hmem => ?_⟩
  induction entries with
  | nil => cases hmem
  | cons e rest ih =>
    obtain ⟨k', v'⟩ := e
    obtain ⟨hk', hrest⟩ := List.nodup_cons.mp hkeys
    cases hmem with
    | head => simp [lookupIn]
    | tail _ hmem =>
      have hne : k ≠ k' := by
        rintro rfl
        exact hk' (List.mem_map.mpr ⟨_, hmem, rfl⟩)
      simp only [lookupIn, if_neg hne]
      exact ih hrest hmem

omit [KeyOrder κ] in
/-- The order of entries with distinct keys does not matter. -/
theorem lookupIn_perm {entries entries' : List (κ × α)} (h : entries.Perm entries')
    (hkeys : (entries.map Prod.fst).Nodup) (k : κ) : lookupIn k entries = lookupIn k entries' := by
  have hkeys' : (entries'.map Prod.fst).Nodup := (h.map Prod.fst).nodup hkeys
  cases hl : lookupIn k entries with
  | some v =>
    have hmem : (k, v) ∈ entries' := h.mem_iff.mp ((lookupIn_eq_some_iff hkeys).mp hl)
    exact ((lookupIn_eq_some_iff hkeys').mpr hmem).symm
  | none =>
    have hmem : k ∉ entries'.map Prod.fst := by
      rw [← (h.map Prod.fst).mem_iff]
      exact lookupIn_eq_none_iff.mp hl
    exact (lookupIn_eq_none_iff.mpr hmem).symm

/-- Entries with distinct keys that are put into a map are found there, next to what it held. -/
theorem get?_foldl_insert (entries : List (κ × α)) (hkeys : (entries.map Prod.fst).Nodup)
    (m : SortedMap κ α) (k : κ) :
    (entries.foldl (fun m e => m.insert e.1 e.2) m).get? k =
      (lookupIn k entries).or (m.get? k) := by
  induction entries generalizing m with
  | nil => rfl
  | cons e rest ih =>
    obtain ⟨k', v⟩ := e
    obtain ⟨hk', hrest⟩ := List.nodup_cons.mp hkeys
    rw [List.foldl_cons, ih hrest, get?_insert]
    by_cases h : k = k'
    · subst h
      simp [lookupIn, lookupIn_eq_none_iff.mpr hk']
    · simp [lookupIn, h]

theorem get?_ofList {entries : List (κ × α)} (hkeys : (entries.map Prod.fst).Nodup) (k : κ) :
    (ofList entries).get? k = lookupIn k entries := by
  rw [ofList, get?_foldl_insert entries hkeys, get?_empty, Option.or_none]

/-- Of the entries of a key, the last counts. -/
theorem get?_foldl_insert_last (entries : List (κ × α)) (m : SortedMap κ α) (k : κ) :
    (entries.foldl (fun m e => m.insert e.1 e.2) m).get? k =
      ((entries.filter fun e => e.1 == k).getLast?.map Prod.snd).or (m.get? k) := by
  induction entries generalizing m with
  | nil => rfl
  | cons e rest ih =>
    rw [List.foldl_cons, ih, get?_insert]
    by_cases h : k = e.1
    · subst h
      have hfilter : (e :: rest).filter (fun e' => e'.1 == e.1) =
          e :: rest.filter fun e' => e'.1 == e.1 := List.filter_cons_of_pos (beq_self_eq_true _)
      rw [hfilter, List.getLast?_cons, if_pos rfl]
      cases (rest.filter fun e' => e'.1 == e.1).getLast? <;> rfl
    · rw [List.filter_cons_of_neg (by simpa using Ne.symm h), if_neg h]

theorem get?_ofList_last (entries : List (κ × α)) (k : κ) :
    (ofList entries).get? k = (entries.filter fun e => e.1 == k).getLast?.map Prod.snd := by
  rw [ofList, get?_foldl_insert_last, get?_empty, Option.or_none]

/-- The first key of sorted entries is in no other sorted list that starts behind it. -/
theorem lookupIn_eq_none_of_before {k : κ} {e : κ × α} {entries : List (κ × α)}
    (hk : KeyOrder.before k e.1 = true) (h : KeysIncrease (e :: entries)) :
    lookupIn k (e :: entries) = none := by
  rw [lookupIn_eq_none_iff, List.map_cons, List.mem_cons, not_or]
  refine ⟨?_, ?_⟩
  · rintro rfl
    rw [KeyOrder.irrefl] at hk
    cases hk
  · intro hmem
    obtain ⟨e', he', rfl⟩ := List.mem_map.mp hmem
    have hlater : KeyOrder.before e.1 e'.1 = true := (List.pairwise_cons.mp h).1 e' he'
    have hself := KeyOrder.trans _ _ _ hk hlater
    rw [KeyOrder.irrefl] at hself
    cases hself

/-- Where two sorted lists hold the same, neither starts before the other. -/
theorem not_before_of_lookupIn {e e' : κ × α} {rest rest' : List (κ × α)}
    (h' : KeysIncrease (e' :: rest'))
    (hl : ∀ k, lookupIn k (e :: rest) = lookupIn k (e' :: rest')) :
    KeyOrder.before e.1 e'.1 = false := by
  cases hbefore : KeyOrder.before e.1 e'.1 with
  | false => rfl
  | true =>
    have hnone := lookupIn_eq_none_of_before hbefore h'
    rw [← hl] at hnone
    simp [lookupIn] at hnone

theorem eq_of_lookupIn {entries entries' : List (κ × α)} (h : KeysIncrease entries)
    (h' : KeysIncrease entries') (hl : ∀ k, lookupIn k entries = lookupIn k entries') :
    entries = entries' := by
  induction entries generalizing entries' with
  | nil =>
    cases entries' with
    | nil => rfl
    | cons e' rest' =>
      have := hl e'.1
      simp [lookupIn] at this
  | cons e rest ih =>
    cases entries' with
    | nil =>
      have := hl e.1
      simp [lookupIn] at this
    | cons e' rest' =>
      have hfst : e.1 = e'.1 := KeyOrder.total _ _ (not_before_of_lookupIn h' hl)
        (not_before_of_lookupIn h fun k => (hl k).symm)
      obtain ⟨k, x⟩ := e
      obtain ⟨k', x'⟩ := e'
      obtain rfl : k = k' := hfst
      have hx := hl k
      simp only [lookupIn, if_true, Option.some.injEq] at hx
      subst hx
      have hrest : rest = rest' := by
        refine ih (List.pairwise_cons.mp h).2 (List.pairwise_cons.mp h').2 fun j => ?_
        by_cases hj : j = k
        · subst hj
          have hnot (l : List (κ × α)) (hlist : KeysIncrease ((j, x) :: l)) :
              lookupIn j l = none :=
            lookupIn_eq_none_iff.mpr (List.nodup_cons.mp (nodup_of_keysIncrease hlist)).1
          rw [hnot rest h, hnot rest' h']
        · have := hl j
          simpa [lookupIn, hj] using this
      rw [hrest]

/-- A map is known by what it holds. -/
theorem ext_get? {m n : SortedMap κ α} (h : ∀ k, m.get? k = n.get? k) : m = n :=
  ext_entries (eq_of_lookupIn m.increasing n.increasing h)

/-- A new key is put in front, up to the order. -/
theorem perm_insertIn {k : κ} {v : α} {entries : List (κ × α)} (hk : k ∉ entries.map Prod.fst) :
    (insertIn k v entries).Perm ((k, v) :: entries) := by
  induction entries with
  | nil => exact List.Perm.refl _
  | cons e rest ih =>
    obtain ⟨k', v'⟩ := e
    rw [List.map_cons, List.mem_cons, not_or] at hk
    simp only [insertIn, if_neg hk.1]
    split
    · exact List.Perm.refl _
    · exact ((ih hk.2).cons _).trans (List.Perm.swap _ _ _)

theorem perm_foldl_insert {entries : List (κ × α)} {m : SortedMap κ α}
    (hkeys : ((m.entries ++ entries).map Prod.fst).Nodup) :
    (entries.foldl (fun m e => m.insert e.1 e.2) m).entries.Perm (m.entries ++ entries) := by
  induction entries generalizing m with
  | nil =>
    rw [List.append_nil]
    exact List.Perm.refl _
  | cons e rest ih =>
    have hmiddle : (m.entries ++ e :: rest).Perm (e :: (m.entries ++ rest)) := List.perm_middle
    have hk : e.1 ∉ m.entries.map Prod.fst := by
      have hnodup := List.nodup_cons.mp ((hmiddle.map Prod.fst).nodup hkeys)
      rw [List.map_append, List.mem_append, not_or] at hnodup
      exact hnodup.1.1
    have hperm : (m.entries ++ e :: rest).Perm ((m.insert e.1 e.2).entries ++ rest) :=
      hmiddle.trans ((perm_insertIn hk).symm.append_right rest)
    refine (ih ((hperm.map Prod.fst).nodup hkeys)).trans hperm.symm

/-- The map of entries with distinct keys holds these, in key order. -/
theorem perm_ofList {entries : List (κ × α)} (hkeys : (entries.map Prod.fst).Nodup) :
    (ofList entries).entries.Perm entries := by
  have hperm : (ofList entries).entries.Perm ((empty : SortedMap κ α).entries ++ entries) :=
    perm_foldl_insert hkeys
  exact hperm

/-- The entries of a map, in any order, make the map again. -/
theorem ofList_of_perm {m : SortedMap κ α} {entries : List (κ × α)}
    (h : entries.Perm m.entries) : ofList entries = m := by
  have hkeys : (entries.map Prod.fst).Nodup :=
    (h.map Prod.fst).symm.nodup (nodup_of_keysIncrease m.increasing)
  refine ext_get? fun k => ?_
  rw [get?_ofList hkeys, lookupIn_perm h hkeys]
  rfl

omit [KeyOrder κ] [DecidableEq κ] in
theorem map_fst_map (f : α → β) (entries : List (κ × α)) :
    (entries.map fun e => (e.1, f e.2)).map Prod.fst = entries.map Prod.fst := by
  simp [List.map_map, Function.comp_def]

omit [KeyOrder κ] in
theorem lookupIn_map (f : α → β) (k : κ) (entries : List (κ × α)) :
    lookupIn k (entries.map fun e => (e.1, f e.2)) = (lookupIn k entries).map f := by
  induction entries with
  | nil => rfl
  | cons e rest ih =>
    by_cases h : k = e.1 <;> simp [lookupIn, h, ih]

/-! ### Values that are related -/

/-- Entries of the same keys with values that are related. -/
def Alike (r : α → β → Prop) : List (κ × α) → List (κ × β) → Prop :=
  Forall₂ fun e e' => e.1 = e'.1 ∧ r e.2 e'.2

variable {r : α → β → Prop} {entries : List (κ × α)} {entries' : List (κ × β)}

theorem Alike.insertIn (h : Alike r entries entries') {k : κ} {a : α} {b : β} (hab : r a b) :
    Alike r (insertIn k a entries) (insertIn k b entries') := by
  induction h with
  | nil => exact .cons ⟨rfl, hab⟩ .nil
  | @cons e e' rest rest' he hrest ih =>
    obtain ⟨k₁, a₁⟩ := e
    obtain ⟨k₂, b₁⟩ := e'
    obtain ⟨rfl, hval⟩ : k₁ = k₂ ∧ r a₁ b₁ := he
    simp only [SortedMap.insertIn]
    split
    · exact .cons ⟨rfl, hab⟩ hrest
    · split
      · exact .cons ⟨rfl, hab⟩ (.cons ⟨rfl, hval⟩ hrest)
      · exact .cons ⟨rfl, hval⟩ ih

/-- Maps made of such entries have such entries. -/
theorem Alike.ofList (h : Alike r entries entries') :
    Alike r (ofList entries).entries (ofList entries').entries := by
  have hfold {m : SortedMap κ α} {n : SortedMap κ β} (hm : Alike r m.entries n.entries) :
      Alike r (entries.foldl (fun m e => m.insert e.1 e.2) m).entries
        (entries'.foldl (fun m e => m.insert e.1 e.2) n).entries := by
    induction h generalizing m n with
    | nil => exact hm
    | @cons e e' rest rest' he _ ih =>
      obtain ⟨k₁, a⟩ := e
      obtain ⟨k₂, b⟩ := e'
      obtain ⟨rfl, hval⟩ : k₁ = k₂ ∧ r a b := he
      exact ih (m := m.insert k₁ a) (n := n.insert k₁ b) (hm.insertIn hval)
  exact hfold .nil

omit [KeyOrder κ] in
theorem Alike.filter (h : Alike r entries entries') (k : κ) :
    Alike r (entries.filter fun e => e.1 == k) (entries'.filter fun e => e.1 == k) := by
  refine List.rel_filter (fun e e' he => ?_) h
  show (e.1 == k) = true ↔ (e'.1 == k) = true
  rw [he.1]

end CallChain.SortedMap
