/-!
# Maps kept in key order

A `SortedMap κ α` is a list of entries whose keys strictly increase, so two maps with the same
entries are the same value, and listing a map always gives the keys in order.  Texts are ordered by
code point, which is also the order of their UTF-8 bytes.

The order of the keys is a class of its own, `KeyOrder`, with the three laws the invariant needs.
Each operation is pinned down by what `get?` answers after it.
-/

set_option autoImplicit false

namespace CallChain

universe u v

/-- A strict total order that maps can be sorted by. -/
class KeyOrder (κ : Type) where
  /-- Whether the first key comes strictly before the second. -/
  before : κ → κ → Bool
  /-- No key comes before itself. -/
  irrefl : ∀ a, before a a = false
  /-- Coming before is transitive. -/
  trans : ∀ a b c, before a b = true → before b c = true → before a c = true
  /-- Two keys neither of which comes first are the same key. -/
  total : ∀ a b, before a b = false → before b a = false → a = b

namespace KeyOrder

/-- Lists of characters in dictionary order, characters by code point. -/
def charsBefore : List Char → List Char → Bool
  | _, [] => false
  | [], _ :: _ => true
  | a :: as, b :: bs =>
    if a.toNat < b.toNat then true else if b.toNat < a.toNat then false else charsBefore as bs

theorem charsBefore_irrefl (a : List Char) : charsBefore a a = false := by
  induction a with
  | nil => rfl
  | cons x xs ih => simp [charsBefore, ih]

theorem charsBefore_trans (a b c : List Char) (h₁ : charsBefore a b = true)
    (h₂ : charsBefore b c = true) : charsBefore a c = true := by
  induction a generalizing b c with
  | nil =>
    cases c with
    | nil => cases b <;> simp [charsBefore] at h₂
    | cons z zs => rfl
  | cons x xs ih =>
    cases b with
    | nil => simp [charsBefore] at h₁
    | cons y ys =>
      cases c with
      | nil => simp [charsBefore] at h₂
      | cons z zs =>
        simp only [charsBefore] at h₁ h₂ ⊢
        by_cases hxy : x.toNat < y.toNat
        · by_cases hyz : y.toNat < z.toNat
          · simp [Nat.lt_trans hxy hyz]
          · by_cases hzy : z.toNat < y.toNat
            · simp [hyz, hzy] at h₂
            · have : x.toNat < z.toNat := by omega
              simp [this]
        · by_cases hyx : y.toNat < x.toNat
          · simp [hxy, hyx] at h₁
          · by_cases hyz : y.toNat < z.toNat
            · have : x.toNat < z.toNat := by omega
              simp [this]
            · by_cases hzy : z.toNat < y.toNat
              · simp [hyz, hzy] at h₂
              · have h₃ : ¬ x.toNat < z.toNat := by omega
                have h₄ : ¬ z.toNat < x.toNat := by omega
                simp only [hxy, hyx, hyz, hzy, if_false] at h₁ h₂
                simp only [h₃, h₄, if_false]
                exact ih ys zs h₁ h₂

theorem charsBefore_total (a b : List Char) (h₁ : charsBefore a b = false)
    (h₂ : charsBefore b a = false) : a = b := by
  induction a generalizing b with
  | nil =>
    cases b with
    | nil => rfl
    | cons y ys => simp [charsBefore] at h₁
  | cons x xs ih =>
    cases b with
    | nil => simp [charsBefore] at h₂
    | cons y ys =>
      simp only [charsBefore] at h₁ h₂
      by_cases hxy : x.toNat < y.toNat
      · simp [hxy] at h₁
      · by_cases hyx : y.toNat < x.toNat
        · simp [hyx] at h₂
        · simp only [hxy, hyx, if_false] at h₁ h₂
          have : x = y := Char.toNat_inj.1 (by omega)
          rw [this, ih ys h₁ h₂]

end KeyOrder

instance : KeyOrder String where
  before a b := KeyOrder.charsBefore a.toList b.toList
  irrefl a := KeyOrder.charsBefore_irrefl a.toList
  trans a b c := KeyOrder.charsBefore_trans a.toList b.toList c.toList
  total a b h₁ h₂ := String.toList_inj.1 (KeyOrder.charsBefore_total a.toList b.toList h₁ h₂)

instance : KeyOrder Int where
  before a b := decide (a < b)
  irrefl a := by simp
  trans a b c h₁ h₂ := by
    have := of_decide_eq_true h₁
    have := of_decide_eq_true h₂
    exact decide_eq_true (by omega)
  total a b h₁ h₂ := by
    have := of_decide_eq_false h₁
    have := of_decide_eq_false h₂
    omega

def KeysIncrease {κ : Type} {α : Type u} [KeyOrder κ] (entries : List (κ × α)) : Prop :=
  entries.Pairwise fun a b => KeyOrder.before a.1 b.1 = true

/-- A finite map, held as its entries in strictly increasing key order. -/
structure SortedMap (κ : Type) (α : Type u) [KeyOrder κ] where
  /-- The entries, each key once. -/
  entries : List (κ × α)
  /-- The keys strictly increase. -/
  increasing : KeysIncrease entries

namespace SortedMap

variable {κ : Type} {α : Type u} {β : Type v} [KeyOrder κ]

theorem ext_entries {m n : SortedMap κ α} (h : m.entries = n.entries) : m = n := by
  cases m; cases n; cases h; rfl

instance [DecidableEq κ] [DecidableEq α] : DecidableEq (SortedMap κ α) := fun m n =>
  if h : m.entries = n.entries then isTrue (ext_entries h)
  else isFalse fun e => h (congrArg entries e)

def empty : SortedMap κ α := ⟨[], List.Pairwise.nil⟩

instance : EmptyCollection (SortedMap κ α) := ⟨empty⟩

instance : Inhabited (SortedMap κ α) := ⟨empty⟩

/-- The value under a key in a list of entries: that of its first occurrence. -/
def lookupIn [DecidableEq κ] (k : κ) : List (κ × α) → Option α
  | [] => none
  | (k', v) :: r => if k = k' then some v else lookupIn k r

def get? [DecidableEq κ] (m : SortedMap κ α) (k : κ) : Option α := lookupIn k m.entries

def contains [DecidableEq κ] (m : SortedMap κ α) (k : κ) : Bool := (m.get? k).isSome

/-- The keys, in order. -/
def keys (m : SortedMap κ α) : List κ := m.entries.map Prod.fst

def size (m : SortedMap κ α) : Nat := m.entries.length

/-- Whether there is no key at all. -/
def isEmpty (m : SortedMap κ α) : Bool := m.entries.isEmpty

/-- Puts a value at the place of its key, replacing one that is there. -/
def insertIn [DecidableEq κ] (k : κ) (v : α) : List (κ × α) → List (κ × α)
  | [] => [(k, v)]
  | (k', v') :: r =>
    if k = k' then (k, v) :: r
    else if KeyOrder.before k k' then (k, v) :: (k', v') :: r
    else (k', v') :: insertIn k v r

theorem fst_of_mem_insertIn [DecidableEq κ] {k : κ} {v : α} {entries : List (κ × α)} {e : κ × α}
    (h : e ∈ insertIn k v entries) : e.1 = k ∨ e ∈ entries := by
  induction entries with
  | nil => simp [insertIn] at h; simp [h]
  | cons x r ih =>
    obtain ⟨k', v'⟩ := x
    simp only [insertIn] at h
    split at h
    · cases List.mem_cons.1 h with
      | inl h => simp [h]
      | inr h => exact Or.inr (List.mem_cons_of_mem _ h)
    · split at h
      · cases List.mem_cons.1 h with
        | inl h => simp [h]
        | inr h => exact Or.inr h
      · cases List.mem_cons.1 h with
        | inl h => simp [h]
        | inr h =>
          cases ih h with
          | inl h => exact Or.inl h
          | inr h => exact Or.inr (List.mem_cons_of_mem _ h)

theorem keysIncrease_insertIn [DecidableEq κ] (k : κ) (v : α) {entries : List (κ × α)}
    (h : KeysIncrease entries) : KeysIncrease (insertIn k v entries) := by
  induction entries with
  | nil => simp [insertIn, KeysIncrease]
  | cons x r ih =>
    obtain ⟨k', v'⟩ := x
    have hr := List.pairwise_cons.1 h
    simp only [insertIn]
    split
    next heq =>
      subst heq
      exact List.pairwise_cons.2 ⟨fun e he => hr.1 e he, hr.2⟩
    next hne =>
      split
      next hlt =>
        refine List.pairwise_cons.2 ⟨fun e he => ?_, h⟩
        cases List.mem_cons.1 he with
        | inl he => simpa [he] using hlt
        | inr he => exact KeyOrder.trans _ _ _ hlt (hr.1 e he)
      next hge =>
        refine List.pairwise_cons.2 ⟨fun e he => ?_, ih hr.2⟩
        cases fst_of_mem_insertIn he with
        | inl he =>
          show KeyOrder.before k' e.1 = true
          rw [he]
          cases hb : KeyOrder.before k' k with
          | true => rfl
          | false => exact absurd (KeyOrder.total k k' (by simpa using hge) hb) hne
        | inr he => exact hr.1 e he

/-- The map with a value under a key, whatever was there before. -/
def insert [DecidableEq κ] (m : SortedMap κ α) (k : κ) (v : α) : SortedMap κ α :=
  ⟨insertIn k v m.entries, keysIncrease_insertIn k v m.increasing⟩

theorem lookupIn_insertIn [DecidableEq κ] (k k' : κ) (v : α) (entries : List (κ × α)) :
    lookupIn k' (insertIn k v entries) = if k' = k then some v else lookupIn k' entries := by
  induction entries with
  | nil => simp [insertIn, lookupIn]
  | cons x r ih =>
    obtain ⟨k₁, v₁⟩ := x
    simp only [insertIn]
    split
    next heq =>
      subst heq
      by_cases h : k' = k <;> simp [lookupIn, h]
    next hne =>
      split
      · simp [lookupIn]
      · by_cases h : k' = k₁
        · have : ¬ k' = k := fun e => hne (e ▸ h)
          simp [lookupIn, h, show ¬ k₁ = k from h ▸ this]
        · simp [lookupIn, h, ih]

/-- After an insertion the key holds the new value and every other key what it held. -/
@[simp] theorem get?_insert [DecidableEq κ] (m : SortedMap κ α) (k k' : κ) (v : α) :
    (m.insert k v).get? k' = if k' = k then some v else m.get? k' :=
  lookupIn_insertIn k k' v m.entries

theorem insertIn_insertIn [DecidableEq κ] (k : κ) (v v' : α) (entries : List (κ × α)) :
    insertIn k v' (insertIn k v entries) = insertIn k v' entries := by
  induction entries with
  | nil => simp [insertIn]
  | cons x r ih =>
    obtain ⟨k₁, v₁⟩ := x
    simp only [insertIn]
    split
    next heq => simp [insertIn, heq]
    next hne =>
      split
      next => simp [insertIn]
      next hge => simp [insertIn, hne, hge, ih]

/-- Of two insertions under a key the later one counts. -/
@[simp] theorem insert_insert [DecidableEq κ] (m : SortedMap κ α) (k : κ) (v v' : α) :
    (m.insert k v).insert k v' = m.insert k v' :=
  ext_entries (insertIn_insertIn k v v' m.entries)

def erase [DecidableEq κ] (m : SortedMap κ α) (k : κ) : SortedMap κ α :=
  ⟨m.entries.filter fun e => e.1 != k, List.Pairwise.filter _ m.increasing⟩

theorem lookupIn_filter_ne {ι : Type} [DecidableEq ι] (k k' : ι) (entries : List (ι × α)) :
    lookupIn k' (entries.filter fun e => e.1 != k) =
      if k' = k then none else lookupIn k' entries := by
  induction entries with
  | nil => simp [lookupIn]
  | cons x r ih =>
    obtain ⟨k₁, v₁⟩ := x
    by_cases h₁ : k₁ = k
    · subst h₁
      by_cases h : k' = k₁
      · subst h
        simpa using ih
      · simp [lookupIn, ih, h]
    · by_cases h : k' = k₁
      · subst h
        simp [lookupIn, h₁]
      · simp [lookupIn, h₁, h, ih]

/-- After an erasure the key is absent and every other key holds what it held. -/
@[simp] theorem get?_erase [DecidableEq κ] (m : SortedMap κ α) (k k' : κ) :
    (m.erase k).get? k' = if k' = k then none else m.get? k' :=
  lookupIn_filter_ne k k' m.entries

@[simp] theorem get?_empty [DecidableEq κ] (k : κ) : (empty : SortedMap κ α).get? k = none := rfl

/-- The map of a list of entries, in which a later entry for a key replaces an earlier one. -/
def ofList [DecidableEq κ] (entries : List (κ × α)) : SortedMap κ α :=
  entries.foldl (fun m e => m.insert e.1 e.2) empty

/-- The map with every value changed by a function. -/
def mapValues (f : α → β) (m : SortedMap κ α) : SortedMap κ β :=
  ⟨m.entries.map fun e => (e.1, f e.2), by
    have h := m.increasing
    unfold KeysIncrease at h ⊢
    rw [List.pairwise_map]
    exact h⟩

end SortedMap

end CallChain
