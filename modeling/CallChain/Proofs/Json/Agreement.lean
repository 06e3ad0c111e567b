import CallChain.Json.Decode
import CallChain.Proofs.Data.SortedMap

/-!
# Reading a document and reading its value

A record can be read off a document as written, or off the value that the document writes.  A reader of
documents agrees with a reader of values if what it reads is what the other reads (`Reader.Agrees`).  So do
the readers of texts, whole numbers, lists and maps.  The fields of a record are the same on both sides
(`Reader.forall₂_of_fields`), whether the record is given as an object or as an array: a record refuses a
repeated key, and of other repeated keys the value keeps the last.
-/

set_option autoImplicit false

namespace CallChain

open List (Forall₂)

namespace Json

open SortedMap (Alike)

section

variable {α β : Type} {f : α → Option β}

/-- Two lists that go with a third go with each other. -/
theorem forall₂_of_common {γ : Type} {r : α → β → Prop} {s : α → γ → Prop} {t : β → γ → Prop}
    (h : ∀ a b c, r a b → s a c → t b c) {l : List α} {l' : List β} {l'' : List γ}
    (hr : Forall₂ r l l') (hs : Forall₂ s l l'') : Forall₂ t l' l'' := by
  induction hr generalizing l'' with
  | nil =>
    cases hs
    exact .nil
  | cons hab _ ih =>
    cases hs with
    | cons hac hs => exact .cons (h _ _ _ hab hac) (ih hs)

theorem mapM_eq_some_iff {l : List α} {l' : List β} :
    l.mapM f = some l' ↔ Forall₂ (fun a b => f a = some b) l l' := by
  induction l generalizing l' with
  | nil =>
    rw [List.mapM_nil, List.forall₂_nil_left_iff]
    exact Option.some_inj.trans eq_comm
  | cons a l ih =>
    rw [List.mapM_cons, List.forall₂_cons_left_iff]
    constructor
    · intro h
      obtain ⟨b, hb, h⟩ := Option.bind_eq_some_iff.mp h
      obtain ⟨bs, hbs, h⟩ := Option.bind_eq_some_iff.mp h
      cases h
      exact ⟨b, bs, hb, ih.mp hbs, rfl⟩
    · rintro ⟨b, bs, hb, hbs, rfl⟩
      rw [hb, ih.mpr hbs]
      rfl

/-- Entries whose values are each read under their key. -/
theorem mapM_entries_eq_some_iff {κ : Type} {l : List (κ × α)} {l' : List (κ × β)} :
    (l.mapM fun e => (f e.2).map fun b => (e.1, b)) = some l' ↔
      Alike (fun a b => f a = some b) l l' := by
  rw [mapM_eq_some_iff]
  have hentry (e : κ × α) (e' : κ × β) :
      (f e.2).map (fun b => (e.1, b)) = some e' ↔ e.1 = e'.1 ∧ f e.2 = some e'.2 := by
    rw [Option.map_eq_some_iff]
    constructor
    · rintro ⟨b, hb, rfl⟩
      exact ⟨rfl, hb⟩
    · rintro ⟨hk, hb⟩
      exact ⟨e'.2, hb, Prod.ext hk rfl⟩
  simp only [hentry]
  rfl

end

variable {room : Nat}

theorem values?_eq_some_iff {items : List Document} {vs : List Json} :
    Document.values? room items = some vs ↔ Forall₂ (fun d v => d.value? room = some v) items vs := by
  rw [← mapM_eq_some_iff]
  have hmapM : Document.values? room items = items.mapM (Document.value? room) := by
    induction items with
    | nil => rfl
    | cons d items ih => rw [Document.values?, ih, List.mapM_cons]
  rw [hmapM]

theorem alike_of_entries? {members : List (Bytes × Document)} {named : List (String × Document)}
    {es : List (String × Json)} (hnamed : Reader.members? members = some named)
    (hes : Document.entries? room members = some es) :
    Alike (fun d v => d.value? room = some v) named es := by
  induction members generalizing named es with
  | nil =>
    cases hnamed
    cases hes
    exact .nil
  | cons m members ih =>
    obtain ⟨k, d⟩ := m
    obtain ⟨text, htext, hnamed⟩ := Option.bind_eq_some_iff.mp hnamed
    obtain ⟨named', hnamed', hn⟩ := Option.bind_eq_some_iff.mp hnamed
    have hn := Option.some.inj hn
    obtain ⟨text', htext', hes⟩ := Option.bind_eq_some_iff.mp hes
    obtain ⟨v, hv, hes⟩ := Option.bind_eq_some_iff.mp hes
    obtain ⟨es', hes', he⟩ := Option.bind_eq_some_iff.mp hes
    have he := Option.some.inj he
    obtain rfl := Option.some.inj (htext.symm.trans htext')
    subst hn he
    exact .cons ⟨rfl, hv⟩ (ih hnamed' hes')

def integerOf? (low high : Int) : Json → Option Int
  | .int n => if low ≤ n ∧ n ≤ high then some n else none
  | _ => none

def listOf? {α : Type} (read : Json → Option α) : Json → Option (List α)
  | .array items => items.mapM read
  | _ => none

def mapOf? {α : Type} (read : Json → Option α) : Json → Option (SortedMap String α)
  | .object entries => (entries.mapM fun e => (read e.2).map fun a => (e.1, a)).map SortedMap.ofList
  | _ => none

/-- What is under the keys of a record, or what stands in their places in an array. -/
def fieldsOf? (keys : List String) : Json → Option (List (Option Json))
  | .object entries => some (keys.map fun k => SortedMap.lookupIn k entries)
  | .array items =>
    if items.length ≤ keys.length then
      some (items.map some ++ List.replicate (keys.length - items.length) none)
    else none
  | _ => none

/-- What is written in a place is what the value has there. -/
def Fills (room : Nat) : Option Document → Option Json → Prop :=
  Option.Rel fun d v => d.value? room = some v

namespace Reader

/-- What is read off a document is read off the value it writes. -/
def Agrees {α : Type} (read : Reader α) (f : Json → Option α) : Prop :=
  ∀ ⦃room : Nat⦄ ⦃d : Document⦄ ⦃v : Json⦄ ⦃a : α⦄, d.value? room = some v → read room d = some a →
    f v = some a

variable {α : Type} {read : Reader α} {f : Json → Option α}

theorem agrees_list (h : Agrees read f) : Agrees (list read) (listOf? f) := by
  intro room d v as hv has
  unfold list at has
  split at has
  next room items =>
    rw [Document.value?] at hv
    obtain ⟨vs, hvs, rfl⟩ := Option.map_eq_some_iff.mp hv
    rw [values?_eq_some_iff] at hvs
    rw [mapM_eq_some_iff] at has
    show vs.mapM f = some as
    rw [mapM_eq_some_iff]
    exact forall₂_of_common (@h room) hvs has
  next => cases has

theorem agrees_map (h : Agrees read f) : Agrees (map read) (mapOf? f) := by
  intro room d v m hv hm
  unfold map at hm
  split at hm
  next room members =>
    rw [Document.value?] at hv
    obtain ⟨es, hes, rfl⟩ := Option.map_eq_some_iff.mp hv
    obtain ⟨named, hnamed, hm⟩ := Option.bind_eq_some_iff.mp hm
    obtain ⟨texts, htexts, hm⟩ := Option.bind_eq_some_iff.mp hm
    cases hm
    have hvalues : Alike (fun v a => f v = some a) es texts :=
      forall₂_of_common (fun _ _ _ hd ht => ⟨hd.1.symm.trans ht.1, h hd.2 ht.2⟩)
        (alike_of_entries? hnamed hes) (mapM_entries_eq_some_iff.mp htexts)
    -- The value keeps the last of repeated keys, and so does the map of what is read.
    have hentries := mapM_entries_eq_some_iff.mpr hvalues.ofList
    show Option.map SortedMap.ofList ((SortedMap.ofList es).entries.mapM fun e =>
      (f e.2).map fun a => (e.1, a)) = _
    rw [hentries, Option.map_some, SortedMap.ofList_of_perm (List.Perm.refl _)]
  next => cases hm

theorem agrees_integer (low high : Int) : Agrees (integer low high) (integerOf? low high) := by
  intro room d v n hv hn
  unfold integer at hn
  split at hn
  next numeral =>
    rw [Document.value?] at hv
    unfold Numeral.integer? at hn
    rw [hv] at hn
    split at hn
    next heq =>
      cases heq
      exact hn
    next => cases hn
  next => cases hn

/-- A field of an object is what the object has under the key. -/
theorem fills_of_field? {room : Nat} {key : String} {named : List (String × Document)} {es : List (String × Json)}
    {found : Option Document} (h : Alike (fun d v => d.value? room = some v) named es)
    (hfound : field? key named = some found) : Fills room found ((Json.ofEntries es).get? key) := by
  -- At most one member has the key, and then at most one entry of the value.
  have hfilter := h.filter key
  have hget : (Json.ofEntries es).get? key =
      (es.filter fun e => e.1 == key).getLast?.map Prod.snd := SortedMap.get?_ofList_last es key
  rw [hget]
  unfold field? at hfound
  split at hfound
  next hnone =>
    cases hfound
    rw [hnone] at hfilter
    rw [List.forall₂_nil_left_iff.mp hfilter]
    exact .none
  next e hone =>
    cases hfound
    rw [hone] at hfilter
    obtain ⟨e', rest, he, hrest, heq⟩ := List.forall₂_cons_left_iff.mp hfilter
    rw [heq, List.forall₂_nil_left_iff.mp hrest]
    exact .some he.2
  next => cases hfound

/-- The fields of a record are what its value has in their places. -/
theorem forall₂_of_fields {keys : List String} {room room' : Nat} {d : Document} {v : Json}
    {found : List (Option Document)} (hv : d.value? room = some v)
    (hfound : fields keys room d = some (room', found)) :
    ∃ vs, fieldsOf? keys v = some vs ∧ Forall₂ (Fills room') found vs := by
  unfold fields at hfound
  split at hfound
  next room members =>
    rw [Document.value?] at hv
    obtain ⟨es, hes, rfl⟩ := Option.map_eq_some_iff.mp hv
    obtain ⟨named, hnamed, hfound⟩ := Option.bind_eq_some_iff.mp hfound
    obtain ⟨found', hkeys, heq⟩ := Option.bind_eq_some_iff.mp hfound
    cases heq
    refine ⟨_, rfl, ?_⟩
    rw [List.forall₂_map_right_iff]
    refine (mapM_eq_some_iff.mp hkeys).flip.imp fun found key hfield => ?_
    exact fills_of_field? (alike_of_entries? hnamed hes) hfield
  next room items =>
    rw [Document.value?] at hv
    obtain ⟨vs, hvs, rfl⟩ := Option.map_eq_some_iff.mp hv
    rw [values?_eq_some_iff] at hvs
    split at hfound
    next hlength =>
      cases hfound
      have hitems : Forall₂ (Fills room') (items.map some) (vs.map some) := by
        rw [List.forall₂_map_left_iff, List.forall₂_map_right_iff]
        exact hvs.imp fun _ _ h => .some h
      have hmissing (n : Nat) :
          Forall₂ (Fills room') (List.replicate n none) (List.replicate n none) := by
        induction n with
        | zero => exact .nil
        | succ n ih => exact .cons .none ih
      refine ⟨_, if_pos (hvs.length_eq ▸ hlength), ?_⟩
      rw [← hvs.length_eq]
      exact List.rel_append hitems (hmissing _)
    next => cases hfound
  next => cases hfound

end Reader

end Json

end CallChain
