import CallChain.Proofs.Fault.History
import Mathlib.Data.List.Perm.Basic
import Mathlib.Order.Basic

/-!
# What an aggregate holds and what it says

A batch fails with faults, with errors that are none, and with aggregates of smaller batches (`Setback`).
The aggregate made of its results holds every failure in order, a fault as it is and the text of anything
else under the unknown code (`Setback.held`).

Its text is made from `distinct`, which carries what was seen along.  `FirstOccurrences` says without it what
comes out: the members of a list, ordered by where each first stands.  There is one such list, and what is
added to the end of the list changes it only by what the list had not; so adding failures whose messages
are there already does not change the text.
-/

set_option autoImplicit false

namespace CallChain

/-- What a part of a batch can fail with. -/
inductive Setback where
  /-- A fault. -/
  | fault (f : Fault)
  /-- An error that is no fault. -/
  | plain (text : String)
  /-- The aggregate of another batch. -/
  | nested (a : Aggregate)

namespace Setback

/-- The error as it is handed on. -/
def cause : Setback → Cause
  | .fault f => .fault f
  | .plain text => .other text
  | .nested a => a.cause

/-- The fault that an aggregate keeps of it. -/
def held : Setback → Fault
  | .fault f => f
  | .plain text => ⟨Codes.unknownCode, text, []⟩
  | .nested a => ⟨Codes.unknownCode, a.text, []⟩

theorem ofCause_cause {r : CodeRegistry} (h : r.Built) (s : Setback) : Fault.ofCause r s.cause = s.held := by
  cases s with
  | fault f => rfl
  | plain text => rw [cause, Fault.ofCause, h.unknown_eq, held]
  | nested a => rw [cause, Aggregate.cause, Fault.ofCause, h.unknown_eq, held]

end Setback

namespace Aggregate

/-- The members of a list without repetition, in the order in which they first occur. -/
structure FirstOccurrences (texts ts : List String) : Prop where
  mem_iff : ∀ t, t ∈ ts ↔ t ∈ texts
  nodup : ts.Nodup
  ordered : ts.Pairwise fun s t => texts.idxOf s < texts.idxOf t

/-- The failures of a batch, in order. -/
def setbacks {α : Type} (results : List (Except Setback α)) : List Setback :=
  results.filterMap fun result =>
    match result with
    | .error s => some s
    | .ok _ => none

/-- The results with each failure as the error it is handed on as. -/
def handedOn {α : Type} (results : List (Except Setback α)) : List (Except Cause α) :=
  results.map (Except.mapError Setback.cause)

/-! ## What it holds -/

section

variable {α : Type} {r : CodeRegistry}

theorem failures_handedOn (results : List (Except Setback α)) :
    failures (handedOn results) = (setbacks results).map Setback.cause := by
  unfold failures handedOn setbacks
  rw [List.filterMap_map, List.map_filterMap]
  congr 1
  funext result
  cases result <;> rfl

theorem setbacks_eq_nil_iff {results : List (Except Setback α)} :
    setbacks results = [] ↔ ∀ result ∈ results, ∃ a, result = .ok a := by
  rw [setbacks, List.filterMap_eq_nil_iff]
  refine forall₂_congr fun result _ => ?_
  cases result with
  | ok a => simp
  | error s => simp

/-- One aggregate of the failures, if there are any. -/
theorem ofResults?_eq_some_iff (hbuilt : r.Built) {results : List (Except Setback α)} {a : Aggregate} :
    ofResults? r (handedOn results) = some a ↔ a.faults = (setbacks results).map Setback.held := by
  have hfaults : (failures (handedOn results)).map (Fault.ofCause r) =
      (setbacks results).map Setback.held := by
    rw [failures_handedOn, List.map_map]
    exact List.map_congr_left fun s _ => Setback.ofCause_cause hbuilt s
  obtain ⟨faults, hne⟩ := a
  simp only [ofResults?, ofCauses?, hfaults, Option.dite_none_right_eq_some, Option.some.injEq,
    Aggregate.mk.injEq]
  exact ⟨fun ⟨_, h⟩ => h.symm, fun h => ⟨h ▸ hne, h.symm⟩⟩

theorem ofResults?_eq_none_iff (hbuilt : r.Built) {results : List (Except Setback α)} :
    ofResults? r (handedOn results) = none ↔ ∀ result ∈ results, ∃ a, result = .ok a := by
  rw [← setbacks_eq_nil_iff, Option.eq_none_iff_forall_ne_some]
  constructor
  · intro h
    by_contra hne
    exact h ⟨(setbacks results).map Setback.held, by simpa using hne⟩
      ((ofResults?_eq_some_iff hbuilt).mpr rfl)
  · intro hnil a ha
    rw [ofResults?_eq_some_iff hbuilt, hnil] at ha
    exact a.nonempty ha

end

/-! ## What it says -/

section

variable {texts more ts us seen : List String} {t : String}

theorem mem_distinct : t ∈ distinct seen texts ↔ t ∈ texts ∧ t ∉ seen := by
  induction texts generalizing seen with
  | nil => simp [distinct]
  | cons x rest ih =>
    rw [distinct]
    split_ifs with hx
    · rw [ih]
      grind
    · rw [List.mem_cons, ih]
      grind

/-- What comes out stands in the order in which it first occurs. -/
theorem ordered_distinct :
    (distinct seen texts).Pairwise fun s t => texts.idxOf s < texts.idxOf t := by
  induction texts generalizing seen with
  | nil => exact .nil
  | cons x rest ih =>
    -- one further to the right, for what is not the first text
    have hshift : ∀ {seen : List String}, x ∈ seen →
        (distinct seen rest).Pairwise fun s t => (x :: rest).idxOf s < (x :: rest).idxOf t := by
      intro seen hx
      refine ih.imp_of_mem fun {s t} hs ht hlt => ?_
      have hne : ∀ u ∈ distinct seen rest, x ≠ u := by
        rintro u hu rfl
        exact (mem_distinct.mp hu).2 hx
      rw [List.idxOf_cons_ne rest (hne s hs), List.idxOf_cons_ne rest (hne t ht)]
      exact Nat.succ_lt_succ hlt
    rw [distinct]
    split_ifs with hx
    · exact hshift (List.contains_iff_mem.mp hx)
    · refine List.pairwise_cons.mpr ⟨fun t ht => ?_, hshift List.mem_cons_self⟩
      have hne : x ≠ t := by
        rintro rfl
        exact (mem_distinct.mp ht).2 List.mem_cons_self
      rw [List.idxOf_cons_self, List.idxOf_cons_ne rest hne]
      exact Nat.succ_pos _

theorem firstOccurrences_distinct (texts : List String) :
    FirstOccurrences texts (distinct [] texts) where
  mem_iff t := by simp [mem_distinct]
  nodup := ordered_distinct.imp fun {s t} hlt heq => by
    subst heq
    exact Nat.lt_irrefl _ hlt
  ordered := ordered_distinct

namespace FirstOccurrences

/-- The members and their order determine the list. -/
theorem unique (h : FirstOccurrences texts ts) (h' : FirstOccurrences texts us) : us = ts := by
  have hperm : us.Perm ts := by
    rw [List.perm_ext_iff_of_nodup h'.nodup h.nodup]
    exact fun t => (h'.mem_iff t).trans (h.mem_iff t).symm
  exact hperm.eq_of_pairwise (fun s t _ _ hst hts => absurd hst (Nat.lt_asymm hts)) h'.ordered h.ordered

/-- What is in a list already adds nothing to it. -/
theorem append (h : FirstOccurrences texts ts) (hmore : ∀ t ∈ more, t ∈ texts) :
    FirstOccurrences (texts ++ more) ts where
  mem_iff t := by
    rw [h.mem_iff, List.mem_append]
    exact ⟨.inl, fun ht => ht.elim id (hmore t)⟩
  nodup := h.nodup
  ordered := h.ordered.imp_of_mem fun {s t} hs ht hlt => by
    rwa [List.idxOf_append_of_mem ((h.mem_iff s).mp hs), List.idxOf_append_of_mem ((h.mem_iff t).mp ht)]

end FirstOccurrences

/-- The messages of what an aggregate holds, in order. -/
def messages (a : Aggregate) : List String := a.faults.map Fault.text

theorem text_eq {a : Aggregate} (h : FirstOccurrences a.messages ts) :
    a.text = if ts.length = 1 then Text.joinWith ", " ts else "[" ++ Text.joinWith ", " ts ++ "]" := by
  obtain rfl := h.unique (firstOccurrences_distinct a.messages)
  rw [text, ← messages]
  split
  · next t hone => simp [hone, Text.joinWith]
  · next hmany =>
    rw [if_neg]
    intro hlength
    obtain ⟨t, ht⟩ := List.length_eq_one_iff.mp hlength
    exact hmany t ht

theorem text_eq_joinWith_iff {a : Aggregate} (h : FirstOccurrences a.messages ts) :
    a.text = Text.joinWith ", " ts ↔ ts.length = 1 := by
  rw [text_eq h]
  split_ifs with hone
  · simp [hone]
  · refine iff_of_false (fun hbare => ?_) hone
    have hlength := congrArg String.length hbare
    simp only [String.length_append] at hlength
    have : "[".length = 1 := rfl
    omega

theorem text_congr {a b : Aggregate} (h : b.messages = a.messages ++ more)
    (hmore : ∀ t ∈ more, t ∈ a.messages) : b.text = a.text := by
  have hfirst := firstOccurrences_distinct a.messages
  rw [text_eq hfirst, text_eq (h ▸ hfirst.append hmore : FirstOccurrences b.messages _)]

end

/-- The aggregate of a batch: there is one unless all went well, and it holds every failure in order, a fault
as it is and anything else under the unknown code with its text and no history.  Its text has each distinct
message once, where it first occurs, and no brackets exactly if there is one.  Failures whose messages are
there already do not change the text. -/
theorem ofResults_keeps {α : Type} {r : CodeRegistry} (hbuilt : r.Built)
    (results : List (Except Setback α)) :
    (ofResults? r (handedOn results) = none ↔ ∀ result ∈ results, ∃ a, result = .ok a) ∧
      ∀ a, ofResults? r (handedOn results) = some a →
        a.faults = (setbacks results).map Setback.held ∧
        (∃ ts, FirstOccurrences a.messages ts ∧ (∀ us, FirstOccurrences a.messages us → us = ts) ∧
          (a.text = if ts.length = 1 then Text.joinWith ", " ts
            else "[" ++ Text.joinWith ", " ts ++ "]") ∧
          (a.text = Text.joinWith ", " ts ↔ ts.length = 1)) ∧
        ∀ more : List (Except Setback α), (∀ s ∈ setbacks more, s.held.text ∈ a.messages) →
          ∃ b, ofResults? r (handedOn (results ++ more)) = some b ∧ b.text = a.text := by
  refine ⟨ofResults?_eq_none_iff hbuilt, fun a ha => ?_⟩
  have hheld := (ofResults?_eq_some_iff hbuilt).mp ha
  have hfirst := firstOccurrences_distinct a.messages
  refine ⟨hheld, ⟨_, hfirst, fun us => hfirst.unique, text_eq hfirst, text_eq_joinWith_iff hfirst⟩, ?_⟩
  intro more hmore
  let b : Aggregate := ⟨a.faults ++ (setbacks more).map Setback.held, by simp [a.nonempty]⟩
  have hmessages : b.messages = a.messages ++ ((setbacks more).map Setback.held).map Fault.text :=
    List.map_append
  refine ⟨b, (ofResults?_eq_some_iff hbuilt).mpr ?_, text_congr hmessages fun t ht => ?_⟩
  · simp [b, hheld, setbacks]
  · simp only [List.map_map, List.mem_map, Function.comp_apply] at ht
    obtain ⟨s, hs, rfl⟩ := ht
    exact hmore s hs

/-- The results of a batch, one of them the aggregate of a smaller one. -/
def stockResults : List (Except Setback Unit) :=
  [.error (.fault soldOut), .ok (), .error (.plain "late"),
    .error (.nested ⟨[soldOut, soldOut], List.cons_ne_nil _ _⟩), .error (.fault soldOut)]

/-- Four failures with three messages; a fifth that says the same as one of them changes nothing. -/
theorem ofResults_keeps_stockResults :
    ∃ a, ofResults? webCodes (handedOn stockResults) = some a ∧ a.faults.length = 4 ∧
      a.text =
        "[Out of stock.:sku 12, Internal server error.:late, Internal server error.:Out of stock.:sku 12]" ∧
      ∃ b, ofResults? webCodes (handedOn (stockResults ++ [.error (.plain "late")])) = some b ∧
        b.text = a.text := by
  have hweb : webCodes.Built := .new _
  obtain ⟨hnone, hsome⟩ := ofResults_keeps hweb stockResults
  cases ha : ofResults? webCodes (handedOn stockResults) with
  | none =>
    obtain ⟨_, hok⟩ := hnone.mp ha (.error (.fault soldOut)) List.mem_cons_self
    cases hok
  | some a =>
    obtain ⟨hfaults, -, happend⟩ := hsome a ha
    obtain ⟨faults, hne⟩ := a
    obtain rfl : faults = (setbacks stockResults).map Setback.held := hfaults
    refine ⟨_, rfl, rfl, rfl, happend _ ?_⟩
    intro s hs
    obtain rfl : s = .plain "late" := List.mem_singleton.mp hs
    have hlate : (Setback.plain "late").held.text ∈
        ((setbacks stockResults).map Setback.held).map Fault.text := by decide
    exact hlate

end Aggregate

end CallChain
