import CallChain.Call.Pool
import CallChain.Proofs.Call.Stop
import Mathlib.Data.List.Forall2

/-!
# What derived contexts hold

An `Account` keeps the books of a pool from the steps alone: which token was made from which, what was set
on the way to each context and when, and which contexts were cancelled.  `Kept` ties a pool to its account;
each step keeps it (`Kept.perform`), and so does any number of them.

A context then has exactly what was set on its own path (`CallContext.Follows`), since a derivation makes a
new context and leaves the others as they are.  What contexts do share is the token: `Kept.cancels_iff`
reads from the account which token is cancelled along with which.
-/

set_option autoImplicit false

namespace CallChain

/-! ## The books -/

namespace Setting

/-- The time a setting made at some time stops a context at. -/
def stop? (now : Instant) : Setting → Option Instant
  | .timeout d => some (now + d.nanos)
  | .deadline t => some t
  | _ => none

/-- Whether the clock can name the time at which a setting made at some time stops a context. -/
def fits (now : Instant) : Setting → Bool
  | .timeout d => now + d.nanos ≤ Instant.last
  | _ => true

def requestId? : Setting → Option String
  | .requestId id => some id
  | _ => none

def field? (key : String) : Setting → Option String
  | .field k value => if k = key then some value else none
  | _ => none

end Setting

/-- Settings in the order in which they were made, each with the time at which it was. -/
abbrev SettingPath := List (Setting × Instant)

namespace SettingPath

def stops (path : SettingPath) : List Instant := path.filterMap fun s => s.1.stop? s.2

def requestIds (path : SettingPath) : List String := path.filterMap fun s => s.1.requestId?

def values (path : SettingPath) (key : String) : List String :=
  path.filterMap fun s => s.1.field? key

theorem filterMap_concat {α β : Type} (f : α → Option β) (xs : List α) (x : α) :
    (xs ++ [x]).filterMap f = xs.filterMap f ++ (f x).toList := by
  rw [List.filterMap_append]
  cases h : f x <;> simp [h]

variable (path : SettingPath) (s : Setting) (now : Instant)

theorem stops_concat : stops (path ++ [(s, now)]) = path.stops ++ (s.stop? now).toList :=
  filterMap_concat _ path (s, now)

theorem requestIds_concat :
    requestIds (path ++ [(s, now)]) = path.requestIds ++ s.requestId?.toList :=
  filterMap_concat _ path (s, now)

theorem values_concat (key : String) :
    values (path ++ [(s, now)]) key = path.values key ++ (s.field? key).toList :=
  filterMap_concat _ path (s, now)

end SettingPath

/-- How a context came to be. -/
structure Origin where
  token : Nat
  /-- What was set on the way from the token to the context. -/
  path : SettingPath
  /-- The context it was derived from, if it was. -/
  parent : Option Nat

/-- What was done to a pool. -/
structure Account where
  /-- For each token the one it was made from. -/
  madeFrom : List (Option Nat)
  /-- How each context came to be. -/
  origins : List Origin
  /-- The contexts that were cancelled. -/
  cancelled : List Nat
  now : Instant

/-- A token is another one, or one that it was made from. -/
inductive Above (madeFrom : List (Option Nat)) : Nat → Nat → Prop where
  | self (n : Nat) : Above madeFrom n n
  | parent {k m n : Nat} : madeFrom[n]? = some (some m) → Above madeFrom k m → Above madeFrom k n

namespace Account

def empty : Account := ⟨[], [], [], 0⟩

def makeToken (a : Account) (parent : Option Nat) : Account :=
  { a with madeFrom := a.madeFrom ++ [parent.filter (· < a.madeFrom.length)] }

def add (a : Account) (o : Origin) : Account := { a with origins := a.origins ++ [o] }

def onToken (a : Account) (n : Nat) : Account :=
  if n < a.madeFrom.length then a.add ⟨n, [], none⟩ else a

def derive (a : Account) (i : Nat) (s : Setting) : Account :=
  match a.origins[i]? with
  | some o => if s.fits a.now then a.add ⟨o.token, o.path ++ [(s, a.now)], some i⟩ else a
  | none => a

def cancel (a : Account) (i : Nat) : Account :=
  if i < a.origins.length then { a with cancelled := i :: a.cancelled } else a

def note (a : Account) : PoolStep → Account
  | .new => (a.makeToken none).onToken a.madeFrom.length
  | .makeToken parent => a.makeToken parent
  | .onToken n => a.onToken n
  | .derive i s => a.derive i s
  | .cancel i => a.cancel i
  | .advance d => { a with now := a.now + d.nanos }

def ofSteps (steps : List PoolStep) : Account := steps.foldl note empty

/-- Some context was cancelled whose token is a given one or one that it was made from. -/
def Stops (a : Account) (token : Nat) : Prop :=
  ∃ i ∈ a.cancelled, ∃ b, a.origins[i]? = some b ∧ Above a.madeFrom b.token token

end Account

theorem above_iff {madeFrom : List (Option Nat)} {k n : Nat} :
    Above madeFrom k n ↔ k = n ∨ ∃ m, madeFrom[n]? = some (some m) ∧ Above madeFrom k m := by
  constructor
  · intro h
    cases h with
    | self => exact .inl rfl
    | parent hm habove => exact .inr ⟨_, hm, habove⟩
  · rintro (rfl | ⟨m, hm, habove⟩)
    · exact .self k
    · exact .parent hm habove

theorem eq_of_above {madeFrom : List (Option Nat)} (hnone : ∀ m ∈ madeFrom, m = none) {k n : Nat}
    (h : Above madeFrom k n) : k = n := by
  cases h with
  | self => rfl
  | parent hm _ => cases hnone _ (List.mem_of_getElem? hm)

theorem getElem?_of_grown {α : Type} {xs ys : List α} (h : xs <+: ys) {i : Nat} {x : α}
    (hx : xs[i]? = some x) : ys[i]? = some x := by
  obtain ⟨rest, rfl⟩ := h
  rw [List.getElem?_append_left (List.getElem?_eq_some_iff.mp hx).1, hx]

theorem getElem?_concat_of_lt {α : Type} {xs : List α} {x : α} {i : Nat} (h : i < xs.length) :
    (xs ++ [x])[i]? = xs[i]? := List.getElem?_append_left h

/-- A new token is above none that was there before. -/
theorem above_concat_iff {madeFrom : List (Option Nat)} {x : Option Nat} {k n : Nat}
    (holder : ∀ n m : Nat, madeFrom[n]? = some (some m) → m < n) (hn : n < madeFrom.length) :
    Above (madeFrom ++ [x]) k n ↔ Above madeFrom k n := by
  constructor
  · intro h
    induction h with
    | self => exact .self _
    | @parent m n hm _ ih =>
      rw [getElem?_concat_of_lt hn] at hm
      exact .parent hm (ih (Nat.lt_trans (holder _ _ hm) hn))
  · intro h
    induction h with
    | self => exact .self _
    | parent hm _ ih =>
      exact .parent (getElem?_of_grown (List.prefix_append madeFrom [x]) hm)
        (ih (Nat.lt_trans (holder _ _ hm) hn))

/-! ## One context -/

theorem min?_concat (xs : List Nat) (x : Nat) :
    (xs ++ [x]).min? = some (xs.min?.elim x fun m => min m x) := by
  cases xs with
  | nil => rfl
  | cons y ys =>
    show some ((ys ++ [x]).foldl min y) = some (min (ys.foldl min y) x)
    rw [List.foldl_append]
    rfl

namespace CallContext

variable {c b : CallContext} {path : SettingPath}

/-- A context has what was set on a path and nothing else. -/
structure Follows (c : CallContext) (path : SettingPath) : Prop where
  /-- It stops at the earliest time it was told to stop at. -/
  deadline : c.deadline = path.stops.min?
  requestId : c.requestId = path.requestIds.getLast?
  field : ∀ key, c.fields.get? key = (path.values key).getLast?

/-- A context never stops later than another one. -/
def NoLater (c b : CallContext) : Prop :=
  ∀ d, b.deadline = some d → ∃ e, c.deadline = some e ∧ e ≤ d

theorem follows_ofToken (t : Token) : (ofToken t).Follows [] := ⟨rfl, rfl, fun _ => rfl⟩

theorem deadline_withDeadline (c : CallContext) (t : Instant) :
    (c.withDeadline t).deadline = some (c.deadline.elim t fun d => min d t) := by
  unfold withDeadline
  cases c.deadline with
  | none => rfl
  | some d =>
    by_cases h : d < t
    · simp [h, Nat.min_eq_left (Nat.le_of_lt h)]
    · simp [h, Nat.min_eq_right (Nat.le_of_not_lt h)]

/-- The context derived with a setting whose time the clock can name. -/
def derived (c : CallContext) (w : World) : Setting → CallContext
  | .timeout d => c.withDeadline (w.now + d.nanos)
  | .deadline t => c.withDeadline t
  | .requestId id => c.withRequestId id
  | .field key value => c.withField key value

/-- A context is derived if the clock can name the time. -/
theorem derive_of_fits {w : World} {s : Setting} (h : s.fits w.now = true) :
    c.derive w s = .ok (c.derived w s) := by
  cases s with
  | timeout d => exact if_pos (of_decide_eq_true h)
  | deadline | requestId | field => rfl

theorem derive_of_not_fits {w : World} {s : Setting} (h : s.fits w.now = false) :
    ∃ e, c.derive w s = .error e := by
  cases s with
  | timeout d => exact ⟨_, if_neg (of_decide_eq_false h)⟩
  | deadline | requestId | field => cases h

/-- A derived context follows the path of the one it comes from, and the setting after it. -/
theorem Follows.derived (h : c.Follows path) (w : World) (s : Setting) :
    (c.derived w s).Follows (path ++ [(s, w.now)]) where
  deadline := by
    rw [SettingPath.stops_concat]
    have hstop (t : Instant) : (c.withDeadline t).deadline = (path.stops ++ [t]).min? := by
      rw [deadline_withDeadline, min?_concat, h.deadline]
    cases s with
    | timeout d => exact hstop _
    | deadline t => exact hstop t
    | _ => exact h.deadline.trans (congrArg List.min? (List.append_nil _).symm)
  requestId := by
    rw [SettingPath.requestIds_concat]
    cases s with
    | requestId id => exact List.getLast?_concat.symm
    | _ => exact h.requestId.trans (congrArg List.getLast? (List.append_nil _).symm)
  field key := by
    rw [SettingPath.values_concat]
    cases s with
    | field k value =>
      show (c.fields.insert k value).get? key = _
      rw [SortedMap.get?_insert, h.field, Setting.field?]
      by_cases hkey : k = key
      · rw [if_pos hkey, if_pos hkey.symm]
        exact List.getLast?_concat.symm
      · rw [if_neg hkey, if_neg (Ne.symm hkey), Option.toList, List.append_nil]
    | _ => exact (h.field key).trans (congrArg List.getLast? (List.append_nil _).symm)

theorem token_derived (c : CallContext) (w : World) (s : Setting) :
    (c.derived w s).token = c.token := by
  cases s <;> rfl

theorem noLater_withDeadline (c : CallContext) (t : Instant) : (c.withDeadline t).NoLater c := by
  intro d hd
  rw [deadline_withDeadline, hd]
  exact ⟨min d t, rfl, Nat.min_le_left d t⟩

theorem noLater_derived (c : CallContext) (w : World) (s : Setting) : (c.derived w s).NoLater c := by
  cases s with
  | timeout d => exact noLater_withDeadline c _
  | deadline t => exact noLater_withDeadline c t
  | requestId id => exact fun d hd => ⟨d, hd, Nat.le_refl d⟩
  | field key value => exact fun d hd => ⟨d, hd, Nat.le_refl d⟩

/-- No time is left exactly when the deadline has passed. -/
theorem remaining_eq_zero_iff (c : CallContext) (w : World) :
    c.remaining w = some .zero ↔ c.isExpired w = true := by
  unfold remaining isExpired
  cases c.deadline with
  | none => simp
  | some d => simp [Duration.zero, Nat.sub_eq_zero_iff_le]

theorem isSome_doneReason? (c : CallContext) (w : World) : (c.doneReason? w).isSome = c.isDone w := by
  unfold doneReason? isDone
  cases c.isCancelled w <;> cases c.isExpired w <;> rfl

/-- What is done stays done while time passes and tokens are cancelled. -/
theorem isDone_mono {w w' : World} (hnow : w.now ≤ w'.now)
    (hcancelled : w.isCancelled c.token = true → w'.isCancelled c.token = true)
    (h : c.isDone w = true) : c.isDone w' = true := by
  rw [isDone, Bool.or_eq_true] at h ⊢
  refine h.imp hcancelled fun hexpired => ?_
  unfold isExpired at hexpired ⊢
  cases hd : c.deadline with
  | none => simp [hd] at hexpired
  | some d =>
    rw [hd] at hexpired
    exact decide_eq_true (Nat.le_trans (of_decide_eq_true hexpired) hnow)

end CallContext

/-- A cancellation takes no time, leaves what is due and makes no token. -/
theorem World.kept_cancel (w : World) (t : Token) :
    (w.cancel t).now = w.now ∧ (w.cancel t).agenda = w.agenda ∧
      (w.cancel t).nextToken = w.nextToken := by
  unfold World.cancel
  cases t.lineage <;> exact ⟨rfl, rfl, rfl⟩

/-! ## The whole pool -/

namespace ContextPool

variable {p p' : ContextPool} {a : Account} {c : CallContext} {o : Origin}

/-- A context of a pool came to be as its origin says. -/
structure Entry (p : ContextPool) (c : CallContext) (o : Origin) : Prop where
  token : p.tokens[o.token]? = some c.token
  follows : c.Follows o.path
  parent : ∀ i, o.parent = some i →
    ∃ b, p.members[i]? = some b ∧ c.token = b.token ∧ c.NoLater b

theorem Entry.mono (h : p.Entry c o) (htokens : p.tokens <+: p'.tokens)
    (hmembers : p.members <+: p'.members) : p'.Entry c o where
  token := getElem?_of_grown htokens h.token
  follows := h.follows
  parent i hi := by
    obtain ⟨b, hb, hrest⟩ := h.parent i hi
    exact ⟨b, getElem?_of_grown hmembers hb, hrest⟩

/-- A pool is as the books say. -/
structure Kept (p : ContextPool) (a : Account) : Prop where
  now : p.world.now = a.now
  agenda : p.world.agenda = []
  next : p.world.nextToken = p.tokens.length
  made : a.madeFrom.length = p.tokens.length
  older : ∀ n m : Nat, a.madeFrom[n]? = some (some m) → m < n
  lineage : ∀ (n : Nat) t, p.tokens[n]? = some t →
    t.lineage.head? = some n ∧ ∀ k, k ∈ t.lineage ↔ Above a.madeFrom k n
  entries : List.Forall₂ p.Entry p.members a.origins
  there : ∀ i ∈ a.cancelled, i < p.members.length
  cancelled : ∀ t, p.world.isCancelled t = true ↔
    ∃ i ∈ a.cancelled, ∃ b, p.members[i]? = some b ∧ b.token.cancels t = true

theorem kept_empty : Kept empty .empty where
  now := rfl
  agenda := rfl
  next := rfl
  made := rfl
  older n m h := by simp [Account.empty] at h
  lineage n t h := by simp [empty] at h
  entries := .nil
  there i h := by simp [Account.empty] at h
  cancelled t := by simp [Account.empty, empty, World.initial, World.isCancelled]

namespace Kept

variable (h : Kept p a)

include h

theorem exists_origin {i : Nat} (hc : p.members[i]? = some c) :
    ∃ o, a.origins[i]? = some o ∧ p.Entry c o := by
  obtain ⟨hi, rfl⟩ := List.getElem?_eq_some_iff.mp hc
  have hi' : i < a.origins.length := h.entries.length_eq ▸ hi
  exact ⟨a.origins[i], List.getElem?_eq_getElem hi', h.entries.get hi hi'⟩

theorem exists_member {i : Nat} (ho : a.origins[i]? = some o) :
    ∃ c, p.members[i]? = some c ∧ p.Entry c o := by
  obtain ⟨hi, rfl⟩ := List.getElem?_eq_some_iff.mp ho
  have hi' : i < p.members.length := h.entries.length_eq ▸ hi
  exact ⟨p.members[i], List.getElem?_eq_getElem hi', h.entries.get hi' hi⟩

theorem members_none {i : Nat} (hc : p.members[i]? = none) : a.origins[i]? = none := by
  rw [List.getElem?_eq_none_iff] at hc ⊢
  rwa [← h.entries.length_eq]

/-- A token is cancelled along with the tokens it was made from. -/
theorem cancels_iff {m n : Nat} {s t : Token} (hs : p.tokens[m]? = some s)
    (ht : p.tokens[n]? = some t) : s.cancels t = true ↔ Above a.madeFrom m n := by
  obtain ⟨hhead, -⟩ := h.lineage m s hs
  rw [← (h.lineage n t ht).2 m, Token.cancels]
  cases hl : s.lineage with
  | nil => simp [hl] at hhead
  | cons k parents =>
    obtain rfl : k = m := by simpa [hl] using hhead
    simp

/-- A context is cancelled exactly if one was cancelled whose token is above its own. -/
theorem isCancelled_iff (he : p.Entry c o) : c.isCancelled p.world = true ↔ a.Stops o.token := by
  refine (h.cancelled c.token).trans ⟨?_, ?_⟩
  · rintro ⟨i, hi, b, hb, hcancels⟩
    obtain ⟨ob, hob, heb⟩ := h.exists_origin hb
    exact ⟨i, hi, ob, hob, (h.cancels_iff heb.token he.token).mp hcancels⟩
  · rintro ⟨i, hi, ob, hob, habove⟩
    obtain ⟨b, hb, heb⟩ := h.exists_member hob
    exact ⟨i, hi, b, hb, (h.cancels_iff heb.token he.token).mpr habove⟩

theorem lineage_newToken (parent : Option Nat) :
    (p.world.newToken (parent.bind fun n => p.tokens[n]?)).1.lineage.head? = some a.madeFrom.length ∧
      ∀ k, k ∈ (p.world.newToken (parent.bind fun n => p.tokens[n]?)).1.lineage ↔
        Above (a.madeFrom ++ [parent.filter (· < a.madeFrom.length)]) k a.madeFrom.length := by
  refine ⟨by simp [World.newToken, h.next, h.made], fun k => ?_⟩
  rw [above_iff, List.getElem?_concat_length, World.newToken, List.mem_cons, h.next, h.made]
  refine or_congr Iff.rfl ?_
  cases parent with
  | none => simp
  | some m =>
    by_cases hm : m < p.tokens.length
    · have ht : p.tokens[m]? = some p.tokens[m] := List.getElem?_eq_getElem hm
      simp only [Option.bind_some, ht, Option.map_some, Option.getD_some, (h.lineage m _ ht).2,
        Option.filter_some, hm, decide_true, if_true, Option.some.injEq, exists_eq_left']
      exact (above_concat_iff h.older (h.made ▸ hm)).symm
    · simp [hm]

theorem makeToken (parent : Option Nat) : Kept (p.makeToken parent) (a.makeToken parent) where
  now := h.now
  agenda := h.agenda
  next := by simp [ContextPool.makeToken, World.newToken, h.next]
  made := by simp [ContextPool.makeToken, Account.makeToken, h.made]
  older n m hm := by
    by_cases hn : n < a.madeFrom.length
    · rw [Account.makeToken, getElem?_concat_of_lt hn] at hm
      exact h.older n m hm
    · obtain ⟨hlt, hget⟩ := List.getElem?_eq_some_iff.mp hm
      simp only [Account.makeToken, List.length_append, List.length_singleton] at hlt
      obtain rfl : n = a.madeFrom.length := by omega
      simp only [Account.makeToken, List.getElem_concat_length, Option.filter_eq_some_iff,
        decide_eq_true_eq] at hget
      exact hget.2
  lineage n t ht := by
    by_cases hn : n < p.tokens.length
    · rw [ContextPool.makeToken, getElem?_concat_of_lt hn] at ht
      obtain ⟨hhead, hmem⟩ := h.lineage n t ht
      exact ⟨hhead, fun k => (hmem k).trans (above_concat_iff h.older (h.made ▸ hn)).symm⟩
    · obtain ⟨hlt, hget⟩ := List.getElem?_eq_some_iff.mp ht
      simp only [ContextPool.makeToken, List.length_append, List.length_singleton] at hlt
      obtain rfl : n = p.tokens.length := by omega
      simp only [ContextPool.makeToken, List.getElem_concat_length] at hget
      subst hget
      rw [← h.made]
      exact h.lineage_newToken parent
  entries := h.entries.imp fun _ _ he => he.mono (List.prefix_append _ _) (List.prefix_refl _)
  there := h.there
  cancelled := h.cancelled

theorem add (he : p.Entry c o) : Kept (p.add c) (a.add o) where
  now := h.now
  agenda := h.agenda
  next := h.next
  made := h.made
  older := h.older
  lineage := h.lineage
  entries := by
    have hgrow {c' o'} (he' : p.Entry c' o') : (p.add c).Entry c' o' :=
      he'.mono (List.prefix_refl _) (List.prefix_append _ _)
    exact List.rel_append (h.entries.imp fun _ _ => hgrow) (.cons (hgrow he) .nil)
  there i hi := by
    have := h.there i hi
    simp only [ContextPool.add, List.length_append]
    omega
  cancelled t := by
    rw [show (p.add c).world = p.world from rfl, h.cancelled]
    refine exists_congr fun i => and_congr_right fun hi => ?_
    rw [ContextPool.add, getElem?_concat_of_lt (h.there i hi)]

theorem onToken (n : Nat) : Kept (p.onToken n) (a.onToken n) := by
  unfold ContextPool.onToken Account.onToken
  rw [h.made]
  cases ht : p.tokens[n]? with
  | none =>
    rw [if_neg (Nat.not_lt.mpr (List.getElem?_eq_none_iff.mp ht))]
    exact h
  | some t =>
    rw [if_pos (List.getElem?_eq_some_iff.mp ht).1]
    exact h.add ⟨ht, CallContext.follows_ofToken t, nofun⟩

theorem derive (i : Nat) (s : Setting) : Kept (p.derive i s) (a.derive i s) := by
  unfold ContextPool.derive Account.derive
  cases hc : p.members[i]? with
  | none => simpa [h.members_none hc] using h
  | some c =>
    obtain ⟨o, ho, he⟩ := h.exists_origin hc
    rw [ho, ← h.now]
    cases hfits : s.fits p.world.now with
    | false =>
      obtain ⟨e, hderive⟩ := CallContext.derive_of_not_fits (c := c) hfits
      simpa only [hderive, Bool.false_eq_true, if_false] using h
    | true =>
      simp only [CallContext.derive_of_fits hfits, if_true]
      refine h.add ⟨?_, he.follows.derived p.world s, ?_⟩
      · rw [CallContext.token_derived]
        exact he.token
      · intro j hj
        cases hj
        exact ⟨c, hc, CallContext.token_derived c p.world s, CallContext.noLater_derived c p.world s⟩

theorem cancel (i : Nat) : Kept (p.cancel i) (a.cancel i) := by
  unfold ContextPool.cancel Account.cancel
  rw [← h.entries.length_eq]
  cases hc : p.members[i]? with
  | none =>
    rw [if_neg (Nat.not_lt.mpr (List.getElem?_eq_none_iff.mp hc))]
    exact h
  | some c =>
    have hi := (List.getElem?_eq_some_iff.mp hc).1
    rw [if_pos hi]
    obtain ⟨hnow, hagenda, hnext⟩ := World.kept_cancel p.world c.token
    exact
      { h with
        now := hnow.trans h.now
        agenda := hagenda.trans h.agenda
        next := hnext.trans h.next
        entries := h.entries.imp fun _ _ he => he.mono (List.prefix_refl _) (List.prefix_refl _)
        there := by
          intro j hj
          rcases List.mem_cons.mp hj with rfl | hj
          · exact hi
          · exact h.there j hj
        cancelled := by
          intro t
          rw [World.isCancelled_cancel, Bool.or_eq_true, h.cancelled, List.exists_mem_cons_iff]
          refine or_congr_left ?_
          simp [hc] }

/-- What is done in the world alone leaves the rest of the pool as it was. -/
theorem setWorld {w : World} {now : Instant} (hnow : w.now = now) (hagenda : w.agenda = p.world.agenda)
    (hnext : w.nextToken = p.world.nextToken) (hcancelled : w.cancelled = p.world.cancelled) :
    Kept { p with world := w } { a with now := now } :=
  { h with
    now := hnow
    agenda := hagenda.trans h.agenda
    next := hnext.trans h.next
    entries := h.entries.imp fun _ _ he => he.mono (List.prefix_refl _) (List.prefix_refl _)
    cancelled := fun t => by
      rw [← h.cancelled, World.isCancelled, World.isCancelled, hcancelled] }

theorem world_advance (d : Duration) :
    (p.advance d).world = { p.world with clock := p.world.clock.passTo (p.world.now + d.nanos) } := by
  simp [ContextPool.advance, World.passTo, World.moveTo, h.agenda]

theorem now_advance (d : Duration) : (p.advance d).world.now = a.now + d.nanos := by
  rw [h.world_advance, ← h.now]
  exact (Clock.now_passTo _ _).trans (Nat.max_eq_right (Nat.le_add_right _ _))

theorem advance (d : Duration) : Kept (p.advance d) { a with now := a.now + d.nanos } := by
  have hworld := h.world_advance d
  exact h.setWorld (w := (p.advance d).world) (h.now_advance d) (by rw [hworld]) (by rw [hworld])
    (by rw [hworld])

theorem perform (s : PoolStep) : Kept (p.perform s) (a.note s) := by
  cases s with
  | new =>
    rw [ContextPool.perform, Account.note, ← h.made]
    exact (h.makeToken none).onToken _
  | makeToken parent => exact h.makeToken parent
  | onToken n => exact h.onToken n
  | derive i s => exact h.derive i s
  | cancel i => exact h.cancel i
  | advance d => exact h.advance d

theorem performAll (steps : List PoolStep) : Kept (p.performAll steps) (steps.foldl Account.note a) := by
  induction steps generalizing p a with
  | nil => exact h
  | cons s rest ih => exact ih (h.perform s)

end Kept

theorem kept_ofSteps (steps : List PoolStep) :
    Kept (empty.performAll steps) (Account.ofSteps steps) := kept_empty.performAll steps

/-! ## What later steps leave alone -/

/-- A pool with its books and what they became later: what was there is as it was. -/
structure Later (p : ContextPool) (a : Account) (p' : ContextPool) (a' : Account) : Prop where
  members : p.members <+: p'.members
  origins : a.origins <+: a'.origins
  now : p.world.now ≤ p'.world.now
  cancelled : ∀ t, p.world.isCancelled t = true → p'.world.isCancelled t = true

theorem Later.refl (p : ContextPool) (a : Account) : Later p a p a :=
  ⟨List.prefix_refl _, List.prefix_refl _, Nat.le_refl _, fun _ ht => ht⟩

theorem Later.trans {p'' : ContextPool} {a' a'' : Account} (h : Later p a p' a')
    (h' : Later p' a' p'' a'') : Later p a p'' a'' :=
  ⟨h.members.trans h'.members, h.origins.trans h'.origins, Nat.le_trans h.now h'.now,
    fun t ht => h'.cancelled t (h.cancelled t ht)⟩

theorem later_add (p : ContextPool) (a : Account) (c : CallContext) (o : Origin) :
    Later p a (p.add c) (a.add o) :=
  ⟨List.prefix_append _ _, List.prefix_append _ _, Nat.le_refl _, fun _ ht => ht⟩

theorem later_makeToken (p : ContextPool) (a : Account) (parent : Option Nat) :
    Later p a (p.makeToken parent) (a.makeToken parent) :=
  ⟨List.prefix_refl _, List.prefix_refl _, Nat.le_refl _, fun _ ht => ht⟩

theorem later_setWorld (p : ContextPool) (a : Account) {w : World} {now : Instant}
    (hnow : p.world.now ≤ w.now) (hcancelled : w.cancelled = p.world.cancelled) :
    Later p a { p with world := w } { a with now := now } where
  members := List.prefix_refl _
  origins := List.prefix_refl _
  now := hnow
  cancelled t ht := by
    rw [World.isCancelled, hcancelled]
    exact ht

theorem later_cancel (p : ContextPool) (a : Account) (i : Nat) :
    Later p a (p.cancel i) (a.cancel i) where
  members := by unfold ContextPool.cancel; cases p.members[i]? <;> exact List.prefix_refl _
  origins := by unfold Account.cancel; split <;> exact List.prefix_refl _
  now := by
    unfold ContextPool.cancel
    cases p.members[i]? with
    | none => exact Nat.le_refl _
    | some c => exact Nat.le_of_eq (World.kept_cancel p.world c.token).1.symm
  cancelled t ht := by
    unfold ContextPool.cancel
    cases p.members[i]? with
    | none => exact ht
    | some c =>
      show (p.world.cancel c.token).isCancelled t = true
      rw [World.isCancelled_cancel, ht, Bool.or_true]

namespace Kept

variable (h : Kept p a)

include h

theorem later_onToken (n : Nat) : Later p a (p.onToken n) (a.onToken n) := by
  unfold ContextPool.onToken Account.onToken
  rw [h.made]
  cases ht : p.tokens[n]? with
  | none =>
    rw [if_neg (Nat.not_lt.mpr (List.getElem?_eq_none_iff.mp ht))]
    exact .refl p a
  | some t =>
    rw [if_pos (List.getElem?_eq_some_iff.mp ht).1]
    exact later_add p a _ _

theorem later_derive (i : Nat) (s : Setting) : Later p a (p.derive i s) (a.derive i s) := by
  unfold ContextPool.derive Account.derive
  cases hc : p.members[i]? with
  | none =>
    rw [h.members_none hc]
    exact .refl p a
  | some c =>
    obtain ⟨o, ho, -⟩ := h.exists_origin hc
    rw [ho, ← h.now]
    cases hfits : s.fits p.world.now with
    | false =>
      obtain ⟨e, hderive⟩ := CallContext.derive_of_not_fits (c := c) hfits
      simp only [hderive, Bool.false_eq_true, if_false]
      exact .refl p a
    | true =>
      simp only [CallContext.derive_of_fits hfits, if_true]
      exact later_add p a _ _

theorem later_perform (s : PoolStep) : Later p a (p.perform s) (a.note s) := by
  cases s with
  | new =>
    rw [ContextPool.perform, Account.note, ← h.made]
    exact (later_makeToken p a none).trans ((h.makeToken none).later_onToken _)
  | makeToken parent => exact later_makeToken p a parent
  | onToken n => exact h.later_onToken n
  | derive i s => exact h.later_derive i s
  | cancel i => exact later_cancel p a i
  | advance d =>
    refine later_setWorld p a (w := (p.advance d).world) ?_ (by rw [h.world_advance])
    rw [h.now_advance, h.now]
    exact Nat.le_add_right _ _

theorem later_performAll (steps : List PoolStep) :
    Later p a (p.performAll steps) (steps.foldl Account.note a) := by
  induction steps generalizing p a with
  | nil => exact .refl p a
  | cons s rest ih => exact (h.later_perform s).trans (ih (h.perform s))

end Kept

/-! ## What a context holds -/

/-- What the books of a pool tell of a context. -/
structure Told (p : ContextPool) (a : Account) (c : CallContext) (o : Origin) : Prop
    extends c.Follows o.path where
  /-- It has the token of the context it comes from and does not stop later. -/
  parent : ∀ i, o.parent = some i →
    ∃ b, p.members[i]? = some b ∧ c.token = b.token ∧ c.NoLater b
  /-- Cancelling a context cancels those that hold its token or one made from it, and no others. -/
  cancelled : c.isCancelled p.world = true ↔ a.Stops o.token
  /-- As long as no token was made from another one, only those that hold its token. -/
  cancelledAlone : (∀ m ∈ a.madeFrom, m = none) →
    (c.isCancelled p.world = true ↔
      ∃ i ∈ a.cancelled, ∃ b, a.origins[i]? = some b ∧ b.token = o.token)
  expired : c.isExpired p.world = true ↔ ∃ d, c.deadline = some d ∧ d ≤ a.now
  /-- No time is left exactly when the deadline has passed. -/
  remaining : c.remaining p.world = some .zero ↔ c.isExpired p.world = true
  reason : (c.doneReason? p.world).isSome = c.isDone p.world
  /-- Cancellation is named even past the deadline. -/
  reason_of_cancelled : c.isCancelled p.world = true →
    c.doneReason? p.world = some CallContext.cancelledText

theorem Kept.told (h : Kept p a) (he : p.Entry c o) : p.Told a c o where
  toFollows := he.follows
  parent := he.parent
  cancelled := h.isCancelled_iff he
  cancelledAlone hnone := by
    rw [h.isCancelled_iff he]
    refine exists_congr fun i => and_congr_right fun _ => exists_congr fun b => and_congr_right fun _ => ?_
    refine ⟨eq_of_above hnone, fun htoken => ?_⟩
    rw [htoken]
    exact .self o.token
  expired := by
    unfold CallContext.isExpired
    cases c.deadline <;> simp [h.now]
  remaining := CallContext.remaining_eq_zero_iff c p.world
  reason := CallContext.isSome_doneReason? c p.world
  reason_of_cancelled hcancelled := by
    unfold CallContext.doneReason?
    rw [if_pos hcancelled]

/-- After any steps every context is as the books tell.  It stays what it is whatever is done next, and once
it is done it stays done. -/
theorem told_performAll (steps : List PoolStep) :
    (empty.performAll steps).members.length = (Account.ofSteps steps).origins.length ∧
      ∀ (i : Nat) (c : CallContext), (empty.performAll steps).members[i]? = some c →
        ∃ o, (Account.ofSteps steps).origins[i]? = some o ∧
          (empty.performAll steps).Told (Account.ofSteps steps) c o ∧
          ∀ more, (empty.performAll (steps ++ more)).members[i]? = some c ∧
            (Account.ofSteps (steps ++ more)).origins[i]? = some o ∧
            (c.isDone (empty.performAll steps).world = true →
              c.isDone (empty.performAll (steps ++ more)).world = true) := by
  have h := kept_ofSteps steps
  refine ⟨h.entries.length_eq, fun i c hc => ?_⟩
  obtain ⟨o, ho, he⟩ := h.exists_origin hc
  refine ⟨o, ho, h.told he, fun more => ?_⟩
  have hlater := h.later_performAll more
  rw [Account.ofSteps, ← List.foldl_append] at hlater
  rw [performAll, List.foldl_append]
  exact ⟨getElem?_of_grown hlater.members hc, getElem?_of_grown hlater.origins ho,
    CallContext.isDone_mono hlater.now (hlater.cancelled c.token)⟩

/-- Two contexts derived from one with a timeout: a longer timeout and, later, a field and a cancellation. -/
def siblingSteps : List PoolStep :=
  [.new, .derive 0 (.timeout ⟨50⟩), .advance ⟨20⟩, .derive 1 (.timeout ⟨80⟩),
    .derive 1 (.field "tenant" "acme"), .cancel 3]

/-- The longer timeout does not count, the field of the other context is not seen, its cancellation is. -/
theorem told_performAll_siblings :
    ∃ c, (empty.performAll siblingSteps).members[2]? = some c ∧ c.deadline = some 50 ∧
      c.fields.get? "tenant" = none ∧
      c.isCancelled (empty.performAll siblingSteps).world = true := by
  obtain ⟨o, ho, htold, -⟩ := (told_performAll siblingSteps).2 2 _ rfl
  obtain rfl : (⟨0, [(.timeout ⟨50⟩, 0), (.timeout ⟨80⟩, 20)], some 1⟩ : Origin) = o :=
    Option.some.inj ho
  refine ⟨_, rfl, htold.deadline, htold.field "tenant", ?_⟩
  exact (htold.cancelledAlone (by decide)).mpr ⟨3, by decide, _, rfl, rfl⟩

/-- The token alone does not tell: a context on a token made from that of another context is cancelled along
with that one. -/
theorem not_cancelled_by_token_alone :
    ¬ ∀ (steps : List PoolStep) (i : Nat) (c : CallContext) (o : Origin),
      (empty.performAll steps).members[i]? = some c →
      (Account.ofSteps steps).origins[i]? = some o →
      (c.isCancelled (empty.performAll steps).world = true ↔
        ∃ j ∈ (Account.ofSteps steps).cancelled,
          ∃ b, (Account.ofSteps steps).origins[j]? = some b ∧ b.token = o.token) := by
  intro hclaim
  obtain ⟨j, hj, b, hb, htoken⟩ :=
    (hclaim [.new, .makeToken (some 0), .onToken 1, .cancel 0] 1 _ _ rfl rfl).mp rfl
  obtain rfl : j = 0 := List.mem_singleton.mp hj
  obtain rfl : (⟨0, [], none⟩ : Origin) = b := Option.some.inj hb
  cases htoken

end ContextPool

end CallChain
