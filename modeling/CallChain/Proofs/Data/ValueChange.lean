import Mathlib.Data.List.Induction

/-!
# Changes to the values of a key

The values of one key are changed in one of two ways: they are replaced, or more are added.  Changes made
one after the other leave the values of the last replacement and, behind them, what was added since
(`ValueChange.Leaves`).
-/

set_option autoImplicit false

namespace CallChain

/-- What is done to the values of one key. -/
inductive ValueChange where
  | replace (values : List String)
  | add (values : List String)
  deriving DecidableEq

namespace ValueChange

/-- The change of what has nothing to do with a key. -/
def keep : ValueChange := .add []

def apply (values : List String) : ValueChange → List String
  | .replace values' => values'
  | .add more => values ++ more

@[simp] theorem apply_replace (values values' : List String) :
    (replace values').apply values = values' := rfl

@[simp] theorem apply_add (values more : List String) : (add more).apply values = values ++ more := rfl

@[simp] theorem apply_keep (values : List String) : keep.apply values = values := List.append_nil values

/-- The values that changes leave, made to no values at first. -/
def run (changes : List ValueChange) : List String := changes.foldl apply []

/-- Changes leave the values of the last replacement, followed by what was added since. -/
inductive Leaves : List ValueChange → List String → Prop where
  /-- Nothing was replaced. -/
  | added (additions : List (List String)) : Leaves (additions.map .add) additions.flatten
  | replaced (earlier : List ValueChange) (values : List String) (additions : List (List String)) :
      Leaves (earlier ++ .replace values :: additions.map .add) (values ++ additions.flatten)

theorem run_append (changes changes' : List ValueChange) :
    run (changes ++ changes') = changes'.foldl apply (run changes) := List.foldl_append

theorem foldl_apply_add (additions : List (List String)) (values : List String) :
    (additions.map add).foldl apply values = values ++ additions.flatten := by
  induction additions generalizing values with
  | nil => simp
  | cons more rest ih =>
    rw [List.map_cons, List.foldl_cons, ih, List.flatten_cons, ← List.append_assoc]
    rfl

section

variable {changes : List ValueChange} {values : List String}

theorem Leaves.concat (h : Leaves changes values) (change : ValueChange) :
    Leaves (changes ++ [change]) (change.apply values) := by
  cases change with
  | replace values' => simpa [apply] using Leaves.replaced changes values' []
  | add more =>
    cases h with
    | added additions => simpa [apply] using Leaves.added (additions ++ [more])
    | replaced earlier values additions =>
      simpa [apply] using Leaves.replaced earlier values (additions ++ [more])

/-- What changes leave is what they come to one by one. -/
theorem leaves_iff : Leaves changes values ↔ run changes = values := by
  constructor
  · intro h
    cases h with
    | added additions => exact foldl_apply_add additions []
    | replaced earlier values additions =>
      rw [run_append, List.foldl_cons]
      exact foldl_apply_add additions values
  · rintro rfl
    -- the list is taken apart from its end, which is where the replacement that counts is looked for
    induction changes using List.reverseRecOn with
    | nil => exact .added []
    | append_singleton changes change ih =>
      rw [run_append]
      exact ih.concat change

/-- Behind earlier changes a list with a replacement leaves what it leaves alone. -/
theorem run_append_of_replace (earlier : List ValueChange) (h : replace values ∈ changes) :
    run (earlier ++ changes) = run changes := by
  have hleaves : Leaves changes (run changes) := leaves_iff.mpr rfl
  generalize run changes = left at hleaves
  cases hleaves with
  | added additions =>
    -- additions only, against `h`
    obtain ⟨more, -, hmore⟩ := List.mem_map.mp h
    cases hmore
  | replaced before last additions =>
    rw [← List.append_assoc]
    exact leaves_iff.mp (.replaced (earlier ++ before) last additions)

end

/-- What adds nothing may be left out. -/
theorem run_map_filter {α : Type} (change : α → ValueChange) (xs : List α) :
    run (xs.map change) = run ((xs.filter fun x => change x ≠ keep).map change) := by
  induction xs using List.reverseRecOn with
  | nil => rfl
  | append_singleton xs x ih =>
    rw [List.map_append, run_append, ih, List.filter_append]
    by_cases h : change x = keep
    · simp [h]
    · simp [h, run_append]

end ValueChange

end CallChain
