import CallChain.Text.Path

/-!
# The name a path ends with

A path ends with a name when nothing but slashes, and `.` between slashes, follows the name
(`FinalName`).  What stands before the name is a path again, and the name right before the last one is the
one that this path ends with.  `Shortened` says in these words what the short form of a path is, without
taking the path apart into components.

The last component of a path is a name exactly when the path ends with that name, and the components before
it are those of the path in front of it (`pathComponents_eq_concat_iff`).  So there is one short form for
every path (`shortened_iff`), and shortening it again changes nothing (`Shortened.self`).
-/

set_option autoImplicit false

namespace CallChain.Text

/-- An ordinary name, as it stands between two slashes. -/
structure OrdinaryName (piece : List Char) : Prop where
  ne_nil : piece ≠ []
  ne_here : piece ≠ ['.']
  ne_up : piece ≠ ['.', '.']
  slash_not_mem : '/' ∉ piece

/-- What may follow a name without naming anything: slashes, each with or without a `.` after it. -/
inductive Idle : List Char → Prop
  | nil : Idle []
  | slash {rest : List Char} (h : Idle rest) : Idle ('/' :: rest)
  | here {rest : List Char} (h : Idle rest) : Idle ('/' :: '.' :: rest)

/-- A path that ends with a name; `front` is what stands before the name, nothing or a path with a slash
at its end. -/
structure FinalName (path front name : List Char) : Prop where
  ordinary : OrdinaryName name
  front_cases : front = [] ∨ ∃ above, front = above ++ ['/']
  idle : ∃ rest, Idle rest ∧ path = front ++ (name ++ rest)

/-- The short form of a path. -/
inductive Shortened (path : String) : String → Prop
  /-- The name it ends with and the name right before that, with a slash between them. -/
  | pair {front name before parent : List Char} (h : FinalName path.toList front name)
      (hparent : FinalName front before parent) :
      Shortened path (String.ofList (parent ++ '/' :: name))
  /-- The name it ends with, when no name stands right before that. -/
  | alone {front name : List Char} (h : FinalName path.toList front name)
      (hparent : ∀ before parent, ¬FinalName front before parent) :
      Shortened path (String.ofList name)
  /-- The path as it is, when it ends with no name. -/
  | nameless (h : ∀ front name, ¬FinalName path.toList front name) : Shortened path path

/-! ### Pieces between slashes -/

/-- The components that come from the pieces between slashes. -/
def pieceComponents (path : List Char) : List PathComponent :=
  (splitAll '/' path).filterMap PathComponent.ofPiece?

/-- The component that only the beginning of a path can have. -/
def opening (path : List Char) : List PathComponent :=
  if path.head? = some '/' then [.root]
  else if (splitAll '/' path).head? = some ['.'] then [.here]
  else []

theorem pathComponents_eq (path : List Char) :
    pathComponents path = opening path ++ pieceComponents path := by
  unfold pathComponents opening pieceComponents
  generalize splitAll '/' path = pieces
  dsimp only
  split
  · rfl
  · next hroot =>
    rw [if_neg (mt List.head?_eq_some_iff.mp (not_exists.mpr hroot))]
    rfl
  · next hroot hhere =>
    rw [if_neg (mt List.head?_eq_some_iff.mp (not_exists.mpr hroot)),
      if_neg (mt List.head?_eq_some_iff.mp (not_exists.mpr hhere))]
    rfl

theorem pieceComponents_append (a b : List Char) :
    pieceComponents (a ++ '/' :: b) = pieceComponents a ++ pieceComponents b := by
  rw [pieceComponents, splitAll_append_cons, List.filterMap_append]
  rfl

theorem pieceComponents_append_idle (path : List Char) {rest : List Char} (h : Idle rest) :
    pieceComponents (path ++ rest) = pieceComponents path := by
  induction h generalizing path with
  | nil => rw [List.append_nil]
  | @slash rest _ ih =>
    have hrest : pieceComponents rest = [] := ih []
    rw [pieceComponents_append, hrest, List.append_nil]
  | @here rest _ ih =>
    have hrest : pieceComponents ('.' :: rest) = [] := ih ['.']
    rw [pieceComponents_append, hrest, List.append_nil]

/-- A path with a slash after it is opened by its own beginning. -/
theorem opening_append {path : List Char} (h : path ≠ []) (rest : List Char) :
    opening (path ++ '/' :: rest) = opening path := by
  obtain ⟨c, r, hpath⟩ := List.exists_cons_of_ne_nil h
  obtain ⟨piece, pieces, hpieces⟩ := List.exists_cons_of_ne_nil (splitAll_ne_nil '/' path)
  rw [opening, opening, splitAll_append_cons, hpieces, hpath]
  rfl

/-- What follows the first slash does not open a path. -/
theorem opening_congr (path rest others : List Char) :
    opening (path ++ '/' :: rest) = opening (path ++ '/' :: others) := by
  by_cases h : path = []
  · rw [h]
    rfl
  · rw [opening_append h, opening_append h]

namespace Idle

variable {rest more : List Char}

theorem append (h : Idle rest) (hmore : Idle more) : Idle (rest ++ more) := by
  induction h with
  | nil => exact hmore
  | slash _ ih => exact .slash ih
  | here _ ih => exact .here ih

theorem eq_nil_or_slash (h : Idle rest) : rest = [] ∨ ∃ more, rest = '/' :: more := by
  cases h with
  | nil => exact .inl rfl
  | slash _ => exact .inr ⟨_, rfl⟩
  | here _ => exact .inr ⟨_, rfl⟩

theorem pathComponents_append (h : Idle rest) {path : List Char} (hne : path ≠ []) :
    pathComponents (path ++ rest) = pathComponents path := by
  have hopening : opening (path ++ rest) = opening path := by
    rcases h.eq_nil_or_slash with rfl | ⟨more, rfl⟩
    · rw [List.append_nil]
    · exact opening_append hne more
  rw [pathComponents_eq, pathComponents_eq, hopening, pieceComponents_append_idle path h]

end Idle

/-! ### Names at the end -/

theorem piece_cases {piece : List Char} (h : '/' ∉ piece) :
    OrdinaryName piece ∨ piece = ['.', '.'] ∨ piece = [] ∨ piece = ['.'] := by
  by_cases hsilent : piece = ['.', '.'] ∨ piece = [] ∨ piece = ['.']
  · exact .inr hsilent
  · obtain ⟨hup, hempty, hhere⟩ : piece ≠ ['.', '.'] ∧ piece ≠ [] ∧ piece ≠ ['.'] := by
      simpa [not_or] using hsilent
    exact .inl ⟨hempty, hhere, hup, h⟩

namespace OrdinaryName

variable {name : List Char}

theorem pieceComponents_eq (h : OrdinaryName name) : pieceComponents name = [.name name] := by
  rw [pieceComponents, splitAll_of_not_mem h.slash_not_mem]
  simp [PathComponent.ofPiece?, h.ne_nil, h.ne_here, h.ne_up]

theorem opening_eq (h : OrdinaryName name) : opening name = [] := by
  have hroot : name.head? ≠ some '/' := fun hslash => h.slash_not_mem (List.mem_of_head? hslash)
  have hhere : (splitAll '/' name).head? ≠ some ['.'] := by
    rw [splitAll_of_not_mem h.slash_not_mem]
    simpa using h.ne_here
  rw [opening, if_neg hroot, if_neg hhere]

end OrdinaryName

namespace FinalName

variable {path front name : List Char}

theorem of_ordinary (h : OrdinaryName name) : FinalName name [] name :=
  ⟨h, .inl rfl, [], .nil, by simp⟩

theorem of_slash (above : List Char) (h : OrdinaryName name) :
    FinalName (above ++ '/' :: name) (above ++ ['/']) name :=
  ⟨h, .inr ⟨above, rfl⟩, [], .nil, by simp⟩

/-- What follows a path idly does not change the name that it ends with. -/
theorem append {more : List Char} (h : FinalName path front name) (hmore : Idle more) :
    FinalName (path ++ more) front name := by
  obtain ⟨rest, hrest, rfl⟩ := h.idle
  exact ⟨h.ordinary, h.front_cases, rest ++ more, hrest.append hmore, by simp⟩

theorem not_nil : ¬FinalName [] front name := by
  intro h
  obtain ⟨rest, -, hpath⟩ := h.idle
  exact h.ordinary.ne_nil (by simp_all)

/-- The name is the last component, and the components before it are those of what stands before it. -/
theorem pathComponents_eq (h : FinalName path front name) :
    pathComponents path = pathComponents front ++ [.name name] := by
  obtain ⟨rest, hrest, rfl⟩ := h.idle
  have hne : front ++ name ≠ [] := by simp [h.ordinary.ne_nil]
  rw [← List.append_assoc, hrest.pathComponents_append hne]
  rcases h.front_cases with rfl | ⟨above, rfl⟩
  · rw [List.nil_append, Text.pathComponents_eq, h.ordinary.opening_eq, h.ordinary.pieceComponents_eq]
    rfl
  · calc pathComponents (above ++ ['/'] ++ name)
        = opening (above ++ '/' :: name) ++ pieceComponents (above ++ '/' :: name) := by
          rw [Text.pathComponents_eq, List.append_assoc, List.singleton_append]
      _ = opening (above ++ ['/']) ++ (pieceComponents (above ++ ['/']) ++ [.name name]) := by
          rw [opening_congr above name [], Text.pieceComponents_append, h.ordinary.pieceComponents_eq,
            pieceComponents_append_idle above (.slash .nil)]
      _ = pathComponents (above ++ ['/']) ++ [.name name] := by
          rw [Text.pathComponents_eq, List.append_assoc]

end FinalName

/-- A text with a slash is cut at its last one. -/
theorem exists_lastSlash {path : List Char} (h : '/' ∈ path) :
    ∃ above piece, path = above ++ '/' :: piece ∧ '/' ∉ piece := by
  obtain ⟨piece, above, hcut, hpiece⟩ := List.eq_append_cons_of_mem (List.mem_reverse.mpr h)
  refine ⟨above.reverse, piece.reverse, ?_, by simpa using hpiece⟩
  rw [← List.reverse_reverse path, hcut]
  simp

/-- When the last component of a path is a name, the path ends with that name.  A last piece that says
nothing is taken off together with the slash before it. -/
theorem exists_finalName {path name : List Char}
    (h : (pathComponents path).getLast? = some (.name name)) : ∃ front, FinalName path front name := by
  induction hlength : path.length using Nat.strongRecOn generalizing path with
  | ind n ih =>
    by_cases hslash : '/' ∈ path
    · obtain ⟨above, piece, rfl, hpiece⟩ := exists_lastSlash hslash
      rcases piece_cases hpiece with hname | rfl | hsilent
      · have hfinal := FinalName.of_slash above hname
        obtain rfl : piece = name := by simpa [hfinal.pathComponents_eq] using h
        exact ⟨_, hfinal⟩
      · rw [pathComponents_eq, pieceComponents_append] at h
        have hup : pieceComponents ['.', '.'] = [.up] := rfl
        simp [hup] at h
      · have hidle : Idle ('/' :: piece) := by
          rcases hsilent with rfl | rfl
          · exact .slash .nil
          · exact .here .nil
        by_cases habove : above = []
        · rw [habove, List.nil_append, pathComponents_eq] at h
          have hpieces : pieceComponents ('/' :: piece) = [] := pieceComponents_append_idle [] hidle
          simp [hpieces, opening] at h
        · rw [hidle.pathComponents_append habove] at h
          obtain ⟨front, hfront⟩ := ih above.length (by simp [← hlength]) h rfl
          exact ⟨front, hfront.append hidle⟩
    · rcases piece_cases hslash with hname | rfl | rfl | rfl
      · have hfinal := FinalName.of_ordinary hname
        obtain rfl : path = name := by simpa [hfinal.pathComponents_eq] using h
        exact ⟨_, hfinal⟩
      · cases h
      · cases h
      · cases h

theorem pathComponents_eq_concat_iff {path name : List Char} {before : List PathComponent} :
    pathComponents path = before ++ [.name name] ↔
      ∃ front, FinalName path front name ∧ pathComponents front = before := by
  constructor
  · intro hpath
    obtain ⟨front, hfront⟩ := exists_finalName (by rw [hpath, List.getLast?_concat])
    exact ⟨front, hfront, List.append_cancel_right (hfront.pathComponents_eq.symm.trans hpath)⟩
  · rintro ⟨front, hfront, rfl⟩
    exact hfront.pathComponents_eq

/-- The last component of a path that ends with no name is no name. -/
theorem reverse_ne_of_nameless {path : List Char} (h : ∀ front name, ¬FinalName path front name)
    (name : List Char) (before : List PathComponent) :
    (pathComponents path).reverse ≠ .name name :: before := by
  intro hreverse
  have hpath : pathComponents path = before.reverse ++ [.name name] := by
    simpa using congrArg List.reverse hreverse
  obtain ⟨front, hfront, -⟩ := pathComponents_eq_concat_iff.mp hpath
  exact h front name hfront

/-! ### The short form -/

theorem shortened_shortPath (path : String) : Shortened path (shortPath path) := by
  unfold shortPath
  split
  · next last parent before hreverse =>
    have hpath : pathComponents path.toList = before.reverse ++ [.name parent] ++ [.name last] := by
      simpa using congrArg List.reverse hreverse
    obtain ⟨front, hfront, habove⟩ := pathComponents_eq_concat_iff.mp hpath
    obtain ⟨above, hparent, -⟩ := pathComponents_eq_concat_iff.mp habove
    exact .pair hfront hparent
  · next last before hbefore hreverse =>
    have hpath : pathComponents path.toList = before.reverse ++ [.name last] := by
      simpa using congrArg List.reverse hreverse
    obtain ⟨front, hfront, habove⟩ := pathComponents_eq_concat_iff.mp hpath
    refine .alone hfront fun above parent hparent => ?_
    have hlast : before = .name parent :: (pathComponents above).reverse := by
      simpa using congrArg List.reverse (habove.symm.trans hparent.pathComponents_eq)
    exact hbefore parent _ hlast
  · next hnameless =>
    refine .nameless fun front name h => ?_
    exact hnameless name (pathComponents front).reverse (by simp [h.pathComponents_eq])

namespace Shortened

variable {path text : String}

theorem shortPath_eq (h : Shortened path text) : shortPath path = text := by
  cases h with
  | pair h hparent => simp [shortPath, h.pathComponents_eq, hparent.pathComponents_eq]
  | @alone front name h hparent =>
    rw [shortPath, h.pathComponents_eq, List.reverse_concat]
    split
    · next hreverse =>
      exact absurd (List.cons.inj hreverse).2 (reverse_ne_of_nameless hparent _ _)
    · next hreverse =>
      rw [PathComponent.name.inj (List.cons.inj hreverse).1]
    · next hnameless =>
      exact absurd rfl (hnameless name _)
  | nameless h =>
    unfold shortPath
    split
    · next hreverse => exact absurd hreverse (reverse_ne_of_nameless h _ _)
    · next hreverse => exact absurd hreverse (reverse_ne_of_nameless h _ _)
    · rfl

/-- A short form is short already. -/
theorem self (h : Shortened path text) : Shortened text text := by
  cases h with
  | @pair front name before parent h hparent =>
    have hname : FinalName (parent ++ '/' :: name) (parent ++ ['/']) name := .of_slash parent h.ordinary
    have habove : FinalName (parent ++ ['/']) [] parent :=
      (FinalName.of_ordinary hparent.ordinary).append (.slash .nil)
    exact .pair (by simpa using hname) habove
  | @alone front name h hparent =>
    have hname : FinalName name [] name := .of_ordinary h.ordinary
    exact .alone (by simpa using hname) fun _ _ => FinalName.not_nil
  | nameless h => exact .nameless h

end Shortened

/-- A path has one short form. -/
theorem shortened_iff {path text : String} : Shortened path text ↔ shortPath path = text :=
  ⟨Shortened.shortPath_eq, fun h => h ▸ shortened_shortPath path⟩

theorem shortPath_shortPath (path : String) : shortPath (shortPath path) = shortPath path :=
  (shortened_shortPath path).self.shortPath_eq

example : ["/srv//app/./x.rs/.", "app/../x.rs", "srv/app/..", "/"].map shortPath =
    ["app/x.rs", "x.rs", "srv/app/..", "/"] := by decide

end CallChain.Text
