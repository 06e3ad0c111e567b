import CallChain.Fault.Frame
import CallChain.Proofs.Text.Path
import Mathlib

/-!
# Frames as texts and as they are captured

A frame is written as seven segments with commas between them.  A comma in a field is not told from one
between segments, so no field that was read has one (`comma_not_mem_of_parse`).  A colon in a field does no
harm, since a segment is cut at its first colon and no key has one.  Hence a frame is read back exactly
when its fields are free of commas, and what was read from any text is read back from then on.

A captured frame keeps its place in a short form: of the file the last names (`Text.Shortened`), of the
function what is left when the closure marks at its end are taken off.  `Unmarked` says this by the number of
the marks, which is the greatest there is, and not by the loop that takes them off one by one.  Both forms
are unique and short already, so capturing at the place that a captured frame names gives that frame again.
-/

set_option autoImplicit false

namespace CallChain.Frame

/-- The segments of a frame, each a key and a field. -/
def segments (f : Frame) : List (String × String) :=
  [("host", f.host), ("pid", f.pid), ("module", f.module), ("code", f.code), ("file", f.file),
    ("func", f.function), ("line", f.line)]

/-- The seven fields, in the order they are written. -/
def fields (f : Frame) : List String := f.segments.map Prod.snd

/-- A segment as it is written. -/
def segmentText (s : String × String) : List Char := s.1.toList ++ ':' :: s.2.toList

theorem toList_render (f : Frame) :
    f.render.toList = List.intercalate [','] (f.segments.map segmentText) := by
  unfold render
  simp only [segments, segmentText, String.toList_append, List.map_cons, List.map_nil,
    List.intercalate_cons_cons, List.intercalate_singleton]
  simp

/-- The keys are free of the two characters that cut a frame. -/
theorem not_mem_key {f : Frame} {s : String × String} (h : s ∈ f.segments) :
    ',' ∉ s.1.toList ∧ ':' ∉ s.1.toList := by
  have hkeys : ∀ key ∈ ["host", "pid", "module", "code", "file", "func", "line"],
      ',' ∉ key.toList ∧ ':' ∉ key.toList := by decide
  apply hkeys
  have hmem : s.1 ∈ f.segments.map Prod.fst := List.mem_map_of_mem h
  exact hmem

theorem comma_mem_segmentText {f : Frame} {s : String × String} (h : s ∈ f.segments) :
    ',' ∈ segmentText s ↔ ',' ∈ s.2.toList := by
  simp [segmentText, not_mem_key h]

theorem readSegment_segmentText {f : Frame} {s : String × String} (h : s ∈ f.segments) (g : Frame) :
    g.readSegment (segmentText s) = g.setField s.1.toList s.2 := by
  have hcut : Text.splitFirst ':' (segmentText s) = some (s.1.toList, s.2.toList) :=
    Text.splitFirst_eq_some_iff.mpr ⟨(not_mem_key h).2, rfl⟩
  rw [readSegment, hcut]
  simp

/-- A segment changes one field at most. -/
theorem mem_fields_setField {f : Frame} {key : List Char} {value v : String}
    (h : v ∈ (f.setField key value).fields) : v ∈ f.fields ∨ v = value := by
  unfold setField at h
  simp only [fields, segments, List.map_cons, List.map_nil, List.mem_cons] at h ⊢
  split at h <;> grind

theorem mem_fields_readSegment {f : Frame} {segment : List Char} {v : String}
    (h : v ∈ (f.readSegment segment).fields) : v ∈ f.fields ∨ v.toList ⊆ segment := by
  unfold readSegment at h
  split at h
  · next key value hcut =>
    obtain ⟨-, rfl⟩ := Text.splitFirst_eq_some_iff.mp hcut
    rcases mem_fields_setField h with hv | rfl
    · exact .inl hv
    · right
      intro c hc
      simp_all
  · exact .inl h

/-- Every field after reading segments was there before, or its characters are those of one segment. -/
theorem mem_fields_foldl {f : Frame} {pieces : List (List Char)} {v : String}
    (h : v ∈ (pieces.foldl readSegment f).fields) :
    v ∈ f.fields ∨ ∃ piece ∈ pieces, v.toList ⊆ piece := by
  induction pieces generalizing f with
  | nil => exact .inl h
  | cons piece rest ih =>
    rcases ih h with hv | ⟨later, hlater, hv⟩
    · rcases mem_fields_readSegment hv with hv | hv
      · exact .inl hv
      · exact .inr ⟨piece, List.mem_cons_self, hv⟩
    · exact .inr ⟨later, List.mem_cons_of_mem piece hlater, hv⟩

/-- No field that was read has a comma. -/
theorem comma_not_mem_of_parse {raw v : String} (h : v ∈ (parse raw).fields) : ',' ∉ v.toList := by
  intro hcomma
  rcases mem_fields_foldl h with hv | ⟨piece, hpiece, hv⟩
  · have hempty : ∀ v ∈ empty.fields, ',' ∉ v.toList := by decide
    exact hempty v hv hcomma
  · exact Text.not_mem_of_mem_splitAll hpiece (hv hcomma)

/-- Whatever stood in a frame before, its seven segments make it over. -/
theorem foldl_setField_segments (f : Frame) :
    f.segments.foldl (fun g s => g.setField s.1.toList s.2) empty = f := by
  have hkey : ∀ key ∈ ["host", "pid", "module", "code", "file", "func", "line"],
      String.ofList (Text.trimChars key.toList) = key := by decide
  simp only [List.forall_mem_cons] at hkey
  simp only [segments, List.foldl_cons, List.foldl_nil, setField, hkey, empty]

theorem parse_render {f : Frame} (h : ∀ v ∈ f.fields, ',' ∉ v.toList) : parse f.render = f := by
  have hpieces : ∀ piece ∈ f.segments.map segmentText, ',' ∉ piece := by
    intro piece hpiece
    obtain ⟨s, hs, rfl⟩ := List.mem_map.mp hpiece
    rw [comma_mem_segmentText hs]
    exact h s.2 (List.mem_map_of_mem hs)
  have hsplit : Text.splitAll ',' f.render.toList = f.segments.map segmentText := by
    rw [toList_render]
    exact Text.splitAll_intercalate (List.cons_ne_nil _ _) hpieces
  calc parse f.render
      = (f.segments.map segmentText).foldl readSegment empty := by rw [parse, hsplit]
    _ = f.segments.foldl (fun g s => g.readSegment (segmentText s)) empty := List.foldl_map
    _ = f.segments.foldl (fun g s => g.setField s.1.toList s.2) empty :=
        List.foldl_ext _ _ _ fun g s hs => readSegment_segmentText hs g
    _ = f := foldl_setField_segments f

/-- A frame is read back from its text exactly when no field has a comma; a frame that was read from any
text at all is read back. -/
theorem parse_render_iff :
    (∀ f : Frame, parse f.render = f ↔ ∀ v ∈ f.fields, ',' ∉ v.toList) ∧
      ∀ raw : String, parse (parse raw).render = parse raw := by
  constructor
  · intro f
    constructor
    · intro h v hv
      rw [← h] at hv
      exact comma_not_mem_of_parse hv
    · exact parse_render
  · intro raw
    exact parse_render fun v hv => comma_not_mem_of_parse hv

/-! ### Closure marks -/

/-- What marks the path of a closure. -/
def closureMark : String := "::\x7b\x7bclosure\x7d\x7d"

/-- So many closure marks, one after the other. -/
def closureMarks : Nat → String
  | 0 => ""
  | n + 1 => closureMarks n ++ closureMark

/-- A function path without the closure marks at its end, which are as many as can be taken off. -/
def Unmarked (function rest : String) : Prop :=
  ∃ n, function = rest ++ closureMarks n ∧
    ∀ m shorter, function = shorter ++ closureMarks m → m ≤ n

theorem closureMarks_add (m n : Nat) : closureMarks (m + n) = closureMarks m ++ closureMarks n := by
  induction n with
  | zero => rw [Nat.add_zero, closureMarks, String.append_empty]
  | succ n ih => rw [← Nat.add_assoc, closureMarks, closureMarks, ih, String.append_assoc]

namespace Unmarked

variable {function rest other : String}

theorem unique (h : Unmarked function rest) (h' : Unmarked function other) : rest = other := by
  obtain ⟨n, hn, hgreatest⟩ := h
  obtain ⟨m, hm, hgreatest'⟩ := h'
  obtain rfl : m = n := Nat.le_antisymm (hgreatest m other hm) (hgreatest' n rest hn)
  exact (String.append_left_inj _).mp (hn.symm.trans hm)

/-- What is left has no mark to take off. -/
theorem self (h : Unmarked function rest) : Unmarked rest rest := by
  obtain ⟨n, hn, hgreatest⟩ := h
  refine ⟨0, by rw [closureMarks, String.append_empty], fun m shorter hm => ?_⟩
  have hmarks : function = shorter ++ closureMarks (m + n) := by
    rw [closureMarks_add, ← String.append_assoc, ← hm, hn]
  have hle : m + n ≤ n := hgreatest (m + n) shorter hmarks
  omega

/-- Marks taken off until none is left are as many as can be taken off. -/
theorem of_bare (h : ∀ shorter, rest ≠ shorter ++ closureMark) (n : Nat) :
    Unmarked (rest ++ closureMarks n) rest := by
  refine ⟨n, rfl, fun m shorter hm => ?_⟩
  by_contra hlt
  obtain ⟨k, rfl⟩ : ∃ k, m = k + 1 + n := ⟨m - n - 1, by omega⟩
  rw [closureMarks_add, ← String.append_assoc, closureMarks, ← String.append_assoc] at hm
  exact h (shorter ++ closureMarks k) ((String.append_left_inj _).mp hm)

end Unmarked

theorem reverse_closureMarks_succ (n : Nat) :
    (closureMarks (n + 1)).toList.reverse = closureMarkReversed ++ (closureMarks n).toList.reverse := by
  rw [closureMarks, String.toList_append, List.reverse_append]
  rfl

/-- What the loop takes off are marks, and it stops where there is none. -/
theorem dropMarks_spec (reversed : List Char) :
    (∃ n, reversed = (closureMarks n).toList.reverse ++ dropMarks reversed) ∧
      ¬closureMarkReversed <+: dropMarks reversed := by
  fun_induction dropMarks reversed with
  | case1 reversed h ih =>
    obtain ⟨⟨n, hn⟩, hbare⟩ := ih
    refine ⟨⟨n + 1, ?_⟩, hbare⟩
    rw [reverse_closureMarks_succ, List.append_assoc, ← hn]
    exact List.prefix_append_drop (List.isPrefixOf_iff_prefix.mp h.1)
  | case2 reversed h =>
    refine ⟨⟨0, rfl⟩, fun hmark => h ⟨?_, hmark.length_le⟩⟩
    exact List.isPrefixOf_iff_prefix.mpr hmark

theorem reverse_toList_trimClosure (function : String) :
    (trimClosure function).toList.reverse = dropMarks function.toList.reverse := by
  rw [trimClosure, String.toList_ofList, List.reverse_reverse]

theorem unmarked_trimClosure (function : String) : Unmarked function (trimClosure function) := by
  obtain ⟨⟨n, hn⟩, hbare⟩ := dropMarks_spec function.toList.reverse
  rw [← reverse_toList_trimClosure] at hn hbare
  have hfunction : function = trimClosure function ++ closureMarks n := by
    apply String.ext
    apply List.reverse_injective
    rw [String.toList_append, List.reverse_append]
    exact hn
  have hend : ∀ shorter, trimClosure function ≠ shorter ++ closureMark := by
    intro shorter hshorter
    apply hbare
    rw [hshorter, String.toList_append, List.reverse_append]
    exact List.prefix_append _ _
  have hunmarked := Unmarked.of_bare hend n
  rwa [← hfunction] at hunmarked

theorem unmarked_iff {function rest : String} : Unmarked function rest ↔ trimClosure function = rest :=
  ⟨(unmarked_trimClosure function).unique, fun h => h ▸ unmarked_trimClosure function⟩

theorem trimClosure_trimClosure (function : String) :
    trimClosure (trimClosure function) = trimClosure function :=
  unmarked_iff.mp (unmarked_trimClosure function).self

/-! ### Capturing again -/

/-- The place that a frame names; a line that is no number counts as none. -/
def site (f : Frame) : CallSite := ⟨f.file, f.line.toNat?.getD 0, f.function⟩

section Capture

variable (service : ServiceIdentity) (code : Int) (site : CallSite)

/-- The line is read as it was told. -/
theorem line_site_capture : (capture service code site).site.line = site.line := by
  show site.line.repr.toNat?.getD 0 = site.line
  rw [Nat.toNat?_repr, Option.getD_some]

theorem capture_site_capture :
    capture service code (capture service code site).site = capture service code site :=
  calc capture service code (capture service code site).site
      = { capture service code site with
          file := Text.shortPath (Text.shortPath site.file)
          function := trimClosure (trimClosure site.function)
          line := toString (capture service code site).site.line } := rfl
    _ = capture service code site := by
        rw [Text.shortPath_shortPath, trimClosure_trimClosure, line_site_capture]
        rfl

/-- Capturing puts a place into its one normal form: a frame captured at the place that a captured frame
names is the same frame; the function is the one of the place without the closure marks at its end, as many as
there are; and the file is the short form of the file of the place. -/
theorem capture_normalises :
    capture service code (capture service code site).site = capture service code site ∧
      (∀ function, Unmarked site.function function ↔
        (capture service code site).function = function) ∧
      ∀ file, Text.Shortened site.file file ↔ (capture service code site).file = file := by
  refine ⟨capture_site_capture service code site, fun function => ?_, fun file => ?_⟩
  · exact unmarked_iff
  · exact Text.shortened_iff

end Capture

example : capture ⟨"node-1", 42, "orders", .oneFile "library"⟩ 100002
      ⟨"/srv//app/./pay.rs/", 17, "app::pay::\x7b\x7bclosure\x7d\x7d::\x7b\x7bclosure\x7d\x7d"⟩ =
    ⟨"node-1", "42", "orders", "100002", "app/pay.rs", "app::pay", "17"⟩ := by decide +kernel

end CallChain.Frame
