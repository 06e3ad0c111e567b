import CallChain.Fault.History
import CallChain.Text.Split
import Mathlib.Data.List.SplitBy

/-!
# The call chain as it is displayed

The frames of a history are displayed in order, those of one process that stand side by side under one line
that names it.  `Frame.Runs` says what these groups are and not how they are found: together they are the
frames, none is empty, a group is of one process, and the process changes from each group to the next.
Frames can be cut in one way like that (`Frame.Runs.iff_splitBy`).

The loop that writes the lines knows the frame before and nothing else.  Only the process of that frame
matters, so within a group the frame before the group may stand for it (`chainLines_append`), and a group is
left behind whole (`chainLines_runs`).
-/

set_option autoImplicit false

namespace CallChain

/-- A running service, as the frames it made name it. -/
structure Process where
  host : String
  pid : String
  module : String

/-- The line over the frames of a process. -/
def Process.heading (p : Process) : String :=
  "  [" ++ p.module ++ "@" ++ p.host ++ " pid " ++ p.pid ++ "]"

namespace Frame

/-- The process that made a frame. -/
def process (f : Frame) : Process := ⟨f.host, f.pid, f.module⟩

/-- The line of a frame. -/
def entry (f : Frame) : String :=
  "    " ++ f.file ++ ":" ++ f.line ++ " " ++ f.function ++ " (code " ++ f.code ++ ")"

/-- The maximal runs of frames of one process. -/
structure Runs (frames : List Frame) (runs : List (List Frame)) : Prop where
  flatten : runs.flatten = frames
  ne_nil : ∀ run ∈ runs, run ≠ []
  together : ∀ run ∈ runs, ∀ f ∈ run, ∀ g ∈ run, f.process = g.process
  apart : runs.IsChain fun run next => ∀ f ∈ run, ∀ g ∈ next, f.process ≠ g.process

/-- The lines of a run, its process first. -/
def runLines : List Frame → List String
  | [] => []
  | f :: rest => f.process.heading :: (f :: rest).map entry

theorem sameService_iff {f g : Frame} : f.sameService g = true ↔ f.process = g.process := by
  simp [sameService, process, and_assoc]

theorem sameService_eq_false_iff {f g : Frame} : f.sameService g = false ↔ f.process ≠ g.process := by
  rw [← Bool.not_eq_true, sameService_iff]

namespace Runs

variable {frames : List Frame} {runs : List (List Frame)}

/-- Frames that agree with the one before agree with the first. -/
theorem process_eq_of_isChain {f : Frame} {rest : List Frame}
    (h : (f :: rest).IsChain fun f g => f.sameService g = true) :
    ∀ g ∈ f :: rest, g.process = f.process := by
  have hchain : ((f :: rest).map process).IsChain (· = ·) :=
    (List.isChain_map process).mpr (h.imp fun _ _ => sameService_iff.mp)
  have hreplicate := List.isChain_eq_iff_eq_replicate.mp hchain f.process rfl
  intro g hg
  apply List.eq_of_mem_replicate (n := ((f :: rest).map process).length)
  rw [← hreplicate]
  exact List.mem_map_of_mem hg

/-- Comparing neighbours finds the runs, and there are no others. -/
theorem iff_splitBy : Runs frames runs ↔ frames.splitBy sameService = runs := by
  rw [List.splitBy_eq_iff]
  constructor
  · rintro ⟨hflatten, hne, htogether, hapart⟩
    refine ⟨hflatten.symm, fun hmem => hne [] hmem rfl, ?_, ?_⟩
    · intro run hrun
      exact (List.pairwise_of_forall_mem_list fun f hf g hg =>
        sameService_iff.mpr (htogether run hrun f hf g hg)).isChain
    · refine hapart.imp_of_mem_imp fun run next hrun hnext hprocess => ?_
      refine ⟨hne run hrun, hne next hnext, sameService_eq_false_iff.mpr ?_⟩
      exact hprocess _ (List.getLast_mem _) _ (List.head_mem _)
  · rintro ⟨hflatten, hnil, hchain, hapart⟩
    have htogether : ∀ run ∈ runs, ∀ f ∈ run, ∀ g ∈ run, f.process = g.process := by
      intro run hrun f hf g hg
      cases run with
      | nil => cases hf
      | cons first rest =>
        rw [process_eq_of_isChain (hchain _ hrun) f hf, process_eq_of_isChain (hchain _ hrun) g hg]
    refine ⟨hflatten.symm, fun run hrun hempty => hnil (hempty ▸ hrun), htogether, ?_⟩
    refine hapart.imp_of_mem_imp fun run next hrun hnext hlast f hf g hg => ?_
    obtain ⟨hne, hne', hdiffer⟩ := hlast
    rw [htogether run hrun f hf _ (List.getLast_mem hne),
      htogether next hnext g hg _ (List.head_mem hne')]
    exact sameService_eq_false_iff.mp hdiffer

theorem exists_runs (frames : List Frame) : ∃ runs, Runs frames runs := ⟨_, iff_splitBy.mpr rfl⟩

theorem unique {others : List (List Frame)} (h : Runs frames runs) (h' : Runs frames others) :
    others = runs :=
  (iff_splitBy.mp h').symm.trans (iff_splitBy.mp h)

theorem tail {run : List Frame} (h : Runs frames (run :: runs)) : Runs runs.flatten runs where
  flatten := rfl
  ne_nil next hnext := h.ne_nil next (List.mem_cons_of_mem run hnext)
  together next hnext := h.together next (List.mem_cons_of_mem run hnext)
  apart := (List.isChain_cons.mp h.apart).2

end Runs

end Frame

namespace Fault

/-- The first line: code, English message and description. -/
def summary (f : Fault) : String :=
  "code: " ++ toString f.code ++ ", message: " ++ f.message FaultCode.english ++
    ", description: " ++ f.description

/-- All lines, for a history cut into runs. -/
def lines (f : Fault) (runs : List (List Frame)) : List String :=
  f.summary :: "call chain:" :: runs.flatMap Frame.runLines

theorem serviceLine_eq (f : Frame) : serviceLine f = "\n" ++ f.process.heading := by
  have hbreak : "\n  [" = "\n" ++ "  [" := rfl
  calc serviceLine f
      = "\n  [" ++ f.module ++ "@" ++ f.host ++ " pid " ++ f.pid ++ "]" := rfl
    _ = "\n" ++ ("  [" ++ f.module ++ "@" ++ f.host ++ " pid " ++ f.pid ++ "]") := by
        simp only [hbreak, String.append_assoc]

theorem frameLine_eq (f : Frame) : frameLine f = "\n" ++ f.entry := by
  have hbreak : "\n    " = "\n" ++ "    " := rfl
  calc frameLine f
      = "\n    " ++ f.file ++ ":" ++ f.line ++ " " ++ f.function ++ " (code " ++ f.code ++ ")" := rfl
    _ = "\n" ++ ("    " ++ f.file ++ ":" ++ f.line ++ " " ++ f.function ++ " (code " ++ f.code ++ ")") := by
        simp only [hbreak, String.append_assoc]

/-- Of the frame before only the process counts. -/
theorem chainLines_congr {p q : Frame} (h : p.process = q.process) (frames : List Frame) :
    chainLines (some p) frames = chainLines (some q) frames := by
  cases frames with
  | nil => rfl
  | cons f rest =>
    have hsame : p.sameService f = q.sameService f := by
      rw [Bool.eq_iff_iff, Frame.sameService_iff, Frame.sameService_iff, h]
    simp only [chainLines, hsame]

theorem chainLines_of_same {p f : Frame} (h : p.process = f.process) (rest : List Frame) :
    chainLines (some p) (f :: rest) = "\n" ++ f.entry ++ chainLines (some p) rest := by
  have hsame : p.sameService f = true := Frame.sameService_iff.mpr h
  rw [chainLines_congr h rest, ← frameLine_eq]
  simp [chainLines, hsame]

theorem chainLines_of_new {previous : Option Frame} {f : Frame}
    (h : ∀ p ∈ previous, p.process ≠ f.process) (rest : List Frame) :
    chainLines previous (f :: rest) =
      "\n" ++ f.process.heading ++ ("\n" ++ f.entry) ++ chainLines (some f) rest := by
  rw [← serviceLine_eq, ← frameLine_eq]
  cases previous with
  | none => simp [chainLines]
  | some p =>
    have hdiffer : p.sameService f = false := Frame.sameService_eq_false_iff.mpr (h p rfl)
    simp [chainLines, hdiffer]

/-- Frames of the process of the frame before have a line each and no other. -/
theorem chainLines_append {p : Frame} {run : List Frame} (h : ∀ f ∈ run, p.process = f.process)
    (rest : List Frame) :
    chainLines (some p) (run ++ rest) =
      Text.joinWith "\n" ("" :: run.map Frame.entry) ++ chainLines (some p) rest := by
  induction run with
  | nil => simp [Text.joinWith]
  | cons f run ih =>
    have hrest : ∀ g ∈ run, p.process = g.process := fun g hg => h g (List.mem_cons_of_mem f hg)
    rw [List.cons_append, chainLines_of_same (h f List.mem_cons_self), ih hrest, List.map_cons,
      Text.joinWith_blank_cons, String.append_assoc, String.append_assoc, String.append_assoc]

/-- The lines of runs, where no frame of the process of the first stands before. -/
theorem chainLines_runs {frames : List Frame} {runs : List (List Frame)} (h : Frame.Runs frames runs)
    {previous : Option Frame}
    (hprevious : ∀ p ∈ previous, ∀ run ∈ runs.head?, ∀ f ∈ run, p.process ≠ f.process) :
    chainLines previous frames = Text.joinWith "\n" ("" :: runs.flatMap Frame.runLines) := by
  induction runs generalizing frames previous with
  | nil =>
    obtain rfl := h.flatten
    simp [chainLines, Text.joinWith]
  | cons run runs ih =>
    cases run with
    | nil => exact absurd rfl (h.ne_nil [] List.mem_cons_self)
    | cons f run =>
      have hfirst : ∀ p ∈ previous, p.process ≠ f.process :=
        fun p hp => hprevious p hp (f :: run) rfl f List.mem_cons_self
      have hrun : ∀ g ∈ run, f.process = g.process := fun g hg =>
        h.together _ List.mem_cons_self f List.mem_cons_self g (List.mem_cons_of_mem f hg)
      have hnext : ∀ p ∈ some f, ∀ next ∈ runs.head?, ∀ g ∈ next, p.process ≠ g.process := by
        rintro p ⟨⟩ next hnext g hg
        exact (List.isChain_cons.mp h.apart).1 next hnext f List.mem_cons_self g hg
      calc chainLines previous frames
          = chainLines previous (f :: (run ++ runs.flatten)) := by rw [← h.flatten]; rfl
        _ = "\n" ++ f.process.heading ++ ("\n" ++ f.entry) ++
              chainLines (some f) (run ++ runs.flatten) := chainLines_of_new hfirst _
        _ = "\n" ++ f.process.heading ++ ("\n" ++ f.entry) ++
              (Text.joinWith "\n" ("" :: run.map Frame.entry) ++
                Text.joinWith "\n" ("" :: runs.flatMap Frame.runLines)) := by
            rw [chainLines_append hrun, ih h.tail hnext]
        _ = Text.joinWith "\n" ("" :: (Frame.runLines (f :: run) ++ runs.flatMap Frame.runLines)) := by
            rw [Text.joinWith_cons_append, Frame.runLines, List.map_cons, Text.joinWith_blank_cons,
              Text.joinWith_blank_cons]
            simp only [String.append_assoc]

theorem detail_eq (f : Fault) {runs : List (List Frame)} (h : Frame.Runs f.frames runs) :
    f.detail = Text.joinWith "\n" (f.lines runs) := by
  have hbreak : "\ncall chain:" = "\n" ++ "call chain:" := rfl
  calc f.detail
      = f.summary ++ "\ncall chain:" ++ chainLines none f.frames := rfl
    _ = f.summary ++ "\n" ++ ("call chain:" ++
          Text.joinWith "\n" ("" :: runs.flatMap Frame.runLines)) := by
        rw [chainLines_runs h (by simp), hbreak]
        simp only [String.append_assoc]
    _ = f.summary ++ "\n" ++ Text.joinWith "\n" ("call chain:" :: ([] ++ runs.flatMap Frame.runLines)) := by
        rw [Text.joinWith_cons_append, Text.joinWith]
    _ = Text.joinWith "\n" (f.lines runs) := rfl

/-- A displayed fault is two lines, code, message and description on the first, and then the lines of the
maximal runs of its frames, in order; whatever texts the history is made of, there is one way to
cut it into such runs.  As long as no piece has a line break of its own, the lines that a reader sees are
these. -/
theorem detail_runs (f : Fault) :
    ∃ runs, Frame.Runs (f.stack.map Frame.parse) runs ∧
      (∀ others, Frame.Runs (f.stack.map Frame.parse) others → others = runs) ∧
      f.detail = Text.joinWith "\n" (f.lines runs) ∧
      ((∀ line ∈ f.lines runs, '\n' ∉ line.toList) →
        Text.splitAll '\n' f.detail.toList = (f.lines runs).map String.toList) := by
  obtain ⟨runs, hruns⟩ := Frame.Runs.exists_runs f.frames
  refine ⟨runs, hruns, fun others => hruns.unique, f.detail_eq hruns, fun hline => ?_⟩
  rw [f.detail_eq hruns]
  exact Text.splitAll_joinWith (List.cons_ne_nil _ _) hline

example : ((["host:a", "pid:7", "no frame", "host:a,func:f", "func:g, host:a", "pid:7"].map
    Frame.parse).splitBy Frame.sameService).map List.length = [1, 1, 1, 2, 1] := by decide

end Fault

end CallChain
