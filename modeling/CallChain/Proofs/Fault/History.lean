import CallChain.Fault.Aggregate
import CallChain.Proofs.Fault.Registration

/-!
# The history of a fault across services

An error on its way crosses boundaries, and at each the service there does one thing with it (`Handling`):
it puts it under a code, marks that it came by, or only takes it as a fault.  `Handled` says what each
makes of it and `Journey` strings crossings together, every one with a registry and a call site of its own.

What one crossing does to a fault is `Handled.grows`: the description stays, the code changes only if a code
was given, and a frame is added wherever a place was.  `Journey.grows` is the induction from there.  An error
that is no fault has a text and nothing else to pass on (`Foreign`), so its history starts at the first
crossing.
-/

set_option autoImplicit false

namespace CallChain

/-- What a service does with an error that reaches it. -/
inductive Handling where
  /-- Puts it under a code. -/
  | wrap (site : CallSite) (code : Int)
  /-- Takes it as a fault and marks it. -/
  | update (site : CallSite)
  /-- Marks a fault. -/
  | push (site : CallSite)
  /-- Takes it as a fault. -/
  | normalize
  /-- Takes the error of a result as a fault. -/
  | settle

/-- A boundary that an error crosses: the registry of the service there, and what it does. -/
structure Crossing where
  codes : CodeRegistry
  handling : Handling

/-- The fault that a service makes of an error. -/
inductive Handled (r : CodeRegistry) : Handling → Cause → Fault → Prop where
  | wrap (site : CallSite) (code : Int) (c : Cause) :
      Handled r (.wrap site code) c (Fault.wrapCause r site code c)
  | update (site : CallSite) (c : Cause) : Handled r (.update site) c (Fault.updateStack r site c)
  | push (site : CallSite) (f : Fault) : Handled r (.push site) (.fault f) (Fault.pushFrame r site f)
  | normalize (c : Cause) : Handled r .normalize c (Fault.ofCause r c)
  | settle {α : Type} {c : Cause} {f : Fault}
      (h : (Fault.ofResult r (.error c) : Except Fault α) = .error f) : Handled r .settle c f

/-- A fault crosses boundaries one after the other. -/
inductive Journey : Fault → List Crossing → Fault → Prop where
  | nil {e : Fault} : Journey e [] e
  | cons {e e' e'' : Fault} {x : Crossing} {rest : List Crossing}
      (first : Handled x.codes x.handling (.fault e) e') (onward : Journey e' rest e'') :
      Journey e (x :: rest) e''

/-- The place that is marked, if one is. -/
def Handling.site? : Handling → Option CallSite
  | .wrap site _ => some site
  | .update site => some site
  | .push site => some site
  | .normalize => none
  | .settle => none

namespace Crossing

/-- The number in force after a crossing: the one given where the service knows it, that of the unknown
code where it does not, and the one before where none is given. -/
def codeAfter (x : Crossing) (code : Int) : Int :=
  match x.handling with
  | .wrap _ given => if x.codes.isRegistered given = true then given else Codes.unknown
  | _ => code

/-- The code in force after a crossing, with status and messages. -/
def coderAfter (x : Crossing) (coder : FaultCode) : FaultCode :=
  match x.handling with
  | .wrap _ given => x.codes.lookup given
  | _ => coder

/-- The frame of a crossing under a code, if it marks the fault. -/
def frames (x : Crossing) (code : Int) : List Frame :=
  (x.handling.site?.map (Frame.capture x.codes.service code)).toList

/-- The frames of crossings, each under the code in force after its own. -/
def framesAlong : Int → List Crossing → List Frame
  | _, [] => []
  | code, x :: rest => x.frames (x.codeAfter code) ++ framesAlong (x.codeAfter code) rest

end Crossing

/-- What became of a fault after crossings. -/
structure Fault.Grows (e : Fault) (xs : List Crossing) (e' : Fault) : Prop where
  description : e'.description = e.description
  code : e'.code = xs.foldl (fun code x => x.codeAfter code) e.code
  coder : e'.coder = xs.foldl (fun coder x => x.coderAfter coder) e.coder
  stack : e'.stack = e.stack ++ (Crossing.framesAlong e.code xs).map Frame.render

/-- An error that is no fault, with its text. -/
inductive Foreign : Cause → String → Prop where
  | text (text : String) : Foreign (.other text) text
  | aggregate (a : Aggregate) : Foreign a.cause a.text

/-! ## One crossing -/

section

variable {x : Crossing} {e e' : Fault} {c : Cause} {text : String}

theorem Crossing.code_coderAfter (h : x.codes.Built) (coder : FaultCode) :
    (x.coderAfter coder).code = x.codeAfter coder.code := by
  unfold coderAfter codeAfter
  cases x.handling with
  | wrap site given => exact h.code_lookup given
  | update site => rfl
  | push site => rfl
  | normalize => rfl
  | settle => rfl

/-- What a crossing does to a fault, its code not yet traced to what was given. -/
theorem Handled.eq_of_fault (h : Handled x.codes x.handling (.fault e) e') :
    e' = ⟨x.coderAfter e.coder, e.description,
      e.stack ++ (x.frames (x.coderAfter e.coder).code).map Frame.render⟩ := by
  obtain ⟨codes, handling⟩ := x
  cases h with
  | wrap site code => rfl
  | update site => rfl
  | push site => rfl
  | normalize => simp [Crossing.coderAfter, Crossing.frames, Handling.site?, Fault.ofCause]
  | settle h =>
    cases h
    simp [Crossing.coderAfter, Crossing.frames, Handling.site?, Fault.ofCause]

theorem Handled.grows (hbuilt : x.codes.Built) (h : Handled x.codes x.handling (.fault e) e') :
    e.Grows [x] e' := by
  obtain rfl := h.eq_of_fault
  have hcode : (x.coderAfter e.coder).code = x.codeAfter e.code := Crossing.code_coderAfter hbuilt e.coder
  refine ⟨rfl, hcode, rfl, ?_⟩
  rw [hcode]
  simp [Crossing.framesAlong]

/-- A crossing makes a fault of any error; only a fault can be marked as one. -/
theorem exists_handled (x : Crossing) (c : Cause)
    (h : (∃ f, c = .fault f) ∨ ∀ site, x.handling ≠ .push site) :
    ∃ e', Handled x.codes x.handling c e' := by
  obtain ⟨codes, handling⟩ := x
  cases handling with
  | wrap site code => exact ⟨_, .wrap site code c⟩
  | update site => exact ⟨_, .update site c⟩
  | push site =>
    rcases h with ⟨f, rfl⟩ | h
    · exact ⟨_, .push site f⟩
    · exact absurd rfl (h site)
  | normalize => exact ⟨_, .normalize c⟩
  | settle =>
    have hresult : (Fault.ofResult codes (.error c) : Except Fault Unit) =
        .error (Fault.ofCause codes c) := rfl
    exact ⟨_, .settle hresult⟩

/-- An error that is no fault is handled as a fault with its text, of the unknown code and without a
history. -/
theorem Handled.of_foreign (hc : Foreign c text) (h : Handled x.codes x.handling c e') :
    Handled x.codes x.handling (.fault ⟨x.codes.unknown, text, []⟩) e' := by
  obtain ⟨codes, handling⟩ := x
  have hother : c = .other text := by cases hc <;> rfl
  subst hother
  cases h with
  | wrap site code => exact .wrap site code (.fault ⟨codes.unknown, text, []⟩)
  | update site => exact .update site (.fault ⟨codes.unknown, text, []⟩)
  | normalize => exact .normalize (.fault ⟨codes.unknown, text, []⟩)
  | settle h => exact .settle h

end

/-! ## A journey -/

section

variable {e e' e'' : Fault} {xs ys : List Crossing}

theorem Crossing.framesAlong_append (code : Int) (xs ys : List Crossing) :
    framesAlong code (xs ++ ys) =
      framesAlong code xs ++ framesAlong (xs.foldl (fun code x => x.codeAfter code) code) ys := by
  induction xs generalizing code with
  | nil => rfl
  | cons x xs ih => simp [framesAlong, ih]

theorem Fault.Grows.refl (e : Fault) : e.Grows [] e :=
  ⟨rfl, rfl, rfl, by simp [Crossing.framesAlong]⟩

theorem Fault.Grows.trans (h : e.Grows xs e') (h' : e'.Grows ys e'') : e.Grows (xs ++ ys) e'' where
  description := h'.description.trans h.description
  code := by rw [h'.code, h.code, List.foldl_append]
  coder := by rw [h'.coder, h.coder, List.foldl_append]
  stack := by
    rw [h'.stack, h.stack, h.code, Crossing.framesAlong_append, List.map_append, List.append_assoc]

theorem Journey.grows (h : Journey e xs e') (hbuilt : ∀ x ∈ xs, x.codes.Built) : e.Grows xs e' := by
  induction h with
  | nil => exact .refl _
  | @cons e e' e'' x rest first onward ih =>
    have hfirst : e.Grows [x] e' := first.grows (hbuilt x List.mem_cons_self)
    exact hfirst.trans (ih fun x' hx' => hbuilt x' (List.mem_cons_of_mem x hx'))

theorem exists_journey (e : Fault) (xs : List Crossing) : ∃ e', Journey e xs e' := by
  induction xs generalizing e with
  | nil => exact ⟨e, .nil⟩
  | cons x rest ih =>
    obtain ⟨e', hfirst⟩ := exists_handled x (.fault e) (.inl ⟨e, rfl⟩)
    obtain ⟨e'', honward⟩ := ih e'
    exact ⟨e'', .cons hfirst honward⟩

end

/-- On any journey a fault keeps its description and its history, which grows by the frames of the
crossings that mark it; its code changes only where one is given.  An error that is no fault starts with its
text alone, and its first frame is the one of the first crossing, if that leaves one. -/
theorem journey_grows_history (e : Fault) (xs : List Crossing) (hbuilt : ∀ x ∈ xs, x.codes.Built) :
    ((∃ e', Journey e xs e') ∧ ∀ e', Journey e xs e' → e.Grows xs e') ∧
      ∀ x : Crossing, x.codes.Built → ∀ (c : Cause) (text : String), Foreign c text →
        ((∀ site, x.handling ≠ .push site) → ∃ f, Handled x.codes x.handling c f) ∧
        ∀ f, Handled x.codes x.handling c f →
          f.description = text ∧ f.code = x.codeAfter Codes.unknown ∧
            f.stack = (x.frames f.code).map Frame.render := by
  refine ⟨⟨exists_journey e xs, fun e' h => h.grows hbuilt⟩, ?_⟩
  intro x hx c text hc
  refine ⟨fun hpush => exists_handled x c (.inr hpush), ?_⟩
  intro f hf
  have hgrows := (hf.of_foreign hc).grows hx
  have hcode : f.code = x.codeAfter Codes.unknown := by
    rw [hgrows.code, Fault.code, hx.unknown_eq]
    rfl
  refine ⟨hgrows.description, hcode, ?_⟩
  rw [hgrows.stack, hgrows.code]
  simp [Crossing.framesAlong]

/-- A service that registered a code of its own. -/
def stockCodes : CodeRegistry :=
  (CodeRegistry.new ⟨"localhost", 1, "stock", .oneFile "library"⟩).performAll
    [.register (.withMessages 300001 409 "Out of stock." "")]

/-- Where the shop says that nothing is left, and where its answer is taken and passed on. -/
def soldAt : CallSite := ⟨"shop/src/stock.rs", 12, "stock::take"⟩
def fetchedAt : CallSite := ⟨"shop/src/web.rs", 40, "web::fetch"⟩
def handledAt : CallSite := ⟨"shop/src/web.rs", 55, "web::handle"⟩

/-- A service that knows the base table only. -/
def webCodes : CodeRegistry := .new ⟨"localhost", 2, "web", .oneFile "library"⟩

/-- A fault under that code. -/
def soldOut : Fault := Fault.wrap stockCodes soldAt 300001 "sku 12"

/-- A code is kept by a service that does not know it, and lost where that service gives it; as one of
several the fault passes on neither its code nor its history. -/
theorem journey_grows_history_unregistered :
    (∃ e', Journey soldOut
        [⟨webCodes, .update fetchedAt⟩, ⟨stockCodes, .settle⟩, ⟨webCodes, .wrap handledAt 300001⟩] e' ∧
      e'.description = "sku 12" ∧ e'.code = Codes.unknown ∧
      e'.stack =
        [Frame.capture stockCodes.service 300001 soldAt, Frame.capture webCodes.service 300001 fetchedAt,
          Frame.capture webCodes.service Codes.unknown handledAt].map Frame.render) ∧
      ∃ f, Handled webCodes (.update fetchedAt) (Aggregate.cause ⟨[soldOut], List.cons_ne_nil _ _⟩) f ∧
        f.code = Codes.unknown ∧
        f.stack = [(Frame.capture webCodes.service Codes.unknown fetchedAt).render] := by
  have hstock : stockCodes.Built := CodeRegistry.Built.performAll (.new _) _
  have hweb : webCodes.Built := .new _
  have hknown : (stockCodes.lookup 300001).code = 300001 := by decide
  have hlost : webCodes.isRegistered 300001 = false := by decide
  obtain ⟨⟨⟨e', hjourney⟩, hgrows⟩, hforeign⟩ := journey_grows_history soldOut
    [⟨webCodes, .update fetchedAt⟩, ⟨stockCodes, .settle⟩, ⟨webCodes, .wrap handledAt 300001⟩]
    (by simp [hstock, hweb])
  constructor
  · have h := hgrows e' hjourney
    refine ⟨e', hjourney, h.description, ?_, ?_⟩
    · rw [h.code]
      simp [Crossing.codeAfter, hlost]
    · rw [h.stack]
      simp [soldOut, Crossing.framesAlong, Crossing.frames, Crossing.codeAfter, Handling.site?,
        Fault.wrap, Fault.code, hknown, hlost]
  · obtain ⟨hexists, hstarts⟩ := hforeign ⟨webCodes, .update fetchedAt⟩ hweb _ _
      (.aggregate ⟨[soldOut], List.cons_ne_nil _ _⟩)
    obtain ⟨f, hf⟩ := hexists (by simp)
    obtain ⟨-, hcode, hstack⟩ := hstarts f hf
    refine ⟨f, hf, hcode, ?_⟩
    rw [hstack, hcode]
    rfl

end CallChain
