import CallChain.Proofs.Client.Views
import CallChain.Proofs.Status.Relay
import CallChain.Proofs.Status.Shape

/-!
# Calls that are judged by the body alone

A call that asks for no reply and goes through the verdict alone is judged by what the value of the
response's body shows.  `StatusField.Shown` says what that is in terms of the value's slot, and
`StatusVerdict.Judges` what the call comes to: a status of success lets it pass, another status is what it
fails with, and a body without a status breaks the rule.  `invoke_judged_by_body` puts the two together.
-/

set_option autoImplicit false

namespace CallChain

open StatusField (Shown)

namespace StatusVerdict

/-- What becomes of a response whose body is a value: the call succeeds with it exactly if the value shows a
status of success, conveys any other status that is shown, and is a violation where none is shown. -/
structure Judges (codes : CodeRegistry) (value : Json) (response : RawResponse) (result : CallResult) :
    Prop where
  passes : result = .ok response ↔ ∃ s, Shown value (.present s) ∧ s.isSuccess codes = true
  conveys : ∀ s, Shown value (.present s) →
    (s.isSuccess codes = false ↔ ∃ f, result = .error f ∧ Conveys codes s response f)
  violates : (¬ ∃ s, Shown value (.present s)) → ∃ f, result = .error f ∧ Violation response f

variable {codes : CodeRegistry} {value : Json} {response : RawResponse}

/-- The verdict on what a value shows is as that value says. -/
theorem judges_verdict (hbuilt : codes.Built) (value : Json) (response : RawResponse) :
    Judges codes value response (verdict codes (.ofJson value) response) := by
  by_cases hpresent : ∃ s, Shown value (.present s)
  · obtain ⟨s, hshown⟩ := hpresent
    have hfield := StatusField.ofJson_eq_iff.mpr hshown
    have honly (t : CallStatus) (ht : Shown value (.present t)) : t = s := by
      have htfield := StatusField.ofJson_eq_iff.mpr ht
      exact StatusField.present.inj (htfield.symm.trans hfield)
    rw [hfield]
    cases hs : s.isSuccess codes with
    | true =>
      rw [verdict_of_isSuccess hs]
      refine ⟨⟨fun _ => ⟨s, hshown, hs⟩, fun _ => rfl⟩, fun t ht => ?_, fun hnone => absurd ⟨s, hshown⟩ hnone⟩
      rw [honly t ht, hs]
      constructor
      · intro hfalse
        cases hfalse
      · rintro ⟨f, herror, -⟩
        cases herror
    | false =>
      obtain ⟨f, hf, hconveys⟩ := exists_conveys_of_verdict hbuilt response hs
      rw [hf]
      refine ⟨⟨nofun, ?_⟩, fun t ht => ?_, fun hnone => absurd ⟨s, hshown⟩ hnone⟩
      · rintro ⟨t, ht, hsuccess⟩
        rw [honly t ht, hs] at hsuccess
        cases hsuccess
      · rw [honly t ht]
        exact ⟨fun _ => ⟨f, rfl, hconveys⟩, fun _ => hs⟩
  · have hfield (s : CallStatus) : StatusField.ofJson value ≠ .present s := fun h =>
      hpresent ⟨s, StatusField.ofJson_eq_iff.mp h⟩
    obtain ⟨f, hf, hviolation⟩ := exists_violation_of_verdict hbuilt response hfield
    rw [hf]
    refine ⟨⟨nofun, ?_⟩, fun s hs => absurd ⟨s, hs⟩ hpresent, fun _ => ⟨f, rfl, hviolation⟩⟩
    rintro ⟨s, hs, -⟩
    exact absurd ⟨s, hs⟩ hpresent

end StatusVerdict

namespace Client

open StatusVerdict (Judges)

variable {ρ : Type} [Reply ρ] {c : Client} {q : Inquiry ρ}

/-- What a JSON value shows is settled by its slot, and a call that asks for no reply and goes through the
verdict alone is judged by what the value of the fetched body shows.  It ends with the response in no other
way. -/
theorem invoke_judged_by_body (hchain : c.RunsThrough q.options [.statusVerdict])
    (hskip : Skipper.any c.skippers q.method q.target = false) (hreply : q.reply = none)
    (hbuilt : c.settings.codes.Built) (value : Json) :
    (∀ field, StatusField.ofJson value = field ↔ Shown value field) ∧
    ∀ (R : Resumption) (w : World) (response : RawResponse), Json.parse? response.body = some value →
      ∃ result, Judges c.settings.codes value response result ∧
        ∀ (o : Except Panic CallResult) (r : Option ρ) (v : World), carried? o = some response →
          (EndsWith R c q w o r v ↔ Fetches R c q w response v ∧ o = .ok result ∧ r = none) := by
  refine ⟨fun field => StatusField.ofJson_eq_iff, fun R w response hparse => ?_⟩
  have hbody : StatusVerdict.fieldOfBody response.body = .ofJson value := by
    rw [StatusVerdict.fieldOfBody, hparse]
  refine ⟨_, StatusVerdict.judges_verdict hbuilt value response, fun o r v hcarried => ?_⟩
  rw [endsWith_body_iff hchain hskip hreply hcarried, hbody]

/-- A failure under the second key, as an array that breaks off after the history. -/
def brokenOffBody : Bytes :=
  Bytes.ofText "\x7b\"data\":null,\"CallStatus\":[300001,\x7b\x7d,[\"stock\"]]\x7d"

theorem invoke_judged_by_body_brokenOff :
    let c := answered (.new ⟨"localhost", 1, "web", .oneFile "library"⟩) brokenOffBody
    ∃ (response : RawResponse) (f : CallFailure) (v : World),
      response.body = brokenOffBody ∧
      StatusVerdict.Conveys c.settings.codes ⟨300001, .empty, ["stock"], ""⟩ response f ∧
      EndsWith Work.alone c bareInquiry .initial (.ok (.error f)) none v := by
  intro c
  obtain ⟨response, v, hfetches, hbody⟩ :=
    fetches_answered (.new ⟨"localhost", 1, "web", .oneFile "library"⟩) brokenOffBody
  have hfield : (Json.parse? brokenOffBody).map StatusField.ofJson =
      some (.present ⟨300001, .empty, ["stock"], ""⟩) := by
    decide +kernel
  obtain ⟨value, hparse, hpresent⟩ := Option.map_eq_some_iff.mp hfield
  obtain ⟨hshown, hcalls⟩ := invoke_judged_by_body (c := c) (q := bareInquiry)
    (runsThrough_stages _ [] [.statusVerdict]) rfl rfl (.new _) value
  rw [← hbody] at hparse
  obtain ⟨result, hjudges, hends⟩ := hcalls Work.alone .initial response hparse
  obtain ⟨f, rfl, hconveys⟩ := (hjudges.conveys _ ((hshown _).mp hpresent)).mp (by decide)
  exact ⟨response, f, v, hbody, hconveys,
    (hends (.ok (.error f)) none v hconveys.response).mpr ⟨hfetches, rfl, rfl⟩⟩

end Client

end CallChain
