import CallChain.Tls.Settings

/-!
# Which TLS settings are accepted

The check of settings and the mode read off them branch on the same switches.  `validate_eq_ok_iff` says
that they never disagree: settings that pass the check pass it with the mode the switches describe.
-/

set_option autoImplicit false

namespace CallChain.TlsSettings

variable {s : TlsSettings}

/-- A credential is there and not blank. -/
def Has (credential : Option String) : Prop :=
  ∃ text, credential = some text ∧ Text.isBlank text = false

theorem lacks_eq_false_iff {credential : Option String} : lacks credential = false ↔ Has credential := by
  cases credential with
  | none => simp [lacks, Has]
  | some text => simp [lacks, Has]

theorem lacks_eq_true_iff {credential : Option String} :
    lacks credential = true ↔ ¬ Has credential := by
  rw [← lacks_eq_false_iff, Bool.not_eq_false]

/-- The credentials that the switches ask for are there. -/
def Complete (s : TlsSettings) : Prop :=
  s.mutualTls = true ∧ Has s.clientCert ∧ Has s.clientKey ∧ Has s.serverCa ∨
    s.mutualTls = false ∧ (s.enabled = false ∨ s.skipVerify = true ∨ Has s.serverCa)

/-- What settings lack; of two things the identity is named first. -/
inductive Lacking (s : TlsSettings) : ConfigError → Prop where
  | identity (hmutual : s.mutualTls = true) (hlacks : ¬ (Has s.clientCert ∧ Has s.clientKey)) :
      Lacking s .missingClientIdentity
  | mutualServerCa (hmutual : s.mutualTls = true) (hcert : Has s.clientCert) (hkey : Has s.clientKey)
      (hlacks : ¬ Has s.serverCa) : Lacking s .missingMutualServerCa
  | serverCa (hmutual : s.mutualTls = false) (henabled : s.enabled = true)
      (hverify : s.skipVerify = false) (hlacks : ¬ Has s.serverCa) : Lacking s .missingServerCa

/-- Nothing is lacking twice over. -/
theorem Lacking.unique {e e' : ConfigError} (h : s.Lacking e) (h' : s.Lacking e') : e = e' := by
  cases h <;> cases h' <;> simp_all

theorem Lacking.not_complete {e : ConfigError} (h : s.Lacking e) : ¬ s.Complete := by
  rintro (⟨hmutual, hcert, hkey, hca⟩ | ⟨hmutual, hrest⟩)
  · cases h with
    | identity _ hlacks => exact hlacks ⟨hcert, hkey⟩
    | mutualServerCa _ _ _ hlacks => exact hlacks hca
    | serverCa hmutual' => simp [hmutual] at hmutual'
  · cases h with
    | identity hmutual' => simp [hmutual] at hmutual'
    | mutualServerCa hmutual' => simp [hmutual] at hmutual'
    | serverCa _ henabled hverify hlacks => simp [henabled, hverify, hlacks] at hrest

theorem validate_of_mutual (hmutual : s.mutualTls = true) :
    (s.Complete ∧ s.validate = .ok s.mode) ∨ ∃ e, s.Lacking e ∧ s.validate = .error e := by
  simp only [validate, mode, hmutual, if_true]
  cases hidentity : lacks s.clientCert || lacks s.clientKey with
  | true =>
    refine .inr ⟨_, .identity hmutual ?_, rfl⟩
    rintro ⟨hcert, hkey⟩
    rw [lacks_eq_false_iff.mpr hcert, lacks_eq_false_iff.mpr hkey] at hidentity
    cases hidentity
  | false =>
    rw [Bool.or_eq_false_iff, lacks_eq_false_iff, lacks_eq_false_iff] at hidentity
    obtain ⟨hcert, hkey⟩ := hidentity
    cases hca : lacks s.serverCa with
    | true => exact .inr ⟨_, .mutualServerCa hmutual hcert hkey (lacks_eq_true_iff.mp hca), rfl⟩
    | false => exact .inl ⟨.inl ⟨hmutual, hcert, hkey, lacks_eq_false_iff.mp hca⟩, rfl⟩

theorem validate_of_not_mutual (hmutual : s.mutualTls = false) :
    (s.Complete ∧ s.validate = .ok s.mode) ∨ ∃ e, s.Lacking e ∧ s.validate = .error e := by
  simp only [validate, mode, hmutual, Bool.false_eq_true, if_false]
  cases henabled : s.enabled with
  | false => exact .inl ⟨.inr ⟨hmutual, .inl henabled⟩, rfl⟩
  | true =>
    cases hverify : s.skipVerify with
    | true => exact .inl ⟨.inr ⟨hmutual, .inr (.inl hverify)⟩, rfl⟩
    | false =>
      cases hca : lacks s.serverCa with
      | true => exact .inr ⟨_, .serverCa hmutual henabled hverify (lacks_eq_true_iff.mp hca), rfl⟩
      | false => exact .inl ⟨.inr ⟨hmutual, .inr (.inr (lacks_eq_false_iff.mp hca))⟩, rfl⟩

/-- Settings pass the check in the mode they describe, or lack something. -/
theorem validate_cases (s : TlsSettings) :
    (s.Complete ∧ s.validate = .ok s.mode) ∨ ∃ e, s.Lacking e ∧ s.validate = .error e := by
  cases hmutual : s.mutualTls with
  | true => exact validate_of_mutual hmutual
  | false => exact validate_of_not_mutual hmutual

theorem validate_eq_ok_iff {m : TlsMode} : s.validate = .ok m ↔ s.Complete ∧ s.mode = m := by
  obtain ⟨hcomplete, hok⟩ | ⟨e, hlacking, herror⟩ := validate_cases s
  · simp [hok, hcomplete]
  · simp [herror, hlacking.not_complete]

theorem validate_eq_error_iff {e : ConfigError} : s.validate = .error e ↔ s.Lacking e := by
  obtain ⟨hcomplete, hok⟩ | ⟨e', hlacking, herror⟩ := validate_cases s
  · have hnot : ¬ s.Lacking e := fun h => h.not_complete hcomplete
    simp [hok, hnot]
  · rw [herror]
    constructor
    · rintro ⟨⟩
      exact hlacking
    · intro h
      rw [hlacking.unique h]

/-- Mutual TLS is the mode of the settings that ask for it. -/
theorem mode_eq_mutualTls_iff : s.mode = .mutualTls ↔ s.mutualTls = true := by
  unfold mode
  cases s.mutualTls <;> cases s.enabled <;> cases s.skipVerify <;> decide

end CallChain.TlsSettings
