import CallChain.Proofs.Config.Client
import Mathlib.Data.List.Induction

/-!
# Builders that are told several times how to secure the connection

Three calls to a builder change how its client will secure the connection, each a part of the settings that
the others may have set before.  `Securing.Settled` says what the settings are after any calls in terms of
the last identity and the last authority among them; every call keeps it (`Settled.apply`), so it holds after
every list of calls.  It follows that mutual TLS is never undone, and which client comes of the calls
(`securedAs_build`).
-/

set_option autoImplicit false

namespace CallChain

/-- A call to a builder that changes how the connection is secured. -/
inductive Securing where
  | insecure
  | serverCa (ca : String)
  | mutualTls (ca cert key : String)
  deriving DecidableEq, Repr

namespace Securing

def apply (b : ClientBuilder) : Securing → ClientBuilder
  | insecure => b.withInsecure
  | serverCa ca => b.withServerCa ca
  | mutualTls ca cert key => b.withMutualTls ca cert key

/-- The builder after calls, in their order. -/
def applyAll (calls : List Securing) (b : ClientBuilder) : ClientBuilder := calls.foldl apply b

/-- The certificate and the key that a call brings. -/
def identity? : Securing → Option (String × String)
  | mutualTls _ cert key => some (cert, key)
  | _ => none

/-- The authority that a call brings. -/
def authority? : Securing → Option String
  | insecure => none
  | serverCa ca => some ca
  | mutualTls ca _ _ => some ca

def lastIdentity? (calls : List Securing) : Option (String × String) :=
  (calls.filterMap identity?).getLast?

def lastAuthority? (calls : List Securing) : Option String := (calls.filterMap authority?).getLast?

/-- One of the calls asks for mutual TLS. -/
def AsksMutual (calls : List Securing) : Prop := ∃ ca cert key, mutualTls ca cert key ∈ calls

variable {calls : List Securing} {b : ClientBuilder}

theorem lastIdentity?_concat (calls : List Securing) (c : Securing) :
    lastIdentity? (calls ++ [c]) = c.identity?.or (lastIdentity? calls) := by
  unfold lastIdentity?
  cases c <;> simp [identity?]

theorem lastAuthority?_concat (calls : List Securing) (c : Securing) :
    lastAuthority? (calls ++ [c]) = c.authority?.or (lastAuthority? calls) := by
  unfold lastAuthority?
  cases c <;> simp [authority?]

theorem asksMutual_iff : AsksMutual calls ↔ (lastIdentity? calls).isSome = true := by
  unfold AsksMutual lastIdentity?
  rw [Option.isSome_iff_ne_none, ne_eq, List.getLast?_eq_none_iff, List.filterMap_eq_nil_iff]
  constructor
  · rintro ⟨ca, cert, key, hmem⟩ hnone
    cases hnone _ hmem
  · intro hsome
    by_contra hnot
    refine hsome fun c hc => ?_
    cases c with
    | insecure | serverCa => rfl
    | mutualTls ca cert key => exact absurd ⟨ca, cert, key, hc⟩ hnot

/-- Calls bring an authority unless all of them only put the check of the server off. -/
theorem lastAuthority?_eq_none_iff :
    lastAuthority? calls = none ↔ ∀ c ∈ calls, c = insecure := by
  unfold lastAuthority?
  rw [List.getLast?_eq_none_iff, List.filterMap_eq_nil_iff]
  refine forall₂_congr fun c _ => ?_
  cases c <;> simp [authority?]

theorem lastAuthority?_eq_none_iff_of_not (hnot : ¬ AsksMutual calls) :
    lastAuthority? calls = none ↔ ∀ ca, serverCa ca ∉ calls := by
  rw [lastAuthority?_eq_none_iff]
  constructor
  · intro hall ca hca
    cases hall _ hca
  · intro hnone c hc
    cases c with
    | insecure => rfl
    | serverCa ca => exact absurd hc (hnone ca)
    | mutualTls ca cert key => exact absurd ⟨ca, cert, key, hc⟩ hnot

/-- Calls among which the check of the server is not put off bring an authority, unless there are none. -/
theorem isEmpty_eq (hcheck : insecure ∉ calls) :
    calls.isEmpty = (lastAuthority? calls).isNone := by
  cases calls with
  | nil => rfl
  | cons c calls =>
    cases hlast : lastAuthority? (c :: calls) with
    | some ca => rfl
    | none =>
      have hc : c = insecure := lastAuthority?_eq_none_iff.mp hlast c List.mem_cons_self
      rw [hc] at hcheck
      exact absurd List.mem_cons_self hcheck

/-- What the settings of a builder are after calls. -/
structure Settled (calls : List Securing) (s : TlsSettings) : Prop where
  mutualTls : s.mutualTls = (lastIdentity? calls).isSome
  clientCert : s.clientCert = (lastIdentity? calls).map Prod.fst
  clientKey : s.clientKey = (lastIdentity? calls).map Prod.snd
  serverCa : s.serverCa = lastAuthority? calls
  enabled : s.enabled = !calls.isEmpty
  /-- A call for mutual TLS turns the check of the server on again. -/
  skipVerify : ¬ AsksMutual calls → s.skipVerify = decide (insecure ∈ calls)

theorem Settled.plain : Settled [] .plain := by
  constructor <;> intros <;> rfl

/-! What one call does to each part of the settings. -/

theorem mutualTls_apply (b : ClientBuilder) (c : Securing) :
    (c.apply b).tls.mutualTls = (c.identity?.isSome || b.tls.mutualTls) := by
  cases c <;> rfl

theorem clientCert_apply (b : ClientBuilder) (c : Securing) :
    (c.apply b).tls.clientCert = (c.identity?.map Prod.fst).or b.tls.clientCert := by
  cases c <;> rfl

theorem clientKey_apply (b : ClientBuilder) (c : Securing) :
    (c.apply b).tls.clientKey = (c.identity?.map Prod.snd).or b.tls.clientKey := by
  cases c <;> rfl

theorem serverCa_apply (b : ClientBuilder) (c : Securing) :
    (c.apply b).tls.serverCa = c.authority?.or b.tls.serverCa := by
  cases c <;> rfl

theorem enabled_apply (b : ClientBuilder) (c : Securing) : (c.apply b).tls.enabled = true := by
  cases c <;> rfl

theorem skipVerify_apply (b : ClientBuilder) {c : Securing} (h : c.identity? = none) :
    (c.apply b).tls.skipVerify = (decide (c = insecure) || b.tls.skipVerify) := by
  cases c with
  | insecure | serverCa => rfl
  | mutualTls => cases h

theorem asksMutual_concat_iff {c : Securing} :
    AsksMutual (calls ++ [c]) ↔ c.identity?.isSome = true ∨ AsksMutual calls := by
  rw [asksMutual_iff, asksMutual_iff, lastIdentity?_concat, Option.isSome_or, Bool.or_eq_true]

/-- Every call keeps the settings what they are said to be. -/
theorem Settled.apply (h : Settled calls b.tls) (c : Securing) :
    Settled (calls ++ [c]) (c.apply b).tls := by
  constructor
  case mutualTls => rw [mutualTls_apply, h.mutualTls, lastIdentity?_concat, Option.isSome_or]
  case clientCert => rw [clientCert_apply, h.clientCert, lastIdentity?_concat, Option.map_or]
  case clientKey => rw [clientKey_apply, h.clientKey, lastIdentity?_concat, Option.map_or]
  case serverCa => rw [serverCa_apply, h.serverCa, lastAuthority?_concat]
  case enabled => simp [enabled_apply]
  case skipVerify =>
    intro hnot
    obtain ⟨hidentity, hnot'⟩ := not_or.mp (asksMutual_concat_iff.not.mp hnot)
    rw [Option.not_isSome_iff_eq_none] at hidentity
    rw [skipVerify_apply b hidentity, h.skipVerify hnot', Bool.or_comm, ← Bool.decide_or]
    simp [eq_comm]

theorem settled_applyAll (hfresh : b.tls = .plain) (calls : List Securing) :
    Settled calls (applyAll calls b).tls := by
  induction calls using List.reverseRecOn with
  | nil =>
    show Settled [] b.tls
    rw [hfresh]
    exact .plain
  | append_singleton calls c ih =>
    rw [applyAll, List.foldl_append]
    exact ih.apply c

/-- The calls change the TLS settings and nothing else. -/
theorem applyAll_eq (calls : List Securing) (b : ClientBuilder) :
    applyAll calls b = { b with tls := (applyAll calls b).tls } := by
  induction calls generalizing b with
  | nil => rfl
  | cons c calls ih =>
    show applyAll calls (c.apply b) = { b with tls := (applyAll calls (c.apply b)).tls }
    rw [ih]
    cases c <;> rfl

namespace Settled

variable {s : TlsSettings}

theorem mode_of_asksMutual (h : Settled calls s) (hasks : AsksMutual calls) : s.mode = .mutualTls := by
  rw [TlsSettings.mode_eq_mutualTls_iff, h.mutualTls]
  exact asksMutual_iff.mp hasks

/-- Settings for mutual TLS are complete when none of the last credentials is blank. -/
theorem complete_iff_of_asksMutual (h : Settled calls s) {ca cert key : String}
    (hidentity : lastIdentity? calls = some (cert, key)) (hca : lastAuthority? calls = some ca) :
    s.Complete ↔
      Text.isBlank cert = false ∧ Text.isBlank key = false ∧ Text.isBlank ca = false := by
  have hmutual : s.mutualTls = true := by
    rw [h.mutualTls, hidentity]
    rfl
  simp [TlsSettings.Complete, TlsSettings.Has, hmutual, h.clientCert, h.clientKey, h.serverCa,
    hidentity, hca]

variable (h : Settled calls s) (hnot : ¬ AsksMutual calls)

include h hnot

theorem mutualTls_eq_false : s.mutualTls = false := by
  rw [h.mutualTls, Bool.eq_false_iff]
  exact fun hsome => hnot (asksMutual_iff.mpr hsome)

/-- Without a call for mutual TLS, the check of the server is put off, or the last authority counts. -/
theorem complete_iff :
    s.Complete ↔
      insecure ∈ calls ∨ ∀ ca, lastAuthority? calls = some ca → Text.isBlank ca = false := by
  have hmutual := h.mutualTls_eq_false hnot
  have hskip := h.skipVerify hnot
  by_cases hcheck : insecure ∈ calls
  · simp [TlsSettings.Complete, hmutual, hskip, hcheck]
  · have henabled := h.enabled
    rw [isEmpty_eq hcheck] at henabled
    cases hlast : lastAuthority? calls <;>
      simp [TlsSettings.Complete, TlsSettings.Has, hmutual, hskip, hcheck, henabled, h.serverCa, hlast]

theorem mode_eq :
    s.mode = if insecure ∈ calls then .skipVerify else
      if (lastAuthority? calls).isSome then .withCa else .plain := by
  have hmutual := h.mutualTls_eq_false hnot
  have hskip := h.skipVerify hnot
  have henabled := h.enabled
  by_cases hcheck : insecure ∈ calls
  · cases calls with
    | nil => cases hcheck
    | cons c calls => simp [TlsSettings.mode, hmutual, hskip, henabled, hcheck]
  · rw [isEmpty_eq hcheck] at henabled
    cases hlast : lastAuthority? calls <;>
      simp [TlsSettings.mode, hmutual, hskip, hcheck, henabled, hlast]

end Settled

/-- Which client comes of calls to a fresh builder. -/
structure SecuredAs (calls : List Securing) (outcome : Except Fault Client) : Prop where
  /-- Mutual TLS is never undone, and the last credentials count. -/
  upheld : AsksMutual calls → ∀ client, outcome = .ok client → client.settings.mode = .mutualTls ∧
    ∃ ca cert key, lastIdentity? calls = some (cert, key) ∧ lastAuthority? calls = some ca ∧
      client.settings.tls.clientCert = some cert ∧ client.settings.tls.clientKey = some key ∧
      client.settings.tls.serverCa = some ca
  /-- There is no such client exactly if one of the last credentials is blank. -/
  incomplete : ∀ ca cert key, lastIdentity? calls = some (cert, key) →
    lastAuthority? calls = some ca →
    ((∃ f, outcome = .error f) ↔
      Text.isBlank cert = true ∨ Text.isBlank key = true ∨ Text.isBlank ca = true)
  /-- Without mutual TLS, there is no client exactly if the authority is looked at and blank. -/
  unchecked : ¬ AsksMutual calls → ((∃ f, outcome = .error f) ↔
    insecure ∉ calls ∧ ∃ ca, lastAuthority? calls = some ca ∧ Text.isBlank ca = true)
  skipVerify : ¬ AsksMutual calls → ∀ client, outcome = .ok client →
    (client.settings.mode = .skipVerify ↔ insecure ∈ calls)
  withCa : ¬ AsksMutual calls → ∀ client, outcome = .ok client →
    (client.settings.mode = .withCa ↔
      insecure ∉ calls ∧ ∃ ca, lastAuthority? calls = some ca ∧ Text.isBlank ca = false)
  plain : ¬ AsksMutual calls → ∀ client, outcome = .ok client →
    (client.settings.mode = .plain ↔ insecure ∉ calls ∧ ∀ ca, serverCa ca ∉ calls)

/-- What becomes of any calls that secure the connection, on a builder that has an address and was not told
anything about TLS. -/
theorem securedAs_build (catalog : Catalog) (codes : CodeRegistry) (connector : Connector)
    (site : CallSite) (hfresh : b.tls = .plain) (hfilled : Text.isBlank b.address = false)
    (calls : List Securing) :
    SecuredAs calls ((applyAll calls b).build catalog codes connector site).1 := by
  have hsettled := settled_applyAll hfresh calls
  have hfilled' : Text.isBlank (applyAll calls b).address = false := by
    rw [applyAll_eq]
    exact hfilled
  generalize applyAll calls b = built at hsettled hfilled'
  have hok {client : Client} (h : (built.build catalog codes connector site).1 = .ok client) :
      built.tls.Complete ∧ client.settings.tls = built.tls ∧ client.settings.mode = built.tls.mode := by
    obtain ⟨-, hcomplete, rfl⟩ := ClientBuilder.build_eq_ok_iff.mp h
    exact ⟨hcomplete, rfl, rfl⟩
  have herror :
      (∃ f, (built.build catalog codes connector site).1 = .error f) ↔ ¬ built.tls.Complete := by
    cases hbuild : (built.build catalog codes connector site).1 with
    | ok client => simp [(hok hbuild).1]
    | error f =>
      refine ⟨fun _ hcomplete => ?_, fun _ => ⟨f, rfl⟩⟩
      rw [ClientBuilder.build_eq_ok_iff.mpr ⟨hfilled', hcomplete, rfl⟩] at hbuild
      cases hbuild
  constructor
  case upheld =>
    intro hasks client hclient
    obtain ⟨hcomplete, htls, hmode⟩ := hok hclient
    obtain ⟨⟨cert, key⟩, hidentity⟩ := Option.isSome_iff_exists.mp (asksMutual_iff.mp hasks)
    have hca : (lastAuthority? calls).isSome = true := by
      rw [Option.isSome_iff_ne_none, ne_eq, lastAuthority?_eq_none_iff]
      obtain ⟨ca, cert, key, hmem⟩ := hasks
      exact fun hall => nomatch hall _ hmem
    obtain ⟨ca, hca⟩ := Option.isSome_iff_exists.mp hca
    refine ⟨hmode.trans (hsettled.mode_of_asksMutual hasks), ca, cert, key, hidentity, hca, ?_⟩
    rw [htls, hsettled.clientCert, hsettled.clientKey, hsettled.serverCa, hidentity, hca]
    exact ⟨rfl, rfl, rfl⟩
  case incomplete =>
    intro ca cert key hidentity hca
    rw [herror, hsettled.complete_iff_of_asksMutual hidentity hca]
    cases Text.isBlank cert <;> cases Text.isBlank key <;> simp
  case unchecked =>
    intro hnot
    rw [herror, hsettled.complete_iff hnot]
    simp only [not_or, not_forall, Bool.not_eq_false, exists_prop]
  all_goals
    intro hnot client hclient
    obtain ⟨hcomplete, -, hmode⟩ := hok hclient
    rw [hmode, hsettled.mode_eq hnot]
    rw [hsettled.complete_iff hnot] at hcomplete
  case skipVerify =>
    by_cases hcheck : insecure ∈ calls
    · simp [hcheck]
    · cases lastAuthority? calls <;> simp [hcheck]
  case withCa =>
    by_cases hcheck : insecure ∈ calls
    · simp [hcheck]
    · cases hlast : lastAuthority? calls with
      | none => simp [hcheck]
      | some ca => simpa [hcheck] using hcomplete.resolve_left hcheck ca hlast
  case plain =>
    rw [← lastAuthority?_eq_none_iff_of_not hnot]
    by_cases hcheck : insecure ∈ calls
    · simp [hcheck]
    · cases lastAuthority? calls <;> simp [hcheck]

/-- A builder that was told of an authority, then of an identity with another authority, and at last not to
check the server. -/
theorem securedAs_build_overruled :
    let calls := [serverCa "old", mutualTls "ca" "cert" "key", insecure, serverCa "new"]
    (ClientBuilder.new "https://orders.test").tls = .plain ∧
      Text.isBlank (ClientBuilder.new "https://orders.test").address = false ∧
      SecuredAs calls ((applyAll calls (ClientBuilder.new "https://orders.test")).build .standard
        (.new ⟨"localhost", 1, "service", .oneFile "library"⟩) ScriptedRemote.ok.connector
        ⟨"src/main.rs", 20, "main"⟩).1 := by
  intro calls
  have hfilled : Text.isBlank (ClientBuilder.new "https://orders.test").address = false := by decide
  exact ⟨rfl, hfilled, securedAs_build .standard _ _ _ rfl hfilled calls⟩

end Securing

end CallChain
