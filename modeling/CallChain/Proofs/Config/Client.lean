import CallChain.Proofs.Chain.Passage
import CallChain.Proofs.Config.Credentials
import CallChain.Proofs.Tls.Settings
import CallChain.Transport.Scripted

/-!
# Which configurations make a client, and how it is secured

A builder becomes a client when its address is not blank and its settings are complete; for the builder of
a configuration both can be told from the configuration and its files (`ClientConfig.Decided`).  Whatever a
client was built from, it dials with the settings whose mode its guard looks at (`Client.Secured`).
-/

set_option autoImplicit false

namespace CallChain

variable {read : String → Option Bytes}

theorem CredentialSource.Gives.has_iff {source : CredentialSource} {r : Option String}
    (h : source.Gives read r) : TlsSettings.Has r ↔ source.GivesText read := by
  constructor
  · rintro ⟨s, rfl, hs⟩
    exact ⟨s, h, hs⟩
  · rintro ⟨s, hs, hfilled⟩
    exact ⟨s, h.unique hs, hfilled⟩

namespace ClientBuilder

variable {b : ClientBuilder} {catalog : Catalog} {codes : CodeRegistry} {connector : Connector}
  {site : CallSite}

/-- What is wrong with a builder; a blank address is named before anything else. -/
inductive Unfit (b : ClientBuilder) : ConfigError → Prop where
  | address (hblank : Text.isBlank b.address = true) : Unfit b .emptyAddress
  | tls {e : ConfigError} (hfilled : Text.isBlank b.address = false) (h : b.tls.Lacking e) : Unfit b e

theorem check_eq_ok_iff {m : TlsMode} :
    b.check = .ok m ↔ Text.isBlank b.address = false ∧ b.tls.Complete ∧ b.tls.mode = m := by
  unfold check
  cases Text.isBlank b.address with
  | true => simp
  | false => simp [TlsSettings.validate_eq_ok_iff]

theorem check_eq_error_iff {e : ConfigError} : b.check = .error e ↔ b.Unfit e := by
  unfold check
  cases hblank : Text.isBlank b.address with
  | true =>
    simp only [if_true, Except.error.injEq]
    constructor
    · rintro rfl
      exact .address hblank
    · rintro (_ | ⟨hfilled, _⟩)
      · rfl
      · simp [hblank] at hfilled
  | false =>
    simp only [Bool.false_eq_true, if_false, TlsSettings.validate_eq_error_iff]
    constructor
    · exact .tls hblank
    · rintro (hblank' | ⟨_, h⟩)
      · simp [hblank] at hblank'
      · exact h

theorem build_eq_ok_iff {client : Client} :
    (b.build catalog codes connector site).1 = .ok client ↔
      Text.isBlank b.address = false ∧ b.tls.Complete ∧
        client = ⟨⟨⟨b.address, b.tls, codes, connector⟩, b.timeout, b.tls.mode⟩, b.options,
          b.stageNames, b.skippers, catalog.chainOf b.stageNames b.skippers⟩ := by
  unfold build
  cases hcheck : b.check with
  | ok mode =>
    obtain ⟨hfilled, hcomplete, rfl⟩ := check_eq_ok_iff.mp hcheck
    simp [hfilled, hcomplete, eq_comm]
  | error e =>
    refine ⟨nofun, ?_⟩
    rintro ⟨hfilled, hcomplete, -⟩
    rw [check_eq_ok_iff.mpr ⟨hfilled, hcomplete, rfl⟩] at hcheck
    cases hcheck

/-- The failure to build a client tells what is wrong with its builder. -/
theorem build_eq_error_iff {f : Fault} :
    (b.build catalog codes connector site).1 = .error f ↔ ∃ e, b.Unfit e ∧
      f = Fault.wrapCause codes site Codes.clientGenerate (.other e.message) := by
  simp only [← check_eq_error_iff]
  unfold build
  cases b.check with
  | ok mode => simp
  | error e => simp [eq_comm]

end ClientBuilder

/-- How a client that was built is secured. -/
structure Client.Secured (c : Client) (b : ClientBuilder) : Prop where
  settings : c.settings.tls = b.tls
  /-- The mode that the guard on the certificate looks at is that of the settings dialed with. -/
  mode : c.settings.mode = c.settings.tls.mode
  /-- A connection is asked for with these settings and no others: what the other side would make of
  others makes no difference. -/
  dials : ∀ connector : Connector,
    connector.connect c.settings.address c.settings.tls =
        c.settings.connector.connect c.settings.address c.settings.tls →
      ∀ span, Dialer.get { c.settings.toDialer with connector := connector } span =
        c.settings.toDialer.get span
  /-- The guard refuses the calls of a client that does not dial with mutual TLS. -/
  guard : ∀ {ρ : Type} (i : Invocation ρ), i.client = c.settings →
    (Builtin.certificateGuard.Refuses i ↔ c.settings.tls.mode ≠ .mutualTls)
  credentials : c.settings.mode = .mutualTls →
    TlsSettings.Has c.settings.tls.serverCa ∧ TlsSettings.Has c.settings.tls.clientCert ∧
      TlsSettings.Has c.settings.tls.clientKey

theorem ClientBuilder.secured_of_build {b : ClientBuilder} {catalog : Catalog} {codes : CodeRegistry}
    {connector : Connector} {site : CallSite} {client : Client}
    (h : (b.build catalog codes connector site).1 = .ok client) : client.Secured b := by
  obtain ⟨-, hcomplete, rfl⟩ := build_eq_ok_iff.mp h
  refine ⟨rfl, rfl, fun connector' hconnect span => ?_, fun i hi => ?_, fun hmode => ?_⟩
  · simp only [Dialer.get, Dialer.dialUnlessKept, Dialer.dial, hconnect]
  · simp [Builtin.Refuses, hi]
  · obtain ⟨-, hcert, hkey, hca⟩ | ⟨hnot, -⟩ := hcomplete
    · exact ⟨hca, hcert, hkey⟩
    · rw [TlsSettings.mode_eq_mutualTls_iff.mp hmode] at hnot
      cases hnot

/-! ## Configured clients -/

namespace ClientConfig

variable {c : ClientConfig} {b : ClientBuilder} {catalog : Catalog} {codes : CodeRegistry}
  {connector : Connector}

/-- The address and the credentials that the switches ask for are there. -/
def Buildable (read : String → Option Bytes) (c : ClientConfig) : Prop :=
  Text.isBlank c.address = false ∧
    (c.tls.mutualTls = true ∧ c.tls.clientCertSource.GivesText read ∧
        c.tls.clientKeySource.GivesText read ∧ c.tls.serverCaSource.GivesText read ∨
      c.tls.mutualTls = false ∧
        (c.tls.enabled = false ∨ c.tls.skipVerify = true ∨ c.tls.serverCaSource.GivesText read))

/-- What a configuration is refused for: the address before the credentials, the identity before the
authority. -/
inductive Refused (read : String → Option Bytes) (c : ClientConfig) : ConfigError → Prop where
  | address (hblank : Text.isBlank c.address = true) : Refused read c .emptyAddress
  | identity (hfilled : Text.isBlank c.address = false) (hmutual : c.tls.mutualTls = true)
      (hlacks : ¬ (c.tls.clientCertSource.GivesText read ∧ c.tls.clientKeySource.GivesText read)) :
      Refused read c .missingClientIdentity
  | mutualServerCa (hfilled : Text.isBlank c.address = false) (hmutual : c.tls.mutualTls = true)
      (hcert : c.tls.clientCertSource.GivesText read) (hkey : c.tls.clientKeySource.GivesText read)
      (hlacks : ¬ c.tls.serverCaSource.GivesText read) : Refused read c .missingMutualServerCa
  | serverCa (hfilled : Text.isBlank c.address = false) (hmutual : c.tls.mutualTls = false)
      (henabled : c.tls.enabled = true) (hverify : c.tls.skipVerify = false)
      (hlacks : ¬ c.tls.serverCaSource.GivesText read) : Refused read c .missingServerCa

theorem builder_eq_ok_iff :
    c.builder (.ofBytes read) = .ok b ↔ ∃ s, c.tls.Settles read s ∧
      b = ⟨c.address, c.timeout, s, [], c.stageNames, []⟩ := by
  simp only [← TlsConfig.settings_eq_ok_iff, builder]
  cases c.tls.settings (.ofBytes read) with
  | error e => simp [bind, Except.bind]
  | ok s => simp [bind, Except.bind, pure, Except.pure, ClientBuilder.new, eq_comm]

theorem builder_eq_error_iff {e : ConfigError} :
    c.builder (.ofBytes read) = .error e ↔ c.tls.settings (.ofBytes read) = .error e := by
  unfold builder
  cases c.tls.settings (.ofBytes read) <;> simp [bind, Except.bind, pure, Except.pure]

section

variable {s : TlsSettings} (hs : c.tls.Settles read s) (hb : b = ⟨c.address, c.timeout, s, [], c.stageNames, []⟩)

include hs hb

theorem buildable_iff : Text.isBlank b.address = false ∧ b.tls.Complete ↔ c.Buildable read := by
  subst hb
  simp only [TlsSettings.Complete, Buildable, hs.enabled, hs.skipVerify, hs.mutualTls,
    hs.serverCa.has_iff, hs.clientCert.has_iff, hs.clientKey.has_iff]
  refine and_congr_right fun _ => or_congr_right (and_congr_right fun hmutual => ?_)
  rw [hmutual, Bool.or_false]

theorem unfit_iff {e : ConfigError} : b.Unfit e ↔ c.Refused read e := by
  subst hb
  constructor
  · intro h
    cases h with
    | address hblank => exact .address hblank
    | tls hfilled hlacking =>
      cases hlacking with
      | identity hmutual hlacks =>
        rw [hs.clientCert.has_iff, hs.clientKey.has_iff] at hlacks
        exact .identity hfilled (hs.mutualTls.symm.trans hmutual) hlacks
      | mutualServerCa hmutual hcert hkey hlacks =>
        rw [hs.serverCa.has_iff] at hlacks
        exact .mutualServerCa hfilled (hs.mutualTls.symm.trans hmutual)
          (hs.clientCert.has_iff.mp hcert) (hs.clientKey.has_iff.mp hkey) hlacks
      | serverCa hmutual henabled hverify hlacks =>
        rw [hs.serverCa.has_iff] at hlacks
        rw [hs.mutualTls] at hmutual
        rw [hs.enabled, hmutual, Bool.or_false] at henabled
        exact .serverCa hfilled hmutual henabled (hs.skipVerify.symm.trans hverify) hlacks
  · intro h
    cases h with
    | address hblank => exact .address hblank
    | identity hfilled hmutual hlacks =>
      rw [← hs.clientCert.has_iff, ← hs.clientKey.has_iff] at hlacks
      exact .tls hfilled (.identity (hs.mutualTls.trans hmutual) hlacks)
    | mutualServerCa hfilled hmutual hcert hkey hlacks =>
      rw [← hs.serverCa.has_iff] at hlacks
      exact .tls hfilled (.mutualServerCa (hs.mutualTls.trans hmutual)
        (hs.clientCert.has_iff.mpr hcert) (hs.clientKey.has_iff.mpr hkey) hlacks)
    | serverCa hfilled hmutual henabled hverify hlacks =>
      rw [← hs.serverCa.has_iff] at hlacks
      refine .tls hfilled (.serverCa (hs.mutualTls.trans hmutual) ?_ (hs.skipVerify.trans hverify) hlacks)
      rw [hs.enabled, henabled, Bool.true_or]

end

/-- What becomes of a configuration with given files. -/
structure Decided (read : String → Option Bytes) (c : ClientConfig) (catalog : Catalog)
    (codes : CodeRegistry) (connector : Connector) (site : CallSite) : Prop where
  /-- The credentials have to be there as texts, also where no mode needs them. -/
  accepted : (∃ b, c.builder (.ofBytes read) = .ok b) ↔
    ∀ source ∈ c.tls.sources, source.Readable read
  /-- The first file that is no text is reported. -/
  unreadable : ∀ e, c.builder (.ofBytes read) = .error e ↔ ∃ before source after path,
    c.tls.sources = before ++ source :: after ∧ (∀ earlier ∈ before, earlier.Readable read) ∧
      source.file = some path ∧ ¬ source.Readable read ∧ e = .unreadable path
  built : ∀ b, c.builder (.ofBytes read) = .ok b →
    ((∃ client, (b.build catalog codes connector site).1 = .ok client) ↔ c.Buildable read)
  refused : ∀ b, c.builder (.ofBytes read) = .ok b → ∀ f,
    (b.build catalog codes connector site).1 = .error f ↔ ∃ e, c.Refused read e ∧
      f = Fault.wrapCause codes site Codes.clientGenerate (.other e.message)

/-- A configuration makes a client exactly when its credentials can be had and those that its switches ask
for are there; and every client, however it was configured, dials with the settings its guard looks at. -/
theorem decided_and_secured (read : String → Option Bytes) (c : ClientConfig) (catalog : Catalog)
    (codes : CodeRegistry) (connector : Connector) (site : CallSite) :
    c.Decided read catalog codes connector site ∧
      ∀ (b : ClientBuilder) (client : Client),
        (b.build catalog codes connector site).1 = .ok client → client.Secured b := by
  refine ⟨⟨?_, fun e => ?_, fun b hb => ?_, fun b hb f => ?_⟩, fun b client h => b.secured_of_build h⟩
  · simp only [builder_eq_ok_iff, ← TlsConfig.exists_settles_iff]
    exact ⟨fun ⟨_, s, hs, _⟩ => ⟨s, hs⟩, fun ⟨s, hs⟩ => ⟨_, s, hs, rfl⟩⟩
  · rw [builder_eq_error_iff, TlsConfig.settings_eq_error_iff]
  · obtain ⟨s, hs, hb⟩ := builder_eq_ok_iff.mp hb
    simp only [ClientBuilder.build_eq_ok_iff, ← buildable_iff hs hb]
    exact ⟨fun ⟨_, hfilled, hcomplete, _⟩ => ⟨hfilled, hcomplete⟩,
      fun ⟨hfilled, hcomplete⟩ => ⟨_, hfilled, hcomplete, rfl⟩⟩
  · obtain ⟨s, hs, hb⟩ := builder_eq_ok_iff.mp hb
    simp only [ClientBuilder.build_eq_error_iff, unfit_iff hs hb]

/-- A configuration for mutual TLS with its authority in a file, its certificate and key in place, and a
file named for the key that nobody looks at. -/
def mutualConfig : ClientConfig where
  address := "https://orders.test"
  timeoutMillis := 0
  tls := ⟨false, false, true, none, some "ca.pem", some "cert", none, some "key", some "gone.pem"⟩
  stageNames := [CertificateGuard.name]

def authorityFile (path : String) : Option Bytes :=
  if path = "ca.pem" then some (Bytes.ofText "ca") else none

/-- Such a configuration makes a client that dials with mutual TLS. -/
theorem decided_and_secured_mutual :
    ∃ b client, mutualConfig.builder (.ofBytes authorityFile) = .ok b ∧
      (b.build .standard (.new ⟨"h", 1, "m", .oneFile "library"⟩) ScriptedRemote.ok.connector
        ⟨"src/main.rs", 20, "main"⟩).1 = .ok client ∧
      client.settings.tls.mode = .mutualTls ∧ TlsSettings.Has client.settings.tls.clientKey := by
  obtain ⟨hdecided, hsecured⟩ := decided_and_secured authorityFile mutualConfig .standard
    (.new ⟨"h", 1, "m", .oneFile "library"⟩) ScriptedRemote.ok.connector
    ⟨"src/main.rs", 20, "main"⟩
  have hca : mutualConfig.tls.serverCaSource.Gives authorityFile (some "ca") := .file rfl
  have hcert : mutualConfig.tls.clientCertSource.Gives authorityFile (some "cert") := .text _ _
  have hkey : mutualConfig.tls.clientKeySource.Gives authorityFile (some "key") := .text _ _
  have hb := builder_eq_ok_iff.mpr ⟨⟨true, false, true, some "ca", some "cert", some "key"⟩,
    ⟨rfl, rfl, rfl, hca, hcert, hkey⟩, rfl⟩
  obtain ⟨client, hclient⟩ := (hdecided.built _ hb).mpr
    ⟨by decide, .inl ⟨rfl, ⟨_, hcert, by decide⟩, ⟨_, hkey, by decide⟩, ⟨_, hca, by decide⟩⟩⟩
  have hsecured := hsecured _ client hclient
  have hmode : client.settings.tls.mode = .mutualTls := by
    rw [hsecured.settings]
    rfl
  exact ⟨_, client, hb, hclient, hmode, (hsecured.credentials (hsecured.mode.trans hmode)).2.2⟩

end ClientConfig

end CallChain
