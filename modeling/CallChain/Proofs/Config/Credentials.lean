import CallChain.Config.Client

/-!
# The credentials of a configuration

A credential is given in place or read from a file, which has to hold a text in UTF-8.  The settings of a
configuration can be had when all three credentials can (`exists_settles_iff`), whatever the mode, and the
first one that cannot is reported (`settings_eq_error_iff`).
-/

set_option autoImplicit false

namespace CallChain

theorem Bytes.text?_eq_some_iff {b : Bytes} {s : String} : text? b = some s ↔ b = ofText s := by
  constructor
  · intro h
    unfold text? String.fromUTF8? at h
    split at h
    · obtain rfl := Option.some.inj h
      simp [ofText, String.fromUTF8]
    · cases h
  · rintro rfl
    exact text?_ofText s

/-! ## Traversals that stop at a failure -/

section

variable {α β ε : Type} {f : α → Except ε β}

/-- A traversal fails with the failure of the first element that has one. -/
theorem mapM_eq_error_iff {xs : List α} {e : ε} :
    xs.mapM f = .error e ↔ ∃ before x after, xs = before ++ x :: after ∧
      (∀ y ∈ before, ∃ r, f y = .ok r) ∧ f x = .error e := by
  induction xs with
  | nil => simp [pure, Except.pure]
  | cons x xs ih =>
    rw [List.mapM_cons]
    simp only [List.cons_eq_append_iff]
    cases hx : f x with
    | error e' =>
      constructor
      · rintro ⟨⟩
        exact ⟨[], x, xs, .inl ⟨rfl, rfl⟩, nofun, hx⟩
      · rintro ⟨before, x', after, ⟨rfl, heq⟩ | ⟨rest, rfl, -⟩, hbefore, hx'⟩
        · obtain ⟨rfl, -⟩ := List.cons_eq_cons.mp heq
          obtain rfl : e' = e := Except.error.inj (hx.symm.trans hx')
          rfl
        · obtain ⟨r, hr⟩ := hbefore x List.mem_cons_self
          rw [hx] at hr
          cases hr
    | ok y =>
      have hbind : ((Except.ok y : Except ε β) >>= fun b => do
          let bs ← xs.mapM f
          pure (b :: bs)) = .error e ↔ xs.mapM f = .error e := by
        cases xs.mapM f <;> simp [bind, Except.bind, pure, Except.pure]
      rw [hbind, ih]
      constructor
      · rintro ⟨before, x', after, rfl, hbefore, hx'⟩
        exact ⟨x :: before, x', after, .inr ⟨before, rfl, rfl⟩,
          List.forall_mem_cons.mpr ⟨⟨y, hx⟩, hbefore⟩, hx'⟩
      · rintro ⟨before, x', after, ⟨rfl, heq⟩ | ⟨rest, rfl, rfl⟩, hbefore, hx'⟩
        · obtain ⟨rfl, -⟩ := List.cons_eq_cons.mp heq
          rw [hx] at hx'
          cases hx'
        · exact ⟨rest, x', after, rfl, (List.forall_mem_cons.mp hbefore).2, hx'⟩

end

/-! ## Credentials -/

/-- What the files of a system hold as texts; a file is a text when its bytes are UTF-8. -/
def FileTexts.ofBytes (read : String → Option Bytes) : FileTexts := fun path =>
  (read path).bind Bytes.text?

/-- Where a credential of a configuration comes from. -/
structure CredentialSource where
  text : Option String
  file : Option String

variable {read : String → Option Bytes}

namespace CredentialSource

/-- The credential is given in place, has no file, or has a file that is a text. -/
def Readable (read : String → Option Bytes) (source : CredentialSource) : Prop :=
  source.text.isSome ∨ source.file = none ∨
    ∃ path s, source.file = some path ∧ read path = some (Bytes.ofText s)

/-- The credential that a source gives. -/
inductive Gives (read : String → Option Bytes) : CredentialSource → Option String → Prop where
  | text (s : String) (file : Option String) : Gives read ⟨some s, file⟩ (some s)
  | none : Gives read ⟨none, none⟩ none
  | file {path s : String} (h : read path = some (Bytes.ofText s)) :
      Gives read ⟨none, some path⟩ (some s)

/-- The credential that a source gives is there and not blank. -/
def GivesText (read : String → Option Bytes) (source : CredentialSource) : Prop :=
  ∃ s, source.Gives read (some s) ∧ Text.isBlank s = false

variable {source : CredentialSource} {r r' : Option String}

theorem ofBytes_eq_some_iff {path s : String} :
    FileTexts.ofBytes read path = some s ↔ read path = some (Bytes.ofText s) := by
  unfold FileTexts.ofBytes
  cases read path with
  | none => simp
  | some b => simp [Bytes.text?_eq_some_iff]

theorem credential_eq_ok_iff :
    TlsConfig.credential (.ofBytes read) source.text source.file = .ok r ↔ source.Gives read r := by
  obtain ⟨_ | s, _ | path⟩ := source
  · exact ⟨by rintro ⟨⟩; exact .none, by rintro ⟨⟩; rfl⟩
  · simp only [TlsConfig.credential]
    cases hfile : FileTexts.ofBytes read path with
    | none =>
      refine ⟨nofun, ?_⟩
      rintro ⟨⟩
      next s h => simp [ofBytes_eq_some_iff.mpr h] at hfile
    | some s =>
      refine ⟨by rintro ⟨⟩; exact .file (ofBytes_eq_some_iff.mp hfile), ?_⟩
      rintro ⟨⟩
      next s' h =>
        rw [ofBytes_eq_some_iff.mpr h] at hfile
        rw [Option.some.inj hfile]
  · exact ⟨by rintro ⟨⟩; exact .text s none, by rintro ⟨⟩; rfl⟩
  · exact ⟨by rintro ⟨⟩; exact .text s (some path), by rintro ⟨⟩; rfl⟩

theorem Gives.unique (h : source.Gives read r) (h' : source.Gives read r') : r = r' :=
  Except.ok.inj ((credential_eq_ok_iff.mpr h).symm.trans (credential_eq_ok_iff.mpr h'))

/-- A credential can be had exactly when its source is readable. -/
theorem exists_gives_iff : (∃ r, source.Gives read r) ↔ source.Readable read := by
  constructor
  · rintro ⟨r, h⟩
    cases h with
    | text s file => exact .inl rfl
    | none => exact .inr (.inl rfl)
    | file h => exact .inr (.inr ⟨_, _, rfl, h⟩)
  · obtain ⟨_ | s, _ | path⟩ := source
    · exact fun _ => ⟨none, .none⟩
    · rintro (h | h | ⟨path', s, h, hread⟩)
      · cases h
      · cases h
      · cases h
        exact ⟨some s, .file hread⟩
    · exact fun _ => ⟨some s, .text s none⟩
    · exact fun _ => ⟨some s, .text s (some path)⟩

/-- A credential that cannot be had is reported with the path of its file. -/
theorem credential_eq_error_iff {e : ConfigError} :
    TlsConfig.credential (.ofBytes read) source.text source.file = .error e ↔
      ∃ path, source.file = some path ∧ ¬ source.Readable read ∧ e = .unreadable path := by
  rw [← exists_gives_iff]
  simp only [← credential_eq_ok_iff]
  obtain ⟨_ | s, _ | path⟩ := source
  · simp [TlsConfig.credential]
  · simp only [TlsConfig.credential]
    cases FileTexts.ofBytes read path <;> simp [eq_comm]
  · simp [TlsConfig.credential]
  · simp [TlsConfig.credential]

end CredentialSource

namespace TlsConfig

variable {c : TlsConfig} {s : TlsSettings} {e : ConfigError}

def serverCaSource (c : TlsConfig) : CredentialSource := ⟨c.serverCa, c.serverCaFile⟩

def clientCertSource (c : TlsConfig) : CredentialSource := ⟨c.clientCert, c.clientCertFile⟩

def clientKeySource (c : TlsConfig) : CredentialSource := ⟨c.clientKey, c.clientKeyFile⟩

/-- Where the credentials come from, in the order in which they are asked for. -/
def sources (c : TlsConfig) : List CredentialSource :=
  [c.serverCaSource, c.clientCertSource, c.clientKeySource]

/-- Settings with the switches and credentials of a configuration; mutual TLS is TLS. -/
structure Settles (read : String → Option Bytes) (c : TlsConfig) (s : TlsSettings) : Prop where
  enabled : s.enabled = (c.enabled || c.mutualTls)
  skipVerify : s.skipVerify = c.skipVerify
  mutualTls : s.mutualTls = c.mutualTls
  serverCa : c.serverCaSource.Gives read s.serverCa
  clientCert : c.clientCertSource.Gives read s.clientCert
  clientKey : c.clientKeySource.Gives read s.clientKey

/-- The credential of a source with the files of a system. -/
def resolve (read : String → Option Bytes) (source : CredentialSource) :
    Except ConfigError (Option String) :=
  credential (.ofBytes read) source.text source.file

theorem settings_eq (read : String → Option Bytes) (c : TlsConfig) :
    c.settings (.ofBytes read) = do
      let serverCa ← resolve read c.serverCaSource
      let clientCert ← resolve read c.clientCertSource
      let clientKey ← resolve read c.clientKeySource
      return ⟨c.enabled || c.mutualTls, c.skipVerify, c.mutualTls, serverCa, clientCert, clientKey⟩ :=
  rfl

theorem settings_eq_ok_iff : c.settings (.ofBytes read) = .ok s ↔ c.Settles read s := by
  rw [settings_eq]
  constructor
  · intro h
    cases hca : resolve read c.serverCaSource with
    | error e => simp [hca, bind, Except.bind] at h
    | ok ca =>
      cases hcert : resolve read c.clientCertSource with
      | error e => simp [hca, hcert, bind, Except.bind] at h
      | ok cert =>
        cases hkey : resolve read c.clientKeySource with
        | error e => simp [hca, hcert, hkey, bind, Except.bind] at h
        | ok key =>
          simp only [hca, hcert, hkey, bind, Except.bind] at h
          cases h
          exact ⟨rfl, rfl, rfl, CredentialSource.credential_eq_ok_iff.mp hca,
            CredentialSource.credential_eq_ok_iff.mp hcert,
            CredentialSource.credential_eq_ok_iff.mp hkey⟩
  · obtain ⟨enabled, skipVerify, mutualTls, serverCa, clientCert, clientKey⟩ := s
    rintro ⟨rfl, rfl, rfl, hca, hcert, hkey⟩
    rw [resolve, CredentialSource.credential_eq_ok_iff.mpr hca, resolve,
      CredentialSource.credential_eq_ok_iff.mpr hcert, resolve,
      CredentialSource.credential_eq_ok_iff.mpr hkey]
    rfl

/-- What is reported is the first credential that cannot be had. -/
theorem settings_eq_error_iff :
    c.settings (.ofBytes read) = .error e ↔ ∃ before source after path,
      c.sources = before ++ source :: after ∧ (∀ earlier ∈ before, earlier.Readable read) ∧
        source.file = some path ∧ ¬ source.Readable read ∧ e = .unreadable path := by
  have htraversal : c.settings (.ofBytes read) = .error e ↔
      c.sources.mapM (resolve read) = .error e := by
    simp only [settings_eq, sources, List.mapM_cons, List.mapM_nil]
    cases resolve read c.serverCaSource with
    | error e => simp [bind, Except.bind]
    | ok ca =>
      cases resolve read c.clientCertSource with
      | error e => simp [bind, Except.bind]
      | ok cert => cases resolve read c.clientKeySource <;> simp [bind, Except.bind, pure, Except.pure]
  rw [htraversal, mapM_eq_error_iff]
  simp only [resolve, CredentialSource.credential_eq_ok_iff, CredentialSource.exists_gives_iff,
    CredentialSource.credential_eq_error_iff, exists_and_left]

theorem exists_settles_iff : (∃ s, c.Settles read s) ↔ ∀ source ∈ c.sources, source.Readable read := by
  simp only [sources, List.forall_mem_cons, ← CredentialSource.exists_gives_iff]
  constructor
  · rintro ⟨s, hs⟩
    exact ⟨⟨_, hs.serverCa⟩, ⟨_, hs.clientCert⟩, ⟨_, hs.clientKey⟩, nofun⟩
  · rintro ⟨⟨ca, hca⟩, ⟨cert, hcert⟩, ⟨key, hkey⟩, -⟩
    exact ⟨⟨_, _, _, ca, cert, key⟩, rfl, rfl, rfl, hca, hcert, hkey⟩

end TlsConfig

end CallChain
