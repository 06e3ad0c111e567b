import CallChain.Client.Builder
import CallChain.Text.Split
import CallChain.Toml.Document
import CallChain.Toml.Record

/-!
# Client configurations

What a client is configured by.  Credentials are given in place or as the path of a file, and the
one in place wins; files are looked up by a function from paths to texts, which knows nothing of a
file that is missing or no text.  `ClientConfig.builder` resolves the credentials first, whatever
the mode, and only then is anything else looked at.
-/

set_option autoImplicit false

namespace CallChain

/-- What can be read from a path, when a text is there. -/
abbrev FileTexts := String → Option String

namespace FileTexts

def none : FileTexts := fun _ => Option.none

/-- A file by the names that lead to it from the working directory, and what it holds. -/
abbrev PlacedFile := List (List Char) × Bytes

/-- Whether names lead to a directory: the working directory or one that a file lies in. -/
def isDirectory (files : List PlacedFile) (place : List (List Char)) : Bool :=
  place.isEmpty || files.any fun f => place.isPrefixOf f.1 && place.length < f.1.length

/-- Goes one piece of a path further, which only a directory allows; nothing above the working
directory is known. -/
def step (isDirectory : List (List Char) → Bool) (place : List (List Char)) (piece : List Char) :
    Option (List (List Char)) :=
  if !isDirectory place then Option.none
  else if piece = [] ∨ piece = ['.'] then some place
  else if piece = ['.', '.'] then if place.isEmpty then Option.none else some place.dropLast
  else some (place ++ [piece])

/-- The names that a relative path leads along. -/
def place? (isDirectory : List (List Char) → Bool) (path : String) : Option (List (List Char)) :=
  if path.isEmpty || path.startsWith "/" then Option.none
  else (Text.splitAll '/' path.toList).foldlM (step isDirectory) []

/-- Writes one more file, over what may be there, and makes the directories on its way. -/
def write (files : List PlacedFile) (f : String × Bytes) : List PlacedFile :=
  match place? (fun _ => true) f.1 with
  | some place => (place, f.2) :: files.filter (·.1 != place)
  | Option.none => files

/-- The texts in files that are written one after the other under their paths. -/
def ofList (files : List (String × Bytes)) : FileTexts := fun path =>
  let placed := files.foldl write []
  (place? (isDirectory placed) path).bind fun place => (placed.lookup place).bind Bytes.text?

end FileTexts

/-- How the connection of a client is secured. -/
structure TlsConfig where
  enabled : Bool
  skipVerify : Bool
  mutualTls : Bool
  serverCa : Option String
  serverCaFile : Option String
  clientCert : Option String
  clientCertFile : Option String
  clientKey : Option String
  clientKeyFile : Option String
  deriving DecidableEq, Repr

namespace TlsConfig

def default : TlsConfig := ⟨false, false, false, none, none, none, none, none, none⟩

/-- A credential given in place, or read from its file. -/
def credential (files : FileTexts) (text file : Option String) :
    Except ConfigError (Option String) :=
  match text, file with
  | some s, _ => .ok (some s)
  | none, none => .ok none
  | none, some path =>
    match files path with
    | some s => .ok (some s)
    | none => .error (.unreadable path)

/-- The settings with all credentials resolved; mutual TLS is TLS. -/
def settings (files : FileTexts) (c : TlsConfig) : Except ConfigError TlsSettings := do
  let serverCa ← credential files c.serverCa c.serverCaFile
  let clientCert ← credential files c.clientCert c.clientCertFile
  let clientKey ← credential files c.clientKey c.clientKeyFile
  return ⟨c.enabled || c.mutualTls, c.skipVerify, c.mutualTls, serverCa, clientCert, clientKey⟩

def ofToml? (t : Toml) : Option TlsConfig :=
  if t.isRecord then do
    let flag (place : Nat) (name : String) := t.field? place name Toml.flag? false
    let text (place : Nat) (name : String) :=
      t.field? place name (fun v => v.text?.map some) none
    return ⟨← flag 0 "enabled", ← flag 1 "skip_verify", ← flag 2 "mutual",
      ← text 3 "server_ca", ← text 4 "server_ca_file", ← text 5 "client_cert",
      ← text 6 "client_cert_file", ← text 7 "client_key", ← text 8 "client_key_file"⟩
  else none

def toJson (c : TlsConfig) : Json :=
  let text := Json.orNull Json.string
  .ofEntries
    [("enabled", .bool c.enabled), ("skip_verify", .bool c.skipVerify),
      ("mutual", .bool c.mutualTls), ("server_ca", text c.serverCa),
      ("server_ca_file", text c.serverCaFile), ("client_cert", text c.clientCert),
      ("client_cert_file", text c.clientCertFile), ("client_key", text c.clientKey),
      ("client_key_file", text c.clientKeyFile)]

end TlsConfig

/-- What a client is configured by. -/
structure ClientConfig where
  /-- The base address. -/
  address : String
  /-- The time a call may take in milliseconds, zero for no limit. -/
  timeoutMillis : Nat
  /-- How the connection is secured. -/
  tls : TlsConfig
  /-- The names of the stages, outermost first. -/
  stageNames : List String
  deriving DecidableEq, Repr

namespace ClientConfig

def ofToml? (t : Toml) : Option ClientConfig :=
  if t.isRecord then do
    return ⟨← t.field? 0 "address" Toml.text? "", ← t.field? 1 "timeout_ms" Toml.natural? 0,
      ← t.field? 2 "tls" TlsConfig.ofToml? .default,
      ← t.field? 3 "interceptors" Toml.texts? []⟩
  else none

def parse (s : String) : Except ConfigError ClientConfig :=
  match (Toml.parse? s).bind ofToml? with
  | some c => .ok c
  | none => .error .malformed

def load (files : FileTexts) (path : String) : Except ConfigError ClientConfig :=
  match files path with
  | some s => parse s
  | none => .error (.unreadable path)

/-- The time a call may take, if it is limited. -/
def timeout (c : ClientConfig) : Option Duration :=
  if c.timeoutMillis = 0 then none else some (.ofMillis c.timeoutMillis)

/-- The builder of the client that is configured. -/
def builder (files : FileTexts) (c : ClientConfig) : Except ConfigError ClientBuilder := do
  let tls ← c.tls.settings files
  return { ClientBuilder.new c.address with
    tls := tls, stageNames := c.stageNames, timeout := c.timeout }

def toJson (c : ClientConfig) : Json :=
  .ofEntries
    [("address", .string c.address), ("timeout_ms", .nat c.timeoutMillis), ("tls", c.tls.toJson),
      ("interceptors", .texts c.stageNames)]

end ClientConfig

end CallChain
