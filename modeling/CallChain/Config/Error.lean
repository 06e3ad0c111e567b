/-!
# Configuration errors

Why a client could not be configured.  A file that cannot be read is known by its path; what exactly
the system said is not part of the error here.
-/

set_option autoImplicit false

namespace CallChain

/-- Why a client could not be configured. -/
inductive ConfigError where
  | emptyAddress
  | missingServerCa
  | missingClientIdentity
  | missingMutualServerCa
  | duplicateStage (name : String)
  | unreadable (path : String)
  /-- A configuration text is malformed or has a field of the wrong type. -/
  | malformed
  deriving DecidableEq, Repr

namespace ConfigError

def message : ConfigError → String
  | .emptyAddress => "client address is empty"
  | .missingServerCa => "a server CA is required when TLS is enabled without skip-verify"
  | .missingClientIdentity => "a client certificate and key are required for mutual TLS"
  | .missingMutualServerCa => "a server CA is required for mutual TLS"
  | .duplicateStage name => "interceptor " ++ name ++ " is already registered"
  | .unreadable path => "failed to read " ++ path
  | .malformed => "failed to parse configuration"

end ConfigError

end CallChain
