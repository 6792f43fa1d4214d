import UpdateAgent.File.Error

/-!
# Fetching firmware

A fetch either stages a whole image or fails; how often it is attempted is set by a retry policy.
-/

namespace UpdateAgent

/-- A staged firmware image. -/
structure Image where
  path : String
  size : Nat
  sha256 : String
  deriving DecidableEq

/-- Why a request got no answer, in the words of the client that made it. -/
structure RequestError where
  message : String
  deriving DecidableEq

/-- There can be no request for the address. -/
def RequestError.refused : RequestError where
  message := "builder error"

/-- No server was reached. -/
def RequestError.unreachable (url : String) : RequestError where
  message := "error sending request for url (" ++ url ++ ")"

/-- Why a fetch failed. -/
inductive FetchError
  | invalidUrl (text : String)
  | request (error : RequestError)
  | status (code : UInt16)
  | incomplete (expected received : Nat)
  | file (error : FileError)
  deriving DecidableEq

/-- The error as it is shown, which is also what a device reports. -/
def FetchError.message : FetchError → String
  | invalidUrl text => "invalid url: " ++ text
  | request error => "request failed: " ++ error.message
  | status code => "server replied with status " ++ toString code.toNat
  | incomplete expected received =>
    "incomplete transfer: expected " ++ toString expected ++ " bytes, received "
      ++ toString received
  | file error => "failed to stage image: " ++ error.message

/-- How often something is attempted, and how many milliseconds lie between attempts. -/
structure RetryPolicy where
  maxAttempts : UInt32 := 5
  interval : Nat := 5000
  deriving DecidableEq

/-- The attempts that a policy allows: a policy of none counts as one. -/
def RetryPolicy.attempts (policy : RetryPolicy) : UInt32 :=
  max policy.maxAttempts 1

end UpdateAgent
