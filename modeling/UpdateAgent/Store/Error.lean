import UpdateAgent.File.Error

/-!
# Store errors

Why a document could not be stored or loaded.
-/

namespace UpdateAgent

/-- Why a document could not be stored or loaded. What is wrong with a document is told by a text. -/
inductive StoreError
  | file (error : FileError)
  | document (text : String)
  | invalidPath
  deriving DecidableEq

/-- The error as it is shown. -/
def StoreError.message : StoreError → String
  | file error => error.message
  | document text => text
  | invalidPath => "path must not have any `..` segments"

/-- The error as it is shown where credentials were to be stored or loaded. -/
def StoreError.credentialMessage (error : StoreError) : String :=
  "credential storage failed: " ++ error.message

end UpdateAgent
