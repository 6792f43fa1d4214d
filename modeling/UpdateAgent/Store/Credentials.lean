import UpdateAgent.Store.Basic
import UpdateAgent.Device

/-!
# The credential store

The credentials of each device are one document in a collection of its own.
-/

namespace UpdateAgent

/-- Where the credentials of a device are kept. -/
structure CredentialStore where
  store : Store
  owner : String

namespace CredentialStore

/-- The credentials of the device with an address. Every spelling of the address leads to the same
document. -/
def ofDevice (store : Store) (mac : MacAddress) : CredentialStore where
  store
  owner := mac.compact

/-- The collection that the document is in. -/
def collection (s : CredentialStore) : Path :=
  ⟨'/' :: s.owner.toList⟩

/-- The key of the document. -/
def key : String := "credentials"

/-- The stored credentials. -/
def get (s : CredentialStore) : Program Disk (Except StoreError (Option Credentials)) :=
  s.store.read Credentials.ofDocument? s.collection key

/-- Replaces the stored credentials. -/
def put (s : CredentialStore) (suffix : List Char) (credentials : Credentials) :
    Program Disk (Except StoreError Unit) :=
  s.store.write suffix s.collection key credentials.document

end CredentialStore

end UpdateAgent
