import UpdateAgent.Proofs.Credentials
import UpdateAgent.Proofs.Session.Basic
import UpdateAgent.Proofs.Message.Topic

/-!
# What a session did

Views of a trace: the messages that were heard (`heard`), what was published and fetched in the
order in which it happened (`deeds`), the credentials that were put into the store (`puts`), and the
states that the machine passed through (`states`).
-/

namespace UpdateAgent

open Program

deriving instance DecidableEq for WorldCall

/-- A message that was published, or the start or the end of a fetch. -/
inductive Deed
  | published (topic : String) (payload : Bytes)
  | fetching (url : String)
  | fetched (url : String) (result : Except FetchError Image)

namespace Trace

/-- The message that came in with a reply. -/
def message? : Exchange World → Option Message
  | ⟨.receive _, .ok message⟩ => some message
  | ⟨.receiveBy .., .ok (some message)⟩ => some message
  | ⟨.turn .., .heard message⟩ => some message
  | _ => none

/-- The messages that were heard, on whatever connection. -/
def heard (trace : List (Exchange World)) : List Message :=
  trace.filterMap message?

/-- What a call did, whether or not the bus took what was published. -/
def deed? : Exchange World → Option Deed
  | ⟨.publish _ topic payload, _⟩ => some (.published topic payload)
  | ⟨.start (.fetch url), _⟩ => some (.fetching url)
  | ⟨.turn (.fetch url) _, .over result⟩ => some (.fetched url result)
  | _ => none

/-- What was published and fetched, in order. -/
def deeds (trace : List (Exchange World)) : List Deed :=
  trace.filterMap deed?

/-- The addresses of the fetches among some deeds. -/
def fetches (done : List Deed) : List String :=
  done.filterMap fun
    | .fetching url => some url
    | _ => none

/-- How the fetches among some deeds went. -/
def fetchResults (done : List Deed) : List (Except FetchError Image) :=
  done.filterMap fun
    | .fetched _ result => some result
    | _ => none

/-- The credentials that a call put into the store, and how that went. -/
def put? : Exchange World → Option (Credentials × Except StoreError Unit)
  | ⟨.store credentials, result⟩ => some (credentials, result)
  | _ => none

/-- What was put into the store, in order. -/
def puts (trace : List (Exchange World)) : List (Credentials × Except StoreError Unit) :=
  trace.filterMap put?

/-- The state that a call told the watchers of the machine. -/
def announced? : Exchange World → Option Machine.State
  | ⟨.announce state, _⟩ => some state
  | _ => none

/-- The states that the machine passed through, in order. -/
def states (trace : List (Exchange World)) : List Machine.State :=
  trace.filterMap announced?

/-- A message that comes in is nothing that was done. -/
theorem views_of_message {e : Exchange World} {message : Message}
    (h : message? e = some message) : deed? e = none ∧ put? e = none ∧ announced? e = none := by
  unfold message? at h
  split at h
  · exact ⟨rfl, rfl, rfl⟩
  · exact ⟨rfl, rfl, rfl⟩
  · rename_i task _ _
    cases task <;> exact ⟨rfl, rfl, rfl⟩
  · cases h

/-- What was published was published by a call. -/
theorem publish_mem {trace : List (Exchange World)} {topic : String} {payload : Bytes}
    (h : .published topic payload ∈ deeds trace) :
    ∃ link r, ⟨.publish link topic payload, r⟩ ∈ trace := by
  obtain ⟨e, he, hdeed⟩ := List.mem_filterMap.mp h
  unfold deed? at hdeed
  split at hdeed
  · cases hdeed
    exact ⟨_, _, he⟩
  · cases hdeed
  · cases hdeed
  · cases hdeed

@[simp]
theorem heard_append (first rest : List (Exchange World)) :
    heard (first ++ rest) = heard first ++ heard rest :=
  List.filterMap_append

@[simp]
theorem deeds_append (first rest : List (Exchange World)) :
    deeds (first ++ rest) = deeds first ++ deeds rest :=
  List.filterMap_append

@[simp]
theorem puts_append (first rest : List (Exchange World)) :
    puts (first ++ rest) = puts first ++ puts rest :=
  List.filterMap_append

@[simp]
theorem states_append (first rest : List (Exchange World)) :
    states (first ++ rest) = states first ++ states rest :=
  List.filterMap_append

theorem puts_append_of_quiet {first : List (Exchange World)} (h : puts first = [])
    (rest : List (Exchange World)) : puts (first ++ rest) = puts rest := by
  rw [puts_append, h, List.nil_append]

/-- A call other than a put that comes off adds nothing to what is stored. -/
theorem stored_puts_concat {e : Exchange World} (h : ∀ c, e ≠ ⟨.store c, .ok ()⟩)
    (trace : List (Exchange World)) :
    Credentials.stored (puts (trace ++ [e])) = Credentials.stored (puts trace) := by
  have hlast : Credentials.stored (puts [e]) = [] := by
    obtain ⟨call, r⟩ := e
    cases call with
    | store c =>
      cases r with
      | ok => exact absurd rfl (h c)
      | error error => rfl
    | _ => rfl
  rw [puts_append, Credentials.stored_append, hlast, List.append_nil]

theorem puts_of_no_store {trace : List (Exchange World)}
    (h : ∀ c r, ⟨.store c, r⟩ ∉ trace) : puts trace = [] := by
  rw [puts, List.filterMap_eq_nil_iff]
  rintro ⟨call, r⟩ he
  cases call with
  | store c => exact absurd he (h c r)
  | _ => rfl

/-- If nothing is stored any more once a put came off, at most one does. -/
theorem length_stored_le_one {trace : List (Exchange World)}
    (h : ∀ before c after, trace = before ++ ⟨.store c, .ok ()⟩ :: after →
      ∀ c' r, ⟨.store c', r⟩ ∉ after) : (Credentials.stored (puts trace)).length ≤ 1 := by
  induction trace with
  | nil => exact Nat.zero_le 1
  | cons e trace ih =>
    have hrest := ih fun before c after htrace => h (e :: before) c after (by rw [htrace]; rfl)
    obtain ⟨call, r⟩ := e
    cases call with
    | store c =>
      cases r with
      | ok =>
        -- This is the one.
        have hquiet : puts trace = [] := puts_of_no_store (h [] c trace rfl)
        show (Credentials.stored ((c, .ok ()) :: puts trace)).length ≤ 1
        rw [hquiet]
        exact Nat.le_refl 1
      | error error => exact hrest
    | _ => exact hrest

@[simp]
theorem fetches_nil : fetches [] = [] :=
  rfl

@[simp]
theorem fetchResults_nil : fetchResults [] = [] :=
  rfl

@[simp]
theorem fetches_append (first rest : List Deed) :
    fetches (first ++ rest) = fetches first ++ fetches rest :=
  List.filterMap_append

@[simp]
theorem fetchResults_append (first rest : List Deed) :
    fetchResults (first ++ rest) = fetchResults first ++ fetchResults rest :=
  List.filterMap_append

@[simp]
theorem heard_announcement (t : Machine.Transition) : heard t.announcement = [] := by
  cases t <;> rfl

@[simp]
theorem deeds_announcement (t : Machine.Transition) : deeds t.announcement = [] := by
  cases t <;> rfl

@[simp]
theorem puts_announcement (t : Machine.Transition) : puts t.announcement = [] := by
  cases t <;> rfl

end Trace

end UpdateAgent
