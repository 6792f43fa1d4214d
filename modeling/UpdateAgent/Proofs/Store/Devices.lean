import UpdateAgent.Proofs.Mac
import UpdateAgent.Proofs.Store.Confined
import UpdateAgent.Proofs.Store.PowerCut

/-!
# Devices of one store

The credentials of each device are in a directory of their own, named for its address
(`documentPath_ofDevice`). What is done for one device, a directory made on the way (`shows_step`)
or a document replaced (`shows_replacing`), leaves what is found for another one as it was
(`put_apart`), and however its address is spelled a device finds what was stored for it
(`devices_apart`). Only where the root of the store is missing and could not be made anyway does a
directory on the way to it show (`devices_apart_unclear`).
-/

namespace UpdateAgent.CredentialStore

open UpdateAgent.Path Program Disk

variable {store : Store} {mac a b : MacAddress} {t t' : Tree} {trace : List (Exchange Disk)}
  {pre suffix : List Char} {new : Credentials} {seen : Except FileError Bytes}

/-! ## The directory of a device -/

/-- The name of the directory that the credentials of a device are in. -/
def directoryName (mac : MacAddress) : Name :=
  mac.compact.toList

theorem length_directoryName (mac : MacAddress) : (directoryName mac).length = 12 := by
  rw [directoryName, MacAddress.compact, String.toList_ofList, Hex.length_ofBytes, mac.six]

theorem isName_directoryName (mac : MacAddress) : IsName (directoryName mac) := by
  have hslash : '/' ∉ directoryName mac := by
    rw [directoryName, MacAddress.compact, String.toList_ofList]
    exact Hex.no_slash_ofBytes mac.octets
  have hlength : 2 < ([] ++ directoryName mac).length := by
    rw [List.nil_append, length_directoryName]
    omega
  exact IsName.append hlength List.not_mem_nil hslash

theorem directoryName_ne (h : a ≠ b) : directoryName a ≠ directoryName b :=
  fun heq => h (MacAddress.compact_injective (String.toList_inj.mp heq))

/-- The way to the document of a device: to the root of the store, and from there through the
directory of the device. -/
theorem documentPath_ofDevice (store : Store) (mac : MacAddress) :
    ∃ pre, IsPrefix pre ∧
      store.documentPath (ofDevice store mac).collection key = .ok ⟨pre ++ fileName⟩ ∧
      names pre = names store.root.chars ++ [directoryName mac] := by
  have hname := isName_directoryName mac
  have hcollection : (ofDevice store mac).collection = ⟨'/' :: directoryName mac⟩ := rfl
  have hbelow := belowRoot_name hname
  have hparts : seenFromRoot (parts ⟨'/' :: directoryName mac⟩) = [.name (directoryName mac)] := by
    rw [← parts_belowRoot, hbelow, parts_name hname]
  have haddress : Store.IsAddress (ofDevice store mac).collection key := by
    refine ⟨fun part hpart => ?_, by constructor <;> decide⟩
    rw [hcollection, hparts] at hpart
    exact ⟨_, List.mem_singleton.mp hpart⟩
  obtain ⟨-, path, hpath⟩ := (Store.documentPath_dichotomy store _ _).resolve_right
    fun h => h.1 haddress
  obtain ⟨pre, hpre, -, rfl, hnames⟩ := Store.documentPath_way hpath
  have hending : Store.ending (Store.keyStem key) = fileName := by
    decide
  rw [hending] at hpath
  rw [hcollection, hbelow, names_name hname] at hnames
  exact ⟨pre, hpre, hpath, hnames⟩

/-! ## Beside another device -/

theorem isClear_directoryName (mac : MacAddress) :
    ∀ n ∈ [directoryName mac, fileName],
      n ≠ ['.', '.'] ∧ (Utf8.encode n).length ≤ Tree.nameLimit := by
  intro n hn
  rcases List.mem_pair.mp hn with rfl | rfl
  · have hlength := Utf8.length_encode_le (directoryName mac)
    rw [length_directoryName] at hlength
    exact ⟨(isName_directoryName mac).ne_dots, hlength.trans (by decide)⟩
  · exact ⟨isName_fileName.ne_dots, by decide⟩

section Apart

variable (hne : a ≠ b) (hpre : IsPrefix pre)
  (hnames : names pre = names store.root.chars ++ [directoryName b])

include hpre hnames

/-- Where the directory above is there and the directory of the device is as it was, what a read of
its document finds stays. -/
theorem shows_of_same {d : Place} (h : Shows t pre fileName seen) (hvalid : t'.Valid)
    (hwalk : t.walk (names store.root.chars) = .ok d) (hkeeps : t.Keeps t')
    (hsame : ∀ rest, t'.entry? (d ++ directoryName b :: rest) =
      t.entry? (d ++ directoryName b :: rest)) : Shows t' pre fileName seen := by
  refine ⟨hvalid, ?_, fun _ => ?_⟩
  · rw [← h.read]
    exact Tree.read_of_same hpre isName_fileName.isPiece (isName_directoryName b) hnames hwalk
      hkeeps hsame
  · rw [hnames, List.append_assoc]
    exact (Tree.clear_of_open (Tree.walk_ok_of_keeps hkeeps hwalk)).append
      (isClear_directoryName b)

include hne

/-- A directory that is made on the way to the document of another device does not change what is
found. -/
theorem shows_step {e : Exchange Disk} (h : Shows t pre fileName seen)
    (hcall : OnWay (names store.root.chars ++ [directoryName a]) e.call) (hstep : Step t e t') :
    Shows t' pre fileName seen := by
  obtain ⟨call, reply⟩ := e
  match call, reply, hcall, hstep with
  | .isDirectory path, reply, _, hstep =>
    rw [step_isDirectory hstep]
    exact h
  | .makeDirectory path, reply, ⟨rest, hrest⟩, hstep =>
    rcases List.eq_nil_or_concat' rest with rfl | ⟨rest, last, rfl⟩
    · -- It is the directory of the other device.
      rcases step_makeDirectory hstep with ⟨_, -, rfl⟩ | ⟨-, hmade⟩
      · exact h
      · have hvalid := hstep.valid h.valid
        obtain ⟨d, n, hleads, hentry, rfl⟩ := Tree.makeDirectory_ok hmade
        obtain ⟨before, hbefore, hwalk, -⟩ := hleads.walk
        rw [List.append_nil, hbefore] at hrest
        obtain ⟨rfl, hn⟩ := List.append_inj' hrest rfl
        obtain rfl := List.singleton_inj.mp hn
        refine shows_of_same hpre hnames h hvalid hwalk (Tree.keeps_insert _ (by simp [hentry]))
          fun rest => Tree.entry?_insert_of_ne fun heq => ?_
        exact directoryName_ne hne (List.cons_eq_cons.mp (List.append_cancel_left heq)).1.symm
    · -- It is on the way to both.
      rw [← List.append_assoc] at hrest
      obtain ⟨hroot, -⟩ := List.append_inj' hrest rfl
      have hway : OnWay (names pre) (.makeDirectory path) :=
        ⟨rest ++ [directoryName b], by rw [hnames, hroot, List.append_assoc]⟩
      exact h.step hpre isName_fileName.isPiece hway hstep

theorem shows_steps (h : Shows t pre fileName seen)
    (hcalls : ∀ e ∈ trace, OnWay (names store.root.chars ++ [directoryName a]) e.call)
    (hsteps : Steps t trace t') : Shows t' pre fileName seen := by
  induction hsteps with
  | nil t => exact h
  | cons this _ ih =>
    exact ih (shows_step hne hpre hnames h (hcalls _ List.mem_cons_self) this)
      fun e he => hcalls e (List.mem_cons_of_mem _ he)

/-- Nor does the document of the other device, while it is replaced. -/
theorem shows_replacing {pre' : List Char} {m n : Name} {content : Bytes} {isMoved : Bool}
    (h : Shows t pre fileName seen)
    (hnames' : names pre' = names store.root.chars ++ [directoryName a])
    (hreplacing : Replacing t pre' m n content isMoved t') (hvalid : t'.Valid) :
    Shows t' pre fileName seen := by
  have hkeeps := hreplacing.keeps
  rcases hreplacing.same_or with rfl | ⟨d, hwalk, hsame⟩
  · exact h
  · rw [hnames', Tree.walk_concat] at hwalk
    rcases hroot : t.walk (names store.root.chars) with _ | x
    · rw [hroot] at hwalk
      cases hwalk
    · rw [hroot] at hwalk
      have hname := isName_directoryName a
      obtain ⟨hlookup, -⟩ := (Tree.enter_name_ok_iff hname.ne_dot hname.ne_dots).mp hwalk
      obtain ⟨-, rfl⟩ := Tree.lookup_eq_ok_iff.mp hlookup
      refine shows_of_same hpre hnames h hvalid hroot hkeeps fun rest => hsame _ fun k heq => ?_
      rw [List.append_assoc] at heq
      exact directoryName_ne hne (List.cons_eq_cons.mp (List.append_cancel_left heq)).1.symm

end Apart

/-- At every point of a `put` for one device, what is found for another one is what was found
before. If that was nothing, no name behind the first directory that was missing on the way to the
root of the store leads back up or is too long. -/
theorem put_apart (hne : a ≠ b) (hsuffix : '/' ∉ suffix) (hvalid : t.Valid)
    (hclear : Disk.run none (ofDevice store b).get t = (some (.ok none), t) →
      t.Clear (names store.root.chars))
    (hbegan : Began ((ofDevice store a).put suffix new) trace) (hsteps : Steps t trace t') :
    ∃ result, Disk.run none (ofDevice store b).get t = (some result, t) ∧
      Disk.run none (ofDevice store b).get t' = (some result, t') := by
  obtain ⟨pre, hpre, hpath, hnames⟩ := documentPath_ofDevice store a
  obtain ⟨pre', hpre', hpath', hnames'⟩ := documentPath_ofDevice store b
  have hshows : Shows t pre' fileName (t.read ⟨pre' ++ fileName⟩) := by
    refine ⟨hvalid, rfl, fun hread => ?_⟩
    rw [hnames', List.append_assoc]
    refine (hclear ?_).append (isClear_directoryName b)
    rw [run_get hpath', hread]
    rfl
  have hbeside := beside_document hpre hsuffix
  obtain ⟨first, last, rfl, hway, hlast⟩ :=
    Store.began_write hpre isName_fileName.isPiece hpath hbegan
  obtain ⟨t₁, hsteps₁, hsteps₂⟩ := steps_append hsteps
  rw [hnames] at hway
  have hshows₁ := shows_steps hne hpre' hnames' hshows hway hsteps₁
  have hreplacing := replace_cut hpre hbeside.staged hbeside.name hbeside.ne hshows₁.valid
    hbeside.staging hlast hsteps₂
  have hshows₂ := shows_replacing hne hpre' hnames' hshows₁ hnames hreplacing
    (hsteps₂.valid hshows₁.valid)
  refine ⟨_, run_get hpath' t, ?_⟩
  rw [run_get hpath' t', hshows₂.read]

/-! ## The identity of a device -/

/-- The client id that is made from an address tells the address. -/
theorem clientId_ne (h : a ≠ b) (options : Options) (hnone : options.bootstrapClientId = none) :
    (Agent.cycleConfig options a).registration.bootstrap.clientId ≠
      (Agent.cycleConfig options b).registration.bootstrap.clientId := by
  intro heq
  simp only [Agent.cycleConfig, Agent.bootstrap, hnone, Option.getD_none] at heq
  have hchars := congrArg String.toList heq
  simp only [String.toList_append] at hchars
  exact directoryName_ne h (List.append_cancel_left hchars)

/-- What was stored is found. -/
theorem get_of_put (hsuffix : '/' ∉ suffix) (hvalid : t.Valid)
    (h : Runs ((ofDevice store mac).put suffix new) trace (.ok ())) (hsteps : Steps t trace t') :
    Disk.run none (ofDevice store mac).get t' = (some (.ok (some new)), t') := by
  obtain ⟨pre, hpre, hpath, -⟩ := documentPath_ofDevice store mac
  rw [run_get hpath, read_put hpre hpath hsuffix hvalid h hsteps, found_document]

/-- Devices with different addresses are kept apart: at every point of a `put` for the one, what is
found for the other is what was found before, where one that had nothing had a clear way to the root
of the store, and unless a client id is given they register with different ones. A device is known
by every spelling of its address: texts that spell it alike are read as one address, with one
directory and one client id, and what was stored under the one spelling is found under the other. -/
theorem devices_apart (store : Store) (a : MacAddress) :
    (∀ b, a ≠ b →
      (∀ suffix new t t' trace, '/' ∉ suffix → t.Valid →
        (Disk.run none (ofDevice store b).get t = (some (.ok none), t) →
          t.Clear (names store.root.chars)) →
        Began ((ofDevice store a).put suffix new) trace → Steps t trace t' →
        ∃ result, Disk.run none (ofDevice store b).get t = (some result, t) ∧
          Disk.run none (ofDevice store b).get t' = (some result, t')) ∧
      ∀ options : Options, options.bootstrapClientId = none →
        (Agent.cycleConfig options a).registration.bootstrap.clientId ≠
          (Agent.cycleConfig options b).registration.bootstrap.clientId) ∧
    ∀ s s', MacAddress.parse s = .ok a → MacAddress.Alike s s' →
      ∃ a', MacAddress.parse s' = .ok a' ∧
        (ofDevice store a').collection = (ofDevice store a).collection ∧
        (∀ options, (Agent.cycleConfig options a').registration.bootstrap.clientId =
          (Agent.cycleConfig options a).registration.bootstrap.clientId) ∧
        ∀ suffix new t t' trace, '/' ∉ suffix → t.Valid →
          Runs ((ofDevice store a).put suffix new) trace (.ok ()) → Steps t trace t' →
          Disk.run none (ofDevice store a').get t' = (some (.ok (some new)), t') := by
  refine ⟨fun b hne => ⟨?_, clientId_ne hne⟩, ?_⟩
  · intro suffix new t t' trace hsuffix hvalid hclear hbegan hsteps
    exact put_apart hne hsuffix hvalid hclear hbegan hsteps
  · intro s s' hparse halike
    refine ⟨a, (MacAddress.parse_iff_alike hparse).mpr halike, rfl, fun _ => rfl, ?_⟩
    intro suffix new t t' trace hsuffix hvalid hruns hsteps
    exact get_of_put hsuffix hvalid hruns hsteps

/-- The address of a device, and that of another one. -/
def firstDevice : MacAddress where
  octets := [2, 0, 0, 0, 0, 16]
  six := rfl

def secondDevice : MacAddress where
  octets := [2, 0, 0, 0, 0, 32]
  six := rfl

/-- Options without a client id. -/
def anonymous : Options where
  brokerUri := "mqtt://broker"
  bootstrapClientId := none
  bootstrapUsername := none
  bootstrapPassword := none
  macAddress := none
  interface := "eth0"
  firmwareVersion := "1"
  keepAlive := 30
  registrationTimeout := 30
  maxAttempts := 1
  retryInterval := 5
  downloadTimeout := 60
  certificate := none
  firmwareDirectory := none
  restartDelay := 0
  restartMode := .exit

/-- What storing credentials for the first device does on a disk on which nothing is. -/
def firstPut (store : Store) : Option (Except StoreError Unit) × (Tree × List (Exchange Disk)) :=
  ((ofDevice store firstDevice).put "abcdef".toList rehearsalCredentials).run keeping.recorded 1
    ({}, [])

theorem runs_firstPut {store : Store} {result : Except StoreError Unit}
    (h : (firstPut store).1 = some result) :
    Runs ((ofDevice store firstDevice).put "abcdef".toList rehearsalCredentials)
        (firstPut store).2.2 result ∧
      Steps {} (firstPut store).2.2 (firstPut store).2.1 := by
  unfold firstPut at h ⊢
  obtain ⟨hruns, hanswered⟩ := runs_of_run h
  exact ⟨hruns, steps_of_answered hanswered⟩

/-- The first device finds its credentials under another spelling of its address, and the second
one finds nothing. -/
theorem devices_apart_rehearsed :
    ∃ trace t', Runs ((ofDevice rehearsal.store firstDevice).put "abcdef".toList
        rehearsalCredentials) trace (.ok ()) ∧ Steps {} trace t' ∧
      (∃ result, Disk.run none (ofDevice rehearsal.store secondDevice).get {} =
          (some result, {}) ∧
        Disk.run none (ofDevice rehearsal.store secondDevice).get t' = (some result, t')) ∧
      (∃ a', MacAddress.parse " 02-00-00-00-00-10\n" = .ok a' ∧
        Disk.run none (ofDevice rehearsal.store a').get t' =
          (some (.ok (some rehearsalCredentials)), t')) ∧
      (Agent.cycleConfig anonymous firstDevice).registration.bootstrap.clientId ≠
        (Agent.cycleConfig anonymous secondDevice).registration.bootstrap.clientId := by
  have hne : firstDevice ≠ secondDevice := by
    decide
  have hresult : (firstPut rehearsal.store).1 = some (.ok ()) := by
    decide +kernel
  have hparse : MacAddress.parse "02:00:00:00:00:10" = .ok firstDevice := by
    decide +kernel
  have halike : MacAddress.Alike "02:00:00:00:00:10" " 02-00-00-00-00-10\n" := by
    unfold MacAddress.Alike
    decide +kernel
  obtain ⟨hruns, hsteps⟩ := runs_firstPut hresult
  obtain ⟨hapart, hspelled⟩ := devices_apart rehearsal.store firstDevice
  obtain ⟨hput, hclientId⟩ := hapart secondDevice hne
  obtain ⟨a', ha', -, -, hfound⟩ := hspelled _ _ hparse halike
  refine ⟨_, _, hruns, hsteps, ?_, ⟨a', ha', ?_⟩, hclientId anonymous rfl⟩
  · exact hput _ _ _ _ _ (by decide) Tree.valid_empty
      (fun _ => Tree.clear_of_forall (by decide)) hruns.began hsteps
  · exact hfound _ _ _ _ _ (by decide) Tree.valid_empty hruns hsteps

/-- A store whose root no directory can be, since its name is too long. -/
def overlong : Store where
  root := ⟨'/' :: 'a' :: '/' :: List.replicate 256 'x'⟩

/-- A directory that is made on the way to the root of the store turns a document of another device
that is missing into one that cannot be read. -/
theorem devices_apart_unclear :
    ¬ ∀ (store : Store) (a b : MacAddress) (suffix : List Char) (new : Credentials) (t t' : Tree)
        (trace : List (Exchange Disk)) (result : Except StoreError (Option Credentials)),
      a ≠ b → '/' ∉ suffix → t.Valid → Began ((ofDevice store a).put suffix new) trace →
      Steps t trace t' → Disk.run none (ofDevice store b).get t = (some result, t) →
      Disk.run none (ofDevice store b).get t' = (some result, t') := by
  intro h
  have hpath : overlong.documentPath (ofDevice overlong secondDevice).collection key =
      .ok ⟨overlong.root.chars ++ "/020000000020/credentials.json".toList⟩ := by
    decide +kernel
  have hresult : (firstPut overlong).1 = some (.error (.file .nameTooLong)) := by
    decide +kernel
  have hbefore : (ofDevice overlong secondDevice).found (Tree.read {}
      ⟨overlong.root.chars ++ "/020000000020/credentials.json".toList⟩) = .ok none := by
    decide +kernel
  have hafter : (ofDevice overlong secondDevice).found ((firstPut overlong).2.1.read
      ⟨overlong.root.chars ++ "/020000000020/credentials.json".toList⟩) =
        .error (.file .nameTooLong) := by
    decide +kernel
  obtain ⟨hruns, hsteps⟩ := runs_firstPut hresult
  have hget := h overlong firstDevice secondDevice _ _ _ _ _ (.ok none) (by decide) (by decide)
    Tree.valid_empty hruns.began hsteps (by rw [run_get hpath, hbefore])
  rw [run_get hpath, hafter] at hget
  cases hget

end UpdateAgent.CredentialStore
