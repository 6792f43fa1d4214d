import UpdateAgent.Proofs.File.Missing
import UpdateAgent.Proofs.Store.Devices

/-!
# What a device finds

Whatever the tree and whatever is in the document, a device finds nothing, credentials or an error,
and which one is told by the tree alone (`get_verdict`): nothing if something is missing on the way
(`Lacks`), credentials if the document gives them (`Holds`). A name that is too long is not missing
(`get_verdict_overlong`).
-/

namespace UpdateAgent.CredentialStore

open UpdateAgent.Path Program Disk

variable {s : CredentialStore} {t : Tree} {path : Path} {content : Except FileError Bytes}

theorem found_eq_none_iff : s.found content = .ok none ↔ content = .error .notFound := by
  constructor
  · intro h
    rcases Store.found_eq_ok h with ⟨hcontent, -⟩ | ⟨_, -, hsome⟩
    · exact hcontent
    · cases hsome
  · rintro rfl
    rfl

/-- Credentials are found in a file with a text that gives them. -/
theorem found_eq_some_iff {c : Credentials} : s.found content = .ok (some c) ↔
    ∃ text, content = .ok (Utf8.encode text) ∧ Credentials.Given (Utf8.encode text) c := by
  constructor
  · intro h
    rcases Store.found_eq_ok h with ⟨-, hnone⟩ | ⟨bytes, rfl, -⟩
    · cases hnone
    · rw [found, Store.found] at h
      rcases htext : Utf8.decode? bytes with _ | text
      · simp [htext] at h
      · obtain rfl := Utf8.decode?_eq_some_iff.mp htext
        refine ⟨text, rfl, Credentials.ofDocument?_eq_some_iff.mp ?_⟩
        rcases hdocument : Credentials.ofDocument? (Utf8.encode text) with _ | c'
        · simp [htext, hdocument] at h
        · simpa [htext, hdocument] using h
  · rintro ⟨text, rfl, hgiven⟩
    have hdocument := Credentials.ofDocument?_eq_some_iff.mpr hgiven
    simp [found, Store.found, Utf8.decode?_encode, hdocument]

/-! ## What a device finds -/

/-- The path can be given to the file system, and something is missing on its way. -/
def Lacks (path : Path) (t : Tree) : Prop :=
  Tree.check path = .ok () ∧ t.Missing (names path.chars)

/-- The path can be given to the file system, its way leads to a directory, and its last name is
that of a file in there, with a text that gives these credentials. -/
def Holds (path : Path) (t : Tree) (c : Credentials) : Prop :=
  Tree.check path = .ok () ∧ ∃ before n d text, names path.chars = before ++ [n] ∧
    t.walk before = .ok d ∧ t.entry? (d ++ [n]) = some (.file (Utf8.encode text)) ∧
    Credentials.Given (Utf8.encode text) c

section Prefix

variable {pre : List Char} (hpre : IsPrefix pre)

include hpre

theorem found_iff_lacks : s.found (t.read ⟨pre ++ fileName⟩) = .ok none ↔
    Lacks ⟨pre ++ fileName⟩ t := by
  rw [found_eq_none_iff, Tree.read_eq_notFound_iff hpre isName_fileName, Lacks,
    names_document hpre]

theorem found_iff_holds {c : Credentials} :
    s.found (t.read ⟨pre ++ fileName⟩) = .ok (some c) ↔ Holds ⟨pre ++ fileName⟩ t c := by
  simp only [found_eq_some_iff, Tree.read_eq_ok_iff hpre isName_fileName, Holds,
    names_document hpre]
  constructor
  · rintro ⟨text, ⟨d, hreaches, hentry⟩, hgiven⟩
    exact ⟨hreaches.check, _, _, d, text, rfl, hreaches.walk, hentry, hgiven⟩
  · rintro ⟨hcheck, before, n, d, text, hsplit, hwalk, hentry, hgiven⟩
    obtain ⟨rfl, hn⟩ := List.append_inj' hsplit rfl
    obtain rfl := List.singleton_inj.mp hn
    exact ⟨text, ⟨d, ⟨hcheck, hwalk, Tree.lookup_eq_ok_iff.mpr ⟨by decide, rfl⟩⟩, hentry⟩, hgiven⟩

end Prefix

/-- What a device finds is one of three: nothing, just if something is missing on the way to its
document; credentials, just if the document is a text that gives these; an error in every other
case. The next boot starts as a registered device just if credentials are found, and with these. -/
theorem get_verdict (store : Store) (mac : MacAddress) (t : Tree) :
    ∃ path, store.documentPath (ofDevice store mac).collection key = .ok path ∧
      names path.chars = names store.root.chars ++ [directoryName mac, fileName] ∧
      ∃ result, Disk.run none (ofDevice store mac).get t = (some result, t) ∧
        (result = .ok none ↔ Lacks path t) ∧
        (∀ c, result = .ok (some c) ↔ Holds path t c) ∧
        ((∃ error, result = .error error) ↔ ¬ Lacks path t ∧ ∀ c, ¬ Holds path t c) ∧
        ∀ (config : CycleConfig) (suffix : List Char) (m : Offline.Computer), m.tree = t →
          ∃ cycle, m.run ((Cycle.load config).through
              (Agent.carryOut (ofDevice store mac) suffix)) = (some cycle, m) ∧
            (cycle.machine.state = .registered ↔ ∃ c, Holds path t c) ∧
            ∀ c, cycle.credentials = some c ↔ Holds path t c := by
  obtain ⟨pre, hpre, hpath, hnames⟩ := documentPath_ofDevice store mac
  have hway : names (pre ++ fileName) =
      names store.root.chars ++ [directoryName mac, fileName] := by
    rw [names_document hpre, hnames, List.append_assoc]
    rfl
  refine ⟨_, hpath, hway, _, run_get hpath t, found_iff_lacks hpre,
    fun c => found_iff_holds hpre, ?_, ?_⟩
  · rw [← found_iff_lacks (s := ofDevice store mac) hpre]
    simp only [← found_iff_holds (s := ofDevice store mac) hpre]
    rcases (ofDevice store mac).found (t.read ⟨pre ++ fileName⟩) with error | _ | c
    · simp
    · simp
    · simp
  · rintro config suffix m rfl
    simp only [← found_iff_holds (s := ofDevice store mac) hpre]
    refine ⟨_, run_load hpath config suffix m, ?_⟩
    rcases (ofDevice store mac).found (m.tree.read ⟨pre ++ fileName⟩) with error | _ | c
    · exact ⟨by simp [Cycle.prepare_state], by simp [Cycle.prepare]⟩
    · exact ⟨by simp [Cycle.prepare_state], by simp [Cycle.prepare]⟩
    · exact ⟨by simp [Cycle.prepare_state], by simp [Cycle.prepare]⟩

/-- A tree with a document that another version has written: the members in another order, with a
member that is not known. -/
def foreign : Tree where
  entries := [
    (["020000000010".toList], .directory),
    (["020000000010".toList, fileName], .file (Utf8.ofText
      (" \x7b\"client_id\":\"client\", \"since\":[1], \"password\":\"secret\",\n" ++
        "\"username\":\"user\", \"device_id\":\"device\"\x7d\n")))]

/-- A device with such a document is registered, and a device without a document finds nothing. -/
theorem get_verdict_foreign :
    (∃ cycle, Offline.Computer.run { tree := foreign }
        ((Cycle.load (Agent.cycleConfig anonymous firstDevice)).through
          (Agent.carryOut (ofDevice rehearsal.store firstDevice) "abcdef".toList)) =
        (some cycle, { tree := foreign }) ∧
      cycle.machine.state = .registered ∧ cycle.credentials = some rehearsalCredentials) ∧
    Disk.run none (ofDevice rehearsal.store secondDevice).get foreign =
      (some (.ok none), foreign) := by
  obtain ⟨path, hpath, -, result, hget, -, hholds, -, hload⟩ :=
    get_verdict rehearsal.store firstDevice foreign
  obtain ⟨path', hpath', hnames', result', hget', hlacks', -⟩ :=
    get_verdict rehearsal.store secondDevice foreign
  constructor
  · have heq : rehearsal.store.documentPath (ofDevice rehearsal.store firstDevice).collection key =
        .ok ⟨"/020000000010/credentials.json".toList⟩ := by
      decide +kernel
    obtain rfl := Except.ok.inj (heq.symm.trans hpath)
    have hfound : (ofDevice rehearsal.store firstDevice).found
        (foreign.read ⟨"/020000000010/credentials.json".toList⟩) =
          .ok (some rehearsalCredentials) := by
      decide +kernel
    rw [run_get (s := ofDevice rehearsal.store firstDevice) hpath, hfound] at hget
    cases hget
    have hfirst := (hholds rehearsalCredentials).mp rfl
    obtain ⟨cycle, hrun, hstate, hcredentials⟩ := hload (Agent.cycleConfig anonymous firstDevice)
      "abcdef".toList { tree := foreign } rfl
    exact ⟨cycle, hrun, hstate.mpr ⟨_, hfirst⟩, (hcredentials _).mpr hfirst⟩
  · have heq : rehearsal.store.documentPath (ofDevice rehearsal.store secondDevice).collection key =
        .ok ⟨"/020000000020/credentials.json".toList⟩ := by
      decide +kernel
    obtain rfl := Except.ok.inj (heq.symm.trans hpath')
    have hcheck : Tree.check ⟨"/020000000020/credentials.json".toList⟩ = .ok () := by
      decide +kernel
    have habsent : foreign.Absent [] (directoryName secondDevice) := by
      constructor <;> decide +kernel
    rw [hget', hlacks'.mpr ⟨hcheck, [], _, [fileName], [], hnames', rfl, habsent⟩]

/-- A store whose root has a name that no directory can have. -/
def rootless : Store where
  root := ⟨'/' :: List.replicate 256 'x'⟩

/-- A directory that is missing because its name is too long is not one that is not found. -/
theorem get_verdict_overlong :
    ¬ ∀ (store : Store) (mac : MacAddress) (t : Tree) (path : Path) (before after : List Name)
        (n : Name) (d : Place), store.documentPath (ofDevice store mac).collection key = .ok path →
      names path.chars = before ++ n :: after → t.walk before = .ok d →
      n ≠ ['.'] → n ≠ ['.', '.'] → t.entry? (d ++ [n]) = none →
      Disk.run none (ofDevice store mac).get t = (some (.ok none), t) := by
  intro h
  have hpath : rootless.documentPath (ofDevice rootless firstDevice).collection key =
      .ok ⟨'/' :: (List.replicate 256 'x' ++ "/020000000010/credentials.json".toList)⟩ := by
    decide +kernel
  have hnames : names ('/' :: (List.replicate 256 'x' ++
      "/020000000010/credentials.json".toList)) =
        [] ++ List.replicate 256 'x' :: [directoryName firstDevice, fileName] := by
    decide +kernel
  have hfound : (ofDevice rootless firstDevice).found (Tree.read {}
      ⟨'/' :: (List.replicate 256 'x' ++ "/020000000010/credentials.json".toList)⟩) =
        .error (.file .nameTooLong) := by
    decide +kernel
  have hget := h _ firstDevice {} _ _ _ _ _ hpath hnames rfl (by decide) (by decide) rfl
  rw [run_get hpath, hfound] at hget
  cases hget

end UpdateAgent.CredentialStore
