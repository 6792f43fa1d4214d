import UpdateAgent.Proofs.File.Disk
import UpdateAgent.File.Writing

/-!
# Power cuts while files are written

Making the directories above a file does not change what a read of the file finds (`Shows.steps`).
A file that is replaced holds its old content until the staged file is moved into its place, and the
new content from then on (`replace_cut`): what is done before that happens beside the file.
-/

namespace UpdateAgent.Disk

open UpdateAgent.Path Program

/-! ## Directories above a file -/

/-- The calls that make the directories on a way. -/
def OnWay (ns : List Name) : DiskCall → Prop
  | .makeDirectory path => ∃ rest, ns = names path.chars ++ rest
  | .isDirectory _ => True
  | _ => False

theorem renamed_onWay {ns : List Name} {trace : List (Exchange Disk)}
    (h : ∀ e ∈ trace, OnWay ns e.call) : renamed trace = false := by
  rw [renamed, List.any_eq_false]
  intro e he
  have hcall := h e he
  obtain ⟨call, reply⟩ := e
  cases call with
  | makeDirectory path => exact Bool.false_ne_true
  | isDirectory path => exact Bool.false_ne_true
  | _ => exact hcall.elim

theorem settle_onWay {ns : List Name} (path : Path) (result : Except FileError Unit) :
    CallsOnly (OnWay ns) (settle path result) := by
  match result with
  | .ok () => exact callsOnly_pure _
  | .error error =>
    refine callsOnly_bind (callsOnly_request trivial) fun found => ?_
    cases found <;> exact callsOnly_pure _

theorem makeLevels_onWay {ns : List Name} (depth : Nat) {path : Path}
    (h : ∃ rest, ns = names path.chars ++ rest) :
    CallsOnly (OnWay ns) (makeLevels depth path) := by
  induction depth generalizing path with
  | zero => exact callsOnly_pure _
  | succ depth ih =>
    rw [makeLevels]
    by_cases hempty : path.chars.isEmpty
    · rw [if_pos hempty]
      exact callsOnly_pure _
    · rw [if_neg hempty]
      refine callsOnly_bind (callsOnly_request h) fun made => ?_
      split
      · rcases hparent : path.parent? with _ | parent
        · exact callsOnly_pure _
        · -- The directory above lies on the same way.
          obtain ⟨rest, hrest⟩ := h
          obtain ⟨between, hbetween⟩ := names_parent? hparent
          have hway : ∃ rest, ns = names parent.chars ++ rest :=
            ⟨between ++ rest, by rw [hrest, hbetween, List.append_assoc]⟩
          refine callsOnly_bind (ih hway) fun above => ?_
          match above with
          | .error _ => exact callsOnly_pure _
          | .ok () =>
            exact callsOnly_bind (callsOnly_request ⟨rest, hrest⟩) fun made => settle_onWay _ _
      · exact settle_onWay _ _

section File

variable {t t' : Tree} {pre : List Char} {n : Name} {found : Except FileError Bytes}
  {trace : List (Exchange Disk)}

/-- A read of the file finds this, and will find it while the directories above it are made. -/
structure Shows (t : Tree) (pre : List Char) (n : Name) (found : Except FileError Bytes) :
    Prop where
  valid : t.Valid
  read : t.read ⟨pre ++ n⟩ = found
  clear : found = .error .notFound → t.Clear (names pre ++ [n])

variable (hpre : IsPrefix pre) (hn : IsPiece n)

include hpre hn

theorem Shows.step {e : Exchange Disk} (h : Shows t pre n found) (hcall : OnWay (names pre) e.call)
    (hstep : Step t e t') : Shows t' pre n found := by
  obtain ⟨call, reply⟩ := e
  match call, reply, hcall, hstep with
  | .isDirectory path, reply, _, hstep =>
    rw [step_isDirectory hstep]
    exact h
  | .makeDirectory path, reply, ⟨rest, hrest⟩, hstep =>
    rcases step_makeDirectory hstep with ⟨_, -, rfl⟩ | ⟨-, hmade⟩
    · exact h
    · refine ⟨hstep.valid h.valid, ?_, fun hfound => ?_⟩
      · have hclear : t.read ⟨pre ++ n⟩ = .error .notFound → t.Clear (names pre ++ [n]) :=
          fun hread => h.clear (h.read.symm.trans hread)
        rw [Tree.read_makeDirectory hpre hn hrest h.valid hclear hmade, h.read]
      · have hclear := h.clear hfound
        rw [hrest, List.append_assoc] at hclear ⊢
        exact Tree.clear_makeDirectory h.valid hclear hmade

/-- Making directories on the way to a file does not change what a read of it finds. -/
theorem Shows.steps (h : Shows t pre n found)
    (hcalls : ∀ e ∈ trace, OnWay (names pre) e.call) (hsteps : Steps t trace t') :
    Shows t' pre n found := by
  induction hsteps with
  | nil t => exact h
  | cons this _ ih =>
    exact ih (h.step hpre hn (hcalls _ List.mem_cons_self) this)
      fun e he => hcalls e (List.mem_cons_of_mem _ he)

/-- The calls that make the directories above a file are on the way to it. -/
theorem parent_onWay :
    CallsOnly (OnWay (names pre)) (match Path.parent? ⟨pre ++ n⟩ with
      | some parent => makeDirectories parent
      | none => pure (.ok ())) := by
  rcases hparent : Path.parent? ⟨pre ++ n⟩ with _ | parent
  · exact callsOnly_pure _
  · exact makeLevels_onWay _ (names_parent?_child hpre hn hparent)

end File

/-! ## Files that are replaced -/

section Replace

variable {t t' t'' : Tree} {pre : List Char} {m n : Name} {d : Place} {content : Bytes}
  {trace : List (Exchange Disk)}

/-- The tree is another one but for a file with this content at a place where that one had no
directory. -/
structure Stages (t t' : Tree) (pre : List Char) (m : Name) (d : Place) (content : Bytes) :
    Prop where
  valid : t'.Valid
  reaches : t.Reaches pre m d
  free : t.entry? (d ++ [m]) ≠ some .directory
  staged : t'.entry? (d ++ [m]) = some (.file content)
  same : ∀ x, x ≠ d ++ [m] → t'.entry? x = t.entry? x

/-- What has become of a file that is replaced, and of the staged one; `true` once that was moved
into its place. -/
inductive Replacing (t : Tree) (pre : List Char) (m n : Name) (content : Bytes) :
    Bool → Tree → Prop
  /-- Nothing was staged. -/
  | untouched : Replacing t pre m n content false t
  /-- Nothing has changed but the staged file. -/
  | beside {t' : Tree} {d : Place} (reaches : t.Reaches pre m d)
    (free : t.entry? (d ++ [m]) ≠ some .directory)
    (same : ∀ x, x ≠ d ++ [m] → t'.entry? x = t.entry? x) : Replacing t pre m n content false t'
  /-- The file has the new content, and nothing is staged. -/
  | moved {t' : Tree} {d : Place} (reaches : t.Reaches pre m d) (target : t.Reaches pre n d)
    (free : t.entry? (d ++ [m]) ≠ some .directory) (file : t.entry? (d ++ [n]) ≠ some .directory)
    (gone : t'.entry? (d ++ [m]) = none) (there : t'.entry? (d ++ [n]) = some (.file content))
    (same : ∀ x, x ≠ d ++ [m] → x ≠ d ++ [n] → t'.entry? x = t.entry? x) :
    Replacing t pre m n content true t'

theorem Stages.beside (h : Stages t t' pre m d content) {new : Bytes} :
    Replacing t pre m n new false t' :=
  .beside h.reaches h.free h.same

theorem Stages.keeps (h : Stages t t' pre m d content) : t.Keeps t' := by
  intro x hx
  rw [h.same]
  · exact hx
  · rintro rfl
    exact h.free hx

/-- Every directory is still there. -/
theorem Replacing.keeps {isMoved : Bool} (h : Replacing t pre m n content isMoved t') :
    t.Keeps t' := by
  intro x hx
  cases h with
  | untouched => exact hx
  | beside reaches free same =>
    rw [same]
    · exact hx
    · rintro rfl
      exact free hx
  | moved reaches target free file gone there same =>
    rw [same]
    · exact hx
    · rintro rfl
      exact free hx
    · rintro rfl
      exact file hx

/-- Nothing has changed but in the directory of the file. -/
theorem Replacing.same_or {isMoved : Bool} (h : Replacing t pre m n content isMoved t') :
    t' = t ∨ ∃ d, t.walk (names pre) = .ok d ∧
      ∀ place, (∀ k, place ≠ d ++ [k]) → t'.entry? place = t.entry? place := by
  cases h with
  | untouched => exact .inl rfl
  | beside reaches free same =>
    exact .inr ⟨_, reaches.walk, fun place hplace => same place (hplace m)⟩
  | moved reaches target free file gone there same =>
    exact .inr ⟨_, reaches.walk, fun place hplace => same place (hplace m) (hplace n)⟩

/-- What comes after a file was moved does not change the tree. -/
theorem synced_cut {path : Path}
    (hbegan : Began (do
      if let some parent := path.parent? then
        discard (syncDirectory parent)
      return (.ok () : Except FileError Unit)) trace) (hsteps : Steps t trace t') : t' = t := by
  rcases hparent : path.parent? with _ | parent
  · rw [hparent] at hbegan
    obtain rfl := began_pure.mp hbegan
    exact steps_nil hsteps
  · rw [hparent] at hbegan
    rcases began_request_discard_bind hbegan with rfl | ⟨synced, rest, hrest, rfl⟩
    · exact steps_nil hsteps
    · obtain ⟨t₁, hsync, hsteps₁⟩ := steps_cons hsteps
      obtain rfl := began_pure.mp hrest
      rw [steps_nil hsteps₁, step_syncDirectory hsync]

variable (hpre : IsPrefix pre) (hm : IsName m)

include hpre hm

theorem stages_create (hvalid : t.Valid) (hcreate : t.create ⟨pre ++ m⟩ = .ok t') :
    ∃ d, Stages t t' pre m d [] := by
  have hvalid' := Tree.valid_create hvalid hcreate
  obtain ⟨d, m', hleads, hentry, rfl⟩ := Tree.create_ok hcreate
  obtain ⟨rfl, hreaches⟩ := hleads.reaches hpre hm
  exact ⟨d, hvalid', hreaches, hentry, Tree.entry?_insert_self (by simp),
    fun x hx => Tree.entry?_insert_of_ne hx⟩

theorem Stages.write (h : Stages t t' pre m d content) (new : Bytes) :
    Stages t (t'.write ⟨pre ++ m⟩ new) pre m d new := by
  have hvalid := Tree.valid_write (p := ⟨pre ++ m⟩) h.valid new
  rw [(h.reaches.of_keeps h.keeps).write hpre hm h.staged] at hvalid ⊢
  refine ⟨hvalid, h.reaches, h.free, Tree.entry?_insert_self (by simp), fun x hx => ?_⟩
  rw [Tree.entry?_insert_of_ne hx, h.same x hx]

theorem Stages.remove (h : Stages t t' pre m d content)
    (hremove : t'.remove ⟨pre ++ m⟩ = .ok t'') {new : Bytes} :
    Replacing t pre m n new false t'' := by
  obtain ⟨d', m', hleads, -, rfl⟩ := Tree.remove_ok hremove
  obtain ⟨rfl, hreaches⟩ := hleads.reaches hpre hm
  obtain rfl : d' = d :=
    Except.ok.inj (hreaches.walk.symm.trans (h.reaches.of_keeps h.keeps).walk)
  refine .beside h.reaches h.free fun x hx => ?_
  rw [Tree.entry?_erase_of_ne hx, h.same x hx]

/-- A staged file that is given up is removed, and nothing else happens. -/
theorem withdraw_cut (h : Stages t t' pre m d content) {error : FileError} {new : Bytes}
    (hbegan : Began (do discard (remove ⟨pre ++ m⟩); return (.error error : Except FileError Unit))
      trace) (hsteps : Steps t' trace t'') :
    Replacing t pre m n new (renamed trace) t'' := by
  rcases began_request_discard_bind hbegan with rfl | ⟨removed, rest, hrest, rfl⟩
  · rw [steps_nil hsteps]
    exact h.beside
  · obtain ⟨t₁, hremove, hsteps₁⟩ := steps_cons hsteps
    obtain rfl := began_pure.mp hrest
    rw [steps_nil hsteps₁]
    rcases step_remove hremove with ⟨_, -, rfl⟩ | ⟨-, hremoved⟩
    · exact h.beside
    · exact h.remove hpre hm hremoved

variable (hn : IsName n) (hne : m ≠ n)

include hn hne

theorem Stages.rename (h : Stages t t' pre m d content)
    (hrename : t'.rename ⟨pre ++ m⟩ ⟨pre ++ n⟩ = .ok t'') :
    Replacing t pre m n content true t'' := by
  have hplaces : d ++ [n] ≠ d ++ [m] := by simpa using hne.symm
  obtain ⟨htarget, hentry, rfl⟩ := Tree.rename_child hpre hm hn hne
    (h.reaches.of_keeps h.keeps) h.staged hrename
  have hstaged : t'.entry? (d ++ [m]) ≠ some .directory := by simp [h.staged]
  have hbeside : Tree.isBelow (d ++ [m]) (d ++ [n]) = false := by
    rw [Bool.eq_false_iff]
    intro hbelow
    obtain ⟨rest, hrest⟩ := Tree.isBelow_iff.mp hbelow
    have hlength := congrArg List.length hrest
    simp only [List.length_append, List.length_singleton] at hlength
    obtain rfl := List.length_eq_zero_iff.mp (show rest.length = 0 by omega)
    exact hplaces (by simpa using hrest.symm)
  refine .moved h.reaches ⟨htarget.check, h.reaches.walk, htarget.lookup⟩ h.free ?_ ?_ ?_ ?_
  · rw [← h.same _ hplaces]
    exact hentry
  · exact Tree.entry?_move_source (Tree.isBelow_self _) hbeside (by simp)
  · rw [Tree.entry?_move_target (by simp) (by simp), h.staged]
  · intro x hx hx'
    rw [h.valid.entry?_move hstaged hentry hx hx', h.same x hx]

/-- The move is the step from the old content to the new one. -/
theorem commit_cut (h : Stages t t' pre m d content)
    (hbegan : Began (commit ⟨pre ++ m⟩ ⟨pre ++ n⟩) trace) (hsteps : Steps t' trace t'') :
    Replacing t pre m n content (renamed trace) t'' := by
  rcases began_request_bind hbegan with rfl | ⟨moved, rest, hrest, rfl⟩
  · rw [steps_nil hsteps]
    exact h.beside
  · obtain ⟨t₁, hmove, hsteps₁⟩ := steps_cons hsteps
    rcases step_rename hmove with ⟨error, rfl, rfl⟩ | ⟨rfl, hmoved⟩
    · show Replacing t pre m n content (renamed rest) t''
      exact withdraw_cut hpre hm h hrest hsteps₁
    · rw [synced_cut hrest hsteps₁]
      exact h.rename hpre hm hn hne hmoved

/-- From the staged file being there to its taking the place of the other. -/
theorem fill_cut (h : Stages t t' pre m d [])
    (hbegan : Began (do
      match ← fill ⟨pre ++ m⟩ content with
      | .error error =>
        discard (remove ⟨pre ++ m⟩)
        return .error error
      | .ok () => commit ⟨pre ++ m⟩ ⟨pre ++ n⟩) trace) (hsteps : Steps t' trace t'') :
    Replacing t pre m n content (renamed trace) t'' := by
  rw [fill, bind_assoc] at hbegan
  rcases began_request_bind hbegan with rfl | ⟨written, rest, hrest, rfl⟩
  · rw [steps_nil hsteps]
    exact h.beside
  · obtain ⟨t₁, hwrite, hsteps₁⟩ := steps_cons hsteps
    show Replacing t pre m n content (renamed rest) t''
    rcases step_write hwrite with ⟨error, rfl, hfirst⟩ | ⟨rfl, rfl⟩
    · -- However much of the content arrived, it is in the staged file.
      have hstages : ∃ first, Stages t t₁ pre m d first := by
        rcases hfirst with rfl | ⟨count, rfl⟩
        · exact ⟨[], h⟩
        · exact ⟨_, h.write hpre hm _⟩
      obtain ⟨first, hstages⟩ := hstages
      exact withdraw_cut hpre hm hstages hrest hsteps₁
    · have hstages := h.write hpre hm content
      rcases began_request_bind hrest with rfl | ⟨synced, rest', hrest', rfl⟩
      · rw [steps_nil hsteps₁]
        exact hstages.beside
      · obtain ⟨t₂, hsync, hsteps₂⟩ := steps_cons hsteps₁
        show Replacing t pre m n content (renamed rest') t''
        rw [step_sync hsync] at hsteps₂
        rcases synced with error | _
        · exact withdraw_cut hpre hm hstages hrest' hsteps₂
        · exact commit_cut hpre hm hn hne hstages hrest' hsteps₂

/-- A file that is replaced is as it was until the staged file is moved into its place, and has the
new content from then on, whenever the power goes. Nothing else changes but the staged file. -/
theorem replace_cut (hvalid : t.Valid) {suffix : List Char}
    (hstaging : Path.staging ⟨pre ++ n⟩ suffix = ⟨pre ++ m⟩)
    (hbegan : Began (replace ⟨pre ++ n⟩ suffix content) trace) (hsteps : Steps t trace t') :
    Replacing t pre m n content (renamed trace) t' := by
  rw [replace, hstaging] at hbegan
  rcases began_request_bind hbegan with rfl | ⟨created, rest, hrest, rfl⟩
  · rw [steps_nil hsteps]
    exact .untouched
  · obtain ⟨t₁, hcreate, hsteps₁⟩ := steps_cons hsteps
    rcases step_create hcreate with ⟨error, rfl, rfl⟩ | ⟨rfl, hcreated⟩
    · obtain rfl := began_pure.mp hrest
      rw [steps_nil hsteps₁]
      exact .untouched
    · obtain ⟨d, hd⟩ := stages_create hpre hm hvalid hcreated
      show Replacing t pre m n content (renamed rest) t'
      exact fill_cut hpre hm hn hne hd hrest hsteps₁

omit hm in
/-- So a read of it finds the old content or the new one. -/
theorem Replacing.read {isMoved : Bool} (h : Replacing t pre m n content isMoved t') :
    t'.read ⟨pre ++ n⟩ = if isMoved then .ok content else t.read ⟨pre ++ n⟩ := by
  have hkeeps := h.keeps
  cases h with
  | untouched => rfl
  | beside reaches free same =>
    exact Tree.read_of_keeps hpre hn reaches.walk hkeeps (same _ (by simpa using hne.symm))
  | moved reaches target free file gone there same =>
    rw [if_pos rfl, (target.of_keeps hkeeps).read hpre hn, Tree.contentAt, there]

/-- And it will find it while the directories above it are made. -/
theorem Shows.replace {found : Except FileError Bytes} (h : Shows t pre n found)
    {suffix : List Char} (hstaging : Path.staging ⟨pre ++ n⟩ suffix = ⟨pre ++ m⟩)
    (hbegan : Began (replace ⟨pre ++ n⟩ suffix content) trace) (hsteps : Steps t trace t') :
    Shows t' pre n (if renamed trace then .ok content else found) := by
  have hreplacing := replace_cut hpre hm hn hne h.valid hstaging hbegan hsteps
  refine ⟨hsteps.valid h.valid, ?_, fun hfound => ?_⟩
  · rw [hreplacing.read hpre hn hne, h.read]
  · have hkeeps := hreplacing.keeps
    generalize renamed trace = isMoved at hreplacing hfound
    cases hreplacing with
    | untouched => exact h.clear hfound
    | beside reaches => exact Tree.clear_of_walk (Tree.walk_ok_of_keeps hkeeps reaches.walk) n
    | moved => cases hfound

end Replace

/-! ## What a result tells -/

section Result

variable {trace : List (Exchange Disk)} {result : Except FileError Unit}

/-- A file that is given up was not moved. -/
theorem renamed_withdraw {staged : Path} {error : FileError}
    (h : Runs (do discard (remove staged); return (.error error : Except FileError Unit))
      trace result) : renamed trace = true ↔ result = .ok () := by
  obtain ⟨removed, rest, hrest, rfl⟩ := runs_request_discard_bind.mp h
  obtain ⟨rfl, rfl⟩ := runs_pure.mp hrest
  simp [renamed, isRenamed]

theorem renamed_commit {staged path : Path} (h : Runs (commit staged path) trace result) :
    renamed trace = true ↔ result = .ok () := by
  obtain ⟨moved, rest, hrest, rfl⟩ := runs_request_bind.mp h
  cases moved with
  | error error =>
    show renamed rest = true ↔ result = .ok ()
    exact renamed_withdraw hrest
  | ok =>
    have hresult : result = .ok () := by
      dsimp only at hrest
      split at hrest
      · obtain ⟨_, _, hlast, rfl⟩ := runs_request_discard_bind.mp hrest
        exact (runs_pure.mp hlast).2
      · exact (runs_pure.mp hrest).2
    simp [renamed, isRenamed, hresult]

/-- Filling a file moves none. -/
theorem renamed_fill {path : Path} {content : Bytes} (h : Runs (fill path content) trace result) :
    renamed trace = false := by
  obtain ⟨written, rest, hrest, rfl⟩ := runs_request_bind.mp h
  cases written with
  | error error =>
    obtain ⟨rfl, -⟩ := runs_pure.mp hrest
    rfl
  | ok =>
    obtain rfl := runs_request.mp hrest
    rfl

/-- The file was moved into its place if the result is a success, and only then. -/
theorem renamed_replace {path : Path} {suffix : List Char} {content : Bytes}
    (h : Runs (replace path suffix content) trace result) :
    renamed trace = true ↔ result = .ok () := by
  obtain ⟨created, rest, hrest, rfl⟩ := runs_request_bind.mp h
  show renamed rest = true ↔ result = .ok ()
  cases created with
  | error error =>
    obtain ⟨rfl, rfl⟩ := runs_pure.mp hrest
    simp [renamed]
  | ok =>
    obtain ⟨filling, filled, last, hfill, hlast, rfl⟩ := runs_bind.mp hrest
    rw [renamed_append, renamed_fill hfill, Bool.false_or]
    cases filled with
    | error error => exact renamed_withdraw hlast
    | ok => exact renamed_commit hlast

end Result

/-! ## Calls that read no file -/

/-- The call does not read what is in a file. -/
def IsNoRead : DiskCall → Prop
  | .read _ => False
  | _ => True

theorem isNoRead_onWay {ns : List Name} {c : DiskCall} (h : OnWay ns c) : IsNoRead c := by
  cases c with
  | read path => exact h
  | _ => trivial

theorem replace_isNoRead (path : Path) (suffix : List Char) (content : Bytes) :
    CallsOnly IsNoRead (replace path suffix content) := by
  have hwithdraw (staged : Path) (error : FileError) : CallsOnly IsNoRead (do
      discard (remove staged); return (.error error : Except FileError Unit)) :=
    callsOnly_bind (callsOnly_discard (callsOnly_request trivial)) fun _ => callsOnly_pure _
  have hcommit (staged : Path) : CallsOnly IsNoRead (commit staged path) := by
    refine callsOnly_bind (callsOnly_request trivial) fun moved => ?_
    match moved with
    | .error error => exact hwithdraw staged error
    | .ok () =>
      dsimp only
      split
      · exact callsOnly_bind (callsOnly_discard (callsOnly_request trivial)) fun _ =>
          callsOnly_pure _
      · exact callsOnly_pure _
  refine callsOnly_bind (callsOnly_request trivial) fun created => ?_
  match created with
  | .error error => exact callsOnly_pure _
  | .ok () =>
    refine callsOnly_bind (callsOnly_bind (callsOnly_request trivial) fun written => ?_)
      fun filled => ?_
    · match written with
      | .error error => exact callsOnly_pure _
      | .ok () => exact callsOnly_request trivial
    · match filled with
      | .error error => exact hwithdraw _ error
      | .ok () => exact hcommit _

end UpdateAgent.Disk
