import UpdateAgent.Proofs.File.Place
import UpdateAgent.Proofs.List
import UpdateAgent.Store.Basic
import UpdateAgent.Text.Picked

/-!
# Where documents are kept

The file of a document ends in `.json`, and while it is replaced the new content is staged beside it
(`documentPath_cases`, `staging_document`). Whatever suffix is drawn, the staged file is no document
(`stagedName_ne_documentName`). The one key that does not lead to such a file is two dots with an
extension: it stands for a directory, which no document can replace.
-/

namespace UpdateAgent.Store

open UpdateAgent.Path

variable {store : Store} {collection path : Path} {key : String} {pre stem suffix : List Char}

/-- What the name of a document has before its extension. -/
structure IsStem (stem : List Char) : Prop where
  ne_nil : stem ≠ []
  no_slash : '/' ∉ stem
  ne_dot : stem ≠ ['.']

theorem IsStem.isName_dot (h : IsStem stem) : IsName (stem ++ ['.']) := by
  refine ⟨by simp, by simpa using h.no_slash, ?_, ?_⟩
  · exact fun heq => h.ne_nil (by simpa using heq)
  · exact fun heq => h.ne_dot (List.append_inj_left' heq rfl)

theorem IsStem.splitExtension_dot (h : IsStem stem) :
    (splitExtension (stem ++ ['.'])).1 = stem := by
  rw [splitExtension_append h.ne_nil (by decide)]

/-- The name of a document. -/
def documentName (stem : List Char) : Name :=
  stem ++ ".json".toList

/-- The name of a document while it is staged. -/
def stagedName (stem suffix : List Char) : Name :=
  (stem ++ ".sync-".toList) ++ suffix

theorem isName_documentName (h : IsStem stem) : IsName (documentName stem) := by
  have hlength := List.length_pos_iff.mpr h.ne_nil
  have hjson : ".json".toList.length = 5 := rfl
  refine IsName.append ?_ h.no_slash (by decide)
  rw [List.length_append]
  omega

theorem isName_stagedName (h : IsStem stem) (hsuffix : '/' ∉ suffix) :
    IsName (stagedName stem suffix) := by
  have hsync : ".sync-".toList.length = 6 := rfl
  refine IsName.append ?_ ?_ hsuffix
  · rw [List.length_append, List.length_append]
    omega
  · rw [List.mem_append]
    exact not_or.mpr ⟨h.no_slash, by decide⟩

theorem names_documentName (hpre : IsPrefix pre) (h : IsStem stem) :
    names (pre ++ documentName stem) = names pre ++ [documentName stem] := by
  rw [names_prefix_append hpre, names_name (isName_documentName h)]

/-! ## From the key to the name -/

/-- A key is a name. -/
theorem isName_of_isKey (h : isKey key = true) : IsName key.toList := by
  simp only [isKey, Bool.and_eq_true, decide_eq_true_eq, Bool.not_eq_true',
    List.contains_eq_mem, decide_eq_false_iff_not] at h
  obtain ⟨⟨⟨hnil, hslash⟩, hdot⟩, hdots⟩ := h
  refine ⟨?_, hslash, ?_, ?_⟩
  · exact fun heq => hnil (String.toList_inj.mp heq)
  · exact fun heq => hdot (String.toList_inj.mp heq)
  · exact fun heq => hdots (String.toList_inj.mp heq)

/-- Cutting off the extension of two dots leaves the directory above. -/
theorem withExtension_dots (hpre : IsPrefix pre) {extension : List Char}
    (hname : IsName ('.' :: '.' :: extension)) (hdot : '.' ∉ extension) (new : List Char) :
    withExtension ⟨pre ++ '.' :: '.' :: extension⟩ new = ⟨pre ++ ['.', '.']⟩ := by
  have hsplit : splitExtension ('.' :: '.' :: extension) = (['.'], some extension) :=
    splitExtension_append (List.cons_ne_nil '.' []) hdot
  have htake : (pre ++ '.' :: '.' :: extension).take
      ((pre ++ '.' :: '.' :: extension).length - extension.length) = pre ++ ['.', '.'] := by
    have happend : pre ++ '.' :: '.' :: extension = (pre ++ ['.', '.']) ++ extension := by simp
    rw [happend, List.length_append, Nat.add_sub_cancel, List.take_left]
  simp only [withExtension, lastName?_child hpre hname, hsplit, Option.getD_some]
  rw [htake, replaceExtension, lastName?_up hpre]

/-- What a stem becomes at the end of a path: the name of a document, but a single dot becomes the
directory above. -/
def ending (stem : List Char) : List Char :=
  if stem = ['.'] then ['.', '.'] else documentName stem

theorem ending_of_isStem (h : IsStem stem) : ending stem = documentName stem :=
  if_neg h.ne_dot

theorem ending_dot : ending ['.'] = ['.', '.'] :=
  rfl

/-- A name with the extension of documents in place of its own. -/
theorem withExtension_name (hpre : IsPrefix pre) {name : List Char} (hname : IsName name) :
    (IsStem (splitExtension name).1 ∨ (splitExtension name).1 = ['.']) ∧
      withExtension ⟨pre ++ name⟩ "json".toList = ⟨pre ++ ending (splitExtension name).1⟩ := by
  rcases splitExtension_cases name with hsplit | ⟨before, extension, hbefore, hdot, rfl⟩
  · have hstem : IsStem name := ⟨hname.ne_nil, hname.no_slash, hname.ne_dot⟩
    have hextension := withExtension_child hpre name [] name (by simpa using hname) hname
      (by simp [hsplit]) (by simp [hsplit]) "json".toList
    rw [List.append_nil] at hextension
    rw [hsplit, ending_of_isStem hstem]
    exact ⟨.inl hstem, hextension⟩
  · have hslash : '/' ∉ before := fun h => hname.no_slash (List.mem_append_left _ h)
    have hsplit := splitExtension_append hbefore hdot
    rw [hsplit]
    by_cases hdots : before = ['.']
    · subst hdots
      exact ⟨.inr rfl, withExtension_dots hpre hname hdot _⟩
    · -- The dot stays with what comes before it when the extension is cut off.
      have hstem : IsStem before := ⟨hbefore, hslash, hdots⟩
      have hextension := withExtension_child hpre (before ++ ['.']) extension before
        (by simpa using hname) hstem.isName_dot (by simp only [List.append_assoc,
          List.singleton_append, hsplit, Option.getD_some]) hstem.splitExtension_dot "json".toList
      rw [List.append_assoc, List.singleton_append] at hextension
      rw [ending_of_isStem hstem]
      exact ⟨.inl hstem, hextension⟩

/-! ## The path of a document -/

/-- The path of a document is that of its key in the directory of its collection, with the extension
of documents. -/
theorem documentPath_eq_ok (h : store.documentPath collection key = .ok path) :
    isKey key ∧ ∃ directory, store.directory collection = .ok directory ∧
      path = (directory.child key).withExtension "json".toList := by
  rw [documentPath] at h
  split at h
  · rename_i hkey
    rcases hdirectory : store.directory collection with _ | directory
    · simp [hdirectory, bind, Except.bind] at h
    · simp only [hdirectory, bind, Except.bind] at h
      exact ⟨hkey, directory, rfl, (Except.ok.inj h).symm⟩
  · cases h

/-- What of a key its document is named for. -/
def keyStem (key : String) : List Char :=
  (splitExtension key.toList).1

theorem documentPath_ending (h : store.documentPath collection key = .ok path) :
    ∃ pre, IsPrefix pre ∧ (IsStem (keyStem key) ∨ keyStem key = ['.']) ∧
      path = ⟨pre ++ ending (keyStem key)⟩ := by
  obtain ⟨hkey, directory, -, rfl⟩ := documentPath_eq_ok h
  have hname := isName_of_isKey hkey
  obtain ⟨pre, hpre, hchild⟩ := child_name directory
  obtain ⟨hstem, hextension⟩ := withExtension_name hpre hname
  rw [hchild key hname]
  exact ⟨pre, hpre, hstem, hextension⟩

/-- A document has a name that ends in `.json`, or it stands for a directory above. -/
theorem documentPath_cases (h : store.documentPath collection key = .ok path) :
    ∃ pre, IsPrefix pre ∧
      ((∃ stem, IsStem stem ∧ path = ⟨pre ++ documentName stem⟩) ∨ path = ⟨pre ++ ['.', '.']⟩) := by
  obtain ⟨pre, hpre, hstem | hdot, rfl⟩ := documentPath_ending h
  · rw [ending_of_isStem hstem]
    exact ⟨pre, hpre, .inl ⟨_, hstem, rfl⟩⟩
  · rw [hdot]
    exact ⟨pre, hpre, .inr rfl⟩

/-! ## The staged file -/

/-- A document is staged beside its place. -/
theorem staging_document (hpre : IsPrefix pre) (h : IsStem stem) (suffix : List Char) :
    Path.staging ⟨pre ++ documentName stem⟩ suffix = ⟨pre ++ stagedName stem suffix⟩ := by
  have hdocument : documentName stem = (stem ++ ['.']) ++ "json".toList := by
    rw [documentName, List.append_assoc]
    rfl
  have hstaged : stem ++ '.' :: "sync-".toList = stem ++ ".sync-".toList := rfl
  have hsplit : splitExtension (documentName stem) = (stem, some "json".toList) :=
    splitExtension_append h.ne_nil (by decide)
  have hold : (splitExtension (documentName stem)).2.getD [] = "json".toList := by
    rw [hsplit, Option.getD_some]
  have hname := isName_documentName h
  rw [hdocument] at hold hname ⊢
  rw [staging_child hpre _ _ stem hname h.isName_dot hold h.splitExtension_dot, hstaged]
  rfl

/-- A suffix that was drawn. -/
def Drawn (suffix : List Char) : Prop :=
  ∃ draws, draws.length = Path.suffixLength ∧ Text.picked Text.letters draws = some suffix

/-- It is made of letters and digits, one for each draw. -/
theorem picked_letters {draws : List Nat} (h : Text.picked Text.letters draws = some suffix) :
    suffix.length = draws.length ∧ '.' ∉ suffix ∧ '/' ∉ suffix := by
  have hletters : ∀ b ∈ Text.letters, Char.ofNat b.toNat ≠ '.' ∧ Char.ofNat b.toNat ≠ '/' := by
    decide +kernel
  induction mapM_eq_some_iff.mp h with
  | nil => exact ⟨rfl, nofun, nofun⟩
  | cons hc hrest ih =>
    obtain ⟨hlength, hdot, hslash⟩ := ih (mapM_eq_some_iff.mpr hrest)
    obtain ⟨b, hb, rfl⟩ := Option.map_eq_some_iff.mp hc
    obtain ⟨hne, hne'⟩ := hletters b (List.mem_of_getElem? hb)
    refine ⟨congrArg (· + 1) hlength, ?_, ?_⟩
    · exact List.not_mem_cons_of_ne_of_not_mem hne.symm hdot
    · exact List.not_mem_cons_of_ne_of_not_mem hne'.symm hslash

theorem Drawn.no_slash (h : Drawn suffix) : '/' ∉ suffix := by
  obtain ⟨draws, -, hpicked⟩ := h
  exact (picked_letters hpicked).2.2

/-- Whatever suffix is drawn, what is staged is no document. -/
theorem stagedName_ne_documentName (h : Drawn suffix) (stem stem' : List Char) :
    stagedName stem suffix ≠ documentName stem' := by
  obtain ⟨draws, hdraws, hpicked⟩ := h
  obtain ⟨hlength, hdot, -⟩ := picked_letters hpicked
  have hjson : ".json".toList.length = 5 := rfl
  intro heq
  -- The suffix is longer than the extension, so the dot of the extension would be in it.
  rcases List.append_eq_append_iff.mp heq with ⟨l, -, hl⟩ | ⟨l, -, hl⟩
  · refine hdot ?_
    rw [hl]
    exact List.mem_append_right _ (by decide)
  · have hl := congrArg List.length hl
    rw [List.length_append, hjson, hlength, hdraws, Path.suffixLength] at hl
    omega

end UpdateAgent.Store
