import UpdateAgent.File.Path

/-!
# The names on the way of a path

`names` is what a file system follows: what stands between the slashes of a path, blanks left out.
The text before the last name of a path is a prefix (`IsPrefix`): another name in place of the last
one, such as the document with its extension (`withExtension_child`), is reached on the same way.
The directories above a path lie on its way (`names_parent?`).
-/

namespace UpdateAgent.Path

/-- What a file system follows: the pieces of a path that are not empty. -/
def names (cs : List Char) : List (List Char) :=
  (pieces cs).filter (!·.isEmpty)

@[simp]
theorem names_nil : names [] = [] := by
  simp [names, pieces, List.splitOn_nil]

/-- The names behind a slash come after those before it. -/
theorem names_append_slash (before after : List Char) :
    names (before ++ '/' :: after) = names before ++ names after := by
  rw [names, pieces, List.splitOn_append_cons_self, List.filter_append]
  rfl

theorem names_slash (after : List Char) : names ('/' :: after) = names after :=
  names_append_slash [] after

/-- A text that is a single name. -/
structure IsName (name : List Char) : Prop where
  ne_nil : name ≠ []
  no_slash : '/' ∉ name
  ne_dot : name ≠ ['.']
  ne_dots : name ≠ ['.', '.']

/-- Without a slash, a text of more than two characters is a name. -/
theorem IsName.append {start suffix : List Char} (hlength : 2 < (start ++ suffix).length)
    (hstart : '/' ∉ start) (hsuffix : '/' ∉ suffix) : IsName (start ++ suffix) := by
  constructor
  · intro heq
    simp [heq] at hlength
  · rw [List.mem_append]
    exact not_or.mpr ⟨hstart, hsuffix⟩
  · intro heq
    simp [heq] at hlength
  · intro heq
    simp [heq] at hlength

/-- A piece that a file system follows to somewhere else: a name, or the directory above. -/
def IsPiece (piece : List Char) : Prop :=
  IsName piece ∨ piece = ['.', '.']

theorem IsName.isPiece {name : List Char} (h : IsName name) : IsPiece name :=
  .inl h

theorem isPiece_up : IsPiece ['.', '.'] :=
  .inr rfl

theorem IsPiece.no_slash {piece : List Char} (h : IsPiece piece) : '/' ∉ piece := by
  rcases h with h | rfl
  · exact h.no_slash
  · decide

theorem IsPiece.ne_dot {piece : List Char} (h : IsPiece piece) : piece ≠ ['.'] := by
  rcases h with h | rfl
  · exact h.ne_dot
  · decide

theorem IsPiece.ne_nil {piece : List Char} (h : IsPiece piece) : piece ≠ [] := by
  rcases h with h | rfl
  · exact h.ne_nil
  · decide

theorem append_ne_of_length_lt {start name : List Char} (h : name.length < start.length)
    (suffix : List Char) : start ++ suffix ≠ name := by
  rintro rfl
  rw [List.length_append] at h
  omega

theorem names_piece {piece : List Char} (h : IsPiece piece) : names piece = [piece] := by
  simp [names, pieces, List.splitOn_eq_singleton h.no_slash, h.ne_nil]

theorem names_name {name : List Char} (h : IsName name) : names name = [name] :=
  names_piece h.isPiece

/-- The text before a name: nothing, or what ends in a slash. -/
def IsPrefix (pre : List Char) : Prop :=
  pre = [] ∨ ∃ before, pre = before ++ ['/']

theorem names_prefix_append {pre : List Char} (hpre : IsPrefix pre) (rest : List Char) :
    names (pre ++ rest) = names pre ++ names rest := by
  rcases hpre with rfl | ⟨before, rfl⟩
  · simp
  · rw [List.append_assoc, List.singleton_append, names_append_slash, names_append_slash, names_nil,
      List.append_nil]

/-! ## The start of a path -/

theorem front_append (cs : List Char) : (front cs).1 ++ (front cs).2 = cs := by
  unfold front
  split <;> rfl

theorem front_of_ne {c : Char} (hslash : c ≠ '/') (hdot : c ≠ '.') (rest : List Char) :
    front (c :: rest) = ([], c :: rest) := by
  unfold front
  split <;> simp_all

theorem front_dot_of_ne {c : Char} (hslash : c ≠ '/') (rest : List Char) :
    front ('.' :: c :: rest) = ([], '.' :: c :: rest) := by
  unfold front
  split <;> simp_all

theorem front_piece {piece : List Char} (h : IsPiece piece) : front piece = ([], piece) := by
  match piece with
  | [] => rfl
  | [c] =>
    have hslash : c ≠ '/' := fun heq => h.no_slash (by simp [heq])
    have hdot : c ≠ '.' := fun heq => h.ne_dot (by rw [heq])
    exact front_of_ne hslash hdot []
  | c :: d :: cs =>
    have hfirst : c ≠ '/' := fun heq => h.no_slash (by simp [heq])
    have hsecond : d ≠ '/' := fun heq => h.no_slash (by simp [heq])
    by_cases hdot : c = '.'
    · subst hdot
      exact front_dot_of_ne hsecond cs
    · exact front_of_ne hfirst hdot _

/-- What follows a slash does not change what the path before it starts with. -/
theorem front_append_slash {before : List Char} (h : before ≠ []) (rest : List Char) :
    front (before ++ '/' :: rest) = ((front before).1, (front before).2 ++ '/' :: rest) := by
  -- The start of a path is told by its first two characters.
  match before with
  | ['.'] => rfl
  | [x] =>
    by_cases hx : x = '/'
    · subst hx
      rfl
    · by_cases hx' : x = '.'
      · subst hx'
        rfl
      · simp [front_of_ne hx hx']
  | x :: y :: before =>
    by_cases hx : x = '/'
    · subst hx
      rfl
    · by_cases hx' : x = '.'
      · subst hx'
        by_cases hy : y = '/'
        · subst hy
          rfl
        · simp [front_dot_of_ne hy]
      · simp [front_of_ne hx hx']

/-- What has no start of its own does not change what the path before it starts with. -/
theorem front_prefix_append {pre rest : List Char} (hpre : IsPrefix pre)
    (hrest : front rest = ([], rest)) :
    front (pre ++ rest) = ((front pre).1, (front pre).2 ++ rest) := by
  rcases hpre with rfl | ⟨before, rfl⟩
  · exact hrest
  · rw [List.append_assoc, List.singleton_append]
    by_cases h : before = []
    · subst h
      rfl
    · rw [front_append_slash h, front_append_slash h, List.append_assoc, List.singleton_append]

/-- A piece does not change what the path before it starts with. -/
theorem front_child {pre : List Char} (hpre : IsPrefix pre) {piece : List Char}
    (h : IsPiece piece) : front (pre ++ piece) = ((front pre).1, (front pre).2 ++ piece) :=
  front_prefix_append hpre (front_piece h)

/-- What a prefix has behind its start is a prefix again. -/
theorem isPrefix_front {pre : List Char} (hpre : IsPrefix pre) : IsPrefix (front pre).2 := by
  have happend := front_append pre
  rcases hpre with rfl | ⟨before, rfl⟩
  · exact .inl rfl
  · rcases List.eq_nil_or_concat (front (before ++ ['/'])).2 with h | ⟨body, c, h⟩
    · exact .inl h
    -- What is left behind the start ends as the prefix does.
    · rw [h, List.concat_eq_append, ← List.append_assoc] at happend
      obtain ⟨-, hc⟩ := List.append_inj' happend rfl
      rw [h, List.concat_eq_append, hc]
      exact .inr ⟨body, rfl⟩

/-- The pieces behind a prefix: those of the prefix but for the empty one behind its last slash, and
the last one. -/
theorem pieces_child {pre : List Char} (hpre : IsPrefix pre) {piece : List Char}
    (h : IsPiece piece) :
    ∃ before, pieces pre = before ++ [[]] ∧ pieces (pre ++ piece) = before ++ [piece] := by
  rcases hpre with rfl | ⟨before, rfl⟩
  · exact ⟨[], rfl, List.splitOn_eq_singleton h.no_slash⟩
  · refine ⟨pieces before, List.splitOn_append_cons_self .., ?_⟩
    rw [List.append_assoc, List.singleton_append, pieces, List.splitOn_append_cons_self,
      List.splitOn_eq_singleton h.no_slash]
    rfl

theorem isBlankPiece_piece {piece : List Char} (h : IsPiece piece) :
    isBlankPiece piece = false := by
  simp [isBlankPiece, h.ne_nil, h.ne_dot]

theorem part?_name {name : List Char} (h : IsName name) : part? name = some (.name name) := by
  simp [part?, isBlankPiece_piece h.isPiece, h.ne_dots]

theorem reversed_child {pre : List Char} (hpre : IsPrefix pre) {piece : List Char}
    (h : IsPiece piece) :
    ∃ before, pieces (front pre).2 = before.reverse ++ [[]] ∧
      reversed ⟨pre ++ piece⟩ = ((front pre).1, piece :: before) := by
  obtain ⟨before, hpieces, hchild⟩ := pieces_child (isPrefix_front hpre) h
  refine ⟨before.reverse, by rw [hpieces, List.reverse_reverse], ?_⟩
  rw [reversed, front_child hpre h]
  simp [hchild, isBlankPiece_piece h]

/-! ## Paths below paths -/

/-- What follows a path that does not start at the root is followed behind the path before it. -/
theorem names_join {p q : Path} (h : q.isAbsolute = false) :
    names (p.join q).chars = names p.chars ++ names q.chars := by
  rw [join, h]
  by_cases hempty : p.chars = []
  · simp [hempty]
  · by_cases hlast : p.chars.getLast? = some '/'
    · obtain ⟨before, hbefore⟩ := List.getLast?_eq_some_iff.mp hlast
      simpa [hlast] using names_prefix_append (.inr ⟨before, hbefore⟩) q.chars
    · simpa [hempty, hlast] using names_append_slash p.chars q.chars

/-! ## What is behind a prefix -/

theorem joined_pieces (cs : List Char) : joined (pieces cs) = cs :=
  List.intercalate_splitOn '/'

/-- The last name of a path and what stands before it. -/
theorem lastName?_child {pre : List Char} (hpre : IsPrefix pre) {name : List Char}
    (hname : IsName name) : lastName? ⟨pre ++ name⟩ = some (pre, name) := by
  obtain ⟨before, hpieces, hreversed⟩ := reversed_child hpre hname.isPiece
  rw [lastName?, hreversed]
  simp only [part?_name hname, List.reverse_cons]
  rw [← hpieces, joined_pieces, front_append]

/-- Two dots are no name. -/
theorem lastName?_up {pre : List Char} (hpre : IsPrefix pre) :
    lastName? ⟨pre ++ ['.', '.']⟩ = none := by
  obtain ⟨before, -, hreversed⟩ := reversed_child hpre isPiece_up
  rw [lastName?, hreversed]
  rfl

/-- Names put below a directory stand behind a prefix. -/
theorem child_name (p : Path) :
    ∃ pre, IsPrefix pre ∧
      ∀ name : String, IsName name.toList → p.child name = ⟨pre ++ name.toList⟩ := by
  have hrelative (name : String) (hname : IsName name.toList) :
      (ofText name).isAbsolute = false := by
    rcases h : name.toList with _ | ⟨c, cs⟩
    · exact absurd h hname.ne_nil
    · have hc : c ≠ '/' := fun heq => hname.no_slash (by simp [h, heq])
      simp [isAbsolute, ofText, h, hc]
  by_cases hempty : p.chars = []
  · refine ⟨[], .inl rfl, fun name hname => ?_⟩
    rw [child, join, hrelative name hname]
    simp [hempty, ofText]
  · by_cases hlast : p.chars.getLast? = some '/'
    · obtain ⟨before, hbefore⟩ := List.getLast?_eq_some_iff.mp hlast
      refine ⟨p.chars, .inr ⟨before, hbefore⟩, fun name hname => ?_⟩
      rw [child, join, hrelative name hname]
      simp [hlast, ofText]
    · refine ⟨p.chars ++ ['/'], .inr ⟨p.chars, rfl⟩, fun name hname => ?_⟩
      rw [child, join, hrelative name hname]
      simp [hempty, hlast, ofText]

/-- Another extension for a name behind a prefix. -/
theorem withExtension_child {pre : List Char} (hpre : IsPrefix pre) (name old stem : List Char)
    (hname : IsName (name ++ old)) (hcut : IsName name)
    (hold : (splitExtension (name ++ old)).2.getD [] = old) (hstem : (splitExtension name).1 = stem)
    (extension : List Char) :
    withExtension ⟨pre ++ (name ++ old)⟩ extension = ⟨pre ++ (stem ++ '.' :: extension)⟩ := by
  have htake : (pre ++ (name ++ old)).take ((pre ++ (name ++ old)).length - old.length) =
      pre ++ name := by
    rw [← List.append_assoc, List.length_append, Nat.add_sub_cancel, List.take_left']
    rfl
  simp only [withExtension, lastName?_child hpre hname, hold]
  rw [htake, replaceExtension, lastName?_child hpre hcut]
  simp only [hstem, List.append_assoc]

/-- A path that ends in two dots takes no extension. -/
theorem withExtension_up {pre : List Char} (hpre : IsPrefix pre) (extension : List Char) :
    withExtension ⟨pre ++ ['.', '.']⟩ extension = ⟨pre ++ ['.', '.']⟩ := by
  rw [withExtension, lastName?_up hpre]
  simp only [List.length_nil, Nat.sub_zero, List.take_length]
  rw [replaceExtension, lastName?_up hpre]

theorem takeWhile_not_dot {cs : List Char} (h : '.' ∉ cs) (rest : List Char) :
    (cs.reverse ++ rest).takeWhile (· ≠ '.') = cs.reverse ++ rest.takeWhile (· ≠ '.') := by
  apply List.takeWhile_append_of_pos
  intro c hc
  simpa using fun heq : c = '.' => h (heq ▸ List.mem_reverse.mp hc)

/-- What follows the last dot. -/
theorem takeWhile_extension (before : List Char) {extension : List Char} (h : '.' ∉ extension) :
    ((before ++ '.' :: extension).reverse.takeWhile (· ≠ '.')).reverse = extension := by
  rw [List.reverse_append, List.reverse_cons, List.append_assoc, takeWhile_not_dot h]
  simp

/-- The extension of a name is what follows its last dot. -/
theorem splitExtension_append {before extension : List Char} (hbefore : before ≠ [])
    (hextension : '.' ∉ extension) :
    splitExtension (before ++ '.' :: extension) = (before, some extension) := by
  have hlength : (before ++ '.' :: extension).length - extension.length - 1 = before.length := by
    rw [List.length_append, List.length_cons]
    omega
  rw [splitExtension]
  simp only [takeWhile_extension before hextension, hlength, List.take_left']
  rw [if_neg]
  simp only [List.length_append, List.length_cons, List.isEmpty_iff, hbefore, or_false]
  omega

/-- A name has no extension, or it has one behind its last dot. -/
theorem splitExtension_cases (name : List Char) :
    splitExtension name = (name, none) ∨ ∃ before extension, before ≠ [] ∧ '.' ∉ extension ∧
      name = before ++ '.' :: extension := by
  by_cases hdot : '.' ∈ name
  · obtain ⟨after, before, hname, hafter⟩ :=
      List.eq_append_cons_of_mem (List.mem_reverse.mpr hdot)
    have hextension : '.' ∉ after.reverse := by simpa using hafter
    have hname : name = before.reverse ++ '.' :: after.reverse := by
      rw [← List.reverse_reverse name, hname]
      simp
    by_cases hbefore : before.reverse = []
    · -- Its only dot is at the very start.
      rw [hbefore] at hname
      have hafter := takeWhile_extension [] hextension
      rw [← hname] at hafter
      refine .inl (if_pos (.inr ?_))
      rw [hafter, hname]
      simp
    · exact .inr ⟨_, _, hbefore, hextension, hname⟩
  · refine .inl (if_pos (.inl ?_))
    have hall := takeWhile_not_dot hdot []
    rw [List.append_nil, List.takeWhile_nil, List.append_nil] at hall
    rw [hall, List.reverse_reverse]

/-- A file is staged beside its place. -/
theorem staging_child {pre : List Char} (hpre : IsPrefix pre) (name old stem : List Char)
    (hname : IsName (name ++ old)) (hcut : IsName name)
    (hold : (splitExtension (name ++ old)).2.getD [] = old) (hstem : (splitExtension name).1 = stem)
    (suffix : List Char) :
    staging ⟨pre ++ (name ++ old)⟩ suffix =
      ⟨pre ++ ((stem ++ '.' :: "sync-".toList) ++ suffix)⟩ := by
  rw [staging, withExtension_child hpre name old stem hname hcut hold hstem, List.append_assoc,
    List.cons_append]

/-! ## The directories above a path -/

/-- No piece of a path has a slash in it. -/
theorem no_slash_of_mem_pieces {cs piece : List Char} (h : piece ∈ pieces cs) : '/' ∉ piece := by
  induction cs generalizing piece with
  | nil =>
    rw [pieces, List.splitOn_nil, List.mem_singleton] at h
    simp [h]
  | cons c cs ih =>
    rw [pieces, List.splitOn_cons_eq_if_modifyHead] at h
    split at h
    · rcases List.mem_cons.mp h with rfl | h
      · simp
      · exact ih h
    · rename_i hc
      rcases hpieces : cs.splitOn '/' with _ | ⟨first, others⟩
      · exact absurd hpieces (List.splitOn_ne_nil _ _)
      · have hfirst : '/' ∉ first := ih (by simp [pieces, hpieces])
        rw [hpieces, List.modifyHead_cons, List.mem_cons] at h
        rcases h with rfl | h
        · simp only [List.mem_cons, not_or]
          exact ⟨fun heq => hc (by simp [← heq]), hfirst⟩
        · exact ih (by simp [pieces, hpieces, h])

theorem joined_append {ps qs : List (List Char)} (hps : ps ≠ []) (hqs : qs ≠ []) :
    joined (ps ++ qs) = joined ps ++ '/' :: joined qs := by
  induction ps with
  | nil => contradiction
  | cons p ps ih =>
    by_cases h : ps = []
    · subst h
      simp [joined, List.intercalate_cons_of_ne_nil hqs]
    · have happend : ps ++ qs ≠ [] := by simp [h]
      have ih := ih h
      rw [joined, joined] at ih
      rw [joined, joined, List.cons_append, List.intercalate_cons_of_ne_nil happend,
        List.intercalate_cons_of_ne_nil h, ih]
      simp [joined]

theorem names_front (cs : List Char) : names cs = names (front cs).1 ++ names (front cs).2 := by
  unfold front
  split
  · exact names_append_slash [] _
  · rw [names_nil, List.append_nil]
  · rw [names_slash]
    exact names_append_slash ['.'] _
  · rw [names_nil, List.nil_append]

/-- The first of the pieces lead part of the way. -/
theorem names_pieces {cs : List Char} {kept tail : List (List Char)}
    (h : pieces (front cs).2 = kept ++ tail) :
    ∃ rest, names cs = names ((front cs).1 ++ joined kept) ++ rest := by
  by_cases hkept : kept = []
  · exact ⟨names (front cs).2, by simp [hkept, joined, names_front cs]⟩
  · by_cases htail : tail = []
    · rw [htail, List.append_nil] at h
      exact ⟨[], by rw [← h, joined_pieces, front_append, List.append_nil]⟩
    · refine ⟨names (joined tail), ?_⟩
      rw [← names_append_slash, List.append_assoc, ← joined_append hkept htail, ← h, joined_pieces,
        front_append]

theorem reverse_dropWhile_append (f : List Char → Bool) (before : List (List Char)) :
    before.reverse = (before.dropWhile f).reverse ++ (before.takeWhile f).reverse := by
  rw [← List.reverse_append, List.takeWhile_append_dropWhile]

/-- The directory that a path lies in is on the way to it. -/
theorem names_parent? {p q : Path} (h : p.parent? = some q) :
    ∃ rest, names p.chars = names q.chars ++ rest := by
  rcases hreversed : p.reversed with ⟨start, _ | ⟨piece, before⟩⟩
  · rw [parent?, hreversed] at h
    by_cases hstart : start = ['.']
    · cases (if_pos hstart).symm.trans h
      exact ⟨names p.chars, by simp⟩
    · cases (if_neg hstart).symm.trans h
  · have hstart : (front p.chars).1 = start := congrArg Prod.fst hreversed
    have hbefore : (pieces (front p.chars).2).reverse.dropWhile isBlankPiece = piece :: before :=
      congrArg Prod.snd hreversed
    -- Blanks are left out twice: behind the last name, and between it and the directory above.
    have hpieces := reverse_dropWhile_append isBlankPiece (pieces (front p.chars).2).reverse
    rw [List.reverse_reverse, hbefore, List.reverse_cons, reverse_dropWhile_append isBlankPiece,
      List.append_assoc, List.append_assoc] at hpieces
    rw [parent?, hreversed] at h
    cases h
    rw [← hstart]
    exact names_pieces hpieces

/-- The directory that a piece lies in is on the way to it, above the piece. -/
theorem names_parent?_child {pre : List Char} (hpre : IsPrefix pre) {piece : List Char}
    (hpiece : IsPiece piece) {q : Path} (h : parent? ⟨pre ++ piece⟩ = some q) :
    ∃ rest, names pre = names q.chars ++ rest := by
  obtain ⟨before, hpieces, hreversed⟩ := reversed_child hpre hpiece
  rw [parent?, hreversed] at h
  cases h
  rw [reverse_dropWhile_append isBlankPiece, List.append_assoc] at hpieces
  exact names_pieces hpieces

end UpdateAgent.Path
