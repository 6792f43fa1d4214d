import UpdateAgent.Proofs.File.Place

/-!
# The parts of a path

What a path says, whatever its text: a path below another has the parts of both (`parts_join`), a
path below the root those that are seen from there (`parts_belowRoot`), and the place that a path
leads to is told by its parts (`resolve_names`).
-/

namespace UpdateAgent.Path

variable {p q : Path} {pre rest : List Char}

/-! ## Parts of what is put together -/

theorem filterMap_pieces_append (hpre : IsPrefix pre) (rest : List Char) :
    (pieces (pre ++ rest)).filterMap part? =
      (pieces pre).filterMap part? ++ (pieces rest).filterMap part? := by
  rcases hpre with rfl | ⟨before, rfl⟩
  · rfl
  · have hlast : pieces (before ++ ['/']) = pieces before ++ [[]] :=
      List.splitOn_append_cons_self ..
    have hall : pieces (before ++ ['/'] ++ rest) = pieces before ++ pieces rest := by
      rw [List.append_assoc]
      exact List.splitOn_append_cons_self ..
    rw [hall, hlast, List.filterMap_append, List.filterMap_append]
    simp [part?, isBlankPiece]

/-- Behind a prefix come the parts of what has no start of its own. -/
theorem parts_prefix_append (hpre : IsPrefix pre) (hrest : front rest = ([], rest)) :
    parts ⟨pre ++ rest⟩ = parts ⟨pre⟩ ++ parts ⟨rest⟩ := by
  simp only [parts, front_prefix_append hpre hrest, hrest,
    filterMap_pieces_append (isPrefix_front hpre), List.append_assoc, List.nil_append]

/-- A slash at the end of a path adds no part. -/
theorem parts_slash (h : pre ≠ []) : parts ⟨pre ++ ['/']⟩ = parts ⟨pre⟩ := by
  have hpieces (cs : List Char) :
      (pieces (cs ++ ['/'])).filterMap part? = (pieces cs).filterMap part? := by
    have hlast : pieces (cs ++ ['/']) = pieces cs ++ [[]] := List.splitOn_append_cons_self ..
    rw [hlast, List.filterMap_append]
    simp [part?, isBlankPiece]
  simp only [parts, front_append_slash h, hpieces]

/-- What has no start of its own does not start at the root. -/
theorem isAbsolute_of_front (hq : front q.chars = ([], q.chars)) : q.isAbsolute = false := by
  rcases q with ⟨_ | ⟨c, cs⟩⟩
  · rfl
  · by_cases hc : c = '/'
    · subst hc
      cases hq
    · simpa [isAbsolute] using hc

/-- A path below another has the parts of both. -/
theorem parts_join (hq : front q.chars = ([], q.chars)) :
    (p.join q).parts = p.parts ++ q.parts := by
  rw [join, isAbsolute_of_front hq]
  by_cases hempty : p.chars = []
  · obtain ⟨chars⟩ := p
    obtain rfl : chars = [] := hempty
    rfl
  · by_cases hlast : p.chars.getLast? = some '/'
    · obtain ⟨before, hbefore⟩ := List.getLast?_eq_some_iff.mp hlast
      have hpre : IsPrefix p.chars := .inr ⟨before, hbefore⟩
      simpa [hlast] using parts_prefix_append hpre hq
    · have hpre : IsPrefix (p.chars ++ ['/']) := .inr ⟨p.chars, rfl⟩
      have hparts := parts_prefix_append hpre hq
      rw [parts_slash hempty, List.append_assoc, List.singleton_append] at hparts
      simpa [hempty, hlast] using hparts

theorem parts_piece {piece : List Char} (h : IsPiece piece) :
    parts ⟨piece⟩ = (part? piece).toList := by
  have hpieces : pieces piece = [piece] := List.splitOn_eq_singleton h.no_slash
  simp only [parts, front_piece h, hpieces, List.nil_append]
  cases hpart : part? piece <;> simp [hpart]

theorem parts_name {name : List Char} (h : IsName name) : parts ⟨name⟩ = [.name name] := by
  rw [parts_piece h.isPiece, part?_name h]
  rfl

/-! ## Parts below the root -/

/-- The parts of a path as they are seen from the root. -/
def seenFromRoot : List Part → List Part
  | .root :: ps => ps
  | ps => ps

theorem filterMap_dropWhile_blank (ps : List (List Char)) :
    (ps.dropWhile isBlankPiece).filterMap part? = ps.filterMap part? := by
  induction ps with
  | nil => rfl
  | cons piece ps ih =>
    by_cases h : isBlankPiece piece
    · have hpart : part? piece = none := if_pos h
      rw [List.dropWhile_cons_of_pos h, ih, List.filterMap_cons_none hpart]
    · rw [List.dropWhile_cons_of_neg h]

/-- Pieces of which the first is not blank make a path of their parts. -/
theorem parts_joined {piece : List Char} {ps : List (List Char)}
    (hslash : ∀ piece' ∈ piece :: ps, '/' ∉ piece') (h : isBlankPiece piece = false) :
    parts ⟨joined (piece :: ps)⟩ = (piece :: ps).filterMap part? := by
  have hpieces : pieces (joined (piece :: ps)) = piece :: ps :=
    List.splitOn_intercalate '/' hslash (List.cons_ne_nil piece ps)
  have hpiece : IsPiece piece := by
    simp only [isBlankPiece, Bool.or_eq_false_iff, List.isEmpty_eq_false_iff,
      beq_eq_false_iff_ne] at h
    by_cases hdots : piece = ['.', '.']
    · exact .inr hdots
    · exact .inl ⟨h.1, hslash piece List.mem_cons_self, h.2, hdots⟩
  have hsingle : joined [piece] = piece := List.intercalate_singleton
  have hfront : front (joined (piece :: ps)) = ([], joined (piece :: ps)) := by
    by_cases hps : ps = []
    · rw [hps, hsingle, front_piece hpiece]
    · have hjoined : joined ([piece] ++ ps) = joined [piece] ++ '/' :: joined ps :=
        joined_append (List.cons_ne_nil piece []) hps
      rw [hsingle, List.singleton_append] at hjoined
      rw [hjoined, front_append_slash hpiece.ne_nil, front_piece hpiece]
  simp only [parts, hfront, hpieces, List.nil_append]

theorem part?_ne_root (piece : List Char) : part? piece ≠ some .root := by
  rw [part?]
  split
  · simp
  · split <;> simp

/-- Only what starts with a slash starts at the root. -/
theorem root_mem_parts {cs : List Char} (h : Part.root ∈ parts ⟨cs⟩) :
    ∃ rest, cs = '/' :: rest := by
  have happend := front_append cs
  rw [parts] at h
  rcases hfront : front cs with ⟨start, body⟩
  simp only [hfront, List.mem_append] at h happend
  rcases h with h | h
  · split at h
    · exact ⟨body, happend.symm⟩
    · simp at h
    · cases h
  · obtain ⟨piece, -, hpiece⟩ := List.mem_filterMap.mp h
    exact absurd hpiece (part?_ne_root piece)

/-- What is left of pieces without the blank ones at either end. -/
def trimmed (ps : List (List Char)) : List (List Char) :=
  ((ps.dropWhile isBlankPiece).reverse.dropWhile isBlankPiece).reverse

theorem filterMap_trimmed (ps : List (List Char)) :
    (trimmed ps).filterMap part? = ps.filterMap part? := by
  rw [trimmed, List.filterMap_reverse, filterMap_dropWhile_blank, List.filterMap_reverse,
    List.reverse_reverse, filterMap_dropWhile_blank]

/-- What is left starts with the first piece that is not blank. -/
theorem trimmed_eq_cons {piece : List Char} {ps qs : List (List Char)}
    (h : trimmed ps = piece :: qs) :
    isBlankPiece piece = false ∧ ∀ piece' ∈ piece :: qs, piece' ∈ ps := by
  have hsplit := reverse_dropWhile_append isBlankPiece (ps.dropWhile isBlankPiece).reverse
  rw [List.reverse_reverse, ← trimmed, h] at hsplit
  constructor
  · have hhead := List.head?_dropWhile_not isBlankPiece ps
    rw [hsplit] at hhead
    exact hhead
  · intro piece' hpiece'
    refine (List.dropWhile_sublist isBlankPiece).subset ?_
    rw [hsplit]
    exact List.mem_append_left _ hpiece'

/-- Below the root, a path has the parts that are seen from there. -/
theorem parts_belowRoot (p : Path) : p.belowRoot.parts = seenFromRoot p.parts := by
  obtain ⟨chars⟩ := p
  by_cases h : ∃ rest, chars = '/' :: rest
  · obtain ⟨rest, rfl⟩ := h
    show parts ⟨joined (trimmed (pieces rest))⟩ = (pieces rest).filterMap part?
    rw [← filterMap_trimmed]
    rcases htrimmed : trimmed (pieces rest) with _ | ⟨piece, ps⟩
    · rfl
    · obtain ⟨hblank, hmem⟩ := trimmed_eq_cons htrimmed
      exact parts_joined (fun piece' h => no_slash_of_mem_pieces (hmem piece' h)) hblank
  · have hbelow : belowRoot ⟨chars⟩ = ⟨chars⟩ := by
      rw [belowRoot]
      split
      · rename_i rest hchars
        exact absurd ⟨rest, hchars⟩ h
      · rfl
    have hroot : Part.root ∉ parts ⟨chars⟩ := by
      intro hroot
      exact h (root_mem_parts hroot)
    rw [hbelow]
    rcases hparts : parts ⟨chars⟩ with _ | ⟨part, ps⟩
    · rfl
    · cases part with
      | root => simp [hparts] at hroot
      | _ => rfl

theorem belowRoot_name {name : List Char} (h : IsName name) :
    belowRoot ⟨'/' :: name⟩ = ⟨name⟩ := by
  have hpieces : pieces name = [name] := List.splitOn_eq_singleton h.no_slash
  show (⟨joined (trimmed (pieces name))⟩ : Path) = ⟨name⟩
  rw [hpieces, trimmed]
  simp [isBlankPiece_piece h.isPiece, joined]

/-! ## Where parts lead -/

/-- The place that a part leads to from another. -/
def follow (d : Place) : Part → Place
  | .root | .here => d
  | .up => d.dropLast
  | .name n => d ++ [n]

/-- Where a path leads is told by its parts. -/
theorem resolve_names (p : Path) : Tree.resolve (names p.chars) = p.parts.foldl follow [] := by
  -- A piece that is no part leads nowhere.
  have hpieces (d : Place) (pieces : List (List Char)) :
      (pieces.filter (!·.isEmpty)).foldl (fun d n =>
        if n = ['.'] then d else if n = ['.', '.'] then d.dropLast else d ++ [n]) d =
      (pieces.filterMap part?).foldl follow d := by
    rw [List.foldl_filter, List.foldl_filterMap]
    congr 1
    funext d piece
    by_cases hnil : piece = []
    · subst hnil
      rfl
    · by_cases hdot : piece = ['.']
      · subst hdot
        rfl
      · by_cases hdots : piece = ['.', '.']
        · subst hdots
          rfl
        · simp [part?, isBlankPiece, hnil, hdot, hdots, follow]
  have hfront : Tree.resolve (names p.chars) = ((pieces (front p.chars).2).filterMap part?).foldl
      follow [] := by
    rw [names_front, Tree.resolve, List.foldl_append, ← hpieces]
    unfold front
    split <;> rfl
  rw [hfront, parts, List.foldl_append]
  congr 1
  split <;> rfl

theorem foldl_follow_names (d : Place) (ns : List Name) :
    (ns.map Part.name).foldl follow d = d ++ ns := by
  induction ns generalizing d with
  | nil => exact (List.append_nil d).symm
  | cons n ns ih =>
    rw [List.map_cons, List.foldl_cons, ih, follow, List.append_assoc, List.singleton_append]

end UpdateAgent.Path
