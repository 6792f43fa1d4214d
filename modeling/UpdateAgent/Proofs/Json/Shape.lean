import UpdateAgent.Proofs.Json.Lexis

/-!
# Reading the shape of a document

A byte string is read as a shape if and only if the grammar derives it (`read?_eq_some_iff`). What
is read is derived, by induction on the turns; what is derived is read, by induction on the
derivation, whatever comes after it.
-/

namespace UpdateAgent.Json

/-! ## White space in front -/

section Blank

variable {blank blank' text : Bytes}

theorem blank_nil : Blank [] :=
  nofun

theorem Blank.append (h : Blank blank) (h' : Blank blank') : Blank (blank ++ blank') :=
  List.forall_mem_append.mpr ⟨h, h'⟩

theorem element_of_blank {r : Raw} (h : Blank blank) (hwritten : Written (.element r) text) :
    Written (.element r) (blank ++ text) := by
  cases hwritten with
  | element hbefore this hafter =>
    rw [← List.append_assoc]
    exact .element (h.append hbefore) this hafter

theorem elements_of_blank {rs : List Raw} (h : Blank blank)
    (hwritten : Written (.elements rs) text) : Written (.elements rs) (blank ++ text) := by
  cases hwritten with
  | lastElement this => exact .lastElement (element_of_blank h this)
  | nextElement this others =>
    rw [← List.append_assoc]
    exact .nextElement (element_of_blank h this) others

theorem key_of_blank {key : List Piece} (h : Blank blank) (hkey : Key key text) :
    Key key (blank ++ text) := by
  cases hkey with
  | colon hbefore literal hafter =>
    rw [← List.append_assoc]
    exact .colon (h.append hbefore) literal hafter

theorem members_of_blank {ms : List (List Piece × Raw)} (h : Blank blank)
    (hwritten : Written (.members ms) text) : Written (.members ms) (blank ++ text) := by
  cases hwritten with
  | lastMember keyed this =>
    rw [← List.append_assoc]
    exact .lastMember (key_of_blank h keyed) this
  | nextMember keyed this others =>
    rw [← List.append_assoc]
    exact .nextMember (key_of_blank h keyed) this others

end Blank

namespace Raw

variable {bytes rest text : Bytes} {r : Raw} {turns : Nat}

/-! ## What is read is derived -/

/-- What is read in so many turns is derived: a value with white space before it, and elements or
members up to the end of what they are in. -/
structure Sound (turns : Nat) : Prop where
  value {bytes rest : Bytes} {r : Raw} (h : value? turns bytes = some (r, rest)) :
    ∃ before text, Blank before ∧ Written (.value r) text ∧ bytes = before ++ (text ++ rest)
  items {done : List Raw} {bytes rest : Bytes} {r : Raw}
    (h : items? turns done bytes = some (r, rest)) :
    ∃ rs text, r = .list (done.reverse ++ rs) ∧ Written (.elements rs) text ∧
      bytes = text ++ ascii ']' :: rest
  members {done : List (List Piece × Raw)} {bytes rest : Bytes} {r : Raw}
    (h : members? turns done bytes = some (r, rest)) :
    ∃ ms text, r = .object (done.reverse ++ ms) ∧ Written (.members ms) text ∧
      bytes = text ++ ascii '}' :: rest

/-- With the white space after it, a value is an element. -/
theorem Sound.element (h : Sound turns) (hvalue : value? turns bytes = some (r, rest)) :
    ∃ text, Written (.element r) text ∧ bytes = text ++ skipBlank rest := by
  obtain ⟨before, text, hbefore, hwritten, rfl⟩ := h.value hvalue
  obtain ⟨after, hafter, hrest⟩ := exists_blank rest
  refine ⟨_, .element hbefore hwritten hafter, ?_⟩
  rw [List.append_assoc, List.append_assoc, ← hrest]

theorem Sound.list (h : Sound turns)
    (hlist : (match accept (ascii ']') (skipBlank bytes) with
      | (true, rest) => some (.list [], rest)
      | (false, rest) => items? turns [] rest) = some (r, rest)) :
    ∃ text, Written (.value r) text ∧ ascii '[' :: bytes = text ++ rest := by
  obtain ⟨blank, hblank, hbytes⟩ := exists_blank bytes
  rcases haccept : accept (ascii ']') (skipBlank bytes) with ⟨_ | _, after⟩
  · rw [haccept] at hlist
    obtain ⟨rs, text, rfl, hwritten, rfl⟩ := h.items hlist
    rw [← accept_false haccept] at hbytes
    exact ⟨_, .list (elements_of_blank hblank hwritten), by rw [hbytes]; simp⟩
  · rw [haccept] at hlist
    cases hlist
    rw [accept_true haccept] at hbytes
    exact ⟨_, .emptyList hblank, by rw [hbytes]; simp⟩

theorem Sound.object (h : Sound turns)
    (hobject : (match accept (ascii '}') (skipBlank bytes) with
      | (true, rest) => some (.object [], rest)
      | (false, rest) => members? turns [] rest) = some (r, rest)) :
    ∃ text, Written (.value r) text ∧ ascii '{' :: bytes = text ++ rest := by
  obtain ⟨blank, hblank, hbytes⟩ := exists_blank bytes
  rcases haccept : accept (ascii '}') (skipBlank bytes) with ⟨_ | _, after⟩
  · rw [haccept] at hobject
    obtain ⟨ms, text, rfl, hwritten, rfl⟩ := h.members hobject
    rw [← accept_false haccept] at hbytes
    exact ⟨_, .object (members_of_blank hblank hwritten), by rw [hbytes]; simp⟩
  · rw [haccept] at hobject
    cases hobject
    rw [accept_true haccept] at hbytes
    exact ⟨_, .emptyObject hblank, by rw [hbytes]; simp⟩

/-- What follows the first letter of a word. -/
theorem word_of_afterWord? {r' : Raw} (c : Char) {cs : List Char}
    (h : (afterWord? cs bytes).map (r, ·) = some (r', rest)) :
    r' = r ∧ ascii c :: bytes = word (c :: cs) ++ rest := by
  obtain ⟨after, hafter, heq⟩ := Option.map_eq_some_iff.mp h
  cases heq
  exact ⟨rfl, congrArg (ascii c :: ·) (afterWord?_eq_some_iff.mp hafter)⟩

/-- By its first byte, which tells what a value is. -/
theorem Sound.value_succ (h : Sound turns) (hvalue : value? (turns + 1) bytes = some (r, rest)) :
    ∃ before text, Blank before ∧ Written (.value r) text ∧ bytes = before ++ (text ++ rest) := by
  obtain ⟨before, hbefore, hbytes⟩ := exists_blank bytes
  suffices htext : ∃ text, Written (.value r) text ∧ skipBlank bytes = text ++ rest by
    obtain ⟨text, hwritten, htext⟩ := htext
    exact ⟨before, text, hbefore, hwritten, htext ▸ hbytes⟩
  rw [value?] at hvalue
  rcases hskip : skipBlank bytes with _ | ⟨b, after⟩
  · rw [hskip] at hvalue
    cases hvalue
  rw [hskip] at hvalue
  dsimp only at hvalue
  split_ifs at hvalue with hquote hbracket hbrace hn ht hf
  · subst hquote
    split at hvalue
    · rename_i ps after' hscan
      cases hvalue
      obtain ⟨inner, hpieces, rfl⟩ := Text.scan_eq_some hscan
      exact ⟨_, .text (.quoted hpieces), by simp⟩
    · cases hvalue
  · rw [hbracket]
    exact h.list hvalue
  · rw [hbrace]
    exact h.object hvalue
  · obtain ⟨rfl, heq⟩ := word_of_afterWord? 'n' hvalue
    rw [hn]
    exact ⟨_, .null, heq⟩
  · obtain ⟨rfl, heq⟩ := word_of_afterWord? 't' hvalue
    rw [ht]
    exact ⟨_, .true, heq⟩
  · obtain ⟨rfl, heq⟩ := word_of_afterWord? 'f' hvalue
    rw [hf]
    exact ⟨_, .false, heq⟩
  · split at hvalue
    · rename_i n after' hnumeral
      cases hvalue
      obtain ⟨text, hwritten, htext⟩ := numeral?_eq_some hnumeral
      exact ⟨text, .number hwritten, htext⟩
    · cases hvalue

theorem Sound.items_succ (h : Sound turns) {done : List Raw}
    (hitems : items? (turns + 1) done bytes = some (r, rest)) :
    ∃ rs text, r = .list (done.reverse ++ rs) ∧ Written (.elements rs) text ∧
      bytes = text ++ ascii ']' :: rest := by
  rw [items?] at hitems
  split at hitems
  · cases hitems
  · rename_i item after hvalue
    obtain ⟨text, hwritten, rfl⟩ := h.element hvalue
    rcases hskip : skipBlank after with _ | ⟨b, after'⟩
    · rw [hskip] at hitems
      cases hitems
    rw [hskip] at hitems
    dsimp only at hitems
    split_ifs at hitems with hcomma hbracket
    · obtain ⟨rs, text', rfl, hothers, rfl⟩ := h.items hitems
      refine ⟨item :: rs, _, by simp, .nextElement hwritten hothers, ?_⟩
      rw [hcomma, List.append_assoc, List.cons_append]
    · cases hitems
      exact ⟨[item], text, by simp, .lastElement hwritten, by rw [hbracket]⟩

theorem key_of_scan {key : List Piece} {after after' : Bytes}
    (hquote : accept (ascii '"') (skipBlank bytes) = (true, after))
    (hscan : Text.scan [] after = some (key, after'))
    (hcolon : accept (ascii ':') (skipBlank after') = (true, rest)) :
    ∃ text, Key key text ∧ bytes = text ++ rest := by
  obtain ⟨before, hbefore, hbytes⟩ := exists_blank bytes
  obtain ⟨inner, hpieces, rfl⟩ := Text.scan_eq_some hscan
  obtain ⟨blank, hblank, hafter⟩ := exists_blank after'
  refine ⟨_, .colon hbefore (.quoted hpieces) hblank, ?_⟩
  rw [hbytes, accept_true hquote, hafter, accept_true hcolon]
  simp

theorem Sound.members_succ (h : Sound turns) {done : List (List Piece × Raw)}
    (hmembers : members? (turns + 1) done bytes = some (r, rest)) :
    ∃ ms text, r = .object (done.reverse ++ ms) ∧ Written (.members ms) text ∧
      bytes = text ++ ascii '}' :: rest := by
  rw [members?] at hmembers
  split at hmembers
  · cases hmembers
  rename_i after hquote
  split at hmembers
  · cases hmembers
  rename_i key after' hscan
  split at hmembers
  · cases hmembers
  rename_i after'' hcolon
  split at hmembers
  · cases hmembers
  rename_i value rest' hvalue
  obtain ⟨keyText, hkey, rfl⟩ := key_of_scan hquote hscan hcolon
  obtain ⟨text, hwritten, rfl⟩ := h.element hvalue
  rcases hskip : skipBlank rest' with _ | ⟨b, after⟩
  · rw [hskip] at hmembers
    cases hmembers
  rw [hskip] at hmembers
  dsimp only at hmembers
  split_ifs at hmembers with hcomma hbrace
  · obtain ⟨ms, text', rfl, hothers, rfl⟩ := h.members hmembers
    refine ⟨(key, value) :: ms, _, by simp, .nextMember hkey hwritten hothers, ?_⟩
    rw [hcomma, List.append_assoc, List.append_assoc, List.cons_append]
  · cases hmembers
    refine ⟨[(key, value)], _, by simp, .lastMember hkey hwritten, ?_⟩
    rw [hbrace, List.append_assoc]

/-- Whatever is read is derived. -/
theorem sound (turns : Nat) : Sound turns := by
  induction turns with
  | zero => exact ⟨nofun, nofun, nofun⟩
  | succ turns ih => exact ⟨ih.value_succ, ih.items_succ, ih.members_succ⟩

/-! ## What is derived is read -/

theorem skipBlank_cons {b : UInt8} (h : isBlank b = false) (rest : Bytes) :
    skipBlank (b :: rest) = b :: rest := by
  simp [skipBlank, h]

theorem value?_blank {blank : Bytes} (h : Blank blank) (turns : Nat) (bytes : Bytes) :
    value? turns (blank ++ bytes) = value? turns bytes := by
  cases turns with
  | zero => rfl
  | succ turns => rw [value?, value?, skipBlank_append h]

theorem items?_blank {blank : Bytes} (h : Blank blank) (turns : Nat) (done : List Raw)
    (bytes : Bytes) : items? turns done (blank ++ bytes) = items? turns done bytes := by
  cases turns with
  | zero => rfl
  | succ turns => rw [items?, items?, value?_blank h]

theorem members?_blank {blank : Bytes} (h : Blank blank) (turns : Nat)
    (done : List (List Piece × Raw)) (bytes : Bytes) :
    members? turns done (blank ++ bytes) = members? turns done bytes := by
  cases turns with
  | zero => rfl
  | succ turns => rw [members?, members?, skipBlank_append h]

/-- A value begins with a byte that is neither blank nor the end of a list. -/
theorem exists_head (h : Written (.value r) text) :
    ∃ b after, text = b :: after ∧ isBlank b = false ∧ b ≠ ascii ']' := by
  cases h with
  | null => exact ⟨_, _, rfl, by decide, by decide⟩
  | true => exact ⟨_, _, rfl, by decide, by decide⟩
  | false => exact ⟨_, _, rfl, by decide, by decide⟩
  | number numeral =>
    obtain ⟨b, after, rfl, hbegins⟩ := exists_numeral_head numeral
    obtain ⟨hblank, hne⟩ := ne_of_begins hbegins
    exact ⟨b, after, rfl, hblank, hne ']' (by decide)⟩
  | text literal =>
    cases literal
    exact ⟨_, _, rfl, by decide, by decide⟩
  | emptyList => exact ⟨_, _, rfl, by decide, by decide⟩
  | list => exact ⟨_, _, rfl, by decide, by decide⟩
  | emptyObject => exact ⟨_, _, rfl, by decide, by decide⟩
  | object => exact ⟨_, _, rfl, by decide, by decide⟩

/-- A list with elements is not taken for an empty one. -/
theorem accept_elements {rs : List Raw} (h : Written (.elements rs) text) (rest : Bytes) :
    ∃ blank after, Blank blank ∧ text ++ rest = blank ++ after ∧
      accept (ascii ']') (skipBlank (text ++ rest)) = (false, after) := by
  obtain ⟨r, first, others, rfl, hfirst⟩ : ∃ r first others, text = first ++ others ∧
      Written (.element r) first := by
    cases h with
    | lastElement this => exact ⟨_, text, [], (List.append_nil _).symm, this⟩
    | nextElement this => exact ⟨_, _, _, rfl, this⟩
  cases hfirst with
  | @element _ before inner after blank this blank' =>
    obtain ⟨b, tail, rfl, hblank, hne⟩ := exists_head this
    refine ⟨before, _, blank, by rw [List.append_assoc, List.append_assoc], ?_⟩
    rw [List.append_assoc, List.append_assoc, skipBlank_append blank, List.append_assoc,
      List.cons_append, skipBlank_cons hblank]
    exact accept_of_head?_ne fun c hc => by cases hc; exact hne

/-- An object with members is not taken for an empty one. -/
theorem accept_members {ms : List (List Piece × Raw)} (h : Written (.members ms) text)
    (rest : Bytes) : ∃ blank after, Blank blank ∧ text ++ rest = blank ++ after ∧
      accept (ascii '}') (skipBlank (text ++ rest)) = (false, after) := by
  obtain ⟨key, first, others, rfl, hfirst⟩ : ∃ key first others, text = first ++ others ∧
      Key key first := by
    cases h with
    | lastMember keyed => exact ⟨_, _, _, rfl, keyed⟩
    | nextMember keyed => exact ⟨_, _, _, rfl, keyed⟩
  cases hfirst with
  | @colon before bytes after blank literal blank' =>
    cases literal with
    | @quoted inner pieces =>
      refine ⟨before, _, blank, by rw [List.append_assoc, List.append_assoc], ?_⟩
      rw [List.append_assoc, List.append_assoc, skipBlank_append blank, List.append_assoc,
        List.cons_append, skipBlank_cons rfl]
      exact accept_of_head?_ne fun c hc => by cases hc; decide

theorem value?_text (turns : Nat) {after : Bytes} {pieces : List Piece}
    (h : Text.scan [] rest = some (pieces, after)) :
    value? (turns + 1) (ascii '"' :: rest) = some (.text pieces, after) := by
  rw [value?, skipBlank_cons rfl]
  dsimp only
  rw [if_pos rfl, h]

theorem value?_list (turns : Nat) (rest : Bytes) :
    value? (turns + 1) (ascii '[' :: rest) =
      match accept (ascii ']') (skipBlank rest) with
      | (true, rest) => some (.list [], rest)
      | (false, rest) => items? turns [] rest := by
  rw [value?, skipBlank_cons rfl]
  rfl

theorem value?_object (turns : Nat) (rest : Bytes) :
    value? (turns + 1) (ascii '{' :: rest) =
      match accept (ascii '}') (skipBlank rest) with
      | (true, rest) => some (.object [], rest)
      | (false, rest) => members? turns [] rest := by
  rw [value?, skipBlank_cons rfl]
  rfl

theorem value?_number (turns : Nat) {n : Numeral} (h : n.Written text) (hrest : Closes rest) :
    value? (turns + 1) (text ++ rest) = some (.number n, rest) := by
  have hnumeral := numeral?_written h hrest
  obtain ⟨b, after, rfl, hbegins⟩ := exists_numeral_head h
  obtain ⟨hblank, hne⟩ := ne_of_begins hbegins
  rw [List.cons_append] at hnumeral ⊢
  rw [value?, skipBlank_cons hblank]
  dsimp only
  rw [if_neg (hne _ (by decide)), if_neg (hne _ (by decide)), if_neg (hne _ (by decide)),
    if_neg (hne _ (by decide)), if_neg (hne _ (by decide)), if_neg (hne _ (by decide)), hnumeral]

/-- How elements go on behind one that was read. -/
theorem items?_value {turns : Nat} {after : Bytes} {b : UInt8}
    (hvalue : value? turns bytes = some (r, after)) (hafter : skipBlank after = b :: rest)
    (done : List Raw) :
    items? (turns + 1) done bytes =
      if b = ascii ',' then items? turns (r :: done) rest
      else if b = ascii ']' then some (.list (r :: done).reverse, rest)
      else none := by
  rw [items?, hvalue]
  dsimp only
  rw [hafter]

/-- How members go on behind one that was read. -/
theorem members?_value {key : List Piece} (h : Key key text) {turns : Nat} {after : Bytes}
    {b : UInt8} (hvalue : value? turns bytes = some (r, after))
    (hafter : skipBlank after = b :: rest) (done : List (List Piece × Raw)) :
    members? (turns + 1) done (text ++ bytes) =
      if b = ascii ',' then members? turns ((key, r) :: done) rest
      else if b = ascii '}' then some (.object ((key, r) :: done).reverse, rest)
      else none := by
  cases h with
  | @colon before name between blank literal blank' =>
    cases literal with
    | @quoted inner pieces =>
      have hscan := Text.scan_pieces pieces [] (between ++ ascii ':' :: bytes)
      rw [List.append_assoc, members?_blank blank, members?]
      simp only [List.cons_append, List.append_assoc, List.nil_append]
      rw [skipBlank_cons rfl, accept_self]
      dsimp only
      rw [hscan]
      dsimp only
      rw [skipBlank_append blank', skipBlank_cons rfl, accept_self]
      dsimp only
      rw [hvalue]
      dsimp only
      rw [hafter]
      rfl

/-- So much of a byte string is read as a phrase, in enough turns, whatever comes after it. -/
def Reads : Phrase → Bytes → Prop
  | .value r, text => ∀ turns rest, 2 * text.length ≤ turns → Closes rest →
      value? (turns + 1) (text ++ rest) = some (r, rest)
  | .element r, text => ∀ turns rest, 2 * text.length ≤ turns → Closes rest →
      ∃ rest', value? (turns + 1) (text ++ rest) = some (r, rest') ∧
        skipBlank rest' = skipBlank rest
  | .elements rs, text => ∀ turns done rest, 2 * text.length + 1 ≤ turns →
      items? (turns + 1) done (text ++ ascii ']' :: rest) = some (.list (done.reverse ++ rs), rest)
  | .members ms, text => ∀ turns done rest, 2 * text.length + 1 ≤ turns →
      members? (turns + 1) done (text ++ ascii '}' :: rest) =
        some (.object (done.reverse ++ ms), rest)

/-- Whatever is derived is read, by induction on the derivation. -/
theorem reads {p : Phrase} (h : Written p text) : Reads p text := by
  induction h with
  | null => exact fun turns rest _ _ => rfl
  | true => exact fun turns rest _ _ => rfl
  | false => exact fun turns rest _ _ => rfl
  | number numeral => exact fun turns rest _ hrest => value?_number turns numeral hrest
  | text literal =>
    intro turns rest _ _
    cases literal with
    | quoted pieces =>
      rw [List.cons_append, List.append_assoc]
      exact value?_text turns (Text.scan_pieces pieces [] rest)
  | emptyList blank =>
    intro turns rest _ _
    rw [List.cons_append, List.append_assoc, value?_list, skipBlank_append blank,
      List.singleton_append, skipBlank_cons rfl, accept_self]
  | @list rs text items ih =>
    intro turns rest hturns _
    rw [List.length_cons, List.length_append] at hturns
    obtain ⟨turns, rfl⟩ : ∃ t, turns = t + 1 := ⟨turns - 1, by omega⟩
    obtain ⟨blank, after, hblank, htext, haccept⟩ := accept_elements items ([ascii ']'] ++ rest)
    have hitems := ih turns [] rest (by omega)
    rw [← List.singleton_append, htext, items?_blank hblank] at hitems
    rw [List.cons_append, List.append_assoc, value?_list, haccept]
    exact hitems
  | emptyObject blank =>
    intro turns rest _ _
    rw [List.cons_append, List.append_assoc, value?_object, skipBlank_append blank,
      List.singleton_append, skipBlank_cons rfl, accept_self]
  | @object ms text members ih =>
    intro turns rest hturns _
    rw [List.length_cons, List.length_append] at hturns
    obtain ⟨turns, rfl⟩ : ∃ t, turns = t + 1 := ⟨turns - 1, by omega⟩
    obtain ⟨blank, after, hblank, htext, haccept⟩ := accept_members members ([ascii '}'] ++ rest)
    have hmembers := ih turns [] rest (by omega)
    rw [← List.singleton_append, htext, members?_blank hblank] at hmembers
    rw [List.cons_append, List.append_assoc, value?_object, haccept]
    exact hmembers
  | @element r before text after blank _ blank' ih =>
    intro turns rest hturns hrest
    rw [List.length_append, List.length_append] at hturns
    refine ⟨after ++ rest, ?_, skipBlank_append blank' rest⟩
    rw [List.append_assoc, value?_blank blank, List.append_assoc]
    exact ih turns _ (by omega) (blank'.closes hrest)
  | @lastElement r text _ ih =>
    intro turns done rest hturns
    obtain ⟨turns, rfl⟩ : ∃ t, turns = t + 1 := ⟨turns - 1, by omega⟩
    obtain ⟨after, hvalue, hafter⟩ := ih turns (ascii ']' :: rest) (by omega)
      (closes_cons (by decide) rest)
    rw [skipBlank_cons rfl] at hafter
    rw [items?_value hvalue hafter, if_neg (by decide), if_pos rfl, List.reverse_cons]
  | @nextElement r rs text others _ _ ih ihothers =>
    intro turns done rest hturns
    rw [List.length_append, List.length_cons] at hturns
    obtain ⟨turns, rfl⟩ : ∃ t, turns = t + 1 := ⟨turns - 1, by omega⟩
    obtain ⟨after, hvalue, hafter⟩ := ih turns (ascii ',' :: (others ++ ascii ']' :: rest))
      (by omega) (closes_cons (by decide) _)
    rw [skipBlank_cons rfl] at hafter
    rw [List.append_assoc, List.cons_append, items?_value hvalue hafter, if_pos rfl,
      ihothers turns (r :: done) rest (by omega), List.reverse_cons, List.append_assoc,
      List.singleton_append]
  | @lastMember key r before text keyed _ ih =>
    intro turns done rest hturns
    rw [List.length_append] at hturns
    obtain ⟨turns, rfl⟩ : ∃ t, turns = t + 1 := ⟨turns - 1, by omega⟩
    obtain ⟨after, hvalue, hafter⟩ := ih turns (ascii '}' :: rest) (by omega)
      (closes_cons (by decide) rest)
    rw [skipBlank_cons rfl] at hafter
    rw [List.append_assoc, members?_value keyed hvalue hafter, if_neg (by decide), if_pos rfl,
      List.reverse_cons]
  | @nextMember key r ms before text others keyed _ _ ih ihothers =>
    intro turns done rest hturns
    rw [List.length_append, List.length_append, List.length_cons] at hturns
    obtain ⟨turns, rfl⟩ : ∃ t, turns = t + 1 := ⟨turns - 1, by omega⟩
    obtain ⟨after, hvalue, hafter⟩ := ih turns (ascii ',' :: (others ++ ascii '}' :: rest))
      (by omega) (closes_cons (by decide) _)
    rw [skipBlank_cons rfl] at hafter
    rw [List.append_assoc, List.append_assoc, List.cons_append,
      members?_value keyed hvalue hafter, if_pos rfl,
      ihothers turns ((key, r) :: done) rest (by omega), List.reverse_cons, List.append_assoc,
      List.singleton_append]

/-- What is read is what the grammar derives. -/
theorem read?_eq_some_iff : read? bytes = some r ↔ Document bytes r := by
  constructor
  · intro h
    rw [read?] at h
    split at h
    · rename_i value rest hvalue
      split at h
      · rename_i hrest
        cases h
        obtain ⟨text, hwritten, htext⟩ := (sound _).element hvalue
        rw [hrest, List.append_nil] at htext
        rw [htext]
        exact hwritten
      · cases h
    · cases h
  · intro h
    obtain ⟨rest, hvalue, hrest⟩ := reads h (2 * bytes.length + 1) [] (by omega) closes_nil
    rw [List.append_nil] at hvalue
    rw [read?, hvalue]
    exact if_pos hrest

end Raw

end UpdateAgent.Json
