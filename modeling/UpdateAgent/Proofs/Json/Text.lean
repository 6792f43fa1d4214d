import UpdateAgent.Proofs.Json.Spelling

/-!
# Written strings

A written text is a string of the grammar (`literal_quote`), and its pieces spell the text
(`spells_written`), so it is decoded again whatever its characters are.
-/

namespace UpdateAgent.Json.Text

/-- The pieces that a character is written with. -/
def pieces (c : Char) : List Piece :=
  if c = '"' ∨ c = '\\' ∨ c = '\x08' ∨ c = '\x0c' ∨ c = '\n' ∨ c = '\r' ∨ c = '\t' then
    [.short c]
  else if c.toNat < 0x20 then [.unit c.toNat]
  else (Utf8.encodeChar c).map .byte

/-- They spell it. -/
theorem spelling_pieces (c : Char) : Spelling (pieces c) c := by
  unfold pieces
  split_ifs with _ hcontrol
  · exact .short c
  · -- A control character is no half of a surrogate pair.
    have hunit := Spelling.unit (.inl (show c.toNat < 0xD800 by omega))
    rwa [Char.ofNat_toNat] at hunit
  · exact .bytes c

/-- The pieces that a text is written with. -/
def written (s : String) : List Piece :=
  s.toList.flatMap pieces

theorem spells_written (s : String) : Spells (written s) s.toList := by
  rw [written]
  induction s.toList with
  | nil => exact .nil
  | cons c cs ih => exact .cons (spelling_pieces c) ih

/-- A written text is decoded again. -/
theorem text?_written (s : String) : text? (written s) = some s := by
  rw [text?, chars?, bytesFrom_spells (spells_written s)]
  simp [Utf8.decode?_encode]

/-! ## As the grammar has them -/

/-- A character that is not escaped is written as bytes that stand for themselves. -/
theorem isPlain_of_mem_encodeChar {c : Char} (hquote : c ≠ '"') (hbackslash : c ≠ '\\')
    (hcontrol : 0x20 ≤ c.toNat) {b : UInt8} (h : b ∈ Utf8.encodeChar c) : IsPlain b := by
  have hq : (ascii '"').toNat = '"'.toNat := rfl
  have hb : (ascii '\\').toNat = '\\'.toNat := rfl
  have hlow : '"'.toNat = 0x22 ∧ '\\'.toNat = 0x5C := ⟨rfl, rfl⟩
  rcases Utf8.toNat_of_mem_encodeChar h with heq | hge
  · refine ⟨?_, ?_, by omega⟩
    · rintro rfl
      exact hquote (Char.toNat_inj.mp (heq.symm.trans hq))
    · rintro rfl
      exact hbackslash (Char.toNat_inj.mp (heq.symm.trans hb))
  · refine ⟨?_, ?_, by omega⟩ <;>
    · rintro rfl
      omega

theorem lower_lt {d : Nat} (h : d < 16) : (Hex.lower d).toNat < 0x80 := by
  revert d
  decide

theorem hexDigit?_lower {d : Nat} (h : d < 16) : hexDigit? (ascii (Hex.lower d)) = some d := by
  revert d
  decide

theorem piece_unit {n : Nat} (h : n < 0x20) :
    (Piece.unit n).Written [ascii '\\', ascii 'u', ascii '0', ascii '0',
      ascii (Hex.lower (n / 16)), ascii (Hex.lower (n % 16))] := by
  have hzero : hexDigit? (ascii '0') = some 0 := rfl
  have hhigh := hexDigit?_lower (show n / 16 < 16 by omega)
  have hlow := hexDigit?_lower (show n % 16 < 16 by omega)
  have hvalue : ((0 * 16 + 0) * 16 + n / 16) * 16 + n % 16 = n := by omega
  have hunit := Piece.Written.unit hzero hzero hhigh hlow
  rwa [hvalue] at hunit

theorem pieces_singleton {p : Piece} {bytes : Bytes} (h : p.Written bytes) : Pieces [p] bytes := by
  have hpieces := Pieces.cons h .nil
  rwa [List.append_nil] at hpieces

theorem pieces_bytes {bytes : Bytes} (h : ∀ b ∈ bytes, IsPlain b) :
    Pieces (bytes.map .byte) bytes := by
  induction bytes with
  | nil => exact .nil
  | cons b bytes ih =>
    exact .cons (.byte (h b List.mem_cons_self)) (ih fun b hb => h b (List.mem_cons_of_mem _ hb))

theorem pieces_append {ps qs : List Piece} {bytes bytes' : Bytes} (h : Pieces ps bytes)
    (h' : Pieces qs bytes') : Pieces (ps ++ qs) (bytes ++ bytes') := by
  induction h with
  | nil => exact h'
  | cons this _ ih =>
    rw [List.cons_append, List.append_assoc]
    exact .cons this ih

/-- What a character is written as are its pieces. -/
theorem pieces_escape (c : Char) : Pieces (pieces c) (Utf8.encode (escape c)) := by
  by_cases hshort : c = '"' ∨ c = '\\' ∨ c = '\x08' ∨ c = '\x0c' ∨ c = '\n' ∨ c = '\r' ∨ c = '\t'
  · rw [pieces, if_pos hshort]
    rcases hshort with rfl | rfl | rfl | rfl | rfl | rfl | rfl <;>
      exact pieces_singleton (.short (by decide))
  · have hpieces : pieces c = if c.toNat < 0x20 then [.unit c.toNat]
        else (Utf8.encodeChar c).map .byte := if_neg hshort
    rw [hpieces]
    -- What has no short escape is written as its number, or stands for itself.
    simp only [not_or] at hshort
    obtain ⟨h₁, h₂, h₃, h₄, h₅, h₆, h₇⟩ := hshort
    rw [escape, if_neg h₁, if_neg h₂, if_neg h₃, if_neg h₄, if_neg h₅, if_neg h₆, if_neg h₇]
    by_cases hcontrol : c.toNat < 0x20
    · rw [if_pos hcontrol, if_pos hcontrol]
      have hhigh := Utf8.encodeChar_of_lt (lower_lt (show c.toNat / 16 < 16 by omega))
      have hlow := Utf8.encodeChar_of_lt (lower_lt (show c.toNat % 16 < 16 by omega))
      simp only [Utf8.encode_cons, Utf8.encode_nil, hhigh, hlow]
      exact pieces_singleton (piece_unit hcontrol)
    · rw [if_neg hcontrol, if_neg hcontrol, Utf8.encode_cons, Utf8.encode_nil, List.append_nil]
      exact pieces_bytes fun b hb => isPlain_of_mem_encodeChar h₁ h₂ (by omega) hb

theorem pieces_escapes (cs : List Char) :
    Pieces (cs.flatMap pieces) (Utf8.encode (cs.flatMap escape)) := by
  induction cs with
  | nil => exact .nil
  | cons c cs ih =>
    rw [List.flatMap_cons, List.flatMap_cons, Utf8.encode_append]
    exact pieces_append (pieces_escape c) ih

/-- A written text is a string. -/
theorem literal_quote (s : String) : Literal (written s) (Utf8.encode (quote s.toList)) := by
  have hliteral := Literal.quoted (pieces_escapes s.toList)
  have hquote : Utf8.encode (quote s.toList) =
      ascii '"' :: (Utf8.encode (s.toList.flatMap escape) ++ [ascii '"']) := by
    rw [quote, Utf8.encode_cons, Utf8.encode_append]
    rfl
  rw [hquote]
  exact hliteral

end UpdateAgent.Json.Text
