import Mathlib.Tactic.SplitIfs
import UpdateAgent.Proofs.Json.Grammar
import UpdateAgent.Proofs.Text.Utf8

/-!
# What the pieces of a string stand for

Pieces are decoded to the characters that they spell, and to nothing else (`text?_eq_some_iff`). No
escape can stand in the middle of the bytes of a character, since what an escape stands for is never
encoded as bytes that go on with a character.
-/

namespace UpdateAgent.Utf8

/-- A byte that goes on with a character. -/
def IsTail (b : UInt8) : Prop :=
  0x80 ≤ b.toNat ∧ b.toNat < 0xC0

/-- A character begins with a byte that goes on with none, and goes on with such bytes. -/
theorem encodeChar_eq_cons (c : Char) :
    ∃ b bytes, encodeChar c = b :: bytes ∧ ¬ IsTail b ∧ ∀ b' ∈ bytes, IsTail b' := by
  have hbound := toNat_lt c
  have htail : ∀ n, n < 64 → IsTail (UInt8.ofNat (0x80 + n)) := by
    intro n hn
    rw [IsTail, toNat_byte (by omega)]
    omega
  have hhead : ∀ n, n < 256 → n < 0x80 ∨ 0xC0 ≤ n → ¬ IsTail (UInt8.ofNat n) := by
    intro n hlt hn
    rw [IsTail, toNat_byte hlt]
    omega
  unfold encodeChar
  dsimp only
  split_ifs
  · exact ⟨_, _, rfl, hhead _ (by omega) (by omega), nofun⟩
  · refine ⟨_, _, rfl, hhead _ (by omega) (by omega), ?_⟩
    simp only [List.mem_cons, List.not_mem_nil, or_false]
    rintro b' rfl
    exact htail _ (by omega)
  · refine ⟨_, _, rfl, hhead _ (by omega) (by omega), ?_⟩
    simp only [List.mem_cons, List.not_mem_nil, or_false]
    rintro b' (rfl | rfl) <;> exact htail _ (by omega)
  · refine ⟨_, _, rfl, hhead _ (by omega) (by omega), ?_⟩
    simp only [List.mem_cons, List.not_mem_nil, or_false]
    rintro b' (rfl | rfl | rfl) <;> exact htail _ (by omega)

/-- The bytes of a text tell its first character. -/
theorem encodeChar_append_inj {c d : Char} {bytes bytes' : Bytes}
    (h : encodeChar c ++ bytes = encodeChar d ++ bytes') : c = d ∧ bytes = bytes' := by
  have hread := decodeChar?_encodeChar c bytes
  rw [h, decodeChar?_encodeChar] at hread
  cases hread
  exact ⟨rfl, rfl⟩

end UpdateAgent.Utf8

namespace UpdateAgent.Json.Text

open Utf8 (encodeChar IsTail)

variable {ps rest : List Piece} {bytes done : Bytes} {c : Char} {cs : List Char}

/-- A unit that is no half of a surrogate pair. -/
theorem whole_iff {n : Nat} :
    (isTrailing n = false ∧ isLeading n = false) ↔ n < 0xD800 ∨ 0xDFFF < n := by
  simp only [isTrailing, isLeading, Bool.and_eq_false_iff, decide_eq_false_iff_not]
  omega

theorem bytesFrom_bytes (bytes done : Bytes) (rest : List Piece) :
    bytesFrom done (bytes.map .byte ++ rest) = bytesFrom (bytes.reverse ++ done) rest := by
  induction bytes generalizing done with
  | nil => rfl
  | cons b bytes ih =>
    rw [List.map_cons, List.cons_append, bytesFrom, ih]
    simp

/-- However a character is spelled, its bytes are what is meant. -/
theorem bytesFrom_spelling (h : Spelling ps c) (done : Bytes) (rest : List Piece) :
    bytesFrom done (ps ++ rest) = bytesFrom ((encodeChar c).reverse ++ done) rest := by
  cases h with
  | bytes => exact bytesFrom_bytes _ done rest
  | short => rfl
  | unit whole =>
    obtain ⟨htrailing, hleading⟩ := whole_iff.mpr whole
    rw [List.singleton_append, bytesFrom.eq_def]
    simp only [htrailing, hleading]
    rfl
  | pair long =>
    have hbound := Utf8.toNat_lt c
    have hhigh : isTrailing (0xD800 + (c.toNat - 0x10000) / 1024) = false ∧
        isLeading (0xD800 + (c.toNat - 0x10000) / 1024) = true := by
      simp only [isTrailing, isLeading, Bool.and_eq_false_iff, Bool.and_eq_true,
        decide_eq_false_iff_not, decide_eq_true_eq]
      omega
    have hlow : isTrailing (0xDC00 + (c.toNat - 0x10000) % 1024) = true := by
      simp only [isTrailing, Bool.and_eq_true, decide_eq_true_eq]
      omega
    have hvalue : 0x10000 + (0xD800 + (c.toNat - 0x10000) / 1024 - 0xD800) * 1024 +
        (0xDC00 + (c.toNat - 0x10000) % 1024 - 0xDC00) = c.toNat := by omega
    rw [List.cons_append, bytesFrom.eq_def]
    simp only [hhigh, hlow, List.singleton_append, hvalue, Char.ofNat_toNat]
    rfl

theorem bytesFrom_spells (h : Spells ps cs) (done : Bytes) :
    bytesFrom done ps = some (done.reverse ++ Utf8.encode cs) := by
  induction h generalizing done with
  | nil => simp [bytesFrom]
  | cons this _ ih =>
    rw [bytesFrom_spelling this, ih]
    simp

/-! ## Nothing else is spelled -/

/-- Pieces of which some are bytes and the others spell characters stand for these bytes. -/
inductive Encodes : List Piece → Bytes → Prop
  | nil : Encodes [] []
  | byte {ps : List Piece} {bytes : Bytes} (b : UInt8) (others : Encodes ps bytes) :
      Encodes (.byte b :: ps) (b :: bytes)
  | spelling {ps rest : List Piece} {c : Char} {bytes : Bytes} (this : Spelling ps c)
      (others : Encodes rest bytes) : Encodes (ps ++ rest) (encodeChar c ++ bytes)

theorem toNat_ofNat {n : Nat} (h : n.isValidChar) : (Char.ofNat n).toNat = n := by
  rw [Char.ofNat, dif_pos h]
  rfl

/-- Two halves of a surrogate pair spell a character. -/
theorem spelling_pair {n m : Nat} (hn : isLeading n = true) (hm : isTrailing m = true) :
    Spelling [.unit n, .unit m] (Char.ofNat (0x10000 + (n - 0xD800) * 1024 + (m - 0xDC00))) := by
  simp only [isLeading, isTrailing, Bool.and_eq_true, decide_eq_true_eq] at hn hm
  have hvalid : (0x10000 + (n - 0xD800) * 1024 + (m - 0xDC00)).isValidChar := by
    right
    omega
  generalize hc : Char.ofNat (0x10000 + (n - 0xD800) * 1024 + (m - 0xDC00)) = c
  have htoNat : c.toNat = 0x10000 + (n - 0xD800) * 1024 + (m - 0xDC00) := by
    rw [← hc, toNat_ofNat hvalid]
  have hhigh : n = 0xD800 + (c.toNat - 0x10000) / 1024 := by omega
  have hlow : m = 0xDC00 + (c.toNat - 0x10000) % 1024 := by omega
  rw [hhigh, hlow]
  exact .pair (by omega)

/-- Whatever is decoded, every piece in it is a byte or part of a spelling. -/
theorem encodes_of_bytesFrom (h : bytesFrom done ps = some bytes) :
    ∃ after, bytes = done.reverse ++ after ∧ Encodes ps after := by
  have hspelled {done bytes : Bytes} {ps rest : List Piece} {c : Char} (hps : Spelling ps c)
      (h : ∃ after, bytes = ((encodeChar c).reverse ++ done).reverse ++ after ∧
        Encodes rest after) :
    ∃ after, bytes = done.reverse ++ after ∧ Encodes (ps ++ rest) after := by
    obtain ⟨after, rfl, hrest⟩ := h
    exact ⟨encodeChar c ++ after, by simp, .spelling hps hrest⟩
  fun_induction bytesFrom done ps with
  | case1 done =>
    cases h
    exact ⟨[], by simp, .nil⟩
  | case2 done b rest ih =>
    obtain ⟨after, rfl, hrest⟩ := ih h
    exact ⟨b :: after, by simp, .byte b hrest⟩
  | case3 done c rest ih => exact hspelled (.short c) (ih h)
  | case5 done n _ hleading m rest htrailing c ih =>
    exact hspelled (spelling_pair hleading htrailing) (ih h)
  | case8 done n rest htrailing hleading ih =>
    rw [Bool.not_eq_true] at htrailing hleading
    exact hspelled (.unit (whole_iff.mp ⟨htrailing, hleading⟩)) (ih h)
  | _ => cases h

/-- What goes on with a character are bytes. -/
theorem encodes_tail {tail : Bytes} (htail : ∀ b ∈ tail, IsTail b)
    (h : Encodes ps (tail ++ bytes)) :
    ∃ rest, ps = tail.map .byte ++ rest ∧ Encodes rest bytes := by
  induction tail generalizing ps with
  | nil => exact ⟨ps, rfl, h⟩
  | cons b tail ih =>
    have hb := htail b List.mem_cons_self
    generalize hbytes : b :: tail ++ bytes = all at h
    cases h with
    | nil => cases hbytes
    | byte b' others =>
      cases hbytes
      obtain ⟨rest, rfl, hrest⟩ := ih (fun b' hb' => htail b' (List.mem_cons_of_mem _ hb')) others
      exact ⟨rest, rfl, hrest⟩
    | @spelling _ _ c _ this others =>
      obtain ⟨head, after, hencode, hhead, -⟩ := Utf8.encodeChar_eq_cons c
      rw [hencode] at hbytes
      obtain ⟨rfl, -⟩ := List.cons.inj hbytes
      exact absurd hb hhead

theorem spells_of_encodes (h : Encodes ps (Utf8.encode cs)) : Spells ps cs := by
  induction cs generalizing ps with
  | nil =>
    generalize hbytes : Utf8.encode [] = all at h
    cases h with
    | nil => exact .nil
    | byte => cases hbytes
    | @spelling _ _ c =>
      have hne := Utf8.encodeChar_ne_nil c
      exact absurd (List.append_eq_nil_iff.mp hbytes.symm).1 hne
  | cons c cs ih =>
    rw [Utf8.encode_cons] at h
    generalize hbytes : encodeChar c ++ Utf8.encode cs = all at h
    cases h with
    | nil => exact absurd (List.append_eq_nil_iff.mp hbytes).1 (Utf8.encodeChar_ne_nil c)
    | @byte ps bytes b others =>
      -- The rest of the bytes of the character are pieces of their own.
      obtain ⟨head, tail, hencode, -, htail⟩ := Utf8.encodeChar_eq_cons c
      rw [hencode] at hbytes
      cases hbytes
      obtain ⟨rest, rfl, hrest⟩ := encodes_tail htail others
      have hspells := Spells.cons (.bytes c) (ih hrest)
      rwa [hencode] at hspells
    | @spelling qs rest d bytes this others =>
      obtain ⟨rfl, rfl⟩ := Utf8.encodeChar_append_inj hbytes
      exact .cons this (ih others)

/-- Pieces are decoded to what they spell. -/
theorem text?_eq_some_iff {s : String} : text? ps = some s ↔ Spells ps s.toList := by
  constructor
  · intro h
    obtain ⟨cs, hchars, rfl⟩ := Option.map_eq_some_iff.mp h
    obtain ⟨bytes, hbytes, hdecode⟩ := Option.bind_eq_some_iff.mp hchars
    obtain ⟨after, rfl, hencodes⟩ := encodes_of_bytesFrom hbytes
    rw [Utf8.decode?_eq_some_iff] at hdecode
    rw [hdecode] at hencodes
    rw [String.toList_ofList]
    exact spells_of_encodes hencodes
  · intro h
    rw [text?, chars?, bytesFrom_spells h]
    simp [Utf8.decode?_encode]

end UpdateAgent.Json.Text
