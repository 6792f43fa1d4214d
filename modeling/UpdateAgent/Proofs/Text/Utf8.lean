import UpdateAgent.Text.Utf8

/-!
# Reading back what was encoded

Every character has one encoding, and what is read after it is what follows it. So texts are read
from their encodings and from nothing else (`decode?_eq_some_iff`).
-/

namespace UpdateAgent.Utf8

theorem toNat_byte {n : Nat} (h : n < 256) : (UInt8.ofNat n).toNat = n :=
  UInt8.toNat_ofNat_of_lt' h

/-- A scalar value that its form may hold is that of its character. -/
theorem scalar?_toNat {c : Char} {least : Nat} (h : least ≤ c.toNat) :
    scalar? least c.toNat = some c := by
  have hvalid : c.toNat.isValidChar := c.valid
  rw [scalar?, dif_pos ⟨h, hvalid⟩]
  rfl

theorem continuation?_byte {n : Nat} (h : n < 64) :
    continuation? (UInt8.ofNat (0x80 + n)) = some n := by
  rw [continuation?, toNat_byte (by omega), if_pos (by omega)]
  simp

/-- No character lies beyond four bytes. -/
theorem toNat_lt (c : Char) : c.toNat < 0x110000 := by
  have hvalid : c.toNat.isValidChar := c.valid
  rcases hvalid with h | h <;> omega

theorem decodeChar?_encodeChar (c : Char) (rest : Bytes) :
    decodeChar? (encodeChar c ++ rest) = some (c, rest) := by
  have hbound := toNat_lt c
  unfold encodeChar
  by_cases h₁ : c.toNat < 0x80
  · have hlead : (UInt8.ofNat c.toNat).toNat = c.toNat := toNat_byte (by omega)
    simp [h₁, decodeChar?, hlead, scalar?_toNat]
  by_cases h₂ : c.toNat < 0x800
  · have hlead : (UInt8.ofNat (0xC0 + c.toNat / 64)).toNat = 0xC0 + c.toNat / 64 :=
      toNat_byte (by omega)
    have hvalue : (0xC0 + c.toNat / 64 - 0xC0) * 64 + c.toNat % 64 = c.toNat := by omega
    have hscalar : scalar? 0x80 c.toNat = some c := scalar?_toNat (by omega)
    simp only [h₁, h₂, if_true, if_false, List.cons_append, List.nil_append, decodeChar?, hlead]
    rw [if_neg (by omega), if_neg (by omega), if_pos (by omega),
      continuation?_byte (Nat.mod_lt _ (by decide))]
    simp only [Option.bind_eq_bind, Option.bind_some, hvalue, hscalar]
    rfl
  by_cases h₃ : c.toNat < 0x10000
  · have hlead : (UInt8.ofNat (0xE0 + c.toNat / 4096)).toNat = 0xE0 + c.toNat / 4096 :=
      toNat_byte (by omega)
    have hvalue : (0xE0 + c.toNat / 4096 - 0xE0) * 4096 + c.toNat / 64 % 64 * 64 + c.toNat % 64 =
        c.toNat := by omega
    have hscalar : scalar? 0x800 c.toNat = some c := scalar?_toNat (by omega)
    simp only [h₁, h₂, h₃, if_true, if_false, List.cons_append, List.nil_append, decodeChar?, hlead]
    rw [if_neg (by omega), if_neg (by omega), if_neg (by omega), if_pos (by omega),
      continuation?_byte (Nat.mod_lt _ (by decide)), continuation?_byte (Nat.mod_lt _ (by decide))]
    simp only [Option.bind_eq_bind, Option.bind_some, hvalue, hscalar]
    rfl
  · have hlead : (UInt8.ofNat (0xF0 + c.toNat / 262144)).toNat = 0xF0 + c.toNat / 262144 :=
      toNat_byte (by omega)
    have hvalue : (0xF0 + c.toNat / 262144 - 0xF0) * 262144 + c.toNat / 4096 % 64 * 4096 +
        c.toNat / 64 % 64 * 64 + c.toNat % 64 = c.toNat := by omega
    have hscalar : scalar? 0x10000 c.toNat = some c := scalar?_toNat (by omega)
    simp only [h₁, h₂, h₃, if_false, List.cons_append, List.nil_append, decodeChar?, hlead]
    rw [if_neg (by omega), if_neg (by omega), if_neg (by omega), if_neg (by omega),
      if_pos (by omega), continuation?_byte (Nat.mod_lt _ (by decide)),
      continuation?_byte (Nat.mod_lt _ (by decide)), continuation?_byte (Nat.mod_lt _ (by decide))]
    -- Step by step: the kernel must not unfold the product with 64 ^ 3.
    rw [Option.bind_eq_bind, Option.bind_some, Option.bind_eq_bind, Option.bind_some,
      Option.bind_some, hvalue, hscalar]
    rfl

theorem scalar?_eq_some {least n : Nat} {c : Char} (h : scalar? least n = some c) :
    least ≤ n ∧ c.toNat = n := by
  rw [scalar?] at h
  by_cases hn : least ≤ n ∧ n.isValidChar
  · rw [dif_pos hn] at h
    obtain rfl := Option.some.inj h
    exact ⟨hn.1, rfl⟩
  · rw [dif_neg hn] at h
    cases h

theorem continuation?_eq_some {b : UInt8} {x : Nat} (h : continuation? b = some x) :
    x < 64 ∧ b = UInt8.ofNat (0x80 + x) := by
  rw [continuation?] at h
  split at h
  · obtain rfl := Option.some.inj h
    refine ⟨by omega, ?_⟩
    rw [Nat.add_sub_cancel' (by omega), UInt8.ofNat_toNat]
  · cases h

/-- A character is read from its own bytes only. -/
theorem decodeChar?_eq_some {bytes rest : Bytes} {c : Char}
    (h : decodeChar? bytes = some (c, rest)) : bytes = encodeChar c ++ rest := by
  rcases bytes with _ | ⟨b, tail⟩
  · cases h
  have hlead {n : Nat} (hn : n = b.toNat) : UInt8.ofNat n = b := by rw [hn, UInt8.ofNat_toNat]
  simp only [decodeChar?] at h
  -- By the form that the leading byte announces, which has to be the shortest one.
  split at h
  · obtain ⟨_, hscalar, heq⟩ := Option.map_eq_some_iff.mp h
    cases heq
    obtain ⟨-, hn⟩ := scalar?_eq_some hscalar
    rw [encodeChar, if_pos (by omega), hlead hn]
    rfl
  split at h
  · cases h
  split at h
  · split at h
    · simp only [Option.bind_eq_bind, Option.bind_eq_some_iff, Option.pure_def] at h
      obtain ⟨x₁, hx₁, c, hscalar, heq⟩ := h
      cases heq
      obtain ⟨hleast, hn⟩ := scalar?_eq_some hscalar
      obtain ⟨hlt₁, rfl⟩ := continuation?_eq_some hx₁
      have hhigh : 0xC0 + c.toNat / 64 = b.toNat := by omega
      have hlow : c.toNat % 64 = x₁ := by omega
      rw [encodeChar, if_neg (by omega), if_pos (by omega), hlead hhigh, hlow]
      rfl
    · cases h
  split at h
  · split at h
    · simp only [Option.bind_eq_bind, Option.bind_eq_some_iff, Option.pure_def] at h
      obtain ⟨x₁, hx₁, x₂, hx₂, c, hscalar, heq⟩ := h
      cases heq
      obtain ⟨hleast, hn⟩ := scalar?_eq_some hscalar
      obtain ⟨hlt₁, rfl⟩ := continuation?_eq_some hx₁
      obtain ⟨hlt₂, rfl⟩ := continuation?_eq_some hx₂
      have hhigh : 0xE0 + c.toNat / 4096 = b.toNat := by omega
      have hmiddle : c.toNat / 64 % 64 = x₁ := by omega
      have hlow : c.toNat % 64 = x₂ := by omega
      rw [encodeChar, if_neg (by omega), if_neg (by omega), if_pos (by omega), hlead hhigh, hmiddle,
        hlow]
      rfl
    · cases h
  split at h
  · split at h
    · simp only [Option.bind_eq_bind, Option.bind_eq_some_iff, Option.pure_def] at h
      obtain ⟨x₁, hx₁, x₂, hx₂, x₃, hx₃, c, hscalar, heq⟩ := h
      cases heq
      obtain ⟨hleast, hn⟩ := scalar?_eq_some hscalar
      obtain ⟨hlt₁, rfl⟩ := continuation?_eq_some hx₁
      obtain ⟨hlt₂, rfl⟩ := continuation?_eq_some hx₂
      obtain ⟨hlt₃, rfl⟩ := continuation?_eq_some hx₃
      have hhigh : 0xF0 + c.toNat / 262144 = b.toNat := by omega
      have hsecond : c.toNat / 4096 % 64 = x₁ := by omega
      have hthird : c.toNat / 64 % 64 = x₂ := by omega
      have hlow : c.toNat % 64 = x₃ := by omega
      rw [encodeChar, if_neg (by omega), if_neg (by omega), if_neg (by omega), hlead hhigh, hsecond,
        hthird, hlow]
      rfl
    · cases h
  · cases h

theorem encodeChar_of_lt {c : Char} (h : c.toNat < 0x80) : encodeChar c = [UInt8.ofNat c.toNat] :=
  if_pos h

/-- A character below 128 is its own byte; the bytes of every other one lie above. -/
theorem toNat_of_mem_encodeChar {c : Char} {b : UInt8} (h : b ∈ encodeChar c) :
    b.toNat = c.toNat ∨ 0x80 ≤ b.toNat := by
  have hbound := toNat_lt c
  have hhigh : ∀ n, 0x80 ≤ n → n < 256 → 0x80 ≤ (UInt8.ofNat n).toNat := by
    intro n hle hlt
    rwa [toNat_byte hlt]
  unfold encodeChar at h
  dsimp only at h
  split at h
  · obtain rfl := List.mem_singleton.mp h
    exact .inl (toNat_byte (by omega))
  · right
    split at h
    · simp only [List.mem_cons, List.not_mem_nil, or_false] at h
      rcases h with rfl | rfl <;> exact hhigh _ (by omega) (by omega)
    · split at h
      · simp only [List.mem_cons, List.not_mem_nil, or_false] at h
        rcases h with rfl | rfl | rfl <;> exact hhigh _ (by omega) (by omega)
      · simp only [List.mem_cons, List.not_mem_nil, or_false] at h
        rcases h with rfl | rfl | rfl | rfl <;> exact hhigh _ (by omega) (by omega)

/-! ## Texts -/

@[simp]
theorem encode_nil : encode [] = [] :=
  rfl

@[simp]
theorem encode_cons (c : Char) (cs : List Char) : encode (c :: cs) = encodeChar c ++ encode cs :=
  List.flatMap_cons

@[simp]
theorem encode_append (cs ds : List Char) : encode (cs ++ ds) = encode cs ++ encode ds :=
  List.flatMap_append

theorem encodeChar_ne_nil (c : Char) : encodeChar c ≠ [] := by
  intro h
  have hchar := decodeChar?_encodeChar c []
  rw [h] at hchar
  cases hchar

/-- No character is shorter than a byte. -/
theorem length_le_length_encode (cs : List Char) : cs.length ≤ (encode cs).length := by
  induction cs with
  | nil => exact Nat.le_refl 0
  | cons c cs ih =>
    have hpos := List.length_pos_iff.mpr (encodeChar_ne_nil c)
    simp only [encode_cons, List.length_cons, List.length_append]
    omega

/-- No character is longer than four bytes. -/
theorem length_encode_le (cs : List Char) : (encode cs).length ≤ 4 * cs.length := by
  have hchar (c : Char) : (encodeChar c).length ≤ 4 := by
    rw [encodeChar]
    repeat' split
    all_goals simp
  induction cs with
  | nil => exact Nat.le_refl 0
  | cons c cs ih =>
    have hc := hchar c
    simp only [encode_cons, List.length_cons, List.length_append]
    omega

theorem decodeFrom_encode (cs : List Char) {done : List Char} {count : Nat}
    (h : cs.length ≤ count) : decodeFrom done count (encode cs) = some (done.reverse ++ cs) := by
  induction cs generalizing done count with
  | nil => cases count <;> simp [decodeFrom]
  | cons c cs ih =>
    cases count with
    | zero => simp at h
    | succ count =>
      obtain ⟨b, bytes, hbytes⟩ := List.exists_cons_of_ne_nil (encodeChar_ne_nil c)
      have hchar := decodeChar?_encodeChar c (encode cs)
      rw [encode_cons]
      rw [hbytes] at hchar ⊢
      rw [List.cons_append] at hchar ⊢
      simp only [decodeFrom, hchar]
      rw [ih (by simpa using h)]
      simp

/-- A text is read back from its bytes. -/
theorem decode?_encode (cs : List Char) : decode? (encode cs) = some cs := by
  rw [decode?, decodeFrom_encode cs (length_le_length_encode cs)]
  rfl

theorem decodeFrom_eq_some {done cs : List Char} {count : Nat} {bytes : Bytes}
    (h : decodeFrom done count bytes = some cs) :
    ∃ ds, cs = done.reverse ++ ds ∧ bytes = encode ds := by
  induction count generalizing done bytes with
  | zero =>
    rcases bytes with _ | ⟨b, bytes⟩
    · exact ⟨[], by simpa [decodeFrom] using h.symm, rfl⟩
    · cases h
  | succ count ih =>
    rcases bytes with _ | ⟨b, bytes⟩
    · exact ⟨[], by simpa [decodeFrom] using h.symm, rfl⟩
    · simp only [decodeFrom] at h
      split at h
      · rename_i c rest hchar
        obtain ⟨ds, rfl, rfl⟩ := ih h
        exact ⟨c :: ds, by simp, decodeChar?_eq_some hchar⟩
      · cases h

/-- A text is read from its own bytes only. -/
theorem decode?_eq_some_iff {bytes : Bytes} {cs : List Char} :
    decode? bytes = some cs ↔ bytes = encode cs := by
  constructor
  · intro h
    obtain ⟨ds, rfl, rfl⟩ := decodeFrom_eq_some h
    rfl
  · rintro rfl
    exact decode?_encode cs

end UpdateAgent.Utf8
