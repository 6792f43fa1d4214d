import UpdateAgent.Mac
import Mathlib.Logic.Basic

/-!
# Reading back hardware addresses

What is written is read back, so an address is known by its text and by its twelve digits
(`text_injective`, `compact_injective`). Of the texts that can be read, those that differ in letter
case, in the separators and in the white space around them are the same address, and no others are
(`parse_iff_alike`).
-/

namespace UpdateAgent

namespace Hex

theorem digit?_upper {n : Nat} (h : n < 16) : digit? (upper n) = some n := by
  revert n
  decide

/-- The two digits of a byte are read back. -/
theorem byte?_upper (b : UInt8) :
    byte? (upper (b.toNat / 16)) (upper (b.toNat % 16)) = some b := by
  have hlt : b.toNat < 256 := b.toNat_lt
  have hhigh := digit?_upper (show b.toNat / 16 < 16 by omega)
  have hlow := digit?_upper (show b.toNat % 16 < 16 by omega)
  simp only [byte?, hhigh, hlow, Option.bind_eq_bind, Option.bind_some, Option.pure_def,
    Nat.div_add_mod, UInt8.ofNat_toNat]

theorem digit?_lower {n : Nat} (h : n < 16) : digit? (lower n) = some n := by
  revert n
  decide

/-- The two lower-case digits of a byte are read back. -/
theorem byte?_lower (b : UInt8) :
    byte? (lower (b.toNat / 16)) (lower (b.toNat % 16)) = some b := by
  have hlt : b.toNat < 256 := b.toNat_lt
  have hhigh := digit?_lower (show b.toNat / 16 < 16 by omega)
  have hlow := digit?_lower (show b.toNat % 16 < 16 by omega)
  simp only [byte?, hhigh, hlow, Option.bind_eq_bind, Option.bind_some, Option.pure_def,
    Nat.div_add_mod, UInt8.ofNat_toNat]

theorem bytes?_ofBytes (bytes : Bytes) : bytes? (ofBytes bytes) = some bytes := by
  induction bytes with
  | nil => rfl
  | cons b bytes ih =>
    have hcons : ofBytes (b :: bytes) =
        lower (b.toNat / 16) :: lower (b.toNat % 16) :: ofBytes bytes := rfl
    rw [hcons, bytes?, byte?_lower, ih]
    rfl

theorem ofBytes_injective : Function.Injective ofBytes := by
  intro bytes bytes' h
  have hbytes := congrArg bytes? h
  rw [bytes?_ofBytes, bytes?_ofBytes] at hbytes
  exact Option.some.inj hbytes

theorem length_ofBytes (bytes : Bytes) : (ofBytes bytes).length = 2 * bytes.length := by
  induction bytes with
  | nil => rfl
  | cons b bytes ih =>
    have hcons : ofBytes (b :: bytes) = ofByte b ++ ofBytes bytes := rfl
    rw [hcons, List.length_append, ih, ofByte, List.length_cons, List.length_singleton,
      List.length_cons]
    omega

theorem no_slash_ofBytes (bytes : Bytes) : '/' ∉ ofBytes bytes := by
  have hlower : ∀ n < 16, lower n ≠ '/' := by
    decide
  intro h
  obtain ⟨b, -, hb⟩ := List.mem_flatMap.mp h
  have hlt : b.toNat < 256 := b.toNat_lt
  simp only [ofByte, List.mem_cons, List.not_mem_nil, or_false] at hb
  rcases hb with hb | hb
  · exact hlower (b.toNat / 16) (by omega) hb.symm
  · exact hlower (b.toNat % 16) (by omega) hb.symm

theorem toNat_toLower (c : Char) :
    c.toLower.toNat = if 65 ≤ c.toNat ∧ c.toNat ≤ 90 then c.toNat + 32 else c.toNat := by
  unfold Char.toLower
  split
  · rename_i h
    have hlow : 65 ≤ c.toNat := h.1
    have hhigh : c.toNat ≤ 90 := h.2
    rw [if_pos ⟨hlow, hhigh⟩]
    show (c.toNat + 32) % 2 ^ 32 = c.toNat + 32
    omega
  · rename_i h
    exact (if_neg h).symm

theorem toNat_lower {n : Nat} (h : n < 16) :
    (lower n).toNat = if n < 10 then 48 + n else 87 + n := by
  revert n
  decide

/-- The digits are in three ranges. -/
theorem digit?_eq_some {c : Char} {n : Nat} (h : digit? c = some n) :
    (48 ≤ c.toNat ∧ c.toNat ≤ 57 ∧ n = c.toNat - 48) ∨
      (65 ≤ c.toNat ∧ c.toNat ≤ 70 ∧ n = c.toNat - 55) ∨
        (97 ≤ c.toNat ∧ c.toNat ≤ 102 ∧ n = c.toNat - 87) := by
  simp only [digit?] at h
  split at h
  · cases h
    omega
  · split at h
    · cases h
      omega
    · split at h
      · cases h
        omega
      · cases h

/-- The lower-case letter of a digit is the digit of its value. -/
theorem toLower_of_digit? {c : Char} {n : Nat} (h : digit? c = some n) :
    n < 16 ∧ c.toLower = lower n := by
  have hcases := digit?_eq_some h
  have hn : n < 16 := by omega
  refine ⟨hn, Char.toNat_inj.mp ?_⟩
  rw [toNat_toLower, toNat_lower hn]
  split <;> split <;> omega

theorem digit?_toLower (c : Char) : digit? c.toLower = digit? c := by
  simp only [digit?, toNat_toLower]
  split <;> (repeat' split) <;> first | rfl | omega

end Hex

namespace MacAddress

/-- Groups that are joined by colons are read back. -/
theorem groups?_intercalate (b : UInt8) (rest : Bytes) :
    groups? (List.intercalate [':'] ((b :: rest).map Hex.ofByteUpper)) = some (b :: rest) := by
  induction rest generalizing b with
  | nil => simp [Hex.ofByteUpper, groups?, Hex.byte?_upper]
  | cons b' rest ih =>
    have hcolon : isSeparator ':' = true := rfl
    rw [List.map_cons, List.map_cons, List.intercalate_cons_cons, ← List.map_cons,
      List.append_assoc]
    simp only [Hex.ofByteUpper, List.cons_append, List.nil_append] at ih ⊢
    rw [groups?, if_pos hcolon, Hex.byte?_upper, ih]
    rfl

/-- The octets of an address are read back from its text. -/
theorem groups?_text (mac : MacAddress) : groups? mac.text.toList = some mac.octets := by
  obtain ⟨b, rest, hoctets⟩ := List.exists_cons_of_length_eq_add_one mac.six
  rw [text, String.toList_ofList, hoctets]
  exact groups?_intercalate b rest

/-- An address is known by its text. -/
theorem text_injective : Function.Injective text := by
  intro mac mac' h
  have hoctets : mac.octets = mac'.octets := by
    have hgroups := congrArg (fun s => groups? s.toList) h
    simp only [groups?_text] at hgroups
    exact Option.some.inj hgroups
  cases mac
  cases hoctets
  rfl

/-- An address is known by its twelve digits. -/
theorem compact_injective : Function.Injective compact := by
  intro mac mac' h
  have hoctets := Hex.ofBytes_injective (String.ofList_injective h)
  cases mac
  cases hoctets
  rfl

/-! ## Spellings -/

/-- A character of an address, without regard to the case of a letter and the kind of a
separator. -/
def folded (c : Char) : Char :=
  if isSeparator c then ':' else c.toLower

/-- Two texts spell an address alike: they differ in white space around it, in the case of letters
and in the separators only. -/
def Alike (s s' : String) : Prop :=
  (Text.trim s.toList).map folded = (Text.trim s'.toList).map folded

theorem isSeparator_folded (c : Char) : isSeparator (folded c) = isSeparator c := by
  by_cases h : isSeparator c
  · rw [folded, if_pos h, h]
    rfl
  · rw [folded, if_neg h]
    have hne : c ≠ ':' ∧ c ≠ '-' := by
      simpa [isSeparator] using h
    have hlower (d : Char) (hd : d.toNat < 97) (hc : c ≠ d) : c.toLower ≠ d := by
      intro heq
      have hnat := congrArg Char.toNat heq
      rw [Hex.toNat_toLower] at hnat
      split at hnat
      · omega
      · exact hc (Char.toNat_inj.mp hnat)
    have hcolon := hlower ':' (by decide) hne.1
    have hhyphen := hlower '-' (by decide) hne.2
    rw [isSeparator, isSeparator, beq_false_of_ne hcolon, beq_false_of_ne hhyphen,
      beq_false_of_ne hne.1, beq_false_of_ne hne.2]

theorem digit?_folded (c : Char) : Hex.digit? (folded c) = Hex.digit? c := by
  by_cases h : isSeparator c
  · rw [folded, if_pos h]
    rcases Bool.or_eq_true_iff.mp h with h | h
    · rw [beq_iff_eq.mp h]
    · rw [beq_iff_eq.mp h]
      rfl
  · rw [folded, if_neg h, Hex.digit?_toLower]

/-- Groups are read without regard to case and kind of separator. -/
theorem groups?_folded (cs : List Char) : groups? (cs.map folded) = groups? cs := by
  have hbyte (high low : Char) : Hex.byte? (folded high) (folded low) = Hex.byte? high low := by
    rw [Hex.byte?, Hex.byte?, digit?_folded, digit?_folded]
  fun_induction groups? cs with
  | case1 high low =>
    show (Hex.byte? (folded high) (folded low)).map ([·]) = _
    rw [hbyte]
  | case2 high low separator rest hseparator ih =>
    rw [List.map_cons, List.map_cons, List.map_cons, groups?, isSeparator_folded,
      if_pos hseparator, hbyte, ih]
  | case3 high low separator rest hseparator =>
    rw [List.map_cons, List.map_cons, List.map_cons, groups?, isSeparator_folded,
      if_neg hseparator]
  | case4 cs hpair hmore =>
    match cs with
    | [] => rfl
    | [c] => rfl
    | [high, low] => exact absurd rfl (hpair high low)
    | high :: low :: separator :: rest => exact absurd rfl (hmore high low separator rest)

theorem byte?_eq_some {high low : Char} {b : UInt8} (h : Hex.byte? high low = some b) :
    [folded high, folded low] = Hex.ofByte b := by
  simp only [Hex.byte?, Option.bind_eq_bind, Option.bind_eq_some_iff, Option.pure_def,
    Option.some.injEq] at h
  obtain ⟨n, hn, m, hm, rfl⟩ := h
  have hfolded {c : Char} {k : Nat} (hk : Hex.digit? c = some k) : folded c = c.toLower := by
    refine if_neg fun hseparator => ?_
    rcases Bool.or_eq_true_iff.mp hseparator with hc | hc
    · rw [beq_iff_eq.mp hc] at hk
      cases hk
    · rw [beq_iff_eq.mp hc] at hk
      cases hk
  obtain ⟨hn16, hhigh⟩ := Hex.toLower_of_digit? hn
  obtain ⟨hm16, hlow⟩ := Hex.toLower_of_digit? hm
  have hnat : (UInt8.ofNat (16 * n + m)).toNat = 16 * n + m := by
    rw [UInt8.toNat_ofNat']
    omega
  have hdiv : (16 * n + m) / 16 = n := by omega
  have hmod : (16 * n + m) % 16 = m := by omega
  rw [hfolded hn, hfolded hm, hhigh, hlow, Hex.ofByte, hnat, hdiv, hmod]

/-- What is read is spelled in groups of two digits. -/
theorem map_folded_of_groups? {cs : List Char} {octets : Bytes} (h : groups? cs = some octets) :
    cs.map folded = List.intercalate [':'] (octets.map Hex.ofByte) ∧ octets ≠ [] := by
  fun_induction groups? cs generalizing octets with
  | case1 high low =>
    obtain ⟨b, hb, rfl⟩ := Option.map_eq_some_iff.mp h
    refine ⟨?_, List.cons_ne_nil b []⟩
    rw [List.map_singleton, List.intercalate_singleton, ← byte?_eq_some hb]
    rfl
  | case2 high low separator rest hseparator ih =>
    simp only [Option.bind_eq_bind, Option.bind_eq_some_iff, Option.pure_def,
      Option.some.injEq] at h
    obtain ⟨b, hb, bs, hbs, rfl⟩ := h
    obtain ⟨hrest, hne⟩ := ih hbs
    refine ⟨?_, List.cons_ne_nil b bs⟩
    have hne : bs.map Hex.ofByte ≠ [] := by simpa using hne
    have hcolon : folded separator = ':' := if_pos hseparator
    have hcons : (b :: bs).map Hex.ofByte = Hex.ofByte b :: bs.map Hex.ofByte := rfl
    rw [hcons, List.intercalate_cons_of_ne_nil hne, ← hrest, ← byte?_eq_some hb, ← hcolon]
    rfl
  | case3 => cases h
  | case4 => cases h

theorem parse_eq_ok_iff {s : String} {mac : MacAddress} :
    parse s = .ok mac ↔ groups? (Text.trim s.toList) = some mac.octets := by
  rw [parse]
  rcases hgroups : groups? (Text.trim s.toList) with _ | octets
  · exact ⟨nofun, nofun⟩
  · by_cases six : octets.length = 6
    · simp only [dif_pos six, Except.ok.injEq, Option.some.injEq]
      constructor
      · rintro rfl
        rfl
      · rintro rfl
        rfl
    · simp only [dif_neg six, reduceCtorEq, Option.some.injEq, false_iff]
      rintro rfl
      exact six mac.six

/-- An address is read from every text that spells it alike, and from no other. -/
theorem parse_iff_alike {s s' : String} {mac : MacAddress} (h : parse s = .ok mac) :
    parse s' = .ok mac ↔ Alike s s' := by
  rw [parse_eq_ok_iff] at h ⊢
  constructor
  · intro h'
    exact (map_folded_of_groups? h).1.trans (map_folded_of_groups? h').1.symm
  · intro halike
    rw [← groups?_folded, ← halike, groups?_folded, h]

end MacAddress

end UpdateAgent
