import Mathlib.Data.List.TakeWhile
import UpdateAgent.Proofs.Json.Grammar

/-!
# Reading the parts of a document

White space, numbers and strings are read as the grammar has them: what is taken off the front of a
byte string is such a part (`numeral?_eq_some`, `scan_eq_some`), and a part is taken off whatever
comes after it, if that does not go on with it (`numeral?_written`, `scan_pieces`).
-/

namespace UpdateAgent.Json

/-- What can come after a value in a document. -/
def Closes (rest : Bytes) : Prop :=
  ∀ b ∈ rest.head?, b ∈ [' ', '\n', '\t', '\r', ',', ']', '}'].map ascii

theorem closes_nil : Closes [] :=
  nofun

theorem closes_cons {c : Char} (h : c ∈ [' ', '\n', '\t', '\r', ',', ']', '}']) (rest : Bytes) :
    Closes (ascii c :: rest) := by
  rintro b ⟨⟩
  exact List.mem_map_of_mem h

theorem Blank.closes {blank rest : Bytes} (h : Blank blank) (hrest : Closes rest) :
    Closes (blank ++ rest) := by
  rcases blank with _ | ⟨b, blank⟩
  · exact hrest
  · rintro b' ⟨⟩
    have hb := h b List.mem_cons_self
    simp only [List.map_cons, List.map_nil, List.mem_cons, List.not_mem_nil, or_false] at hb ⊢
    rcases hb with rfl | rfl | rfl | rfl <;> simp

namespace Raw

variable {bytes rest text : Bytes} {b : UInt8}

/-! ## White space -/

theorem isBlank_iff : isBlank b = true ↔ b ∈ [' ', '\n', '\t', '\r'].map ascii := by
  simp [isBlank, or_assoc]

theorem skipBlank_append {blank : Bytes} (h : Blank blank) (rest : Bytes) :
    skipBlank (blank ++ rest) = skipBlank rest :=
  List.dropWhile_append_of_pos fun b hb => isBlank_iff.mpr (h b hb)

/-- What is skipped is white space. -/
theorem exists_blank (bytes : Bytes) : ∃ blank, Blank blank ∧ bytes = blank ++ skipBlank bytes := by
  refine ⟨bytes.takeWhile isBlank, fun b hb => ?_, List.takeWhile_append_dropWhile.symm⟩
  exact isBlank_iff.mp (List.mem_takeWhile_imp hb)

/-! ## Single bytes and words -/

theorem accept_self (b : UInt8) (rest : Bytes) : accept b (b :: rest) = (true, rest) := by
  rw [accept, if_pos rfl]

theorem accept_true (h : accept b bytes = (true, rest)) : bytes = b :: rest := by
  rcases bytes with _ | ⟨c, bytes⟩
  · cases h
  · rw [accept] at h
    split at h
    · rename_i heq
      cases h
      rw [heq]
    · cases h

theorem accept_false (h : accept b bytes = (false, rest)) : rest = bytes := by
  rcases bytes with _ | ⟨c, bytes⟩
  · cases h
    rfl
  · rw [accept] at h
    split at h
    · cases h
    · cases h
      rfl

theorem accept_of_head?_ne (h : ∀ c ∈ bytes.head?, c ≠ b) : accept b bytes = (false, bytes) := by
  rcases bytes with _ | ⟨c, bytes⟩
  · rfl
  · rw [accept, if_neg (h c rfl)]

theorem afterWord?_eq_some_iff {cs : List Char} : afterWord? cs bytes = some rest ↔
    bytes = word cs ++ rest := by
  induction cs generalizing bytes with
  | nil => simp [afterWord?, word]
  | cons c cs ih =>
    rcases bytes with _ | ⟨b, bytes⟩
    · simp [afterWord?, word]
    · rw [afterWord?]
      split
      · rename_i heq
        rw [ih, heq]
        simp [word]
      · rename_i hne
        simp [word, hne]

/-! ## Numbers -/

theorem isDigit_iff : isDigit b = true ↔ ∃ d < 10, b = UInt8.ofNat (0x30 + d) := by
  constructor
  · intro h
    simp only [isDigit, Bool.and_eq_true, decide_eq_true_eq] at h
    refine ⟨b.toNat - 0x30, by omega, ?_⟩
    rw [Nat.add_sub_cancel' (by omega), UInt8.ofNat_toNat]
  · rintro ⟨d, hd, rfl⟩
    revert d
    decide

theorem toNat_digit {d : Nat} (h : d < 10) : (UInt8.ofNat (0x30 + d)).toNat - 0x30 = d := by
  revert d
  decide

/-- The byte is none that a number begins or goes on with. -/
theorem not_numeric_of_closes (hrest : Closes rest) (hb : b ∈ rest.head?) :
    isDigit b = false ∧ b ≠ ascii '.' ∧ b ≠ ascii 'e' ∧ b ≠ ascii 'E' := by
  have hmem := hrest b hb
  revert hmem b
  simp only [List.map_cons, List.map_nil, List.mem_cons, List.not_mem_nil, or_false]
  rintro b - (rfl | rfl | rfl | rfl | rfl | rfl | rfl) <;> decide

theorem digits_eq {ds : List Nat} (h : digits bytes = ds) (hne : ds ≠ []) :
    ∃ text, Digits ds text ∧ bytes = text ++ afterDigits bytes := by
  have hdigits : ∀ b ∈ bytes.takeWhile isDigit, isDigit b = true := fun _ => List.mem_takeWhile_imp
  refine ⟨bytes.takeWhile isDigit, ⟨hne, ?_, ?_⟩, List.takeWhile_append_dropWhile.symm⟩
  · rw [← h, digits]
    intro d hd
    obtain ⟨b, hb, rfl⟩ := List.mem_map.mp hd
    obtain ⟨d, hlt, rfl⟩ := isDigit_iff.mp (hdigits b hb)
    rwa [toNat_digit hlt]
  · rw [← h, digits, List.map_map]
    refine ((List.map_congr_left fun b hb => ?_).trans (List.map_id _)).symm
    obtain ⟨d, hd, rfl⟩ := isDigit_iff.mp (hdigits b hb)
    simp only [Function.comp_apply, toNat_digit hd, id]

theorem isDigit_of_mem {ds : List Nat} (h : Digits ds text) {b : UInt8}
    (hb : b ∈ text) : isDigit b = true := by
  rw [h.bytes_eq] at hb
  obtain ⟨d, hd, rfl⟩ := List.mem_map.mp hb
  exact isDigit_iff.mpr ⟨d, h.lt d hd, rfl⟩

theorem isDigit_of_head? {ds : List Nat} (h : Digits ds text) (hb : b ∈ (text ++ rest).head?) :
    isDigit b = true := by
  obtain ⟨d, ds, rfl⟩ := List.exists_cons_of_ne_nil h.ne_nil
  refine isDigit_of_mem h ?_
  rw [h.bytes_eq] at hb ⊢
  cases hb
  exact List.mem_cons_self

theorem ne_of_isDigit {c : Char} (hc : isDigit (ascii c) = false) (hb : isDigit b = true) :
    b ≠ ascii c := by
  rintro rfl
  rw [hc] at hb
  cases hb

/-- Digits are taken up to the first byte that is none. -/
theorem digits_append {ds : List Nat} (h : Digits ds text)
    (hrest : ∀ b ∈ rest.head?, isDigit b = false) :
    digits (text ++ rest) = ds ∧ afterDigits (text ++ rest) = rest := by
  have hnone : rest.takeWhile isDigit = [] ∧ rest.dropWhile isDigit = rest := by
    rcases rest with _ | ⟨b, rest⟩
    · exact ⟨rfl, rfl⟩
    · simp [hrest b rfl]
  constructor
  · rw [digits, List.takeWhile_append_of_pos fun b hb => isDigit_of_mem h hb, hnone.1,
      List.append_nil, h.bytes_eq, List.map_map]
    refine (List.map_congr_left fun d hd => ?_).trans (List.map_id _)
    exact toNat_digit (h.lt d hd)
  · rw [afterDigits, List.dropWhile_append_of_pos fun b hb => isDigit_of_mem h hb, hnone.2]

theorem fraction?_eq_some {fraction : Option (List Nat)}
    (h : fraction? bytes = some (fraction, rest)) :
    ∃ text, Fraction fraction text ∧ bytes = text ++ rest := by
  rw [fraction?] at h
  rcases haccept : accept (ascii '.') bytes with ⟨_ | _, after⟩
  · rw [haccept] at h
    cases h
    exact ⟨[], .absent, (accept_false haccept).symm⟩
  · rw [haccept] at h
    dsimp only at h
    split at h
    · cases h
    · rename_i hne
      cases h
      obtain ⟨text, hdigits, hafter⟩ := digits_eq rfl hne
      refine ⟨ascii '.' :: text, .present hdigits, ?_⟩
      rw [accept_true haccept, List.cons_append, ← hafter]

theorem fraction?_written {fraction : Option (List Nat)} (h : Fraction fraction text)
    (hrest : ∀ b ∈ rest.head?, isDigit b = false ∧ b ≠ ascii '.') :
    fraction? (text ++ rest) = some (fraction, rest) := by
  cases h with
  | absent =>
    rw [List.nil_append, fraction?, accept_of_head?_ne fun b hb => (hrest b hb).2]
  | @present ds text digits =>
    obtain ⟨htaken, hafter⟩ := digits_append digits fun b hb => (hrest b hb).1
    obtain ⟨d, ds, rfl⟩ := List.exists_cons_of_ne_nil digits.ne_nil
    rw [List.cons_append, fraction?, accept_self]
    dsimp only
    rw [htaken, hafter]

theorem sign_eq {negative : Bool} (h : sign bytes = (negative, rest)) :
    ∃ text, Sign negative text ∧ bytes = text ++ rest := by
  rw [sign] at h
  rcases hminus : accept (ascii '-') bytes with ⟨_ | _, after⟩
  · rw [hminus] at h
    cases h
    rw [← accept_false hminus]
    rcases hplus : accept (ascii '+') after with ⟨_ | _, after'⟩
    · exact ⟨[], .absent, (accept_false hplus).symm⟩
    · exact ⟨_, .plus, accept_true hplus⟩
  · rw [hminus] at h
    cases h
    exact ⟨_, .minus, accept_true hminus⟩

theorem sign_written {negative : Bool} (h : Sign negative text)
    (hrest : ∀ b ∈ rest.head?, isDigit b = true) : sign (text ++ rest) = (negative, rest) := by
  cases h with
  | absent =>
    rw [List.nil_append, sign, accept_of_head?_ne fun b hb => ne_of_isDigit rfl (hrest b hb)]
    dsimp only
    rw [accept_of_head?_ne fun b hb => ne_of_isDigit rfl (hrest b hb)]
  | plus =>
    rw [sign, accept_of_head?_ne (by rintro b ⟨⟩; decide)]
    dsimp only
    rw [List.singleton_append, accept_self]
  | minus => rw [List.singleton_append, sign, accept_self]

theorem exponent?_eq_some {exponent : Option (Bool × List Nat)}
    (h : exponent? bytes = some (exponent, rest)) :
    ∃ text, Exponent exponent text ∧ bytes = text ++ rest := by
  rcases bytes with _ | ⟨b, bytes⟩
  · cases h
    exact ⟨[], .absent, rfl⟩
  · rw [exponent?] at h
    split at h
    · rename_i hletter
      rcases hsign : sign bytes with ⟨negative, after⟩
      rw [hsign] at h
      dsimp only at h
      split at h
      · cases h
      · rename_i hne
        cases h
        obtain ⟨signText, hsigned, rfl⟩ := sign_eq hsign
        obtain ⟨text, hdigits, hafter⟩ := digits_eq rfl hne
        obtain ⟨letter, hcase, rfl⟩ :
            ∃ letter, (letter = 'e' ∨ letter = 'E') ∧ b = ascii letter := by
          rcases hletter with rfl | rfl
          · exact ⟨_, .inl rfl, rfl⟩
          · exact ⟨_, .inr rfl, rfl⟩
        refine ⟨_, .present hcase hsigned hdigits, ?_⟩
        rw [List.cons_append, List.append_assoc, ← hafter]
    · cases h
      exact ⟨[], .absent, rfl⟩

theorem exponent?_written {exponent : Option (Bool × List Nat)} (h : Exponent exponent text)
    (hrest : Closes rest) : exponent? (text ++ rest) = some (exponent, rest) := by
  cases h with
  | absent =>
    rcases rest with _ | ⟨b, rest⟩
    · rfl
    · obtain ⟨-, -, he, hE⟩ := not_numeric_of_closes hrest rfl
      rw [List.nil_append, exponent?, if_neg (not_or.mpr ⟨he, hE⟩)]
  | @present letter negative sign ds text letter_eq signed digits =>
    have hletter : ascii letter = ascii 'e' ∨ ascii letter = ascii 'E' :=
      letter_eq.imp (congrArg ascii) (congrArg ascii)
    obtain ⟨htaken, hafter⟩ := digits_append digits fun b hb => (not_numeric_of_closes hrest hb).1
    obtain ⟨d, ds, rfl⟩ := List.exists_cons_of_ne_nil digits.ne_nil
    rw [List.cons_append, List.append_assoc, exponent?, if_pos hletter,
      sign_written signed fun b hb => isDigit_of_head? digits hb]
    dsimp only
    rw [htaken, hafter]

/-- Of several digits the first is not zero. -/
def whole? : List Nat → Option (List Nat)
  | [] => none
  | 0 :: _ :: _ => none
  | ds => some ds

theorem whole?_eq_some_iff {ds whole : List Nat} :
    whole? ds = some whole ↔ ds = whole ∧ whole ≠ [] ∧ (whole.head? = some 0 → whole = [0]) := by
  rcases ds with _ | ⟨_ | d, _ | ⟨d', ds⟩⟩ <;> simp only [whole?] <;> grind

theorem numeral?_eq (bytes : Bytes) :
    numeral? bytes =
      (whole? (digits (accept (ascii '-') bytes).2)).bind fun whole =>
        (fraction? (afterDigits (accept (ascii '-') bytes).2)).bind fun fractional =>
          (exponent? fractional.2).bind fun scaled =>
            some (⟨(accept (ascii '-') bytes).1, whole, fractional.1, scaled.1⟩, scaled.2) := by
  rw [numeral?]
  rcases accept (ascii '-') bytes with ⟨negative, after⟩
  dsimp only
  rcases digits after with _ | ⟨_ | d, _ | ⟨d', ds⟩⟩ <;> rfl

theorem numeral?_eq_some {n : Numeral} (h : numeral? bytes = some (n, rest)) :
    ∃ text, n.Written text ∧ bytes = text ++ rest := by
  rw [numeral?_eq] at h
  obtain ⟨whole, hwhole, h⟩ := Option.bind_eq_some_iff.mp h
  obtain ⟨⟨fraction, after'⟩, hfraction, h⟩ := Option.bind_eq_some_iff.mp h
  obtain ⟨⟨exponent, rest⟩, hexponent, h⟩ := Option.bind_eq_some_iff.mp h
  cases h
  obtain ⟨hdigits, hne, hzero⟩ := whole?_eq_some_iff.mp hwhole
  obtain ⟨wholeText, hwritten, hafter⟩ := digits_eq hdigits hne
  obtain ⟨fractionText, hfractional, hafter'⟩ := fraction?_eq_some hfraction
  obtain ⟨exponentText, hscaled, hrest⟩ := exponent?_eq_some hexponent
  refine ⟨_, .parts hwritten hzero hfractional hscaled, ?_⟩
  dsimp only at hrest ⊢
  rw [List.append_assoc, List.append_assoc, List.append_assoc, ← hrest, ← hafter', ← hafter]
  rcases hminus : accept (ascii '-') bytes with ⟨_ | _, after⟩
  · exact (accept_false hminus).symm
  · exact accept_true hminus

/-- A number begins with a minus sign or a digit. -/
theorem exists_numeral_head {n : Numeral} (h : n.Written text) :
    ∃ b after, text = b :: after ∧ (b = ascii '-' ∨ isDigit b = true) := by
  obtain ⟨negative, ds, fraction, exponent⟩ := n
  cases h with
  | parts digits =>
    cases negative with
    | true => exact ⟨_, _, rfl, .inl rfl⟩
    | false =>
      obtain ⟨d, ds, rfl⟩ := List.exists_cons_of_ne_nil digits.ne_nil
      rw [digits.bytes_eq]
      exact ⟨_, _, rfl, .inr (isDigit_iff.mpr ⟨d, digits.lt d List.mem_cons_self, rfl⟩)⟩

/-- No other value begins so. -/
theorem ne_of_begins {b : UInt8} (h : b = ascii '-' ∨ isDigit b = true) :
    isBlank b = false ∧ ∀ c ∈ ['"', '[', '{', 'n', 't', 'f', ']'], b ≠ ascii c := by
  have hnot : isBlank b = false ∧ b ∉ ['"', '[', '{', 'n', 't', 'f', ']'].map ascii := by
    rcases h with rfl | h
    · decide
    · obtain ⟨d, hd, rfl⟩ := isDigit_iff.mp h
      revert d
      decide
  refine ⟨hnot.1, ?_⟩
  rintro c hc rfl
  exact hnot.2 (List.mem_map_of_mem hc)

theorem numeral?_written {n : Numeral} (h : n.Written text) (hrest : Closes rest) :
    numeral? (text ++ rest) = some (n, rest) := by
  obtain ⟨negative, ds, fractional?, scaled?⟩ := n
  cases h with
  | @parts whole fraction exponent digits zero fractional scaled =>
    have hafter : ∀ b ∈ (exponent ++ rest).head?, isDigit b = false ∧ b ≠ ascii '.' := by
      intro b hb
      cases scaled with
      | absent =>
        obtain ⟨hdigit, hpoint, -⟩ := not_numeric_of_closes hrest hb
        exact ⟨hdigit, hpoint⟩
      | present letter_eq =>
        cases hb
        rcases letter_eq with rfl | rfl <;> decide
    have hafter' : ∀ b ∈ (fraction ++ (exponent ++ rest)).head?, isDigit b = false := by
      intro b hb
      cases fractional with
      | absent => exact (hafter b hb).1
      | present =>
        cases hb
        decide
    obtain ⟨htaken, hremain⟩ := digits_append digits hafter'
    have hminus : accept (ascii '-') ((if negative then [ascii '-'] else []) ++
        (whole ++ (fraction ++ (exponent ++ rest)))) =
          (negative, whole ++ (fraction ++ (exponent ++ rest))) := by
      cases negative with
      | true => exact accept_self _ _
      | false =>
        exact accept_of_head?_ne fun b hb => ne_of_isDigit rfl (isDigit_of_head? digits hb)
    rw [List.append_assoc, List.append_assoc, List.append_assoc, numeral?_eq, hminus, htaken,
      hremain, whole?_eq_some_iff.mpr ⟨rfl, digits.ne_nil, zero⟩, Option.bind_some,
      fraction?_written fractional hafter, Option.bind_some, exponent?_written scaled hrest]
    rfl

end Raw

/-! ## Strings -/

namespace Text

variable {done ps : List Piece} {bytes rest text : Bytes}

theorem scan_end (done : List Piece) (rest : Bytes) :
    scan done (ascii '"' :: rest) = some (done.reverse, rest) := by
  rw [scan.eq_def]
  rfl

theorem scan_short {e : UInt8} {c : Char} (h : short? e = some c) (hunit : e ≠ ascii 'u')
    (done : List Piece) (rest : Bytes) :
    scan done (ascii '\\' :: e :: rest) = scan (.short c :: done) rest := by
  have hquote : ascii '\\' ≠ ascii '"' := by decide
  rw [scan.eq_def]
  dsimp only
  rw [if_neg hquote, if_pos rfl, if_neg hunit, h]

theorem scan_unit {b₁ b₂ b₃ b₄ : UInt8} {n : Nat} (h : unit? b₁ b₂ b₃ b₄ = some n)
    (done : List Piece) (rest : Bytes) :
    scan done (ascii '\\' :: ascii 'u' :: b₁ :: b₂ :: b₃ :: b₄ :: rest) =
      scan (.unit n :: done) rest := by
  have hquote : ascii '\\' ≠ ascii '"' := by decide
  rw [scan.eq_def]
  dsimp only
  rw [if_neg hquote, if_pos rfl, if_pos rfl, h]

theorem scan_byte {b : UInt8} (h : IsPlain b) (done : List Piece) (rest : Bytes) :
    scan done (b :: rest) = scan (.byte b :: done) rest := by
  obtain ⟨hquote, hbackslash, hcontrol⟩ := h
  rw [scan.eq_def]
  dsimp only
  rw [if_neg hquote, if_neg hbackslash, if_neg (by omega)]

theorem short?_eq_some_iff {b : UInt8} {c : Char} :
    short? b = some c ↔ ∃ e, (e, c) ∈ shorts ∧ b = ascii e := by
  constructor
  · intro h
    unfold short? at h
    split_ifs at h <;> cases h <;> refine ⟨_, ?_, ‹b = _›⟩ <;> decide
  · rintro ⟨e, hmem, rfl⟩
    simp only [shorts, List.mem_cons, List.not_mem_nil, or_false, Prod.mk.injEq] at hmem
    rcases hmem with ⟨rfl, rfl⟩ | ⟨rfl, rfl⟩ | ⟨rfl, rfl⟩ | ⟨rfl, rfl⟩ | ⟨rfl, rfl⟩ | ⟨rfl, rfl⟩ |
      ⟨rfl, rfl⟩ | ⟨rfl, rfl⟩ <;> rfl

/-- No escape with one letter is taken for one with a number. -/
theorem ne_unit_of_mem_shorts {e c : Char} (h : (e, c) ∈ shorts) : ascii e ≠ ascii 'u' := by
  revert h
  simp only [shorts, List.mem_cons, List.not_mem_nil, or_false, Prod.mk.injEq]
  rintro (⟨rfl, -⟩ | ⟨rfl, -⟩ | ⟨rfl, -⟩ | ⟨rfl, -⟩ | ⟨rfl, -⟩ | ⟨rfl, -⟩ | ⟨rfl, -⟩ | ⟨rfl, -⟩) <;>
    decide

/-- The pieces are those of `done` in reverse and those that are written up to the quote. -/
def Scanned (done ps : List Piece) (bytes rest : Bytes) : Prop :=
  ∃ qs inner, ps = done.reverse ++ qs ∧ Pieces qs inner ∧ bytes = inner ++ ascii '"' :: rest

theorem Scanned.cons {p : Piece} (hp : p.Written text) (h : Scanned (p :: done) ps bytes rest) :
    Scanned done ps (text ++ bytes) rest := by
  obtain ⟨qs, inner, rfl, hpieces, rfl⟩ := h
  exact ⟨p :: qs, text ++ inner, by simp, .cons hp hpieces, by simp⟩

theorem scanned_of_scan (h : scan done bytes = some (ps, rest)) : Scanned done ps bytes rest := by
  fun_induction scan done bytes with
  | case2 done after =>
    cases h
    exact ⟨[], [], by simp, .nil, rfl⟩
  | case4 done b₁ b₂ b₃ b₄ after n hunit _ ih =>
    rw [unit?] at hunit
    simp only [Option.bind_eq_bind, Option.bind_eq_some_iff, Option.pure_def,
      Option.some.injEq] at hunit
    obtain ⟨d₁, h₁, d₂, h₂, d₃, h₃, d₄, h₄, rfl⟩ := hunit
    exact (ih h).cons (.unit h₁ h₂ h₃ h₄)
  | case7 done e after _ c hshort _ ih =>
    obtain ⟨e, hmem, rfl⟩ := short?_eq_some_iff.mp hshort
    exact (ih h).cons (.short hmem)
  | case10 done b after hquote hbackslash hcontrol ih =>
    exact (ih h).cons (.byte ⟨hquote, hbackslash, by omega⟩)
  | _ => cases h

/-- What is read up to the quote are pieces. -/
theorem scan_eq_some (h : scan [] bytes = some (ps, rest)) :
    ∃ inner, Pieces ps inner ∧ bytes = inner ++ ascii '"' :: rest := by
  obtain ⟨qs, inner, rfl, hpieces, rfl⟩ := scanned_of_scan h
  exact ⟨inner, hpieces, rfl⟩

theorem scan_piece {p : Piece} (h : p.Written text) (done : List Piece) (rest : Bytes) :
    scan done (text ++ rest) = scan (p :: done) rest := by
  cases h with
  | byte plain => exact scan_byte plain done rest
  | short mem =>
    exact scan_short (short?_eq_some_iff.mpr ⟨_, mem, rfl⟩) (ne_unit_of_mem_shorts mem) done rest
  | unit first second third fourth =>
    refine scan_unit ?_ done rest
    rw [unit?, first, second, third, fourth]
    rfl

/-- Pieces are read as such. -/
theorem scan_pieces (h : Pieces ps text) (done : List Piece) (rest : Bytes) :
    scan done (text ++ ascii '"' :: rest) = some (done.reverse ++ ps, rest) := by
  induction h generalizing done with
  | nil => rw [List.nil_append, scan_end, List.append_nil]
  | cons this _ ih =>
    rw [List.append_assoc, scan_piece this, ih]
    simp

end Text

end UpdateAgent.Json
