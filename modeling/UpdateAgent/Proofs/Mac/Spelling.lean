import UpdateAgent.Proofs.Mac
import UpdateAgent.Proofs.Json.Members
import UpdateAgent.Proofs.Text.Blank
import UpdateAgent.Mac.Document

/-!
# How hardware addresses are spelled

An address is spelled as six groups of two hexadecimal digits with separators between them and white
space around the whole (`Spelled`). Every such text is read, and no other one; what is read is
written as the same groups, in upper case with colons or in lower case without separators, and a
document that is a string is read as the text that it stands for (`address_spelled`).
-/

namespace UpdateAgent

namespace Hex

theorem toNat_toUpper (c : Char) :
    c.toUpper.toNat = if 97 ≤ c.toNat ∧ c.toNat ≤ 122 then c.toNat - 32 else c.toNat := by
  unfold Char.toUpper
  split
  · rename_i h
    have hlow : 97 ≤ c.toNat := h.1
    have hhigh : c.toNat ≤ 122 := h.2
    rw [if_pos ⟨hlow, hhigh⟩]
    have hshift : ('A'.val - 'a'.val).toNat = 2 ^ 32 - 32 := by decide
    have hval : c.val.toNat = c.toNat := rfl
    show (c.val + ('A'.val - 'a'.val)).toNat = c.toNat - 32
    rw [UInt32.toNat_add, hshift]
    omega
  · rename_i h
    exact (if_neg h).symm

theorem toNat_upper {n : Nat} (h : n < 16) :
    (upper n).toNat = if n < 10 then 48 + n else 55 + n := by
  revert n
  decide

/-- The upper-case letter of a digit is the digit of its value. -/
theorem toUpper_of_digit? {c : Char} {n : Nat} (h : digit? c = some n) : c.toUpper = upper n := by
  have hcases := digit?_eq_some h
  have hn : n < 16 := by omega
  refine Char.toNat_inj.mp ?_
  rw [toNat_toUpper, toNat_upper hn]
  split <;> split <;> omega

end Hex

namespace MacAddress

/-- A hexadecimal digit. -/
def IsHexDigit (c : Char) : Prop :=
  ('0' ≤ c ∧ c ≤ '9') ∨ ('A' ≤ c ∧ c ≤ 'F') ∨ ('a' ≤ c ∧ c ≤ 'f')

instance : DecidablePred IsHexDigit :=
  fun c => inferInstanceAs (Decidable (('0' ≤ c ∧ c ≤ '9') ∨ ('A' ≤ c ∧ c ≤ 'F') ∨
    ('a' ≤ c ∧ c ≤ 'f')))

/-- Two digits. -/
structure Group where
  high : Char
  low : Char
  high_digit : IsHexDigit high
  low_digit : IsHexDigit low

/-- The digits of a group in upper case. -/
def Group.upper (g : Group) : List Char :=
  [g.high.toUpper, g.low.toUpper]

/-- The digits of a group in lower case. -/
def Group.lower (g : Group) : List Char :=
  [g.high.toLower, g.low.toLower]

/-- Groups with a colon or a hyphen between neighbours. -/
inductive Grouped : List Group → List Char → Prop
  | last (g : Group) : Grouped [g] [g.high, g.low]
  | next (g : Group) {separator : Char} {groups : List Group} {cs : List Char}
      (separates : separator = ':' ∨ separator = '-') (others : Grouped groups cs) :
      Grouped (g :: groups) (g.high :: g.low :: separator :: cs)

/-- The text spells six groups, with white space around them. -/
def Spelled (groups : List Group) (s : String) : Prop :=
  groups.length = 6 ∧ ∃ before cs after, Text.Blank before ∧ Text.Blank after ∧
    Grouped groups cs ∧ s.toList = before ++ (cs ++ after)

variable {c : Char} {cs : List Char} {groups groups' : List Group} {s s' : String}
  {mac mac' : MacAddress}

/-! ## Digits and groups -/

theorem isHexDigit_iff : IsHexDigit c ↔ ∃ n, Hex.digit? c = some n := by
  have hnat : IsHexDigit c ↔ (48 ≤ c.toNat ∧ c.toNat ≤ 57) ∨ (65 ≤ c.toNat ∧ c.toNat ≤ 70) ∨
      (97 ≤ c.toNat ∧ c.toNat ≤ 102) := Iff.rfl
  rw [hnat]
  constructor
  · intro h
    simp only [Hex.digit?]
    split
    · exact ⟨_, rfl⟩
    · split
      · exact ⟨_, rfl⟩
      · rw [if_pos (by omega)]
        exact ⟨_, rfl⟩
  · rintro ⟨n, hn⟩
    have hcases := Hex.digit?_eq_some hn
    omega

theorem isBlank_of_isHexDigit (h : IsHexDigit c) : Text.isBlank c = false := by
  have hnat : (48 ≤ c.toNat ∧ c.toNat ≤ 57) ∨ (65 ≤ c.toNat ∧ c.toNat ≤ 70) ∨
      (97 ≤ c.toNat ∧ c.toNat ≤ 102) := h
  simp only [Text.isBlank, Bool.or_eq_false_iff, Bool.and_eq_false_iff, decide_eq_false_iff_not,
    beq_eq_false_iff_ne]
  omega

/-- A group is the byte that its digits are written for. -/
theorem Group.exists_byte (g : Group) : ∃ b, Hex.byte? g.high g.low = some b ∧
    Hex.ofByteUpper b = g.upper ∧ Hex.ofByte b = g.lower := by
  obtain ⟨n, hn⟩ := isHexDigit_iff.mp g.high_digit
  obtain ⟨k, hk⟩ := isHexDigit_iff.mp g.low_digit
  obtain ⟨hn16, hhigh⟩ := Hex.toLower_of_digit? hn
  obtain ⟨hk16, hlow⟩ := Hex.toLower_of_digit? hk
  have hnat : (UInt8.ofNat (16 * n + k)).toNat = 16 * n + k := by
    rw [UInt8.toNat_ofNat']
    omega
  have hdiv : (16 * n + k) / 16 = n := by omega
  have hmod : (16 * n + k) % 16 = k := by omega
  refine ⟨UInt8.ofNat (16 * n + k), by simp [Hex.byte?, hn, hk], ?_, ?_⟩
  · rw [Hex.ofByteUpper, hnat, hdiv, hmod, upper, Hex.toUpper_of_digit? hn,
      Hex.toUpper_of_digit? hk]
  · rw [Hex.ofByte, hnat, hdiv, hmod, lower, hhigh, hlow]

/-- Groups are read as the bytes that they are written for. -/
theorem Grouped.exists_octets (h : Grouped groups cs) : ∃ octets, groups? cs = some octets ∧
    octets.map Hex.ofByteUpper = groups.map Group.upper ∧
    octets.map Hex.ofByte = groups.map Group.lower := by
  induction h with
  | last g =>
    obtain ⟨b, hb, hupper, hlower⟩ := g.exists_byte
    exact ⟨[b], by simp [groups?, hb], by simp [hupper], by simp [hlower]⟩
  | @next g separator groups cs separates _ ih =>
    obtain ⟨b, hb, hupper, hlower⟩ := g.exists_byte
    obtain ⟨octets, hoctets, huppers, hlowers⟩ := ih
    have hseparator : isSeparator separator = true := by
      rcases separates with rfl | rfl <;> rfl
    refine ⟨b :: octets, ?_, by simp [hupper, huppers], by simp [hlower, hlowers]⟩
    rw [groups?, if_pos hseparator, hb, hoctets]
    rfl

/-- What is read is written in groups. -/
theorem grouped_of_groups? {octets : Bytes} (h : groups? cs = some octets) :
    ∃ groups, Grouped groups cs := by
  have hgroup {high low : Char} {b : UInt8} (hb : Hex.byte? high low = some b) :
      ∃ g : Group, g.high = high ∧ g.low = low := by
    simp only [Hex.byte?, Option.bind_eq_bind, Option.bind_eq_some_iff] at hb
    obtain ⟨n, hn, k, hk, -⟩ := hb
    exact ⟨⟨high, low, isHexDigit_iff.mpr ⟨n, hn⟩, isHexDigit_iff.mpr ⟨k, hk⟩⟩, rfl, rfl⟩
  fun_induction groups? cs generalizing octets with
  | case1 high low =>
    obtain ⟨b, hb, -⟩ := Option.map_eq_some_iff.mp h
    obtain ⟨g, rfl, rfl⟩ := hgroup hb
    exact ⟨[g], .last g⟩
  | case2 high low separator rest hseparator ih =>
    simp only [Option.bind_eq_bind, Option.bind_eq_some_iff] at h
    obtain ⟨b, hb, bs, hbs, -⟩ := h
    obtain ⟨g, rfl, rfl⟩ := hgroup hb
    obtain ⟨groups, hgroups⟩ := ih hbs
    exact ⟨g :: groups, .next g (by simpa [isSeparator] using hseparator) hgroups⟩
  | case3 => cases h
  | case4 => cases h

/-- Groups begin and end with digits. -/
theorem Grouped.ends (h : Grouped groups cs) :
    cs ≠ [] ∧ (∀ c ∈ cs.head?, IsHexDigit c) ∧ ∀ c ∈ cs.getLast?, IsHexDigit c := by
  induction h with
  | last g => simp [g.high_digit, g.low_digit]
  | next g _ _ ih =>
    obtain ⟨hne, -, hlast⟩ := ih
    obtain ⟨c, rest, rfl⟩ := List.exists_cons_of_ne_nil hne
    exact ⟨List.cons_ne_nil _ _, by simp [g.high_digit], by simpa using hlast⟩

/-! ## Addresses -/

/-- Of a text that spells groups, these are left without the white space. -/
theorem Spelled.trim_eq (h : Spelled groups s) : Grouped groups (Text.trim s.toList) := by
  obtain ⟨-, before, cs, after, hbefore, hafter, hgrouped, hs⟩ := h
  obtain ⟨-, hhead, hlast⟩ := hgrouped.ends
  rw [hs, Text.trim_append hbefore hafter (fun c hc => isBlank_of_isHexDigit (hhead c hc))
    fun c hc => isBlank_of_isHexDigit (hlast c hc)]
  exact hgrouped

/-- A text that spells six groups is read as the address that is written with them. -/
theorem Spelled.exists_parse (h : Spelled groups s) : ∃ mac, parse s = .ok mac ∧
    mac.octets.map Hex.ofByteUpper = groups.map Group.upper ∧
    mac.octets.map Hex.ofByte = groups.map Group.lower := by
  obtain ⟨octets, hoctets, hupper, hlower⟩ := h.trim_eq.exists_octets
  have hlength := congrArg List.length hupper
  rw [List.length_map, List.length_map, h.1] at hlength
  exact ⟨⟨octets, hlength⟩, parse_eq_ok_iff.mpr hoctets, hupper, hlower⟩

theorem spelled_of_parse (h : parse s = .ok mac) : ∃ groups, Spelled groups s := by
  rw [parse_eq_ok_iff] at h
  obtain ⟨groups, hgrouped⟩ := grouped_of_groups? h
  obtain ⟨octets, hoctets, hupper, -⟩ := hgrouped.exists_octets
  obtain rfl := Option.some.inj (h.symm.trans hoctets)
  have hlength := congrArg List.length hupper
  rw [List.length_map, List.length_map, mac.six] at hlength
  obtain ⟨before, after, hbefore, hafter, hs⟩ := Text.exists_trim s.toList
  exact ⟨groups, hlength.symm, before, _, after, hbefore, hafter, hgrouped, hs⟩

/-- An address is read back from its text. -/
theorem parse_text (mac : MacAddress) : parse mac.text = .ok mac := by
  have hgroups := groups?_text mac
  obtain ⟨groups, hgrouped⟩ := grouped_of_groups? hgroups
  obtain ⟨-, hhead, hlast⟩ := hgrouped.ends
  have htrim : Text.trim ([] ++ (mac.text.toList ++ [])) = mac.text.toList :=
    Text.trim_append nofun nofun (fun c hc => isBlank_of_isHexDigit (hhead c hc))
      fun c hc => isBlank_of_isHexDigit (hlast c hc)
  rw [List.nil_append, List.append_nil] at htrim
  rw [parse_eq_ok_iff, htrim, hgroups]

/-- An address is known by its groups in lower case. -/
theorem eq_iff_map_ofByte :
    mac = mac' ↔ mac.octets.map Hex.ofByte = mac'.octets.map Hex.ofByte := by
  constructor
  · rintro rfl
    rfl
  · intro h
    apply compact_injective
    rw [compact, compact, Hex.ofBytes, Hex.ofBytes, List.flatMap_def, List.flatMap_def, h]

/-! ## Documents -/

/-- A document is read as an address if it is a string that spells one. -/
theorem ofDocument?_eq_some_iff {bytes : Bytes} : ofDocument? bytes = some mac ↔
    ∃ value s, Json.Document bytes value ∧ Json.IsText value s ∧ parse s = .ok mac := by
  have hparse {s : String} : (parse s).toOption = some mac ↔ parse s = .ok mac := by
    cases parse s <;> simp [Except.toOption]
  simp only [ofDocument?, Option.bind_eq_bind, Option.bind_eq_some_iff, hparse,
    Json.Raw.read?_eq_some_iff, Json.Raw.text?_eq_some_iff]
  constructor
  · rintro ⟨value, hdocument, s, htext, hok⟩
    exact ⟨value, s, hdocument, htext, hok⟩
  · rintro ⟨value, s, hdocument, htext, hok⟩
    exact ⟨value, hdocument, s, htext, hok⟩

theorem ofDocument?_of_text {bytes : Bytes} {value : Json.Raw}
    (hdocument : Json.Document bytes value) (htext : Json.IsText value s) :
    ofDocument? bytes = (parse s).toOption := by
  rw [ofDocument?, Json.Raw.read?_eq_some_iff.mpr hdocument]
  simp [Json.Raw.text?_eq_some_iff.mpr htext]

/-- The document of an address is the string of its text. -/
theorem exists_text_document (mac : MacAddress) :
    ∃ value, Json.Document mac.document.bytes value ∧ Json.IsText value mac.text := by
  have hread : Json.Raw.read? mac.document.bytes = some (.text (Json.Text.written mac.text)) :=
    Json.Value.read?_bytes rfl
  exact ⟨_, Json.Raw.read?_eq_some_iff.mp hread, _, rfl, Json.Text.spells_written _⟩

/-- An address is read from every text that spells six groups and from no other one, and it is these
groups, written in upper case with colons or in lower case and close together. So it is read back
from its text; texts are read as one address if their groups are the same in lower case; and it is
known by its twelve digits. A document is read as an address if it is a string, and then as the text
that it stands for is read; the document of an address is the string of its text, and is read
back. -/
theorem address_spelled :
    (∀ s, (∃ mac, parse s = .ok mac) ↔ ∃ groups, Spelled groups s) ∧
    (∀ s groups, Spelled groups s → ∃ mac, parse s = .ok mac ∧
      mac.text = String.ofList (List.intercalate [':'] (groups.map Group.upper)) ∧
      mac.compact = String.ofList (groups.flatMap Group.lower)) ∧
    (∀ mac : MacAddress, parse mac.text = .ok mac) ∧
    (∀ s s' groups groups', Spelled groups s → Spelled groups' s' →
      (parse s = parse s' ↔ groups.map Group.lower = groups'.map Group.lower)) ∧
    (∀ mac mac' : MacAddress, mac.compact = mac'.compact ↔ mac = mac') ∧
    (∀ bytes value s, Json.Document bytes value → Json.IsText value s →
      ofDocument? bytes = (parse s).toOption) ∧
    (∀ bytes mac, ofDocument? bytes = some mac ↔
      ∃ value s, Json.Document bytes value ∧ Json.IsText value s ∧ parse s = .ok mac) ∧
    ∀ mac : MacAddress,
      (∃ value, Json.Document mac.document.bytes value ∧ Json.IsText value mac.text) ∧
        ofDocument? mac.document.bytes = some mac := by
  refine ⟨fun s => ⟨fun ⟨mac, h⟩ => spelled_of_parse h, fun ⟨groups, h⟩ => ?_⟩,
    fun s groups h => ?_, parse_text, fun s s' groups groups' h h' => ?_,
    fun mac mac' => compact_injective.eq_iff, fun bytes value s => ofDocument?_of_text,
    fun bytes mac => ofDocument?_eq_some_iff, fun mac => ⟨exists_text_document mac, ?_⟩⟩
  · obtain ⟨mac, hmac, -⟩ := h.exists_parse
    exact ⟨mac, hmac⟩
  · obtain ⟨mac, hmac, hupper, hlower⟩ := h.exists_parse
    refine ⟨mac, hmac, by rw [text, hupper], ?_⟩
    rw [compact, Hex.ofBytes, List.flatMap_def, List.flatMap_def, hlower]
  · obtain ⟨mac, hmac, -, hlower⟩ := h.exists_parse
    obtain ⟨mac', hmac', -, hlower'⟩ := h'.exists_parse
    rw [hmac, hmac', Except.ok.injEq, eq_iff_map_ofByte, hlower, hlower']
  · obtain ⟨value, hdocument, htext⟩ := exists_text_document mac
    exact ofDocument?_eq_some_iff.mpr ⟨value, _, hdocument, htext, parse_text mac⟩

/-- Six groups in either case. -/
def sixGroups : List Group :=
  [⟨'a', 'B', by decide, by decide⟩, ⟨'c', 'D', by decide, by decide⟩,
    ⟨'e', 'f', by decide, by decide⟩, ⟨'0', '1', by decide, by decide⟩,
    ⟨'2', '3', by decide, by decide⟩, ⟨'4', '5', by decide, by decide⟩]

theorem spelled_sixGroups : Spelled sixGroups "\u00a0aB-cD:ef-01:23-45\n" := by
  refine ⟨rfl, ['\u00a0'], "aB-cD:ef-01:23-45".toList, ['\n'], List.forall_mem_singleton.mpr rfl,
    List.forall_mem_singleton.mpr rfl, ?_, by decide⟩
  exact .next _ (.inr rfl) (.next _ (.inl rfl) (.next _ (.inr rfl) (.next _ (.inl rfl)
    (.next _ (.inr rfl) (.last _)))))

/-- They are read with separators of both kinds. The text of the address has the same groups but for
their case, and the document that is written for it is read as this text is. -/
theorem address_spelled_mixed :
    Spelled sixGroups "\u00a0aB-cD:ef-01:23-45\n" ∧
      ∃ mac, parse "\u00a0aB-cD:ef-01:23-45\n" = .ok mac ∧ mac.text = "AB:CD:EF:01:23:45" ∧
        mac.compact = "abcdef012345" ∧
        (∃ groups, Spelled groups "AB:CD:EF:01:23:45" ∧
          sixGroups.map Group.lower = groups.map Group.lower) ∧
        ofDocument? mac.document.bytes = (parse "AB:CD:EF:01:23:45").toOption := by
  obtain ⟨hread, hwritten, hback, hsame, -, hstring, -, hdocument⟩ := address_spelled
  obtain ⟨mac, hmac, htext, hcompact⟩ := hwritten _ _ spelled_sixGroups
  have hupper : mac.text = "AB:CD:EF:01:23:45" := htext.trans (by decide)
  obtain ⟨groups, hgroups⟩ := (hread mac.text).mp ⟨mac, hback mac⟩
  have hlower := (hsame _ _ _ _ spelled_sixGroups hgroups).mp (hmac.trans (hback mac).symm)
  obtain ⟨⟨value, hvalue, hstands⟩, -⟩ := hdocument mac
  rw [hupper] at hgroups hstands
  exact ⟨spelled_sixGroups, mac, hmac, hupper, hcompact.trans (by decide), ⟨groups, hgroups, hlower⟩,
    hstring _ _ _ hvalue hstands⟩

end MacAddress

end UpdateAgent
