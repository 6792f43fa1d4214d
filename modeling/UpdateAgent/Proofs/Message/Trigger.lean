import UpdateAgent.Proofs.Json.Members
import UpdateAgent.Proofs.Text.Blank
import UpdateAgent.Message.Inbound

/-!
# What an update trigger says

A trigger carries an address if it is one object with the one field of that name, or a list of just
the address; whatever else is in the object is left aside. An address that is not blank is taken as
it is, a blank one is refused as such, and every other message is malformed (`trigger_verdict`).
-/

namespace UpdateAgent.UpdateTrigger

open Json Json.Raw

variable {payload : Bytes} {url : String}

/-- The message carries this address. Of an object every key has to spell a text; the values of its
other members are not asked for one. -/
def Carries (payload : Bytes) (url : String) : Prop :=
  (∃ members, IsObject payload members ∧ OnlyText members "url" url) ∨
    ∃ value, Document payload (.list [value]) ∧ IsText value url

theorem url?_eq_some_iff : url? payload = some url ↔ Carries payload url := by
  have hfield (raw : Raw) : ((raw.fields? ["url"]).bind only?).bind Raw.text? = some url ↔
      ∃ value, (raw = .list [value] ∨ ∃ written members, raw = .object written ∧
        List.Forall₂ Names written members ∧ Only members "url" value) ∧ IsText value url := by
    rw [Option.bind_eq_some_iff]
    simp only [only?_fields?_eq_some_iff, text?_eq_some_iff]
  have hurl : url? payload =
      (read? payload).bind fun raw => ((raw.fields? ["url"]).bind only?).bind Raw.text? := by
    simp only [url?, Option.bind_eq_bind, Option.bind_assoc]
  rw [hurl, Option.bind_eq_some_iff]
  simp only [hfield, read?_eq_some_iff]
  constructor
  · rintro ⟨raw, hdocument, value, rfl | ⟨written, members, rfl, hnames, honly⟩, htext⟩
    · exact .inr ⟨value, hdocument, htext⟩
    · exact .inl ⟨members, ⟨written, hdocument, hnames⟩, value, honly, htext⟩
  · rintro (⟨members, ⟨written, hdocument, hnames⟩, value, honly, htext⟩ |
      ⟨value, hdocument, htext⟩)
    · exact ⟨_, hdocument, value, .inr ⟨written, members, rfl, hnames, honly⟩, htext⟩
    · exact ⟨_, hdocument, value, .inl rfl, htext⟩

/-- The trigger for an address carries it, whatever its characters are. -/
theorem carries_document (url : String) : Carries (document url).bytes url := by
  have hobject : IsObject (document url).bytes [("url", .text (Text.written url))] :=
    isObject_of_read? (Value.read?_bytes rfl)
  exact .inl ⟨_, hobject, _, rfl, _, rfl, Text.spells_written url⟩

/-- An address that is not blank is taken as it is. -/
theorem decode_of_ink (h : Carries payload url) (hink : ∃ c ∈ url.toList, Text.isBlank c = false) :
    decode payload = .ok url := by
  rw [decode, url?_eq_some_iff.mpr h]
  exact if_neg (Text.trim_ne_nil_iff.mpr hink)

theorem decode_of_blank (h : Carries payload url) (hblank : Text.Blank url.toList) :
    decode payload = .error .emptyUrl := by
  rw [decode, url?_eq_some_iff.mpr h]
  exact if_pos (Text.trim_eq_nil_iff.mpr hblank)

theorem decode_of_not_carries (h : ∀ url, ¬ Carries payload url) :
    decode payload = .error .malformed := by
  have hnone : url? payload = none :=
    Option.eq_none_iff_forall_ne_some.mpr fun url hurl => h url (url?_eq_some_iff.mp hurl)
  rw [decode, hnone]

/-- There is no fourth thing that becomes of a message. -/
theorem decode_cases (payload : Bytes) :
    (∃ url, Carries payload url ∧ (∃ c ∈ url.toList, Text.isBlank c = false) ∧
      decode payload = .ok url) ∨
    (∃ url, Carries payload url ∧ Text.Blank url.toList ∧ decode payload = .error .emptyUrl) ∨
    ((∀ url, ¬ Carries payload url) ∧ decode payload = .error .malformed) := by
  by_cases hcarries : ∃ url, Carries payload url
  · obtain ⟨url, hurl⟩ := hcarries
    by_cases hblank : Text.Blank url.toList
    · exact .inr (.inl ⟨url, hurl, hblank, decode_of_blank hurl hblank⟩)
    · have hink := Text.trim_ne_nil_iff.mp (mt Text.trim_eq_nil_iff.mp hblank)
      exact .inl ⟨url, hurl, hink, decode_of_ink hurl hink⟩
  · have hnone := not_exists.mp hcarries
    exact .inr (.inr ⟨hnone, decode_of_not_carries hnone⟩)

/-- A trigger is taken with the address that it carries, white space around it included, unless that
is all there is to the address; a blank address is refused, and a message that carries no address is
malformed. The trigger for an address that is not blank is taken with this address. -/
theorem trigger_verdict :
    (∀ payload url, decode payload = .ok url ↔
      Carries payload url ∧ ∃ c ∈ url.toList, Text.isBlank c = false) ∧
    (∀ payload, decode payload = .error .emptyUrl ↔
      ∃ url, Carries payload url ∧ ∀ c ∈ url.toList, Text.isBlank c) ∧
    (∀ payload, decode payload = .error .malformed ↔ ∀ url, ¬ Carries payload url) ∧
    ∀ url, (∃ c ∈ url.toList, Text.isBlank c = false) → decode (document url).bytes = .ok url := by
  refine ⟨fun payload url => ⟨fun h => ?_, fun ⟨hcarries, hink⟩ => decode_of_ink hcarries hink⟩,
    fun payload => ⟨fun h => ?_, fun ⟨url, hcarries, hblank⟩ => decode_of_blank hcarries hblank⟩,
    fun payload => ⟨fun h => ?_, decode_of_not_carries⟩,
    fun url hink => decode_of_ink (carries_document url) hink⟩
  · rcases decode_cases payload with ⟨url', hcarries, hink, hok⟩ | ⟨_, -, -, hempty⟩ | ⟨-, hmal⟩
    · cases hok.symm.trans h
      exact ⟨hcarries, hink⟩
    · cases hempty.symm.trans h
    · cases hmal.symm.trans h
  · rcases decode_cases payload with ⟨_, -, -, hok⟩ | ⟨url, hcarries, hblank, -⟩ | ⟨-, hmal⟩
    · cases hok.symm.trans h
    · exact ⟨url, hcarries, hblank⟩
    · cases hmal.symm.trans h
  · rcases decode_cases payload with ⟨_, -, -, hok⟩ | ⟨_, -, -, hempty⟩ | ⟨hnone, -⟩
    · cases hok.symm.trans h
    · cases hempty.symm.trans h
    · exact hnone

/-- A trigger whose key is escaped, behind a member that is not asked for: in it there is an address
of its own, a number that is too large and half of a character. -/
def roundabout : Bytes :=
  Utf8.ofText ("\x7b\"seen\":[\x7b\"url\":1e999\x7d,\"\\ud800\"]," ++
    "\"\\u0075rl\":\" http://x\\n\"\x7d\n")

/-- It carries its address with the white space around it, and so does the trigger that is written
for this address. -/
theorem trigger_verdict_roundabout :
    Carries roundabout " http://x\n" ∧
      (∃ c ∈ " http://x\n".toList, Text.isBlank c = false) ∧
      decode (document " http://x\n").bytes = .ok " http://x\n" := by
  obtain ⟨hok, -, -, hdocument⟩ := trigger_verdict
  have htaken : decode roundabout = .ok " http://x\n" := by
    decide +kernel
  obtain ⟨hcarries, hink⟩ := (hok _ _).mp htaken
  exact ⟨hcarries, hink, hdocument _ hink⟩

end UpdateAgent.UpdateTrigger
