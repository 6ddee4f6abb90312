import TrackedStorage.Endpoint
import TrackedStorage.FileId
import TrackedStorage.Proofs.SpelledNumbers

set_option autoImplicit false

namespace TrackedStorage

open Numeral (Spelling)

namespace Bytes
variable {separator : UInt8} {bytes : Bytes}

theorem exists_first_of_mem (isIn : separator ∈ bytes) :
    ∃ front back, bytes = front ++ separator :: back ∧ separator ∉ front := by
  cases parts : bytes.splitFirst separator with
  | none => exact absurd isIn (splitFirst_eq_none_iff.mp parts)
  | some pair => exact ⟨pair.1, pair.2, eq_append_of_splitFirst parts⟩

theorem exists_last_of_mem (isIn : separator ∈ bytes) :
    ∃ front back, bytes = front ++ separator :: back ∧ separator ∉ back := by
  cases parts : bytes.splitLast separator with
  | none => exact absurd isIn (splitLast_eq_none_iff.mp parts)
  | some pair => exact ⟨pair.1, pair.2, eq_append_of_splitLast parts⟩

end Bytes

namespace Endpoint

def IsPort (text : Bytes) (port : UInt16) : Prop :=
  ∃ spelling : Spelling, text = spelling.text ∧ 1 ≤ spelling.number ∧ spelling.number ≤ 65535 ∧
    spelling.number = port.toNat

namespace IsPort
variable {text : Bytes} {port : UInt16}

/-- No blank, sign or digit is a colon. -/
theorem colon_not_mem (isPort : IsPort text port) : colon ∉ text := by
  obtain ⟨spelling, rfl, -⟩ := isPort
  intro isIn
  rw [Spelling.text, List.mem_append, List.mem_append] at isIn
  rcases isIn with blank | sign | digit
  · exact absurd (spelling.blank colon blank) (by decide)
  · cases signed : spelling.sign <;> rw [signed] at sign <;> exact absurd sign (by decide)
  · exact absurd (spelling.decimal colon digit) (by decide)

theorem ne_nil (isPort : IsPort text port) : text ≠ [] := by
  obtain ⟨spelling, rfl, -⟩ := isPort
  exact spelling.text_ne_nil

/-- Every port but zero is spelled in plain decimal. -/
theorem of_decimal {port : UInt16} (positive : port ≠ 0) :
    IsPort (Numeral.decimal port.toNat) port := by
  have low : port.toNat ≠ 0 := fun zero => positive (UInt16.toNat_inj.mp zero)
  have high := port.toNat_lt
  refine ⟨.plain port.toNat, rfl, ?_, ?_, Spelling.number_plain _⟩
  · rw [Spelling.number_plain]
    omega
  · rw [Spelling.number_plain]
    omega

end IsPort

theorem readPort?_eq_some_iff {text : Bytes} {port : UInt16} :
    readPort? text = some port ↔ IsPort text port := by
  constructor
  · intro read
    unfold readPort? at read
    split at read
    · rename_i number spelled
      obtain ⟨spelling, rfl, rfl⟩ := Spelling.readInt?_eq_whole_iff.mp spelled
      split at read
      · rename_i range
        cases read
        refine ⟨spelling, rfl, range.1, range.2, ?_⟩
        rw [UInt16.toNat_ofNat_of_lt' (show spelling.number.toNat < 65536 by omega)]
        omega
      · cases read
    · cases read
  · rintro ⟨spelling, rfl, low, high, same⟩
    have spelled := Spelling.readInt?_eq_whole_iff.mpr ⟨spelling, rfl, rfl⟩
    simp only [readPort?, spelled, low, high, and_self, ↓reduceIte]
    rw [same, Int.toNat_natCast, UInt16.ofNat_toNat]

/-- Whether an address names an endpoint: a host, in which colons may occur, and behind the last
colon a text that spells the port. -/
structure IsNamedBy (endpoint : Endpoint) (address text : Bytes) : Prop where
  parts : address = endpoint.host ++ colon :: text
  last : colon ∉ text
  hosted : endpoint.host ≠ []
  port : IsPort text endpoint.port

inductive Misnamed (address : Bytes) : Fault → Prop
  | colonless (absent : colon ∉ address) : Misnamed address (.setting (.addressShape address))
  | partless {host text : Bytes} (parts : address = host ++ colon :: text) (last : colon ∉ text)
      (missing : host = [] ∨ text = []) : Misnamed address (.setting (.addressShape address))
  | portless {host text : Bytes} (parts : address = host ++ colon :: text) (last : colon ∉ text)
      (hosted : host ≠ []) (filled : text ≠ []) (unspelt : ∀ port, ¬ IsPort text port) :
      Misnamed address (.setting (.addressPort address))

/-- A malformed address is a matter of the settings. -/
theorem Misnamed.setting {address : Bytes} {fault : Fault} (misnamed : Misnamed address fault) :
    ∃ cause, fault = .setting cause := by
  cases misnamed <;> exact ⟨_, rfl⟩

theorem named_or_misnamed (address : Bytes) :
    (∃ (endpoint : Endpoint) (text : Bytes), endpoint.IsNamedBy address text) ∨
      ∃ fault, Misnamed address fault := by
  by_cases colons : colon ∈ address
  · obtain ⟨host, text, parts, last⟩ := Bytes.exists_last_of_mem colons
    by_cases missing : host = [] ∨ text = []
    · exact .inr ⟨_, .partless parts last missing⟩
    · obtain ⟨hosted, filled⟩ := not_or.mp missing
      by_cases spelt : ∃ port, IsPort text port
      · obtain ⟨port, isPort⟩ := spelt
        exact .inl ⟨⟨host, port⟩, text, parts, last, hosted, isPort⟩
      · exact .inr ⟨_, .portless parts last hosted filled (not_exists.mp spelt)⟩
  · exact .inr ⟨_, .colonless colons⟩

theorem ofAddress_of_named {endpoint : Endpoint} {address text : Bytes}
    (named : endpoint.IsNamedBy address text) : ofAddress address = .ok endpoint := by
  obtain ⟨rfl, last, hosted, isPort⟩ := named
  have filled := isPort.ne_nil
  have split := Bytes.splitLast_append endpoint.host last
  simp only [ofAddress, split, hosted, filled, or_self, ↓reduceIte,
    readPort?_eq_some_iff.mpr isPort]

theorem ofAddress_of_misnamed {address : Bytes} {fault : Fault}
    (misnamed : Misnamed address fault) : ofAddress address = .error fault := by
  cases misnamed with
  | colonless absent =>
      have unsplit := Bytes.splitLast_eq_none_iff.mpr absent
      simp only [ofAddress, unsplit]
  | @partless host text parts last missing =>
      have split := Bytes.splitLast_append host last
      rw [← parts] at split
      simp only [ofAddress, split, missing, ↓reduceIte]
  | @portless host text parts last hosted filled unspelt =>
      have split := Bytes.splitLast_append host last
      have unread : readPort? text = none := by
        rw [Option.eq_none_iff_forall_ne_some]
        intro port read
        exact unspelt port (readPort?_eq_some_iff.mp read)
      rw [← parts] at split
      simp only [ofAddress, split, hosted, filled, or_self, ↓reduceIte, unread]

/-- A text is an address or it has a fault. -/
theorem ofAddress_iff (address : Bytes) :
    (∀ endpoint, ofAddress address = .ok endpoint ↔ ∃ text, endpoint.IsNamedBy address text) ∧
      ∀ fault, ofAddress address = .error fault ↔ Misnamed address fault := by
  refine Fault.eq_iff_of_decided (named_or_misnamed address) ?_ ?_
  · rintro endpoint ⟨text, named⟩
    exact ofAddress_of_named named
  · intro fault misnamed
    exact ofAddress_of_misnamed misnamed

/-- The address of an endpoint leads back to it, even if there are colons in the host. -/
theorem ofAddress_address {endpoint : Endpoint} (named : endpoint.host ≠ [])
    (positive : endpoint.port ≠ 0) : ofAddress endpoint.address = .ok endpoint := by
  have isPort := IsPort.of_decimal positive
  exact ofAddress_of_named ⟨rfl, isPort.colon_not_mem, named, isPort⟩

theorem setting_of_error {address : Bytes} {fault : Fault}
    (malformed : ofAddress address = .error fault) : ∃ cause, fault = .setting cause :=
  ((ofAddress_iff address).2 fault |>.mp malformed).setting

/-- A text is an address exactly if it is a host, a colon and, behind the last colon, a number in 1
to 65535, which may be spelled in any way but with nothing after it. What it names is the only
endpoint that it can name. Every other text is refused: for its shape if it has no colon, or nothing
on one side of the last one, and else for its port. -/
theorem ofAddress_exact (address : Bytes) :
    (∀ endpoint, ofAddress address = .ok endpoint ↔ ∃ text, endpoint.IsNamedBy address text) ∧
    (∀ host text port, address = host ++ colon :: text → host ≠ [] → IsPort text port →
      ofAddress address = .ok ⟨host, port⟩) ∧
    (∀ (endpoint other : Endpoint) (text more : Bytes), endpoint.IsNamedBy address text →
      other.IsNamedBy address more → endpoint = other ∧ text = more) ∧
    (∀ fault, ofAddress address = .error fault ↔ Misnamed address fault) ∧
    ((∀ endpoint text, ¬ IsNamedBy endpoint address text) →
      ∃ cause, ofAddress address = .error (.setting cause)) := by
  obtain ⟨accepted, refused⟩ := ofAddress_iff address
  refine ⟨accepted, ?_, ?_, refused, ?_⟩
  · intro host text port parts hosted isPort
    exact ofAddress_of_named ⟨parts, isPort.colon_not_mem, hosted, isPort⟩
  · intro endpoint other text more named same
    have first := Bytes.splitLast_append endpoint.host named.last
    have second := Bytes.splitLast_append other.host same.last
    have read := (ofAddress_of_named named).symm.trans (ofAddress_of_named same)
    rw [← named.parts] at first
    rw [← same.parts, first] at second
    cases read
    cases second
    exact ⟨rfl, rfl⟩
  · intro unnamed
    rcases named_or_misnamed address with ⟨endpoint, text, named⟩ | ⟨fault, misnamed⟩
    · exact absurd named (unnamed endpoint text)
    · obtain ⟨cause, rfl⟩ := misnamed.setting
      exact ⟨cause, ofAddress_of_misnamed misnamed⟩

theorem ofAddress_exact_of_spelled_ports :
    let host := Bytes.ofText "a::1"
    let number := List.replicate 4 48 ++ [56, 48]
    let huge := Bytes.ofText "h:" ++ List.replicate 20 57
    ofAddress (host ++ colon :: ([32, 9, 43] ++ number)) = .ok ⟨host, 80⟩ ∧
      ofAddress (Bytes.ofText "h:80" ++ [0]) =
        .error (.setting (.addressPort (Bytes.ofText "h:80" ++ [0]))) ∧
      ofAddress huge = .error (.setting (.addressPort huge)) := by
  intro host number huge
  have refused (text : Bytes) (last : colon ∉ text) (filled : text ≠ [])
      (unread : readPort? text = none) :
      ofAddress (Bytes.ofText "h:" ++ text) =
        .error (.setting (.addressPort (Bytes.ofText "h:" ++ text))) := by
    obtain ⟨-, -, -, faults, -⟩ := ofAddress_exact (Bytes.ofText "h:" ++ text)
    refine (faults _).mpr (@Misnamed.portless _ [104] text rfl last (by decide) filled ?_)
    intro port isPort
    rw [← readPort?_eq_some_iff, unread] at isPort
    cases isPort
  have spelled : IsPort ([32, 9, 43] ++ number) 80 :=
    ⟨⟨[32, 9], .plus, number, List.all_eq_true.mp (by decide), List.all_eq_true.mp (by decide),
      by decide⟩, rfl, by decide, by decide, by decide⟩
  refine ⟨?_, ?_, ?_⟩
  · exact (ofAddress_exact _).2.1 host _ 80 rfl (by decide) spelled
  · exact refused (Bytes.ofText "80" ++ [0]) (by decide) (by decide) (by decide)
  · exact refused (List.replicate 20 57) (by decide) (by decide) (by decide)

end Endpoint

namespace FileId

/-- What a text holds that is read as an identifier: the group ends at the first slash. -/
structure IsReadable (id : FileId) : Prop where
  named : id.group ≠ []
  short : id.group.length ≤ groupWidth
  unslashed : slash ∉ id.group
  filed : id.filename ≠ []

inductive Misnamed (text : Bytes) : Fault → Prop
  | slashless (absent : slash ∉ text) : Misnamed text (.setting (.idWithoutSlash text))
  | partless {group filename : Bytes} (parts : text = group ++ slash :: filename)
      (first : slash ∉ group) (missing : group = [] ∨ filename = []) :
      Misnamed text (.setting (.idWithEmptyPart text))
  | long {group filename : Bytes} (parts : text = group ++ slash :: filename)
      (first : slash ∉ group) (filed : filename ≠ []) (long : groupWidth < group.length) :
      Misnamed text (.setting (.groupTooLong group))

theorem Misnamed.setting {text : Bytes} {fault : Fault} (misnamed : Misnamed text fault) :
    ∃ cause, fault = .setting cause := by
  cases misnamed <;> exact ⟨_, rfl⟩

theorem readable_or_misnamed (text : Bytes) :
    (∃ id : FileId, text = id.toBytes ∧ id.IsReadable) ∨ ∃ fault, Misnamed text fault := by
  by_cases slashes : slash ∈ text
  · obtain ⟨group, filename, parts, first⟩ := Bytes.exists_first_of_mem slashes
    by_cases missing : group = [] ∨ filename = []
    · exact .inr ⟨_, .partless parts first missing⟩
    · obtain ⟨named, filed⟩ := not_or.mp missing
      by_cases short : group.length ≤ groupWidth
      · exact .inl ⟨⟨group, filename⟩, parts, named, short, first, filed⟩
      · exact .inr ⟨_, .long parts first filed (Nat.not_le.mp short)⟩
  · exact .inr ⟨_, .slashless slashes⟩

theorem parse_toBytes {id : FileId} (readable : id.IsReadable) : parse id.toBytes = .ok id := by
  have parts := Bytes.splitFirst_append readable.unslashed id.filename
  have short := Nat.not_lt.mpr readable.short
  simp only [parse, toBytes, parts, readable.named, readable.filed, or_self, ↓reduceIte, short]

theorem parse_of_misnamed {text : Bytes} {fault : Fault} (misnamed : Misnamed text fault) :
    parse text = .error fault := by
  cases misnamed with
  | slashless absent =>
      have unsplit := Bytes.splitFirst_eq_none_iff.mpr absent
      simp only [parse, unsplit]
  | @partless group filename parts first missing =>
      have split := Bytes.splitFirst_append first filename
      rw [← parts] at split
      simp only [parse, split, missing, ↓reduceIte]
  | @long group filename parts first filed long =>
      have split := Bytes.splitFirst_append first filename
      have named : group ≠ [] := List.ne_nil_of_length_pos (Nat.zero_lt_of_lt long)
      rw [← parts] at split
      simp only [parse, split, named, filed, or_self, ↓reduceIte, long]

/-- A text is an identifier or it has a fault. -/
theorem parse_iff (text : Bytes) :
    (∀ id, parse text = .ok id ↔ text = id.toBytes ∧ id.IsReadable) ∧
      ∀ fault, parse text = .error fault ↔ Misnamed text fault := by
  refine Fault.eq_iff_of_decided (readable_or_misnamed text) ?_ ?_
  · rintro id ⟨rfl, readable⟩
    exact parse_toBytes readable
  · intro fault misnamed
    exact parse_of_misnamed misnamed

/-- A text is read as an identifier exactly if it is the text of it. -/
theorem parse_eq_ok_iff {text : Bytes} {id : FileId} :
    parse text = .ok id ↔ text = id.toBytes ∧ id.IsReadable :=
  (parse_iff text).1 id

theorem setting_of_error {text : Bytes} {fault : Fault} (malformed : parse text = .error fault) :
    ∃ cause, fault = .setting cause :=
  ((parse_iff text).2 fault |>.mp malformed).setting

/-- A text is an identifier exactly if it is a group of 1 to 16 bytes, a slash and a filename that is
not empty, and the slash is the first one. Every other text is refused: if it has no slash, if one of
the parts is empty, or else for its group. Reading and writing undo each other, so no two texts
are read as one identifier. -/
theorem parse_exact (text : Bytes) :
    (∀ group filename, parse text = .ok ⟨group, filename⟩ ↔ text = group ++ slash :: filename ∧
      slash ∉ group ∧ 1 ≤ group.length ∧ group.length ≤ 16 ∧ filename ≠ []) ∧
    (∀ fault, parse text = .error fault ↔ Misnamed text fault) ∧
    ((∀ id : FileId, text = id.toBytes → ¬ id.IsReadable) →
      ∃ cause, parse text = .error (.setting cause)) ∧
    (∀ id, parse text = .ok id → id.toBytes = text) ∧
    (∀ other id, parse text = .ok id → parse other = .ok id → text = other) ∧
    ∀ id : FileId, slash ∉ id.group → 1 ≤ id.group.length → id.group.length ≤ 16 →
      id.filename ≠ [] → parse id.toBytes = .ok id := by
  have whole {other : Bytes} {id : FileId} (read : parse other = .ok id) : id.toBytes = other :=
    (parse_eq_ok_iff.mp read).1.symm
  refine ⟨?_, (parse_iff text).2, ?_, fun id => whole, ?_, ?_⟩
  · intro group filename
    rw [parse_eq_ok_iff]
    constructor
    · rintro ⟨parts, readable⟩
      exact ⟨parts, readable.unslashed, List.length_pos_iff.mpr readable.named, readable.short,
        readable.filed⟩
    · rintro ⟨parts, unslashed, named, short, filed⟩
      exact ⟨parts, List.length_pos_iff.mp named, short, unslashed, filed⟩
  · intro unread
    rcases readable_or_misnamed text with ⟨id, parts, readable⟩ | ⟨fault, misnamed⟩
    · exact absurd readable (unread id parts)
    · obtain ⟨cause, rfl⟩ := misnamed.setting
      exact ⟨cause, parse_of_misnamed misnamed⟩
  · intro other id read same
    rw [← whole read, whole same]
  · intro id unslashed named short filed
    exact parse_toBytes ⟨List.length_pos_iff.mp named, short, unslashed, filed⟩

/-- A group of as many bytes as there may be, with a NUL in it, and a filename that begins and ends
with slashes; and the same with a group of one byte more. -/
theorem parse_exact_of_widest_group :
    let group := 0 :: List.replicate 15 103
    let filename := slash :: Bytes.ofText "M00/00" ++ [slash]
    parse (group ++ slash :: filename) = .ok ⟨group, filename⟩ ∧
      parse (103 :: group ++ slash :: filename) =
        .error (.setting (.groupTooLong (103 :: group))) := by
  intro group filename
  have unslashed : slash ∉ group := by decide
  refine ⟨?_, ?_⟩
  · exact (parse_exact (group ++ slash :: filename)).2.2.2.2.2 ⟨group, filename⟩ unslashed
      (by decide) (by decide) (by decide)
  · refine ((parse_exact _).2.1 _).mpr ?_
    exact @Misnamed.long _ (103 :: group) filename rfl (by decide) (by decide) (by decide)

end FileId

end TrackedStorage
