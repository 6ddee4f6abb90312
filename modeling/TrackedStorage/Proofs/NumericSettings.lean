import TrackedStorage.Proofs.ExitCode
import TrackedStorage.Proofs.SettingTexts

set_option autoImplicit false

namespace TrackedStorage

open Bytes (ofText)
open Setting
open Numeral (Spelling)

namespace Setting

theorem Key.trimmed_name (key : Key) : Trimmed key.name key.name :=
  trim_eq_iff.mp (by cases key <;> decide)

/-- A key, a `=` and a value are a line that gives the value to the key. -/
theorem assigns_plain (key : Key) {value : Bytes} (trimmed : Trimmed value value) :
    Assigns (key.name ++ 61 :: value) key.name value := by
  have letters : ∃ byte rest, key.name = byte :: rest ∧ isBlank byte = false ∧ byte ≠ 35 := by
    cases key <;> exact ⟨_, _, rfl, by decide, by decide⟩
  obtain ⟨byte, rest, spelled, inked, unmarked⟩ := letters
  refine ⟨?_, key.name, value, rfl, by cases key <;> decide, key.trimmed_name, trimmed⟩
  have led : (trim (key.name ++ 61 :: value)).head? = some byte := by
    rw [spelled]
    exact (trimmed_trim _).head?_eq inked
  rw [isSilent_iff (trimmed_trim _), led]
  rintro (blank | marked)
  · rw [blank] at led
    cases led
  · exact unmarked (Option.some.inj marked)

/-- Wherever a line gives a value to a key for numbers, it is in order exactly if the value spells a
number up to the limit. -/
theorem good_iff_of_numeric {key : Key} {limit : Nat} (numeric : key.limit? = some limit)
    {line value : Bytes} (assigns : Assigns line key.name value) :
    ¬ IsBad line ↔ ∃ number, Spells limit value number := by
  rw [← not_forall_not, not_iff_not]
  refine ⟨?_, fun unspelt => .numberless assigns numeric unspelt⟩
  intro bad
  obtain ⟨defect, defective⟩ := isBad_iff.mp bad
  cases defective with
  | shapeless loud absent =>
      obtain ⟨front, back, rfl, -⟩ := assigns.parts
      exact absurd (List.mem_append_right front List.mem_cons_self) absent
  | refused again refuses =>
      obtain ⟨named, rfl⟩ := assigns.unique again
      cases Key.name_injective named
      exact refuses.unspelt numeric

end Setting

namespace Settings

theorem exists_number_of_numeric {key : Key} {limit : Nat} (numeric : key.limit? = some limit)
    (settings : Settings) : ∃ setting number, settings.stored key = some setting ∧
      setting.number? = some number := by
  cases key with
  | maxConnections => exact ⟨_, _, rfl, rfl⟩
  | connectTimeout => exact ⟨_, _, rfl, rfl⟩
  | networkTimeout => exact ⟨_, _, rfl, rfl⟩
  | tracker => cases numeric
  | logFile => cases numeric
  | logLevel => cases numeric

/-- Every default is within the limit of its key. -/
theorem default_le {key : Key} {limit : Nat} (numeric : key.limit? = some limit)
    {setting : Setting} (kept : default.stored key = some setting) {number : Nat}
    (counted : setting.number? = some number) : number ≤ limit := by
  cases key <;> cases numeric <;> cases kept <;> cases counted <;> decide

section
variable {settings : Settings} {lines : List Bytes} (follows : Follows default settings lines)
  {key : Key} {limit : Nat} (numeric : key.limit? = some limit)
include follows numeric

/-- What is set for a key for numbers is a number up to its limit: the one that the last value for
the key spells, or the default. -/
theorem Follows.of_stored {setting : Setting} {number : Nat}
    (kept : settings.stored key = some setting) (counted : setting.number? = some number) :
    number ≤ limit ∧ match (values key.name lines).getLast? with
      | some value => Spells limit value number
      | none => default.stored key = some setting := by
  have last := follows.last key setting kept
  cases found : (values key.name lines).getLast? with
  | some value =>
      rw [found] at last
      obtain ⟨-, same, again, spelled⟩ := (Key.gives_iff_of_numeric numeric).mp last
      cases counted.symm.trans again
      exact ⟨spelled.le, spelled⟩
  | none =>
      rw [found] at last
      exact ⟨default_le numeric last counted, last⟩

theorem Follows.number : ∃ setting number, settings.stored key = some setting ∧
    setting.number? = some number ∧ number ≤ limit ∧
      match (values key.name lines).getLast? with
      | some value => Spells limit value number
      | none => default.stored key = some setting := by
  obtain ⟨setting, number, kept, counted⟩ := exists_number_of_numeric numeric settings
  exact ⟨setting, number, kept, counted, follows.of_stored numeric kept counted⟩

end

/-- Settings that were read are those that follow from the defaults by the lines of the text, of
which none is bad. -/
theorem good_and_follows_of_parse {text : Bytes} {settings : Settings}
    (read : parse text = .ok settings) :
    (∀ line ∈ text.lines, ¬ IsBad line) ∧ Follows default settings text.lines := by
  obtain ⟨good, rfl⟩ := ((applyLines_iff default 1 text.lines).1 settings).mp read
  exact ⟨good, follows_foldl good default⟩

/-- A text of one line is read exactly if the line is in order. -/
theorem exists_parse_iff_of_line {line : Bytes} (single : 10 ∉ line) (filled : line ≠ []) :
    (∃ settings, parse line = .ok settings) ↔ ¬ IsBad line := by
  have alone := Bytes.lines_of_line single filled
  constructor
  · rintro ⟨settings, read⟩
    have good := (good_and_follows_of_parse read).1
    rw [alone] at good
    exact good line List.mem_cons_self
  · intro good
    have all : ∀ other ∈ Bytes.lines line, ¬ IsBad other := by simpa [alone] using good
    obtain ⟨settings, read, -⟩ := parse_of_good all
    exact ⟨settings, read⟩

/-- A validated capacity is positive, and a tracker is named. -/
theorem of_validate {settings : Settings} (valid : settings.validate = .ok ()) :
    1 ≤ settings.maxConnections.toNat ∧ settings.trackers ≠ [] := by
  unfold validate at valid
  split_ifs at valid with trackerless zero
  have positive : settings.maxConnections.toNat ≠ 0 := fun none => zero (UInt64.toNat_inj.mp none)
  exact ⟨by omega, trackerless⟩

/-- A second is a thousand milliseconds, also in 64 bits, since a timeout is at most a day. -/
theorem toInt_milliseconds {seconds : Nat} (short : seconds ≤ maxTimeout) :
    (Int64.ofNat seconds * 1000).toInt = Program.milliseconds seconds := by
  have day : maxTimeout = 86400 := rfl
  have small : seconds < 2 ^ 63 := by omega
  have factor : (1000 : Int64).toInt = 1000 := by decide
  rw [Int64.toInt_mul, Int64.toInt_ofNat_of_lt small, factor, Program.milliseconds,
    Int.bmod_eq_of_le]
  · exact (Int.natCast_mul seconds 1000).symm
  · omega
  · omega

/-- The value of a key for numbers is taken exactly if it spells a number up to the limit: with
blanks and a sign in front or none, with any number of zeros, and with nothing behind it. In
settings that were read every number is the one that was spelled last, or the default; as a timeout
it stays the same in milliseconds, and as a capacity in 64 bits. Settings from a file name a tracker
and allow a connection. -/
theorem numeric_settings_exact :
    (∀ (key : Key) (limit : Nat), key.limit? = some limit → ∀ value, Trimmed value value →
      (∀ number line, Assigns line key.name value →
        ((∃ result, ofLine number line = .ok result) ↔ ∃ count, Spells limit value count)) ∧
      (10 ∉ value → ((∃ settings, parse (key.name ++ 61 :: value) = .ok settings) ↔
        ∃ count, Spells limit value count))) ∧
    (∀ text settings, parse text = .ok settings →
      (∀ (key : Key) (limit : Nat), key.limit? = some limit → ∃ setting number,
        settings.stored key = some setting ∧ setting.number? = some number ∧ number ≤ limit ∧
          match (values key.name text.lines).getLast? with
          | some value => Spells limit value number
          | none => default.stored key = some setting) ∧
      settings.maxConnections.toNat ≤ 2 ^ 63 - 1 ∧
      (Int64.ofNat settings.connectTimeout * 1000).toInt = (Program.timeouts settings).connect ∧
      (Int64.ofNat settings.networkTimeout * 1000).toInt = (Program.timeouts settings).transfer) ∧
    ∀ tree path settings, load tree path = .ok settings → 1 ≤ settings.maxConnections.toNat ∧
      settings.maxConnections.toNat ≤ 2 ^ 63 - 1 ∧ settings.trackers ≠ [] := by
  have within (text : Bytes) (settings : Settings) (read : parse text = .ok settings) :
      settings.maxConnections.toNat ≤ 2 ^ 63 - 1 ∧ settings.connectTimeout ≤ maxTimeout ∧
        settings.networkTimeout ≤ maxTimeout := by
    have follows := (good_and_follows_of_parse read).2
    have limited {key : Key} {limit number : Nat} {setting : Setting}
        (numeric : key.limit? = some limit) (kept : settings.stored key = some setting)
        (counted : setting.number? = some number) : number ≤ limit :=
      (follows.of_stored numeric kept counted).1
    exact ⟨@limited .maxConnections _ _ _ rfl rfl rfl, @limited .connectTimeout _ _ _ rfl rfl rfl,
      @limited .networkTimeout _ _ _ rfl rfl rfl⟩
  refine ⟨?_, ?_, ?_⟩
  · intro key limit numeric value trimmed
    refine ⟨?_, ?_⟩
    · intro number line assigns
      rw [exists_ofLine_iff, good_iff_of_numeric numeric assigns]
    · intro single
      have plain := assigns_plain key trimmed
      have unbroken : 10 ∉ key.name ++ 61 :: value := by
        have named : 10 ∉ key.name := by cases key <;> decide
        simp [named, single]
      rw [exists_parse_iff_of_line unbroken (by simp), good_iff_of_numeric numeric plain]
  · intro text settings read
    obtain ⟨capacity, connect, transfer⟩ := within text settings read
    refine ⟨?_, capacity, toInt_milliseconds connect, toInt_milliseconds transfer⟩
    intro key limit numeric
    exact (good_and_follows_of_parse read).2.number numeric
  · intro tree path settings loaded
    obtain ⟨⟨text, -, read⟩, valid⟩ := Program.load_eq_ok_iff.mp loaded
    obtain ⟨positive, named⟩ := of_validate valid
    exact ⟨positive, (within text settings read).1, named⟩

/-- Zero with a sign and a blank in front, the greatest capacity with zeros in front, the longest
timeout, and a timeout that is a second too long. -/
theorem numeric_settings_exact_at_limits :
    let zero : Bytes := [11, 45, 48, 48]
    let huge := List.replicate 20 48 ++ ofText "9223372036854775807"
    let text := ofText "tracker_server=t:1\nconnect_timeout=86400\nmax_conns=" ++ huge
    let files := FileTree.blank.writeFile (ofText "conf") text
    (∃ settings, parse (Key.maxConnections.name ++ 61 :: zero) = .ok settings) ∧
    (¬ ∃ settings, parse (Key.connectTimeout.name ++ 61 :: ofText "86401") = .ok settings) ∧
    ∃ settings, load files (ofText "conf") = .ok settings ∧
      1 ≤ settings.maxConnections.toNat ∧ settings.maxConnections.toNat = 2 ^ 63 - 1 ∧
      (Int64.ofNat settings.connectTimeout * 1000).toInt = 86400000 := by
  intro zero huge text files
  obtain ⟨taken, kept, loaded⟩ := numeric_settings_exact
  have spelled : Spells (2 ^ 63 - 1) zero 0 :=
    ⟨⟨[11], .minus, [48, 48], by simp [Bytes.isSpace], by simp [Numeral.isDigit], by decide⟩,
      rfl, by decide, by decide⟩
  have long : Spells 86401 (ofText "86401") 86401 :=
    ⟨⟨[], .none, ofText "86401", by simp, List.all_eq_true.mp (by decide), by decide⟩,
      by decide, by decide, by decide⟩
  let settings : Settings :=
    { default with trackers := [ofText "t:1"], maxConnections := 9223372036854775807
                   connectTimeout := 86400 }
  have read : load files (ofText "conf") = .ok settings := by decide +kernel
  have unchanged := (kept text settings (by decide +kernel)).2.2.1
  refine ⟨?_, ?_, settings, read, (loaded files _ settings read).1, by decide,
    unchanged.trans (by decide)⟩
  · have accepts := (taken .maxConnections _ rfl zero (trim_eq_iff.mp (by decide))).2 (by decide)
    exact accepts.mpr ⟨0, spelled⟩
  · have accepts := (taken .connectTimeout _ rfl (ofText "86401") (trim_eq_iff.mp (by decide))).2
      (by decide)
    rw [accepts]
    rintro ⟨count, short⟩
    have same := short.unique long
    have limit : count ≤ 86400 := short.le
    omega

end Settings

end TrackedStorage
