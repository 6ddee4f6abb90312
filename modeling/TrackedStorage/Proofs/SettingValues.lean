import Mathlib.Algebra.Group.Nat.Defs
import TrackedStorage.Settings
import TrackedStorage.Proofs.SpelledNumbers

set_option autoImplicit false

namespace TrackedStorage

open Bytes (ofText)
open Numeral (Spelling)

namespace Setting

/-- What is wrong with a line, wherever it stands. -/
inductive Defect where
  | withoutEquals
  | emptyTracker
  | notANumber (key value : Bytes)
  | invalidNumber (key value : Bytes)
  | timeoutTooLong (key value : Bytes)
  deriving DecidableEq

namespace Defect

/-- The fault of a line with this number. -/
def onLine (line : Nat) : Defect → SettingFault
  | withoutEquals => .lineWithoutEquals line
  | emptyTracker => .emptyTracker line
  | notANumber key value => .notANumber line key value
  | invalidNumber key value => .invalidNumber line key value
  | timeoutTooLong key value => .timeoutTooLong line key value

/-- What is said of a defect behind the number of its line. -/
def reason : Defect → Bytes
  | withoutEquals => ofText "expected key = value"
  | emptyTracker => ofText "empty tracker_server"
  | notANumber key value => key ++ ofText " is not a number: " ++ value
  | invalidNumber key value => ofText "invalid " ++ key ++ ofText ": " ++ value
  | timeoutTooLong key value => key ++ ofText " exceeds 86400 seconds: " ++ value

/-- The message of a defect begins with the number of its line, and nothing else in it depends on
where the line stands. -/
theorem message_onLine (line : Nat) (defect : Defect) :
    Fault.message (.setting (defect.onLine line)) =
      ofText "Config error: " ++ (ofText "line " ++ Numeral.decimal line ++ ofText ": " ++
        defect.reason) := by
  cases defect <;> rfl

end Defect

/-- Whether a text spells a number that is not negative and at most `limit`, and nothing else. -/
def Spells (limit : Nat) (text : Bytes) (number : Nat) : Prop :=
  ∃ spelling : Spelling, text = spelling.text ∧ spelling.number = number ∧ number ≤ limit

/-- A number stands in front of `rest`, and no digit of `rest` prolongs it. -/
def Leads (spelling : Spelling) (text rest : Bytes) : Prop :=
  text = spelling.text ++ rest ∧ ∀ byte ∈ rest.head?, Numeral.isDigit byte = false

/-- The defect of a value that is no number from zero on, in the order in which defects count. -/
inductive Misspelled (key value : Bytes) : Defect → Prop
  | wordy (unspelt : ∀ spelling rest, ¬ Leads spelling value rest) :
      Misspelled key value (.notANumber key value)
  | huge {spelling : Spelling} {rest : Bytes} (leads : Leads spelling value rest)
      (far : spelling.number < minNumber ∨ maxNumber < spelling.number) :
      Misspelled key value (.notANumber key value)
  | invalid {spelling : Spelling} {rest : Bytes} (leads : Leads spelling value rest)
      (near : ¬ (spelling.number < minNumber ∨ maxNumber < spelling.number))
      (wrong : rest ≠ [] ∨ spelling.number < 0) :
      Misspelled key value (.invalidNumber key value)

/-- The defect of a value that is no timeout. -/
inductive Untimely (key value : Bytes) : Defect → Prop
  | misspelled {defect : Defect} (wrong : Misspelled key value defect) : Untimely key value defect
  | long {seconds : Nat} (spelled : Spells (2 ^ 63 - 1) value seconds)
      (long : maxTimeout < seconds) : Untimely key value (.timeoutTooLong key value)

theorem leads_iff {value rest : Bytes} {number : Int} :
    Numeral.readInt? value = some (number, rest) ↔
      ∃ spelling : Spelling, Leads spelling value rest ∧ number = spelling.number := by
  rw [Spelling.readInt?_eq_some_iff]
  constructor
  · rintro ⟨spelling, parts, same, stop⟩
    exact ⟨spelling, ⟨parts, stop⟩, same⟩
  · rintro ⟨spelling, ⟨parts, stop⟩, same⟩
    exact ⟨spelling, parts, same, stop⟩

theorem Leads.readInt? {spelling : Spelling} {value rest : Bytes}
    (leads : Leads spelling value rest) :
    Numeral.readInt? value = some (spelling.number, rest) :=
  leads_iff.mpr ⟨spelling, leads, rfl⟩

theorem leads_whole (spelling : Spelling) : Leads spelling spelling.text [] :=
  ⟨(List.append_nil _).symm, by simp⟩

theorem Spells.le {limit number : Nat} {text : Bytes} (spelled : Spells limit text number) :
    number ≤ limit := by
  obtain ⟨spelling, -, -, short⟩ := spelled
  exact short

theorem Spells.within {limit smaller number : Nat} {text : Bytes}
    (spelled : Spells limit text number) (short : number ≤ smaller) :
    Spells smaller text number := by
  obtain ⟨spelling, parts, same, -⟩ := spelled
  exact ⟨spelling, parts, same, short⟩

theorem Spells.mono {limit greater number : Nat} {text : Bytes} (spelled : Spells limit text number)
    (wider : limit ≤ greater) : Spells greater text number :=
  spelled.within (Nat.le_trans spelled.le wider)

theorem Spells.unique {limit other first second : Nat} {text : Bytes}
    (spelled : Spells limit text first) (again : Spells other text second) : first = second := by
  obtain ⟨spelling, rfl, number, -⟩ := spelled
  obtain ⟨more, same, count, -⟩ := again
  have read := (leads_whole spelling).readInt?
  rw [same, (leads_whole more).readInt?] at read
  have equal : more.number = spelling.number := congrArg Prod.fst (Option.some.inj read)
  omega

section
variable (line : Nat) {key value : Bytes}

theorem readNumber_of_spells {number : Nat} (spelled : Spells (2 ^ 63 - 1) value number) :
    readNumber line key value = .ok number := by
  obtain ⟨spelling, rfl, same, short⟩ := spelled
  have near : ¬ ((number : Int) < minNumber ∨ maxNumber < number) := by
    simp only [minNumber, maxNumber]
    omega
  have right : ¬ (([] : Bytes) ≠ [] ∨ (number : Int) < 0) := by
    simp only [ne_eq, not_true_eq_false, false_or]
    omega
  simp only [readNumber, (leads_whole spelling).readInt?, same, near, right, ↓reduceIte,
    Int.toNat_natCast]

theorem readNumber_of_misspelled {defect : Defect} (misspelled : Misspelled key value defect) :
    readNumber line key value = .error (.setting (defect.onLine line)) := by
  cases misspelled with
  | wordy unspelt =>
      have unread : Numeral.readInt? value = none := by
        rw [Option.eq_none_iff_forall_ne_some]
        rintro ⟨number, rest⟩ read
        obtain ⟨spelling, leads, -⟩ := leads_iff.mp read
        exact unspelt spelling rest leads
      simp only [readNumber, unread, Defect.onLine]
  | huge leads far => simp only [readNumber, leads.readInt?, far, ↓reduceIte, Defect.onLine]
  | invalid leads near wrong =>
      simp only [readNumber, leads.readInt?, near, wrong, ↓reduceIte, Defect.onLine]

theorem spells_or_misspelled (key value : Bytes) :
    (∃ number, Spells (2 ^ 63 - 1) value number) ∨ ∃ defect, Misspelled key value defect := by
  cases read : Numeral.readInt? value with
  | none =>
      refine .inr ⟨_, .wordy fun spelling rest leads => ?_⟩
      rw [leads.readInt?] at read
      cases read
  | some found =>
      obtain ⟨spelling, leads, number⟩ := leads_iff.mp read
      by_cases far : spelling.number < minNumber ∨ maxNumber < spelling.number
      · exact .inr ⟨_, .huge leads far⟩
      · by_cases wrong : found.2 ≠ [] ∨ spelling.number < 0
        · exact .inr ⟨_, .invalid leads far wrong⟩
        · obtain ⟨whole, positive⟩ := not_or.mp wrong
          have parts := leads.1
          rw [not_not.mp whole, List.append_nil] at parts
          simp only [minNumber, maxNumber] at far
          exact .inl ⟨spelling.number.toNat, spelling, parts, by omega, by omega⟩

theorem readTimeout_of_spells {seconds : Nat} (spelled : Spells maxTimeout value seconds) :
    readTimeout line key value = .ok seconds := by
  have read : readNumber line key value = .ok seconds :=
    readNumber_of_spells line (spelled.mono (by decide))
  have short := Nat.not_lt.mpr spelled.le
  simp only [readTimeout, read, bind, Except.bind, short, ↓reduceIte, pure, Except.pure]

theorem readTimeout_of_untimely {defect : Defect} (untimely : Untimely key value defect) :
    readTimeout line key value = .error (.setting (defect.onLine line)) := by
  cases untimely with
  | misspelled wrong =>
      simp only [readTimeout, readNumber_of_misspelled line wrong, bind, Except.bind]
  | long spelled long =>
      have read : readNumber line key value = .ok _ := readNumber_of_spells line spelled
      simp only [readTimeout, read, bind, Except.bind, long, ↓reduceIte, throw, throwThe,
        MonadExceptOf.throw, Defect.onLine]

theorem spells_or_untimely (key value : Bytes) :
    (∃ seconds, Spells maxTimeout value seconds) ∨ ∃ defect, Untimely key value defect := by
  rcases spells_or_misspelled key value with ⟨seconds, spelled⟩ | ⟨defect, wrong⟩
  · by_cases long : maxTimeout < seconds
    · exact .inr ⟨_, .long spelled long⟩
    · exact .inl ⟨seconds, spelled.within (Nat.not_lt.mp long)⟩
  · exact .inr ⟨defect, .misspelled wrong⟩

end

def key : Setting → Key
  | tracker _ => .tracker
  | maxConnections _ => .maxConnections
  | connectTimeout _ => .connectTimeout
  | networkTimeout _ => .networkTimeout
  | logFile _ => .logFile
  | logLevel _ => .logLevel

/-- The number that is set, if it is one. -/
def number? : Setting → Option Nat
  | maxConnections count => some count.toNat
  | connectTimeout seconds => some seconds
  | networkTimeout seconds => some seconds
  | _ => none

namespace Key

def name : Key → Bytes
  | tracker => ofText "tracker_server"
  | maxConnections => ofText "max_conns"
  | connectTimeout => ofText "connect_timeout"
  | networkTimeout => ofText "network_timeout"
  | logFile => ofText "log_file"
  | logLevel => ofText "log_level"

/-- The greatest number that a key takes, if it takes a number. -/
def limit? : Key → Option Nat
  | maxConnections => some (2 ^ 63 - 1)
  | connectTimeout => some maxTimeout
  | networkTimeout => some maxTimeout
  | _ => none

@[simp] theorem ofName?_name (key : Key) : ofName? key.name = some key := by
  cases key <;> decide

theorem name_injective {key other : Key} (same : key.name = other.name) : key = other := by
  have found := ofName?_name key
  rw [same, ofName?_name] at found
  exact (Option.some.inj found).symm

theorem ofName?_eq_some_iff {name : Bytes} {key : Key} :
    ofName? name = some key ↔ name = key.name := by
  refine ⟨?_, fun same => same ▸ ofName?_name key⟩
  intro found
  unfold ofName? at found
  split_ifs at found with tracker connections connect network file level <;> cases found
  · exact tracker
  · exact connections
  · exact connect
  · exact network
  · exact file
  · exact level

inductive Gives (value : Bytes) : Key → Setting → Prop
  | tracker (filled : value ≠ []) : Gives value .tracker (.tracker value)
  | number {key : Key} {setting : Setting} {limit number : Nat} (keyed : setting.key = key)
      (numeric : key.limit? = some limit) (stored : setting.number? = some number)
      (spelled : Spells limit value number) : Gives value key setting
  | logFile : Gives value .logFile (.logFile value)
  | logLevel : Gives value .logLevel (.logLevel value)

inductive Refuses (value : Bytes) : Key → Defect → Prop
  | tracker (blank : value = []) : Refuses value .tracker .emptyTracker
  | maxConnections {defect : Defect} (wrong : Misspelled maxConnections.name value defect) :
      Refuses value .maxConnections defect
  | timeout {key : Key} {defect : Defect} (timed : key.limit? = some maxTimeout)
      (wrong : Untimely key.name value defect) : Refuses value key defect

section
variable (line : Nat) {key : Key} {value : Bytes}

theorem ofKeyValue_of_gives {setting : Setting} (gives : Gives value key setting) :
    ofKeyValue line key.name value = .ok (some setting) := by
  unfold ofKeyValue
  rw [ofName?_name]
  cases gives with
  | tracker filled => exact if_neg filled
  | number keyed numeric stored spelled =>
      subst keyed
      cases setting with
      | maxConnections count =>
          cases numeric
          cases stored
          simp only [key, readNumber_of_spells line spelled, bind, Except.bind, pure, Except.pure,
            UInt64.ofNat_toNat]
      | connectTimeout seconds =>
          cases numeric
          cases stored
          simp only [key, readTimeout_of_spells line spelled, bind, Except.bind, pure, Except.pure]
      | networkTimeout seconds =>
          cases numeric
          cases stored
          simp only [key, readTimeout_of_spells line spelled, bind, Except.bind, pure, Except.pure]
      | tracker address => cases stored
      | logFile path => cases stored
      | logLevel name => cases stored
  | logFile => rfl
  | logLevel => rfl

theorem ofKeyValue_of_refuses {defect : Defect} (refuses : Refuses value key defect) :
    ofKeyValue line key.name value = .error (.setting (defect.onLine line)) := by
  unfold ofKeyValue
  rw [ofName?_name]
  cases refuses with
  | tracker blank => exact if_pos blank
  | maxConnections wrong =>
      simp only [readNumber_of_misspelled line wrong, bind, Except.bind]
  | timeout timed wrong =>
      cases key with
      | connectTimeout => simp only [readTimeout_of_untimely line wrong, bind, Except.bind]
      | networkTimeout => simp only [readTimeout_of_untimely line wrong, bind, Except.bind]
      | maxConnections => simp [limit?, maxTimeout] at timed
      | tracker => cases timed
      | logFile => cases timed
      | logLevel => cases timed

end

/-- No value is both taken and refused. -/
theorem Refuses.not_gives {key : Key} {value : Bytes} {defect : Defect}
    (refuses : Refuses value key defect) (setting : Setting) : ¬ Gives value key setting := by
  intro gives
  have taken := ofKeyValue_of_gives 1 gives
  rw [ofKeyValue_of_refuses 1 refuses] at taken
  cases taken

theorem Gives.unique {key : Key} {value : Bytes} {setting other : Setting}
    (gives : Gives value key setting) (again : Gives value key other) : setting = other := by
  have taken := ofKeyValue_of_gives 1 gives
  rw [ofKeyValue_of_gives 1 again] at taken
  cases taken
  rfl

theorem Gives.key_eq {key : Key} {value : Bytes} {setting : Setting}
    (gives : Gives value key setting) : setting.key = key := by
  cases gives with
  | number keyed numeric stored spelled => exact keyed
  | tracker filled => rfl
  | logFile => rfl
  | logLevel => rfl

/-- A key for numbers takes a value exactly if it spells a number up to the limit, and what it then
sets is that number. -/
theorem gives_iff_of_numeric {key : Key} {limit : Nat} (numeric : key.limit? = some limit)
    {value : Bytes} {setting : Setting} : Gives value key setting ↔
      setting.key = key ∧ ∃ number, setting.number? = some number ∧ Spells limit value number := by
  constructor
  · intro gives
    cases gives with
    | number keyed limited stored spelled =>
        cases numeric.symm.trans limited
        exact ⟨keyed, _, stored, spelled⟩
    | tracker filled => cases numeric
    | logFile => cases numeric
    | logLevel => cases numeric
  · rintro ⟨keyed, number, stored, spelled⟩
    exact .number keyed numeric stored spelled

/-- Every number up to the limit of a key can be set. -/
theorem exists_setting {key : Key} {limit number : Nat} (numeric : key.limit? = some limit)
    (short : number ≤ limit) : ∃ setting : Setting, setting.key = key ∧
      setting.number? = some number := by
  cases key with
  | maxConnections =>
      cases numeric
      have small : number < UInt64.size := Nat.lt_of_le_of_lt short (by decide)
      exact ⟨.maxConnections (UInt64.ofNat number), rfl,
        congrArg some (UInt64.toNat_ofNat_of_lt' small)⟩
  | connectTimeout => exact ⟨.connectTimeout number, rfl, rfl⟩
  | networkTimeout => exact ⟨.networkTimeout number, rfl, rfl⟩
  | tracker => cases numeric
  | logFile => cases numeric
  | logLevel => cases numeric

theorem exists_gives_iff_of_numeric {key : Key} {limit : Nat} (numeric : key.limit? = some limit)
    {value : Bytes} :
    (∃ setting, Gives value key setting) ↔ ∃ number, Spells limit value number := by
  constructor
  · rintro ⟨setting, gives⟩
    obtain ⟨-, number, -, spelled⟩ := (gives_iff_of_numeric numeric).mp gives
    exact ⟨number, spelled⟩
  · rintro ⟨number, spelled⟩
    obtain ⟨setting, keyed, stored⟩ := exists_setting numeric spelled.le
    exact ⟨setting, .number keyed numeric stored spelled⟩

/-- A key takes a value or refuses it. -/
theorem gives_or_refuses (key : Key) (value : Bytes) :
    (∃ setting, Gives value key setting) ∨ ∃ defect, Refuses value key defect := by
  cases key with
  | tracker =>
      by_cases blank : value = []
      · exact .inr ⟨_, .tracker blank⟩
      · exact .inl ⟨_, .tracker blank⟩
  | maxConnections =>
      rcases spells_or_misspelled maxConnections.name value with spelled | ⟨defect, wrong⟩
      · exact .inl ((exists_gives_iff_of_numeric rfl).mpr spelled)
      · exact .inr ⟨defect, .maxConnections wrong⟩
  | connectTimeout =>
      rcases spells_or_untimely connectTimeout.name value with spelled | ⟨defect, wrong⟩
      · exact .inl ((exists_gives_iff_of_numeric rfl).mpr spelled)
      · exact .inr ⟨defect, .timeout rfl wrong⟩
  | networkTimeout =>
      rcases spells_or_untimely networkTimeout.name value with spelled | ⟨defect, wrong⟩
      · exact .inl ((exists_gives_iff_of_numeric rfl).mpr spelled)
      · exact .inr ⟨defect, .timeout rfl wrong⟩
  | logFile => exact .inl ⟨_, .logFile⟩
  | logLevel => exact .inl ⟨_, .logLevel⟩

theorem ofKeyValue_of_unknown (line : Nat) {name : Bytes} (unknown : ∀ key : Key, name ≠ key.name)
    (value : Bytes) : ofKeyValue line name value = .ok none := by
  have missing : ofName? name = none := by
    rw [Option.eq_none_iff_forall_ne_some]
    intro key found
    exact unknown key (ofName?_eq_some_iff.mp found)
  simp only [ofKeyValue, missing]

end Key

end Setting

end TrackedStorage
