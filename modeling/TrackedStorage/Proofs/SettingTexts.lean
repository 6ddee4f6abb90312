import Mathlib.Data.List.Induction
import TrackedStorage.Proofs.SettingLines

set_option autoImplicit false

namespace TrackedStorage

open Bytes (ofText)

namespace Setting

/-- A line on which reading ends: it says something without a `=`, or names no tracker, or gives a
key for numbers anything but a number up to its limit. -/
inductive IsBad (line : Bytes) : Prop
  | shapeless (loud : ¬ IsSilent line) (absent : 61 ∉ line) : IsBad line
  | trackerless (assigns : Assigns line Key.tracker.name []) : IsBad line
  | numberless {key : Key} {limit : Nat} {value : Bytes} (assigns : Assigns line key.name value)
      (numeric : key.limit? = some limit) (unspelt : ∀ number, ¬ Spells limit value number) :
      IsBad line

theorem Key.Refuses.unspelt {key : Key} {value : Bytes} {defect : Defect}
    (refuses : key.Refuses value defect) {limit : Nat} (numeric : key.limit? = some limit)
    (number : Nat) : ¬ Spells limit value number := by
  intro spelled
  obtain ⟨setting, gives⟩ := (Key.exists_gives_iff_of_numeric numeric).mpr ⟨number, spelled⟩
  exact refuses.not_gives setting gives

theorem isBad_iff {line : Bytes} : IsBad line ↔ ∃ defect, HasDefect line defect := by
  constructor
  · intro bad
    cases bad with
    | shapeless loud absent => exact ⟨_, .shapeless loud absent⟩
    | trackerless assigns => exact ⟨_, .refused assigns (.tracker rfl)⟩
    | @numberless key limit value assigns numeric unspelt =>
        rcases key.gives_or_refuses value with given | ⟨defect, refuses⟩
        · obtain ⟨number, spelled⟩ := (Key.exists_gives_iff_of_numeric numeric).mp given
          exact absurd spelled (unspelt number)
        · exact ⟨defect, .refused assigns refuses⟩
  · rintro ⟨defect, defective⟩
    cases defective with
    | shapeless loud absent => exact .shapeless loud absent
    | refused assigns refuses =>
        have unspelt {limit : Nat} := @Key.Refuses.unspelt _ _ _ refuses limit
        cases refuses with
        | tracker blank => exact .trackerless (blank ▸ assigns)
        | maxConnections wrong => exact .numberless assigns rfl (unspelt rfl)
        | timeout timed wrong => exact .numberless assigns timed (unspelt timed)

/-- It is settled what a line sets, if only that it sets nothing, exactly if the line is not bad. -/
theorem exists_sets_iff {line : Bytes} : (∃ result, Sets line result) ↔ ¬ IsBad line := by
  constructor
  · rintro ⟨result, sets⟩ bad
    obtain ⟨defect, defective⟩ := isBad_iff.mp bad
    have read := ((ofLine_iff 1 line).1 result).mpr sets
    rw [((ofLine_iff 1 line).2 _).mpr ⟨defect, defective, rfl⟩] at read
    cases read
  · intro good
    rcases sets_or_defective line with sets | defective
    · exact sets
    · exact absurd (isBad_iff.mpr defective) good

theorem exists_ofLine_iff (number : Nat) (line : Bytes) :
    (∃ result, ofLine number line = .ok result) ↔ ¬ IsBad line := by
  rw [← exists_sets_iff]
  exact exists_congr (ofLine_iff number line).1

structure FirstBad (lines front : List Bytes) (line : Bytes) (defect : Defect) : Prop where
  parts : ∃ rest, lines = front ++ line :: rest
  good : ∀ earlier ∈ front, ¬ IsBad earlier
  defective : HasDefect line defect

theorem good_or_firstBad (lines : List Bytes) :
    (∀ line ∈ lines, ¬ IsBad line) ∨ ∃ front line defect, FirstBad lines front line defect := by
  induction lines with
  | nil => exact .inl (by simp)
  | cons first rest ih =>
      by_cases bad : IsBad first
      · obtain ⟨defect, defective⟩ := isBad_iff.mp bad
        exact .inr ⟨[], first, defect, ⟨rest, rfl⟩, by simp, defective⟩
      · rcases ih with good | ⟨front, line, defect, ⟨back, rfl⟩, good, defective⟩
        · exact .inl (List.forall_mem_cons.mpr ⟨bad, good⟩)
        · exact .inr ⟨first :: front, line, defect, ⟨back, rfl⟩,
            List.forall_mem_cons.mpr ⟨bad, good⟩, defective⟩

/-- The value that a line gives to a key of this name, if it does. -/
def valueOf? (name line : Bytes) : Option Bytes :=
  let content := trim line
  if content = [] ∨ content.head? = some 35 then none
  else match line.splitFirst 61 with
    | some (key, value) => if trim key = name then some (trim value) else none
    | none => none

/-- The values that lines give to a key, in their order. -/
def values (name : Bytes) (lines : List Bytes) : List Bytes := lines.filterMap (valueOf? name)

theorem valueOf?_eq_some_iff {name line value : Bytes} :
    valueOf? name line = some value ↔ Assigns line name value := by
  constructor
  · intro found
    unfold valueOf? at found
    dsimp only at found
    split_ifs at found with blank
    have loud := mt (isSilent_iff (trimmed_trim line)).mp blank
    split at found
    · rename_i front back split
      obtain ⟨parts, first⟩ := Bytes.eq_append_of_splitFirst split
      split_ifs at found with named
      cases found
      exact ⟨loud, front, back, parts, first, trim_eq_iff.mp named, trimmed_trim back⟩
    · cases found
  · rintro ⟨loud, front, back, rfl, first, keyed, valued⟩
    have inked := mt (isSilent_iff (trimmed_trim (front ++ 61 :: back))).mpr loud
    have split := Bytes.splitFirst_append first back
    simp only [valueOf?, inked, ↓reduceIte, split, trim_eq_iff.mpr keyed, trim_eq_iff.mpr valued]

/-- What a line sets, which is nothing if it is bad. -/
def given (line : Bytes) : Option Setting :=
  match ofLine 1 line with
  | .ok setting => setting
  | .error _ => none

theorem given_of_sets {line : Bytes} {result : Option Setting} (sets : Sets line result) :
    given line = result := by
  rw [given, ((ofLine_iff 1 line).1 result).mpr sets]

end Setting

namespace Settings

open Setting

def follow (settings : Settings) (line : Bytes) : Settings :=
  match given line with
  | some setting => settings.apply setting
  | none => settings

theorem applyLines_of_good {line : Bytes} (good : ¬ IsBad line) (settings : Settings)
    (number : Nat) (rest : List Bytes) : settings.applyLines number (line :: rest) =
      (settings.follow line).applyLines (number + 1) rest := by
  obtain ⟨result, sets⟩ := exists_sets_iff.mpr good
  have read := ((ofLine_iff number line).1 result).mpr sets
  rw [applyLines, follow, read, given_of_sets sets]
  cases result <;> rfl

theorem applyLines_of_defect {line : Bytes} {defect : Defect} (defective : HasDefect line defect)
    (settings : Settings) (number : Nat) (rest : List Bytes) :
    settings.applyLines number (line :: rest) = .error (.setting (defect.onLine number)) := by
  have read := ((ofLine_iff number line).2 _).mpr ⟨defect, defective, rfl⟩
  rw [applyLines, read]

theorem applyLines_append {front : List Bytes} (good : ∀ line ∈ front, ¬ IsBad line)
    (settings : Settings) (number : Nat) (back : List Bytes) :
    settings.applyLines number (front ++ back) =
      (front.foldl follow settings).applyLines (number + front.length) back := by
  induction front generalizing settings number with
  | nil => rfl
  | cons line front ih =>
      obtain ⟨first, later⟩ := List.forall_mem_cons.mp good
      rw [List.cons_append, applyLines_of_good first, ih later, List.foldl_cons, List.length_cons,
        Nat.add_assoc, Nat.add_comm 1]

/-- Lines are all applied, or up to the first bad one, which is named by its number. -/
theorem applyLines_iff (settings : Settings) (number : Nat) (lines : List Bytes) :
    (∀ after, settings.applyLines number lines = .ok after ↔
      (∀ line ∈ lines, ¬ IsBad line) ∧ after = lines.foldl follow settings) ∧
    ∀ fault, settings.applyLines number lines = .error fault ↔
      ∃ front line defect, FirstBad lines front line defect ∧
        fault = .setting (defect.onLine (number + front.length)) := by
  refine Fault.eq_iff_of_decided ?_ ?_ ?_
  · rcases good_or_firstBad lines with good | ⟨front, line, defect, first⟩
    · exact .inl ⟨_, good, rfl⟩
    · exact .inr ⟨_, front, line, defect, first, rfl⟩
  · rintro after ⟨good, rfl⟩
    have all := applyLines_append good settings number []
    rwa [List.append_nil] at all
  · rintro fault ⟨front, line, defect, ⟨⟨rest, rfl⟩, good, defective⟩, rfl⟩
    rw [applyLines_append good, applyLines_of_defect defective]

/-- What is set for a key, if it has one value only. -/
def stored (settings : Settings) : Key → Option Setting
  | .tracker => none
  | .maxConnections => some (.maxConnections settings.maxConnections)
  | .connectTimeout => some (.connectTimeout settings.connectTimeout)
  | .networkTimeout => some (.networkTimeout settings.networkTimeout)
  | .logFile => some (.logFile settings.logFile)
  | .logLevel => some (.logLevel settings.logLevel)

theorem stored_apply_of_ne {key : Key} {setting : Setting} (differs : setting.key ≠ key)
    (settings : Settings) : (settings.apply setting).stored key = settings.stored key := by
  cases setting <;> cases key <;> first | rfl | exact absurd rfl differs

theorem stored_apply {setting other : Setting} {settings : Settings}
    (kept : (settings.apply setting).stored setting.key = some other) : other = setting := by
  cases setting <;> cases kept <;> rfl

theorem trackers_apply_of_ne {setting : Setting} (differs : setting.key ≠ .tracker)
    (settings : Settings) : (settings.apply setting).trackers = settings.trackers := by
  cases setting <;> first | rfl | exact absurd rfl differs

/-- How settings come from others by lines in order: the values for trackers are added, and what is
set for any other key is its last value, or what was set before if it has none. -/
structure Follows (before after : Settings) (lines : List Bytes) : Prop where
  trackers : after.trackers = before.trackers ++ values Key.tracker.name lines
  last : ∀ key setting, after.stored key = some setting →
    match (values key.name lines).getLast? with
    | some value => key.Gives value setting
    | none => before.stored key = some setting

section
variable {line : Bytes} (good : ¬ IsBad line) (settings : Settings) {key : Key}
include good

/-- A line in order that gives a value to a key sets what the key takes the value for. -/
theorem follow_of_value {value : Bytes} (found : valueOf? key.name line = some value) :
    ∃ setting, key.Gives value setting ∧ settings.follow line = settings.apply setting := by
  have assigned := valueOf?_eq_some_iff.mp found
  obtain ⟨result, sets⟩ := exists_sets_iff.mpr good
  have set := given_of_sets sets
  cases sets with
  | silent silent => exact absurd silent assigned.loud
  | unknown assigns unknown => exact absurd (assigns.unique assigned).1 (unknown key)
  | @known other more setting assigns gives =>
      obtain ⟨named, same⟩ := assigns.unique assigned
      cases Key.name_injective named
      refine ⟨setting, same ▸ gives, ?_⟩
      rw [follow, set]

/-- A line in order that gives no value to a key leaves alone what is set for it. -/
theorem follow_of_silence (found : valueOf? key.name line = none) :
    settings.follow line = settings ∨
      ∃ setting, setting.key ≠ key ∧ settings.follow line = settings.apply setting := by
  obtain ⟨result, sets⟩ := exists_sets_iff.mpr good
  have set := given_of_sets sets
  cases sets with
  | silent silent => exact .inl (by rw [follow, set])
  | unknown assigns unknown => exact .inl (by rw [follow, set])
  | @known other more setting assigns gives =>
      refine .inr ⟨setting, ?_, by rw [follow, set]⟩
      rintro rfl
      rw [gives.key_eq, valueOf?_eq_some_iff.mpr assigns] at found
      cases found

end

theorem values_concat (name : Bytes) (lines : List Bytes) (line : Bytes) :
    values name (lines ++ [line]) = values name lines ++ (valueOf? name line).toList := by
  rw [values, List.filterMap_append]
  cases found : valueOf? name line <;> simp [values, found]

/-- One more line in order adds its value or puts it in place of the last one. -/
theorem Follows.concat {before middle : Settings} {lines : List Bytes}
    (follows : Follows before middle lines) {line : Bytes} (good : ¬ IsBad line) :
    Follows before (middle.follow line) (lines ++ [line]) := by
  refine ⟨?_, ?_⟩
  · rw [values_concat]
    cases found : valueOf? Key.tracker.name line with
    | some address =>
        obtain ⟨setting, gives, followed⟩ := follow_of_value good middle found
        cases gives with
        | tracker filled =>
            rw [followed, apply, follows.trackers, List.append_assoc]
            rfl
        | number keyed numeric stored spelled => cases numeric
    | none =>
        have kept : (middle.follow line).trackers = middle.trackers := by
          rcases follow_of_silence good middle found with same | ⟨setting, differs, followed⟩
          · rw [same]
          · rw [followed, trackers_apply_of_ne differs]
        rw [kept, follows.trackers]
        simp
  · intro key setting kept
    rw [values_concat]
    cases found : valueOf? key.name line with
    | some value =>
        obtain ⟨other, gives, followed⟩ := follow_of_value good middle found
        rw [followed, ← gives.key_eq] at kept
        simpa [stored_apply kept] using gives
    | none =>
        have same : (middle.follow line).stored key = middle.stored key := by
          rcases follow_of_silence good middle found with same | ⟨other, differs, followed⟩
          · rw [same]
          · rw [followed, stored_apply_of_ne differs]
        rw [same] at kept
        simpa using follows.last key setting kept

theorem follows_foldl {lines : List Bytes} (good : ∀ line ∈ lines, ¬ IsBad line)
    (settings : Settings) : Follows settings (lines.foldl follow settings) lines := by
  -- From the back, as a line only counts if no later one has its key.
  induction lines using List.reverseRecOn with
  | nil => exact ⟨(List.append_nil _).symm, fun key setting kept => kept⟩
  | append_singleton lines line ih =>
      rw [List.forall_mem_append] at good
      rw [List.foldl_append]
      exact (ih good.1).concat (good.2 line List.mem_cons_self)

theorem parse_eq_error_iff {text : Bytes} {fault : Fault} :
    parse text = .error fault ↔ ∃ front line defect, FirstBad text.lines front line defect ∧
      fault = .setting (defect.onLine (front.length + 1)) := by
  rw [parse, (applyLines_iff default 1 text.lines).2]
  simp only [Nat.add_comm 1]

theorem parse_of_good {text : Bytes} (good : ∀ line ∈ text.lines, ¬ IsBad line) :
    ∃ settings, parse text = .ok settings ∧ Follows default settings text.lines :=
  ⟨_, ((applyLines_iff default 1 text.lines).1 _).mpr ⟨good, rfl⟩, follows_foldl good default⟩

/-- A text with a bad line is refused, and the message names the first one by its number, counted
from one. Every other text is read: the trackers are all values of their key, in order and with
those that are repeated, and what is set for another key is what its last value says, or the default
if it has none. Keys and values are what stands before and after the first `=` of a line that is no
comment, without the blanks around them. -/
theorem parse_by_lines (text : Bytes) :
    (∀ fault, parse text = .error fault ↔ ∃ front line defect,
      FirstBad text.lines front line defect ∧
        fault = .setting (defect.onLine (front.length + 1))) ∧
    ((∃ line ∈ text.lines, IsBad line) → ∃ front line rest cause reason,
      text.lines = front ++ line :: rest ∧ (∀ earlier ∈ front, ¬ IsBad earlier) ∧ IsBad line ∧
        parse text = .error (.setting cause) ∧
        Fault.message (.setting cause) = ofText "Config error: " ++
          (ofText "line " ++ Numeral.decimal (front.length + 1) ++ ofText ": " ++ reason)) ∧
    ((∀ line ∈ text.lines, ¬ IsBad line) → ∃ settings, parse text = .ok settings ∧
      settings.trackers = values Key.tracker.name text.lines ∧
      ∀ key setting, settings.stored key = some setting →
        match (values key.name text.lines).getLast? with
        | some value => key.Gives value setting
        | none => default.stored key = some setting) ∧
    ∀ name line value, valueOf? name line = some value ↔ Assigns line name value := by
  refine ⟨fun fault => parse_eq_error_iff, ?_, ?_, fun name line value => valueOf?_eq_some_iff⟩
  · rintro ⟨bad, isIn, isBad⟩
    rcases good_or_firstBad text.lines with good | ⟨front, line, defect, first⟩
    · exact absurd isBad (good bad isIn)
    · obtain ⟨rest, parts⟩ := first.parts
      exact ⟨front, line, rest, _, _, parts, first.good, isBad_iff.mpr ⟨defect, first.defective⟩,
        parse_eq_error_iff.mpr ⟨front, line, defect, first, rfl⟩, defect.message_onLine _⟩
  · intro good
    obtain ⟨settings, read, follows⟩ := parse_of_good good
    exact ⟨settings, read, follows.trackers, follows.last⟩

/-- Repeated keys, a value with a `=` in it, a comment and a last line that no newline ends; and a
text with two bad lines. -/
theorem parse_by_lines_of_repeated_keys :
    let text := ofText "tracker_server = t:1\n # tracker_server=\nlog_file = a\r\n\nbase_path=/x\n" ++
      ofText "tracker_server=t:1\nlog_file =\tb=c"
    let broken := ofText "max_conns = 5\n\nconnect_timeout = 86401\nmax_conns\n"
    (∃ settings, parse text = .ok settings ∧ settings.trackers = [ofText "t:1", ofText "t:1"] ∧
      settings.logFile = ofText "b=c" ∧ settings.logLevel = ofText "info") ∧
    parse broken = .error
      (.setting (.timeoutTooLong 3 (ofText "connect_timeout") (ofText "86401"))) := by
  intro text broken
  have good (lines : List Bytes) (read : lines.all (fun line => (ofLine 1 line).isOk) = true) :
      ∀ line ∈ lines, ¬ IsBad line := by
    intro line isIn
    have taken := List.all_eq_true.mp read line isIn
    refine (exists_ofLine_iff 1 line).mp ?_
    cases result : ofLine 1 line with
    | ok setting => exact ⟨setting, rfl⟩
    | error fault =>
        rw [result] at taken
        cases taken
  have spelled : Spells (2 ^ 63 - 1) (ofText "86401") 86401 :=
    ⟨⟨[], .none, ofText "86401", by simp, List.all_eq_true.mp (by decide), by decide⟩,
      by decide, by decide, by decide⟩
  have assigns : Assigns (ofText "connect_timeout = 86401") Key.connectTimeout.name
      (ofText "86401") := valueOf?_eq_some_iff.mp (by decide)
  have first : FirstBad broken.lines [ofText "max_conns = 5", []] (ofText "connect_timeout = 86401")
      (.timeoutTooLong (ofText "connect_timeout") (ofText "86401")) :=
    ⟨⟨[ofText "max_conns"], by decide +kernel⟩, good _ (by decide +kernel),
      .refused assigns (.timeout rfl (.long spelled (by decide)))⟩
  have file : (values Key.logFile.name text.lines).getLast? = some (ofText "b=c") := by
    decide +kernel
  have level : (values Key.logLevel.name text.lines).getLast? = none := by decide +kernel
  obtain ⟨settings, read, trackers, last⟩ := (parse_by_lines text).2.2.1 (good _ (by decide +kernel))
  have filed := last .logFile _ rfl
  have levelled := last .logLevel _ rfl
  rw [file] at filed
  rw [level] at levelled
  refine ⟨⟨settings, read, ?_, ?_, ?_⟩, ?_⟩
  · rw [trackers]
    decide +kernel
  · exact Setting.logFile.inj (filed.unique .logFile)
  · exact (Setting.logLevel.inj (Option.some.inj levelled)).symm
  · exact ((parse_by_lines broken).1 _).mpr ⟨_, _, _, first, rfl⟩

end Settings

end TrackedStorage
