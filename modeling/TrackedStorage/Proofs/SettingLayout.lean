import Mathlib.Data.List.Forall2
import TrackedStorage.Proofs.SettingTexts

set_option autoImplicit false

namespace TrackedStorage

open Bytes (ofText)

namespace Bytes

/-- A text with a carriage return in front of each newline. -/
def withReturns (text : Bytes) : Bytes :=
  text.flatMap fun byte => if byte = 10 then [13, 10] else [byte]

def ofLines (lines : List Bytes) : Bytes := lines.flatMap (· ++ [10])

theorem lines_newline {line : Bytes} (single : 10 ∉ line) (rest : Bytes) :
    lines (line ++ 10 :: rest) = line :: lines rest := by
  rw [lines_append_newline, split_of_line single, List.singleton_append]

theorem lines_ofLines {all : List Bytes} (single : ∀ line ∈ all, 10 ∉ line) :
    lines (ofLines all) = all := by
  induction all with
  | nil => rfl
  | cons line all ih =>
      obtain ⟨first, later⟩ := List.forall_mem_cons.mp single
      have step : ofLines (line :: all) = line ++ 10 :: ofLines all := by
        simp [ofLines]
      rw [step, lines_newline first, ih later]

theorem withReturns_of_line {line : Bytes} (single : 10 ∉ line) : withReturns line = line := by
  induction line with
  | nil => rfl
  | cons byte rest ih =>
      rw [List.mem_cons, not_or] at single
      have other : byte ≠ 10 := fun same => single.1 same.symm
      have step : withReturns (byte :: rest) = byte :: withReturns rest := by
        simp [withReturns, other]
      rw [step, ih single.2]

theorem withReturns_newline {line : Bytes} (single : 10 ∉ line) (rest : Bytes) :
    withReturns (line ++ 10 :: rest) = (line ++ [13]) ++ 10 :: withReturns rest := by
  have parts : withReturns (line ++ 10 :: rest) = withReturns line ++ withReturns (10 :: rest) :=
    List.flatMap_append
  rw [parts, withReturns_of_line single, List.append_assoc]
  rfl

end Bytes

namespace Setting

/-- The same line with more blanks: at its ends and, if there is a `=`, also around the first. -/
inductive Respaced : Bytes → Bytes → Prop
  | ends {line front back : Bytes} (before : AllBlank front) (behind : AllBlank back) :
      Respaced line (front ++ line ++ back)
  | parts {key value front left right back : Bytes} (first : 61 ∉ key) (before : AllBlank front)
      (around : AllBlank left) (within : AllBlank right) (behind : AllBlank back) :
      Respaced (key ++ 61 :: value) ((front ++ key ++ left) ++ 61 :: (right ++ value ++ back))

/-- A line with a `=` is a comment exactly if what stands before that begins with a `#`. -/
theorem isSilent_parted_iff (key value : Bytes) :
    IsSilent (key ++ 61 :: value) ↔ (trim key).head? = some 35 := by
  constructor
  · intro silent
    cases silent with
    | blank all =>
        exact absurd (List.mem_append_right key List.mem_cons_self) (all.not_mem (by decide))
    | @comment front rest indent parts =>
        -- The `#` cannot stand behind the `=`, since there are only blanks in front of it.
        rcases List.append_eq_append_iff.mp parts with ⟨more, rfl, same⟩ | ⟨more, rfl, same⟩
        · cases more with
          | nil => cases same
          | cons byte more =>
              cases same
              have inside : 61 ∈ key ++ 61 :: more := by simp
              exact absurd inside (indent.not_mem (by decide))
        · cases more with
          | nil => cases same
          | cons byte more =>
              cases same
              have trimmed := trimmed_trim (front ++ 35 :: more)
              rw [← List.append_nil (front ++ 35 :: more), trimmed_append_iff indent allBlank_nil,
                List.append_nil] at trimmed
              exact trimmed.head?_eq (by decide)
  · intro marked
    obtain ⟨more, starts⟩ := List.head?_eq_some_iff.mp marked
    obtain ⟨⟨front, back, parts, before, -⟩, -, -⟩ := trimmed_trim key
    refine .comment before (?_ : _ = front ++ 35 :: (more ++ back ++ 61 :: value))
    rw [parts, starts]
    simp

/-- What a line sets, and what is wrong with it, has nothing to do with the blanks in it. -/
theorem Respaced.ofLine_eq {line other : Bytes} (respaced : Respaced line other) (number : Nat) :
    ofLine number other = ofLine number line := by
  cases respaced with
  | ends before behind =>
      have same := trim_append before behind line
      simp only [ofLine, same]
  | @parts key value front left right back first before around within behind =>
      have named : trim (front ++ key ++ left) = trim key := trim_append before around key
      have filled : trim (right ++ value ++ back) = trim value := trim_append within behind value
      have absent : 61 ∉ front ++ key ++ left := by
        simp [first, before.not_mem, around.not_mem, isBlank]
      have same := isSilent_parted_iff (front ++ key ++ left) (right ++ value ++ back)
      rw [named, ← isSilent_parted_iff key value] at same
      by_cases silent : IsSilent (key ++ 61 :: value)
      · rw [ofLine_of_silent number silent, ofLine_of_silent number (same.mpr silent)]
      · have plain : Assigns (key ++ 61 :: value) (trim key) (trim value) :=
          ⟨silent, key, value, rfl, first, trimmed_trim key, trimmed_trim value⟩
        have spaced : Assigns ((front ++ key ++ left) ++ 61 :: (right ++ value ++ back)) (trim key)
            (trim value) :=
          ⟨mt same.mp silent, _, _, rfl, absent, trim_eq_iff.mp named, trim_eq_iff.mp filled⟩
        rw [ofLine_of_assigns number plain, ofLine_of_assigns number spaced]

/-- The lines of a text stay as they are where newlines get a carriage return, but for a blank. -/
theorem respaced_withReturns (text : Bytes) :
    List.Forall₂ Respaced text.lines (Bytes.withReturns text).lines := by
  have kept (line : Bytes) : Respaced line line := by
    simpa using @Respaced.ends line [] [] allBlank_nil allBlank_nil
  induction remaining : text.length using Nat.strongRecOn generalizing text with
  | ind size ih =>
      by_cases newline : 10 ∈ text
      · obtain ⟨line, rest, rfl, single⟩ := Bytes.exists_first_of_mem newline
        have shorter : rest.length < size := by
          rw [← remaining, List.length_append, List.length_cons]
          omega
        have returned : 10 ∉ line ++ [13] := by simp [single]
        have ended : Respaced line (line ++ [13]) :=
          @Respaced.ends line [] [13] allBlank_nil (by simp [AllBlank, isBlank])
        rw [Bytes.lines_newline single, Bytes.withReturns_newline single,
          Bytes.lines_newline returned]
        exact .cons ended (ih rest.length shorter rest rfl)
      · rw [Bytes.withReturns_of_line newline]
        exact List.forall₂_same.mpr fun line _ => kept line

/-- The same lines with others among them that set nothing. -/
inductive Filled : List Bytes → List Bytes → Prop
  | nil : Filled [] []
  | line {lines others : List Bytes} (line : Bytes) (filled : Filled lines others) :
      Filled (line :: lines) (line :: others)
  | idle {lines others : List Bytes} {line : Bytes} (sets : Sets line none)
      (filled : Filled lines others) : Filled lines (line :: others)

theorem Filled.good {lines others : List Bytes} (filled : Filled lines others)
    (good : ∀ line ∈ lines, ¬ IsBad line) : ∀ line ∈ others, ¬ IsBad line := by
  induction filled with
  | nil => exact good
  | line line filled ih =>
      obtain ⟨first, later⟩ := List.forall_mem_cons.mp good
      exact List.forall_mem_cons.mpr ⟨first, ih later⟩
  | idle sets filled ih => exact List.forall_mem_cons.mpr ⟨exists_sets_iff.mp ⟨_, sets⟩, ih good⟩

theorem Filled.length_le {lines others : List Bytes} (filled : Filled lines others) :
    lines.length ≤ others.length := by
  induction filled with
  | nil => exact Nat.le_refl _
  | line line filled ih => exact Nat.succ_le_succ ih
  | idle sets filled ih => exact Nat.le_succ_of_le ih

/-- Each line of a text is still there once others were put in, between what came of the lines in
front of it and of those behind it. -/
theorem Filled.exists_parts {front rest others : List Bytes} {line : Bytes}
    (filled : Filled (front ++ line :: rest) others) : ∃ before after,
      others = before ++ line :: after ∧ Filled front before ∧ Filled rest after := by
  generalize whole : front ++ line :: rest = lines at filled
  induction filled generalizing front with
  | nil => cases front <;> cases whole
  | line first filled ih =>
      cases front with
      | nil =>
          cases whole
          exact ⟨[], _, rfl, .nil, filled⟩
      | cons head front =>
          cases whole
          obtain ⟨before, after, rfl, early, late⟩ := ih rfl
          exact ⟨first :: before, after, rfl, .line first early, late⟩
  | @idle lines others added sets filled ih =>
      obtain ⟨before, after, rfl, early, late⟩ := ih whole
      exact ⟨added :: before, after, rfl, .idle sets early, late⟩

/-- A fault of the same line and with the same words, but with the number that the line has where
others were put in front of it. -/
inductive Displaced (lines others : List Bytes) : Fault → Fault → Prop
  | intro {front rest before after : List Bytes} {bad : Bytes} {added : Nat} (defect : Defect)
      (parts : lines = front ++ bad :: rest) (moved : others = before ++ bad :: after)
      (early : Filled front before) (late : Filled rest after)
      (longer : before.length = front.length + added) :
      Displaced lines others (.setting (defect.onLine (front.length + 1)))
        (.setting (defect.onLine (front.length + 1 + added)))

/-- The same lines, but two neighbours, which do not give values to the same key, in the other
order. -/
inductive Exchanged : List Bytes → List Bytes → Prop
  | intro {first second : Bytes} (front back : List Bytes) (apart : ∀ key value name more,
      Assigns first key value → Assigns second name more → key ≠ name) :
      Exchanged (front ++ first :: second :: back) (front ++ second :: first :: back)

theorem Exchanged.perm {lines others : List Bytes} (exchanged : Exchanged lines others) :
    others.Perm lines := by
  cases exchanged with
  | @intro first second front back apart => exact (List.Perm.swap first second back).append_left front

/-- A line that sets something gives a value to the key of that. -/
theorem assigns_of_given {line : Bytes} {setting : Setting} (set : given line = some setting) :
    ∃ value, Assigns line setting.key.name value := by
  rcases sets_or_defective line with ⟨result, sets⟩ | ⟨defect, defective⟩
  · rw [given_of_sets sets] at set
    subst set
    cases sets with
    | @known key value setting assigns gives => exact ⟨value, gives.key_eq ▸ assigns⟩
  · rw [given, ((ofLine_iff 1 line).2 _).mpr ⟨defect, defective, rfl⟩] at set
    cases set

end Setting

namespace Settings

open Setting

theorem applyLines_respaced {lines others : List Bytes}
    (respaced : List.Forall₂ Respaced lines others) (settings : Settings) (number : Nat) :
    settings.applyLines number others = settings.applyLines number lines := by
  induction respaced generalizing settings number with
  | nil => rfl
  | cons first later ih =>
      simp only [applyLines, first.ofLine_eq number, ih]

theorem parse_respaced {text other : Bytes}
    (respaced : List.Forall₂ Respaced text.lines other.lines) : parse other = parse text :=
  applyLines_respaced respaced default 1

theorem foldl_filled {lines others : List Bytes} (filled : Filled lines others)
    (settings : Settings) : others.foldl follow settings = lines.foldl follow settings := by
  induction filled generalizing settings with
  | nil => rfl
  | line line filled ih => exact ih (settings.follow line)
  | @idle lines others line sets filled ih =>
      have idle : settings.follow line = settings := by rw [follow, given_of_sets sets]
      rw [List.foldl_cons, idle, ih]

/-- What is set for different keys does not depend on the order. -/
theorem apply_comm {first second : Setting} (apart : first.key ≠ second.key) (settings : Settings) :
    (settings.apply first).apply second = (settings.apply second).apply first := by
  cases first <;> cases second <;> first | rfl | exact absurd rfl apart

/-- Two lines that do not give values to the same key have the same effect in both orders. -/
theorem follow_comm {first second : Bytes} (apart : ∀ key value name more,
    Assigns first key value → Assigns second name more → key ≠ name) (settings : Settings) :
    (settings.follow first).follow second = (settings.follow second).follow first := by
  cases early : given first with
  | none => simp only [follow, early]
  | some setting =>
      cases late : given second with
      | none => simp only [follow, early, late]
      | some other =>
          obtain ⟨value, assigns⟩ := assigns_of_given early
          obtain ⟨more, renames⟩ := assigns_of_given late
          have differ : setting.key ≠ other.key := fun same =>
            apart _ value _ more assigns renames (congrArg Key.name same)
          simp only [follow, early, late, apply_comm differ]

theorem foldl_exchanged {lines others : List Bytes} (exchanged : Exchanged lines others)
    (settings : Settings) : others.foldl follow settings = lines.foldl follow settings := by
  cases exchanged with
  | intro front back apart =>
      simp only [List.foldl_append, List.foldl_cons, follow_comm apart]

/-- Lines that set nothing move the first bad line of a text back, and that is all they do. -/
theorem parse_filled {text other : Bytes} (filled : Filled text.lines other.lines) :
    (∀ settings, parse text = .ok settings → parse other = .ok settings) ∧
    ∀ fault, parse text = .error fault → ∃ moved, Displaced text.lines other.lines fault moved ∧
      parse other = .error moved := by
  constructor
  · intro settings read
    obtain ⟨good, rfl⟩ := ((applyLines_iff default 1 text.lines).1 settings).mp read
    rw [← foldl_filled filled]
    exact ((applyLines_iff default 1 other.lines).1 _).mpr ⟨filled.good good, rfl⟩
  · intro fault failed
    obtain ⟨front, bad, defect, ⟨⟨rest, parts⟩, good, defective⟩, rfl⟩ :=
      parse_eq_error_iff.mp failed
    rw [parts] at filled
    obtain ⟨before, after, moved, early, late⟩ := filled.exists_parts
    obtain ⟨added, longer⟩ := Nat.exists_eq_add_of_le early.length_le
    have first : FirstBad other.lines before bad defect :=
      ⟨⟨after, moved⟩, early.good good, defective⟩
    refine ⟨_, .intro defect parts moved early late longer,
      parse_eq_error_iff.mpr ⟨before, bad, defect, first, ?_⟩⟩
    rw [longer, Nat.add_right_comm]

theorem parse_exchanged {text other : Bytes} (exchanged : Exchanged text.lines other.lines)
    {settings : Settings} (read : parse text = .ok settings) : parse other = .ok settings := by
  obtain ⟨good, rfl⟩ := ((applyLines_iff default 1 text.lines).1 settings).mp read
  rw [← foldl_exchanged exchanged]
  refine ((applyLines_iff default 1 other.lines).1 _).mpr ⟨?_, rfl⟩
  intro line isIn
  exact good line (exchanged.perm.mem_iff.mp isIn)

/-- What is read from a text is the same with a carriage return in front of every newline, with
more blanks at the ends of lines and around the first `=` in them, and with lines among the others
that are empty, comments or for unknown keys; only that a line whose defect is reported then counts
as many lines more as there are new ones in front of it. It is also the same if two neighbours with
different keys change places. All of these are changes to texts, since any lines make one up. -/
theorem layout_irrelevant (text : Bytes) :
    parse (Bytes.withReturns text) = parse text ∧
    (∀ other, List.Forall₂ Respaced text.lines (Bytes.lines other) → parse other = parse text) ∧
    (∀ other, Filled text.lines (Bytes.lines other) →
      (∀ settings, parse text = .ok settings → parse other = .ok settings) ∧
      ∀ fault, parse text = .error fault → ∃ moved,
        Displaced text.lines (Bytes.lines other) fault moved ∧ parse other = .error moved) ∧
    (∀ other, Exchanged text.lines (Bytes.lines other) →
      ∀ settings, parse text = .ok settings → parse other = .ok settings) ∧
    ∀ lines : List Bytes, (∀ line ∈ lines, 10 ∉ line) → Bytes.lines (Bytes.ofLines lines) = lines := by
  refine ⟨parse_respaced (respaced_withReturns text), ?_, ?_, ?_, ?_⟩
  · intro other respaced
    exact parse_respaced respaced
  · intro other filled
    exact parse_filled filled
  · intro other exchanged settings read
    exact parse_exchanged exchanged read
  · intro lines single
    exact Bytes.lines_ofLines single

/-- Blanks put in, lines put in front of a bad one, and two lines in the other order. -/
theorem layout_irrelevant_of_small_texts :
    let text := ofText "max_conns=3\ntracker_server=t:1"
    let spaced := ofText "\tmax_conns =  3\r\ntracker_server= t:1"
    let swapped := ofText "tracker_server=t:1\nmax_conns=3\n"
    let broken := ofText "log_file=a\nlog_level"
    let filled := ofText " # b\nlog_file=a\n\nbase_path=/x\nlog_level"
    parse (Bytes.withReturns text) = parse text ∧ parse spaced = parse text ∧
      (∃ settings, parse text = .ok settings ∧ parse swapped = .ok settings) ∧
      ∃ moved, Displaced broken.lines filled.lines (.setting (.lineWithoutEquals 2)) moved ∧
        parse filled = .error moved ∧ moved = .setting (.lineWithoutEquals 5) := by
  intro text spaced swapped broken filled
  obtain ⟨returned, respaced, -, exchanged, -⟩ := layout_irrelevant text
  have plain : Assigns (ofText "max_conns=3") (ofText "max_conns") (ofText "3") :=
    valueOf?_eq_some_iff.mp (by decide)
  have tracked : Assigns (ofText "tracker_server=t:1") (ofText "tracker_server") (ofText "t:1") :=
    valueOf?_eq_some_iff.mp (by decide)
  have unknown : Assigns (ofText "base_path=/x") (ofText "base_path") (ofText "/x") :=
    valueOf?_eq_some_iff.mp (by decide)
  have whole : text.lines = [ofText "max_conns=3", ofText "tracker_server=t:1"] := by
    decide +kernel
  refine ⟨returned, respaced spaced ?_, ?_, ?_⟩
  · have parts : spaced.lines = [ofText "\tmax_conns =  3\r", ofText "tracker_server= t:1"] := by
      decide +kernel
    have blanks (bytes : Bytes) (all : bytes.all isBlank = true) : AllBlank bytes :=
      List.all_eq_true.mp all
    rw [whole, parts]
    have first : Respaced (ofText "max_conns=3") (ofText "\tmax_conns =  3\r") :=
      @Respaced.parts (ofText "max_conns") [51] [9] [32] [32, 32] [13] (by decide)
        (blanks _ rfl) (blanks _ rfl) (blanks _ rfl) (blanks _ rfl)
    have second : Respaced (ofText "tracker_server=t:1") (ofText "tracker_server= t:1") :=
      @Respaced.parts (ofText "tracker_server") (ofText "t:1") [] [] [32] [] (by decide)
        (blanks _ rfl) (blanks _ rfl) (blanks _ rfl) (blanks _ rfl)
    exact .cons first (.cons second .nil)
  · let settings : Settings := { default with trackers := [ofText "t:1"], maxConnections := 3 }
    have read : parse text = .ok settings := by decide +kernel
    refine ⟨settings, read, exchanged swapped ?_ settings read⟩
    have parts : swapped.lines = [ofText "tracker_server=t:1", ofText "max_conns=3"] := by
      decide +kernel
    rw [whole, parts]
    refine .intro [] [] ?_
    intro key value name more keyed named
    rw [(keyed.unique plain).1, (named.unique tracked).1]
    decide
  · have refused : parse broken = .error (.setting (.lineWithoutEquals 2)) := by decide +kernel
    have parts : broken.lines = [ofText "log_file=a", ofText "log_level"] := by decide +kernel
    have others : filled.lines = [ofText " # b", ofText "log_file=a", [], ofText "base_path=/x",
        ofText "log_level"] := by decide +kernel
    have comment : IsSilent (ofText " # b") :=
      @IsSilent.comment _ [32] [32, 98] (List.all_eq_true.mp rfl) rfl
    have nameless (key : Key) : ofText "base_path" ≠ key.name := by cases key <;> decide
    have more : Filled broken.lines filled.lines := by
      rw [parts, others]
      exact .idle (.silent comment) (.line _ (.idle (.silent (.blank allBlank_nil))
        (.idle (.unknown unknown nameless) (.line _ .nil))))
    obtain ⟨moved, displaced, failed⟩ := ((layout_irrelevant broken).2.2.1 filled more).2 _ refused
    have fifth : parse filled = .error (.setting (.lineWithoutEquals 5)) := by decide +kernel
    rw [failed] at fifth
    exact ⟨moved, displaced, failed, Except.error.inj fifth⟩

end Settings

end TrackedStorage
