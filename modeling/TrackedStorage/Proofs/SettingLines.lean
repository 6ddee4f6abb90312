import Mathlib.Data.List.DropRight
import TrackedStorage.Proofs.SettingValues
import TrackedStorage.Proofs.WrittenNames

set_option autoImplicit false

namespace TrackedStorage.Setting

def AllBlank (bytes : Bytes) : Prop := ∀ byte ∈ bytes, isBlank byte = true

/-- What is left of a text without the blanks at its ends. -/
structure Trimmed (text core : Bytes) : Prop where
  parts : ∃ front back, text = front ++ core ++ back ∧ AllBlank front ∧ AllBlank back
  first : ∀ byte ∈ core.head?, isBlank byte = false
  last : ∀ byte ∈ core.getLast?, isBlank byte = false

theorem AllBlank.append {front back : Bytes} (first : AllBlank front) (second : AllBlank back) :
    AllBlank (front ++ back) := by
  intro byte isIn
  rcases List.mem_append.mp isIn with early | late
  · exact first byte early
  · exact second byte late

theorem allBlank_nil : AllBlank [] := by
  intro byte isIn
  cases isIn

theorem AllBlank.not_mem {bytes : Bytes} (blank : AllBlank bytes) {byte : UInt8}
    (inked : isBlank byte = false) : byte ∉ bytes := by
  intro isIn
  rw [blank byte isIn] at inked
  cases inked

/-- Blanks that are put in front of a text or behind it are dropped with those that were there. -/
theorem trim_append {front back : Bytes} (first : AllBlank front) (second : AllBlank back)
    (text : Bytes) : trim (front ++ text ++ back) = trim text := by
  have early : (front ++ text ++ back).dropWhile isBlank = (text ++ back).dropWhile isBlank := by
    rw [List.append_assoc, List.dropWhile_append_of_pos first]
  rw [trim, early, List.dropWhile_append]
  split
  · rename_i gone
    have none : back.dropWhile isBlank = [] := List.dropWhile_eq_nil_iff.mpr second
    rw [trim, List.isEmpty_iff.mp gone, none]
  · have late : ∀ byte ∈ back.reverse, isBlank byte = true := by
      intro byte isIn
      exact second byte (List.mem_reverse.mp isIn)
    rw [List.reverse_append, List.dropWhile_append_of_pos late, trim]

theorem trim_of_tight {core : Bytes} (first : ∀ byte ∈ core.head?, isBlank byte = false)
    (last : ∀ byte ∈ core.getLast?, isBlank byte = false) : trim core = core := by
  rw [← List.head?_reverse] at last
  have early : core.dropWhile isBlank = core :=
    @Bytes.dropWhile_append_of_stop isBlank [] core (by simp) first
  have late : core.reverse.dropWhile isBlank = core.reverse :=
    @Bytes.dropWhile_append_of_stop isBlank [] core.reverse (by simp) last
  rw [trim, early, late, List.reverse_reverse]

theorem trimmed_trim (text : Bytes) : Trimmed text (trim text) := by
  let dense := text.dropWhile isBlank
  have same : trim text = dense.rdropWhile isBlank := rfl
  have front : text.takeWhile isBlank ++ dense = text := List.takeWhile_append_dropWhile
  have back : dense.rdropWhile isBlank ++ dense.rtakeWhile isBlank = dense :=
    List.rdropWhile_append_rtakeWhile
  refine ⟨⟨text.takeWhile isBlank, dense.rtakeWhile isBlank, ?_, ?_, ?_⟩, ?_, ?_⟩
  · rw [same, List.append_assoc, back, front]
  · intro byte isIn
    exact List.mem_takeWhile_imp isIn
  · intro byte isIn
    exact List.mem_rtakeWhile_imp isIn
  · intro byte isFirst
    have stop := List.head?_dropWhile_not isBlank text
    have led : dense.head? = some byte := by
      rw [← back, List.head?_append, ← same, isFirst, Option.some_or]
    rw [show (text.dropWhile isBlank).head? = some byte from led] at stop
    exact stop
  · intro byte isLast
    have filled : dense.rdropWhile isBlank ≠ [] := by
      intro none
      rw [same, none] at isLast
      cases isLast
    have stop := List.rdropWhile_last_not isBlank dense filled
    rw [same, List.getLast?_eq_some_getLast filled, Option.mem_some] at isLast
    rw [isLast] at stop
    exact eq_false_of_ne_true stop

/-- What is left of a text is the only part of it with nothing but blanks around it and none at its
own ends. -/
theorem trim_eq_iff {text core : Bytes} : trim text = core ↔ Trimmed text core := by
  constructor
  · rintro rfl
    exact trimmed_trim text
  · rintro ⟨⟨front, back, rfl, before, behind⟩, first, last⟩
    rw [trim_append before behind, trim_of_tight first last]

/-- A line that says nothing: there is nothing on it, or a comment. -/
inductive IsSilent (line : Bytes) : Prop
  | blank (all : AllBlank line) : IsSilent line
  | comment {front rest : Bytes} (indent : AllBlank front) (parts : line = front ++ 35 :: rest) :
      IsSilent line

/-- A line gives a value to a key: the value is what stands behind the first `=`, and the key what
stands before it, both without the blanks around them. -/
structure Assigns (line key value : Bytes) : Prop where
  loud : ¬ IsSilent line
  parts : ∃ front back, line = front ++ 61 :: back ∧ 61 ∉ front ∧
    Trimmed front key ∧ Trimmed back value

theorem Trimmed.unique {text first second : Bytes} (trimmed : Trimmed text first)
    (again : Trimmed text second) : first = second :=
  (trim_eq_iff.mpr trimmed).symm.trans (trim_eq_iff.mpr again)

theorem trimmed_nil_iff {text : Bytes} : Trimmed text [] ↔ AllBlank text := by
  constructor
  · rintro ⟨⟨front, back, rfl, before, behind⟩, -, -⟩
    rw [List.append_nil]
    exact before.append behind
  · intro blank
    exact ⟨⟨text, [], by simp, blank, allBlank_nil⟩, by simp, by simp⟩

theorem trimmed_append_iff {front text back core : Bytes} (before : AllBlank front)
    (behind : AllBlank back) : Trimmed (front ++ text ++ back) core ↔ Trimmed text core := by
  rw [← trim_eq_iff, ← trim_eq_iff, trim_append before behind]

theorem Trimmed.head?_eq {byte : UInt8} {rest core : Bytes} (inked : isBlank byte = false)
    (trimmed : Trimmed (byte :: rest) core) : core.head? = some byte := by
  obtain ⟨⟨front, back, parts, before, behind⟩, -, -⟩ := trimmed
  cases front with
  | cons other front =>
      cases parts
      exact absurd List.mem_cons_self (before.not_mem inked)
  | nil =>
      cases core with
      | cons other core =>
          cases parts
          rfl
      | nil =>
          rw [List.nil_append, List.nil_append] at parts
          exact absurd (parts ▸ List.mem_cons_self) (behind.not_mem inked)

/-- A comment begins with its `#`, whatever blanks are in front of that. -/
theorem isSilent_iff {line content : Bytes} (trimmed : Trimmed line content) :
    IsSilent line ↔ content = [] ∨ content.head? = some 35 := by
  constructor
  · intro silent
    cases silent with
    | blank all => exact .inl (trimmed.unique (trimmed_nil_iff.mpr all))
    | @comment front rest indent parts =>
        rw [parts, ← List.append_nil (front ++ _), trimmed_append_iff indent allBlank_nil] at trimmed
        exact .inr (trimmed.head?_eq (by decide))
  · obtain ⟨⟨front, back, rfl, before, behind⟩, -, -⟩ := trimmed
    rintro (rfl | marked)
    · rw [List.append_nil]
      exact .blank (before.append behind)
    · obtain ⟨rest, rfl⟩ := List.head?_eq_some_iff.mp marked
      exact .comment before (by rw [List.append_assoc, List.cons_append])

theorem Assigns.unique {line key value other more : Bytes} (assigns : Assigns line key value)
    (again : Assigns line other more) : key = other ∧ value = more := by
  obtain ⟨front, back, parts, first, keyed, valued⟩ := assigns.parts
  obtain ⟨before, behind, same, early, named, filled⟩ := again.parts
  have split := Bytes.splitFirst_append first back
  rw [← parts, same, Bytes.splitFirst_append early] at split
  cases split
  exact ⟨keyed.unique named, valued.unique filled⟩

/-- A line says nothing, or it gives a value to a key, or else it has no `=`. -/
theorem silent_or_assigns_or_shapeless (line : Bytes) :
    IsSilent line ∨ (∃ key value, Assigns line key value) ∨ (¬ IsSilent line ∧ 61 ∉ line) := by
  by_cases silent : IsSilent line
  · exact .inl silent
  · by_cases parted : 61 ∈ line
    · obtain ⟨front, back, parts, first⟩ := Bytes.exists_first_of_mem parted
      exact .inr (.inl ⟨trim front, trim back, silent, front, back, parts, first,
        trimmed_trim front, trimmed_trim back⟩)
    · exact .inr (.inr ⟨silent, parted⟩)

section
variable (number : Nat) {line : Bytes}

theorem ofLine_of_silent (silent : IsSilent line) : ofLine number line = .ok none := by
  have blank := (isSilent_iff (trimmed_trim line)).mp silent
  simp only [ofLine, blank, ↓reduceIte]

/-- The blanks around a line are no part of its first `=`, nor of what is left of the key and of the
value. -/
theorem ofLine_of_assigns {key value : Bytes} (assigns : Assigns line key value) :
    ofLine number line = ofKeyValue number key value := by
  obtain ⟨loud, front, back, parts, first, keyed, valued⟩ := assigns
  -- The line is split after it was trimmed, so its first `=` is looked for in what is left of it.
  have inked := mt (isSilent_iff (trimmed_trim line)).mpr loud
  obtain ⟨before, behind, around, blank, blanks⟩ := (trimmed_trim line).parts
  have marked : 61 ∈ trim line := by
    have isIn : 61 ∈ line := by simp [parts]
    rw [around, List.mem_append, List.mem_append] at isIn
    rcases isIn with (early | within) | late
    · exact absurd early (blank.not_mem (by decide))
    · exact within
    · exact absurd late (blanks.not_mem (by decide))
  obtain ⟨name, rest, content, clean⟩ := Bytes.exists_first_of_mem marked
  have split := Bytes.splitFirst_append first back
  have whole : line = (before ++ name) ++ 61 :: (rest ++ behind) := by
    rw [around, content]
    simp
  have absent : 61 ∉ before ++ name := by
    rw [List.mem_append, not_or]
    exact ⟨blank.not_mem (by decide), clean⟩
  rw [← parts, whole, Bytes.splitFirst_append absent] at split
  cases split
  have named : trim name = key := by
    rw [← trim_append blank allBlank_nil, List.append_nil]
    exact trim_eq_iff.mpr keyed
  have filled : trim rest = value := by
    rw [← trim_append allBlank_nil blanks, List.nil_append]
    exact trim_eq_iff.mpr valued
  have parted : (trim line).splitFirst 61 = some (name, rest) := by
    rw [content]
    exact Bytes.splitFirst_append clean rest
  simp only [ofLine, inked, ↓reduceIte, parted, named, filled]

theorem ofLine_of_shapeless (loud : ¬ IsSilent line) (absent : 61 ∉ line) :
    ofLine number line = .error (.setting (.lineWithoutEquals number)) := by
  have inked := mt (isSilent_iff (trimmed_trim line)).mpr loud
  obtain ⟨before, behind, around, -, -⟩ := (trimmed_trim line).parts
  have unparted : (trim line).splitFirst 61 = none := by
    rw [Bytes.splitFirst_eq_none_iff]
    intro isIn
    exact absent (around ▸ List.mem_append_left behind (List.mem_append_right before isIn))
  simp only [ofLine, inked, ↓reduceIte, unparted]

end

inductive Sets (line : Bytes) : Option Setting → Prop
  | silent (silent : IsSilent line) : Sets line none
  | unknown {name value : Bytes} (assigns : Assigns line name value)
      (unknown : ∀ key : Key, name ≠ key.name) : Sets line none
  | known {key : Key} {value : Bytes} {setting : Setting} (assigns : Assigns line key.name value)
      (gives : key.Gives value setting) : Sets line (some setting)

inductive HasDefect (line : Bytes) : Defect → Prop
  | shapeless (loud : ¬ IsSilent line) (absent : 61 ∉ line) : HasDefect line .withoutEquals
  | refused {key : Key} {value : Bytes} {defect : Defect} (assigns : Assigns line key.name value)
      (refuses : key.Refuses value defect) : HasDefect line defect

theorem sets_or_defective (line : Bytes) :
    (∃ result, Sets line result) ∨ ∃ defect, HasDefect line defect := by
  rcases silent_or_assigns_or_shapeless line with silent | ⟨name, value, assigns⟩ | ⟨loud, absent⟩
  · exact .inl ⟨none, .silent silent⟩
  · by_cases known : ∃ key : Key, name = key.name
    · obtain ⟨key, rfl⟩ := known
      rcases key.gives_or_refuses value with ⟨setting, gives⟩ | ⟨defect, refuses⟩
      · exact .inl ⟨_, .known assigns gives⟩
      · exact .inr ⟨_, .refused assigns refuses⟩
    · exact .inl ⟨none, .unknown assigns (not_exists.mp known)⟩
  · exact .inr ⟨_, .shapeless loud absent⟩

/-- A line sets what it says, or is refused for its defect; where it stands has no part in that. -/
theorem ofLine_iff (number : Nat) (line : Bytes) :
    (∀ result, ofLine number line = .ok result ↔ Sets line result) ∧
      ∀ fault, ofLine number line = .error fault ↔
        ∃ defect, HasDefect line defect ∧ fault = .setting (defect.onLine number) := by
  refine Fault.eq_iff_of_decided ?_ ?_ ?_
  · rcases sets_or_defective line with sets | ⟨defect, defective⟩
    · exact .inl sets
    · exact .inr ⟨_, defect, defective, rfl⟩
  · intro result sets
    cases sets with
    | silent silent => exact ofLine_of_silent number silent
    | unknown assigns unknown =>
        rw [ofLine_of_assigns number assigns, Key.ofKeyValue_of_unknown number unknown]
    | known assigns gives =>
        rw [ofLine_of_assigns number assigns, Key.ofKeyValue_of_gives number gives]
  · rintro fault ⟨defect, defective, rfl⟩
    cases defective with
    | shapeless loud absent => exact ofLine_of_shapeless number loud absent
    | refused assigns refuses =>
        rw [ofLine_of_assigns number assigns, Key.ofKeyValue_of_refuses number refuses]

end TrackedStorage.Setting
