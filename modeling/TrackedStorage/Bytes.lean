set_option autoImplicit false

namespace TrackedStorage

/-- Whatever is sent, read, stored or named is a string of bytes. -/
abbrev Bytes := List UInt8

namespace Bytes

def ofText (text : String) : Bytes := text.toUTF8.data.toList

/-- The part of `bytes` before its first NUL. -/
def beforeNul (bytes : Bytes) : Bytes := bytes.takeWhile (· != 0)

/-- Blanks that may stand between words and before a number: space, `\t`, `\n`, `\v`, `\f`, `\r`. -/
def isSpace (byte : UInt8) : Bool := byte == 32 || (9 ≤ byte && byte ≤ 13)

/-- The pieces of `bytes` between the bytes that satisfy `isSeparator`: one more than there are
such bytes, so never none. -/
def split (isSeparator : UInt8 → Bool) (bytes : Bytes) : List Bytes :=
  bytes.foldr (fun byte pieces =>
    if isSeparator byte then [] :: pieces
    else match pieces with
      | [] => [[byte]]
      | piece :: rest => (byte :: piece) :: rest) [[]]

/-- The lines of a text. A newline ends its line, so nothing follows a final newline, and an empty
text has no line. -/
def lines (text : Bytes) : List Bytes :=
  let pieces := text.split (· == 10)
  if pieces.getLast? = some [] then pieces.dropLast else pieces

def words (line : Bytes) : List Bytes := (line.split isSpace).filter (· != [])

def splitFirst (separator : UInt8) (bytes : Bytes) : Option (Bytes × Bytes) :=
  match bytes.dropWhile (· != separator) with
  | [] => none
  | _ :: after => some (bytes.takeWhile (· != separator), after)

def splitLast (separator : UInt8) (bytes : Bytes) : Option (Bytes × Bytes) :=
  match bytes.reverse.dropWhile (· != separator) with
  | [] => none
  | _ :: before => some (before.reverse, (bytes.reverse.takeWhile (· != separator)).reverse)

section
variable {isSeparator : UInt8 → Bool}

theorem split_cons (byte : UInt8) (rest : Bytes) :
    split isSeparator (byte :: rest) =
      if isSeparator byte then [] :: split isSeparator rest
      else match split isSeparator rest with
        | [] => [[byte]]
        | piece :: pieces => (byte :: piece) :: pieces := rfl

theorem split_ne_nil (bytes : Bytes) : split isSeparator bytes ≠ [] := by
  cases bytes with
  | nil => simp [split]
  | cons byte rest =>
      rw [split_cons]
      split
      · simp
      · split <;> simp

/-- A separator ends the pieces in front of it. -/
theorem split_append_cons {separator : UInt8} (separates : isSeparator separator = true)
    (front back : Bytes) : split isSeparator (front ++ separator :: back) =
      split isSeparator front ++ split isSeparator back := by
  induction front with
  | nil =>
      rw [List.nil_append, split_cons, if_pos separates]
      rfl
  | cons byte rest ih =>
      rw [List.cons_append, split_cons, split_cons, ih]
      cases pieces : split isSeparator rest with
      | nil => exact absurd pieces (split_ne_nil rest)
      | cons piece more => split <;> rfl

theorem split_of_unseparated {bytes : Bytes} (whole : ∀ byte ∈ bytes, isSeparator byte = false) :
    split isSeparator bytes = [bytes] := by
  induction bytes with
  | nil => rfl
  | cons byte rest ih =>
      obtain ⟨first, later⟩ := List.forall_mem_cons.mp whole
      simp [split_cons, first, ih later]

end

/-- A newline ends a line, and the next line begins behind it. -/
theorem lines_append_newline (front back : Bytes) :
    lines (front ++ 10 :: back) = split (· == 10) front ++ lines back := by
  have some : split (· == 10) back ≠ [] := split_ne_nil back
  have parts : split (· == 10) (front ++ 10 :: back) =
      split (· == 10) front ++ split (· == 10) back := split_append_cons rfl front back
  have last : (split (· == 10) front ++ split (· == 10) back).getLast? =
      (split (· == 10) back).getLast? := by
    rw [List.getLast?_append, List.getLast?_eq_some_getLast some, Option.some_or]
  simp only [lines, parts, last, List.dropLast_append_of_ne_nil some]
  split <;> rfl

/-- Lines that are all ended stay the same whatever follows. -/
theorem lines_append {front : Bytes} (ended : front = [] ∨ ∃ whole, front = whole ++ [10])
    (back : Bytes) : lines (front ++ back) = lines front ++ lines back := by
  rcases ended with rfl | ⟨whole, rfl⟩
  · rfl
  · rw [List.append_assoc, List.singleton_append, lines_append_newline, lines_append_newline,
      show lines [] = [] from rfl, List.append_nil]

theorem split_of_line {line : Bytes} (single : 10 ∉ line) : split (· == 10) line = [line] := by
  refine split_of_unseparated fun byte isIn => beq_eq_false_iff_ne.mpr ?_
  rintro rfl
  exact single isIn

/-- A text without a newline is one line, unless it is empty. -/
theorem lines_of_line {line : Bytes} (single : 10 ∉ line) (some : line ≠ []) :
    lines line = [line] := by
  simp [lines, split_of_line single, some]

@[simp] theorem beforeNul_nil : beforeNul [] = [] := rfl

theorem zero_not_mem_beforeNul (bytes : Bytes) : 0 ∉ beforeNul bytes := by
  induction bytes with
  | nil => simp
  | cons byte rest ih =>
      by_cases nul : byte = 0
      · simp [beforeNul, nul]
      · simp only [beforeNul, List.takeWhile_cons, bne_iff_ne, ne_eq, nul, not_false_eq_true,
          ↓reduceIte, List.mem_cons, not_or]
        exact ⟨fun same => nul same.symm, ih⟩

theorem beforeNul_of_zero_not_mem {bytes : Bytes} (clean : 0 ∉ bytes) :
    beforeNul bytes = bytes := by
  induction bytes with
  | nil => rfl
  | cons byte rest ih =>
      simp only [List.mem_cons, not_or] at clean
      have differs : byte ≠ 0 := fun same => clean.1 same.symm
      have tail := ih clean.2
      simp only [beforeNul] at tail
      simp [beforeNul, differs, tail]

/-- Nothing stands before a NUL at the front, nor in an empty string. -/
theorem beforeNul_eq_nil_iff (bytes : Bytes) : beforeNul bytes = [] ↔ bytes.headD 0 = 0 := by
  cases bytes with
  | nil => simp
  | cons byte rest => by_cases nul : byte = 0 <;> simp [beforeNul, nul]

theorem headD_drop (bytes : Bytes) (count : Nat) :
    (bytes.drop count).headD 0 = bytes.getD count 0 := by
  rw [List.headD_eq_head?_getD, List.head?_drop, List.getD_eq_getElem?_getD]

/-- NULs that fill a field up are no part of its text. -/
theorem beforeNul_append_replicate (bytes : Bytes) (count : Nat) :
    beforeNul (bytes ++ List.replicate count 0) = beforeNul bytes := by
  induction bytes with
  | nil => cases count <;> simp [beforeNul, List.replicate_succ]
  | cons byte rest ih =>
      by_cases nul : byte = 0
      · simp [beforeNul, nul]
      · simp only [beforeNul] at ih
        simp [beforeNul, nul, ih]

/-- The first separator is the one that has none before it. -/
theorem splitFirst_append {separator : UInt8} {front : Bytes} (absent : separator ∉ front)
    (back : Bytes) : splitFirst separator (front ++ separator :: back) = some (front, back) := by
  have before : ∀ byte ∈ front, (byte != separator) = true := by
    intro byte isIn
    exact bne_iff_ne.mpr fun same => absent (same ▸ isIn)
  simp [splitFirst, List.dropWhile_append_of_pos before, List.takeWhile_append_of_pos before]

theorem eq_append_of_splitFirst {separator : UInt8} {bytes front back : Bytes}
    (found : splitFirst separator bytes = some (front, back)) :
    bytes = front ++ separator :: back ∧ separator ∉ front := by
  induction bytes generalizing front with
  | nil => simp [splitFirst] at found
  | cons byte rest ih =>
      by_cases same : byte = separator
      · subst same
        simp only [splitFirst, List.dropWhile_cons, List.takeWhile_cons, bne_self_eq_false,
          Bool.false_eq_true, ↓reduceIte, Option.some.injEq, Prod.mk.injEq] at found
        simp [← found.1, found.2]
      · have later : splitFirst separator rest = some (front.tail, back) ∧
            front = byte :: front.tail := by
          simp only [splitFirst, List.dropWhile_cons, List.takeWhile_cons, bne_iff_ne, ne_eq, same,
            not_false_eq_true, ↓reduceIte] at found ⊢
          split at found
          · cases found
          · cases found
            exact ⟨rfl, rfl⟩
        obtain ⟨parts, absent⟩ := ih later.1
        rw [later.2]
        refine ⟨by rw [List.cons_append, ← parts], ?_⟩
        simp only [List.mem_cons, not_or]
        exact ⟨fun back => same back.symm, absent⟩

theorem splitFirst_eq_none_iff {separator : UInt8} {bytes : Bytes} :
    splitFirst separator bytes = none ↔ separator ∉ bytes := by
  induction bytes with
  | nil => simp [splitFirst]
  | cons byte rest ih =>
      by_cases same : byte = separator
      · simp [splitFirst, same]
      · have shorter : splitFirst separator (byte :: rest) = none ↔
            splitFirst separator rest = none := by
          simp only [splitFirst, List.dropWhile_cons, bne_iff_ne, ne_eq, same, not_false_eq_true,
            ↓reduceIte]
          split <;> simp
        rw [shorter, ih, List.mem_cons, not_or]
        exact ⟨fun absent => ⟨fun back => same back.symm, absent⟩, And.right⟩

/-- The last separator is the first one from behind. -/
theorem splitLast_eq_reverse (separator : UInt8) (bytes : Bytes) :
    splitLast separator bytes =
      (splitFirst separator bytes.reverse).map
        fun (back, front) => (front.reverse, back.reverse) := by
  simp only [splitLast, splitFirst]
  split <;> simp_all

theorem splitLast_append {separator : UInt8} {back : Bytes} (front : Bytes)
    (absent : separator ∉ back) :
    splitLast separator (front ++ separator :: back) = some (front, back) := by
  have backwards : (front ++ separator :: back).reverse =
      back.reverse ++ separator :: front.reverse := by simp
  have clean : separator ∉ back.reverse := by simpa using absent
  rw [splitLast_eq_reverse, backwards, splitFirst_append clean]
  simp

theorem eq_append_of_splitLast {separator : UInt8} {bytes front back : Bytes}
    (found : splitLast separator bytes = some (front, back)) :
    bytes = front ++ separator :: back ∧ separator ∉ back := by
  rw [splitLast_eq_reverse, Option.map_eq_some_iff] at found
  obtain ⟨⟨first, second⟩, split, parts⟩ := found
  cases parts
  obtain ⟨whole, absent⟩ := eq_append_of_splitFirst split
  refine ⟨?_, by simpa using absent⟩
  have turned := congrArg List.reverse whole
  simpa using turned

theorem splitLast_eq_none_iff {separator : UInt8} {bytes : Bytes} :
    splitLast separator bytes = none ↔ separator ∉ bytes := by
  rw [splitLast_eq_reverse, Option.map_eq_none_iff, splitFirst_eq_none_iff, List.mem_reverse]

end Bytes

end TrackedStorage
