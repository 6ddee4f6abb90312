import Mathlib.Data.List.TakeWhile
import TrackedStorage.Shell

set_option autoImplicit false

namespace TrackedStorage.Shell

open Bytes (ofText)

def quits (words : List Bytes) : Bool := words.head? == some (ofText "quit")

/-- The lines in front of the first one that ends the shell, as words. -/
def heeded (input : Bytes) : List (List Bytes) :=
  (input.lines.map Bytes.words).takeWhile fun words => !quits words

/-- The lines that are not blank. -/
def commands (lines : List (List Bytes)) : List (List Bytes) := lines.filter (· != [])

def executeAll (commands : List (List Bytes)) (world : World) : World :=
  commands.foldl (fun world words => (execute words world).2) world

/-- What the line at an index puts out, once the commands in front of it were executed. A blank line
puts out nothing. -/
def said (lines : List (List Bytes)) (world : World) (index : Nat) : Bytes :=
  match lines.getD index [] with
  | [] => []
  | words => (execute words (executeAll (commands (lines.take index)) world)).1.output

section
variable {words : List Bytes} {lines rest : List (List Bytes)} {world : World}

/-- Nothing is done about a line that ends the shell, nor about those behind it. -/
theorem runLines_of_quits (ends : quits words = true) :
    runLines (words :: rest) world = ([], world) := by
  cases words with
  | nil => cases ends
  | cons word more =>
      have isQuit : word = ofText "quit" := by simpa [quits] using ends
      rw [runLines, if_pos isQuit]

theorem runLines_of_command (some : words ≠ []) (goes : quits words = false) :
    runLines (words :: rest) world =
      ((execute words world).1.output ++ prompt ++ (runLines rest (execute words world).2).1,
        (runLines rest (execute words world).2).2) := by
  cases words with
  | nil => exact absurd rfl some
  | cons word more =>
      have differs : word ≠ ofText "quit" := by simpa [quits] using goes
      rw [runLines, if_neg differs]

theorem runLines_takeWhile (lines : List (List Bytes)) (world : World) :
    runLines (lines.takeWhile fun words => !quits words) world = runLines lines world := by
  induction lines generalizing world with
  | nil => rfl
  | cons words rest ih =>
      rw [List.takeWhile_cons]
      cases ends : quits words with
      | true =>
          rw [runLines_of_quits ends]
          rfl
      | false =>
          rw [if_pos (by rfl)]
          cases words with
          | nil => rw [runLines, runLines, ih]
          | cons word more =>
              rw [runLines_of_command (List.cons_ne_nil _ _) ends,
                runLines_of_command (List.cons_ne_nil _ _) ends, ih]

theorem executeAll_commands_cons (words : List Bytes) (rest : List (List Bytes)) (world : World) :
    executeAll (commands (words :: rest)) world =
      executeAll (commands rest) (executeAll (commands [words]) world) := by
  rw [← List.singleton_append, commands, List.filter_append, executeAll, List.foldl_append]
  rfl

theorem said_succ (words : List Bytes) (rest : List (List Bytes)) (world : World) (index : Nat) :
    said (words :: rest) world (index + 1) =
      said rest (executeAll (commands [words]) world) index := by
  rw [said, said, List.getD_cons_succ, List.take_succ_cons, executeAll_commands_cons]

/-- Lines that do not end the shell are obeyed one by one, with a prompt after each of them. -/
theorem runLines_eq (goes : ∀ words ∈ lines, quits words = false) (world : World) :
    runLines lines world =
      ((List.range lines.length).flatMap (fun index => said lines world index ++ prompt),
        executeAll (commands lines) world) := by
  induction lines generalizing world with
  | nil => rfl
  | cons words rest ih =>
      obtain ⟨first, later⟩ := List.forall_mem_cons.mp goes
      have behind := ih later (executeAll (commands [words]) world)
      rw [List.length_cons, List.range_succ_eq_map, List.flatMap_cons, List.flatMap_map,
        executeAll_commands_cons]
      simp only [said_succ]
      cases words with
      | nil =>
          have same : executeAll (commands [[]]) world = world := rfl
          rw [same] at behind ⊢
          rw [runLines, behind]
          rfl
      | cons word more =>
          have next : executeAll (commands [word :: more]) world =
              (execute (word :: more) world).2 := rfl
          rw [next] at behind ⊢
          rw [runLines_of_command (List.cons_ne_nil word more) first, behind]
          rfl

end

theorem run_eq_runLines (input : Bytes) (world : World) :
    run input world =
      (prompt ++ (runLines (heeded input) world).1, (runLines (heeded input) world).2) := by
  rw [heeded, runLines_takeWhile, run]

theorem quits_of_mem_heeded {input : Bytes} {words : List Bytes} (isIn : words ∈ heeded input) :
    quits words = false := by
  simpa using List.mem_takeWhile_imp isIn

section
variable {front line : Bytes} (ended : front = [] ∨ ∃ whole, front = whole ++ [10])
variable (single : 10 ∉ line)
include ended single

/-- The lines of a text in which a line follows lines that are ended. -/
theorem lines_append_line (rest : Bytes) :
    (front ++ line ++ 10 :: rest).lines = front.lines ++ line :: rest.lines := by
  rw [List.append_assoc, Bytes.lines_append ended, Bytes.lines_append_newline,
    Bytes.split_of_line single, List.singleton_append]

theorem lines_append_last (some : line ≠ []) : (front ++ line).lines = front.lines ++ [line] := by
  rw [Bytes.lines_append ended, Bytes.lines_of_line single some]

/-- What follows a line that ends the shell is not heeded. -/
theorem heeded_of_quits (ends : quits line.words = true) (rest : Bytes) :
    heeded (front ++ line ++ 10 :: rest) = heeded (front ++ line) := by
  have some : line ≠ [] := by
    rintro rfl
    cases ends
  rw [heeded, heeded, lines_append_line ended single, lines_append_last ended single some]
  simp [List.takeWhile_append, ends]

end

/-- The shell does what its commands do. The lines before the first one that begins with `quit` are
executed in order, except for blank ones, and leave everything as they would if they were executed
by themselves, however many of them fail. What is put out is a prompt, and for each of these lines
what its command puts out and another prompt. Neither what follows a line that begins with `quit`
nor the newline at the end of the last line makes a difference. -/
theorem session_eq_commands (input : Bytes) (world : World) :
    let lines := heeded input
    run input world =
      (prompt ++ (List.range lines.length).flatMap (fun index => said lines world index ++ prompt),
        executeAll (commands lines) world) ∧
    ∀ front line : Bytes, (front = [] ∨ ∃ whole, front = whole ++ [10]) → 10 ∉ line →
      (quits line.words = true →
        ∀ rest, run (front ++ line ++ 10 :: rest) world = run (front ++ line) world) ∧
      (line ≠ [] → run (front ++ line ++ [10]) world = run (front ++ line) world) := by
  intro lines
  refine ⟨?_, ?_⟩
  · rw [run_eq_runLines, runLines_eq fun words isIn => quits_of_mem_heeded isIn]
  · intro front line ended single
    refine ⟨?_, ?_⟩
    · intro ends rest
      rw [run_eq_runLines, heeded_of_quits ended single ends, ← run_eq_runLines]
    · intro some
      have same : Bytes.lines (front ++ line ++ [10]) = Bytes.lines (front ++ line) := by
        rw [lines_append_line ended single, lines_append_last ended single some]
        rfl
      rw [run, same, run]

theorem session_eq_commands_up_to_quit :
    let named := Header.encode ⟨40, Command.answer, 0⟩ ++ Field.padded (ofText "g") 16 ++
      Field.padded (ofText "s") 15 ++ BigEndian.encode 7 ++ [0]
    let stored := Header.encode ⟨17, Command.answer, 0⟩ ++ Field.padded (ofText "g") 16 ++
      ofText "f"
    let dialer : Dialer := .script ⟨[], [.link named none true, .link stored none true]⟩
    let accessor : Accessor := .catalogue [(ofText "x", ⟨1, [], .ofContent [7]⟩)]
    let world : World := ⟨⟨[⟨ofText "t:1", 1, [], 0, false⟩], [], 1, accessor⟩, .ofDialer dialer,
      .blank, 0, 0, 0⟩
    let front := ofText "upload x\n \nhelp me\n"
    let line := ofText "quit now"
    let rest := ofText "upload x"
    quits line.words = true ∧
      run (front ++ line ++ 10 :: rest) world = run (front ++ line) world ∧
      (run (front ++ line) world).1 =
        prompt ++ ofText "g/f\n" ++ prompt ++ prompt ++ unknown ++ prompt ∧
      (run (front ++ line) world).2 =
        executeAll [[ofText "upload", ofText "x"], [ofText "help", ofText "me"]] world := by
  intro named stored dialer accessor world front line rest
  have ended : front = [] ∨ ∃ whole, front = whole ++ [10] :=
    .inr ⟨ofText "upload x\n \nhelp me", by decide +kernel⟩
  have ends : quits line.words = true := by decide +kernel
  obtain ⟨whole, parts⟩ := session_eq_commands (front ++ line) world
  have heard : heeded (front ++ line) =
      [[ofText "upload", ofText "x"], [], [ofText "help", ofText "me"]] := by decide +kernel
  refine ⟨ends, (parts front line ended (by decide +kernel)).1 ends rest, by decide +kernel, ?_⟩
  rw [whole, heard]
  rfl

end TrackedStorage.Shell
