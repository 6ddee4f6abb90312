import TrackedStorage.Proofs.Carrying

/-! Bytes that are moved in chunks: what of them comes through, and in how many rounds. Several
writes in a row do the same as one write of all their bytes, which is how a loop over chunks is
shown to do no more and no less than a single transfer. -/

set_option autoImplicit false

namespace TrackedStorage

/-- The sizes of the chunks in which `size` bytes are moved: full ones, then one for the rest. -/
def chunkSizes (size : Nat) : List Nat :=
  if size = 0 then [] else min chunkSize size :: chunkSizes (size - min chunkSize size)
termination_by size
decreasing_by
  simp only [chunkSize]
  omega

/-- What comes through of `bytes` when `size` of them are to be moved: all of that if they are
there, and else the chunks that they fill. -/
def Bytes.chunked (bytes : Bytes) (size : Nat) : Bytes :=
  if size ≤ bytes.length then bytes.take size
  else bytes.take (chunkSize * (bytes.length / chunkSize))

theorem length_chunkSizes (size : Nat) :
    (chunkSizes size).length = (size + (chunkSize - 1)) / chunkSize := by
  induction size using Nat.strongRecOn with
  | ind size ih =>
      rw [chunkSizes]
      by_cases none : size = 0
      · rw [if_pos none, none]
        rfl
      · have fewer : size - min chunkSize size < size := by
          simp only [chunkSize]
          omega
        rw [if_neg none, List.length_cons, ih _ fewer]
        simp only [chunkSize]
        omega

namespace Bytes

@[simp] theorem chunked_zero (bytes : Bytes) : bytes.chunked 0 = [] := by
  simp [chunked]

theorem chunked_of_le {bytes : Bytes} {size : Nat} (there : size ≤ bytes.length) :
    bytes.chunked size = bytes.take size := by
  rw [chunked, if_pos there]

theorem chunked_of_lt {bytes : Bytes} {size : Nat} (short : bytes.length < size) :
    bytes.chunked size = bytes.take (chunkSize * (bytes.length / chunkSize)) := by
  rw [chunked, if_neg (by omega)]

theorem length_chunked_le (bytes : Bytes) (size : Nat) : (bytes.chunked size).length ≤ size := by
  unfold chunked
  split
  · exact List.length_take_le _ _
  · rw [List.length_take]
    omega

/-- What is left of the bytes that come through when no more than `room` of them are kept. -/
theorem take_chunked_of_le {bytes : Bytes} {size : Nat} (there : size ≤ bytes.length)
    (room : Nat) : (bytes.chunked size).take room = bytes.take (min room size) := by
  rw [chunked_of_le there, List.take_take]

theorem take_chunked_of_lt {bytes : Bytes} {size : Nat} (short : bytes.length < size)
    (room : Nat) : (bytes.chunked size).take room =
      bytes.take (min room (chunkSize * (bytes.length / chunkSize))) := by
  rw [chunked_of_lt short, List.take_take]

/-- Nothing comes through before the first chunk is filled. -/
theorem chunked_of_unfilled {bytes : Bytes} {size : Nat}
    (short : bytes.length < min chunkSize size) : bytes.chunked size = [] := by
  have less : bytes.length < size := by omega
  have none : bytes.length / chunkSize = 0 := Nat.div_eq_of_lt (by omega)
  rw [chunked_of_lt less, none, Nat.mul_zero, List.take_zero]

/-- A chunk that is filled comes through, and then what the bytes behind it fill. -/
theorem chunked_of_filled {bytes : Bytes} {size : Nat}
    (filled : min chunkSize size ≤ bytes.length) :
    bytes.chunked size = bytes.take (min chunkSize size) ++
      chunked (bytes.drop (min chunkSize size)) (size - min chunkSize size) := by
  have behind : (bytes.drop (min chunkSize size)).length = bytes.length - min chunkSize size :=
    List.length_drop
  by_cases there : size ≤ bytes.length
  · have rest : size - min chunkSize size ≤ (bytes.drop (min chunkSize size)).length := by omega
    have all : min chunkSize size + (size - min chunkSize size) = size := by omega
    rw [chunked_of_le there, chunked_of_le rest, ← List.take_add, all]
  · -- Less than all is there, so a chunk that is filled is a full one.
    have full : min chunkSize size = chunkSize := by omega
    have rest : (bytes.drop (min chunkSize size)).length < size - min chunkSize size := by omega
    have chunks : chunkSize * (bytes.length / chunkSize) =
        chunkSize + chunkSize * ((bytes.length - chunkSize) / chunkSize) := by
      rw [full] at filled
      rw [Nat.div_eq_sub_div (by decide) filled, Nat.mul_add, Nat.mul_one, Nat.add_comm]
    rw [chunked_of_lt (by omega), chunked_of_lt rest, behind, full, ← List.take_add, chunks]

end Bytes

@[simp] theorem Medium.begin_begin (medium : Medium) : medium.begin.begin = medium.begin := by
  cases medium <;> rfl

namespace Link

theorem hasRoom_of_none {link : Link} (unlimited : link.room = none) (count : Nat) :
    link.HasRoom count := by
  intro room limited
  cases unlimited.symm.trans limited

theorem hasRoom_iff {link : Link} {room : Nat} (limited : link.room = some room) (count : Nat) :
    link.HasRoom count ↔ count ≤ room := by
  refine ⟨fun fits => fits room limited, ?_⟩
  intro fits other same
  cases limited.symm.trans same
  exact fits

theorem accepted_of_hasRoom {link : Link} {data : Bytes} (fits : link.HasRoom data.length) :
    link.accepted data = data := by
  unfold accepted
  split
  · rfl
  · exact List.take_of_length_le (fits _ (by assumption))

theorem exists_room_of_not_hasRoom {link : Link} {count : Nat} (full : ¬ link.HasRoom count) :
    ∃ room, link.room = some room ∧ room < count := by
  cases limit : link.room with
  | none => exact absurd (hasRoom_of_none limit count) full
  | some room =>
      rw [hasRoom_iff limit] at full
      exact ⟨room, rfl, by omega⟩

/-- The fault of an unfinished transfer depends on nothing that an earlier transfer changes. -/
theorem fall_fst_begin (link : Link) (unread taken written : Bytes) (room : Option Nat)
    (way : Direction) :
    (fall { link with
      unread := unread
      taken := taken
      written := written
      room := room
      medium := link.medium.begin } way).1 = (link.fall way).1 := by
  unfold fall Medium.begin
  cases link.medium with
  | memory => rfl
  | socket wire =>
      have same : Wire.stall { wire with transferDeadline := some (.ofTimeout wire.timeout) } way =
          wire.stall way := by
        cases way <;> rfl
      simp only [same]
      cases (wire.stall way).within (.ofTimeout wire.timeout) <;> rfl

theorem moved_fall (link : Link) (way : Direction) : Moved [] [] link (link.fall way).2 := by
  obtain ⟨written, taken, unread⟩ := link.crossed_fall way
  exact ⟨by rw [written, List.append_nil], by rw [taken, List.append_nil], unread.symm⟩

/-- The link once it took as much of `data` as it had room for, which was not all. -/
def filled (link : Link) (data : Bytes) : Link :=
  { link with
    written := link.written ++ link.accepted data
    room := some 0
    medium := link.medium.begin }

theorem write_of_full {link : Link} (opened : link.isOpen = true) {data : Bytes}
    (full : ¬ link.HasRoom data.length) :
    write data link =
      .error (.transfer (link.fall .write).1) ((link.filled data).fall .write).2 := by
  obtain ⟨room, limited, short⟩ := exists_room_of_not_hasRoom full
  have cut : (data.take room).length ≠ data.length := by
    rw [List.length_take]
    omega
  have used : room - data.length = 0 := by omega
  unfold write
  rw [if_pos opened]
  simp only [accepted, limited, cut, Option.map_some, used, fall_fst_begin, filled, ↓reduceIte]

/-- An open link passes on what it accepts, and fails unless that is all. -/
theorem exists_write_of_full {link : Link} (opened : link.isOpen = true) {data : Bytes}
    (full : ¬ link.HasRoom data.length) :
    ∃ last, write data link = .error (.transfer (link.fall .write).1) last ∧
      Moved (link.accepted data) [] link last := by
  have filled : Moved (link.accepted data) [] link (link.filled data) :=
    ⟨rfl, (List.append_nil _).symm, rfl⟩
  have moved := filled.trans (moved_fall _ .write)
  rw [List.append_nil, List.append_nil] at moved
  exact ⟨_, write_of_full opened full, moved⟩

/-- The link once all that was left was taken from it. -/
def drained (link : Link) : Link :=
  { link with taken := link.taken ++ link.unread, unread := [], medium := link.medium.begin }

/-- A read of more than is left takes all of it, and fails. -/
theorem read_of_drained {link : Link} (opened : link.isOpen = true) {count : Nat}
    (short : link.unread.length < count) :
    read count link = .error (.transfer (link.fall .read).1) (link.drained.fall .read).2 := by
  have all : link.unread.take count = link.unread := List.take_of_length_le (Nat.le_of_lt short)
  have nothing : link.unread.drop count = [] := List.drop_of_length_le (Nat.le_of_lt short)
  have fewer : link.unread.length ≠ count := Nat.ne_of_lt short
  unfold read
  rw [if_pos opened]
  simp only [all, nothing, if_neg fewer, fall_fst_begin, drained]

/-- What a link accepts of two writes: all of the first one, and then what it accepts of the
second. -/
theorem filled_append {link middle : Link} {front : Bytes} (done : write front link = .ok () middle)
    (back : Bytes) : link.filled (front ++ back) = middle.filled back := by
  obtain ⟨-, fits, rfl⟩ := write_eq_ok done
  have both : link.accepted (front ++ back) = front ++ accepted { link with
      written := link.written ++ front
      room := link.room.map (· - front.length)
      medium := link.medium.begin } back := by
    cases limit : link.room with
    | none => simp only [accepted, limit, Option.map_none]
    | some room =>
        simp only [accepted, limit, Option.map_some]
        rw [List.take_append, List.take_of_length_le (fits room limit)]
  simp only [filled, both, List.append_assoc, Medium.begin_begin]

/-- Two writes in a row do what one write of their bytes does. -/
theorem write_append (front back : Bytes) :
    write (front ++ back) = (write front >>= fun _ => write back) := by
  funext link
  by_cases opened : link.isOpen = true
  · by_cases fits : link.HasRoom front.length
    · obtain ⟨middle, first⟩ : ∃ middle, write front link = .ok () middle :=
        ⟨_, write_of_hasRoom opened fits⟩
      have same := (write_eq_ok first).2.2
      have still : middle.isOpen = true := by rw [same, opened]
      have room : link.HasRoom (front ++ back).length ↔ middle.HasRoom back.length := by
        rw [List.length_append]
        exact hasRoom_add first back.length
      rw [Action.bind_of_ok first]
      by_cases all : link.HasRoom (front ++ back).length
      · rw [write_of_hasRoom opened all, write_of_hasRoom still (room.mp all), same]
        simp only [List.append_assoc, List.length_append, Option.map_map, Medium.begin_begin,
          Function.comp_def, Nat.sub_sub]
      · have reason : (middle.fall .write).1 = (link.fall .write).1 := by
          rw [same, fall_fst_begin]
        rw [write_of_full opened all, write_of_full still (fun more => all (room.mpr more)),
          filled_append first, reason]
    · have cut : link.accepted (front ++ back) = link.accepted front := by
        obtain ⟨room, limited, short⟩ := exists_room_of_not_hasRoom fits
        simp only [accepted, limited]
        exact List.take_append_of_le_length (by omega)
      have all : ¬ link.HasRoom (front ++ back).length := by
        intro enough
        apply fits
        intro room limited
        have both := enough room limited
        rw [List.length_append] at both
        omega
      rw [Action.bind_of_error (write_of_full opened fits), write_of_full opened all]
      simp only [filled, cut]
  · have closed : link.isOpen = false := by simpa using opened
    rw [Action.bind_of_error (write_of_closed closed front), write_of_closed closed]

/-- What of some bytes gets through a link: over an open one, all that there is room for. -/
def passed (link : Link) (data : Bytes) : Bytes := if link.isOpen then link.accepted data else []

theorem written_write (data : Bytes) (link : Link) :
    (Action.after (write data link)).written = link.written ++ link.passed data := by
  unfold write passed
  split
  · dsimp only
    split
    · rfl
    · exact (crossed_fall _ .write).1
  · exact (List.append_nil _).symm

end Link

/-- What is done after a step that writes nothing more leaves what that step wrote. -/
theorem Action.written_bind {α β : Type} {first : Action Link α} {next : α → Action Link β}
    (later : ∀ value, Keeps Link.written (next value)) (link : Link) :
    (after ((first >>= next) link)).written = (after (first link)).written := by
  rw [after_bind]
  cases first link with
  | ok value middle => exact later value middle
  | error fault middle => rfl

namespace Query

def request (query : Query) : Bytes :=
  Header.encode ⟨query.length, query.command, 0⟩ ++ query.body

theorem send_eq_write (query : Query) : query.send = Link.write query.request := by
  rw [request, send, body]
  cases query.target with
  | none =>
      rw [List.append_nil]
      exact bind_pure_unit
  | some id =>
      rw [Link.write_append]
      rfl

/-- All that a query writes is its request. -/
theorem written_ask (query : Query) (link : Link) :
    (Action.after (query.ask link)).written = link.written ++ link.passed query.request := by
  rw [ask, Action.written_bind fun _ => keeps_written_receive, send_eq_write, Link.written_write]

end Query

end TrackedStorage
