import TrackedStorage.Proofs.WrittenNames
import TrackedStorage.Field

set_option autoImplicit false

namespace TrackedStorage.Field

def kind : Field → Kind
  | number _ => .number
  | text _ width => .text width

/-- What arrives of a value: all of a number, and of a text what its field holds, up to the first
NUL. -/
def arrival : Field → Value
  | number value => .number value
  | text value width => .text (Bytes.beforeNul (value.take width))

/-- A value that was received, to be sent in the kind of field that it came in. -/
def Value.resent (kind : Kind) : Value → Field
  | number value => .number value
  | text value => .text value kind.width

def totalWidth : List Kind → Nat
  | [] => 0
  | kind :: kinds => kind.width + totalWidth kinds

/-- What is received is sent again, each value in the kind of field that it came in. -/
def forward (kinds : List Kind) (bytes : Bytes) : Bytes :=
  encodeAll (List.zipWith (fun kind value => value.resent kind) kinds (parseAll kinds bytes))

/-- After the first NUL there are only NULs. -/
def IsFilledUp (bytes : Bytes) : Prop :=
  ∀ front after, bytes = front ++ 0 :: after → 0 ∉ front → ∀ byte ∈ after, byte = 0

@[simp] theorem totalWidth_nil : totalWidth [] = 0 := rfl

@[simp] theorem totalWidth_cons (kind : Kind) (kinds : List Kind) :
    totalWidth (kind :: kinds) = kind.width + totalWidth kinds := rfl

@[simp] theorem length_encode (field : Field) : field.encode.length = field.kind.width := by
  cases field with
  | number value => exact BigEndian.length_encode value
  | text value width => exact length_padded value width

theorem encodeAll_cons (field : Field) (fields : List Field) :
    encodeAll (field :: fields) = field.encode ++ encodeAll fields := rfl

theorem length_encodeAll (fields : List Field) :
    (encodeAll fields).length = totalWidth (fields.map kind) := by
  induction fields with
  | nil => rfl
  | cons field fields ih =>
      rw [encodeAll_cons, List.length_append, length_encode, ih, List.map_cons, totalWidth_cons]

/-- Each field lies behind the widths of those before it, and its bytes are its own. -/
theorem take_drop_encodeAll (front : List Field) (field : Field) (back : List Field) :
    ((encodeAll (front ++ field :: back)).drop (totalWidth (front.map kind))).take
      field.kind.width = field.encode := by
  have parts : encodeAll (front ++ field :: back) =
      encodeAll front ++ (field.encode ++ encodeAll back) := List.flatMap_append
  rw [parts, List.drop_left' (length_encodeAll front), List.take_left' (length_encode field)]

theorem parse_encode_append (field : Field) (rest : Bytes) :
    field.kind.parse (field.encode ++ rest) = field.arrival := by
  cases field with
  | number value => exact congrArg Value.number (BigEndian.decode_encode_append value rest)
  | text value width => exact congrArg Value.text (unpadded_padded_append value width rest)

theorem parseAll_encodeAll (fields : List Field) :
    parseAll (fields.map kind) (encodeAll fields) = fields.map arrival := by
  induction fields with
  | nil => rfl
  | cons field fields ih =>
      rw [encodeAll_cons, List.map_cons, parseAll, parse_encode_append,
        List.drop_left' (length_encode field), ih, List.map_cons]

/-- A text fills its field up with NULs, so that its bytes come back exactly if there is nothing
else behind it. -/
theorem padded_beforeNul_eq_iff (bytes : Bytes) :
    padded (Bytes.beforeNul bytes) bytes.length = bytes ↔ IsFilledUp bytes := by
  by_cases nul : 0 ∈ bytes
  · obtain ⟨front, after, rfl, clean⟩ := Bytes.exists_first_of_mem nul
    have before : Bytes.beforeNul (front ++ 0 :: after) = front := by
      have stop : ∀ byte ∈ (0 :: after).head?, (byte != 0) = false := by simp
      refine Bytes.takeWhile_append_of_stop ?_ stop
      intro byte isIn
      exact bne_iff_ne.mpr fun zero => clean (zero ▸ isIn)
    have filled : padded front (front ++ 0 :: after).length =
        front ++ 0 :: List.replicate after.length 0 := by
      have short : front.length ≤ (front ++ 0 :: after).length := by simp
      have left : (front ++ 0 :: after).length - front.length = after.length + 1 := by simp
      rw [padded, List.take_of_length_le short, left, List.replicate_succ]
    rw [before, filled, List.append_cancel_left_eq, List.cons.injEq, eq_comm (b := after),
      List.eq_replicate_iff]
    constructor
    · rintro ⟨-, -, zeros⟩ other more parts first
      have split := Bytes.splitFirst_append clean after
      rw [parts, Bytes.splitFirst_append first] at split
      cases split
      exact zeros
    · intro filledUp
      exact ⟨rfl, rfl, filledUp front after rfl clean⟩
  · have short : bytes.length ≤ bytes.length := Nat.le_refl _
    rw [Bytes.beforeNul_of_zero_not_mem nul, padded, List.take_of_length_le short, Nat.sub_self,
      List.replicate_zero, List.append_nil]
    refine iff_of_true rfl ?_
    rintro front after rfl
    exact absurd (List.mem_append_right front List.mem_cons_self) nul

/-- Whether the bytes of a field are what its value is sent as. -/
def Kind.IsFaithful (bytes : Bytes) : Kind → Prop
  | number => True
  | text _ => IsFilledUp bytes

theorem encode_resent_parse_iff (kind : Kind) {bytes : Bytes} (enough : kind.width ≤ bytes.length) :
    ((kind.parse bytes).resent kind).encode = bytes.take kind.width ↔
      kind.IsFaithful (bytes.take kind.width) := by
  have sized := List.length_take_of_le enough
  cases kind with
  | number =>
      have same := BigEndian.encode_decode_append sized (bytes.drop BigEndian.width)
      have whole : bytes.take Kind.number.width ++ bytes.drop BigEndian.width = bytes :=
        List.take_append_drop BigEndian.width bytes
      rw [whole] at same
      exact iff_of_true same trivial
  | text width =>
      have same := padded_beforeNul_eq_iff (bytes.take width)
      rw [show (bytes.take width).length = width from sized] at same
      exact same

theorem kind_resent_parse (kind : Kind) (bytes : Bytes) :
    ((kind.parse bytes).resent kind).kind = kind := by
  cases kind <;> rfl

/-- What holds of every member of a list and of those before it holds of the first one, and of every
later one and of those before it. -/
theorem forall_split_cons {α : Type} {first : α} {rest : List α} {good : List α → α → Prop} :
    (∀ front member back, first :: rest = front ++ member :: back → good front member) ↔
      good [] first ∧
        ∀ front member back, rest = front ++ member :: back → good (first :: front) member := by
  constructor
  · intro all
    refine ⟨all [] first rest rfl, ?_⟩
    rintro front member back rfl
    exact all (first :: front) member back rfl
  · rintro ⟨head, tail⟩ front member back parts
    cases front with
    | nil =>
        cases parts
        exact head
    | cons other front =>
        cases parts
        exact tail front member back rfl

/-- Field by field, a buffer comes back exactly if each of its fields does. -/
theorem forward_eq_iff (kinds : List Kind) {bytes : Bytes}
    (sized : bytes.length = totalWidth kinds) :
    forward kinds bytes = bytes ↔ ∀ front kind back, kinds = front ++ kind :: back →
      kind.IsFaithful ((bytes.drop (totalWidth front)).take kind.width) := by
  induction kinds generalizing bytes with
  | nil =>
      rw [totalWidth_nil, List.length_eq_zero_iff] at sized
      subst sized
      refine iff_of_true rfl ?_
      intro front kind back parts
      cases front <;> cases parts
  | cons first kinds ih =>
      rw [totalWidth_cons] at sized
      have enough : first.width ≤ bytes.length := by omega
      have left : (bytes.drop first.width).length = totalWidth kinds := by
        rw [List.length_drop, sized, Nat.add_sub_cancel_left]
      have front : ((first.parse bytes).resent first).encode.length =
          (bytes.take first.width).length := by
        rw [length_encode, kind_resent_parse, List.length_take_of_le enough]
      have step : forward (first :: kinds) bytes =
          ((first.parse bytes).resent first).encode ++ forward kinds (bytes.drop first.width) := rfl
      have halves : forward (first :: kinds) bytes = bytes ↔
          ((first.parse bytes).resent first).encode = bytes.take first.width ∧
            forward kinds (bytes.drop first.width) = bytes.drop first.width := by
        -- Only the buffer that is compared with is cut in two, not the one that is parsed.
        conv => lhs; rhs; rw [← List.take_append_drop first.width bytes]
        rw [step]
        refine ⟨fun same => List.append_inj same front, ?_⟩
        rintro ⟨head, tail⟩
        rw [head, tail]
      rw [halves, encode_resent_parse_iff first enough, ih left, forall_split_cons]
      simp only [totalWidth_nil, totalWidth_cons, List.drop_zero, List.drop_drop]

/-- Fields fill a buffer without a gap: each one lies behind the widths of those before it, in bytes
that no other field has a part in, and all of them are read back, texts as far as their fields hold
them and up to their first NUL. A buffer of the right length comes back from what is read from it
exactly if, in every field of text, only NULs follow the first NUL. -/
theorem fields_read_back :
    (∀ fields : List Field,
      (encodeAll fields).length = totalWidth (fields.map kind) ∧
      (∀ front field back, fields = front ++ field :: back →
        ((encodeAll fields).drop (totalWidth (front.map kind))).take field.kind.width =
          field.encode) ∧
      parseAll (fields.map kind) (encodeAll fields) = fields.map arrival) ∧
    ∀ (kinds : List Kind) (bytes : Bytes), bytes.length = totalWidth kinds →
      (forward kinds bytes = bytes ↔ ∀ front width back, kinds = front ++ .text width :: back →
        IsFilledUp ((bytes.drop (totalWidth front)).take width)) := by
  refine ⟨?_, ?_⟩
  · intro fields
    refine ⟨length_encodeAll fields, ?_, parseAll_encodeAll fields⟩
    rintro front field back rfl
    exact take_drop_encodeAll front field back
  · intro kinds bytes sized
    rw [forward_eq_iff kinds sized]
    constructor
    · intro faithful front width back parts
      exact faithful front (.text width) back parts
    · intro filled front kind back parts
      cases kind with
      | number => trivial
      | text width => exact filled front width back parts

/-- A text with a NUL in it, one that is cut, a field of no bytes and a number; and a buffer with
something behind a NUL, which does not come back. -/
theorem fields_read_back_around_nuls :
    let fields : List Field :=
      [.text [97, 0, 98] 4, .number 23000, .text [99] 0, .text [100, 101, 102] 2]
    let kinds : List Kind := [.text 4, .number, .text 0, .text 2]
    parseAll kinds (encodeAll fields) =
        [.text [97], .number 23000, .text [], .text [100, 101]] ∧
      ((encodeAll fields).drop 12).take 2 = [100, 101] ∧
      forward kinds (encodeAll fields) ≠ encodeAll fields ∧
      forward [.text 3] [97, 0, 0] = [97, 0, 0] := by
  intro fields kinds
  obtain ⟨sent, received⟩ := fields_read_back
  obtain ⟨sized, placed, read⟩ := sent fields
  refine ⟨?_, ?_, ?_, ?_⟩
  · exact read
  · exact placed [.text [97, 0, 98] 4, .number 23000, .text [99] 0] (.text [100, 101, 102] 2) [] rfl
  · intro same
    have filled := (received kinds (encodeAll fields) sized).mp same [] 4 _ rfl
    exact absurd (filled [97] [98, 0] (by decide +kernel) (by decide) 98 (by decide)) (by decide)
  · refine (received [.text 3] [97, 0, 0] rfl).mpr ?_
    intro front width back parts
    have alone : front = [] ∧ width = 3 := by
      cases front with
      | nil =>
          cases parts
          exact ⟨rfl, rfl⟩
      | cons other front => simp at parts
    rw [alone.1, alone.2]
    exact (padded_beforeNul_eq_iff [97, 0, 0]).mp (by decide)

end TrackedStorage.Field
