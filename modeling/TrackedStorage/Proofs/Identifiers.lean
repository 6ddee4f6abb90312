import TrackedStorage.Proofs.ClientShortage
import TrackedStorage.Proofs.Requests

set_option autoImplicit false

namespace TrackedStorage

namespace FileId

/-- What a storage node can assign: a group that fills no more than its field and has no NUL, and a
filename of at least one byte. -/
structure IsAssigned (id : FileId) : Prop where
  named : id.group ≠ []
  short : id.group.length ≤ groupWidth
  clean : 0 ∉ id.group
  filed : id.filename ≠ []

theorem IsAssigned.parse_toBytes_iff {id : FileId} (assigned : id.IsAssigned) :
    parse id.toBytes = .ok id ↔ slash ∉ id.group := by
  rw [parse_eq_ok_iff]
  refine ⟨fun read => read.2.unslashed, ?_⟩
  intro unslashed
  exact ⟨rfl, assigned.named, assigned.short, unslashed, assigned.filed⟩

theorem IsAssigned.group_eq {id : FileId} (assigned : id.IsAssigned) :
    Bytes.beforeNul (id.group.take groupWidth) = id.group := by
  rw [List.take_of_length_le assigned.short, Bytes.beforeNul_of_zero_not_mem assigned.clean]

end FileId

theorem Upload.isAssigned_of_receive {id : FileId} {link last : Link}
    (done : receive link = .ok id last) : id.IsAssigned := by
  obtain ⟨header, middle, -, later⟩ := Action.bind_eq_ok done
  dsimp only at later
  split at later
  · rename_i length
    obtain ⟨body, after, taken, named⟩ := Action.bind_eq_ok later
    have sized := (Link.read_moved taken).1
    unfold idOfBody at named
    dsimp only at named
    split at named
    · cases named
    · rename_i filled
      cases named
      refine ⟨filled, ?_, Bytes.zero_not_mem_beforeNul _, ?_⟩
      · have cut :=
          (List.takeWhile_prefix (p := (· != 0)) (l := body.take FileId.groupWidth)).length_le
        rw [List.length_take] at cut
        exact Nat.le_trans cut (Nat.min_le_left _ _)
      · have left : 0 < (body.drop FileId.groupWidth).length := by
          rw [List.length_drop, sized]
          omega
        exact List.ne_nil_of_length_pos left
  · cases later

theorem Upload.isAssigned_of_run {upload : Upload} {id : FileId} {before after : Link × Source}
    (done : upload.run before = .ok id after) : id.IsAssigned := by
  obtain ⟨⟨⟩, announced, -, later⟩ := Action.bind_eq_ok done
  obtain ⟨⟨⟩, sent, -, last⟩ := Action.bind_eq_ok later
  obtain ⟨link, received, -⟩ := Action.on_eq_ok last
  exact isAssigned_of_receive received

namespace World

theorem thenUnstage_eq_ok {α : Type} {action : Action World α} {value : α} {world after : World}
    (done : thenUnstage action world = .ok value after) :
    ∃ inner, action world = .ok value inner := by
  unfold thenUnstage at done
  split at done
  · rename_i ran
    cases done
    exact ⟨_, ran⟩
  · cases done

theorem onLease_eq_ok {α : Type} {ref : Client.PoolRef} {lease : Lease}
    {exchange : Action (Link × FileTree) α} {value : α} {world after : World}
    (done : onLease ref lease exchange world = .ok value after) :
    ∃ link files last, exchange (link, files) = .ok value last := by
  unfold onLease at done
  split at done
  · cases done
  · rename_i id held
    split at done
    · rename_i ran
      cases done
      obtain ⟨last, inner, -⟩ := Action.on_eq_ok ran
      exact ⟨_, _, last, inner⟩
    · cases done

theorem isAssigned_of_upload {path : Bytes} {id : FileId} {world after : World}
    (done : World.upload path world = .ok id after) : id.IsAssigned := by
  obtain ⟨file, staged, -, later⟩ := Action.bind_eq_ok done
  obtain ⟨inner, operated⟩ := thenUnstage_eq_ok later
  obtain ⟨node, asked, -, stored⟩ := Action.bind_eq_ok operated
  obtain ⟨ref, found, -, later⟩ := Action.bind_eq_ok stored
  obtain ⟨lease, lent, -, used⟩ := Action.bind_eq_ok later
  obtain ⟨link, files, last, ran⟩ := onLease_eq_ok used
  obtain ⟨sent, exchanged, -⟩ := Action.on_eq_ok ran
  unfold sendFile at exchanged
  dsimp only at exchanged
  split at exchanged
  · rename_i uploaded
    cases exchanged
    exact Upload.isAssigned_of_run uploaded
  · cases exchanged

/-- A download of an identifier asks a tracker, and then the node that it names, for what the
identifier reads as. -/
theorem download_of_parse {text path : Bytes} {id : FileId} (parsed : FileId.parse text = .ok id)
    (offset count : UInt64) :
    download text path offset count = (do
      let node ← query (.fetch id)
      let _ ← onStorage node (Download.toFile ⟨id, offset, count⟩ path)
      pure ()) := by
  rw [download, parsed]
  rfl

end World

end TrackedStorage
