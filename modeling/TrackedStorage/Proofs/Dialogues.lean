import TrackedStorage.Proofs.Carrying

/-! Dialogues: whatever is done over a link by reads and writes alone. What holds of every dialogue
is proved by induction on how it is put together, and every exchange is one. -/

set_option autoImplicit false

namespace TrackedStorage

namespace Action
variable {σ τ α β : Type}

/-- An action that touches its link by reads and writes alone. -/
inductive IsDialogue : {α : Type} → Action Link α → Prop
  | done {α : Type} (value : α) : IsDialogue (pure value)
  | given {α : Type} (fault : Fault) : IsDialogue (throw fault : Action Link α)
  | sent (data : Bytes) : IsDialogue (Link.write data)
  | taken (count : Nat) : IsDialogue (Link.read count)
  | next {α β : Type} {first : Action Link α} {next : α → Action Link β}
      (earlier : IsDialogue first) (later : ∀ value, IsDialogue (next value)) :
      IsDialogue (first >>= next)

theorem isDialogue_ofExcept (result : Except Fault α) :
    IsDialogue (ofExcept result : Action Link α) := by
  cases result with
  | ok value => exact .done value
  | error fault => exact .given fault

theorem isDialogue_ite {condition : Prop} [Decidable condition] {yes no : Action Link α}
    (whenTrue : IsDialogue yes) (whenFalse : IsDialogue no) :
    IsDialogue (if condition then yes else no) := by
  split
  · exact whenTrue
  · exact whenFalse

theorem isDialogue_owning_onFirst (part : τ) {action : Action Link α} (inner : IsDialogue action) :
    IsDialogue (owning part (onFirst action)) := by
  rw [owning_onFirst]
  exact .next inner fun _ => .done _

theorem isDialogue_owning_onSecond (part : τ) (action : Action τ α) :
    IsDialogue (owning part (onSecond action : Action (Link × τ) α)) := by
  cases ran : action part with
  | ok value left =>
      rw [owning_onSecond_of_ok ran]
      exact .done _
  | error fault left =>
      rw [owning_onSecond_of_error ran]
      exact .given fault

/-- A dialogue that succeeds leaves its link as open as it was. -/
theorem IsDialogue.isOpen_eq {action : Action Link α} (dialogue : IsDialogue action)
    {link last : Link} {value : α} (done : action link = .ok value last) :
    last.isOpen = link.isOpen := by
  induction dialogue generalizing link last with
  | done value =>
      cases done
      rfl
  | given fault => cases done
  | sent data =>
      obtain ⟨-, -, rfl⟩ := Link.write_eq_ok done
      rfl
  | taken count =>
      unfold Link.read at done
      dsimp only at done
      split at done
      · split at done
        · cases done
          rfl
        · cases done
      · cases done
  | next _ _ earlier later =>
      obtain ⟨inner, middle, ran, ended⟩ := bind_eq_ok done
      exact (later inner ended).trans (earlier ran)

/-- A dialogue that starts with a write succeeds over an open link only. -/
theorem IsDialogue.isOpen_of_opening {action : Action Link α} (dialogue : IsDialogue action)
    (opening : ∀ link : Link, link.isOpen = false → ∃ fault last, action link = .error fault last)
    {link last : Link} {value : α} (done : action link = .ok value last) : last.isOpen = true := by
  cases opened : link.isOpen with
  | true => exact (dialogue.isOpen_eq done).trans opened
  | false =>
      obtain ⟨fault, other, failed⟩ := opening link opened
      cases done.symm.trans failed

end Action

open TrackedStorage.Action (IsDialogue isDialogue_ofExcept isDialogue_ite
  isDialogue_owning_onFirst isDialogue_owning_onSecond)

theorem Header.isDialogue_receive : IsDialogue receive :=
  .next (.taken width) fun _ => isDialogue_ofExcept _

theorem Query.isDialogue_ask (query : Query) : IsDialogue query.ask := by
  apply IsDialogue.next
  · apply IsDialogue.next (.sent _)
    intro _
    cases query.target with
    | none => exact .done ()
    | some id => exact .sent _
  · intro _
    apply IsDialogue.next Header.isDialogue_receive
    intro header
    apply isDialogue_ite
    · exact .next (.taken _) fun _ => isDialogue_ofExcept _
    · exact .given _

namespace Upload

theorem isDialogue_sendContent (remaining : Nat) (source : Source) :
    IsDialogue (Action.owning source (sendContent remaining)) := by
  induction remaining using sendContent.induct generalizing source with
  | case1 =>
      rw [sendContent, if_pos rfl, Action.owning_pure]
      exact .done _
  | case2 remaining more count ih =>
      rw [sendContent, if_neg more, Action.owning_bind]
      apply IsDialogue.next (isDialogue_owning_onSecond _ _)
      intro loaded
      rw [Action.owning_bind]
      apply IsDialogue.next (isDialogue_owning_onFirst _ (.sent _))
      intro stored
      exact ih stored.2

theorem isDialogue_receive : IsDialogue receive := by
  apply IsDialogue.next Header.isDialogue_receive
  intro header
  apply isDialogue_ite
  · exact .next (.taken _) fun _ => isDialogue_ofExcept _
  · exact .given _

theorem isDialogue_run (upload : Upload) (source : Source) :
    IsDialogue (Action.owning source upload.run) := by
  rw [run, Action.owning_bind]
  apply IsDialogue.next
  · exact isDialogue_owning_onFirst _ (.next (.sent _) fun _ => .sent _)
  · intro announced
    rw [Action.owning_bind]
    apply IsDialogue.next (isDialogue_sendContent _ _)
    intro sent
    exact isDialogue_owning_onFirst _ isDialogue_receive

end Upload

namespace Download

theorem isDialogue_request (download : Download) : IsDialogue download.request := by
  apply IsDialogue.next
  · exact .next (.sent _) fun _ => .sent _
  · intro _
    apply IsDialogue.next Header.isDialogue_receive
    intro header
    exact isDialogue_ite (.given _) (.done _)

theorem isDialogue_receiveBody (remaining : Nat) (sink : Sink) :
    IsDialogue (Action.owning sink (receiveBody remaining)) := by
  induction remaining using receiveBody.induct generalizing sink with
  | case1 =>
      rw [receiveBody, if_pos rfl, Action.owning_pure]
      exact .done _
  | case2 remaining more count ih =>
      rw [receiveBody, if_neg more, Action.owning_bind]
      apply IsDialogue.next (isDialogue_owning_onFirst _ (.taken _))
      intro taken
      rw [Action.owning_bind]
      apply IsDialogue.next (isDialogue_owning_onSecond _ _)
      intro stored
      exact ih stored.2

theorem isDialogue_toStream (download : Download) (sink : Sink) :
    IsDialogue (Action.owning sink download.toStream) := by
  rw [toStream, Action.owning_bind]
  apply IsDialogue.next (isDialogue_owning_onFirst _ download.isDialogue_request)
  intro accepted
  rw [Action.owning_bind]
  apply IsDialogue.next (isDialogue_receiveBody _ _)
  intro received
  exact .done _

end Download

end TrackedStorage
