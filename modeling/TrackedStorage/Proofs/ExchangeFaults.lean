import TrackedStorage.World

set_option autoImplicit false

namespace TrackedStorage

/-- Faults of the link, of the remote side's answer or of a local stream. -/
def Fault.isOfExchange : Fault → Bool
  | .transfer _ | .frame _ | .status _ => true
  | _ => false

namespace Action
variable {σ τ α β : Type}

/-- All faults that an action may end in are of one kind. -/
def FailsBy (kind : Fault → Bool) (action : Action σ α) : Prop :=
  ∀ state fault after, action state = .error fault after → kind fault = true

variable {kind : Fault → Bool}

theorem failsBy_pure (value : α) : FailsBy kind (pure value : Action σ α) := by
  intro state fault after failed
  cases failed

theorem failsBy_throw {fault : Fault} (isKind : kind fault = true) :
    FailsBy kind (throw fault : Action σ α) := by
  intro state other after failed
  cases failed
  exact isKind

theorem failsBy_ofExcept {result : Except Fault α}
    (isKind : ∀ fault, result = .error fault → kind fault = true) :
    FailsBy kind (ofExcept result : Action σ α) := by
  intro state fault after failed
  cases result with
  | ok value => cases failed
  | error reason =>
      cases failed
      exact isKind fault rfl

theorem failsBy_bind {first : Action σ α} {next : α → Action σ β} (earlier : FailsBy kind first)
    (later : ∀ value, FailsBy kind (next value)) : FailsBy kind (first >>= next) := by
  intro state fault after failed
  rcases bind_eq_error failed with early | ⟨value, middle, -, late⟩
  · exact earlier state fault after early
  · exact later value middle fault after late

theorem failsBy_on {get : σ → τ} {put : τ → σ → σ} {action : Action τ α}
    (inner : FailsBy kind action) : FailsBy kind (on get put action) := by
  intro state fault after failed
  obtain ⟨part, ran, -⟩ := on_eq_error failed
  exact inner (get state) fault part ran

theorem failsBy_ite {condition : Prop} [Decidable condition] {yes no : Action σ α}
    (whenTrue : FailsBy kind yes) (whenFalse : FailsBy kind no) :
    FailsBy kind (if condition then yes else no) := by
  split
  · exact whenTrue
  · exact whenFalse

end Action

namespace Link

theorem failsBy_write (data : Bytes) : Action.FailsBy Fault.isOfExchange (write data) := by
  intro link fault after failed
  unfold write at failed
  dsimp only at failed
  split at failed
  · split at failed
    · cases failed
    · cases failed
      rfl
  · cases failed
    rfl

theorem failsBy_read (count : Nat) : Action.FailsBy Fault.isOfExchange (read count) := by
  intro link fault after failed
  unfold read at failed
  dsimp only at failed
  split at failed
  · split at failed
    · cases failed
    · cases failed
      rfl
  · cases failed
    rfl

end Link

theorem Header.failsBy_receive : Action.FailsBy Fault.isOfExchange Header.receive := by
  apply Action.failsBy_bind (Link.failsBy_read _)
  intro bytes
  apply Action.failsBy_ofExcept
  intro fault refused
  unfold check at refused
  split at refused
  · cases refused
    rfl
  · split at refused
    · cases refused
      rfl
    · split at refused
      · cases refused
        rfl
      · cases refused

namespace Query

theorem failsBy_receive : Action.FailsBy Fault.isOfExchange receive := by
  apply Action.failsBy_bind Header.failsBy_receive
  intro header
  apply Action.failsBy_ite
  · apply Action.failsBy_bind (Link.failsBy_read _)
    intro body
    apply Action.failsBy_ofExcept
    intro fault refused
    unfold StorageNode.ofBody at refused
    dsimp only at refused
    split at refused
    · cases refused
      rfl
    · cases refused
  · exact Action.failsBy_throw rfl

theorem failsBy_ask (query : Query) : Action.FailsBy Fault.isOfExchange query.ask := by
  apply Action.failsBy_bind
  · apply Action.failsBy_bind (Link.failsBy_write _)
    intro _
    cases query.target with
    | none => exact Action.failsBy_pure ()
    | some id => exact Link.failsBy_write _
  · intro _
    exact failsBy_receive

end Query

theorem Source.failsBy_read (count : Nat) :
    Action.FailsBy Fault.isOfExchange (Source.read count) := by
  intro source fault after failed
  unfold Source.read at failed
  dsimp only at failed
  split at failed
  · cases failed
    rfl
  · split at failed
    · cases failed
    · cases failed
      rfl

namespace Upload

theorem failsBy_sendContent (remaining : Nat) :
    Action.FailsBy Fault.isOfExchange (sendContent remaining) := by
  induction remaining using sendContent.induct with
  | case1 =>
      rw [sendContent, if_pos rfl]
      exact Action.failsBy_pure ()
  | case2 remaining more count ih =>
      rw [sendContent, if_neg more]
      apply Action.failsBy_bind (Action.failsBy_on (Source.failsBy_read _))
      intro data
      apply Action.failsBy_bind (Action.failsBy_on (Link.failsBy_write data))
      intro _
      exact ih

theorem failsBy_receive : Action.FailsBy Fault.isOfExchange receive := by
  apply Action.failsBy_bind Header.failsBy_receive
  intro header
  apply Action.failsBy_ite
  · apply Action.failsBy_bind (Link.failsBy_read _)
    intro body
    apply Action.failsBy_ofExcept
    intro fault refused
    unfold idOfBody at refused
    dsimp only at refused
    split at refused
    · cases refused
      rfl
    · cases refused
  · exact Action.failsBy_throw rfl

theorem failsBy_run (upload : Upload) : Action.FailsBy Fault.isOfExchange upload.run := by
  apply Action.failsBy_bind
  · apply Action.failsBy_on
    apply Action.failsBy_bind (Link.failsBy_write _)
    intro _
    exact Link.failsBy_write _
  · intro _
    apply Action.failsBy_bind (failsBy_sendContent _)
    intro _
    exact Action.failsBy_on failsBy_receive

end Upload

theorem World.failsBy_sendFile (node : StorageNode) (file : StagedFile) :
    Action.FailsBy Fault.isOfExchange (sendFile node file) := by
  intro link fault after failed
  unfold sendFile at failed
  dsimp only at failed
  split at failed
  · cases failed
  · rename_i ran
    cases failed
    exact Upload.failsBy_run _ _ _ _ ran

theorem Sink.failsBy_write (data : Bytes) :
    Action.FailsBy Fault.isOfExchange (Sink.write data) := by
  intro sink fault after failed
  unfold Sink.write at failed
  split at failed
  · cases failed
  · dsimp only at failed
    split at failed
    · cases failed
    · cases failed
      rfl
  · split at failed
    · cases failed
    · cases failed
      rfl

namespace Download

theorem failsBy_request (download : Download) :
    Action.FailsBy Fault.isOfExchange download.request := by
  apply Action.failsBy_bind
  · apply Action.failsBy_bind (Link.failsBy_write _)
    intro _
    exact Link.failsBy_write _
  · intro _
    apply Action.failsBy_bind Header.failsBy_receive
    intro header
    apply Action.failsBy_ite
    · exact Action.failsBy_throw rfl
    · exact Action.failsBy_pure _

theorem failsBy_receiveBody (remaining : Nat) :
    Action.FailsBy Fault.isOfExchange (receiveBody remaining) := by
  induction remaining using receiveBody.induct with
  | case1 =>
      rw [receiveBody, if_pos rfl]
      exact Action.failsBy_pure ()
  | case2 remaining more count ih =>
      rw [receiveBody, if_neg more]
      apply Action.failsBy_bind (Action.failsBy_on (Link.failsBy_read _))
      intro data
      apply Action.failsBy_bind (Action.failsBy_on (Sink.failsBy_write data))
      intro _
      exact ih

theorem failsBy_toFile (download : Download) (path : Bytes) :
    Action.FailsBy Fault.isOfExchange (download.toFile path) := by
  rintro ⟨link, tree⟩ fault after failed
  unfold toFile at failed
  dsimp only at failed
  split at failed
  · rename_i ran
    cases failed
    exact failsBy_request download link _ _ ran
  · split at failed
    · cases failed
      rfl
    · split at failed
      · rename_i ran
        cases failed
        exact failsBy_receiveBody _ _ _ _ ran
      · split at failed
        · cases failed
        · cases failed
          rfl

end Download

end TrackedStorage
