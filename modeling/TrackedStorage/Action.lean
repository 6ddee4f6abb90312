import TrackedStorage.Fault

set_option autoImplicit false

namespace TrackedStorage

/-- A step on a state `σ` that ends in a value or in a fault, and in a new state either way. -/
abbrev Action (σ α : Type) := EStateM Fault σ α

namespace Action

/-- Ends with what `result` says, and leaves the state alone. -/
def ofExcept {σ α : Type} (result : Except Fault α) : Action σ α := fun state =>
  match result with
  | .ok value => .ok value state
  | .error fault => .error fault state

/-- Runs an action on a part of the state: `get` finds the part, `put` stores it back. -/
def on {σ τ α : Type} (get : σ → τ) (put : τ → σ → σ) (action : Action τ α) : Action σ α :=
  fun state =>
    match action (get state) with
    | .ok value part => .ok value (put part state)
    | .error fault part => .error fault (put part state)

def onFirst {σ τ α : Type} (action : Action σ α) : Action (σ × τ) α :=
  on Prod.fst (fun first state => (first, state.2)) action

def onSecond {σ τ α : Type} (action : Action τ α) : Action (σ × τ) α :=
  on Prod.snd (fun second state => (state.1, second)) action

def result {σ α : Type} : EStateM.Result Fault σ α → Except Fault α
  | .ok value _ => .ok value
  | .error fault _ => .error fault

def after {σ α : Type} : EStateM.Result Fault σ α → σ
  | .ok _ state => state
  | .error _ state => state

variable {σ τ α β : Type}

@[simp] theorem result_ofExcept (ended : Except Fault α) (state : σ) :
    result (ofExcept ended state) = ended := by
  cases ended <;> rfl

@[simp] theorem after_ofExcept (ended : Except Fault α) (state : σ) :
    after (ofExcept ended state) = state := by
  cases ended <;> rfl

theorem eq_ok_of_result {ended : EStateM.Result Fault σ α} {value : α}
    (done : result ended = .ok value) : ended = .ok value (after ended) := by
  cases ended with
  | ok other state =>
      cases done
      rfl
  | error fault state => cases done

theorem bind_of_ok {first : Action σ α} {state middle : σ} {value : α}
    (done : first state = .ok value middle) (next : α → Action σ β) :
    (first >>= next) state = next value middle := by
  simp only [bind, EStateM.bind, done]

theorem bind_of_error {first : Action σ α} {state middle : σ} {fault : Fault}
    (failed : first state = .error fault middle) (next : α → Action σ β) :
    (first >>= next) state = .error fault middle := by
  simp only [bind, EStateM.bind, failed]

/-- Both parts of a sequence that succeeds succeed. -/
theorem bind_eq_ok {first : Action σ α} {next : α → Action σ β} {state last : σ} {value : β}
    (done : (first >>= next) state = .ok value last) :
    ∃ inner middle, first state = .ok inner middle ∧ next inner middle = .ok value last := by
  cases ran : first state with
  | ok inner middle =>
      rw [bind_of_ok ran] at done
      exact ⟨inner, middle, rfl, done⟩
  | error fault middle =>
      rw [bind_of_error ran] at done
      cases done

theorem bind_eq_error {first : Action σ α} {next : α → Action σ β} {state last : σ}
    {fault : Fault} (failed : (first >>= next) state = .error fault last) :
    first state = .error fault last ∨
      ∃ inner middle, first state = .ok inner middle ∧ next inner middle = .error fault last := by
  cases ran : first state with
  | ok inner middle =>
      rw [bind_of_ok ran] at failed
      exact .inr ⟨inner, middle, rfl, failed⟩
  | error reason middle =>
      rw [bind_of_error ran] at failed
      cases failed
      exact .inl rfl

/-- What a sequence leaves is what its second part leaves, if it comes to that. -/
theorem after_bind (first : Action σ α) (next : α → Action σ β) (state : σ) :
    after ((first >>= next) state) =
      match first state with
      | .ok value middle => after (next value middle)
      | .error _ middle => middle := by
  cases ran : first state with
  | ok value middle => rw [bind_of_ok ran]
  | error fault middle => rw [bind_of_error ran, after]

/-- Reshaping the value at the end changes nothing in what is left. -/
theorem after_bind_pure (action : Action σ α) (shape : α → β) (state : σ) :
    after ((action >>= fun value => pure (shape value)) state) = after (action state) := by
  rw [after_bind]
  cases action state <;> rfl

theorem result_bind_pure (action : Action σ α) (shape : α → β) (state : σ) :
    result ((action >>= fun value => pure (shape value)) state) =
      (result (action state)).map shape := by
  cases ran : action state with
  | ok value last =>
      rw [bind_of_ok ran]
      rfl
  | error fault last =>
      rw [bind_of_error ran]
      rfl

theorem result_onFirst (action : Action σ α) (state : σ × τ) :
    result (onFirst action state) = result (action state.1) := by
  rw [onFirst, on]
  cases action state.1 <;> rfl

theorem after_onFirst (action : Action σ α) (first : σ) (second : τ) :
    (after (onFirst action (first, second))).1 = after (action first) := by
  simp only [onFirst, on]
  cases action first <;> rfl

theorem after_onFirst_snd (action : Action σ α) (state : σ × τ) :
    (after (onFirst action state)).2 = state.2 := by
  rw [onFirst, on]
  cases action state.1 <;> rfl

theorem onFirst_of_ok {action : Action σ α} {first last : σ} {value : α}
    (done : action first = .ok value last) (second : τ) :
    onFirst action (first, second) = .ok value (last, second) := by
  simp only [onFirst, on, done]

theorem onFirst_of_error {action : Action σ α} {first last : σ} {fault : Fault}
    (failed : action first = .error fault last) (second : τ) :
    onFirst action (first, second) = .error fault (last, second) := by
  simp only [onFirst, on, failed]

theorem on_eq_ok {get : σ → τ} {put : τ → σ → σ} {action : Action τ α} {state last : σ}
    {value : α} (done : on get put action state = .ok value last) :
    ∃ part, action (get state) = .ok value part ∧ last = put part state := by
  unfold on at done
  split at done
  · cases done
    exact ⟨_, by assumption, rfl⟩
  · cases done

theorem on_eq_error {get : σ → τ} {put : τ → σ → σ} {action : Action τ α} {state last : σ}
    {fault : Fault} (failed : on get put action state = .error fault last) :
    ∃ part, action (get state) = .error fault part ∧ last = put part state := by
  unfold on at failed
  split at failed
  · cases failed
  · cases failed
    exact ⟨_, by assumption, rfl⟩

end Action

end TrackedStorage
