import CallFrame.Action

/-!
# Actions that are settled in advance

Many actions can be told in one go: from the state that an action starts in it
follows either which state it ends in or which error it fails with, and then
the state stays.  Such a telling is a verdict, and the action settles it.

An action that settles some verdict leaves no trace of a failure.  The laws of
this module carry a verdict through the steps that actions are made of, so that
a longer action is told by telling its steps in order.
-/

namespace CallFrame.Action

variable {State Part Result Final : Type}

/-- The outcome of an action for which a verdict on its state is known. -/
def settled
    (verdict : Except Error State)
    (state : State) :
    EStateM.Result Error State Unit :=
  match verdict with
  | .ok changed => .ok () changed
  | .error error => .error error state

/-- An action ends in the state of the verdict, or fails and changes nothing. -/
def Settles
    (action : Action State Unit)
    (verdict : State → Except Error State) :
    Prop :=
  ∀ state, action state = settled (verdict state) state

theorem settled_eq_ok_iff
    {verdict : Except Error State}
    {state changed : State} :
    settled verdict state = .ok () changed ↔ verdict = .ok changed := by
  constructor
  · intro outcome
    cases verdict with
    | ok result =>
        cases outcome
        rfl
    | error cause => cases outcome
  · intro equal
    rw [equal]
    rfl

theorem settled_eq_error_iff
    {verdict : Except Error State}
    {state changed : State}
    {error : Error} :
    settled verdict state = .error error changed ↔
      verdict = .error error ∧ changed = state := by
  constructor
  · intro outcome
    cases verdict with
    | ok result => cases outcome
    | error cause =>
        cases outcome
        exact ⟨rfl, rfl⟩
  · rintro ⟨equal, rfl⟩
    rw [equal]
    rfl

/-- An action with a verdict leaves no trace of a failure. -/
theorem Settles.atomic
    {action : Action State Unit}
    {verdict : State → Except Error State}
    (settles : Settles action verdict) :
    Atomic action := by
  intro state changed error failure
  rw [settles state] at failure
  exact (settled_eq_error_iff.mp failure).2

/-! ## Steps of an action -/

theorem get_bind
    (next : State → Action State Final)
    (state : State) :
    ((get : Action State State) >>= next) state = next state state := rfl

theorem require_bind
    (condition : Prop)
    [Decidable condition]
    (error : Error)
    (next : Unit → Action State Final)
    (state : State) :
    (require condition error >>= next) state =
      if condition then next () state else .error error state := by
  by_cases holds : condition
  · rw [bind_of_ok (require_of holds error state), if_pos holds]
  · rw [bind_of_error (require_of_not holds error state), if_neg holds]

theorem ofExcept_bind
    (outcome : Except Error Result)
    (next : Result → Action State Final)
    (state : State) :
    ((MonadExcept.ofExcept outcome : Action State Result) >>= next) state =
      match outcome with
      | .ok result => next result state
      | .error error => .error error state := by
  cases outcome <;> rfl

theorem onPart_of_ok
    {part : State → Part}
    {replace : Part → State → State}
    {action : Action Part Result}
    {state : State}
    {changed : Part}
    {result : Result}
    (done : action (part state) = .ok result changed) :
    onPart part replace action state = .ok result (replace changed state) := by
  rw [onPart, done]

theorem onPart_of_error
    {part : State → Part}
    {replace : Part → State → State}
    {action : Action Part Result}
    {state : State}
    {changed : Part}
    {error : Error}
    (failed : action (part state) = .error error changed) :
    onPart part replace action state =
      .error error (replace changed state) := by
  rw [onPart, failed]

/-- What follows a settled action goes on from the state of the verdict. -/
theorem Settles.bind
    {action : Action State Unit}
    {verdict : State → Except Error State}
    (settles : Settles action verdict)
    (next : Unit → Action State Final)
    (state : State) :
    (action >>= next) state =
      match verdict state with
      | .ok changed => next () changed
      | .error error => .error error state := by
  have outcome := settles state
  cases known : verdict state with
  | ok changed =>
      rw [known] at outcome
      exact bind_of_ok outcome
  | error cause =>
      rw [known] at outcome
      exact bind_of_error outcome

/-- A verdict on a part is a verdict on the whole. -/
theorem Settles.onPart
    {part : State → Part}
    {replace : Part → State → State}
    {action : Action Part Unit}
    {verdict : Part → Except Error Part}
    (settles : Settles action verdict)
    (putBack : ∀ state, replace (part state) state = state) :
    Settles (onPart part replace action) fun state =>
      (verdict (part state)).map (replace · state) := by
  intro state
  dsimp only
  have outcome := settles (part state)
  cases known : verdict (part state) with
  | ok changed =>
      rw [known] at outcome
      exact onPart_of_ok outcome
  | error cause =>
      rw [known] at outcome
      have failed :
          Action.onPart part replace action state =
            .error cause (replace (part state) state) :=
        onPart_of_error outcome
      rw [putBack] at failed
      exact failed

end CallFrame.Action
