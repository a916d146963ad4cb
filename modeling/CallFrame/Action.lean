import CallFrame.Error

/-!
# Actions that may fail

An action changes a state, returns a result and may fail on the way.  What it
did before it failed stays done: the state that a failure leaves behind is part
of its outcome.  That a failed action leaves no trace is therefore a law about
the action, and not a consequence of how failure is represented.

An action on a part of a state is carried over to the whole state by naming
the part and how it is put back, which happens after a failure as well.
-/

namespace CallFrame

/-- A change of a state that returns a result or fails. -/
abbrev Action (State Result : Type) : Type :=
  EStateM Error State Result

namespace Action

variable {State Part Result Final : Type}

/-- Fail with an error unless a condition holds. -/
def require
    (condition : Prop)
    [Decidable condition]
    (error : Error) :
    Action State Unit :=
  if condition then pure () else throw error

/-- Act on a part of a state and put the changed part back. -/
def onPart
    (part : State → Part)
    (replace : Part → State → State)
    (action : Action Part Result) :
    Action State Result :=
  fun state =>
    match action (part state) with
    | .ok result changed => .ok result (replace changed state)
    | .error error changed => .error error (replace changed state)

/-- The state that an action leaves behind, whether it fails or not. -/
def stateAfter (action : Action State Result) (state : State) : State :=
  match action state with
  | .ok _ changed => changed
  | .error _ changed => changed

/-- The error that an action fails with, if it fails. -/
def error? (action : Action State Result) (state : State) : Option Error :=
  match action state with
  | .ok _ _ => none
  | .error error _ => some error

/-- A failure of an action leaves the state as it was. -/
def Atomic (action : Action State Result) : Prop :=
  ∀ (state changed : State) (error : Error),
    action state = .error error changed → changed = state

/-- What follows an action that is done goes on from the state it left. -/
theorem bind_of_ok
    {action : Action State Result}
    {next : Result → Action State Final}
    {state changed : State}
    {result : Result}
    (done : action state = .ok result changed) :
    (action >>= next) state = next result changed := by
  show EStateM.bind action next state = next result changed
  rw [EStateM.bind, done]

/-- Nothing follows an action that has failed. -/
theorem bind_of_error
    {action : Action State Result}
    {next : Result → Action State Final}
    {state changed : State}
    {error : Error}
    (failed : action state = .error error changed) :
    (action >>= next) state = .error error changed := by
  show EStateM.bind action next state = .error error changed
  rw [EStateM.bind, failed]

theorem require_of
    {condition : Prop}
    [Decidable condition]
    (holds : condition)
    (error : Error)
    (state : State) :
    require condition error state = .ok () state := by
  simp only [require, if_pos holds]
  rfl

theorem require_of_not
    {condition : Prop}
    [Decidable condition]
    (fails : ¬ condition)
    (error : Error)
    (state : State) :
    require condition error state = .error error state := by
  simp only [require, if_neg fails]
  rfl

end Action

end CallFrame
