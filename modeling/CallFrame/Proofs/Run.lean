import CallFrame.Proofs.PutEffect

/-!
# Runs of puts

A run goes on after a put that failed, from the frame that the failure left
behind.  Since a failure leaves the frame as it was, only the puts that succeed
make a difference: a run ends in the same frame as the run of the arguments it
accepted, and every one of those is accepted again.

What holds of every frame that a run can reach is therefore proved by looking
at one successful put at a time, which `run_induction` states once and for all.
-/

namespace CallFrame.Frame

/-! ## Outcomes of one put -/

/-- A put succeeds exactly with its planned effect. -/
theorem put_eq_ok_iff
    {frame next : Frame}
    {argument : Argument} :
    put argument frame = .ok () next ↔
      ∃ effect, frame.plan argument = .ok effect ∧
        effect.apply frame = next := by
  rw [put_follows argument frame, Action.settled_eq_ok_iff]
  dsimp only
  cases frame.plan argument with
  | ok effect => simp [Except.map]
  | error cause => simp [Except.map]

/-- A put that fails leaves no trace. -/
theorem put_atomic (argument : Argument) : Action.Atomic (put argument) :=
  (put_follows argument).atomic

/-- The error of a put is the planned one. -/
theorem error?_put (argument : Argument) (frame : Frame) :
    (put argument).error? frame =
      match frame.plan argument with
      | .ok _ => none
      | .error error => some error := by
  rw [Action.error?, put_follows argument frame]
  dsimp only
  cases frame.plan argument <;> rfl

theorem after_of_ok
    {frame next : Frame}
    {argument : Argument}
    (done : put argument frame = .ok () next) :
    frame.after argument = next := by
  rw [after, Action.stateAfter, done]

theorem after_of_error
    {frame failed : Frame}
    {argument : Argument}
    {error : Error}
    (failure : put argument frame = .error error failed) :
    frame.after argument = frame := by
  rw [after, Action.stateAfter, failure]
  exact put_atomic argument frame failed error failure

/-! ## The accepted arguments of a run -/

/-- The arguments of a run whose puts succeed, in order. -/
def accepted : Frame → List Argument → List Argument
  | _, [] => []
  | frame, argument :: rest =>
    match put argument frame with
    | .ok () next => argument :: accepted next rest
    | .error _ failed => accepted failed rest

theorem accepted_cons_of_ok
    {frame next : Frame}
    {argument : Argument}
    (done : put argument frame = .ok () next)
    (rest : List Argument) :
    frame.accepted (argument :: rest) = argument :: next.accepted rest := by
  rw [accepted, done]

theorem accepted_cons_of_error
    {frame failed : Frame}
    {argument : Argument}
    {error : Error}
    (failure : put argument frame = .error error failed)
    (rest : List Argument) :
    frame.accepted (argument :: rest) = frame.accepted rest := by
  rw [accepted, failure, put_atomic argument frame failed error failure]

theorem run_cons
    (frame : Frame)
    (argument : Argument)
    (rest : List Argument) :
    frame.run (argument :: rest) = (frame.after argument).run rest := rfl

theorem run_append
    (frame : Frame)
    (first second : List Argument) :
    frame.run (first ++ second) = (frame.run first).run second :=
  List.foldl_append

/-- A run ends where the run of its accepted arguments ends. -/
theorem run_accepted (frame : Frame) (arguments : List Argument) :
    frame.run (frame.accepted arguments) = frame.run arguments := by
  induction arguments generalizing frame with
  | nil => rfl
  | cons argument rest induction =>
      cases outcome : put argument frame with
      | ok result next =>
          rw [accepted_cons_of_ok outcome, run_cons, run_cons,
            after_of_ok outcome, induction]
      | error cause failed =>
          rw [accepted_cons_of_error outcome, run_cons,
            after_of_error outcome, induction]

/-- The arguments that a run accepts are all accepted without the others. -/
theorem accepted_accepted (frame : Frame) (arguments : List Argument) :
    frame.accepted (frame.accepted arguments) = frame.accepted arguments := by
  induction arguments generalizing frame with
  | nil => rfl
  | cons argument rest induction =>
      cases outcome : put argument frame with
      | ok result next =>
          rw [accepted_cons_of_ok outcome, accepted_cons_of_ok outcome,
            induction]
      | error cause failed =>
          rw [accepted_cons_of_error outcome, induction]

/-- The first accepted arguments are all accepted without the later ones. -/
theorem accepted_take
    (frame : Frame)
    (arguments : List Argument)
    (count : Nat) :
    frame.accepted ((frame.accepted arguments).take count) =
      (frame.accepted arguments).take count := by
  induction arguments generalizing frame count with
  | nil =>
      rw [accepted, List.take_nil]
      rfl
  | cons argument rest induction =>
      cases outcome : put argument frame with
      | ok result next =>
          rw [accepted_cons_of_ok outcome]
          cases count with
          | zero => rfl
          | succ count =>
              rw [List.take_succ_cons, accepted_cons_of_ok outcome, induction]
      | error cause failed =>
          rw [accepted_cons_of_error outcome, induction]

/--
What a successful put preserves holds after every run, where `Holds` speaks of
the arguments accepted so far and the frame that they have led to.
-/
theorem run_induction
    {Holds : List Argument → Frame → Prop}
    (step :
      ∀ {done : List Argument} {frame : Frame} {argument : Argument}
        {effect : Effect},
        Holds done frame →
        frame.plan argument = .ok effect →
        Holds (done ++ [argument]) (effect.apply frame))
    {done : List Argument}
    {frame : Frame}
    (start : Holds done frame)
    (arguments : List Argument) :
    Holds (done ++ frame.accepted arguments) (frame.run arguments) := by
  induction arguments generalizing done frame with
  | nil =>
      rw [accepted, List.append_nil]
      exact start
  | cons argument rest induction =>
      rw [run_cons]
      cases outcome : put argument frame with
      | ok result next =>
          obtain ⟨effect, planned, rfl⟩ := put_eq_ok_iff.mp outcome
          rw [accepted_cons_of_ok outcome, after_of_ok outcome,
            List.append_cons]
          exact induction (step start planned)
      | error cause failed =>
          rw [accepted_cons_of_error outcome, after_of_error outcome]
          exact induction start

/-- What a successful put preserves of a frame holds after every run. -/
theorem run_preserves
    {Holds : Frame → Prop}
    (step :
      ∀ {frame : Frame} {argument : Argument} {effect : Effect},
        Holds frame → frame.plan argument = .ok effect →
        Holds (effect.apply frame))
    {frame : Frame}
    (start : Holds frame)
    (arguments : List Argument) :
    Holds (frame.run arguments) :=
  @run_induction (fun _ => Holds) step [] frame start arguments

/-- The index counts the accepted arguments. -/
theorem index_run (frame : Frame) (arguments : List Argument) :
    (frame.run arguments).index =
      frame.index + (frame.accepted arguments).length := by
  let Counted (done : List Argument) (current : Frame) : Prop :=
    current.index = frame.index + done.length
  have step
      {done : List Argument}
      {current : Frame}
      {argument : Argument}
      {effect : Effect}
      (counted : Counted done current)
      (_ : current.plan argument = .ok effect) :
      Counted (done ++ [argument]) (effect.apply current) := by
    show current.index + 1 = frame.index + (done ++ [argument]).length
    rw [counted, List.length_append, List.length_singleton, Nat.add_assoc]
  exact @run_induction Counted step [] frame rfl arguments

/--
Each accepted argument has been put into the frame that the ones in front of it
led to, and the ones behind it have been put after that.
-/
theorem exists_plan_of_accepted
    {frame : Frame}
    {arguments : List Argument}
    {position : Nat}
    {argument : Argument}
    (supplied : (frame.accepted arguments)[position]? = some argument) :
    let before := frame.run ((frame.accepted arguments).take position)
    ∃ effect, before.plan argument = .ok effect ∧
      (effect.apply before).run
          ((frame.accepted arguments).drop (position + 1)) =
        frame.run arguments := by
  intro before
  induction arguments generalizing frame position with
  | nil => cases supplied
  | cons first rest induction =>
      cases outcome : put first frame with
      | ok result next =>
          have next_eq := after_of_ok outcome
          rw [accepted_cons_of_ok outcome] at supplied
          cases position with
          | zero =>
              obtain rfl := Option.some.inj supplied
              obtain ⟨effect, planned, rfl⟩ := put_eq_ok_iff.mp outcome
              refine ⟨effect, planned, ?_⟩
              rw [accepted_cons_of_ok outcome, run_cons, next_eq]
              exact run_accepted _ rest
          | succ position =>
              have later := induction supplied
              rw [← next_eq, ← run_cons] at later
              dsimp only [before]
              rw [accepted_cons_of_ok outcome, run_cons frame first rest]
              rw [← next_eq]
              exact later
      | error cause failed =>
          dsimp only [before]
          rw [accepted_cons_of_error outcome] at supplied ⊢
          rw [run_cons, after_of_error outcome]
          exact induction supplied

/-! ## Failures leave no trace -/

/--
A put that fails leaves the frame as it was, whatever the frame, its encoder
and the argument are: the packed bytes, the cursor, the index and the table of
payloads, and also whether there is a table.  Hence failing puts can be removed
from a run, and what remains is accepted from beginning to end.
-/
theorem failed_puts_leave_no_trace :
    (∀ (frame failed : Frame) (argument : Argument) (error : Error),
      put argument frame = .error error failed →
        failed.bytes = frame.bytes ∧ failed.offset = frame.offset ∧
          failed.index = frame.index ∧ failed.payloads = frame.payloads ∧
          failed = frame) ∧
      ∀ (frame : Frame) (arguments : List Argument),
        frame.run (frame.accepted arguments) = frame.run arguments ∧
          frame.accepted (frame.accepted arguments) =
            frame.accepted arguments := by
  constructor
  · intro frame failed argument error failure
    obtain rfl := put_atomic argument frame failed error failure
    exact ⟨rfl, rfl, rfl, rfl, rfl⟩
  · intro frame arguments
    exact ⟨run_accepted frame arguments, accepted_accepted frame arguments⟩

/-- A signature whose parameters are passed in different ways. -/
def mixedSignature : Signature where
  parameters :=
    [⟨.sint8, 1, 1⟩, ⟨.longDouble, 16, 16⟩, ⟨.struct, 6, 2⟩, ⟨.pointer, 8, 8⟩]
  flags := .empty
  platform := (Platform.ofFamily .i386 .darwin).withAddressWidth .w64

/-- The empty frame of the mixed signature on the stack of 32-bit x86. -/
def mixedFrame : Frame :=
  withEncoder mixedSignature (.select mixedSignature.platform true) .strict

/-- Arguments for the mixed signature, and among them text of no number. -/
def mixedArguments : List Argument :=
  [.primitive (.byte (-2)), .longDouble (.text "1.5x"),
    .longDouble (.text "1.5"), .struct [1, 2, 3, 4, 5, 6, 7, 8] 1,
    .array (.byte [7, 8, 9]) 0 3 .input]

theorem mixedFrame_keeps_no_trace :
    (∃ failed,
      put (.longDouble (.text "1.5x"))
          (mixedFrame.after (.primitive (.byte (-2)))) =
            .error (.notDecimal "1.5x") failed ∧
        failed = mixedFrame.after (.primitive (.byte (-2)))) ∧
      mixedFrame.run (mixedArguments.eraseIdx 1) =
        mixedFrame.run mixedArguments := by
  have failure :
      put (.longDouble (.text "1.5x"))
          (mixedFrame.after (.primitive (.byte (-2)))) =
        .error (.notDecimal "1.5x")
          (mixedFrame.after (.primitive (.byte (-2)))) := by rfl
  have removed :
      mixedFrame.accepted mixedArguments = mixedArguments.eraseIdx 1 := by rfl
  constructor
  · exact ⟨_, failure, (failed_puts_leave_no_trace.1 _ _ _ _ failure).2.2.2.2⟩
  · rw [← removed]
    exact (failed_puts_leave_no_trace.2 mixedFrame mixedArguments).1

end CallFrame.Frame
