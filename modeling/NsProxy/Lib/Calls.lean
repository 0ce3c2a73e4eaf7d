import Mathlib.Logic.Relation

/-!
# Programs that call a system

A program makes calls, one after the other, and goes on with what each call returns. The system
decides what a call returns among the answers that are possible in its state, and the call
changes the state. `Ensures` is the weakest precondition of a program: in whatever way the
system answers, every call is legal when it is made, and the program ends in a state that
meets the postcondition. The rules below take a program apart along its structure; a procedure
is specified once and its callers use the specification.
-/

namespace NsProxy.Calls

/-- The calls of a system, with what each can return. -/
structure Signature where
  /-- The calls. -/
  Call : Type
  /-- What a call returns. -/
  Result : Call → Type

/-- A program over the calls. -/
inductive Program (sig : Signature) (α : Type) : Type
  /-- The program has ended. -/
  | ret (value : α)
  /-- A call is made, and the program goes on with its result. -/
  | call (call : sig.Call) (next : sig.Result call → Program sig α)

namespace Program

variable {sig : Signature} {α β : Type}

/-- One program after another. -/
def bind : Program sig α → (α → Program sig β) → Program sig β
  | .ret value, next => next value
  | .call made rest, next => .call made fun result => (rest result).bind next

instance : Monad (Program sig) where
  pure := .ret
  bind := bind

/-- A single call. -/
def make (made : sig.Call) : Program sig (sig.Result made) := .call made .ret

/-- A program that can fail. -/
abbrev Fallible (sig : Signature) (ε α : Type) : Type := ExceptT ε (Program sig) α

end Program

/-- A system that answers the calls. -/
structure System (sig : Signature) where
  /-- The state of the system. -/
  State : Type
  /-- The calls that may be made in a state. -/
  Legal : State → sig.Call → Prop
  /-- What a call may return in a state. -/
  Answers : State → (call : sig.Call) → sig.Result call → Prop
  /-- The state after a call. -/
  after : State → (call : sig.Call) → sig.Result call → State

variable {sig : Signature} {α β : Type}

/-- One call of a running program. -/
inductive Step (system : System sig) :
    Program sig α × system.State → Program sig α × system.State → Prop
  | call {state : system.State} {call : sig.Call} {next : sig.Result call → Program sig α}
    {result : sig.Result call} (possible : system.Answers state call result) :
    Step system (.call call next, state) (next result, system.after state call result)

/-- The program and the state after at most a number of calls, with the answers of a function. -/
def follow (system : System sig) (answer : (made : sig.Call) → sig.Result made) :
    Nat → Program sig α → system.State → Program sig α × system.State
  | 0, program, state => (program, state)
  | _ + 1, .ret value, state => (.ret value, state)
  | calls + 1, .call made next, state =>
    follow system answer calls (next (answer made)) (system.after state made (answer made))

/-- A test of the calls holds along these calls. -/
def holdsAlong (system : System sig) (answer : (made : sig.Call) → sig.Result made)
    (test : system.State → sig.Call → Bool) : Nat → Program sig α → system.State → Bool
  | 0, _, _ => true
  | _ + 1, .ret _, _ => true
  | calls + 1, .call made next, state => test state made &&
    holdsAlong system answer test calls (next (answer made)) (system.after state made (answer made))

/-- Answers that are possible wherever a test holds make a run. -/
theorem run_follow (system : System sig) {answer : (made : sig.Call) → sig.Result made}
    {test : system.State → sig.Call → Bool}
    (possible : ∀ state made, test state made = true → system.Answers state made (answer made))
    (calls : Nat) (program : Program sig α) (state : system.State)
    (tested : holdsAlong system answer test calls program state = true) :
    Relation.ReflTransGen (Step system) (program, state)
      (follow system answer calls program state) := by
  induction calls generalizing program state with
  | zero => exact .refl
  | succ calls ih =>
    cases program with
    | ret value => exact .refl
    | call made next =>
      rw [holdsAlong, Bool.and_eq_true] at tested
      exact .head (.call (possible state made tested.1)) (ih _ _ tested.2)

/-- In whatever way the system answers, the program makes legal calls only and ends as wanted. -/
def Ensures (system : System sig) (wanted : α → system.State → Prop) :
    Program sig α → system.State → Prop
  | .ret value, state => wanted value state
  | .call made next, state => system.Legal state made ∧
    ∀ result, system.Answers state made result →
      Ensures system wanted (next result) (system.after state made result)

variable {system : System sig} {wanted : α → system.State → Prop} {program : Program sig α}
  {state : system.State}

namespace Ensures

/-- A weaker postcondition is ensured as well. -/
theorem mono {weaker : α → system.State → Prop} (ensures : Ensures system wanted program state)
    (weakens : ∀ value last, wanted value last → weaker value last) :
    Ensures system weaker program state := by
  induction program generalizing state with
  | ret value => exact weakens value state ensures
  | call made next ih =>
    exact ⟨ensures.1, fun result possible => ih result (ensures.2 result possible)⟩

/-- A program after another: the first ensures what the second needs. -/
theorem bind {further : β → system.State → Prop} {next : α → Program sig β}
    (ensures : Ensures system (fun value last => Ensures system further (next value) last)
      program state) : Ensures system further (program.bind next) state := by
  induction program generalizing state with
  | ret value => exact ensures
  | call made rest ih =>
    exact ⟨ensures.1, fun result possible => ih result (ensures.2 result possible)⟩

/-- A procedure is used by its specification. -/
theorem andThen {further : β → system.State → Prop} {next : α → Program sig β}
    (spec : Ensures system wanted program state)
    (rest : ∀ value last, wanted value last → Ensures system further (next value) last) :
    Ensures system further (program.bind next) state :=
  bind (spec.mono rest)

/-- A fallible program after another: an error of the first is the error of both. -/
theorem tryThen {ε : Type} {spec : Except ε α → system.State → Prop}
    {further : Except ε β → system.State → Prop}
    {first : Program.Fallible sig ε α} {next : α → Program.Fallible sig ε β}
    (ensures : Ensures system spec first.run state)
    (failed : ∀ error last, spec (.error error) last → further (.error error) last)
    (went : ∀ value last, spec (.ok value) last →
      Ensures system further (next value).run last) :
    Ensures system further (first >>= next).run state := by
  apply Ensures.andThen ensures
  intro result last met
  cases result with
  | error error => exact failed error last met
  | ok value => exact went value last met

/-- A call takes the program on. -/
theorem step {last : Program sig α × system.State}
    (ensures : Ensures system wanted program state)
    (stepped : Step system (program, state) last) :
    Ensures system wanted last.1 last.2 := by
  cases stepped with
  | call possible => exact ensures.2 _ possible

/-- Along every run the program stands at a legal call, or has ended as wanted. -/
theorem run {rest : Program sig α} {last : system.State}
    (ensures : Ensures system wanted program state)
    (ran : Relation.ReflTransGen (Step system) (program, state) (rest, last)) :
    (∃ value, rest = .ret value ∧ wanted value last) ∨
      ∃ made next, rest = .call made next ∧ system.Legal last made := by
  have kept : ∀ reached : Program sig α × system.State,
      Relation.ReflTransGen (Step system) (program, state) reached →
        Ensures system wanted reached.1 reached.2 := by
    intro reached steps
    induction steps with
    | refl => exact ensures
    | tail _ stepped held => exact held.step stepped
  have here := kept _ ran
  cases rest with
  | ret value => exact Or.inl ⟨value, rfl, here⟩
  | call made next => exact Or.inr ⟨made, next, rfl, here.1⟩

end Ensures

end NsProxy.Calls
