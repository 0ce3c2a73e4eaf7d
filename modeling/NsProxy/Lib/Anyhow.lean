import Mathlib.Data.List.Basic

/-!
# Errors with context

An error of the source is a message with the messages of its causes under it. Adding context
puts a message on top; a missing value becomes an error that is its context alone. A sequence
of fallible steps succeeds when each step does, which is also how a list of them is read.
-/

namespace NsProxy

/-- The messages of an `anyhow::Error`, outermost first. -/
abbrev Error : Type := List String

namespace Error

/-- `bail!`. -/
def bail {α : Type} (message : String) : Except Error α := .error [message]

/-- `with_context` on a `Result`. -/
def context {α : Type} (message : String) : Except Error α → Except Error α
  | .ok value => .ok value
  | .error causes => .error (message :: causes)

/-- `with_context` on an `Option`. -/
def contextOption {α : Type} (message : String) : Option α → Except Error α
  | some value => .ok value
  | none => .error [message]

/-- A context changes no success. -/
@[simp] theorem context_eq_ok {α : Type} {message : String} {result : Except Error α} {value : α} :
    context message result = .ok value ↔ result = .ok value := by
  cases result <;> simp [context]

/-- A context makes a present value a success and nothing else one. -/
@[simp] theorem contextOption_eq_ok {α : Type} {message : String} {result : Option α} {value : α} :
    contextOption message result = .ok value ↔ result = some value := by
  cases result <;> simp [contextOption]

/-- A sequence succeeds when both its parts do. -/
theorem bind_eq_ok {ε α β : Type} {first : Except ε α} {rest : α → Except ε β} {value : β} :
    first >>= rest = .ok value ↔ ∃ middle, first = .ok middle ∧ rest middle = .ok value := by
  cases first <;> simp [bind, Except.bind]

section FailsWith

variable {α β : Type} {reports : Error → Prop} {message : String}

/-- Every failure satisfies a predicate. -/
def FailsWith (reports : Error → Prop) (result : Except Error α) : Prop :=
  ∀ causes, result = .error causes → reports causes

/-- A success fails with nothing. -/
theorem FailsWith.ok (value : α) : FailsWith reports (.ok value) := by
  intro causes failed
  contradiction

/-- A failure fails with its own causes. -/
theorem FailsWith.error {causes : Error} (reported : reports causes) :
    FailsWith (α := α) reports (.error causes) := by
  intro others failed
  rw [← Except.error.inj failed]
  exact reported

/-- A computation under a context fails with that context in front. -/
theorem FailsWith.context (reported : ∀ causes, reports (message :: causes))
    (result : Except Error α) : FailsWith reports (Error.context message result) := by
  cases result with
  | ok value => exact .ok value
  | error causes => exact .error (reported causes)

/-- An absent value fails with the context alone. -/
theorem FailsWith.contextOption (reported : reports [message]) (result : Option α) :
    FailsWith reports (Error.contextOption message result) := by
  cases result with
  | some value => exact .ok value
  | none => exact .error reported

/-- A sequence fails by its first part or by its second. -/
theorem FailsWith.bind {first : Except Error α} {rest : α → Except Error β}
    (head : FailsWith reports first)
    (tail : ∀ value, first = .ok value → FailsWith reports (rest value)) :
    FailsWith reports (first >>= rest) := by
  intro causes failed
  cases read : first with
  | ok value =>
    rw [read] at failed
    exact tail value read causes failed
  | error inner =>
    rw [read] at failed
    have same : inner = causes := Except.error.inj failed
    rw [← same]
    exact head inner read

/-- What fails with some reports fails with weaker ones. -/
theorem FailsWith.mono {others : Error → Prop} {result : Except Error α}
    (fails : FailsWith reports result) (weaker : ∀ causes, reports causes → others causes) :
    FailsWith others result := fun causes failed => weaker causes (fails causes failed)

end FailsWith

section Lists

variable {ε σ β γ : Type} {read : β → Except ε γ}

/-- A list is read by reading its head and then its tail. -/
theorem mapM_cons_eq_ok {item : β} {items : List β} {values : List γ} :
    (item :: items).mapM read = .ok values ↔
      ∃ head tail, read item = .ok head ∧ items.mapM read = .ok tail ∧ head :: tail = values := by
  rw [List.mapM_cons, bind_eq_ok]
  constructor
  · rintro ⟨head, first, rest⟩
    obtain ⟨tail, others, same⟩ := bind_eq_ok.mp rest
    exact ⟨head, tail, first, others, Except.ok.inj same⟩
  · rintro ⟨head, tail, first, others, same⟩
    exact ⟨head, first, bind_eq_ok.mpr ⟨tail, others, congrArg Except.ok same⟩⟩

/-- What is read from an item is among what is read from the list. -/
theorem mem_of_mapM {items : List β} {values : List γ} (all : items.mapM read = .ok values)
    {item : β} {value : γ} (inside : item ∈ items) (one : read item = .ok value) :
    value ∈ values := by
  induction items generalizing values with
  | nil => cases inside
  | cons first items ih =>
    obtain ⟨head, tail, firstly, others, same⟩ := mapM_cons_eq_ok.mp all
    rw [← same]
    cases List.mem_cons.mp inside with
    | inl here =>
      rw [here, firstly] at one
      rw [Except.ok.inj one]
      exact List.mem_cons_self
    | inr later => exact List.mem_cons_of_mem _ (ih others later)

/-- What is read in order comes from the items. -/
theorem mem_of_mapM_eq_ok {items : List β} {values : List γ} (all : items.mapM read = .ok values)
    {value : γ} (member : value ∈ values) : ∃ item ∈ items, read item = .ok value := by
  induction items generalizing values with
  | nil =>
    rw [List.mapM_nil] at all
    rw [← Except.ok.inj all] at member
    contradiction
  | cons item items ih =>
    obtain ⟨head, tail, first, rest, same⟩ := mapM_cons_eq_ok.mp all
    rw [← same] at member
    rcases List.mem_cons.mp member with here | later
    · exact ⟨item, List.mem_cons_self, by rw [first, here]⟩
    · obtain ⟨other, inside, found⟩ := ih rest later
      exact ⟨other, List.mem_cons_of_mem _ inside, found⟩

/-- Everything is read exactly when each item is. -/
theorem mapM_ok_iff (items : List β) :
    (∃ values, items.mapM read = .ok values) ↔ ∀ item ∈ items, ∃ value, read item = .ok value := by
  induction items with
  | nil => simp [pure, Except.pure]
  | cons item items ih =>
    rw [List.forall_mem_cons, ← ih]
    constructor
    · rintro ⟨values, all⟩
      obtain ⟨head, tail, first, rest, _⟩ := mapM_cons_eq_ok.mp all
      exact ⟨⟨head, first⟩, ⟨tail, rest⟩⟩
    · rintro ⟨⟨head, first⟩, ⟨tail, rest⟩⟩
      exact ⟨head :: tail, mapM_cons_eq_ok.mpr ⟨head, tail, first, rest, rfl⟩⟩

/-- A fold whose steps fail whatever the state is reads everything first. -/
theorem foldlM_eq_mapM {f : σ → β → Except ε σ} {act : σ → γ → σ}
    (step : ∀ state item, f state item = (read item).map (act state))
    (items : List β) (state : σ) :
    items.foldlM f state = (items.mapM read).map (List.foldl act state) := by
  induction items generalizing state with
  | nil => rfl
  | cons item items ih =>
    rw [List.foldlM_cons, step, List.mapM_cons]
    cases read item with
    | error causes => rfl
    | ok value =>
      show items.foldlM f (act state value) = _
      rw [ih]
      cases items.mapM read with
      | error causes => rfl
      | ok values => rfl

end Lists

end Error

end NsProxy
