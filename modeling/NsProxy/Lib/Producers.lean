import Mathlib.Logic.Function.Basic

/-!
# Many producers, one queue

Each producer makes an item, holds it, and puts it into a queue that all producers share. However
the producers take turns, the items that one of them has put are those it has made, in order,
but for the one in its hand.
-/

namespace NsProxy

variable {ι α : Type} [DecidableEq ι]

/-- The items of one producer in a log. -/
def ofProducer (log : List (ι × α)) (producer : ι) : List α :=
  (log.filter fun entry => entry.1 = producer).map Prod.snd

/-- An empty log has no items of any producer. -/
@[simp] theorem ofProducer_nil (producer : ι) : ofProducer ([] : List (ι × α)) producer = [] := rfl

/-- The items of a producer in two logs are those in the first and then those in the second. -/
@[simp] theorem ofProducer_append (first second : List (ι × α)) (producer : ι) :
    ofProducer (first ++ second) producer =
      ofProducer first producer ++ ofProducer second producer := by
  simp [ofProducer]

/-- An item in the log is one of its own producer. -/
@[simp] theorem ofProducer_self (producer : ι) (item : α) :
    ofProducer [(producer, item)] producer = [item] := by
  simp [ofProducer]

/-- An item in the log is none of another producer. -/
theorem ofProducer_other {producer other : ι} (apart : other ≠ producer) (item : α) :
    ofProducer [(other, item)] producer = [] := by
  simp [ofProducer, apart]

/-- What the producers hold, and what they have made and put so far. -/
structure Producers (ι α : Type) where
  /-- The item in the hand of each producer. -/
  hand : ι → Option α
  /-- The items made, oldest first. -/
  made : List (ι × α)
  /-- The items put into the queue, oldest first. -/
  put : List (ι × α)

namespace Producers

/-- Of each producer, what was made is what was put and what is in its hand. -/
def InOrder (producers : Producers ι α) : Prop :=
  ∀ producer, ofProducer producers.made producer =
    ofProducer producers.put producer ++ (producers.hand producer).toList

variable {producers : Producers ι α} {producer : ι} {item : α}

/-- An item is made by a producer whose hand is empty. -/
theorem InOrder.make (ordered : producers.InOrder) (empty : producers.hand producer = none)
    (item : α) :
    InOrder ⟨Function.update producers.hand producer (some item),
      producers.made ++ [(producer, item)], producers.put⟩ := by
  intro other
  have before := ordered other
  by_cases same : producer = other
  · rw [same] at empty ⊢
    rw [empty] at before
    simp [before]
  · rw [ofProducer_append, ofProducer_other same, before]
    simp [Function.update_of_ne (Ne.symm same)]

/-- The item in a hand is put. -/
theorem InOrder.put (ordered : producers.InOrder) (holds : producers.hand producer = some item) :
    InOrder ⟨Function.update producers.hand producer none, producers.made,
      producers.put ++ [(producer, item)]⟩ := by
  intro other
  have before := ordered other
  by_cases same : producer = other
  · rw [same] at holds ⊢
    rw [holds] at before
    simp [before]
  · rw [ofProducer_append, ofProducer_other same, before]
    simp [Function.update_of_ne (Ne.symm same)]

end Producers

end NsProxy
