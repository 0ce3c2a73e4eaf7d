import Mathlib.Data.List.Basic

/-!
# Pipes

Bytes go into a pipe at one end, wait in it, and leave it at the other in the order in which
they went in. A pipe is exact when what has left and what waits is what went in.
-/

namespace NsProxy

/-- What has left and what waits is what went in, in order. -/
def Piped {α : Type} (left waiting entered : List α) : Prop := left ++ waiting = entered

namespace Piped

variable {α : Type} {left waiting entered : List α}

/-- Nothing has happened yet. -/
theorem start (waiting : List α) : Piped [] waiting waiting := List.nil_append waiting

/-- More goes in. -/
theorem enter (piped : Piped left waiting entered) (more : List α) :
    Piped left (waiting ++ more) (entered ++ more) := by
  unfold Piped at *
  rw [← List.append_assoc, piped]

/-- Some of what waits leaves. -/
theorem leave (piped : Piped left waiting entered) (count : Nat) :
    Piped (left ++ waiting.take count) (waiting.drop count) entered := by
  unfold Piped at *
  rw [List.append_assoc, List.take_append_drop, piped]

/-- With nothing waiting, all that went in has left. -/
theorem drained (piped : Piped left waiting entered) (empty : waiting = []) : left = entered := by
  unfold Piped at piped
  rwa [empty, List.append_nil] at piped

end Piped

end NsProxy
