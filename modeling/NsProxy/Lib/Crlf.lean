import Mathlib.Data.List.Infix

/-!
# Lines ended by CRLF

Splitting bytes at every CR LF pair, and the head of a message: its lines up to the first
empty one, with what follows.
-/

namespace NsProxy.Crlf

/-- The pair that ends a line. -/
def crlf : List UInt8 := [13, 10]

/-- No CR is directly followed by an LF. -/
def Free (bytes : List UInt8) : Prop := ¬ crlf <:+: bytes

instance (bytes : List UInt8) : Decidable (Free bytes) := inferInstanceAs (Decidable (¬ _))

/-- The pieces between the CR LF pairs. -/
def splitLines : List UInt8 → List (List UInt8)
  | [] => [[]]
  | 13 :: 10 :: rest => [] :: splitLines rest
  | byte :: rest => (splitLines rest).modifyHead (byte :: ·)

/-- The lines of a head up to the first empty line, and what follows that line. -/
def readHead (bytes : List UInt8) : Option (List (List UInt8) × List UInt8) :=
  match (splitLines bytes).dropWhile (· ≠ []) with
  | _ :: after :: rest =>
    some ((splitLines bytes).takeWhile (· ≠ []), crlf.intercalate (after :: rest))
  | _ => none

/-- There is always a first line. -/
theorem splitLines_ne_nil (bytes : List UInt8) : splitLines bytes ≠ [] := by
  fun_induction splitLines bytes with
  | case1 => simp
  | case2 rest ih => simp
  | case3 byte rest _ ih => simpa using ih

/-- A piece in front of a CR LF pair is split off. -/
theorem splitLines_append {line : List UInt8} (free : Free line) (rest : List UInt8) :
    splitLines (line ++ 13 :: 10 :: rest) = line :: splitLines rest := by
  induction line with
  | nil => simp [splitLines]
  | cons byte line ih =>
    have tailFree : Free line := fun inside =>
      free (inside.trans (List.infix_cons (List.infix_refl _)))
    have step : splitLines (byte :: (line ++ 13 :: 10 :: rest)) =
        (splitLines (line ++ 13 :: 10 :: rest)).modifyHead (byte :: ·) := by
      rw [splitLines]
      intro tail cr lf
      cases line with
      | nil => simp at lf
      | cons next line =>
        rw [List.cons_append, List.cons.injEq] at lf
        exact free ⟨[], line, by rw [cr, lf.1]; rfl⟩
    rw [List.cons_append, step, ih tailFree]
    rfl

/-- A pair in front or inside makes the only ways not to be free. -/
theorem free_cons {byte : UInt8} {line : List UInt8} (free : Free line)
    (apart : byte = 13 → line.head? ≠ some 10) : Free (byte :: line) := by
  intro inside
  rcases List.infix_cons_iff.mp inside with ⟨rest, pair⟩ | within
  · injection pair with cr tail
    exact apart cr.symm (by rw [← tail]; rfl)
  · exact free within

/-- The first piece starts as the bytes do. -/
theorem head?_splitLines {bytes first : List UInt8} {more : List (List UInt8)} {byte : UInt8}
    (pieces : splitLines bytes = first :: more) (starts : first.head? = some byte) :
    bytes.head? = some byte := by
  fun_cases splitLines bytes with
  | case1 =>
    cases pieces
    contradiction
  | case2 rest =>
    rw [splitLines] at pieces
    cases pieces
    contradiction
  | case3 other rest apart =>
    rw [splitLines.eq_3 _ _ apart] at pieces
    cases tail : splitLines rest with
    | nil => exact absurd tail (splitLines_ne_nil rest)
    | cons next more =>
      rw [tail, List.modifyHead_cons] at pieces
      cases pieces
      exact starts

/-- No piece contains a CR LF pair. -/
theorem free_of_mem_splitLines {bytes line : List UInt8} (member : line ∈ splitLines bytes) :
    Free line := by
  fun_induction splitLines bytes generalizing line with
  | case1 =>
    rw [List.mem_singleton] at member
    subst member
    decide
  | case2 rest ih =>
    rcases List.mem_cons.mp member with rfl | later
    · decide
    · exact ih later
  | case3 byte rest apart ih =>
    cases pieces : splitLines rest with
    | nil => exact absurd pieces (splitLines_ne_nil rest)
    | cons first more =>
      rw [pieces, List.modifyHead_cons] at member
      rcases List.mem_cons.mp member with rfl | later
      · refine free_cons (ih (by rw [pieces]; exact List.mem_cons_self)) fun cr lf => ?_
        obtain ⟨tail, starts⟩ := List.head?_eq_some_iff.mp (head?_splitLines pieces lf)
        exact apart tail cr starts
      · exact ih (by rw [pieces]; exact List.mem_cons_of_mem _ later)

/-- Bytes without a CR in front of free bytes are free. -/
theorem free_append_left {front back : List UInt8} (noCr : 13 ∉ front) (free : Free back) :
    Free (front ++ back) := by
  induction front with
  | nil => exact free
  | cons byte front ih =>
    refine free_cons (ih fun member => noCr (List.mem_cons_of_mem _ member)) fun cr => ?_
    exact absurd (cr ▸ List.mem_cons_self) noCr

/-- Bytes without an LF behind free bytes are free. -/
theorem free_append_right {front back : List UInt8} (free : Free front) (noLf : 10 ∉ back) :
    Free (front ++ back) := by
  have backFree : Free back := by
    rintro ⟨before, after, rfl⟩
    exact noLf (by simp [crlf])
  induction front with
  | nil => exact backFree
  | cons byte front ih =>
    refine free_cons (ih fun inside => free (List.infix_cons inside)) fun cr lf => ?_
    cases front with
    | nil => exact noLf (List.mem_of_head? lf)
    | cons next front =>
      injection lf with same
      exact free ⟨[], front, by rw [cr, same]; rfl⟩

/-- A part of free bytes is free. -/
theorem Free.of_infix {part whole : List UInt8} (free : Free whole) (inside : part <:+: whole) :
    Free part :=
  fun pair => free (pair.trans inside)

/-- Free, non-empty lines in front of an empty line are the head, and nothing follows. -/
theorem readHead_lines {lines : List (List UInt8)}
    (shape : ∀ line ∈ lines, Free line ∧ line ≠ []) :
    readHead (lines.flatMap (· ++ crlf) ++ crlf) = some (lines, []) := by
  have pieces : splitLines (lines.flatMap (· ++ crlf) ++ crlf) = lines ++ [[], []] := by
    induction lines with
    | nil => rfl
    | cons line lines ih =>
      have here := shape line List.mem_cons_self
      have split := splitLines_append here.1 (lines.flatMap (· ++ crlf) ++ crlf)
      rw [List.flatMap_cons, crlf, List.append_assoc, List.append_assoc, ← crlf]
      rw [ih fun other member => shape other (List.mem_cons_of_mem _ member)] at split
      exact split
  have kept : ∀ line ∈ lines, decide (line ≠ []) = true :=
    fun line member => decide_eq_true (shape line member).2
  rw [readHead, pieces, List.dropWhile_append_of_pos kept, List.takeWhile_append_of_pos kept]
  simp [crlf]

/-- The lines of a head contain no CR LF pair. -/
theorem free_of_mem_readHead {bytes rest : List UInt8} {lines : List (List UInt8)}
    {line : List UInt8} (head : readHead bytes = some (lines, rest)) (member : line ∈ lines) :
    Free line := by
  unfold readHead at head
  split at head
  · cases head
    exact free_of_mem_splitLines (List.takeWhile_subset _ member)
  · contradiction

end NsProxy.Crlf
