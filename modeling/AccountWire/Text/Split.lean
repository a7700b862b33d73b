/-!
# Cutting lists at separators

Both wire texts and tables are cut at separators.  `pieces` cuts at every separator and always
answers with at least one piece; `atFirst?` cuts at the first one only.
-/

namespace AccountWire.Split

variable {α : Type}

/-- The stretches between the elements that satisfy `sep`, empty ones included. -/
def pieces (sep : α → Bool) : List α → List (List α)
  | [] => [[]]
  | a :: r =>
    if sep a then [] :: pieces sep r
    else
      match pieces sep r with
      | [] => [[a]]
      | p :: ps => (a :: p) :: ps

/-- What stands before and after the first element that satisfies `sep`. -/
def atFirst? (sep : α → Bool) : List α → Option (List α × List α)
  | [] => none
  | a :: r =>
    if sep a then some ([], r)
    else (atFirst? sep r).map fun (before, after) => (a :: before, after)

/-- What stands before and after the last element that satisfies `sep`. -/
def atLast? (sep : α → Bool) : List α → Option (List α × List α)
  | [] => none
  | a :: r =>
    match atLast? sep r with
    | some (before, after) => some (a :: before, after)
    | none => if sep a then some ([], r) else none

/-- Puts `sep` between the pieces. -/
def join (sep : List α) : List (List α) → List α
  | [] => []
  | [p] => p
  | p :: q :: ps => p ++ sep ++ join sep (q :: ps)

/-- Every list has a piece. -/
theorem pieces_ne_nil (sep : α → Bool) (l : List α) : pieces sep l ≠ [] := by
  cases l with
  | nil => simp [pieces]
  | cons a r =>
    rw [pieces]
    split
    · simp
    · split <;> simp

end AccountWire.Split
