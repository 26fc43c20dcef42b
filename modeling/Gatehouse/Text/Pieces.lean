namespace Gatehouse

/-- The stretches between the members that satisfy `isSep`; always at least one. -/
def piecesBy {α : Type} (isSep : α → Bool) : List α → List (List α)
  | [] => [[]]
  | x :: rest =>
    if isSep x then [] :: piecesBy isSep rest
    else match piecesBy isSep rest with
      | [] => [[x]]
      | piece :: more => (x :: piece) :: more

/-- The stretches between occurrences of `sep`; always at least one. -/
def pieces {α : Type} [BEq α] (sep : α) (xs : List α) : List (List α) :=
  piecesBy (· == sep) xs

theorem piecesBy_ne_nil {α : Type} (isSep : α → Bool) (xs : List α) : piecesBy isSep xs ≠ [] := by
  cases xs with
  | nil => simp [piecesBy]
  | cons x rest =>
    simp only [piecesBy]
    split
    · simp
    · split <;> simp

theorem pieces_ne_nil {α : Type} [BEq α] (sep : α) (xs : List α) : pieces sep xs ≠ [] :=
  piecesBy_ne_nil _ xs

/-- The pieces with `glue` between neighbours. -/
def joinWith {α : Type} (glue : List α) : List (List α) → List α
  | [] => []
  | [piece] => piece
  | piece :: more => piece ++ glue ++ joinWith glue more

/-- What precedes and what follows the first `sep`; nothing when there is none. -/
def cutAt? {α : Type} [BEq α] (sep : α) : List α → Option (List α × List α)
  | [] => none
  | x :: rest =>
    if x == sep then some ([], rest)
    else (cutAt? sep rest).map fun (before, after) => (x :: before, after)

/-- What follows `start`, when the list begins with it. -/
def dropStart? {α : Type} [BEq α] (start xs : List α) : Option (List α) :=
  if start.isPrefixOf xs then some (xs.drop start.length) else none

/-- What precedes `finish`, when the list ends with it. -/
def dropFinish? {α : Type} [BEq α] (finish xs : List α) : Option (List α) :=
  if finish.isSuffixOf xs then some (xs.take (xs.length - finish.length)) else none

/-- Drops members that satisfy `p` at both ends. -/
def trimBy {α : Type} (p : α → Bool) (xs : List α) : List α :=
  ((xs.dropWhile p).reverse.dropWhile p).reverse

/-- Every occurrence of `word`, found from left to right, becomes `new`. -/
def replaceWord {α : Type} [BEq α] (word new : List α) (xs : List α) : List α :=
  go xs.length xs
where
  go : Nat → List α → List α
    | 0, xs => xs
    | _, [] => []
    | n + 1, x :: rest =>
      match dropStart? word (x :: rest) with
      | some after => if word.isEmpty then x :: go n rest else new ++ go n after
      | none => x :: go n rest

end Gatehouse
