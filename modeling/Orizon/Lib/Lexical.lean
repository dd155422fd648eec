import Mathlib.Data.List.Basic

/-!
# Orizon.Lib.Lexical

Paths read component by component: a component stays, goes up or goes down, and a path leads
from a place to a place (`walk`).  Places are lists of names from the root, which has nothing
above it.
-/

namespace Orizon

/-- What a component of a path does. -/
inductive Move (α : Type*)
  | stay
  | up
  | down (name : α)

section Walk

variable {α : Type*} {place : List α} {moves more : List (Move α)}

/-- One component. -/
def Move.apply (place : List α) : Move α → List α
  | stay => place
  | up => place.dropLast
  | down name => place ++ [name]

/-- Where a path leads from a place. -/
def walk (place : List α) (moves : List (Move α)) : List α := moves.foldl Move.apply place

@[simp] theorem walk_nil : walk place [] = place := rfl

@[simp] theorem walk_cons (move : Move α) : walk place (move :: moves) = walk (move.apply place) moves := rfl

theorem walk_append : walk place (moves ++ more) = walk (walk place moves) more := List.foldl_append

end Walk

end Orizon
