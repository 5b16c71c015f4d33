/-!
# Patterns over symbols

A pattern is built from single symbols, runs of symbols, sequence and choice. Filters match the
characters of a path and ignore rules match its bytes, so the symbols are a parameter.

`Pattern.then` matches a pattern against the front of an input and leaves the rest of it to a test,
which is how a sequence is matched: its second part is in the test of its first.
-/

namespace JavaBuilder.Glob

/-- A set of symbols: those in one of the ranges, or those in none of them. -/
structure SymbolSet (α : Type) where
  negated : Bool
  ranges : List (α × α)
deriving DecidableEq, Repr

namespace SymbolSet

variable {α : Type}

/-- Every symbol. -/
def all : SymbolSet α := ⟨true, []⟩

/-- One symbol. -/
def only (x : α) : SymbolSet α := ⟨false, [(x, x)]⟩

/-- Every symbol but one. -/
def allBut (x : α) : SymbolSet α := ⟨true, [(x, x)]⟩

def mem [LE α] [DecidableLE α] (s : SymbolSet α) (x : α) : Bool :=
  s.negated != s.ranges.any fun r ↦ r.1 ≤ x ∧ x ≤ r.2

end SymbolSet

inductive Pattern (α : Type) where
  /-- Nothing. -/
  | empty
  /-- One symbol of a set. -/
  | one (s : SymbolSet α)
  /-- Any number of symbols of a set. -/
  | many (s : SymbolSet α)
  /-- One pattern and then another. -/
  | seq (p q : Pattern α)
  /-- One of two patterns. -/
  | either (p q : Pattern α)

namespace Pattern

variable {α : Type}

/-- Patterns one after the other. -/
def sequence (ps : List (Pattern α)) : Pattern α := ps.foldr .seq .empty

variable [LE α] [DecidableLE α]

/-- Some run of symbols of the set is at the front, and the rest passes a test. -/
def manyThen (s : SymbolSet α) (test : List α → Bool) : List α → Bool
  | [] => test []
  | x :: xs => test (x :: xs) || (s.mem x && manyThen s test xs)

/-- The pattern matches the front, and the rest passes a test. -/
def «then» : Pattern α → (List α → Bool) → List α → Bool
  | empty, test, xs => test xs
  | one s, test, xs =>
    match xs with
    | [] => false
    | x :: xs => s.mem x && test xs
  | many s, test, xs => manyThen s test xs
  | seq p q, test, xs => p.then (q.then test) xs
  | either p q, test, xs => p.then test xs || q.then test xs

/-- The pattern matches the whole input. -/
def accepts (p : Pattern α) (xs : List α) : Bool := p.then List.isEmpty xs

end Pattern

end JavaBuilder.Glob
