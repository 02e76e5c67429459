import FilteredFeed.Grammar.Error

namespace FilteredFeed.Grammar

-- A tree read from the front of some tokens, its height, and the tokens that are left.
structure Parsed (τ α : Type) where
  tree : α
  height : Nat
  rest : List τ
deriving DecidableEq, Repr

abbrev Reader (τ α : Type) := List τ → Except ReadError (Parsed τ α)

namespace Parsed

variable {τ α : Type}

def leaf (tree : α) (rest : List τ) : Parsed τ α := ⟨tree, 1, rest⟩

end Parsed

-- The height of a node over children of the given heights, within a limit.
def deeper (limit left right : Nat) : Except ReadError Nat :=
  let height := max left right + 1
  if limit < height then .error (.tooDeep limit) else .ok height

-- A binary operator that groups to the left.
structure Operator (τ α : Type) where
  isSign : τ → Bool
  node : α → α → α

variable {τ α : Type}

def Operator.join (operator : Operator τ α) (limit : Nat) (left right : Parsed τ α) :
    Except ReadError (Parsed τ α) := do
  return ⟨operator.node left.tree right.tree, ← deeper limit left.height right.height, right.rest⟩

-- Goes on from a first operand as long as the operator follows. Each round makes the tree higher,
-- so the limit bounds the rounds.
def Reader.extend (operand : Reader τ α) (operator : Operator τ α) (limit : Nat) :
    Nat → Parsed τ α → Except ReadError (Parsed τ α)
  | 0, left => .ok left
  | rounds + 1, left =>
      match left.rest with
      | [] => .ok left
      | token :: rest =>
          if operator.isSign token then do
            let joined ← operator.join limit left (← operand rest)
            Reader.extend operand operator limit rounds joined
          else .ok left

def Reader.chain (operand : Reader τ α) (operator : Operator τ α) (limit : Nat) : Reader τ α :=
  fun tokens => do
    let first ← operand tokens
    operand.extend operator limit limit first

end FilteredFeed.Grammar
