import FilteredFeed.Proofs.Grammar.Chain

namespace FilteredFeed.Grammar

variable {τ α : Type} {height : α → Nat} {limit room room' n n' m : Nat}
variable {tree tree' left right : α} {rest rest' tokens : List τ}
variable {operand : Reader τ α} {operator : Operator τ α}

-- What a phrase is read to, within the limits on what is open at once and on the height of its tree.
def readWithin (limit : Nat) (height : α → Nat) (room n : Nat) (tree : α) (rest : List τ) :
    Except ReadError (Parsed τ α) :=
  if n ≤ room ∧ height tree ≤ limit then .ok ⟨tree, height tree, rest⟩ else .error (.tooDeep limit)

theorem readWithin_eq (hn : n ≤ room) (hh : height tree ≤ limit) :
    readWithin limit height room n tree rest = .ok ⟨tree, height tree, rest⟩ := if_pos ⟨hn, hh⟩

theorem readWithin_of_not (h : ¬(n ≤ room ∧ height tree ≤ limit)) :
    readWithin limit height room n tree rest = .error (.tooDeep limit) := if_neg h

-- A phrase that is made of another one is read from it.
theorem readWithin_bind {next : Parsed τ α → Except ReadError (Parsed τ α)}
    (hwithin : n' ≤ room' ∧ height tree' ≤ limit → n ≤ room ∧ height tree ≤ limit)
    (hnext : n ≤ room → height tree ≤ limit →
      next ⟨tree, height tree, rest⟩ = readWithin limit height room' n' tree' rest') :
    (readWithin limit height room n tree rest >>= next) =
      readWithin limit height room' n' tree' rest' := by
  by_cases h : n ≤ room ∧ height tree ≤ limit
  · rw [readWithin_eq h.1 h.2]
    exact hnext h.1 h.2
  · rw [readWithin_of_not h, readWithin_of_not (mt hwithin h)]
    rfl

-- The node over what was read.
theorem deeper_node {a b : Nat} (hn : n ≤ room) (hheight : height tree = max a b + 1) :
    (deeper limit a b >>= fun height => pure ⟨tree, height, rest⟩) =
      readWithin limit height room n tree rest := by
  by_cases h : max a b + 1 ≤ limit
  · rw [deeper_eq h, readWithin_eq hn (hheight ▸ h), hheight]
    rfl
  · rw [deeper_of_lt (Nat.lt_of_not_le h), readWithin_of_not (by omega)]
    rfl

-- Two phrases with the sign of an operator between them are read as its node.
theorem readWithin_join {sign : τ} (hpos : 0 < height left)
    (hsign : operator.isSign sign = true)
    (hheight : height (operator.node left right) = max (height left) (height right) + 1)
    (hread : operand tokens = readWithin limit height room m right rest) :
    (readWithin limit height room n left (sign :: tokens) >>= operand.extend operator limit limit) =
      readWithin limit height room (max n m) (operator.node left right) rest >>=
        operand.extend operator limit limit := by
  by_cases hl : n ≤ room ∧ height left ≤ limit
  · rw [readWithin_eq hl.1 hl.2, ok_bind]
    by_cases hr : m ≤ room ∧ height right ≤ limit
    · rw [readWithin_eq hr.1 hr.2] at hread
      rw [extend_operand hpos hl.2 rfl hsign hread]
      by_cases hjoin : max (height left) (height right) + 1 ≤ limit
      · rw [join_eq hjoin, readWithin_eq (by omega) (by omega), hheight]
      · rw [join_of_lt (by dsimp only; omega), readWithin_of_not (by omega)]
    · rw [readWithin_of_not hr] at hread
      rw [extend_error (by omega) rfl hsign hread, readWithin_of_not (by omega), error_bind]
  · rw [readWithin_of_not hl, readWithin_of_not (by omega)]

-- A phrase at whose end the chain stops.
theorem readWithin_stop (h : ∀ token ∈ rest.head?, operator.isSign token = false) :
    (readWithin limit height room n tree rest >>= operand.extend operator limit limit) =
      readWithin limit height room n tree rest :=
  readWithin_bind id fun hn hh => (extend_stop h).trans (readWithin_eq hn hh).symm

variable {derives lower upper : List τ → α → Nat → Prop} {parsed : Parsed τ α}

-- What was read is a phrase that ends where the tokens are left, within the limits.
def ReadsPhrase (derives : List τ → α → Nat → Prop) (height : α → Nat) (limit room : Nat)
    (tokens : List τ) (parsed : Parsed τ α) : Prop :=
  ∃ front n, tokens = front ++ parsed.rest ∧ derives front parsed.tree n ∧ n ≤ room ∧
    parsed.height = height parsed.tree ∧ parsed.height ≤ limit

theorem ReadsPhrase.lift (h : ReadsPhrase lower height limit room tokens parsed)
    (hlift : ∀ {front tree n}, lower front tree n → upper front tree n) :
    ReadsPhrase upper height limit room tokens parsed := by
  obtain ⟨front, n, htokens, hfront, hlimits⟩ := h
  exact ⟨front, n, htokens, hlift hfront, hlimits⟩

theorem readsPhrase_chain
    (hlift : ∀ {front tree n}, lower front tree n → upper front tree n)
    (hnode : ∀ {front back sign left right n m}, operator.isSign sign = true →
      upper front left n → lower back right m →
      upper (front ++ sign :: back) (operator.node left right) (max n m))
    (hheight : ∀ left right,
      height (operator.node left right) = max (height left) (height right) + 1)
    (hoperand : ∀ {tokens parsed}, operand tokens = .ok parsed →
      ReadsPhrase lower height limit room tokens parsed)
    (h : operand.chain operator limit tokens = .ok parsed) :
    ReadsPhrase upper height limit room tokens parsed := by
  obtain ⟨first, hfirst, h⟩ := bind_eq_ok h
  refine extend_keeps ?_ h ((hoperand hfirst).lift hlift)
  intro left right joined sign rest hleft hrest hsign hread hjoined
  obtain ⟨front, n, htokens, hfront, hn, hl, -⟩ := hleft
  obtain ⟨back, m, hback, hderives, hm, hr, -⟩ := hoperand hread
  obtain ⟨rfl, hle⟩ := join_eq_ok hjoined
  refine ⟨front ++ sign :: back, max n m, ?_, hnode hsign hfront hderives, by omega, ?_, hle⟩
  · rw [htokens, hrest, hback]
    simp
  · rw [hheight, ← hl, ← hr]

end FilteredFeed.Grammar
