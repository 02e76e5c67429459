import FilteredFeed.Grammar.Chain

namespace FilteredFeed.Grammar

@[simp] theorem ok_bind {ε α β : Type} (a : α) (f : α → Except ε β) : (Except.ok a >>= f) = f a := rfl

@[simp] theorem error_bind {ε α β : Type} (e : ε) (f : α → Except ε β) :
    (Except.error e >>= f) = .error e := rfl

theorem bind_eq_ok {ε α β : Type} {x : Except ε α} {f : α → Except ε β} {b : β}
    (h : (x >>= f) = .ok b) : ∃ a, x = .ok a ∧ f a = .ok b := by
  cases x with
  | error e => cases h
  | ok a => exact ⟨a, rfl, h⟩

theorem deeper_eq {limit a b : Nat} (h : max a b + 1 ≤ limit) :
    deeper limit a b = .ok (max a b + 1) := by
  simp [deeper, Nat.not_lt.mpr h]

theorem deeper_of_lt {limit a b : Nat} (h : limit < max a b + 1) :
    deeper limit a b = .error (.tooDeep limit) := by
  simp [deeper, h]

theorem deeper_eq_ok {limit a b height : Nat} (h : deeper limit a b = .ok height) :
    height = max a b + 1 ∧ height ≤ limit := by
  by_cases hle : max a b + 1 ≤ limit
  · rw [deeper_eq hle] at h
    obtain rfl := Except.ok.inj h
    exact ⟨rfl, hle⟩
  · rw [deeper_of_lt (by omega)] at h
    cases h

section Chain

variable {τ α : Type} {operand : Reader τ α} {operator : Operator τ α} {limit rounds : Nat}
variable {left right joined parsed : Parsed τ α} {sign : τ} {rest : List τ}

theorem join_eq (h : max left.height right.height + 1 ≤ limit) :
    operator.join limit left right =
      .ok ⟨operator.node left.tree right.tree, max left.height right.height + 1, right.rest⟩ := by
  simp only [Operator.join, deeper_eq h, ok_bind]
  rfl

theorem join_of_lt (h : limit < max left.height right.height + 1) :
    operator.join limit left right = .error (.tooDeep limit) := by
  simp only [Operator.join, deeper_of_lt h, error_bind]

theorem join_eq_ok (h : operator.join limit left right = .ok joined) :
    joined = ⟨operator.node left.tree right.tree, max left.height right.height + 1, right.rest⟩ ∧
      max left.height right.height + 1 ≤ limit := by
  by_cases hle : max left.height right.height + 1 ≤ limit
  · rw [join_eq hle] at h
    exact ⟨(Except.ok.inj h).symm, hle⟩
  · rw [join_of_lt (by omega)] at h
    cases h

-- A chain ends at a token that is no sign of its operator.
theorem extend_stop (h : ∀ token ∈ left.rest.head?, operator.isSign token = false) :
    operand.extend operator limit rounds left = .ok left := by
  cases rounds with
  | zero => rfl
  | succ rounds =>
      unfold Reader.extend
      split
      · rfl
      · rename_i token rest hrest
        simp [h token (by simp [hrest])]

theorem extend_sign (hrest : left.rest = sign :: rest) (hsign : operator.isSign sign = true) :
    operand.extend operator limit (rounds + 1) left =
      (operand rest >>= operator.join limit left) >>= operand.extend operator limit rounds := by
  rw [Reader.extend]
  simp only [hrest, hsign, if_true]
  cases operand rest <;> rfl

-- The limit ends a chain before its rounds do, so that their number does not matter.
theorem extend_rounds {rounds' : Nat} (hle : left.height ≤ limit)
    (h : limit < rounds + left.height) (h' : limit < rounds' + left.height) :
    operand.extend operator limit rounds left = operand.extend operator limit rounds' left := by
  induction rounds generalizing rounds' left with
  | zero => omega
  | succ rounds ih =>
      obtain ⟨rounds', rfl⟩ : ∃ n, rounds' = n + 1 := ⟨rounds' - 1, by omega⟩
      cases hrest : left.rest with
      | nil => rw [extend_stop (by simp [hrest]), extend_stop (by simp [hrest])]
      | cons token rest =>
          by_cases hsign : operator.isSign token = true
          · rw [extend_sign hrest hsign, extend_sign hrest hsign]
            cases operand rest with
            | error e => rfl
            | ok right =>
                by_cases hjoin : max left.height right.height + 1 ≤ limit
                · simp only [ok_bind, join_eq hjoin]
                  exact ih hjoin (by dsimp only; omega) (by dsimp only; omega)
                · simp only [ok_bind, join_of_lt (Nat.lt_of_not_le hjoin), error_bind]
          · rw [extend_stop (by simp [hrest, hsign]), extend_stop (by simp [hrest, hsign])]

-- A chain goes on after one more operand as it would after a first one.
theorem extend_operand (hpos : 0 < left.height) (hle : left.height ≤ limit)
    (hrest : left.rest = sign :: rest) (hsign : operator.isSign sign = true)
    (hread : operand rest = .ok right) :
    operand.extend operator limit limit left =
      operator.join limit left right >>= operand.extend operator limit limit := by
  obtain ⟨rounds, rfl⟩ : ∃ n, limit = n + 1 := ⟨limit - 1, by omega⟩
  rw [extend_sign hrest hsign, hread, ok_bind]
  by_cases hjoin : max left.height right.height + 1 ≤ rounds + 1
  · simp only [join_eq hjoin, ok_bind]
    exact extend_rounds hjoin (by dsimp only; omega) (by dsimp only; omega)
  · simp only [join_of_lt (Nat.lt_of_not_le hjoin), error_bind]

theorem extend_error (hpos : 0 < limit) (hrest : left.rest = sign :: rest)
    (hsign : operator.isSign sign = true) {e : ReadError} (hread : operand rest = .error e) :
    operand.extend operator limit limit left = .error e := by
  obtain ⟨rounds, rfl⟩ : ∃ n, limit = n + 1 := ⟨limit - 1, by omega⟩
  rw [extend_sign hrest hsign, hread]
  rfl

-- What every operand that is joined on keeps, a chain keeps.
theorem extend_keeps {P : Parsed τ α → Prop}
    (hjoin : ∀ {left right joined : Parsed τ α} {sign : τ} {rest : List τ}, P left →
      left.rest = sign :: rest → operator.isSign sign = true → operand rest = .ok right →
      operator.join limit left right = .ok joined → P joined)
    (h : operand.extend operator limit rounds left = .ok parsed) (hleft : P left) : P parsed := by
  induction rounds generalizing left with
  | zero =>
      obtain rfl := Except.ok.inj h
      exact hleft
  | succ rounds ih =>
      cases hrest : left.rest with
      | nil =>
          rw [extend_stop (by simp [hrest])] at h
          obtain rfl := Except.ok.inj h
          exact hleft
      | cons token rest =>
          by_cases hsign : operator.isSign token = true
          · rw [extend_sign hrest hsign] at h
            obtain ⟨joined, hjoined, h⟩ := bind_eq_ok h
            obtain ⟨right, hread, hjoined⟩ := bind_eq_ok hjoined
            exact ih h (hjoin hleft hrest hsign hread hjoined)
          · rw [extend_stop (by simp [hrest, hsign])] at h
            obtain rfl := Except.ok.inj h
            exact hleft

end Chain

end FilteredFeed.Grammar
