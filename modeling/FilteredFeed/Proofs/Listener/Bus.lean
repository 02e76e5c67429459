import FilteredFeed.Proofs.Listener.Registry

namespace FilteredFeed.Listener

-- What is running at a registry.
inductive Activity (τ : Type) where
  -- a notification, which goes on next
  | notification
  -- a listener that was called, and has control
  | listener (target : τ) (revision : Nat)
deriving DecidableEq, Repr

def Activity.isCall {τ : Type} : Activity τ → Bool
  | .listener _ _ => true
  | .notification => false

-- A registry in use.
structure Bus (τ : Type) where
  registry : Registry τ := {}
  -- whom somebody holds
  alive : τ → Bool
  -- innermost first
  stack : List (Activity τ) := []

namespace Bus

variable {τ : Type}

inductive Move (τ : Type) where
  | subscribe (target : τ)
  | unsubscribe (id : SubscriptionId)
  -- listeners are made, or are held no longer
  | hold (alive : τ → Bool)
  | notify (revision : Nat)
  -- the notification goes on: it calls the next listener, starts another round, or returns
  | proceed
  -- the listener that has control returns
  | leave
  -- the listener that has control breaks off all that is running
  | fail

-- During a round a notification is put off, so that only one that finds none under way runs rounds.
def after (b : Bus τ) : Move τ → Bus τ
  | .subscribe target => { b with registry := (b.registry.subscribe target).2 }
  | .unsubscribe id => { b with registry := (b.registry.unsubscribe id).2 }
  | .hold alive => { b with alive }
  | .notify revision =>
      { b with
        registry := b.registry.request b.alive revision
        stack := if b.registry.isNotifying then b.stack else .notification :: b.stack }
  | .proceed =>
      let (next, registry) := b.registry.advance b.alive
      match next with
      | .call target revision =>
          { b with registry, stack := .listener target revision :: b.stack }
      | .again _ => { b with registry }
      | .done => { b with registry, stack := b.stack.tail }
  | .leave => { b with stack := b.stack.tail }
  | .fail => { b with registry := b.registry.abandon, stack := [] }

-- A listener that has control can do everything, and so can anybody while nothing is running.
def allows (b : Bus τ) : Move τ → Bool
  | .proceed => b.stack.head?.any fun activity => !activity.isCall
  | .leave | .fail => b.stack.head?.any Activity.isCall
  | .subscribe _ | .unsubscribe _ | .hold _ | .notify _ => b.stack.head?.all Activity.isCall

def replay (b : Bus τ) (moves : List (Move τ)) : Bus τ := moves.foldl after b

-- Every move of a run can happen, and keeps to a rule.
def Follows (rule : Bus τ → Move τ → Prop) (b : Bus τ) : List (Move τ) → Prop
  | [] => True
  | m :: moves => b.allows m = true ∧ rule b m ∧ (b.after m).Follows rule moves

abbrev Runs (b : Bus τ) (moves : List (Move τ)) : Prop := b.Follows (fun _ _ => True) moves

-- A run that does not end, move by move.
def along (b : Bus τ) (moves : Nat → Move τ) : Nat → Bus τ
  | 0 => b
  | n + 1 => (b.along moves n).after (moves n)

variable {rule : Bus τ → Move τ → Prop} {b : Bus τ} {m : Move τ}

@[simp] theorem replay_nil (b : Bus τ) : b.replay [] = b := rfl

@[simp] theorem replay_cons (b : Bus τ) (m : Move τ) (moves : List (Move τ)) :
    b.replay (m :: moves) = (b.after m).replay moves := rfl

theorem replay_append (b : Bus τ) (moves more : List (Move τ)) :
    b.replay (moves ++ more) = (b.replay moves).replay more := List.foldl_append

theorem Follows.induction {P : Bus τ → Prop} (h0 : P b)
    (hmove : ∀ b m, P b → b.allows m = true → rule b m → P (b.after m))
    {moves : List (Move τ)} (h : b.Follows rule moves) : P (b.replay moves) := by
  induction moves generalizing b with
  | nil => exact h0
  | cons m moves ih => exact ih (hmove b m h0 h.1 h.2.1) h.2.2

-- What fits to a registry: while it has a round, one notification is running, which has called one
-- listener at most.
inductive Fits (round : Option (Round τ)) : List (Activity τ) → Prop where
  | quiet (h : round = none) : Fits round []
  | between (h : round.isSome = true) : Fits round [.notification]
  | calling (h : round.isSome = true) (target : τ) (revision : Nat) :
      Fits round [.listener target revision, .notification]

-- What holds of a registry in use in every run.
structure Steady (b : Bus τ) : Prop where
  orderly : b.registry.Orderly
  fits : Fits b.registry.round b.stack

theorem steady_init (alive : τ → Bool) : Steady ({ alive } : Bus τ) :=
  ⟨Registry.orderly_init, .quiet rfl⟩

theorem Steady.round_eq_none (h : b.Steady) (hs : b.stack = []) : b.registry.round = none := by
  have hfits := h.fits
  rw [hs] at hfits
  cases hfits with
  | quiet hround => exact hround

theorem Steady.pending_eq_none (h : b.Steady) (hs : b.stack = []) : b.registry.pending = none := by
  cases hp : b.registry.pending with
  | none => rfl
  | some revision =>
      have hround := h.orderly.pending (by rw [hp]; rfl)
      rw [h.round_eq_none hs] at hround
      cases hround

theorem Steady.isSome_round (h : b.Steady) (hs : b.stack ≠ []) :
    b.registry.round.isSome = true := by
  cases hstack : b.stack with
  | nil => exact absurd hstack hs
  | cons activity rest =>
      have hfits := h.fits
      rw [hstack] at hfits
      cases hfits with
      | between hround => exact hround
      | calling hround => exact hround

-- A notification that goes on is the only thing that is running.
theorem Steady.stack_proceed (h : b.Steady) (hallows : b.allows .proceed = true) :
    b.stack = [.notification] := by
  have hfits := h.fits
  unfold allows at hallows
  generalize b.stack = stack at *
  cases hfits with
  | quiet => cases hallows
  | between => rfl
  | calling => cases hallows

-- The listener that has control was called by a notification.
theorem Steady.stack_leave (h : b.Steady) (hallows : b.allows .leave = true) :
    ∃ target revision, b.stack = [.listener target revision, .notification] := by
  have hfits := h.fits
  unfold allows at hallows
  generalize b.stack = stack at *
  cases hfits with
  | quiet => cases hallows
  | between => cases hallows
  | calling _ target revision => exact ⟨target, revision, rfl⟩

theorem Steady.countP_isCall (h : b.Steady) : b.stack.countP Activity.isCall ≤ 1 := by
  have hfits := h.fits
  generalize b.stack = stack at *
  cases hfits with
  | quiet => exact Nat.zero_le 1
  | between => exact Nat.zero_le 1
  | calling => exact Nat.le_refl 1

-- What the notification does when it goes on.
inductive Proceeds (b b' : Bus τ) : Prop where
  | calls {target : τ} {revision : Nat} {waiting : List τ}
      (hround : b.registry.round = some ⟨revision, target :: waiting⟩)
      (hafter : b' =
        { b with
          registry := { b.registry with round := some ⟨revision, waiting⟩ }
          stack := [.listener target revision, .notification] })
  | again {revision highest : Nat} (hround : b.registry.round = some ⟨revision, []⟩)
      (hpending : b.registry.pending = some highest)
      (hafter : b' =
        { b with
          registry := ({ b.registry with pending := none } : Registry τ).startRound b.alive highest })
  | returns {revision : Nat} (hround : b.registry.round = some ⟨revision, []⟩)
      (hpending : b.registry.pending = none)
      (hafter : b' = { b with registry := { b.registry with round := none }, stack := [] })

theorem Steady.proceeds (h : b.Steady) (hallows : b.allows .proceed = true) :
    Proceeds b (b.after .proceed) := by
  have hs := h.stack_proceed hallows
  obtain ⟨⟨revision, waiting⟩, hround⟩ :=
    Option.isSome_iff_exists.mp (h.isSome_round (by rw [hs]; exact List.cons_ne_nil _ _))
  cases waiting with
  | cons target waiting =>
      refine .calls hround ?_
      simp only [after, Registry.advance, hround, hs]
  | nil =>
      cases hp : b.registry.pending with
      | some highest =>
          refine .again hround hp ?_
          simp only [after, Registry.advance, hround, hp]
      | none =>
          refine .returns hround hp ?_
          simp only [after, Registry.advance, hround, hp, hs, List.tail_cons]

-- A notification that finds another one under way is put off.
theorem after_notify_of_round {round : Round τ} (h : b.registry.round = some round)
    (revision : Nat) : b.after (.notify revision) =
      { b with
        registry := { b.registry with
          pending := some (b.registry.pending.elim revision (max revision)) } } := by
  simp only [Bus.after, Registry.isNotifying, Registry.request_of_round h, h, Option.isSome_some,
    if_true]

-- One that finds none runs a round.
theorem after_notify_of_none (h : b.registry.round = none) (revision : Nat) :
    b.after (.notify revision) =
      { b with
        registry := b.registry.startRound b.alive revision
        stack := .notification :: b.stack } := by
  simp only [Bus.after, Registry.isNotifying, Registry.request_of_none h, h, Option.isSome_none,
    Bool.false_eq_true, if_false]

theorem Steady.stack_eq_nil (h : b.Steady) (hround : b.registry.round = none) : b.stack = [] := by
  have hfits := h.fits
  rw [hround] at hfits
  generalize b.stack = stack at *
  cases hfits with
  | quiet => rfl
  | between hsome => cases hsome
  | calling hsome => cases hsome

theorem Steady.after (h : b.Steady) (hallows : b.allows m = true) : (b.after m).Steady := by
  cases m with
  | subscribe target => exact ⟨h.orderly.subscribe target, h.fits⟩
  | unsubscribe id => exact ⟨h.orderly.unsubscribe id, h.fits⟩
  | hold alive => exact ⟨h.orderly, h.fits⟩
  | notify revision =>
      cases hround : b.registry.round with
      | some round =>
          rw [after_notify_of_round hround]
          exact ⟨⟨h.orderly.used, h.orderly.distinct, fun _ => by simp [hround]⟩, h.fits⟩
      | none =>
          rw [after_notify_of_none hround, h.stack_eq_nil hround]
          exact ⟨h.orderly.startRound _ _, .between rfl⟩
  | proceed =>
      have horderly := h.orderly.advance b.alive
      refine ⟨?_, ?_⟩
      · have hregistry : (b.after .proceed).registry = (b.registry.advance b.alive).2 := by
          unfold Bus.after
          dsimp only
          split <;> rfl
        rw [hregistry]
        exact horderly
      · have hs := h.stack_proceed hallows
        cases h.proceeds hallows with
        | calls hround hafter =>
            rw [hafter]
            exact .calling rfl _ _
        | again hround hpending hafter =>
            rw [hafter]
            dsimp only
            rw [hs]
            exact .between rfl
        | returns hround hpending hafter =>
            rw [hafter]
            exact .quiet rfl
  | leave =>
      obtain ⟨target, revision, hs⟩ := h.stack_leave hallows
      refine ⟨h.orderly, ?_⟩
      have hsome := h.isSome_round (by rw [hs]; exact List.cons_ne_nil _ _)
      simp only [Bus.after, hs, List.tail_cons]
      exact .between hsome
  | fail => exact ⟨⟨h.orderly.used, h.orderly.distinct, fun hsome => hsome⟩, .quiet rfl⟩

theorem Follows.steady {moves : List (Move τ)} (h : b.Follows rule moves) (hs : b.Steady) :
    (b.replay moves).Steady :=
  h.induction hs fun _ _ hs hallows _ => hs.after hallows

end Bus

end FilteredFeed.Listener
