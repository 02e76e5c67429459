import Mathlib.Data.Prod.Lex
import FilteredFeed.Proofs.Listener.Notification

namespace FilteredFeed.Listener.Bus

variable {τ : Type} {b : Bus τ} {m : Move τ} {moves : Nat → Move τ} {revision : Nat}

-- An endless run in which, as long as the notification runs, no listener acts for ever, and in
-- which notifications are asked for finitely often.
structure Fair (b : Bus τ) (moves : Nat → Move τ) : Prop where
  allowed : ∀ n, (b.along moves n).stack ≠ [] → (b.along moves n).allows (moves n) = true
  returns : ∀ n, (b.along moves n).stack ≠ [] → ∃ k ≥ n, moves k = .proceed ∨ moves k = .leave
  requests : ∃ n, ∀ k ≥ n, (moves k).request? = none

-- What is left to be done: the round that was asked for, then the calls of the present one. One
-- that was not made yet stands for two moves.
def rank (b : Bus τ) : Nat ×ₗ Nat :=
  toLex (b.registry.pending.toList.length,
    2 * b.registry.waiting.length + b.stack.countP Activity.isCall)

-- Without a request nothing comes to that, and to go on takes something off.
theorem Steady.rank_after (h : b.Steady) (hallows : b.allows m = true) (hrequest : m.request? = none)
    (hrunning : (b.after m).stack ≠ []) :
    (b.after m).rank ≤ b.rank ∧ (m = .proceed ∨ m = .leave → (b.after m).rank < b.rank) := by
  cases m with
  | subscribe | unsubscribe | hold => exact ⟨le_refl _, by simp⟩
  | notify => cases hrequest
  | fail => exact absurd rfl hrunning
  | leave =>
      obtain ⟨target, revision, hs⟩ := h.stack_leave hallows
      have hlt : (b.after .leave).rank < b.rank := by
        refine Prod.Lex.toLex_lt_toLex.mpr (.inr ⟨rfl, ?_⟩)
        simp [Bus.after, hs, Activity.isCall]
      exact ⟨hlt.le, fun _ => hlt⟩
  | proceed =>
      have hs := h.stack_proceed hallows
      have hlt : (b.after .proceed).rank < b.rank := by
        cases h.proceeds hallows with
        | calls hround hafter =>
            rw [hafter]
            refine Prod.Lex.toLex_lt_toLex.mpr (.inr ⟨rfl, ?_⟩)
            simp [Registry.waiting, hround, hs, Activity.isCall, List.countP_cons]
            omega
        | again hround hpending hafter =>
            rw [hafter]
            refine Prod.Lex.toLex_lt_toLex.mpr (.inl ?_)
            simp [Registry.startRound, hpending]
        | returns hround hpending hafter =>
            rw [hafter] at hrunning
            exact absurd rfl hrunning
      exact ⟨hlt.le, fun _ => hlt⟩

-- A notification comes to its end, unless it is asked for others without end.
theorem Fair.returns_of_steady (h : b.Fair moves) (hs : b.Steady) :
    ∃ n, (b.along moves n).stack = [] := by
  by_contra hnever
  have hrunning : ∀ n, (b.along moves n).stack ≠ [] := fun n hn => hnever ⟨n, hn⟩
  have hsteady : ∀ n, (b.along moves n).Steady := by
    intro n
    induction n with
    | zero => exact hs
    | succ n ih => exact ih.after (h.allowed n (hrunning n))
  obtain ⟨start, hquiet⟩ := h.requests
  have hrank (n : Nat) (hn : start ≤ n) :
      (b.along moves (n + 1)).rank ≤ (b.along moves n).rank ∧
        (moves n = .proceed ∨ moves n = .leave →
          (b.along moves (n + 1)).rank < (b.along moves n).rank) :=
    (hsteady n).rank_after (h.allowed n (hrunning n)) (hquiet n hn) (hrunning (n + 1))
  have hlower (n : Nat) (hn : start ≤ n) (k : Nat) (hk : n ≤ k) :
      (b.along moves k).rank ≤ (b.along moves n).rank := by
    induction k, hk using Nat.le_induction with
    | base => exact le_refl _
    | succ k hk ih => exact (hrank k (hn.trans hk)).1.trans ih
  -- no rank is the last one, as the run goes on
  suffices hnone : ∀ rank n, start ≤ n → (b.along moves n).rank = rank → False from
    hnone _ start (le_refl _) rfl
  intro rank
  induction rank using WellFoundedLT.induction with
  | ind rank ih =>
      intro n hn heq
      obtain ⟨k, hk, hmove⟩ := h.returns n (hrunning n)
      have hlt := (hrank k (hn.trans hk)).2 hmove
      refine ih _ ?_ (k + 1) (by omega) rfl
      rw [← heq]
      exact hlt.trans_le (hlower n hn k hk)

-- A notification that nothing surrounds starts a round.
theorem Steady.underWay_notify (h : b.Steady) (hstack : b.stack = []) (revision : Nat) :
    b.UnderWay (.notify revision) [] revision b.audience := by
  have hafter := after_notify_of_none (h.round_eq_none hstack) revision
  refine .init ?_ ?_ rfl
  · rw [hafter]
    rfl
  · rw [hafter]
    exact h.pending_eq_none hstack

-- From any run of a registry on, up to a notification that nothing surrounds, and with what is done
-- while this one runs. Calls are not nested. Everything is done in rounds, each for those who are
-- subscribed and alive when it starts, and with one more for all that was asked for during a round.
-- So nobody who asks for a notification misses it. If requests end, then so does the notification,
-- and then, even where a listener broke it off, the next one starts anew.
theorem notification_rounds {alive : τ → Bool} {before inner : List (Move τ)}
    (hbefore : ({ alive } : Bus τ).Runs before)
    (houter : (({ alive } : Bus τ).replay before).stack = [])
    (hinner : ((({ alive } : Bus τ).replay before).after (.notify revision)).Follows
      (fun b _ => b.stack ≠ []) inner) :
    let start := ({ alive } : Bus τ).replay before
    let final := start.replay (.notify revision :: inner)
    final.stack.countP Activity.isCall ≤ 1 ∧
    start.Rounds (.notify revision) inner revision ∧
    (final.stack = [] → .fail ∉ inner →
      (∃ round more, inner = round ++ more ∧ more ≠ [] ∧
        start.IsRound (.notify revision) round revision) ∧
      ∀ earlier requested later, inner = earlier ++ .notify requested :: later →
        ∃ skipped round more highest, later = skipped ++ .proceed :: round ++ more ∧ more ≠ [] ∧
          requested ≤ highest ∧
            (start.replay (.notify revision :: earlier ++ .notify requested :: skipped)).IsRound
              .proceed round highest) ∧
    (∀ moves, final.Fair moves → ∃ n, (final.along moves n).stack = []) ∧
    (final.stack = [] →
      final.registry.isNotifying = false ∧ final.registry.pending = none ∧
        ∀ next, (final.after (.notify next)).registry.round = some ⟨next, final.audience⟩) := by
  intro start final
  have hstart : start.Steady := hbefore.steady (steady_init alive)
  have hnotify : (start.after (.notify revision)).Steady := hstart.after <| by
    rw [allows, show start.stack = [] from houter]
    rfl
  have hfinal : final.Steady := hinner.steady hnotify
  have hrounds : start.Rounds (.notify revision) inner revision :=
    (hstart.underWay_notify houter revision).rounds hnotify hinner
  refine ⟨hfinal.countP_isCall, hrounds, fun hstack hfail => ?_, fun moves hfair => ?_,
    fun hstack => ?_⟩
  · exact ⟨hrounds.first_round hstack hfail, fun _ _ _ hsplit =>
      hrounds.served hstack hfail hsplit⟩
  · exact hfair.returns_of_steady hfinal
  · refine ⟨?_, hfinal.pending_eq_none hstack, fun next => ?_⟩
    · rw [Registry.isNotifying, hfinal.round_eq_none hstack]
      rfl
    · exact (hfinal.underWay_notify hstack next).starts

-- Two are subscribed, of whom the first asks for 3 and then for 2. The request for 2 is met, too.
theorem notification_rounds_twoRequests :
    ∃ skipped round more highest,
      [.leave, .proceed, .leave, .proceed, .proceed, .leave, .proceed, .leave, .proceed] =
          skipped ++ .proceed :: round ++ more ∧ more ≠ [] ∧ 2 ≤ highest ∧
        (({ alive := fun _ => true } : Bus Nat).replay
          ([.subscribe 7, .subscribe 8, .notify 1, .proceed, .notify 3, .notify 2] ++
            skipped)).IsRound .proceed round highest := by
  have hbefore : ({ alive := fun _ => true } : Bus Nat).Runs [.subscribe 7, .subscribe 8] :=
    ⟨rfl, trivial, rfl, trivial, trivial⟩
  have hinner : ((({ alive := fun _ => true } : Bus Nat).replay
      [.subscribe 7, .subscribe 8]).after (.notify 1)).Follows (fun b _ => b.stack ≠ [])
        [.proceed, .notify 3, .notify 2, .leave, .proceed, .leave, .proceed, .proceed, .leave,
          .proceed, .leave, .proceed] := by
    simp [Follows, allows, after, replay, Registry.subscribe, Registry.request,
      Registry.startRound, Registry.advance, Registry.isNotifying, Activity.isCall]
  have h := notification_rounds hbefore rfl hinner
  exact (h.2.2.1 rfl (by simp)).2 [.proceed, .notify 3] 2 _ rfl

end FilteredFeed.Listener.Bus
