import FilteredFeed.Proofs.Engine.Leaves
import FilteredFeed.Proofs.Engine.Timely

namespace FilteredFeed.Engine

open FilteredFeed.Feed FilteredFeed.Filter FilteredFeed.Listener FilteredFeed.Timeline

variable [Patterns]
variable {e : Engine} {t : TimelineId} {m : Move} {revision c : Nat}

def Move.isStep : Move → Bool
  | .step => true
  | _ => false

-- The timeline that is to be called at once.
def firstCall (e : Engine) : Option (TimelineId × Nat) :=
  match e.stack with
  | .call (.timeline t) revision :: _ => some (t, revision)
  | _ => none

theorem firstCall_eq_some : e.firstCall = some (t, revision) ↔
    ∃ rest, e.stack = .call (.timeline t) revision :: rest := by
  unfold firstCall
  split
  · rename_i t' revision' rest hs
    simp [hs]
  · rename_i hnot
    refine ⟨nofun, ?_⟩
    rintro ⟨rest, hs⟩
    exact absurd hs (hnot t revision rest)

-- A round calls a timeline.
def Calls (e : Engine) (t : TimelineId) (revision : Nat) (m : Move) : Prop :=
  m.isStep = true ∧ e.firstCall = some (t, revision)

instance : Decidable (e.Calls t revision m) := inferInstanceAs (Decidable (_ ∧ _))

theorem calls_of_stack {rest : List Frame} (hs : e.stack = .call (.timeline t) revision :: rest) :
    e.Calls t revision .step := ⟨rfl, firstCall_eq_some.mpr ⟨rest, hs⟩⟩

theorem Calls.stack (h : e.Calls t revision m) :
    m = .step ∧ ∃ rest, e.stack = .call (.timeline t) revision :: rest := by
  refine ⟨?_, firstCall_eq_some.mp h.2⟩
  have hstep := h.1
  cases m with
  | step => rfl
  | _ => cases hstep

-- A round calls a timeline, which heeds the call.
def Called (e : Engine) (t : TimelineId) (m : Move) : Prop :=
  ∃ revision, e.Calls t revision m ∧ e.heeds t revision = true

instance : Decidable (e.Called t m) :=
  match h : e.firstCall with
  | some (t', revision) =>
      decidable_of_iff (m.isStep = true ∧ t' = t ∧ e.heeds t revision = true) <| by
        constructor
        · rintro ⟨hstep, rfl, hheeds⟩
          exact ⟨revision, ⟨hstep, h⟩, hheeds⟩
        · rintro ⟨revision', ⟨hstep, hcall⟩, hheeds⟩
          obtain ⟨rfl, rfl⟩ := Prod.mk.inj (Option.some.inj (h.symm.trans hcall))
          exact ⟨hstep, rfl, hheeds⟩
  | none => .isFalse fun ⟨_, ⟨_, hcall⟩, _⟩ => nomatch h.symm.trans hcall

instance decidableFollows {rule : Engine → Move → Prop} [∀ e m, Decidable (rule e m)] :
    (e : Engine) → (moves : List Move) → Decidable (e.Follows rule moves)
  | _, [] => .isTrue trivial
  | e, m :: moves =>
      have : Decidable ((e.after m).Follows rule moves) := decidableFollows (e.after m) moves
      inferInstanceAs (Decidable (e.allows m = true ∧ rule e m ∧ (e.after m).Follows rule moves))

theorem Calls.summons (h : e.Calls t revision m) : Summons e (.timeline t) := by
  obtain ⟨-, rest, hs⟩ := h.stack
  exact .inr ⟨revision, hs ▸ List.mem_cons_self⟩

-- There is one call at a time.
theorem Calls.unique {revision' : Nat} (h : e.Calls t revision m) (h' : e.Calls t revision' m) :
    revision = revision' :=
  (Prod.mk.inj (Option.some.inj (h.2.symm.trans h'.2))).2

theorem Calls.after (h : e.Calls t revision m) :
    ∃ rest, e.after m = ({ e with stack := rest } : Engine).onInvalidated t revision := by
  obtain ⟨rfl, rest, hs⟩ := h.stack
  refine ⟨rest, ?_⟩
  simp only [Engine.after, step, hs, Option.getD_some]
  rfl

-- A timeline that heeds a call starts again.
theorem Called.alike (h : e.Called t m) (ht : t < e.timelines.length) :
    (e.restarted t).Alike ((e.after m).timeline t) := by
  obtain ⟨revision, hcalls, hheeds⟩ := h
  obtain ⟨rest, hafter⟩ := hcalls.after
  have hnow := ((onInvalidated_cases { e with stack := rest } t revision).resolve_right
    fun h => Bool.noConfusion (h.1.symm.trans hheeds)).2
  rw [hafter, hnow]
  exact alike_invalidateNow (e := { e with stack := rest }) ht

-- One that does not drops at most its mark.
theorem Calls.unheeded (h : e.Calls t revision m) (ht : t < e.timelines.length)
    (hheeds : e.heeds t revision = false) :
    (e.after m).timeline t =
      if (e.timeline t).phase ≠ .disposed ∧ (e.timeline t).caughtUp = some revision then
        { e.timeline t with caughtUp := none }
      else e.timeline t := by
  obtain ⟨rest, hafter⟩ := h.after
  have hsame : ({ e with stack := rest } : Engine).timeline t = e.timeline t := rfl
  rw [hafter, onInvalidated_unheeded (e := { e with stack := rest }) hheeds, hsame]
  split
  · exact timeline_modifyTimeline_self (e := { e with stack := rest }) ht _
  · rfl

theorem ne_disposed (hactive : (e.timeline t).phase.isActive = true) :
    (e.timeline t).phase ≠ .disposed := by
  intro hdisposed
  rw [hdisposed] at hactive
  cases hactive

-- An active timeline that does not heed a call has a mark, and is level with its query.
theorem mark_of_unheeded (hactive : (e.timeline t).phase.isActive = true)
    (h : e.heeds t revision = false) :
    ∃ mark, (e.timeline t).caughtUp = some mark ∧ revision ≤ mark ∧ e.isStale t = false := by
  unfold heeds at h
  rw [decide_eq_true (ne_disposed hactive), Bool.true_and] at h
  cases hmark : (e.timeline t).caughtUp with
  | none => simp [hmark] at h
  | some mark =>
      simp only [hmark, Bool.or_eq_false_iff, decide_eq_false_iff_not] at h
      exact ⟨mark, rfl, Nat.le_of_not_lt h.1, h.2⟩

-- A call for the revision of a mark, or for a later one, takes the mark away.
theorem Calls.unmarks (h : e.Calls t revision m)
    (hactive : (e.timeline t).phase.isActive = true) (hmark : (e.timeline t).caughtUp = some c)
    (hle : c ≤ revision) : ((e.after m).timeline t).caughtUp = none := by
  have ht := lt_of_active hactive
  cases hheeds : e.heeds t revision with
  | true =>
      have halike := Called.alike ⟨revision, h, hheeds⟩ ht
      rw [halike.caughtUp, caughtUp_restarted]
  | false =>
      obtain ⟨mark, hmark', hrevision, -⟩ := mark_of_unheeded hactive hheeds
      obtain rfl := Option.some.inj (hmark.symm.trans hmark')
      obtain rfl := Nat.le_antisymm hle hrevision
      rw [h.unheeded ht hheeds, if_pos ⟨ne_disposed hactive, hmark⟩]

-- A timeline that keeps its generation does not heed a call.
theorem Calls.unheeded_of_generation (h : e.Calls t revision m) (ht : t < e.timelines.length)
    (hg : ((e.after m).timeline t).generation = (e.timeline t).generation) :
    e.heeds t revision = false := by
  cases hheeds : e.heeds t revision with
  | false => rfl
  | true =>
      have halike := Called.alike ⟨revision, h, hheeds⟩ ht
      rw [halike.generation, generation_restarted] at hg
      omega

end FilteredFeed.Engine
