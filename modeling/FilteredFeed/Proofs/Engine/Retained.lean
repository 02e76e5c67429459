import FilteredFeed.Pattern.Builtin
import FilteredFeed.Proofs.Engine.Called
import FilteredFeed.Proofs.Engine.Pages

namespace FilteredFeed.Engine

open FilteredFeed.Feed FilteredFeed.Filter FilteredFeed.Listener FilteredFeed.Timeline
open FilteredFeed.Scenario (Asker)

section

variable [Patterns]
variable {e : Engine} {t : TimelineId} {m : Move} {moves : List Move}

-- Whether a timeline is called in a run, and heeds the call.
def IsCalled (t : TimelineId) : Engine → List Move → Prop
  | _, [] => False
  | e, m :: moves => e.Called t m ∨ IsCalled t (e.after m) moves

instance decidableIsCalled (t : TimelineId) :
    (e : Engine) → (moves : List Move) → Decidable (IsCalled t e moves)
  | _, [] => .isFalse id
  | e, m :: moves =>
      have := decidableIsCalled t (e.after m) moves
      inferInstanceAs (Decidable (e.Called t m ∨ IsCalled t (e.after m) moves))

-- Whether a move has a timeline do something other than stop or test an item.
def Move.uses (t : TimelineId) : Move → Bool
  | .startActivation t' _ | .startPage t' _ _ | .invalidate t' | .setQuery t' _ | .takeUnread t'
  | .dispose t' => t' == t
  | _ => false

-- A timeline is held by somebody who does nothing with it.
def LeftAlone (t : TimelineId) (e : Engine) (m : Move) : Prop :=
  m.uses t = false ∧ (e.after m).isAlive (.timeline t) = true

instance : Decidable (LeftAlone t e m) := inferInstanceAs (Decidable (_ ∧ _))

-- A timeline is not active, and whatever is still asked for it was asked earlier.
structure Resting (e : Engine) (t : TimelineId) : Prop where
  reached : IsReached e
  alive : e.isAlive (.timeline t) = true
  phase : (e.timeline t).phase = .inactive
  late : ∀ o r, e.asks (.operation o) = some (t, r) → r.generation < (e.timeline t).generation

theorem Resting.inactive (h : Resting e t) : (e.timeline t).phase.isActive = false := by
  rw [h.phase]
  rfl

-- The contents of a timeline, its generation and its phase.
structure Retained (T T' : Timeline) : Prop where
  buffer : T'.buffer = T.buffer
  unread : T'.unread = T.unread
  generation : T'.generation = T.generation
  phase : T'.phase = T.phase

theorem Retained.refl (T : Timeline) : Retained T T := ⟨rfl, rfl, rfl, rfl⟩

theorem Retained.trans {T T' T'' : Timeline} (h : Retained T T') (h' : Retained T' T'') :
    Retained T T'' :=
  ⟨h'.buffer.trans h.buffer, h'.unread.trans h.unread, h'.generation.trans h.generation,
    h'.phase.trans h.phase⟩

theorem retained_alike {T T' T'' : Timeline} (h : Retained T T') (halike : T'.Alike T'') :
    Retained T T'' :=
  ⟨halike.buffer.trans h.buffer, halike.unread.trans h.unread,
    halike.generation.trans h.generation, halike.phase.trans h.phase⟩

-- A timeline at rest that nobody uses is changed only by a call.
theorem Resting.retained (h : Resting e t) (hallows : e.allows m = true)
    (halone : LeftAlone t e m) (hcalled : ¬ e.Called t m) :
    Retained (e.timeline t) ((e.after m).timeline t) := by
  have ht := isAlive_lt h.alive
  have hawake (hactive : (e.timeline t).phase.isActive = true) : False :=
    Bool.noConfusion (hactive.symm.trans h.inactive)
  have hattached {q : QueryId} {purpose : Purpose} {rest : List Frame}
      (hs : e.stack = .attach t q (e.timeline t).epoch purpose :: rest) : False := by
    have hmem : .attach t q (e.timeline t).epoch purpose ∈ e.stack := hs ▸ List.mem_cons_self
    exact hawake (((h.reached.wired.bound t).attaching q _ purpose hmem).2 rfl).1
  obtain ⟨T, hT, halike⟩ := leaves_after h.reached.wired hallows (isAlive_lt halone.2)
  refine retained_alike ?_ halike
  have huses := halone.1
  cases hT with
  | kept m => exact .refl _
  | dropped hT hdead => exact Bool.noConfusion (halone.2.symm.trans hdead)
  | told hs hheeds => exact absurd ⟨_, calls_of_stack hs, hheeds⟩ hcalled
  | unmarked hs hmark hheeds => exact ⟨rfl, rfl, rfl, rfl⟩
  | enrolled hs | refreshed hs | refitted hs => exact (hattached hs).elim
  | @emitted delta rest hs =>
      obtain ⟨events, hT⟩ := emit_eq (e.timeline t) delta
      rw [hT]
      exact ⟨rfl, rfl, rfl, rfl⟩
  | stopped hactive | offered hm hactive => exact (hawake hactive).elim
  | invalidated | requeried | ended | counted | launched => simp [Move.uses] at huses
  | absorbed hawaits hasks hcurrent | failed hawaits hasks hcurrent
  | rolledBack hawaits hasks hcurrent =>
      exact (h.reached.unanswered h.inactive h.late hawaits hasks hcurrent).elim
  | made hnew => exact absurd ht (hnew ▸ Nat.lt_irrefl _)

-- A call empties a timeline even while it is not active.
structure Cleared (T T' : Timeline) : Prop where
  buffer : T'.buffer.items = []
  unread : T'.unread = 0
  generation : T.generation < T'.generation
  phase : T'.phase = T.phase

theorem Cleared.trans {T T' T'' : Timeline} (h : Cleared T T') (h' : Cleared T' T'') :
    Cleared T T'' :=
  ⟨h'.buffer, h'.unread, Nat.lt_trans h.generation h'.generation, h'.phase.trans h.phase⟩

theorem Cleared.retained {T T' T'' : Timeline} (h : Cleared T T') (h' : Retained T' T'') :
    Cleared T T'' :=
  ⟨congrArg Buffer.items h'.buffer ▸ h.buffer, h'.unread.trans h.unread,
    h'.generation ▸ h.generation, h'.phase.trans h.phase⟩

theorem Retained.cleared {T T' T'' : Timeline} (h : Retained T T') (h' : Cleared T' T'') :
    Cleared T T'' :=
  ⟨h'.buffer, h'.unread, h.generation ▸ h'.generation, h'.phase.trans h.phase⟩

theorem Resting.cleared (h : Resting e t) (hcalled : e.Called t m) :
    Cleared (e.timeline t) ((e.after m).timeline t) := by
  have halike := hcalled.alike (isAlive_lt h.alive)
  refine ⟨?_, ?_, ?_, ?_⟩
  · simp [halike.buffer]
  · simp [halike.unread]
  · simp [halike.generation]
  · simp [halike.phase, h.inactive]

theorem Resting.after (h : Resting e t) (hallows : e.allows m = true)
    (halone : LeftAlone t e m) : Resting (e.after m) t := by
  have hchange : ((e.after m).timeline t).phase = (e.timeline t).phase ∧
      (e.timeline t).generation ≤ ((e.after m).timeline t).generation := by
    by_cases hcalled : e.Called t m
    · have hcleared := h.cleared hcalled
      exact ⟨hcleared.phase, Nat.le_of_lt hcleared.generation⟩
    · have hretained := h.retained hallows halone hcalled
      exact ⟨hretained.phase, Nat.le_of_eq hretained.generation.symm⟩
  have hbegins : m.begins ≠ some t := by
    have huses := halone.1
    intro heq
    cases m with
    | startActivation t' | startPage t' =>
        obtain rfl := Option.some.inj heq
        simp [Move.uses] at huses
    | _ => cases heq
  refine ⟨h.reached.after hallows, halone.2, hchange.1.trans h.phase, fun o r hasks => ?_⟩
  have hasked := (unasked_after h.reached.sound h.reached.wired hallows h.inactive hbegins).asks o r
    hasks
  exact Nat.lt_of_lt_of_le (h.late o r hasked) hchange.2

-- For as long as a timeline at rest is left alone, it is emptied exactly if it is called, and only
-- if the call was to be made from the beginning.
theorem Resting.replay (h : Resting e t) (halone : e.Follows (LeftAlone t) moves) :
    (¬ IsCalled t e moves → Retained (e.timeline t) ((e.replay moves).timeline t)) ∧
    (IsCalled t e moves →
      Summons e (.timeline t) ∧ Cleared (e.timeline t) ((e.replay moves).timeline t)) := by
  induction moves generalizing e with
  | nil => exact ⟨fun _ => .refl _, False.elim⟩
  | cons m moves ih =>
      obtain ⟨hallows, hnow, hlater⟩ := halone
      obtain ⟨hretained, hcleared⟩ := ih (h.after hallows hnow) hlater
      refine ⟨fun hnot => ?_, fun hcalled => ?_⟩
      · obtain ⟨hfirst, hrest⟩ := not_or.mp hnot
        exact (h.retained hallows hnow hfirst).trans (hretained hrest)
      · by_cases hfirst : e.Called t m
        · have hemptied := h.cleared hfirst
          obtain ⟨revision, hcalls, -⟩ := hfirst
          refine ⟨hcalls.summons, ?_⟩
          by_cases hrest : IsCalled t (e.after m) moves
          · exact hemptied.trans (hcleared hrest).2
          · exact hemptied.retained (hretained hrest)
        · have hkept := h.retained hallows hnow hfirst
          obtain ⟨hsummons, hemptied⟩ := hcleared (hcalled.resolve_left hfirst)
          exact ⟨h.reached.summons hallows h.inactive hsummons, hkept.cleared hemptied⟩

-- A timeline that is deactivated is at rest, with its items.
theorem resting_deactivate (hreached : IsReached e) (hallows : e.allows (.deactivate t) = true)
    (hactive : (e.timeline t).phase.isActive = true) :
    Resting (e.after (.deactivate t)) t ∧
      (stopped (e.timeline t)).Alike ((e.after (.deactivate t)).timeline t) := by
  have halive := (Bool.and_eq_true_iff.mp hallows).2
  have ht := isAlive_lt halive
  have halike : (stopped (e.timeline t)).Alike ((e.after (.deactivate t)).timeline t) :=
    alike_deactivate ht hactive
  refine ⟨⟨hreached.after hallows, ?_, halike.phase, fun o r hasks => ?_⟩, halike⟩
  · have hheld := hold_lt ht t
    have hholders : ((e.hold t).timeline t).holders = (e.timeline t).holders + 1 := by
      have hT : (e.hold t).timeline t = _ := timeline_modifyTimeline_self ht _
      rw [hT]
    have hactive' : ((e.hold t).timeline t).phase.isActive = true :=
      (alike_hold e t t).phase ▸ hactive
    change ((e.hold t).deactivate t).isAlive (.timeline t) = true
    rw [deactivate, if_pos hactive']
    change ((e.hold t).teardown t).2.isAlive (.timeline t) = true
    rw [isAlive_eq ((apart_teardown (e.hold t) t).size ▸ hheld), timeline_teardown hheld]
    simp [stopped, hholders]
  · have hasked := ((unasked_hold e t).trans (unasked_deactivate _ t)).asks o r hasks
    have hle := hreached.sound.earlier (.operation o) t r hasked
    rw [halike.generation]
    exact Nat.lt_succ_of_le hle

-- From the moment an active timeline is deactivated, and for as long as nobody uses it, it keeps its
-- items, its unread count and its generation exactly if no round calls it. A round can still do so if
-- it was to call the timeline when the timeline was deactivated. Such a call empties the timeline.
theorem deactivated_keeps {before later : List Move} (hruns : ({} : Engine).Runs before)
    (hallows : (({} : Engine).replay before).allows (.deactivate t) = true)
    (hactive : ((({} : Engine).replay before).timeline t).phase.isActive = true)
    (halone : ((({} : Engine).replay before).after (.deactivate t)).Follows (LeftAlone t) later) :
    let e := ({} : Engine).replay before
    let T := e.timeline t
    let T' := (({} : Engine).replay (before ++ .deactivate t :: later)).timeline t
    T'.phase = .inactive ∧
    (¬ IsCalled t (e.after (.deactivate t)) later →
      T'.buffer = T.buffer ∧ T'.unread = T.unread ∧ T'.generation = T.generation + 1) ∧
    (IsCalled t (e.after (.deactivate t)) later →
      Summons e (.timeline t) ∧
        T'.buffer.items = [] ∧ T'.unread = 0 ∧ T.generation + 1 < T'.generation) := by
  intro e T T'
  obtain ⟨hrest, halike⟩ := resting_deactivate (isReached_replay hruns) hallows hactive
  obtain ⟨hretained, hcleared⟩ := hrest.replay halone
  have hT' : T' = ((e.after (.deactivate t)).replay later).timeline t := by
    change (({} : Engine).replay (before ++ .deactivate t :: later)).timeline t = _
    rw [replay_append, replay_cons]
  rw [hT']
  have hgeneration : ((e.after (.deactivate t)).timeline t).generation = T.generation + 1 :=
    halike.generation
  refine ⟨?_, fun hnot => ?_, fun hcalled => ?_⟩
  · by_cases hcalled : IsCalled t (e.after (.deactivate t)) later
    · exact (hcleared hcalled).2.phase.trans hrest.phase
    · exact (hretained hcalled).phase.trans hrest.phase
  · have hkept := hretained hnot
    exact ⟨hkept.buffer.trans halike.buffer, hkept.unread.trans halike.unread,
      hkept.generation.trans hgeneration⟩
  · obtain ⟨hsummons, hempty⟩ := hcleared hcalled
    have hsummons' : Summons e (.timeline t) :=
      (modest_after (m := .deactivate t) rfl).summons hsummons
    exact ⟨hsummons', hempty.buffer, hempty.unread, hgeneration ▸ hempty.generation⟩

end

-- A timeline has an item, and its query is toggled. An observer that is called first deactivates the
-- timeline, which the round calls all the same.
def filledAndHeard : List Move :=
  [.addQuery (.not .contradiction) none, .addChannel 4, .addTimeline {} 0 0 (some 0) true,
    .listen 0, .startActivation 0 true, .step, .step, .step, .step, .leaveObserver, .step, .step,
    .step, .answer (.operation 0) (.ok [{ id := 1, author := "a" }]), .activateQuery 0, .step,
    .step, .step, .step]

def calledAtRest : List Move :=
  [.step, .step, .step, .leaveObserver, .step, .step, .step]

theorem deactivated_keeps_calledAtRest :
    ({} : Engine).Runs filledAndHeard ∧
      ((({} : Engine).replay filledAndHeard).after (.deactivate 0)).Follows (LeftAlone 0)
        calledAtRest ∧
      ((({} : Engine).replay filledAndHeard).timeline 0).buffer.items =
        [{ id := 1, author := "a" }] ∧
      Summons (({} : Engine).replay filledAndHeard) (.timeline 0) ∧
      ((({} : Engine).replay (filledAndHeard ++ .deactivate 0 :: calledAtRest)).timeline
        0).buffer.items = [] := by
  have hruns : ({} : Engine).Runs filledAndHeard := by decide
  have halone : ((({} : Engine).replay filledAndHeard).after (.deactivate 0)).Follows (LeftAlone 0)
      calledAtRest := by decide
  have hcalled : IsCalled 0 ((({} : Engine).replay filledAndHeard).after (.deactivate 0))
      calledAtRest := by decide
  obtain ⟨-, -, hempty⟩ := deactivated_keeps (t := 0) hruns (by decide) (by decide) halone
  obtain ⟨hsummons, hitems, -⟩ := hempty hcalled
  exact ⟨hruns, halone, by decide, hsummons, hitems⟩

end FilteredFeed.Engine
