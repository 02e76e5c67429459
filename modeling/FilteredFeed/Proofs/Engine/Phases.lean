import FilteredFeed.Pattern.Builtin
import FilteredFeed.Proofs.Engine.Activations
import FilteredFeed.Proofs.Engine.Staffed

namespace FilteredFeed.Engine

open FilteredFeed.Feed FilteredFeed.Filter FilteredFeed.Listener FilteredFeed.Timeline

section

variable [Patterns]
variable {e : Engine} {t : TimelineId} {moves : List Move} {base : List Frame}

-- A timeline that is not active has nothing that it would have to give back.
theorem Staffed.resources_of_inactive (h : Staffed e t) (hw : Wired e) (ha : Accounted e base)
    (hinactive : (e.timeline t).phase.isActive = false) :
    (e.timeline t).pump = none ∧ (e.timeline t).refetch = none ∧
      (e.timeline t).subscription = none ∧ (e.timeline t).activated = none := by
  have hsubscription : (e.timeline t).subscription = none := by
    cases hsub : (e.timeline t).subscription with
    | none => rfl
    | some s =>
        have hactive := ((hw.bound t).subscribed s.1 s.2 hsub).1
        rw [hinactive] at hactive
        cases hactive
  refine ⟨?_, ?_, hsubscription, ?_⟩
  · exact Option.isNone_iff_eq_none.mp (by simp [h.pump, hinactive, ← Option.not_isSome])
  · cases hrefetch : (e.timeline t).refetch with
    | none => rfl
    | some k =>
        have hactive := h.refetch (by rw [hrefetch]; rfl)
        rw [hinactive] at hactive
        cases hactive
  · rw [ha.paired t, hsubscription]
    rfl

theorem Staffed.work_of_inactive (h : Staffed e t) (hinactive : (e.timeline t).phase.isActive = false)
    (k : TaskId) (job : Job) (hwork : e.work k = some job) : job.timeline ≠ t := by
  have hnone {handle : Option TaskId}
      (hactive : handle.isSome = true → (e.timeline t).phase.isActive = true) :
      handle ≠ some k := by
    rintro rfl
    rw [hactive rfl] at hinactive
    cases hinactive
  cases job with
  | pump t' s =>
      rintro rfl
      exact hnone (fun hsome => h.pump ▸ hsome) (h.pumps k s hwork)
  | refetch t' r =>
      rintro rfl
      exact hnone h.refetch (h.refetches k r hwork)

-- No two pumps, and no two refetches, of a timeline are live.
theorem Manned.pump_unique (h : Manned e t) {k k' : TaskId} {s s' : StreamId}
    (hk : e.work k = some (.pump t s)) (hk' : e.work k' = some (.pump t s')) : k = k' :=
  Option.some.inj ((h.pumps k s hk).symm.trans (h.pumps k' s' hk'))

theorem Manned.refetch_unique (h : Manned e t) {k k' : TaskId} {r r' : FetchRequest}
    (hk : e.work k = some (.refetch t r)) (hk' : e.work k' = some (.refetch t r')) : k = k' :=
  Option.some.inj ((h.refetches k r hk).symm.trans (h.refetches k' r' hk'))

-- The phase of a timeline says what it holds and what works for it.
theorem phase_resources (hruns : ({} : Engine).Runs moves) (t : TimelineId) :
    let e := ({} : Engine).replay moves
    let T := e.timeline t
    (T.pump.isSome = true ↔ T.phase = .activating ∨ T.phase = .active ∨ T.phase = .invalidated) ∧
    (T.pump.isSome = true → T.hasRuntime = true) ∧
    (T.phase = .inactive ∨ T.phase = .disposed →
      T.pump = none ∧ T.refetch = none ∧ T.subscription = none ∧ T.activated = none) ∧
    (∀ k k' s s', e.work k = some (.pump t s) → e.work k' = some (.pump t s') → k = k') ∧
    (∀ k k' r r', e.work k = some (.refetch t r) → e.work k' = some (.refetch t r') → k = k') ∧
    (T.phase = .invalidated →
      ∃ k r, e.work k = some (.refetch t r) ∧ r.generation = T.generation ∧
        ∀ k' r', e.work k' = some (.refetch t r') → k' = k ∧ r' = r) := by
  intro e T
  have hw : Wired e := hruns.wired sound_init wired_init
  have hstaffed : Staffed e t := hruns.staffed sound_init wired_init staffed_init t
  refine ⟨?_, ?_, ?_, ?_, ?_, ?_⟩
  · rw [show T.pump.isSome = T.phase.isActive from hstaffed.pump]
    cases T.phase <;> simp [Phase.isActive]
  · intro hpump
    exact hstaffed.runtime (hstaffed.pump ▸ hpump)
  · intro hphase
    refine hstaffed.resources_of_inactive hw hruns.accounted ?_
    rcases hphase with hphase | hphase
    · rw [show (e.timeline t).phase = _ from hphase]
      rfl
    · rw [show (e.timeline t).phase = _ from hphase]
      rfl
  · exact fun _ _ _ _ => hstaffed.pump_unique
  · exact fun _ _ _ _ => hstaffed.refetch_unique
  · intro hphase
    obtain ⟨k, r, hk⟩ := hstaffed.refilled hphase
    refine ⟨k, r, hk, hstaffed.current k r hk, fun k' r' hk' => ?_⟩
    obtain rfl := hstaffed.refetch_unique hk' hk
    rw [hk] at hk'
    cases hk'
    exact ⟨rfl, rfl⟩

end

-- A timeline is active when its query changes, twice.
def changedTwice : List Move :=
  [.addQuery .contradiction none, .addChannel 4, .addTimeline {} 0 0 (some 0) true,
    .startActivation 0 true, .step, .step, .setExpression 0 (.not .contradiction), .step, .step, .step,
    .step, .step, .setExpression 0 .contradiction, .step, .step, .step, .step, .step]

theorem phase_resources_changedTwice :
    ({} : Engine).Runs changedTwice ∧
      ((({} : Engine).replay changedTwice).timeline 0).phase = .invalidated ∧
      ∃ k r, (({} : Engine).replay changedTwice).work k = some (.refetch 0 r) ∧
        r.generation = ((({} : Engine).replay changedTwice).timeline 0).generation ∧
        ∀ k' r', (({} : Engine).replay changedTwice).work k' = some (.refetch 0 r') →
          k' = k ∧ r' = r := by
  have hruns : ({} : Engine).Runs changedTwice := by decide
  have hphase : ((({} : Engine).replay changedTwice).timeline 0).phase = .invalidated := by decide
  exact ⟨hruns, hphase, (phase_resources hruns 0).2.2.2.2.2 hphase⟩

end FilteredFeed.Engine
