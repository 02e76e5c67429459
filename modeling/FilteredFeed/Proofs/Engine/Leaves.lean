import FilteredFeed.Proofs.Engine.Course

namespace FilteredFeed.Engine

open FilteredFeed.Feed FilteredFeed.Filter FilteredFeed.Listener FilteredFeed.Timeline
open FilteredFeed.Scenario (Asker)

variable [Patterns]
variable {e e' : Engine} {t : TimelineId} {m : Move}

-- Calls of the owner of a timeline.

theorem alike_hold (e : Engine) (t t' : TimelineId) :
    (e.timeline t').Alike ((e.hold t).timeline t') :=
  alike_retain e (.timeline t) t'

theorem hold_lt (ht : t < e.timelines.length) (t' : TimelineId) :
    t < (e.hold t').timelines.length := by
  rw [size_hold]
  exact ht

theorem timeline_hold_ne {t' : TimelineId} (hne : t ≠ t') : (e.hold t').timeline t = e.timeline t :=
  timeline_modifyTimeline_ne hne _

theorem alike_deactivate (ht : t < e.timelines.length)
    (hactive : (e.timeline t).phase.isActive = true) :
    (stopped (e.timeline t)).Alike (((e.hold t).deactivate t).timeline t) := by
  have hhold := alike_hold e t t
  have hT : ((e.hold t).teardown t).2.timeline t = stopped ((e.hold t).timeline t) :=
    timeline_teardown (hold_lt ht t)
  unfold deactivate
  rw [if_pos (hhold.phase ▸ hactive)]
  exact hT ▸ alike_stopped hhold

theorem leaves_deactivate (ht : t < e.timelines.length) (t' : TimelineId) :
    Leaves e t (.deactivate t') ((e.hold t').deactivate t') := by
  by_cases hne : t = t'
  · subst hne
    cases hactive : (e.timeline t).phase.isActive with
    | true => exact ⟨_, .stopped hactive, alike_deactivate ht hactive⟩
    | false =>
        have hhold := alike_hold e t t
        unfold deactivate
        rw [hhold.phase, hactive]
        exact leaves_kept hhold
  · refine leaves_same ?_
    unfold deactivate
    split
    · exact ((apart_teardown _ t').others t hne).trans (timeline_hold_ne hne)
    · exact timeline_hold_ne hne

theorem alike_invalidate (ht : t < e.timelines.length)
    (hphase : (e.timeline t).phase ≠ .disposed) :
    (e.restarted t).Alike (((e.hold t).invalidate t).timeline t) := by
  have hhold := alike_hold e t t
  have hcurrent : (e.hold t).current t = e.current t := current_congr hhold.query rfl
  unfold invalidate
  rw [if_neg (hhold.phase ▸ hphase)]
  exact (restarted_alike hhold hcurrent).trans (alike_invalidateNow (hold_lt ht t))

theorem leaves_invalidate (ht : t < e.timelines.length) (t' : TimelineId) :
    Leaves e t (.invalidate t') ((e.hold t').invalidate t') := by
  by_cases hne : t = t'
  · subst hne
    by_cases hphase : (e.timeline t).phase = .disposed
    · have hhold := alike_hold e t t
      unfold invalidate
      rw [if_pos (hhold.phase.trans hphase)]
      exact leaves_kept hhold
    · exact ⟨_, .invalidated hphase, alike_invalidate ht hphase⟩
  · refine leaves_same ?_
    unfold invalidate
    split
    · exact timeline_hold_ne hne
    · exact ((within_invalidateNow _ t').others t hne).trans (timeline_hold_ne hne)

theorem alike_ended {T T' : Timeline} (h : T.Alike T') : (ended T).Alike (ended T') := by
  obtain ⟨holders, pump, refetch, rfl⟩ := h
  exact ⟨holders, none, none, rfl⟩

theorem alike_dispose (ht : t < e.timelines.length) (hphase : (e.timeline t).phase ≠ .disposed) :
    (ended (e.timeline t)).Alike (((e.hold t).dispose t).timeline t) := by
  have hhold := alike_hold e t t
  have hT : (((e.hold t).endWork t).modifyTimeline t ended).timeline t =
      ended ((e.hold t).timeline t) := by
    rw [timeline_modifyTimeline_self ((apart_endWork (e.hold t) t).size ▸ hold_lt ht t),
      timeline_endWork]
  rw [dispose_eq, if_neg (hhold.phase ▸ hphase)]
  exact hT ▸ alike_ended hhold

theorem leaves_dispose (ht : t < e.timelines.length) (t' : TimelineId) :
    Leaves e t (.dispose t') ((e.hold t').dispose t') := by
  by_cases hne : t = t'
  · subst hne
    by_cases hphase : (e.timeline t).phase = .disposed
    · have hhold := alike_hold e t t
      rw [dispose_eq, if_pos (hhold.phase.trans hphase)]
      exact leaves_kept hhold
    · exact ⟨_, .ended hphase, alike_dispose ht hphase⟩
  · refine leaves_same ?_
    rw [dispose_eq]
    split
    · exact timeline_hold_ne hne
    · have ha : Apart t' (e.hold t') (((e.hold t').endWork t').modifyTimeline t' ended) :=
        (apart_endWork _ t').trans (within_modifyTimeline ..).toApart
      exact (ha.others t hne).trans (timeline_hold_ne hne)

theorem alike_moved {T T' : Timeline} (h : T.Alike T') (query : Option QueryId) :
    (moved T query).Alike (moved T' query) := by
  obtain ⟨holders, pump, refetch, rfl⟩ := h
  exact ⟨holders, pump, refetch, rfl⟩

theorem current_leaveQuery (ht : t < e.timelines.length) (query : Option QueryId) :
    (e.leaveQuery t query).current t =
      match query with
      | some q => ((e.query q).compile.1, some (e.query q).revision)
      | none => (.contradiction, none) := by
  have hquery : ((e.leaveQuery t query).timeline t).query = query := by
    rw [timeline_leaveQuery ht]
    rfl
  unfold current
  rw [hquery]
  cases query with
  | none => rfl
  | some q =>
      have hkept : ((e.leaveQuery t (some q)).query q).compile.1 = (e.query q).compile.1 ∧
          ((e.leaveQuery t (some q)).query q).revision = (e.query q).revision := by
        change ((e.dropSubscription (e.timeline t).subscription).query q).compile.1 = _ ∧
          ((e.dropSubscription (e.timeline t).subscription).query q).revision = _
        cases (e.timeline t).subscription with
        | none => exact ⟨rfl, rfl⟩
        | some s =>
            rcases query_modifyQuery e s.1 q fun query =>
              { query with registry := (query.registry.unsubscribe s.2).2 } with h | ⟨rfl, h⟩
            · exact ⟨congrArg (fun query => query.compile.1) h, congrArg Query.revision h⟩
            · unfold dropSubscription
              dsimp only
              rw [h]
              refine ⟨?_, rfl⟩
              unfold Query.compile
              cases (e.query s.1).compiled <;> rfl
      simp only [hkept.1, hkept.2]

theorem alike_setQuery (ht : t < e.timelines.length) {query : Option QueryId}
    (hphase : (e.timeline t).phase ≠ .disposed) (hquery : (e.timeline t).query ≠ query) :
    ((e.leaveQuery t query).restarted t).Alike
      (((e.hold t).setQuery t query).2.timeline t) := by
  have hhold := alike_hold e t t
  have hsize : t < ((e.hold t).leaveQuery t query).timelines.length := by
    have ha : Apart t (e.hold t) ((e.hold t).leaveQuery t query) :=
      (apart_unsubscribe _ t).trans (within_modifyTimeline ..).toApart
    exact ha.size ▸ hold_lt ht t
  have hmoved : ((e.leaveQuery t query).timeline t).Alike
      (((e.hold t).leaveQuery t query).timeline t) := by
    rw [timeline_leaveQuery ht, timeline_leaveQuery (hold_lt ht t)]
    exact alike_moved hhold query
  have hcurrent : ((e.hold t).leaveQuery t query).current t =
      (e.leaveQuery t query).current t := by
    rw [current_leaveQuery ht, current_leaveQuery (hold_lt ht t)]
    rfl
  rw [setQuery_eq, hhold.phase, hhold.query, if_neg (not_or.mpr ⟨hphase, hquery⟩)]
  exact (restarted_alike hmoved hcurrent).trans (alike_invalidateNow hsize)

theorem leaves_setQuery (ht : t < e.timelines.length) (t' : TimelineId) (query : Option QueryId) :
    Leaves e t (.setQuery t' query) ((e.hold t').setQuery t' query).2 := by
  by_cases hne : t = t'
  · subst hne
    by_cases hchange : (e.timeline t).phase = .disposed ∨ (e.timeline t).query = query
    · have hhold := alike_hold e t t
      rw [setQuery_eq, hhold.phase, hhold.query, if_pos hchange]
      exact leaves_kept hhold
    · obtain ⟨hphase, hquery⟩ := not_or.mp hchange
      exact ⟨_, .requeried hphase hquery, alike_setQuery ht hphase hquery⟩
  · refine leaves_same ?_
    rw [setQuery_eq]
    split
    · exact timeline_hold_ne hne
    · have ha : Apart t' (e.hold t') (((e.hold t').leaveQuery t' query).invalidateNow t') :=
        ((apart_unsubscribe _ t').trans (within_modifyTimeline ..).toApart).trans
          (within_invalidateNow _ t').toApart
      exact (ha.others t hne).trans (timeline_hold_ne hne)

-- Live items.

-- An active timeline tests an item after it has caught up.
def tested (e : Engine) (t : TimelineId) (item : Item) : Timeline :=
  if (e.caught t).compiled.accepts item then (e.caught t).receive item else e.caught t

theorem tested_eq (e : Engine) (t : TimelineId) (item : Item) :
    e.tested t item = e.caught t ∨
      (e.caught t).compiled.accepts item = true ∧ e.tested t item = (e.caught t).receive item := by
  unfold tested
  split
  · rename_i haccepts
    exact .inr ⟨haccepts, rfl⟩
  · exact .inl rfl

theorem compiled_catchUp (ht : t < e.timelines.length) :
    ((e.catchUp t).timeline t).compiled = (e.caught t).compiled := (alike_catchUp ht).compiled

theorem alike_offer (ht : t < e.timelines.length)
    (hactive : (e.timeline t).phase.isActive = true) (item : Item) :
    (e.tested t item).Alike ((e.offer t item).2.timeline t) := by
  have hcatch := alike_catchUp ht
  have hsize : t < (e.catchUp t).timelines.length := by
    rw [(within_catchUp e t).size]
    exact ht
  rw [offer_eq, if_neg (by simp [hactive]), compiled_catchUp ht]
  unfold tested
  split
  · have hT : ((e.catchUp t).modifyTimeline t (·.receive item)).timeline t =
        ((e.catchUp t).timeline t).receive item := timeline_modifyTimeline_self hsize _
    exact hT ▸ hcatch.receive item
  · exact hcatch

theorem caught_congr (htimelines : e'.timelines = e.timelines) (hqueries : e'.queries = e.queries)
    (t : TimelineId) : e'.caught t = e.caught t := by
  have hT := timeline_congr htimelines t
  have hstale : e'.isStale t = e.isStale t :=
    isStale_congr (by rw [hT]) (by rw [hT]) fun q => by unfold query; rw [hqueries]
  have hcurrent : e'.current t = e.current t := current_congr (by rw [hT]) hqueries
  unfold caught restarted
  rw [hstale, hcurrent, hT]

theorem leaves_offer (ht : t < e.timelines.length) (htimelines : e'.timelines = e.timelines)
    (hqueries : e'.queries = e.queries) {t' : TimelineId} (item : Item)
    (hm : e.Delivers t' item m) : Leaves e t m (e'.offer t' item).2 := by
  by_cases hne : t = t'
  · subst hne
    have hT := timeline_congr htimelines t
    cases hactive : (e.timeline t).phase.isActive with
    | true =>
        have halike := alike_offer (e := e') (t := t) (htimelines ▸ ht) (hT ▸ hactive) item
        have hcaught := tested_eq e' t item
        rw [caught_congr htimelines hqueries] at hcaught
        exact ⟨_, .offered hm hactive hcaught, halike⟩
    | false =>
        rw [offer_eq, hT, hactive]
        exact leaves_same hT
  · exact leaves_same (((within_offer e' t' item).others t hne).trans (timeline_congr htimelines t))

-- Operations and tasks.

theorem leaves_complete (ht : t < e.timelines.length) {o : OperationId}
    (hawaits : e.awaits (.operation o) = true) (result : Except StorageError (List Item)) :
    Leaves e t (.answer (.operation o) result) (e.after (.answer (.operation o) result)) := by
  have hafter : e.after (.answer (.operation o) result) = e.complete o result := rfl
  cases completes e o result with
  | unasked hnone heq =>
      rw [hafter, heq]
      exact leaves_same rfl
  | ended hop hwhy heq =>
      refine Loses.leaves ?_
      rw [hafter, heq]
      exact loses_close e t o _
  | @merged t' kind r items phase outcome hop hg hphase heq =>
      have hasks : e.asks (.operation o) = some (t', r) := by simp only [asks, hop]
      have hmerged : Leaves e t (.answer (.operation o) (.ok items))
          (e.modifyTimeline t' fun T => (({ T with phase } : Timeline).absorb items).1) := by
        by_cases hne : t = t'
        · subst hne
          have hphase' := hphase.imp And.right And.right
          refine ⟨_, .absorbed hawaits hasks hg hphase', ?_⟩
          rw [timeline_modifyTimeline_self ht]
          exact .refl _
        · exact leaves_same (timeline_modifyTimeline_ne hne _)
      refine hmerged.loses ?_
      rw [hafter, heq]
      exact loses_close ..
  | @rolledBack t' r cause hop hg heq =>
      have hasks : e.asks (.operation o) = some (t', r) := by simp only [asks, hop]
      rw [hafter, heq]
      by_cases hne : t = t'
      · subst hne
        have hT : ((e.setStatus o .running).teardown t).2.timeline t = stopped (e.timeline t) :=
          timeline_teardown (e := e.setStatus o .running) ht
        exact ⟨_, .rolledBack hawaits hasks hg, hT ▸ .refl _⟩
      · exact leaves_same ((apart_teardown (e.setStatus o .running) t').others t hne)

theorem leaves_cancel (e : Engine) (t : TimelineId) (o : OperationId) :
    Leaves e t (.cancel o) (e.after (.cancel o)) := by
  refine Loses.leaves ?_
  change Loses t e (e.cancel o)
  unfold cancel
  split
  · exact loses_close e t o _
  · exact .inl (.refl _)

theorem replenished_alike (T : Timeline) : ∃ phase, (phase = T.phase ∨ phase = .active) ∧
    ({ T with phase } : Timeline).Alike (replenished T) := by
  refine ⟨(replenished T).phase, ?_, _, _, none, rfl⟩
  unfold replenished
  dsimp only
  split
  · exact .inr rfl
  · exact .inl rfl

theorem leaves_completeTask (ht : t < e.timelines.length) {k : TaskId}
    (hawaits : e.awaits (.task k) = true) (result : Except StorageError (List Item)) :
    Leaves e t (.answer (.task k) result) (e.completeTask k result) := by
  have hother {e' : Engine} (hb : Background e e') {t' : TimelineId} (hne : t ≠ t')
      (f : Timeline → Timeline) {result : Except StorageError (List Item)} :
      Leaves e t (.answer (.task k) result) (e'.modifyTimeline t' f) :=
    leaves_same ((timeline_modifyTimeline_ne hne f).trans (hb.timeline t))
  have hself {e' : Engine} (hb : Background e e') (f : Timeline → Timeline) :
      (e'.modifyTimeline t f).timeline t = f (e.timeline t) := by
    rw [timeline_modifyTimeline_self (hb.timelines ▸ ht), hb.timeline]
  obtain ⟨phase, hphase, halike⟩ := replenished_alike (e.timeline t)
  cases replenishes e k result with
  | background hb => exact leaves_same (hb.timeline t)
  | @filled t' r items e₁ hasks halive hg hb heq =>
      rw [heq]
      by_cases hne : t = t'
      · subst hne
        refine ⟨_, .absorbed hawaits hasks hg hphase, ?_⟩
        rw [hself hb]
        exact halike.absorb items
      · exact hother hb hne _
  | @failed t' r cause e₁ hasks halive hg hb heq =>
      rw [heq]
      by_cases hne : t = t'
      · subst hne
        refine ⟨_, .failed hawaits hasks hg hphase, ?_⟩
        rw [hself hb]
        obtain ⟨holders, pump, refetch, hT⟩ := halike
        rw [hT]
        exact ⟨holders, pump, refetch, rfl⟩
      · exact hother hb hne _

theorem timeline_prepare_current {t' : TimelineId} (h : e.isStale t' = false) (o : OperationId)
    (generation : Nat) (t : TimelineId) : (e.prepare t' o generation).timeline t = e.timeline t := by
  rw [prepare_eq, prepared_of_current h]
  split <;> rfl

theorem isStale_launch (ht : t < e.timelines.length) : (e.launch t).isStale t = e.isStale t := by
  refine isStale_congr ?_ ?_ fun _ => rfl
  · rw [timeline_launch ht]
  · rw [timeline_launch ht]

-- A timeline without a query has nothing to apply.
theorem isStale_of_query_none (hw : Wired e) (h : (e.timeline t).query = none) :
    e.isStale t = false := by
  have hrevision : (e.timeline t).compiledRevision = none := by
    cases hr : (e.timeline t).compiledRevision with
    | none => rfl
    | some revision =>
        obtain ⟨q, hq, -⟩ := (hw.bound t).applied revision hr
        rw [h] at hq
        cases hq
  simp [isStale, h, hrevision]

-- The filter that a timeline tests items with is the one it applies after it has caught up.
theorem currentFilter_eq (hw : Wired e) (t : TimelineId) :
    (e.currentFilter t).1 = (e.caught t).compiled := by
  unfold currentFilter
  cases hquery : (e.timeline t).query with
  | none => rw [caught_of_current (isStale_of_query_none hw hquery)]
  | some q =>
      cases hstale : e.isStale t with
      | false => rw [caught_of_current hstale]; rfl
      | true =>
          obtain ⟨events, hT⟩ := restarted_eq e t
          rw [caught_of_stale hstale, hT]
          simp [renewed, current, hquery, compile]

theorem timeline_launched (hw : Wired e) {t' : TimelineId} (ht : t' < e.timelines.length)
    (o : OperationId) (t : TimelineId) : (e.launched t' o).timeline t = (e.launch t').timeline t := by
  unfold launched
  split
  · rfl
  · rename_i hquery
    exact timeline_prepare_current
      ((isStale_launch ht).trans (isStale_of_query_none hw hquery)) o _ t

theorem leaves_startActivation (hw : Wired e) (t : TimelineId) {t' : TimelineId}
    (halive : e.isAlive (.timeline t') = true) (hasRuntime : Bool) :
    Leaves e t (.startActivation t' hasRuntime) (e.after (.startActivation t' hasRuntime)) := by
  have hadded : (e.timeline t).Alike ((e.addOperation t' .activation).2.timeline t) :=
    alike_retain _ (.timeline t') t
  have hsize := (calm_addOperation Nothing e t' .activation).size
  rcases startActivation_cases e t' hasRuntime with ⟨hphase, rfl, heq⟩ | ⟨-, result, heq⟩
  · have hw' : Wired (e.addOperation t' .activation).2 := hw.quiet (links_addOperation ..)
    have ht' := hsize ▸ isAlive_lt halive
    change Leaves e t _ (e.startActivation t' true).2
    rw [heq]
    unfold Leaves
    rw [timeline_launched hw' ht']
    by_cases hne : t = t'
    · subst hne
      refine ⟨_, .launched hphase, ?_⟩
      rw [timeline_launch ht', hadded.generation]
      obtain ⟨holders, pump, refetch, hT⟩ := hadded
      rw [hT]
      exact ⟨_, _, _, rfl⟩
    · refine ⟨_, .kept _, ?_⟩
      have hkept : ((e.addOperation t' .activation).2.launch t').timeline t =
          (e.addOperation t' .activation).2.timeline t := timeline_modifyTimeline_ne hne _
      rw [hkept]
      exact hadded
  · refine (leaves_kept hadded).loses ?_
    change Loses t _ (e.startActivation t' hasRuntime).2
    rw [heq]
    exact loses_close ..

theorem leaves_startPage (e : Engine) (t t' : TimelineId) (before : Option ItemId) (limit : Nat) :
    Leaves e t (.startPage t' before limit) (e.after (.startPage t' before limit)) := by
  have hadded : (e.timeline t).Alike ((e.addOperation t' .page).2.timeline t) :=
    alike_retain _ (.timeline t') t
  refine (leaves_kept hadded).loses ?_
  change Loses t _ (e.startPage t' before limit).2
  unfold startPage
  dsimp only
  split
  · exact loses_close ..
  · exact .inl (.refl _)

theorem alike_startRefetch (e : Engine) (t t' : TimelineId) :
    (e.timeline t).Alike ((e.startRefetch t').timeline t) := by
  by_cases hne : t = t'
  · subst hne
    by_cases ht : t < e.timelines.length
    · rw [timeline_startRefetch ht]
      exact ⟨_, _, _, rfl⟩
    · have hle := Nat.le_of_not_lt ht
      rw [timeline_of_le hle, timeline_of_le ((within_startRefetch e t).size ▸ hle)]
      exact .refl _
  · rw [(within_startRefetch e t').others t hne]
    exact .refl _

theorem leaves_turn (ht : t < e.timelines.length) (k : TaskId) :
    Leaves e t (.turn k) (e.turn k) := by
  cases polls e k with
  | background hb => exact leaves_same (hb.timeline t)
  | offered htask halive hitem hb heq =>
      rw [heq]
      exact leaves_offer ht hb.timelines hb.queries _ (.turn htask hitem)
  | lagged htask halive hactive hmissed hb heq =>
      rw [heq]
      refine leaves_kept (Alike.trans ?_ (alike_startRefetch ..))
      exact hb.timeline t ▸ .refl _

theorem leaves_existing (hw : Wired e) (hallows : e.allows m = true) (ht : t < e.timelines.length) :
    Leaves e t m (e.after m) := by
  cases m with
  | step => exact leaves_step hw ht hallows
  | leaveObserver =>
      refine leaves_same ?_
      change (e.leaveObserver).timeline t = _
      unfold leaveObserver
      split <;> rfl
  | addTimeline config storage stream query hasSink =>
      refine leaves_same ?_
      change (e.addTimeline config storage stream query hasSink).2.timeline t = _
      unfold addTimeline
      dsimp only
      rw [(within_recompile _ _).others t (Nat.ne_of_lt ht), timeline_append,
        if_neg (Nat.ne_of_lt ht)]
  | addQuery | addChannel | setExpression | setSource | activateQuery | deactivateQuery | compile
  | listen | unsubscribe | releaseObserver => exact leaves_same rfl
  | retain t' => exact leaves_kept (alike_retain e (.timeline t') t)
  | drop t' =>
      refine Loses.leaves ?_
      exact loses_release e t (.timeline t')
  | deactivate t' => exact leaves_deactivate ht t'
  | invalidate t' => exact leaves_invalidate ht t'
  | dispose t' => exact leaves_dispose ht t'
  | setQuery t' query => exact leaves_setQuery ht t' query
  | accepts t' item =>
      refine leaves_same (timeline_congr ?_ t)
      change (e.currentFilter t').2.timelines = _
      unfold currentFilter
      split
      · split <;> rfl
      · rfl
  | takeUnread t' =>
      change Leaves e t _ (e.modifyTimeline t' fun timeline => { timeline with unread := 0 })
      by_cases hne : t = t'
      · subst hne
        refine ⟨_, .counted, ?_⟩
        rw [timeline_modifyTimeline_self ht]
        exact .refl _
      · exact leaves_same (timeline_modifyTimeline_ne hne _)
  | offer t' item => exact leaves_offer ht rfl rfl item .offer
  | publish s item => exact leaves_same ((background_publish e s item).timeline t)
  | closeStream s => exact leaves_same ((background_closeStream e s).timeline t)
  | startActivation t' hasRuntime =>
      exact leaves_startActivation hw t (Bool.and_eq_true_iff.mp hallows).2 hasRuntime
  | startPage t' before limit => exact leaves_startPage e t t' before limit
  | answer asker result =>
      have hawaits := (Bool.and_eq_true_iff.mp hallows).2
      cases asker with
      | operation o => exact leaves_complete ht hawaits result
      | task k => exact leaves_completeTask ht hawaits result
  | cancel o => exact leaves_cancel e t o
  | wake k => exact leaves_same ((background_wake e k).timeline t)
  | nextTask => exact leaves_same ((background_nextTask e).timeline t)
  | turn k => exact leaves_turn ht k

-- Timelines are made, and never go away.

theorem length_step (hallows : e.allows .step = true) :
    (e.after .step).timelines.length = e.timelines.length := by
  obtain ⟨f, rest, hs, -, hafter⟩ := after_step hallows
  rw [hafter]
  cases hactivation : f.isActivation with
  | false => exact (changes_perform Nothing { e with stack := rest } hactivation).size
  | true =>
      obtain ⟨t, q, epoch, o, generation, rfl⟩ := Frame.attach_of_isActivation hactivation
      change (Engine.attach _ t q epoch (.activation o generation)).timelines.length = _
      rw [attach_eq]
      split
      · rfl
      · have hsize := (apart_enrol { e with stack := rest } t q).size
        dsimp only
        rw [prepare_eq]
        split
        · exact hsize
        · exact (within_prepared _ t).size.trans hsize

theorem length_startActivation (e : Engine) (t : TimelineId) (hasRuntime : Bool) :
    (e.startActivation t hasRuntime).2.timelines.length = e.timelines.length := by
  have hadded := (calm_addOperation Nothing e t .activation).size
  rcases startActivation_cases e t hasRuntime with ⟨-, -, heq⟩ | ⟨-, result, heq⟩
  · rw [heq, ← hadded]
    have hlaunch := (changes_launch Nothing (e.addOperation t .activation).2 t).size
    unfold launched
    split
    · exact hlaunch
    · rw [prepare_eq]
      split
      · exact hlaunch
      · exact (within_prepared _ t).size.trans hlaunch
  · have hclosed := changes_close Nothing (e.addOperation t .activation).2 e.operations.length
      fun request => (nofun : Status.done result ≠ .waiting request)
    rw [heq, hclosed.size, hadded]

theorem length_startPage (e : Engine) (t : TimelineId) (before : Option ItemId) (limit : Nat) :
    (e.startPage t before limit).2.timelines.length = e.timelines.length := by
  have hadded := (calm_addOperation Nothing e t .page).size
  unfold startPage
  dsimp only
  split
  · have hclosed := changes_close Nothing (e.addOperation t .page).2 e.operations.length
      fun request => (nofun : Status.done (.error .disposed) ≠ .waiting request)
    exact hclosed.size.trans hadded
  · exact hadded

-- How many timelines a move makes.
def Move.makes : Move → Nat
  | .addTimeline .. => 1
  | _ => 0

theorem length_after (hallows : e.allows m = true) :
    (e.after m).timelines.length = e.timelines.length + m.makes := by
  cases hplain : m.isPlain with
  | true =>
      have hmakes : m.makes = 0 := by
        cases m with
        | addTimeline => cases hplain
        | _ => rfl
      rw [hmakes]
      exact (changes_after hallows hplain).size
  | false =>
      cases Move.special hplain with
      | step => exact length_step hallows
      | leaveObserver =>
          change e.leaveObserver.timelines.length = e.timelines.length
          unfold leaveObserver
          split <;> rfl
      | addTimeline config storage stream query hasSink =>
          change (e.addTimeline config storage stream query hasSink).2.timelines.length = _
          unfold addTimeline
          dsimp only
          rw [(within_recompile _ _).size]
          exact List.length_append
      | startActivation t hasRuntime => exact length_startActivation e t hasRuntime
      | startPage t before limit => exact length_startPage e t before limit

theorem lt_after (ht : t < e.timelines.length) (hallows : e.allows m = true) :
    t < (e.after m).timelines.length := by
  rw [length_after hallows]
  exact Nat.lt_add_right _ ht

-- A new timeline is empty and has applied the filter of its query.
theorem timeline_addTimeline (config : Config) (storage : StorageId) (stream : StreamId)
    (query : Option QueryId) (hasSink : Bool) (ht : t = e.timelines.length) :
    ∃ compiled, (e.addTimeline config storage stream query hasSink).2.timeline t =
      { config, storage, stream, query, hasSink, compiled
        buffer := .empty config.maxItems
        compiledRevision := query.map fun q => (e.query q).revision } := by
  have hnew := timeline_append e
    { config, storage, stream, query, hasSink, buffer := .empty config.maxItems } t
  rw [if_pos ht] at hnew
  unfold addTimeline
  dsimp only
  subst ht
  rw [timeline_recompile (by simp), hnew]
  unfold current
  rw [hnew]
  cases query with
  | none => exact ⟨_, rfl⟩
  | some q => exact ⟨_, rfl⟩

theorem leaves_addTimeline (config : Config) (storage : StorageId) (stream : StreamId)
    (query : Option QueryId) (hasSink : Bool) (ht : t = e.timelines.length) :
    Leaves e t (.addTimeline config storage stream query hasSink)
      (e.addTimeline config storage stream query hasSink).2 := by
  obtain ⟨compiled, hT⟩ := timeline_addTimeline config storage stream query hasSink ht
  refine ⟨_, ?_, .refl _⟩
  rw [hT]
  exact .made ht

-- What a move can make of a timeline.
theorem leaves_after (hw : Wired e) (hallows : e.allows m = true)
    (ht : t < (e.after m).timelines.length) : Leaves e t m (e.after m) := by
  by_cases hold : t < e.timelines.length
  · exact leaves_existing hw hallows hold
  · rw [length_after hallows] at ht
    cases m with
    | addTimeline config storage stream query hasSink =>
        have ht : t < e.timelines.length + 1 := ht
        exact leaves_addTimeline config storage stream query hasSink
          (Nat.le_antisymm (Nat.le_of_lt_succ ht) (Nat.le_of_not_lt hold))
    | _ => exact absurd ht hold

end FilteredFeed.Engine
