import FilteredFeed.Proofs.Engine.Secluded

namespace FilteredFeed

open FilteredFeed.Feed FilteredFeed.Filter FilteredFeed.Listener FilteredFeed.Timeline
open FilteredFeed.Scenario (Asker)

variable [Patterns]

namespace Timeline

variable {T T' T'' : Timeline}

-- Two timelines differ at most in who holds them and in what works for them.
def Alike (T T' : Timeline) : Prop := ∃ holders pump refetch, T' = { T with holders, pump, refetch }

namespace Alike

theorem refl (T : Timeline) : T.Alike T := ⟨_, _, _, rfl⟩

theorem trans (h : T.Alike T') (h' : T'.Alike T'') : T.Alike T'' := by
  obtain ⟨_, _, _, rfl⟩ := h
  obtain ⟨holders, pump, refetch, rfl⟩ := h'
  exact ⟨holders, pump, refetch, rfl⟩

theorem buffer (h : T.Alike T') : T'.buffer = T.buffer := by
  obtain ⟨_, _, _, rfl⟩ := h
  rfl

theorem unread (h : T.Alike T') : T'.unread = T.unread := by
  obtain ⟨_, _, _, rfl⟩ := h
  rfl

theorem events (h : T.Alike T') : T'.events = T.events := by
  obtain ⟨_, _, _, rfl⟩ := h
  rfl

theorem generation (h : T.Alike T') : T'.generation = T.generation := by
  obtain ⟨_, _, _, rfl⟩ := h
  rfl

theorem phase (h : T.Alike T') : T'.phase = T.phase := by
  obtain ⟨_, _, _, rfl⟩ := h
  rfl

theorem query (h : T.Alike T') : T'.query = T.query := by
  obtain ⟨_, _, _, rfl⟩ := h
  rfl

theorem epoch (h : T.Alike T') : T'.epoch = T.epoch := by
  obtain ⟨_, _, _, rfl⟩ := h
  rfl

theorem caughtUp (h : T.Alike T') : T'.caughtUp = T.caughtUp := by
  obtain ⟨_, _, _, rfl⟩ := h
  rfl

theorem compiled (h : T.Alike T') : T'.compiled = T.compiled := by
  obtain ⟨_, _, _, rfl⟩ := h
  rfl

theorem compiledRevision (h : T.Alike T') : T'.compiledRevision = T.compiledRevision := by
  obtain ⟨_, _, _, rfl⟩ := h
  rfl

theorem subscription (h : T.Alike T') : T'.subscription = T.subscription := by
  obtain ⟨_, _, _, rfl⟩ := h
  rfl

theorem notified (h : T.Alike T') : T'.notified = T.notified := by
  obtain ⟨_, _, _, rfl⟩ := h
  rfl

theorem emit (h : T.Alike T') (delta : Delta) : (T.emit delta).Alike (T'.emit delta) := by
  obtain ⟨holders, pump, refetch, rfl⟩ := h
  unfold Timeline.emit
  split <;> exact ⟨holders, pump, refetch, rfl⟩

theorem absorb (h : T.Alike T') (items : List Item) :
    (T.absorb items).1.Alike (T'.absorb items).1 := by
  obtain ⟨holders, pump, refetch, rfl⟩ := h
  have hmerged : Alike { T with buffer := (T.buffer.merge items).1 }
      { T with holders, pump, refetch, buffer := (T.buffer.merge items).1 } :=
    ⟨holders, pump, refetch, rfl⟩
  exact hmerged.emit _

theorem receive (h : T.Alike T') (item : Item) : (T.receive item).Alike (T'.receive item) := by
  obtain ⟨holders, pump, refetch, habsorbed⟩ := h.absorb [item]
  have hdelta : (T'.absorb [item]).2 = (T.absorb [item]).2 :=
    congrArg (fun b => (Buffer.merge b [item]).2) h.buffer
  have hsettings : T'.config = T.config ∧ T'.hasSink = T.hasSink := by
    obtain ⟨_, _, _, rfl⟩ := h
    exact ⟨rfl, rfl⟩
  have hcounts : T'.unread = T.unread ∧ T'.notified = T.notified := by
    obtain ⟨_, _, _, rfl⟩ := h
    exact ⟨rfl, rfl⟩
  unfold Timeline.receive
  dsimp only
  rw [hdelta, habsorbed, hsettings.1, hsettings.2, hcounts.1, hcounts.2]
  split
  · exact ⟨holders, pump, refetch, rfl⟩
  · exact ⟨holders, pump, refetch, rfl⟩

end Alike

end Timeline

namespace Engine

variable {e e' : Engine} {t : TimelineId} {m : Move}

-- A timeline that has started again under the filter of its query, and has said so.
def restarted (e : Engine) (t : TimelineId) : Timeline :=
  (renewed (e.timeline t) (e.current t)).emit (e.timeline t).buffer.clear.2

theorem restarted_eq (e : Engine) (t : TimelineId) :
    ∃ events, e.restarted t = { renewed (e.timeline t) (e.current t) with events } := emit_eq ..

section Restarted

variable (e : Engine) (t : TimelineId)

@[simp] theorem buffer_restarted : (e.restarted t).buffer = (e.timeline t).buffer.clear.1 := by
  obtain ⟨events, h⟩ := restarted_eq e t
  rw [h]
  rfl

@[simp] theorem unread_restarted : (e.restarted t).unread = 0 := by
  obtain ⟨events, h⟩ := restarted_eq e t
  rw [h]
  rfl

@[simp] theorem generation_restarted :
    (e.restarted t).generation = (e.timeline t).generation + 1 := by
  obtain ⟨events, h⟩ := restarted_eq e t
  rw [h]
  rfl

@[simp] theorem phase_restarted : (e.restarted t).phase =
    if (e.timeline t).phase.isActive then .invalidated else (e.timeline t).phase := by
  obtain ⟨events, h⟩ := restarted_eq e t
  rw [h]
  rfl

@[simp] theorem caughtUp_restarted : (e.restarted t).caughtUp = none := by
  obtain ⟨events, h⟩ := restarted_eq e t
  rw [h]
  rfl

@[simp] theorem query_restarted : (e.restarted t).query = (e.timeline t).query := by
  obtain ⟨events, h⟩ := restarted_eq e t
  rw [h]
  rfl

@[simp] theorem subscription_restarted :
    (e.restarted t).subscription = (e.timeline t).subscription := by
  obtain ⟨events, h⟩ := restarted_eq e t
  rw [h]
  rfl

@[simp] theorem compiledRevision_restarted :
    (e.restarted t).compiledRevision = (e.current t).2 := by
  obtain ⟨events, h⟩ := restarted_eq e t
  rw [h]
  rfl

end Restarted

-- A timeline that is to test a live item, and may have to apply a change of its query before.
def caught (e : Engine) (t : TimelineId) : Timeline :=
  if e.isStale t then { e.restarted t with caughtUp := (e.current t).2 } else e.timeline t

-- A timeline that an activation has found stale.
def refitted (e : Engine) (t : TimelineId) : Timeline :=
  ({ e.timeline t with
      compiled := (e.current t).1
      compiledRevision := (e.current t).2
      unread := 0
      buffer := (e.timeline t).buffer.clear.1 } : Timeline).emit (e.timeline t).buffer.clear.2

theorem refitted_eq (e : Engine) (t : TimelineId) : ∃ events,
    e.refitted t = { e.timeline t with
      compiled := (e.current t).1
      compiledRevision := (e.current t).2
      unread := 0
      buffer := (e.timeline t).buffer.clear.1
      events } := emit_eq ..

theorem caught_of_current (h : e.isStale t = false) : e.caught t = e.timeline t := by
  unfold caught
  rw [h]
  rfl

theorem caught_of_stale (h : e.isStale t = true) :
    e.caught t = { e.restarted t with caughtUp := (e.current t).2 } := by
  unfold caught
  rw [if_pos h]

-- A live item changes nothing but the buffer and what is said of it, unless the timeline is behind its
-- query. Then it starts again first, with a mark.
theorem tested_cases {item : Item} {T : Timeline} (hT : T = e.caught t ∨
    (e.caught t).compiled.accepts item = true ∧ T = (e.caught t).receive item) :
    (e.isStale t = false ∧ ∃ buffer events unread notified,
      T = { e.timeline t with buffer, events, unread, notified }) ∨
    (e.isStale t = true ∧ ∃ buffer events unread notified,
      T = { e.restarted t with caughtUp := (e.current t).2, buffer, events, unread, notified }) := by
  have hsame : ∃ buffer events unread notified,
      T = { e.caught t with buffer, events, unread, notified } := by
    rcases hT with rfl | ⟨-, rfl⟩
    · exact ⟨_, _, _, _, rfl⟩
    · obtain ⟨events, unread, notified, h⟩ := receive_eq (e.caught t) item
      exact ⟨_, events, unread, notified, h⟩
  cases hstale : e.isStale t with
  | false => exact .inl ⟨rfl, caught_of_current hstale ▸ hsame⟩
  | true =>
      rw [caught_of_stale hstale] at hsame
      exact .inr ⟨rfl, hsame⟩

theorem alike_renewed (applied : CompiledFilter × Option Nat) {T T' : Timeline} (h : T.Alike T') :
    (renewed T applied).Alike (renewed T' applied) := by
  obtain ⟨holders, pump, refetch, rfl⟩ := h
  exact ⟨holders, pump, none, rfl⟩

theorem restarted_alike (hT : (e.timeline t).Alike (e'.timeline t))
    (hc : e'.current t = e.current t) : (e.restarted t).Alike (e'.restarted t) := by
  unfold restarted
  rw [hT.buffer, hc]
  exact (alike_renewed _ hT).emit _

theorem alike_invalidateQuietly (ht : t < e.timelines.length) :
    (e.restarted t).Alike
      (((e.invalidateQuietly t).2.timeline t).emit (e.invalidateQuietly t).1) := by
  rw [show (e.invalidateQuietly t).1 = (e.timeline t).buffer.clear.2 from
    congrArg Prod.fst (invalidateQuietly_eq e t)]
  refine Alike.emit ?_ _
  rw [timeline_invalidateQuietly ht]
  exact ⟨_, _, _, rfl⟩

theorem alike_invalidateNow (ht : t < e.timelines.length) :
    (e.restarted t).Alike ((e.invalidateNow t).timeline t) := by
  have hnow : (e.invalidateNow t).timeline t =
      ((e.invalidateQuietly t).2.timeline t).emit (e.invalidateQuietly t).1 :=
    timeline_modifyTimeline_self ((within_invalidateQuietly e t).size ▸ ht) _
  rw [hnow]
  exact alike_invalidateQuietly ht

theorem emit_mark (T : Timeline) (delta : Delta) (mark : Option Nat) :
    ({ T with caughtUp := mark } : Timeline).emit delta = { T.emit delta with caughtUp := mark } := by
  unfold Timeline.emit
  split <;> rfl

theorem alike_catchUp (ht : t < e.timelines.length) :
    (e.caught t).Alike ((e.catchUp t).timeline t) := by
  unfold caught catchUp
  split
  · have hsize := (within_invalidateQuietly e t).size
    have hrestarted := alike_invalidateQuietly ht
    have hrevision : ((e.invalidateQuietly t).2.timeline t).compiledRevision = (e.current t).2 := by
      rw [timeline_invalidateQuietly ht]
      rfl
    have hmarked : ((e.invalidateQuietly t).2.modifyTimeline t fun timeline =>
        { timeline with caughtUp := timeline.compiledRevision }).timeline t =
          { (e.invalidateQuietly t).2.timeline t with caughtUp := (e.current t).2 } := by
      rw [timeline_modifyTimeline_self (hsize ▸ ht), ← hrevision]
    unfold emit
    rw [timeline_modifyTimeline_self (by simpa [modifyTimeline, hsize] using ht), hmarked, emit_mark]
    obtain ⟨holders, pump, refetch, heq⟩ := hrestarted
    rw [heq]
    exact ⟨holders, pump, refetch, rfl⟩
  · exact .refl _

-- A timeline loses a holder, and with the last one it is stopped.
def Loses (t : TimelineId) (e e' : Engine) : Prop :=
  (e.timeline t).Alike (e'.timeline t) ∨
    (stopped (e.timeline t)).Alike (e'.timeline t) ∧ e'.isAlive (.timeline t) = false

theorem alike_stopped {T T' : Timeline} (h : T.Alike T') : (stopped T).Alike (stopped T') := by
  obtain ⟨holders, pump, refetch, rfl⟩ := h
  exact ⟨holders, none, none, rfl⟩

theorem alike_dropHold (e : Engine) (t t' : TimelineId) :
    (e.timeline t').Alike ((e.dropHold t).timeline t') := by
  rw [timeline_dropHold]
  exact ⟨_, _, _, rfl⟩

theorem holders_of_isLastHold (h : e.isLastHold t = true) : (e.timeline t).holders = 1 := by
  have ht := isLastHold_lt h
  simpa [isLastHold, timeline, List.getElem?_eq_getElem ht] using h

theorem isAlive_eq (ht : t < e.timelines.length) :
    e.isAlive (.timeline t) = decide (0 < (e.timeline t).holders) := by
  simp [isAlive, timeline, List.getElem?_eq_getElem ht]

theorem loses_release (e : Engine) (t : TimelineId) (target : Target) :
    Loses t e (e.release target) := by
  cases target with
  | observer o => exact .inl (.refl _)
  | timeline t' =>
      by_cases hne : t = t'
      · subst hne
        rw [release_eq]
        cases hlast : e.isLastHold t with
        | false => exact .inl (alike_dropHold e t t)
        | true =>
            have ht : t < (e.dropHold t).timelines.length := by
              simpa [dropHold, modifyTimeline] using isLastHold_lt hlast
            have hT : (((e.dropHold t).teardown t).2.push
                (deactivations ((e.dropHold t).timeline t).activated)).timeline t =
                  stopped ((e.dropHold t).timeline t) := timeline_teardown ht
            have hholders : ((e.dropHold t).timeline t).holders = 0 := by
              unfold dropHold
              rw [timeline_modifyTimeline_self (isLastHold_lt hlast)]
              simp [holders_of_isLastHold hlast]
            refine .inr ⟨?_, ?_⟩
            · rw [if_pos rfl, hT]
              exact alike_stopped (alike_dropHold e t t)
            · rw [if_pos rfl, isAlive_eq, hT]
              · simp [stopped, hholders]
              · exact (apart_teardown (e.dropHold t) t).size ▸ ht
      · exact .inl (timeline_release_ne hne ▸ .refl _)

theorem loses_close (e : Engine) (t : TimelineId) (o : OperationId) (status : Status) :
    Loses t e (e.close o status) := by
  unfold close
  split
  · exact loses_release (e.setStatus o status) t _
  · exact .inl (.refl _)

-- A live item reaches a timeline.
inductive Delivers (e : Engine) (t : TimelineId) (item : Item) : Move → Prop
  | offer : Delivers e t item (.offer t item)
  | turn {k : TaskId} {s : StreamId} {started : Bool}
      (htask : e.tasks[k]? = some ⟨.pump t s, started, false, false⟩)
      (hitem : ((e.channel s).receive k).1 = .item item) : Delivers e t item (.turn k)

-- What becomes of a timeline in one move, and when.
inductive Becomes (e : Engine) (t : TimelineId) : Move → Timeline → Prop
  | kept (m : Move) : Becomes e t m (e.timeline t)
  -- it loses its last holder
  | dropped {m : Move} {T : Timeline} (h : Becomes e t m T)
      (hdead : (e.after m).isAlive (.timeline t) = false) : Becomes e t m (stopped T)
  -- a round calls it
  | told {revision : Nat} {rest : List Frame} (hs : e.stack = .call (.timeline t) revision :: rest)
      (hheeds : e.heeds t revision = true) : Becomes e t .step (e.restarted t)
  | unmarked {revision : Nat} {rest : List Frame}
      (hs : e.stack = .call (.timeline t) revision :: rest)
      (hmark : (e.timeline t).caughtUp = some revision) (hheeds : e.heeds t revision = false) :
      Becomes e t .step { e.timeline t with caughtUp := none }
  -- it is attached to its query
  | enrolled {q : QueryId} {purpose : Purpose} {rest : List Frame}
      (hs : e.stack = .attach t q (e.timeline t).epoch purpose :: rest)
      (hcurrent : e.isStale t = false ∨
        ∃ o generation, purpose = .activation o generation ∧ generation ≠ (e.timeline t).generation) :
      Becomes e t .step
        { e.timeline t with
          subscription := some (q, (e.query q).registry.nextId)
          activated := some q }
  | refreshed {q : QueryId} {rest : List Frame}
      (hs : e.stack = .attach t q (e.timeline t).epoch .swap :: rest)
      (hstale : e.isStale t = true) :
      Becomes e t .step ((({ e with stack := rest } : Engine).enrol t q).restarted t)
  | refitted {q : QueryId} {o : OperationId} {rest : List Frame}
      (hs : e.stack =
        .attach t q (e.timeline t).epoch (.activation o (e.timeline t).generation) :: rest)
      (hstale : e.isStale t = true) :
      Becomes e t .step ((({ e with stack := rest } : Engine).enrol t q).refitted t)
  -- what a dispose has done is said
  | emitted {delta : Delta} {rest : List Frame} (hs : e.stack = .emit t delta :: rest) :
      Becomes e t .step ((e.timeline t).emit delta)
  -- somebody calls it
  | stopped (hactive : (e.timeline t).phase.isActive = true) :
      Becomes e t (.deactivate t) (stopped (e.timeline t))
  | invalidated (hphase : (e.timeline t).phase ≠ .disposed) :
      Becomes e t (.invalidate t) (e.restarted t)
  | requeried {query : Option QueryId} (hphase : (e.timeline t).phase ≠ .disposed)
      (hquery : (e.timeline t).query ≠ query) :
      Becomes e t (.setQuery t query) ((e.leaveQuery t query).restarted t)
  | ended (hphase : (e.timeline t).phase ≠ .disposed) :
      Becomes e t (.dispose t) (ended (e.timeline t))
  | counted : Becomes e t (.takeUnread t) { e.timeline t with unread := 0 }
  | launched (hphase : (e.timeline t).phase = .inactive) :
      Becomes e t (.startActivation t true)
        { e.timeline t with
          phase := .activating
          generation := (e.timeline t).generation + 1
          hasRuntime := true }
  -- a live item reaches it
  | offered {m : Move} {item : Item} {T : Timeline} (hm : Delivers e t item m)
      (hactive : (e.timeline t).phase.isActive = true)
      (hT : T = e.caught t ∨
        (e.caught t).compiled.accepts item = true ∧ T = (e.caught t).receive item) :
      Becomes e t m T
  -- storage answers it
  | absorbed {a : Asker} {r : FetchRequest} {items : List Item} {phase : Phase}
      (hawaits : e.awaits a = true) (hasks : e.asks a = some (t, r))
      (hcurrent : r.generation = (e.timeline t).generation)
      (hphase : phase = (e.timeline t).phase ∨ phase = .active) :
      Becomes e t (.answer a (.ok items)) (({ e.timeline t with phase } : Timeline).absorb items).1
  | failed {k : TaskId} {r : FetchRequest} {cause : StorageError} {phase : Phase}
      (hawaits : e.awaits (.task k) = true) (hasks : e.asks (.task k) = some (t, r))
      (hcurrent : r.generation = (e.timeline t).generation)
      (hphase : phase = (e.timeline t).phase ∨ phase = .active) :
      Becomes e t (.answer (.task k) (.error cause))
        (({ e.timeline t with phase } : Timeline).emitEvent (.refetchFailed r.generation cause.message))
  | rolledBack {o : OperationId} {r : FetchRequest} {cause : StorageError}
      (hawaits : e.awaits (.operation o) = true) (hasks : e.asks (.operation o) = some (t, r))
      (hcurrent : r.generation = (e.timeline t).generation) :
      Becomes e t (.answer (.operation o) (.error cause)) (Engine.stopped (e.timeline t))
  -- it is made
  | made {config : Config} {storage : StorageId} {stream : StreamId} {query : Option QueryId}
      {hasSink : Bool} {compiled : CompiledFilter} (ht : t = e.timelines.length) :
      Becomes e t (.addTimeline config storage stream query hasSink)
        { config, storage, stream, query, hasSink, compiled
          buffer := .empty config.maxItems
          compiledRevision := query.map fun q => (e.query q).revision }

-- How a move leaves a timeline.
def Leaves (e : Engine) (t : TimelineId) (m : Move) (e' : Engine) : Prop :=
  ∃ T, Becomes e t m T ∧ T.Alike (e'.timeline t)

theorem leaves_kept (h : (e.timeline t).Alike (e'.timeline t)) : Leaves e t m e' :=
  ⟨_, .kept m, h⟩

theorem leaves_same (h : e'.timeline t = e.timeline t) : Leaves e t m e' :=
  leaves_kept (h ▸ .refl _)

-- The last holder may go after that.
theorem Leaves.loses (h : Leaves e t m e') (hloses : Loses t e' (e.after m)) :
    Leaves e t m (e.after m) := by
  obtain ⟨T, hT, halike⟩ := h
  rcases hloses with hloses | ⟨hloses, hdead⟩
  · exact ⟨T, hT, halike.trans hloses⟩
  · exact ⟨_, .dropped hT hdead, (alike_stopped halike).trans hloses⟩

theorem Loses.leaves (h : Loses t e (e.after m)) : Leaves e t m (e.after m) := by
  rcases h with h | ⟨h, hdead⟩
  · exact leaves_kept h
  · exact ⟨_, .dropped (.kept m) hdead, h⟩

-- Calls that go on.

theorem timeline_prepared_stale (ht : t < e.timelines.length) (hstale : e.isStale t = true) :
    (e.prepared t).timeline t = e.refitted t := by
  have hsize := (within_recompile e t).size
  unfold prepared refitted emit
  rw [if_pos hstale, timeline_modifyTimeline_self (by simpa [modifyTimeline, hsize] using ht),
    timeline_modifyTimeline_self (hsize ▸ ht), timeline_recompile ht]

theorem prepared_of_current (hcurrent : e.isStale t = false) : e.prepared t = e := by
  simp [prepared, hcurrent]

section Attach

variable {rest : List Frame} {q : QueryId} {epoch : Nat} {purpose : Purpose}

theorem timeline_enrol_popped (hw : Wired e)
    (hs : e.stack = .attach t q epoch purpose :: rest) (hepoch : (e.timeline t).epoch = epoch) :
    (({ e with stack := rest } : Engine).enrol t q).timeline t =
      { e.timeline t with
        subscription := some (q, (e.query q).registry.nextId)
        activated := some q } := by
  have ht : t < e.timelines.length := attach_lt hw hs hepoch
  exact timeline_enrol (e := { e with stack := rest }) ht q

-- A timeline that a swap has found stale starts again, and one that an activation has is refitted.

theorem alike_attach_swap (hw : Wired e) (hs : e.stack = .attach t q (e.timeline t).epoch .swap :: rest)
    (hstale : e.isStale t = true) :
    ((({ e with stack := rest } : Engine).enrol t q).restarted t).Alike
      ((({ e with stack := rest } : Engine).attach t q (e.timeline t).epoch .swap).timeline t) := by
  have ht := attach_lt hw hs rfl
  have hsize : t < (({ e with stack := rest } : Engine).enrol t q).timelines.length :=
    (apart_enrol { e with stack := rest } t q).size ▸ ht
  have hepoch : (({ e with stack := rest } : Engine).timeline t).epoch = (e.timeline t).epoch := rfl
  rw [attach_eq, if_neg (not_not_intro hepoch)]
  dsimp only
  unfold refresh
  rw [isStale_popped, hstale]
  exact alike_invalidateNow hsize

theorem timeline_attach_activation (hw : Wired e) {o : OperationId}
    (hs : e.stack =
      .attach t q (e.timeline t).epoch (.activation o (e.timeline t).generation) :: rest)
    (hstale : e.isStale t = true) :
    (({ e with stack := rest } : Engine).attach t q (e.timeline t).epoch
      (.activation o (e.timeline t).generation)).timeline t =
        (({ e with stack := rest } : Engine).enrol t q).refitted t := by
  have ht := attach_lt hw hs rfl
  have hsize : t < (({ e with stack := rest } : Engine).enrol t q).timelines.length :=
    (apart_enrol { e with stack := rest } t q).size ▸ ht
  have hgeneration : ((({ e with stack := rest } : Engine).enrol t q).timeline t).generation =
      (e.timeline t).generation := generation_enrol ..
  have hepoch : (({ e with stack := rest } : Engine).timeline t).epoch = (e.timeline t).epoch := rfl
  rw [attach_eq, if_neg (not_not_intro hepoch)]
  dsimp only
  rw [prepare_eq, if_neg (not_not_intro hgeneration)]
  exact timeline_prepared_stale hsize ((isStale_popped e rest t q).trans hstale)

-- An attachment of the present epoch subscribes its timeline, which then applies a change that came
-- before.
theorem leaves_attach (hw : Wired e) (hs : e.stack = .attach t q (e.timeline t).epoch purpose :: rest) :
    Leaves e t .step
      (({ e with stack := rest } : Engine).attach t q (e.timeline t).epoch purpose) := by
  have hT := timeline_enrol_popped hw hs rfl
  have hstale := isStale_popped e rest t q
  have hgeneration : ((({ e with stack := rest } : Engine).enrol t q).timeline t).generation =
      (e.timeline t).generation := generation_enrol ..
  have henrolled (hcurrent : e.isStale t = false ∨ ∃ o generation,
      purpose = .activation o generation ∧ generation ≠ (e.timeline t).generation) :
      Leaves e t .step (({ e with stack := rest } : Engine).enrol t q) :=
    ⟨_, .enrolled hs hcurrent, hT ▸ .refl _⟩
  have hepoch : (({ e with stack := rest } : Engine).timeline t).epoch = (e.timeline t).epoch := rfl
  cases purpose with
  | swap =>
      cases hnow : e.isStale t with
      | false =>
          rw [attach_eq, if_neg (not_not_intro hepoch)]
          dsimp only
          unfold refresh
          rw [hstale, hnow]
          exact henrolled (.inl hnow)
      | true => exact ⟨_, .refreshed hs hnow, alike_attach_swap hw hs hnow⟩
  | activation o generation =>
      by_cases hg : (e.timeline t).generation = generation
      · subst hg
        cases hnow : e.isStale t with
        | false =>
            rw [attach_eq, if_neg (not_not_intro hepoch)]
            dsimp only
            rw [prepare_eq, if_neg (not_not_intro hgeneration),
              prepared_of_current (hstale.trans hnow)]
            exact henrolled (.inl hnow)
        | true =>
            refine ⟨_, .refitted hs hnow, ?_⟩
            rw [timeline_attach_activation hw hs hnow]
            exact .refl _
      · rw [attach_eq, if_neg (not_not_intro hepoch)]
        dsimp only
        rw [prepare_eq, if_pos (hgeneration ▸ hg)]
        exact henrolled (.inr ⟨o, generation, rfl, fun heq => hg heq.symm⟩)

end Attach

theorem timelines_toggled (e : Engine) (q : QueryId) : (e.toggled q).timelines = e.timelines := by
  unfold toggled
  split <;> rfl

theorem timelines_removeActivation (e : Engine) (q : QueryId) :
    (e.removeActivation q).timelines = e.timelines := by
  unfold removeActivation
  split
  · exact timelines_toggled _ q
  · rfl

theorem timeline_congr (h : e'.timelines = e.timelines) (t : TimelineId) :
    e'.timeline t = e.timeline t := by
  unfold timeline
  rw [h]

theorem alike_retain (e : Engine) (target : Target) (t : TimelineId) :
    (e.timeline t).Alike ((e.retain target).timeline t) := by
  cases target with
  | observer o => exact .refl _
  | timeline t' =>
      obtain ⟨holders, hT⟩ := timeline_retain e t' t
      exact ⟨holders, _, _, hT⟩

theorem alike_retainAll (e : Engine) (targets : List Target) (t : TimelineId) :
    (e.timeline t).Alike ((e.retainAll targets).timeline t) := by
  induction targets generalizing e with
  | nil => exact .refl _
  | cons target targets ih => exact (alike_retain e target t).trans (ih _)

theorem alike_announce (e : Engine) (q : QueryId) (revision : Nat) (t : TimelineId) :
    (e.timeline t).Alike ((e.announce q revision).timeline t) := by
  unfold announce
  dsimp only
  split
  · exact .refl _
  · exact alike_retainAll (e.modifyQuery q _) _ t

theorem alike_continueRounds (e : Engine) (q : QueryId) (t : TimelineId) :
    (e.timeline t).Alike ((e.continueRounds q).timeline t) := by
  unfold continueRounds
  dsimp only
  split
  · exact .refl _
  · exact alike_retainAll (e.modifyQuery q _) _ t
  · exact .refl _

-- A notification that is not heeded drops the mark of its revision, and does nothing else.
theorem onInvalidated_unheeded {revision : Nat} (h : e.heeds t revision = false) :
    e.onInvalidated t revision =
      if (e.timeline t).phase ≠ .disposed ∧ (e.timeline t).caughtUp = some revision then
        e.modifyTimeline t fun timeline => { timeline with caughtUp := none }
      else e := by
  unfold onInvalidated
  dsimp only
  by_cases hd : (e.timeline t).phase = .disposed
  · rw [if_pos hd, if_neg fun hboth => hboth.1 hd]
  · unfold heeds at h
    rw [decide_eq_true hd, Bool.true_and] at h
    rw [if_neg hd]
    cases hmark : (e.timeline t).caughtUp with
    | none => simp [hmark] at h
    | some mark =>
        simp only [hmark, Bool.or_eq_false_iff, decide_eq_false_iff_not, Nat.not_lt] at h
        have hboth : revision ≤ mark ∧ (!e.isStale t) = true := ⟨h.1, by simp [h.2]⟩
        simp only [hboth, and_self, if_true, hd, not_false_eq_true, ne_eq, true_and,
          Option.some.injEq, eq_comm]

theorem leaves_call (ht : t < e.timelines.length) {t' : TimelineId} {revision : Nat}
    {rest : List Frame} (hs : e.stack = .call (.timeline t') revision :: rest) :
    Leaves e t .step (({ e with stack := rest } : Engine).onInvalidated t' revision) := by
  by_cases hne : t = t'
  · subst hne
    cases hheeds : e.heeds t revision with
    | true =>
        have hnow := ((onInvalidated_cases { e with stack := rest } t revision).resolve_right
          fun h => Bool.noConfusion (h.1.symm.trans hheeds)).2
        rw [hnow]
        have halike : (e.restarted t).Alike _ :=
          alike_invalidateNow (e := { e with stack := rest }) ht
        exact ⟨_, .told hs hheeds, halike⟩
    | false =>
        rw [onInvalidated_unheeded (e := { e with stack := rest }) hheeds]
        split
        · rename_i hmark
          have hT : (({ e with stack := rest } : Engine).modifyTimeline t fun timeline =>
              { timeline with caughtUp := none }).timeline t = { e.timeline t with caughtUp := none } :=
            timeline_modifyTimeline_self ht _
          exact ⟨_, .unmarked hs hmark.2 hheeds, hT ▸ .refl _⟩
        · exact leaves_same rfl
  · exact leaves_same ((within_onInvalidated _ t' revision).others t hne)

theorem leaves_step (hw : Wired e) (ht : t < e.timelines.length) (hallows : e.allows .step = true) :
    Leaves e t .step (e.after .step) := by
  obtain ⟨f, rest, hs, hf, hafter⟩ := after_step hallows
  have hloses (h : Loses t e (e.after .step)) : Leaves e t .step (e.after .step) := h.leaves
  rw [hafter] at hloses ⊢
  cases f with
  | activate q => exact leaves_same (timeline_congr (timelines_toggled _ q) t)
  | deactivate q => exact leaves_same (timeline_congr (timelines_removeActivation _ q) t)
  | announce q revision => exact leaves_kept (alike_announce { e with stack := rest } q revision t)
  | rounds q => exact leaves_kept (alike_continueRounds { e with stack := rest } q t)
  | call target revision =>
      cases target with
      | timeline t' => exact leaves_call ht hs
      | observer o => exact leaves_same rfl
  | observer o revision => cases hf
  | release target => exact hloses (loses_release { e with stack := rest } t target)
  | attach t' q epoch purpose =>
      change Leaves e t .step (({ e with stack := rest } : Engine).attach t' q epoch purpose)
      by_cases hne : t = t'
      · subst hne
        by_cases hepoch : (e.timeline t).epoch = epoch
        · subst hepoch
          exact leaves_attach hw hs
        · refine leaves_same ?_
          have hold : (({ e with stack := rest } : Engine).timeline t).epoch ≠ epoch := hepoch
          rw [attach_eq, if_pos hold]
          cases purpose <;> rfl
      · exact leaves_same (apart_attach { e with stack := rest } t' q epoch purpose hne)
  | emit t' delta =>
      change Leaves e t .step (({ e with stack := rest } : Engine).emit t' delta)
      by_cases hne : t = t'
      · subst hne
        have hT : (({ e with stack := rest } : Engine).emit t delta).timeline t =
            (e.timeline t).emit delta := timeline_modifyTimeline_self ht _
        exact ⟨_, .emitted hs, hT ▸ .refl _⟩
      · exact leaves_same ((within_emit _ t' delta).others t hne)
  | finish o result => exact hloses (loses_close { e with stack := rest } t o _)

end Engine

end FilteredFeed
