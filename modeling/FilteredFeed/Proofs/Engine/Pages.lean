import FilteredFeed.Proofs.Engine.Summons

namespace FilteredFeed.Engine

open FilteredFeed.Feed FilteredFeed.Filter FilteredFeed.Listener FilteredFeed.Timeline
open FilteredFeed.Scenario (Asker)

variable [Patterns]
variable {e e' e'' : Engine} {t t' : TimelineId} {o : OperationId} {m : Move}

-- No operation comes to ask storage for items of a timeline.
structure Unasked (t : TimelineId) (e e' : Engine) : Prop where
  asks : ∀ o r, e'.asks (.operation o) = some (t, r) → e.asks (.operation o) = some (t, r)

theorem Unasked.trans (h : Unasked t e e') (h' : Unasked t e' e'') : Unasked t e e'' :=
  ⟨fun o r => h.asks o r ∘ h'.asks o r⟩

theorem unasked_of_operations (h : e'.operations = e.operations) : Unasked t e e' := by
  refine ⟨fun o r hasks => ?_⟩
  unfold Engine.asks at hasks ⊢
  rwa [h] at hasks

theorem Apart.unasked (h : Apart t' e e') : Unasked t e e' := unasked_of_operations h.operations

theorem Within.unasked (h : Within t' e e') : Unasked t e e' := h.toApart.unasked

theorem Background.unasked (h : Background e e') : Unasked t e e' :=
  unasked_of_operations h.operations

theorem unasked_setStatus (e : Engine) (o : OperationId) {status : Status}
    (h : ∀ request, status ≠ .waiting request) : Unasked t e (e.setStatus o status) :=
  ⟨fun o' r => (calm_setStatus e o h : Calm Nothing e _).asks (.operation o') t r⟩

theorem unasked_wait (ho : e.owner o = some t') (hne : t ≠ t') (request : FetchRequest) :
    Unasked t e (e.setStatus o (.waiting request)) := by
  refine ⟨fun o' r hasks => (asks_setStatus hasks).resolve_right ?_⟩
  rintro ⟨ho', -⟩
  exact hne (Option.some.inj (ho'.symm.trans ho))

theorem unasked_retain (e : Engine) (target : Target) : Unasked t e (e.retain target) := by
  cases target <;> exact unasked_of_operations rfl

theorem unasked_hold (e : Engine) (t' : TimelineId) : Unasked t e (e.hold t') :=
  unasked_of_operations rfl

theorem unasked_resumed (e : Engine) (q : QueryId) (g : Registry Target → Registry Target)
    (targets : List Target) (frames rest : List Frame) :
    Unasked t e (e.resumed q g targets frames rest) :=
  ⟨fun o r => (calm_retainAll _ targets : Calm Nothing _ _).asks (.operation o) t r⟩

theorem operations_toggled (e : Engine) (q : QueryId) : (e.toggled q).operations = e.operations := by
  unfold toggled
  split <;> rfl

theorem operations_removeActivation (e : Engine) (q : QueryId) :
    (e.removeActivation q).operations = e.operations := by
  unfold removeActivation
  split
  · exact operations_toggled _ q
  · rfl

theorem unasked_release (e : Engine) (target : Target) : Unasked t e (e.release target) := by
  cases target with
  | observer o => exact unasked_of_operations rfl
  | timeline t' =>
      rw [release_eq]
      split
      · exact unasked_of_operations (apart_teardown (e.dropHold t') t').operations
      · exact unasked_of_operations rfl

theorem unasked_close (e : Engine) (o : OperationId) {status : Status}
    (h : ∀ request, status ≠ .waiting request) : Unasked t e (e.close o status) := by
  unfold close
  split
  · exact (unasked_setStatus e o h).trans (unasked_release _ _)
  · exact unasked_of_operations rfl

-- An activation that goes on asks only for its own timeline.
theorem unasked_prepare (ho : e.owner o = some t') (hne : t ≠ t') (generation : Nat) :
    Unasked t e (e.prepare t' o generation) := by
  have hw := within_prepared e t'
  rw [prepare_eq]
  split
  · exact unasked_of_operations rfl
  · exact hw.unasked.trans (unasked_wait ((owner_congr hw.operations o).trans ho) hne _)

theorem unasked_deactivate (e : Engine) (t' : TimelineId) : Unasked t e (e.deactivate t') := by
  unfold deactivate
  split
  · exact unasked_of_operations (apart_teardown e t').operations
  · exact unasked_of_operations rfl

theorem unasked_invalidate (e : Engine) (t' : TimelineId) : Unasked t e (e.invalidate t') := by
  unfold invalidate
  split
  · exact unasked_of_operations rfl
  · exact (within_invalidateNow e t').unasked

theorem unasked_dispose (e : Engine) (t' : TimelineId) : Unasked t e (e.dispose t') := by
  rw [dispose_eq]
  split
  · exact unasked_of_operations rfl
  · exact unasked_of_operations (apart_endWork e t').operations

theorem unasked_setQuery (e : Engine) (t' : TimelineId) (query : Option QueryId) :
    Unasked t e (e.setQuery t' query).2 := by
  rw [setQuery_eq]
  split
  · exact unasked_of_operations rfl
  · have hleave : Unasked t e (e.leaveQuery t' query) :=
      unasked_of_operations (apart_unsubscribe e t').operations
    exact hleave.trans (unasked_of_operations (within_invalidateNow _ t').operations)

theorem unasked_complete (e : Engine) (o : OperationId)
    (result : Except StorageError (List Item)) : Unasked t e (e.complete o result) := by
  cases completes e o result with
  | unasked hnone heq => exact unasked_of_operations (by rw [heq])
  | ended hop hwhy heq =>
      rw [heq]
      exact unasked_close e o (done_ne_waiting _)
  | merged hop hg hphase heq =>
      rw [heq]
      exact (within_modifyTimeline ..).unasked.trans (unasked_close _ o (done_ne_waiting _))
  | rolledBack hop hg heq =>
      have hrunning : Unasked t e (e.setStatus o .running) := unasked_setStatus e o running_ne_waiting
      rw [heq]
      exact hrunning.trans (unasked_of_operations (apart_teardown ..).operations)

theorem unasked_completeTask (e : Engine) (k : TaskId)
    (result : Except StorageError (List Item)) : Unasked t e (e.completeTask k result) := by
  cases replenishes e k result with
  | background hb => exact hb.unasked
  | filled hasks halive hg hb heq | failed hasks halive hg hb heq =>
      rw [heq]
      exact hb.unasked.trans (within_modifyTimeline ..).unasked

theorem unasked_turn (e : Engine) (k : TaskId) : Unasked t e (e.turn k) := by
  cases polls e k with
  | background hb => exact hb.unasked
  | offered htask halive hitem hb heq =>
      rw [heq]
      exact hb.unasked.trans (within_offer ..).unasked
  | lagged htask halive hactive hmissed hb heq =>
      rw [heq]
      exact hb.unasked.trans (within_startRefetch ..).unasked

theorem unasked_startActivation (hne : t ≠ t') (hasRuntime : Bool) :
    Unasked t e (e.startActivation t' hasRuntime).2 := by
  have hadded : Unasked t e (e.addOperation t' .activation).2 :=
    ⟨fun o r => (calm_addOperation Nothing e t' .activation).asks (.operation o) t r⟩
  rcases startActivation_cases e t' hasRuntime with ⟨-, -, heq⟩ | ⟨-, result, heq⟩
  · rw [heq]
    refine hadded.trans ?_
    have hlaunch (e : Engine) : Unasked t e (e.launch t') := ⟨fun o r => asks_launch e t'⟩
    have ho := (changes_launch Nothing (e.addOperation t' .activation).2 t').owner _ t'
      (owner_addOperation e t' .activation)
    unfold launched
    split
    · exact (hlaunch _).trans (unasked_of_operations rfl)
    · exact (hlaunch _).trans (unasked_prepare ho hne _)
  · rw [heq]
    exact hadded.trans (unasked_close _ _ nofun)

theorem unasked_startPage (hne : t ≠ t') (before : Option ItemId) (limit : Nat) :
    Unasked t e (e.startPage t' before limit).2 := by
  have hadded : Unasked t e (e.addOperation t' .page).2 :=
    ⟨fun o r => (calm_addOperation Nothing e t' .page).asks (.operation o) t r⟩
  unfold startPage
  dsimp only
  split
  · exact hadded.trans (unasked_close _ _ nofun)
  · exact hadded.trans (unasked_wait (owner_addOperation e t' .page) hne _)

theorem unasked_step (hs : Sound e) (hw : Wired e) (hallows : e.allows .step = true)
    (hinactive : (e.timeline t).phase.isActive = false) : Unasked t e (e.after .step) := by
  obtain ⟨f, rest, hstack, hobserver, hafter⟩ := after_step hallows
  have hpop : Unasked t e { e with stack := rest } := unasked_of_operations rfl
  rw [hafter]
  cases f with
  | activate q => exact unasked_of_operations (operations_toggled _ q)
  | deactivate q => exact unasked_of_operations (operations_removeActivation _ q)
  | announce q revision =>
      obtain ⟨targets, heq⟩ := announce_eq_resumed e q revision rest
      change Unasked t e (({ e with stack := rest } : Engine).announce q revision)
      rw [heq]
      exact unasked_resumed ..
  | rounds q =>
      change Unasked t e (({ e with stack := rest } : Engine).continueRounds q)
      rw [continueRounds_eq]
      exact unasked_resumed ..
  | call target revision =>
      cases target with
      | timeline t' => exact hpop.trans (within_onInvalidated _ t' revision).unasked
      | observer o => exact unasked_of_operations rfl
  | observer o revision => cases hobserver
  | release target => exact hpop.trans (unasked_release _ target)
  | emit t' delta => exact hpop.trans (within_emit _ t' delta).unasked
  | finish o result => exact hpop.trans (unasked_close _ o nofun)
  | attach t' q epoch purpose =>
      refine hpop.trans ?_
      change Unasked t _ (({ e with stack := rest } : Engine).attach t' q epoch purpose)
      rw [attach_eq]
      split
      · cases purpose <;> exact unasked_of_operations rfl
      · rename_i hepoch
        have henrol := apart_enrol { e with stack := rest } t' q
        cases purpose with
        | swap => exact henrol.unasked.trans (within_refresh _ t').unasked
        | activation o generation =>
            have hmem : .attach t' q epoch (.activation o generation) ∈ e.stack := by
              rw [hstack]
              exact List.mem_cons_self
            have hactive := (((hw.bound t').attaching q epoch _ hmem).2
              (Decidable.not_not.mp hepoch).symm).1
            have hne : t ≠ t' := by
              rintro rfl
              exact Bool.noConfusion (hactive.symm.trans hinactive)
            have ho := (hs.window t' q epoch o generation hmem).1
            exact henrol.unasked.trans
              (unasked_prepare ((owner_congr henrol.operations o).trans ho) hne generation)

-- The timeline for which a move begins an operation.
def Move.begins : Move → Option TimelineId
  | .startActivation t _ | .startPage t _ _ => some t
  | _ => none

-- While a timeline is not active, nothing is asked for it unless somebody begins to ask.
theorem unasked_after (hs : Sound e) (hw : Wired e) (hallows : e.allows m = true)
    (hinactive : (e.timeline t).phase.isActive = false) (hbegins : m.begins ≠ some t) :
    Unasked t e (e.after m) := by
  cases m with
  | step => exact unasked_step hs hw hallows hinactive
  | leaveObserver =>
      change Unasked t e e.leaveObserver
      unfold leaveObserver
      split <;> exact unasked_of_operations rfl
  | addQuery | addChannel | setExpression | setSource | activateQuery | deactivateQuery | compile
  | listen | unsubscribe | releaseObserver | takeUnread => exact unasked_of_operations rfl
  | addTimeline config storage stream query hasSink =>
      have hadded (new : Timeline) : Unasked t e { e with timelines := e.timelines ++ [new] } :=
        unasked_of_operations rfl
      exact (hadded _).trans (within_recompile _ _).unasked
  | retain t' => exact unasked_retain e (.timeline t')
  | drop t' => exact unasked_release e (.timeline t')
  | deactivate t' => exact (unasked_hold e t').trans (unasked_deactivate _ t')
  | invalidate t' => exact (unasked_hold e t').trans (unasked_invalidate _ t')
  | dispose t' => exact (unasked_hold e t').trans (unasked_dispose _ t')
  | setQuery t' query => exact (unasked_hold e t').trans (unasked_setQuery _ t' query)
  | accepts t' item =>
      refine unasked_of_operations ?_
      change (e.currentFilter t').2.operations = _
      unfold currentFilter
      split
      · split <;> rfl
      · rfl
  | offer t' item => exact (within_offer e t' item).unasked
  | publish s item => exact (background_publish e s item).unasked
  | closeStream s => exact (background_closeStream e s).unasked
  | startActivation t' hasRuntime =>
      exact unasked_startActivation (fun heq => hbegins (congrArg some heq.symm)) hasRuntime
  | startPage t' before limit =>
      exact unasked_startPage (fun heq => hbegins (congrArg some heq.symm)) before limit
  | answer asker result =>
      cases asker with
      | operation o => exact unasked_complete e o result
      | task k => exact unasked_completeTask e k result
  | cancel o =>
      change Unasked t e (e.cancel o)
      unfold cancel
      split
      · exact unasked_close e o nofun
      · exact unasked_of_operations rfl
  | wake k => exact (background_wake e k).unasked
  | nextTask => exact (background_nextTask e).unasked
  | turn k => exact unasked_turn e k

end FilteredFeed.Engine
