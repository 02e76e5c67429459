import FilteredFeed.Proofs.Engine.Expected

namespace FilteredFeed

open FilteredFeed.Feed FilteredFeed.Filter FilteredFeed.Listener FilteredFeed.Timeline

variable [Patterns]

-- An expression with its compiled form, if that was made, and the number of forms made so far.
structure Memo where
  expr : Expr
  compiled : Option CompiledFilter
  compilations : Nat

namespace Memo

-- The compiled form was asked for. One that is there is not made again.
def consult (memo : Memo) : Memo :=
  match memo.compiled with
  | some _ => memo
  | none =>
      { memo with
        compiled := some memo.expr.compile
        compilations := memo.compilations + 1 }

-- What is asked of one of many queries, if of any.
def consultAt (asked : Option QueryId) (memos : List Memo) : List Memo :=
  match asked with
  | some q => memos.modify q consult
  | none => memos

@[simp] theorem consultAt_none (memos : List Memo) : consultAt none memos = memos := rfl

theorem consult_of_isSome {memo : Memo} (h : memo.compiled.isSome = true) : memo.consult = memo := by
  obtain ⟨filter, hfilter⟩ := Option.isSome_iff_exists.mp h
  simp only [consult, hfilter]

theorem isSome_consult (memo : Memo) : memo.consult.compiled.isSome = true := by
  unfold consult
  split
  · rename_i filter hfilter
    rw [hfilter]
    rfl
  · rfl

theorem compilations_consult (memo : Memo) :
    memo.consult.compilations = memo.compilations + if memo.compiled.isSome then 0 else 1 := by
  unfold consult
  split <;> simp [*]

end Memo

namespace Query

variable {τ : Type}

def memo (q : Query τ) : Memo := ⟨q.expr, q.compiled, q.compilations⟩

theorem memo_compile (q : Query τ) : q.compile.2.memo = q.memo.consult := by
  cases h : q.compiled <;> simp only [compile, Memo.consult, memo, h]

-- A form that is there is given out, and nothing changes.
theorem compile_of_isSome {q : Query τ} (h : q.compiled.isSome = true) : q.compile.2 = q := by
  obtain ⟨filter, hfilter⟩ := Option.isSome_iff_exists.mp h
  simp only [compile, hfilter]

-- A change drops the form, and what was made stays counted.
theorem compiled_replaceSource (q : Query τ) (text : String) :
    (q.replaceSource text).2.compiled = none ∧
      (q.replaceSource text).2.compilations = q.compilations := by
  unfold replaceSource
  split <;> exact ⟨rfl, rfl⟩

end Query

namespace Engine

open FilteredFeed.Scenario (Asker)

variable {e e' : Engine} {t : TimelineId} {q : QueryId} {m : Move} {moves : List Move}
variable {f : Frame} {revision : Nat}

-- The query that a timeline asks for its filter, if it has to.
def consultsIf (e : Engine) (t : TimelineId) (b : Bool) : Option QueryId :=
  if b then (e.timeline t).query else none

@[simp] theorem consultsIf_true (e : Engine) (t : TimelineId) :
    e.consultsIf t true = (e.timeline t).query := rfl

@[simp] theorem consultsIf_false (e : Engine) (t : TimelineId) : e.consultsIf t false = none := rfl

-- The query that a call asks for its compiled form.
def frameConsults? (e : Engine) : Frame → Option QueryId
  | .call (.timeline t) revision => e.consultsIf t (e.heeds t revision)
  | .attach t _ epoch .swap =>
      e.consultsIf t ((e.timeline t).epoch == epoch && e.isStale t)
  | .attach t _ epoch (.activation _ generation) =>
      e.consultsIf t ((e.timeline t).epoch == epoch &&
        ((e.timeline t).generation == generation && e.isStale t))
  | _ => none

-- A pump that has an item asks if its timeline is behind.
def pumpConsults? (e : Engine) (k : TaskId) : Option QueryId :=
  match e.tasks[k]? with
  | some ⟨.pump t s, _, false, false⟩ =>
      match ((e.channel s).receive k).1 with
      | .item _ => e.consultsIf t (e.isAlive (.timeline t) && e.isBehind t)
      | _ => none
  | _ => none

-- The query that a move asks for its compiled form, whether it has one or not.
def consults? (e : Engine) : Move → Option QueryId
  | .step => e.stack.head?.bind e.frameConsults?
  -- somebody outside asks
  | .compile q => some q
  -- a timeline that is made applies the filter of its query
  | .addTimeline _ _ _ query _ => query
  | .accepts t _ => e.consultsIf t (e.isStale t)
  | .offer t _ => e.consultsIf t (e.isBehind t)
  | .invalidate t => e.consultsIf t (decide ((e.timeline t).phase ≠ .disposed))
  | .setQuery t query =>
      if (e.timeline t).phase = .disposed ∨ (e.timeline t).query = query then none else query
  | .turn k => e.pumpConsults? k
  | _ => none

def memos (e : Engine) : List Memo := e.queries.map Query.memo

-- Most of what is done in one go leaves all memos alone.

theorem memos_of_queries (h : e'.queries = e.queries) : e'.memos = e.memos := by
  unfold memos
  rw [h]

theorem Background.memos (h : Background e e') : e'.memos = e.memos := memos_of_queries h.queries

theorem memos_modifyTimeline (e : Engine) (t : TimelineId) (f : Timeline → Timeline) :
    (e.modifyTimeline t f).memos = e.memos := rfl

theorem memos_push (e : Engine) (frames : List Frame) : (e.push frames).memos = e.memos := rfl

theorem memos_setStatus (e : Engine) (o : OperationId) (status : Status) :
    (e.setStatus o status).memos = e.memos := rfl

theorem memos_retain (e : Engine) (target : Target) : (e.retain target).memos = e.memos := by
  cases target <;> rfl

theorem memos_modifyQuery (e : Engine) (q : QueryId) {f : Query Target → Query Target}
    (hf : ∀ query, (f query).memo = query.memo) : (e.modifyQuery q f).memos = e.memos := by
  unfold memos modifyQuery
  apply List.ext_getElem?
  intro i
  simp only [List.getElem?_map, List.getElem?_modify]
  cases e.queries[i]? with
  | none => rfl
  | some query => by_cases hi : q = i <;> simp [hi, hf]

theorem memos_retainAll (e : Engine) (targets : List Target) :
    (e.retainAll targets).memos = e.memos := by
  unfold retainAll
  induction targets generalizing e with
  | nil => rfl
  | cons target targets ih => exact (ih _).trans (memos_retain e target)

theorem memos_resumed (e : Engine) (q : QueryId) (g : Registry Target → Registry Target)
    (targets : List Target) (frames rest : List Frame) :
    (e.resumed q g targets frames rest).memos = e.memos := by
  have hadvanced : (({ e with stack := rest } : Engine).modifyQuery q fun query =>
      { query with registry := g query.registry }).memos = e.memos :=
    memos_modifyQuery { e with stack := rest } q fun _ => rfl
  exact (memos_retainAll _ targets).trans hadvanced

theorem memos_toggled (e : Engine) (q : QueryId) : (e.toggled q).memos = e.memos := by
  unfold toggled
  split <;> rfl

theorem memos_addActivation (e : Engine) (q : QueryId) :
    (e.addActivation q).memos = e.memos :=
  (memos_toggled _ q).trans (memos_modifyQuery e q fun _ => rfl)

theorem memos_removeActivation (e : Engine) (q : QueryId) :
    (e.removeActivation q).memos = e.memos := by
  unfold removeActivation
  split
  · exact (memos_toggled _ q).trans (memos_modifyQuery e q fun _ => rfl)
  · rfl

theorem memos_dropSubscription (e : Engine) (subscription : Option (QueryId × SubscriptionId)) :
    (e.dropSubscription subscription).memos = e.memos := by
  cases subscription with
  | none => rfl
  | some s => exact memos_modifyQuery e s.1 fun _ => rfl

theorem memos_unsubscribe (e : Engine) (t : TimelineId) :
    (e.unsubscribe t).memos = e.memos := by
  unfold unsubscribe
  rw [memos_modifyTimeline, memos_dropSubscription]

theorem memos_enrol (e : Engine) (t : TimelineId) (q : QueryId) :
    (e.enrol t q).memos = e.memos := by
  have hsubscribed : (e.modifyQuery q fun query =>
      { query with registry := ((e.query q).registry.subscribe (.timeline t)).2 }).memos = e.memos :=
    memos_modifyQuery e q fun _ => rfl
  exact (memos_unsubscribe _ t).trans hsubscribed

theorem memos_teardown (e : Engine) (t : TimelineId) : (e.teardown t).2.memos = e.memos := by
  rw [teardown_eq]
  exact (memos_dropSubscription ..).trans (background_abortWork e t).memos

theorem memos_release (e : Engine) (target : Target) : (e.release target).memos = e.memos := by
  cases target with
  | observer o => rfl
  | timeline t =>
      rw [release_eq]
      split
      · exact memos_teardown (e.dropHold t) t
      · rfl

theorem memos_close (e : Engine) (o : OperationId) (status : Status) :
    (e.close o status).memos = e.memos := by
  unfold close
  split
  · exact memos_release _ _
  · rfl

theorem memos_deactivate (e : Engine) (t : TimelineId) : (e.deactivate t).memos = e.memos := by
  unfold deactivate
  split
  · exact memos_teardown e t
  · rfl

theorem memos_dispose (e : Engine) (t : TimelineId) : (e.dispose t).memos = e.memos := by
  rw [dispose_eq]
  split
  · rfl
  · exact (memos_dropSubscription ..).trans (background_abortWork e t).memos

theorem memos_startRefetch (e : Engine) (t : TimelineId) :
    (e.startRefetch t).memos = e.memos := by
  unfold startRefetch
  dsimp only
  split
  · exact (background_abort? e _).memos
  · rfl

theorem memos_complete (e : Engine) (o : OperationId) (result : Except StorageError (List Item)) :
    (e.complete o result).memos = e.memos := by
  cases completes e o result with
  | unasked hnone heq => rw [heq]
  | ended hop hwhy heq => rw [heq, memos_close]
  | merged hop hg hphase heq => rw [heq, memos_close, memos_modifyTimeline]
  | rolledBack hop hg heq => rw [heq, memos_push, memos_teardown, memos_setStatus]

theorem memos_completeTask (e : Engine) (k : TaskId) (result : Except StorageError (List Item)) :
    (e.completeTask k result).memos = e.memos := by
  cases replenishes e k result with
  | background hb => exact hb.memos
  | filled hasks halive hg hb heq | failed hasks halive hg hb heq =>
      rw [heq, memos_modifyTimeline, hb.memos]

theorem memos_cancel (e : Engine) (o : OperationId) : (e.cancel o).memos = e.memos := by
  unfold cancel
  split
  · exact memos_close ..
  · rfl

-- A timeline that applies the filter of its query asks for it.

theorem memos_compile (e : Engine) (q : QueryId) :
    (e.compile q).2.2.memos = Memo.consultAt (some q) e.memos := by
  have heq : e.modifyQuery q (fun _ => (e.query q).compile.2) =
      e.modifyQuery q fun query => query.compile.2 := modifyQuery_congr rfl
  change (e.modifyQuery q fun _ => (e.query q).compile.2).memos = _
  rw [heq]
  unfold memos modifyQuery Memo.consultAt
  apply List.ext_getElem?
  intro i
  simp only [List.getElem?_map, List.getElem?_modify]
  cases e.queries[i]? with
  | none => rfl
  | some query => by_cases hi : q = i <;> simp [hi, query.memo_compile]

theorem memos_recompile (e : Engine) (t : TimelineId) :
    (e.recompile t).memos = Memo.consultAt (e.timeline t).query e.memos := by
  unfold recompile
  split
  · rename_i q hq
    rw [hq]
    exact memos_compile e q
  · rename_i hq
    rw [hq]
    rfl

theorem query_of_modifyTimeline (e : Engine) (t : TimelineId) {f : Timeline → Timeline}
    (hf : (f (e.timeline t)).query = (e.timeline t).query) :
    ((e.modifyTimeline t f).timeline t).query = (e.timeline t).query := by
  rcases timeline_modifyTimeline e t t f with h | ⟨-, h⟩
  · rw [h]
  · rw [h, hf]

theorem memos_restart (e : Engine) (t : TimelineId) :
    (e.restart t).memos = Memo.consultAt (e.timeline t).query e.memos := by
  have hb := background_abort? e (e.timeline t).refetch
  unfold restart
  generalize e.abort? (e.timeline t).refetch = e' at hb ⊢
  have hquery : ((e'.modifyTimeline t emptied).timeline t).query = (e.timeline t).query :=
    (query_of_modifyTimeline e' t rfl).trans (by rw [hb.timeline])
  rw [memos_recompile, hquery, memos_modifyTimeline, hb.memos]

theorem memos_invalidateQuietly (e : Engine) (t : TimelineId) :
    (e.invalidateQuietly t).2.memos = Memo.consultAt (e.timeline t).query e.memos := by
  rw [invalidateQuietly_eq]
  dsimp only
  split
  · exact (memos_startRefetch ..).trans (memos_restart e t)
  · exact memos_restart e t

theorem memos_invalidateNow (e : Engine) (t : TimelineId) :
    (e.invalidateNow t).memos = Memo.consultAt (e.timeline t).query e.memos :=
  memos_invalidateQuietly e t

theorem memos_onInvalidated (e : Engine) (t : TimelineId) (revision : Nat) :
    (e.onInvalidated t revision).memos = Memo.consultAt (e.consultsIf t (e.heeds t revision)) e.memos := by
  cases hheeds : e.heeds t revision with
  | true =>
      have hnow := ((onInvalidated_cases e t revision).resolve_right
        fun h => Bool.noConfusion (h.1.symm.trans hheeds)).2
      rw [hnow]
      exact memos_invalidateNow e t
  | false =>
      rw [onInvalidated_unheeded hheeds]
      split <;> rfl

theorem memos_refresh (e : Engine) (t : TimelineId) :
    (e.refresh t).memos = Memo.consultAt (e.consultsIf t (e.isStale t)) e.memos := by
  unfold refresh
  cases e.isStale t with
  | true => exact memos_invalidateNow e t
  | false => rfl

theorem memos_prepare (e : Engine) (t : TimelineId) (o : OperationId) (generation : Nat) :
    (e.prepare t o generation).memos =
      Memo.consultAt (e.consultsIf t ((e.timeline t).generation == generation && e.isStale t))
        e.memos := by
  rw [prepare_eq]
  by_cases hg : (e.timeline t).generation = generation
  · rw [if_neg (not_not_intro hg), hg, beq_self_eq_true, Bool.true_and, memos_setStatus]
    unfold prepared
    cases e.isStale t with
    | true => exact memos_recompile e t
    | false => rfl
  · rw [if_pos hg, beq_false_of_ne hg]
    rfl

theorem memos_offer (e : Engine) (t : TimelineId) (item : Item) :
    (e.offer t item).2.memos = Memo.consultAt (e.consultsIf t (e.isBehind t)) e.memos := by
  have hcatch : (e.catchUp t).memos = Memo.consultAt (e.consultsIf t (e.isStale t)) e.memos := by
    unfold catchUp
    cases e.isStale t with
    | true => exact memos_invalidateQuietly e t
    | false => rfl
  rw [offer_eq]
  unfold isBehind
  cases (e.timeline t).phase.isActive with
  | false => rfl
  | true =>
      simp only [Bool.not_true, Bool.false_eq_true, if_false, Bool.true_and]
      split
      · exact hcatch
      · exact hcatch

theorem memos_currentFilter (e : Engine) (t : TimelineId) :
    (e.currentFilter t).2.memos = Memo.consultAt (e.consultsIf t (e.isStale t)) e.memos := by
  unfold currentFilter consultsIf
  split
  · rename_i q hq
    cases e.isStale t with
    | true =>
        simp only [if_true, hq]
        exact memos_compile e q
    | false => rfl
  · rename_i hq
    simp [hq]

theorem memos_invalidate (e : Engine) (t : TimelineId) :
    (e.invalidate t).memos =
      Memo.consultAt (e.consultsIf t (decide ((e.timeline t).phase ≠ .disposed))) e.memos := by
  unfold invalidate
  by_cases hd : (e.timeline t).phase = .disposed
  · rw [if_pos hd, decide_eq_false (not_not_intro hd)]
    rfl
  · rw [if_neg hd, decide_eq_true hd]
    exact memos_invalidateNow e t

theorem memos_setQuery (ht : t < e.timelines.length) (query : Option QueryId) :
    (e.setQuery t query).2.memos =
      Memo.consultAt
        (if (e.timeline t).phase = .disposed ∨ (e.timeline t).query = query then none else query)
        e.memos := by
  rw [setQuery_eq]
  split
  · rfl
  · have hleft : ((e.leaveQuery t query).timeline t).query = query := by
      unfold leaveQuery
      rw [timeline_modifyTimeline_self ((apart_unsubscribe e t).size ▸ ht)]
    rw [memos_push, memos_invalidateNow, hleft]
    exact congrArg _ (memos_unsubscribe e t)

theorem memos_addTimeline (e : Engine) (config : Config) (storage : StorageId) (stream : StreamId)
    (query : Option QueryId) (hasSink : Bool) :
    (e.addTimeline config storage stream query hasSink).2.memos =
      Memo.consultAt query e.memos := by
  unfold addTimeline
  dsimp only
  rw [memos_recompile, timeline_append, if_pos rfl]
  rfl

theorem memos_addOperation (e : Engine) (t : TimelineId) (kind : OperationKind) :
    (e.addOperation t kind).2.memos = e.memos := rfl

-- An activation asks for a filter once its query was activated.
theorem memos_startActivation (e : Engine) (t : TimelineId) (hasRuntime : Bool) :
    (e.startActivation t hasRuntime).2.memos = e.memos := by
  rcases startActivation_cases e t hasRuntime with ⟨-, -, heq⟩ | ⟨-, result, heq⟩
  · rw [heq]
    unfold launched
    split
    · rfl
    · rename_i hquery
      have hlaunched : (((e.addOperation t .activation).2.launch t).timeline t).query = none :=
        (query_of_modifyTimeline _ t rfl).trans hquery
      rw [memos_prepare, consultsIf, hlaunched, ite_self]
      rfl
  · rw [heq, memos_close, memos_addOperation]

theorem memos_startPage (e : Engine) (t : TimelineId) (before : Option ItemId) (limit : Nat) :
    (e.startPage t before limit).2.memos = e.memos := by
  unfold startPage
  dsimp only
  split
  · exact memos_close ..
  · rfl

theorem query_enrol (e : Engine) (t : TimelineId) (q : QueryId) :
    ((e.enrol t q).timeline t).query = (e.timeline t).query := by
  have hsame (e : Engine) : ((e.unsubscribe t).timeline t).query = (e.timeline t).query :=
    (query_of_modifyTimeline _ t rfl).trans (by rw [timeline_dropSubscription])
  exact (query_of_modifyTimeline _ t rfl).trans (hsame _)

theorem consultsIf_enrol (e : Engine) (t : TimelineId) (q : QueryId) (b : Bool) :
    (e.enrol t q).consultsIf t b = e.consultsIf t b := by
  unfold consultsIf
  rw [query_enrol]

theorem memos_attach (e : Engine) (t : TimelineId) (q : QueryId) (epoch : Nat)
    (purpose : Purpose) :
    (e.attach t q epoch purpose).memos =
      Memo.consultAt (e.frameConsults? (.attach t q epoch purpose)) e.memos := by
  rw [attach_eq]
  by_cases hepoch : (e.timeline t).epoch = epoch
  · rw [if_neg (not_not_intro hepoch)]
    cases purpose with
    | swap =>
        simp only [frameConsults?, hepoch, beq_self_eq_true, Bool.true_and]
        rw [memos_refresh, isStale_enrol, consultsIf_enrol, memos_enrol]
    | activation o generation =>
        have hg : ((e.enrol t q).timeline t).generation = (e.timeline t).generation :=
          ((calm_enrol Nothing e t q).timeline t).generation
        simp only [frameConsults?, hepoch, beq_self_eq_true, Bool.true_and]
        rw [memos_prepare, isStale_enrol, consultsIf_enrol, memos_enrol, hg]
  · rw [if_pos hepoch]
    cases purpose <;> simp [frameConsults?, beq_false_of_ne hepoch, memos_push]

theorem memos_perform (e : Engine) (f : Frame) :
    (e.perform f).memos = Memo.consultAt (e.frameConsults? f) e.memos := by
  cases f with
  | activate q => exact memos_addActivation e q
  | deactivate q => exact memos_removeActivation e q
  | announce q revision =>
      obtain ⟨targets, heq⟩ := announce_eq_resumed e q revision e.stack
      exact (congrArg Engine.memos heq).trans (memos_resumed ..)
  | rounds q =>
      exact (congrArg Engine.memos (continueRounds_eq e q e.stack)).trans (memos_resumed ..)
  | call target revision =>
      cases target with
      | timeline t => exact memos_onInvalidated e t revision
      | observer o => rfl
  | observer o revision => rfl
  | release target => exact memos_release e target
  | attach t q epoch purpose => exact memos_attach e t q epoch purpose
  | emit t delta => rfl
  | finish o result => exact memos_close e o _

theorem consultsIf_congr {b : Bool} (h : e'.timelines = e.timelines) :
    e'.consultsIf t b = e.consultsIf t b := by
  unfold consultsIf
  rw [timeline_congr h]

theorem memos_runPump (e : Engine) (k : TaskId) (t : TimelineId) (s : StreamId) :
    (runPump k t s 1 e).memos =
      Memo.consultAt
        (match ((e.channel s).receive k).1 with
          | .item _ => e.consultsIf t (e.isAlive (.timeline t) && e.isBehind t)
          | _ => none)
        e.memos := by
  have hb := background_modifyChannel e s fun _ => ((e.channel s).receive k).2
  have hbehind : (e.modifyChannel s fun _ => ((e.channel s).receive k).2).isBehind t =
      e.isBehind t := rfl
  have halive : (e.modifyChannel s fun _ => ((e.channel s).receive k).2).isAlive (.timeline t) =
      e.isAlive (.timeline t) := rfl
  simp only [runPump]
  generalize e.modifyChannel s (fun _ => ((e.channel s).receive k).2) = e' at *
  have hfinish : (e'.finishTask k).memos = e.memos := (hb.trans (background_finishTask e' k)).memos
  cases ((e.channel s).receive k).1 with
  | nothing => exact hb.memos
  | closed => exact hfinish
  | item item =>
      dsimp only
      rw [halive]
      cases e.isAlive (.timeline t) with
      | true =>
          rw [if_pos rfl, memos_offer, hbehind, consultsIf_congr hb.timelines, hb.memos,
            Bool.true_and]
      | false => exact hfinish
  | lagged missed =>
      dsimp only
      split
      · unfold recoverLag
        split
        · exact (memos_startRefetch e' t).trans hb.memos
        · exact hb.memos
      · exact hfinish

theorem memos_turn (e : Engine) (k : TaskId) :
    (e.turn k).memos = Memo.consultAt (e.pumpConsults? k) e.memos := by
  rcases turn_cases e k with ⟨t, s, started, htask, heq⟩ | ⟨hpump, heq⟩
  · rw [heq, memos_runPump]
    simp only [pumpConsults?, htask]
  · have hnone : e.pumpConsults? k = none := by
      unfold pumpConsults?
      split
      · rename_i t s started htask
        exact absurd htask (hpump t s started)
      · rfl
    rw [heq, hnone]
    exact (background_poll_refetch e k hpump).memos

theorem memos_listen (e : Engine) (q : QueryId) : (e.listen q).2.2.memos = e.memos :=
  memos_modifyQuery { e with observers := e.observers ++ [1] } q fun _ => rfl

-- What a move asks for is all that comes to the memos, but for a query that is made or changed.
theorem memos_after (hallows : e.allows m = true) (hm : m.amends = none)
    (hmade : ∀ expr source, m ≠ .addQuery expr source) :
    (e.after m).memos = Memo.consultAt (e.consults? m) e.memos := by
  cases m with
  | setExpression | setSource => cases hm
  | addQuery expr source => exact absurd rfl (hmade expr source)
  | step =>
      obtain ⟨f, rest, hs, -, hafter⟩ := after_step hallows
      rw [hafter, consults?, hs]
      exact memos_perform { e with stack := rest } f
  | leaveObserver =>
      change e.leaveObserver.memos = e.memos
      unfold leaveObserver
      split <;> rfl
  | addChannel capacity => rfl
  | addTimeline config storage stream query hasSink => exact memos_addTimeline ..
  | activateQuery q => rfl
  | deactivateQuery q => rfl
  | compile q => exact memos_compile e q
  | listen q => exact memos_listen e q
  | unsubscribe q id => exact memos_dropSubscription e (some (q, id))
  | releaseObserver o => rfl
  | retain t => rfl
  | drop t => exact memos_release e (.timeline t)
  | deactivate t => exact memos_deactivate (e.hold t) t
  | dispose t => exact memos_dispose (e.hold t) t
  | invalidate t =>
      obtain ⟨holders, hT⟩ := timeline_hold e t t
      have h := memos_invalidate (e.hold t) t
      unfold consultsIf at h
      rw [hT] at h
      exact h
  | setQuery t query =>
      obtain ⟨holders, hT⟩ := timeline_hold e t t
      have ht : t < e.timelines.length :=
        isAlive_lt (Bool.and_eq_true_iff.mp (Bool.and_eq_true_iff.mp hallows).1).2
      have h := memos_setQuery (size_hold e t ▸ ht) query
      rw [hT] at h
      exact h
  | accepts t item => exact memos_currentFilter e t
  | takeUnread t => rfl
  | offer t item => exact memos_offer e t item
  | publish s item => exact (background_publish e s item).memos
  | closeStream s => exact (background_closeStream e s).memos
  | startActivation t hasRuntime => exact memos_startActivation e t hasRuntime
  | startPage t before limit => exact memos_startPage e t before limit
  | answer asker result =>
      cases asker with
      | operation o => exact memos_complete e o result
      | task k => exact memos_completeTask e k result
  | cancel o => exact memos_cancel e o
  | wake k => exact (background_wake e k).memos
  | nextTask => exact (background_nextTask e).memos
  | turn k => exact memos_turn e k

end Engine

end FilteredFeed
