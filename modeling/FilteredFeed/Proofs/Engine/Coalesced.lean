import FilteredFeed.Pattern.Builtin
import FilteredFeed.Proofs.Engine.Fitted
import FilteredFeed.Proofs.Engine.Holders
import FilteredFeed.Proofs.Engine.Materialized
import FilteredFeed.Proofs.Engine.Refilled

namespace FilteredFeed.Engine

open FilteredFeed.Feed FilteredFeed.Filter FilteredFeed.Listener FilteredFeed.Timeline
open FilteredFeed.Scenario (Asker)

section

variable [Patterns]
variable {e e' : Engine} {t : TimelineId} {m : Move} {T T' : Timeline} {g : Nat}
variable {moves : List Move}

-- Queries are changed, a timeline is invalidated or given another query, and others are activated and
-- deactivated. No background work goes on.
def Stirs (t : TimelineId) (e : Engine) : Move → Prop
  | .step | .setExpression _ _ | .setSource _ _ | .invalidate _ | .setQuery _ _ | .retain _
  | .drop _ => True
  | .startActivation t' _ | .deactivate t' => t' ≠ t
  | .answer (.operation o) _ | .cancel o => (e.asks (.operation o)).map Prod.fst ≠ some t
  | _ => False

instance : Decidable (Stirs t e m) :=
  match m with
  | .step | .setExpression _ _ | .setSource _ _ | .invalidate _ | .setQuery _ _ | .retain _
  | .drop _ => .isTrue trivial
  | .startActivation t' _ | .deactivate t' => inferInstanceAs (Decidable (t' ≠ t))
  | .answer (.operation o) _ | .cancel o =>
      inferInstanceAs (Decidable ((e.asks (.operation o)).map Prod.fst ≠ some t))
  | .answer (.task _) _ | .leaveObserver | .addQuery _ _ | .addChannel _ | .addTimeline _ _ _ _ _
  | .activateQuery _ | .deactivateQuery _ | .compile _ | .listen _ | .unsubscribe _ _
  | .releaseObserver _ | .dispose _ | .accepts _ _ | .takeUnread _ | .offer _ _ | .publish _ _
  | .closeStream _ | .startPage _ _ _ | .wake _ | .nextTask | .turn _ => .isFalse id

theorem Stirs.assigns (h : Stirs t e m) (hallows : e.allows m = true) : Assigns e (e.after m) := by
  cases m with
  | step => exact assigns_step hallows
  | setExpression q expr => exact (assigns_modifyQuery ..).trans (assigns_push ..)
  | setSource q text => exact (assigns_modifyQuery ..).trans (assigns_push ..)
  | invalidate t => exact (assigns_hold e t).trans (assigns_invalidate ..)
  | setQuery t query => exact (assigns_hold e t).trans (assigns_setQuery ..)
  | retain t => exact assigns_retain e (.timeline t)
  | drop t => exact assigns_release e (.timeline t)
  | startActivation t hasRuntime => exact assigns_startActivation e t hasRuntime
  | deactivate t => exact (assigns_hold e t).trans (assigns_deactivate ..)
  | answer asker result =>
      cases asker with
      | operation o => exact assigns_complete e o result
      | task k => cases h
  | cancel o => exact assigns_cancel e o
  | _ => cases h

theorem Stirs.unwatched (h : Stirs t e m) (hu : Unwatched e) (hallows : e.allows m = true) :
    Unwatched (e.after m) := by
  refine hu.after hallows fun q hm => ?_
  rw [hm] at h
  exact h

-- A timeline that was active under some generation goes on, or has started again since and waits for
-- its buffer to be filled.
inductive Stirred (g : Nat) (T : Timeline) : Prop
  | kept (hphase : T.phase = .active) (hg : T.generation = g)
  | restarted (hphase : T.phase = .invalidated) (hg : g < T.generation) (hitems : T.buffer.items = [])
      (hfilter : T.compiledRevision = none → T.compiled = .contradiction)

theorem Stirred.isActive (h : Stirred g T) : T.phase.isActive = true := by
  cases h with
  | kept hphase | restarted hphase =>
      rw [hphase]
      rfl

theorem Stirred.generation_le (h : Stirred g T) : g ≤ T.generation := by
  cases h with
  | kept hphase hg => exact Nat.le_of_eq hg.symm
  | restarted hphase hg => exact Nat.le_of_lt hg

-- What a timeline applies without a query accepts nothing.
theorem contradiction_of_current (h : (e.current t).2 = none) : (e.current t).1 = .contradiction := by
  unfold current at h ⊢
  split
  · rename_i q hquery
    rw [hquery] at h
    cases h
  · rfl

theorem stirred_restarted (h : Stirred g (e.timeline t)) : Stirred g (e.restarted t) := by
  have hle := h.generation_le
  refine .restarted ?_ ?_ (by simp) fun hnone => ?_
  · rw [phase_restarted, if_pos h.isActive]
  · rw [generation_restarted]
    exact Nat.lt_succ_of_le hle
  · obtain ⟨events, hT⟩ := restarted_eq e t
    rw [compiledRevision_restarted] at hnone
    rw [hT]
    exact contradiction_of_current hnone

theorem stirred_alike (h : Stirred g T) (halike : T.Alike T') : Stirred g T' := by
  obtain ⟨_, _, _, rfl⟩ := halike
  cases h with
  | kept hphase hg => exact .kept hphase hg
  | restarted hphase hg hitems hfilter => exact .restarted hphase hg hitems hfilter

-- What matters here is the same.
theorem Stirred.congr (h : Stirred g T) (hphase : T'.phase = T.phase)
    (hg : T'.generation = T.generation) (hbuffer : T'.buffer = T.buffer)
    (hcompiled : T'.compiled = T.compiled) (hrevision : T'.compiledRevision = T.compiledRevision) :
    Stirred g T' := by
  cases h with
  | kept hphase' hg' => exact .kept (hphase.trans hphase') (hg.trans hg')
  | restarted hphase' hg' hitems hfilter =>
      refine .restarted (hphase.trans hphase') (hg ▸ hg') (hbuffer ▸ hitems) ?_
      rw [hrevision, hcompiled]
      exact hfilter

theorem Becomes.stirred (h : Becomes e t m T) (hw : Wired e) (hstirs : Stirs t e m)
    (halive : (e.after m).isAlive (.timeline t) = true) (hbefore : Stirred g (e.timeline t)) :
    Stirred g T := by
  cases h with
  | kept => exact hbefore
  | dropped h hdead => cases hdead.symm.trans halive
  | told | invalidated => exact stirred_restarted hbefore
  | unmarked | enrolled => exact hbefore.congr rfl rfl rfl rfl rfl
  | @refreshed q rest hs hstale =>
      refine stirred_restarted ?_
      rw [timeline_enrol_popped hw hs rfl]
      exact hbefore.congr rfl rfl rfl rfl rfl
  | @refitted q o rest hs hstale =>
      obtain ⟨events, hT⟩ := refitted_eq (({ e with stack := rest } : Engine).enrol t q) t
      rw [hT, timeline_enrol_popped hw hs rfl]
      cases hbefore with
      | kept hphase hg => exact .kept hphase hg
      | restarted hphase hg =>
          exact .restarted hphase hg (Buffer.items_clear _) contradiction_of_current
  | @emitted delta rest hs =>
      obtain ⟨events, hT⟩ := emit_eq (e.timeline t) delta
      rw [hT]
      exact hbefore.congr rfl rfl rfl rfl rfl
  | @requeried query hphase hquery =>
      refine stirred_restarted ?_
      rcases timeline_leaveQuery_or e t query with hT | hT
      · rw [hT]
        exact hbefore
      · rw [hT]
        exact hbefore.congr rfl rfl rfl rfl rfl
  | stopped | launched => exact absurd rfl hstirs
  | ended | counted | made => cases hstirs
  | offered hm => cases hm <;> cases hstirs
  | @absorbed a r items phase hawaits hasks =>
      cases a with
      | operation o => exact absurd (congrArg (Option.map Prod.fst) hasks) hstirs
      | task k => cases hstirs
  | failed => cases hstirs
  | rolledBack hawaits hasks => exact absurd (congrArg (Option.map Prod.fst) hasks) hstirs

-- What a run of such moves comes to, as long as somebody holds the timeline.
theorem Stirred.replay (h : Stirred g (e.timeline t)) (hu : Unwatched e)
    (hstirs : e.Follows (Stirs t) moves)
    (halive : (e.replay moves).isAlive (.timeline t) = true) :
    Stirred g ((e.replay moves).timeline t) ∧ Assigns e (e.replay moves) ∧
      Unwatched (e.replay moves) := by
  induction moves generalizing e with
  | nil => exact ⟨h, .refl e, hu⟩
  | cons m moves ih =>
      obtain ⟨hallows, hnow, hlater⟩ := hstirs
      have ht := lt_after (lt_of_active h.isActive) hallows
      have halive' := isAlive_replay hlater.runs ht halive
      obtain ⟨T, hT, halike⟩ := leaves_after hu.wired hallows ht
      have hafter := stirred_alike (hT.stirred hu.wired hnow halive' h) halike
      obtain ⟨hstirred, hassigns, hu'⟩ := ih hafter (hnow.unwatched hu hallows) hlater halive
      exact ⟨hstirred, (hnow.assigns hallows).trans hassigns, hu'⟩

-- What a timeline is to accept: what its query says by now, and nothing without one.
def expression (e : Engine) (t : TimelineId) : Expr :=
  match (e.timeline t).query with
  | some q => (e.query q).expr
  | none => .contradiction

theorem expression_of_none (h : (e.timeline t).query = none) : e.expression t = .contradiction := by
  unfold expression
  rw [h]

theorem compiled_expression (hu : Unwatched e) (hrest : e.stack = [])
    (hactive : (e.timeline t).phase.isActive = true)
    (hfilter : (e.timeline t).compiledRevision = none → (e.timeline t).compiled = .contradiction) :
    (e.timeline t).compiled = (e.expression t).compile := by
  have hcurrent := hu.current hrest hactive
  unfold expression
  split
  · rename_i q hquery
    exact (applies_current hu.sound hu.wired hquery hcurrent).2.1
  · rename_i hquery
    refine hfilter ?_
    simp only [isStale, hquery, Option.map_none] at hcurrent
    exact (bne_eq_false_iff_eq.mp hcurrent).symm

-- A timeline that has started again has a task for it that was made since.
theorem filling_of_restarted {start : Engine} (hstart : Sound start) (hassigns : Assigns start e)
    (hu : Unwatched e) (hphase : (e.timeline t).phase = .invalidated)
    (hg : (start.timeline t).generation < (e.timeline t).generation) (items : List Item) :
    Filling t (e.timeline t) (refill (e.timeline t)) items e [] := by
  obtain ⟨k, r, hk⟩ := (hu.staffed t).refilled hphase
  have hjob := job_of_work hk
  have hasks := asks_of_job hjob
  have hgeneration := (hu.staffed t).current k r hk
  have htext := hu.sound.current _ _ _ hasks hgeneration
  rcases hassigns.jobs k t r hjob with hold | ⟨hbegun, hbefore, hlimit⟩
  · have hle := hstart.earlier _ _ _ (asks_of_job hold)
    omega
  · obtain rfl : r = refill (e.timeline t) := by
      obtain ⟨text, before, limit, generation⟩ := r
      rw [← hassigns.config t] at hlimit
      exact FetchRequest.mk.injEq .. ▸ ⟨htext, hbefore, hlimit, hgeneration⟩
    exact .waiting rfl hk ((hassigns.begun k).trans hbegun)

-- What storage has for a timeline that fills its buffer again.
theorem query_refill {expr : Expr} (storage : Storage) (h : T.compiled = expr.compile) :
    (storage.query (refill T).text (refill T).before (some (refill T).limit)).1 =
      .ok (storage.newest expr T.config.backfillCount) := by
  unfold refill
  rw [h]
  exact Storage.query_compile ..

-- An empty buffer that takes what there is in storage for its timeline.
theorem items_filled {storage : Storage} (hdistinct : Distinct storage.items)
    (hempty : T.buffer.items = []) (hfitted : IsFitted T) (expr : Expr) :
    ((replenished T).absorb (storage.newest expr T.config.backfillCount)).1.buffer.items =
      storage.newest expr (min T.config.backfillCount T.config.maxItems) := by
  have hd := (Storage.isNewest_newest hdistinct expr T.config.backfillCount).descending
  have hbuffer : (replenished T).buffer = .empty T.config.maxItems :=
    hfitted ▸ Buffer.eq_empty hempty
  obtain ⟨events, hT⟩ := absorb_eq (replenished T) (storage.newest expr T.config.backfillCount)
  rw [hT]
  dsimp only
  rw [hbuffer, items_merge_empty hd, Storage.newest, Storage.newest, List.take_take, Nat.min_comm]

theorem phase_filled (hphase : T.phase = .invalidated) (items : List Item) :
    ((replenished T).absorb items).1.phase = .active := by
  obtain ⟨events, hT⟩ := absorb_eq (replenished T) items
  rw [hT]
  simp [replenished, hphase]

theorem newest_contradiction (storage : Storage) (limit : Nat) :
    storage.newest .contradiction limit = [] := by
  have hnone : storage.items.filter (Expr.compile .contradiction).accepts = [] :=
    List.filter_eq_nil_iff.mpr fun item _ haccepts => Bool.false_ne_true haccepts
  rw [Storage.newest, hnone, Storage.newestFirst, List.mergeSort_nil, List.take_nil]

theorem raise_of_incident? {incident : Incident} (h : e.incident? t m = some incident)
    (hne : incident ≠ .cleared) : Incident.raise (e.incident? t m) = 1 := by
  rw [h]
  cases incident with
  | cleared => exact absurd rfl hne
  | _ => rfl

-- What happens to a timeline raises its generation for good.
theorem generation_lt_replay {incident : Incident} (hs : Sound e) (hw : Wired e)
    (hruns : e.Runs moves) (ht : t < e.timelines.length) (hmem : incident ∈ incidents t e moves)
    (hne : incident ≠ .cleared) :
    (e.timeline t).generation < ((e.replay moves).timeline t).generation := by
  induction moves generalizing e with
  | nil => cases hmem
  | cons m moves ih =>
      have hraises := raises_after ht hruns.1
      have hs' := hs.after hruns.1
      have hw' := (comes_after hs hw hruns.1).1
      unfold Raises at hraises
      rcases List.mem_append.mp hmem with hnow | hlater
      · have hrest := generation_le_replay hs' hw' hruns.2.2 t
        rw [raise_of_incident? (Option.mem_toList.mp hnow) hne] at hraises
        rw [replay_cons]
        omega
      · have hrest := ih hs' hw' hruns.2.2 (lt_after ht hruns.1) hlater
        rw [replay_cons]
        omega

-- An active timeline that something has happened to meanwhile has started again.
theorem restarted_of_incidents (hu : Unwatched e) (hphase : (e.timeline t).phase = .active)
    (hstirs : e.Follows (Stirs t) moves)
    (hagain : .invalidated ∈ incidents t e moves ∨ .requeried ∈ incidents t e moves)
    (halive : (e.replay moves).isAlive (.timeline t) = true) :
    let T := (e.replay moves).timeline t
    (T.phase = .invalidated ∧ (e.timeline t).generation < T.generation ∧ T.buffer.items = [] ∧
      (T.compiledRevision = none → T.compiled = .contradiction)) ∧
    Assigns e (e.replay moves) ∧ Unwatched (e.replay moves) := by
  intro T
  have ht : t < e.timelines.length := lt_of_active (by rw [hphase]; rfl)
  have hlater : (e.timeline t).generation < T.generation := by
    rcases hagain with hmem | hmem
    · exact generation_lt_replay hu.sound hu.wired hstirs.runs ht hmem nofun
    · exact generation_lt_replay hu.sound hu.wired hstirs.runs ht hmem nofun
  obtain ⟨hstirred, hassigns, hu'⟩ := Stirred.replay (.kept hphase rfl) hu hstirs halive
  refine ⟨?_, hassigns, hu'⟩
  cases hstirred with
  | kept hphase' hg => exact absurd hg (Nat.ne_of_gt hlater)
  | restarted hphase' hg hitems hfilter => exact ⟨hphase', hg, hitems, hfilter⟩

-- However often an active timeline is invalidated before background work goes on, by itself, by its
-- query or by being given another one, and whatever becomes of the queries and the other timelines
-- meanwhile: the work can always come to its end, and then the timeline has made one request. That
-- is for what the query it has by now says, and so is what it holds.
theorem invalidations_coalesce {before ops : List Move} {stored : List Item}
    (hruns : ({} : Engine).Runs before) (hlisten : ∀ q, .listen q ∉ before)
    (hphase : ((({} : Engine).replay before).timeline t).phase = .active)
    (hops : (({} : Engine).replay before).Follows (Stirs t) ops)
    (hagain : .invalidated ∈ incidents t (({} : Engine).replay before) ops ∨
      .requeried ∈ incidents t (({} : Engine).replay before) ops)
    (hrest : (({} : Engine).replay (before ++ ops)).stack = [])
    (halive : (({} : Engine).replay (before ++ ops)).isAlive (.timeline t) = true) :
    let e := ({} : Engine).replay (before ++ ops)
    let T := e.timeline t
    let expr := e.expression t
    ∀ work, e.Follows (Works (.ofList stored) t) work →
      (∃ more, (e.replay work).Follows (Works (.ofList stored) t) more ∧
        ((e.replay work).replay more).isFilling t = false) ∧
      ((e.replay work).isFilling t = false →
        fetches t e work =
          [{ text := expr.compile.queryText, before := none, limit := T.config.backfillCount,
             generation := T.generation }] ∧
        ((e.replay work).timeline t).phase = .active ∧
        ((e.replay work).timeline t).buffer.items =
          (Storage.ofList stored).newest expr (min T.config.backfillCount T.config.maxItems) ∧
        (T.query = none → ((e.replay work).timeline t).buffer.items = [])) := by
  intro e T expr work hwork
  have he : e = (({} : Engine).replay before).replay ops := replay_append ..
  have hstart := unwatched_init.replay hruns hlisten
  rw [replay_append] at halive
  obtain ⟨hrestarted, hassigns, hu⟩ := restarted_of_incidents hstart hphase hops hagain halive
  rw [← he] at hrestarted hassigns hu
  obtain ⟨hinvalidated, hlater, hempty, hfilter⟩ := hrestarted
  have hactive : T.phase.isActive = true := by
    rw [hinvalidated]
    rfl
  have hcompiled : T.compiled = expr.compile := compiled_expression hu hrest hactive hfilter
  have hfitted : IsFitted T :=
    isFitted_replay (follows_append.mpr ⟨hruns, hops.runs⟩) t (lt_of_active hactive)
  have hfilling := filling_of_restarted hstart.sound hassigns hu hinvalidated hlater
    ((Storage.ofList stored).newest expr T.config.backfillCount)
  obtain ⟨hends, hfetches⟩ := hfilling.settles hu hrest (query_refill _ hcompiled) hwork
  refine ⟨hends, fun hended => ?_⟩
  obtain ⟨hlog, hT⟩ := hfetches hended
  have hitems : ((e.replay work).timeline t).buffer.items =
      (Storage.ofList stored).newest expr (min T.config.backfillCount T.config.maxItems) :=
    hT ▸ items_filled (Storage.distinct_ofList stored) hempty hfitted expr
  refine ⟨?_, hT ▸ phase_filled hinvalidated _, hitems, fun hnone => ?_⟩
  · rw [hlog, ← hcompiled]
    rfl
  · have hexpr : expr = .contradiction := expression_of_none hnone
    rw [hitems, hexpr, newest_contradiction]

end

-- A move with the steps that it takes until no call is running.
def Move.through (m : Move) (steps : Nat) : List Move := m :: .replicate steps .step

-- Two timelines of one query, of which the first is activated.
def firstActivated : List Move :=
  [.addQuery (.literal true) none, .addQuery (.literal false) none, .addChannel 1,
    .addTimeline { maxItems := 2, backfillCount := 3 } 0 0 (some 0) false,
    .addTimeline {} 0 0 (some 0) false] ++
    (Move.startActivation 0 true).through 2 ++ [.answer (.operation 0) (.ok [])]

-- Its query changes twice, the second time by the activation of the other timeline. It is given
-- another query, invalidated by hand, and that query changes too.
def fiveTimes : List Move :=
  (Move.setExpression 0 (.literal false)).through 5 ++ (Move.startActivation 1 true).through 7 ++
    [.answer (.operation 1) (.ok [])] ++ (Move.setQuery 0 (some 1)).through 9 ++
    (Move.invalidate 0).through 1 ++ (Move.setExpression 1 (.literal true)).through 5

theorem invalidations_coalesce_fiveTimes :
    let stored : List Item :=
      [{ id := 1, author := "ann" }, { id := 3, author := "ann" }, { id := 2, author := "ann" }]
    let e := ({} : Engine).replay (firstActivated ++ fiveTimes)
    let work : List Move :=
      [.turn 0, .turn 7, .answer (.task 7) ((Storage.ofList stored).query "(1 = 1)" none (some 3)).1]
    incidents 0 (({} : Engine).replay firstActivated) fiveTimes =
        [.invalidated, .invalidated, .requeried, .invalidated, .invalidated] ∧
      e.Follows (Works (.ofList stored) 0) work ∧
      fetches 0 e work = [{ text := "(1 = 1)", before := none, limit := 3, generation := 6 }] ∧
      ((e.replay work).timeline 0).buffer.items.map Item.id = [3, 2] := by
  intro stored e work
  have hruns : ({} : Engine).Runs firstActivated := by decide +kernel
  have hops : (({} : Engine).replay firstActivated).Follows (Stirs 0) fiveTimes := by decide +kernel
  have hincidents : incidents 0 (({} : Engine).replay firstActivated) fiveTimes =
      [.invalidated, .invalidated, .requeried, .invalidated, .invalidated] := by decide +kernel
  have hasks : ((e.after (.turn 0)).after (.turn 7)).asks (.task 7) =
      some (0, { text := "(1 = 1)", before := none, limit := 3, generation := 6 }) := by
    decide +kernel
  have hanswer : Works (.ofList stored) 0 ((e.after (.turn 0)).after (.turn 7))
      (.answer (.task 7) ((Storage.ofList stored).query "(1 = 1)" none (some 3)).1) := by
    rintro x hx -
    cases hasks.symm.trans hx
    rfl
  have hwork : e.Follows (Works (.ofList stored) 0) work :=
    ⟨by decide +kernel, by decide +kernel, by decide +kernel, by decide +kernel, by decide +kernel,
      hanswer, trivial⟩
  have hexpr : e.expression 0 = .literal true := by decide +kernel
  have hbound : min (e.timeline 0).config.backfillCount (e.timeline 0).config.maxItems = 2 := by
    decide +kernel
  obtain ⟨-, hended⟩ := invalidations_coalesce hruns
    (by simp [firstActivated, Move.through]) (by decide +kernel) hops
    (.inl (hincidents ▸ List.mem_cons_self)) (by decide +kernel) (by decide +kernel) work hwork
  obtain ⟨hfetches, -, hitems, -⟩ := hended (by decide +kernel)
  refine ⟨hincidents, hwork, ?_, ?_⟩
  · rw [hfetches]
    decide +kernel
  · rw [hitems, hexpr, hbound]
    cbv

end FilteredFeed.Engine
