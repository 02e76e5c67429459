import FilteredFeed.Proofs.Engine.Leaves
import FilteredFeed.Proofs.Feed.Channel
import FilteredFeed.Proofs.Timeline.Newest

namespace FilteredFeed

open FilteredFeed.Feed FilteredFeed.Filter FilteredFeed.Timeline

variable [Patterns]

-- An engine with one active timeline on a stream of its own, whose query does not change.

namespace Timeline

-- A timeline is active, and was never invalidated.
structure Live (T : Timeline) (expr : Expr) (config : Config) : Prop where
  phase : T.phase = .active
  holders : 0 < T.holders
  hasRuntime : T.hasRuntime = true
  config_eq : T.config = config
  compiled : T.compiled = expr.compile
  generation : T.generation = 1
  maxItems : T.buffer.maxItems = config.maxItems
  length_le : T.buffer.items.length ≤ config.maxItems
  refetch : T.refetch ≠ some 0

variable {T : Timeline} {expr : Expr} {config : Config}

theorem Live.absorb (h : T.Live expr config) (items : List Item) :
    (T.absorb items).1.Live expr config := by
  obtain ⟨events, heq⟩ := absorb_eq T items
  rw [heq]
  exact { h with
    maxItems := (T.buffer.maxItems_merge items).trans h.maxItems
    length_le := h.maxItems ▸ T.buffer.length_merge items }

theorem Live.receive (h : T.Live expr config) (item : Item) :
    (T.receive item).Live expr config := by
  obtain ⟨events, unread, notified, heq⟩ := receive_eq T item
  rw [heq]
  exact { h with
    maxItems := (T.buffer.maxItems_merge [item]).trans h.maxItems
    length_le := h.maxItems ▸ T.buffer.length_merge [item] }

end Timeline

namespace Engine

variable {e : Engine} {expr : Expr} {config : Config} {pending : List Item} {tasks : List Task}
variable {k : TaskId} {started aborted : Bool}

-- What the first timeline asks for when its buffer is to be filled again.
def order (expr : Expr) (config : Config) : FetchRequest :=
  { text := expr.compile.queryText
    before := none
    limit := config.backfillCount
    generation := 1 }

-- The first task is the pump, which is live. All others fill the buffer again.
structure Crew (tasks : List Task) (expr : Expr) (config : Config) : Prop where
  pump : ∃ started, tasks[0]? = some ⟨.pump 0 0, started, false, false⟩
  refetches : ∀ k task, tasks[k]? = some task → k ≠ 0 → task.job = .refetch 0 (order expr config)

theorem Crew.length_pos (h : Crew tasks expr config) : 0 < tasks.length := by
  obtain ⟨started, hpump⟩ := h.pump
  exact (List.getElem?_eq_some_iff.mp hpump).1

theorem Crew.modify (h : Crew tasks expr config) (hk : k ≠ 0) {f : Task → Task}
    (hf : ∀ task, (f task).job = task.job) : Crew (tasks.modify k f) expr config := by
  refine ⟨?_, fun k' task htask hk' => ?_⟩
  · rw [List.getElem?_modify_ne _ _ hk]
    exact h.pump
  · rw [List.getElem?_modify] at htask
    obtain ⟨task', htask', rfl⟩ := Option.map_eq_some_iff.mp htask
    split
    · rw [hf]
      exact h.refetches k' task' htask' hk'
    · exact h.refetches k' task' htask' hk'

theorem Crew.concat (h : Crew tasks expr config) :
    Crew (tasks ++ [{ job := .refetch 0 (order expr config) }]) expr config := by
  obtain ⟨started, hpump⟩ := h.pump
  refine ⟨⟨started, ?_⟩, fun k task htask hk => ?_⟩
  · rwa [List.getElem?_append_left h.length_pos]
  · rcases Nat.lt_or_ge k tasks.length with hlt | hge
    · rw [List.getElem?_append_left hlt] at htask
      exact h.refetches k task htask hk
    · rw [List.getElem?_append_right hge] at htask
      rw [List.mem_singleton.mp (List.mem_of_getElem? htask)]

-- The first timeline is live and its filter is that of its query. Its pump is still to get some
-- items.
structure Feeds (e : Engine) (expr : Expr) (config : Config) (pending : List Item) : Prop where
  stack : e.stack = []
  timeline_lt : 0 < e.timelines.length
  live : (e.timeline 0).Live expr config
  current : e.isStale 0 = false
  channel_lt : 0 < e.channels.length
  brings : (e.channel 0).Brings 0 pending
  crew : Crew e.tasks expr config

namespace Feeds

theorem alive (h : e.Feeds expr config pending) : e.isAlive (.timeline 0) = true := by
  have hholders := h.live.holders
  rw [← getElem_timelines h.timeline_lt] at hholders
  simp [isAlive, List.getElem?_eq_getElem h.timeline_lt, hholders]

theorem modifyChannel (h : e.Feeds expr config pending) {f : Channel → Channel}
    {pending' : List Item} (hf : (f (e.channel 0)).Brings 0 pending') :
    (e.modifyChannel 0 f).Feeds expr config pending' := by
  refine { h with channel_lt := ?_, brings := ?_ }
  · simpa [Engine.modifyChannel] using h.channel_lt
  · have hchannel : (e.modifyChannel 0 f).channel 0 = f (e.channel 0) := by
      simp [Engine.modifyChannel, channel, List.getElem?_eq_getElem h.channel_lt]
    rwa [hchannel]

theorem modifyTimeline (h : e.Feeds expr config pending) {f : Timeline → Timeline}
    (hlive : (f (e.timeline 0)).Live expr config)
    (hquery : (f (e.timeline 0)).query = (e.timeline 0).query)
    (hrevision : (f (e.timeline 0)).compiledRevision = (e.timeline 0).compiledRevision) :
    (e.modifyTimeline 0 f).Feeds expr config pending := by
  have hT : (e.modifyTimeline 0 f).timeline 0 = f (e.timeline 0) :=
    timeline_modifyTimeline_self h.timeline_lt f
  refine { h with timeline_lt := ?_, live := hT ▸ hlive, current := ?_ }
  · simpa [Engine.modifyTimeline] using h.timeline_lt
  · rw [← h.current]
    exact isStale_congr (by rw [hT, hquery]) (by rw [hT, hrevision]) fun _ => rfl

-- Only what the tasks do changes.
theorem withTasks (h : e.Feeds expr config pending) (ready : List TaskId)
    (hcrew : Crew tasks expr config) : ({ e with tasks, ready } : Engine).Feeds expr config pending :=
  { h with crew := hcrew }

-- An item that the filter accepts goes into the buffer, and any other is left out.
theorem offer_eq (h : e.Feeds expr config pending) (item : Item) :
    (e.offer 0 item).2 =
      if expr.compile.accepts item then e.modifyTimeline 0 (·.receive item) else e := by
  have hcatch : e.catchUp 0 = e := by simp [catchUp, h.current]
  rw [Engine.offer_eq, hcatch, h.live.phase, h.live.compiled]
  split
  · contradiction
  · split <;> rfl

theorem offer (h : e.Feeds expr config pending) (item : Item) :
    (e.offer 0 item).2.Feeds expr config pending := by
  rw [h.offer_eq]
  split
  · obtain ⟨events, unread, notified, heq⟩ := receive_eq (e.timeline 0) item
    exact h.modifyTimeline (h.live.receive item) (by rw [heq]) (by rw [heq])
  · exact h

end Feeds

theorem wake_eq (e : Engine) (k : TaskId) : ∃ ready, e.wake k = { e with ready } := by
  unfold wake
  split
  · exact ⟨e.ready, rfl⟩
  · exact ⟨_, rfl⟩

theorem wakeAll_eq (e : Engine) (keys : List TaskId) :
    ∃ ready, keys.foldl wake e = { e with ready } := by
  induction keys generalizing e with
  | nil => exact ⟨e.ready, rfl⟩
  | cons k keys ih =>
      obtain ⟨ready, hwake⟩ := wake_eq e k
      rw [List.foldl_cons, hwake]
      exact ih { e with ready }

theorem abort?_eq (e : Engine) (handle : Option TaskId) :
    ∃ ready, e.abort? handle = { e with tasks := (e.abort? handle).tasks, ready } := by
  cases handle with
  | none => exact ⟨e.ready, rfl⟩
  | some k =>
      obtain ⟨ready, hwake⟩ := wake_eq (e.modifyTask k fun task => { task with aborted := true }) k
      refine ⟨ready, ?_⟩
      simp only [abort?, abort, hwake]
      rfl

theorem Crew.abort? (h : Crew e.tasks expr config) {handle : Option TaskId}
    (hhandle : handle ≠ some 0) : Crew (e.abort? handle).tasks expr config := by
  cases handle with
  | none => exact h
  | some k =>
      have htasks : (e.abort? (some k)).tasks =
          e.tasks.modify k fun task => { task with aborted := true } := tasks_wake _ k
      rw [htasks]
      exact h.modify (fun hk => hhandle (congrArg some hk)) fun _ => rfl

namespace Feeds

-- Of what was missed, the timeline is told by one more task that fills its buffer again. The
-- other tasks stay, but for one that may be aborted.
theorem recoverLag (h : e.Feeds expr config pending) :
    (e.recoverLag 0).Feeds expr config pending ∧
      ((e.recoverLag 0).timeline 0).buffer = (e.timeline 0).buffer ∧
      ∃ before, (e.recoverLag 0).tasks = before ++ [{ job := .refetch 0 (order expr config) }] ∧
        before.length = e.tasks.length := by
  obtain ⟨ready, habort⟩ := abort?_eq e (e.timeline 0).refetch
  have hlength : (e.abort? (e.timeline 0).refetch).tasks.length = e.tasks.length := by
    have hjobs := (background_abort? e (e.timeline 0).refetch).jobs
    simpa [jobs] using congrArg List.length hjobs
  have hcrew := h.crew.abort? h.live.refetch
  generalize (e.abort? (e.timeline 0).refetch).tasks = before at habort hlength hcrew
  let task : Task := { job := .refetch 0 (order expr config) }
  let f (timeline : Timeline) : Timeline := { timeline with refetch := some before.length }
  have heq : e.recoverLag 0 =
      Engine.modifyTimeline
        { e with tasks := before ++ [task], ready := ready ++ [before.length] } 0 f := by
    unfold Engine.recoverLag startRefetch
    dsimp only
    rw [h.live.phase, h.live.hasRuntime, habort]
    simp only [Phase.isActive, h.live.compiled, h.live.config_eq, h.live.generation, if_true]
    rfl
  have hspawned := h.withTasks (ready ++ [before.length]) hcrew.concat
  have hfull : before.length ≠ 0 := Nat.ne_of_gt hcrew.length_pos
  have hlive : (f (e.timeline 0)).Live expr config :=
    { h.live with refetch := fun hzero => hfull (Option.some.inj hzero) }
  rw [heq]
  refine ⟨hspawned.modifyTimeline hlive rfl rfl, ?_, before, rfl, hlength⟩
  rw [timeline_modifyTimeline_self (by exact h.timeline_lt)]
  rfl

end Feeds

-- How the pump goes on.
inductive Pumped (e : Engine) (expr : Expr) (config : Config) : List Item → Engine → Prop where
  -- nothing is left for it
  | waits (e' : Engine) (hfeeds : e'.Feeds expr config [])
      (htimeline : e'.timeline 0 = e.timeline 0) (htasks : e'.tasks = e.tasks) :
      Pumped e expr config [] e'
  | takes (e' : Engine) (item : Item) (rest : List Item) (hfeeds : e'.Feeds expr config rest)
      (htimeline : e'.timeline 0 =
        if expr.compile.accepts item then (e.timeline 0).receive item else e.timeline 0)
      (htasks : e'.tasks = e.tasks) :
      Pumped e expr config (item :: rest) e'
  | lags (e' : Engine) (missed rest : List Item) (before : List Task) (hmissed : missed ≠ [])
      (hfeeds : e'.Feeds expr config rest)
      (hbuffer : (e'.timeline 0).buffer = (e.timeline 0).buffer)
      (htasks : e'.tasks = before ++ [{ job := .refetch 0 (order expr config) }])
      (hlength : before.length = e.tasks.length) :
      Pumped e expr config (missed ++ rest) e'

namespace Feeds

theorem pumped (h : e.Feeds expr config pending) : Pumped e expr config pending (e.turn 0) := by
  obtain ⟨started, hpump⟩ := h.crew.pump
  have hturn : e.turn 0 = runPump 0 0 0 1 e := by simp [turn, hpump]
  rw [hturn]
  cases pending with
  | nil =>
      obtain ⟨c, hreceive, hbrings⟩ := h.brings.receive_nothing
      have hfeeds := h.modifyChannel (f := fun _ => c) hbrings
      have heq : runPump 0 0 0 1 e = e.modifyChannel 0 fun _ => c := by
        simp [runPump, hreceive]
      rw [heq]
      exact .waits _ hfeeds rfl rfl
  | cons item rest =>
      by_cases hle : (item :: rest).length ≤ (e.channel 0).items.length
      · obtain ⟨c, hreceive, hbrings⟩ := h.brings.receive_item hle
        have hfeeds := h.modifyChannel (f := fun _ => c) hbrings
        have heq : runPump 0 0 0 1 e = ((e.modifyChannel 0 fun _ => c).offer 0 item).2 := by
          simp [runPump, hreceive, hfeeds.alive]
        rw [heq]
        refine .takes _ item rest (hfeeds.offer item) ?_ ?_
        · rw [hfeeds.offer_eq]
          split
          · exact timeline_modifyTimeline_self hfeeds.timeline_lt _
          · rfl
        · rw [hfeeds.offer_eq]
          split <;> rfl
      · obtain ⟨missed, left, c, hpending, hmissed, hreceive, hbrings⟩ :=
          h.brings.receive_lagged (Nat.lt_of_not_le hle)
        have hfeeds := h.modifyChannel (f := fun _ => c) hbrings
        have heq : runPump 0 0 0 1 e = (e.modifyChannel 0 fun _ => c).recoverLag 0 := by
          simp [runPump, hreceive, hfeeds.alive]
        obtain ⟨hlagged, hbuffer, before, htasks, hlength⟩ := hfeeds.recoverLag
        rw [heq, hpending]
        exact .lags _ missed left before hmissed hlagged hbuffer htasks hlength

theorem publish (h : e.Feeds expr config pending) (item : Item) :
    (e.publish 0 item).2.Feeds expr config (pending ++ [item]) ∧
      (e.publish 0 item).2.timeline 0 = e.timeline 0 ∧ (e.publish 0 item).2.tasks = e.tasks := by
  obtain ⟨ready, hwake⟩ := wakeAll_eq e (e.channel 0).waiting
  have heq : (e.publish 0 item).2 = Engine.modifyChannel { e with ready } 0 (·.send item) := by
    unfold Engine.publish
    dsimp only
    rw [h.brings.isOpen, hwake]
    rfl
  rw [heq]
  have hwoken := h.withTasks ready h.crew
  exact ⟨hwoken.modifyChannel (h.brings.send item), rfl, rfl⟩

-- A task that fills the buffer begins, or goes away if it was aborted.
theorem begins (h : e.Feeds expr config pending) {request : FetchRequest} (hk : k ≠ 0)
    (htask : e.tasks[k]? = some ⟨.refetch 0 request, started, aborted, false⟩) :
    (e.turn k).Feeds expr config pending ∧ (e.turn k).timeline 0 = e.timeline 0 ∧
      (e.turn k).tasks = e.tasks.modify k fun task =>
        if aborted then { task with finished := true } else { task with started := true } := by
  cases aborted with
  | true =>
      have heq : e.turn k = e.modifyTask k fun task => { task with finished := true } := by
        simp [turn, htask, poll, finishTask]
      rw [heq]
      exact ⟨{ h with crew := h.crew.modify hk fun _ => rfl }, rfl, rfl⟩
  | false =>
      have heq : e.turn k = e.modifyTask k fun task => { task with started := true } := by
        simp [turn, htask, poll, h.alive]
      rw [heq]
      exact ⟨{ h with crew := h.crew.modify hk fun _ => rfl }, rfl, rfl⟩

-- Storage has answered.
theorem answered (h : e.Feeds expr config pending) {request : FetchRequest} (hk : k ≠ 0)
    (htask : e.tasks[k]? = some ⟨.refetch 0 request, started, aborted, false⟩)
    (items : List Item) :
    (e.completeTask k (.ok items)).Feeds expr config pending ∧
      ((e.completeTask k (.ok items)).timeline 0).buffer =
        ((e.timeline 0).buffer.merge items).1 ∧
      (e.completeTask k (.ok items)).tasks =
        e.tasks.modify k fun task => { task with finished := true } := by
  have hrequest : request = order expr config := by
    have hjob := h.crew.refetches k _ htask hk
    exact (Job.refetch.inj hjob).2
  let e' := e.modifyTask k fun task => { task with finished := true }
  have hfinish : e.finishTask k = e' := by simp [finishTask, htask, e']
  have hfeeds : e'.Feeds expr config pending := { h with crew := h.crew.modify hk fun _ => rfl }
  have hgeneration : (e'.timeline 0).generation = request.generation :=
    hrequest ▸ hfeeds.live.generation
  have heq : e.completeTask k (.ok items) =
      (e'.modifyTimeline 0 replenished).modifyTimeline 0 fun T => (T.absorb items).1 := by
    unfold completeTask
    rw [htask, hfinish]
    dsimp only
    rw [if_pos hfeeds.alive, completeRefetch, if_neg (not_not_intro hgeneration)]
    rfl
  have hreplenished : (e'.modifyTimeline 0 replenished).Feeds expr config pending := by
    refine hfeeds.modifyTimeline { hfeeds.live with phase := ?_, refetch := ?_ } rfl rfl
    · rw [replenished, hfeeds.live.phase]
      rfl
    · intro hnone
      cases hnone
  obtain ⟨events, habsorb⟩ := absorb_eq ((e'.modifyTimeline 0 replenished).timeline 0) items
  rw [heq]
  refine ⟨hreplenished.modifyTimeline (hreplenished.live.absorb items) ?_ ?_, ?_, rfl⟩
  · rw [habsorb]
  · rw [habsorb]
  · rw [timeline_modifyTimeline_self hreplenished.timeline_lt, habsorb,
      timeline_modifyTimeline_self hfeeds.timeline_lt]
    rfl

end Feeds

end Engine

end FilteredFeed
