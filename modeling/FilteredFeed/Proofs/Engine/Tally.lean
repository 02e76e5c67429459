import FilteredFeed.Pattern.Builtin
import FilteredFeed.Proofs.Engine.CaughtUp
import FilteredFeed.Proofs.Engine.Effects
import FilteredFeed.Proofs.Timeline.Arrivals
import Mathlib.Data.List.DropRight

namespace FilteredFeed.Engine

open FilteredFeed.Feed FilteredFeed.Filter FilteredFeed.Listener FilteredFeed.Timeline
open FilteredFeed.Scenario (Asker)

section

variable [Patterns]
variable {e : Engine} {t : TimelineId} {m : Move} {item : Item} {id : ItemId} {moves : List Move}

-- Whether a timeline counts its new items from zero after an incident.
def Incident.recounts : Incident → Bool
  | .invalidated | .requeried | .disposed | .cleared => true
  | .deactivated | .activated => false

def Move.takesCount (t : TimelineId) : Move → Bool
  | .takeUnread t' => t' == t
  | _ => false

-- Whether a timeline counts from zero after a move, or from what the move brings.
def recounts (e : Engine) (t : TimelineId) (m : Move) : Bool :=
  m.takesCount t || (e.incident? t m).any Incident.recounts

-- The live item that a move brings to a timeline.
def delivery? (e : Engine) (t : TimelineId) : Move → Option Item
  | .offer t' item => if t' = t then some item else none
  | .turn k =>
      match e.tasks[k]? with
      | some ⟨.pump t' s, _, false, false⟩ =>
          match ((e.channel s).receive k).1 with
          | .item item => if t' = t then some item else none
          | _ => none
      | _ => none
  | _ => none

-- The id of a live item that a timeline accepts, if its buffer reports it as inserted.
def entry? (e : Engine) (t : TimelineId) (m : Move) : Option ItemId :=
  match e.delivery? t m with
  | some item =>
      let (_, delta) := ((e.catchUp t).timeline t).buffer.merge [item]
      if (e.offer t item).1 && delta.inserted.contains item.id then some item.id else none
  | none => none

-- What counts in a move.
inductive Tick where
  | recount
  | entry (id : ItemId)
deriving DecidableEq, Repr

def tick (e : Engine) (t : TimelineId) (m : Move) : List Tick :=
  (if e.recounts t m then [.recount] else []) ++ (e.entry? t m).toList.map .entry

-- What counts in a run.
def ticks (t : TimelineId) : Engine → List Move → List Tick
  | _, [] => []
  | e, m :: moves => e.tick t m ++ ticks t (e.after m) moves

def Tick.entry? : Tick → Option ItemId
  | .entry id => some id
  | .recount => none

def Tick.isEntry : Tick → Bool
  | .entry _ => true
  | .recount => false

-- The items that came in, and how many of them came after the count was last taken back.
def entries (ticks : List Tick) : List ItemId := ticks.filterMap Tick.entry?

def uncounted (ticks : List Tick) : Nat := (ticks.rtakeWhile Tick.isEntry).length

theorem ticks_concat (t : TimelineId) (e : Engine) (moves : List Move) (m : Move) :
    ticks t e (moves ++ [m]) = ticks t e moves ++ (e.replay moves).tick t m := by
  induction moves generalizing e with
  | nil => simp [ticks]
  | cons first moves ih => simp [ticks, ih]

theorem entries_tick (e : Engine) (t : TimelineId) (m : Move) (before : List Tick) :
    entries (before ++ e.tick t m) = entries before ++ (e.entry? t m).toList := by
  unfold tick entries
  cases e.recounts t m <;> cases e.entry? t m <;> simp [List.filterMap_cons, Tick.entry?]

theorem uncounted_tick (e : Engine) (t : TimelineId) (m : Move) (before : List Tick) :
    uncounted (before ++ e.tick t m) =
      (if e.recounts t m then 0 else uncounted before) + (e.entry? t m).toList.length := by
  have hrecount : uncounted (before ++ [.recount]) = 0 := by
    simp [uncounted, Tick.isEntry]
  have hentry (ticks : List Tick) (id : ItemId) :
      uncounted (ticks ++ [.entry id]) = uncounted ticks + 1 := by
    unfold uncounted
    rw [List.rtakeWhile_concat_pos _ _ _ rfl, List.length_append]
    rfl
  unfold tick
  cases e.recounts t m with
  | false => cases e.entry? t m <;> simp [hentry]
  | true =>
      cases e.entry? t m with
      | none => simpa using hrecount
      | some id =>
          have hsplit : before ++ ([Tick.recount] ++ [.entry id]) =
              (before ++ [.recount]) ++ [.entry id] := by simp
          simp only [if_true, Option.toList_some, List.map_singleton, hsplit, hentry, hrecount]
          rfl

-- What a move does to the count of a timeline and to what it has announced.
structure Counts (recounted : Bool) (entry : Option ItemId) (T T' : Timeline) : Prop where
  config : T'.config = T.config
  hasSink : T'.hasSink = T.hasSink
  unread : T'.unread = (if recounted then 0 else T.unread) +
    if T.config.countUnread then entry.toList.length else 0
  notified : T'.notified =
    (if T.config.notifyNewArrivals && T.hasSink then entry.toList else []) ++ T.notified

variable {T T' T'' : Timeline} {recounted : Bool} {entry : Option ItemId}

theorem counts_same (hconfig : T'.config = T.config) (hsink : T'.hasSink = T.hasSink)
    (hunread : T'.unread = T.unread) (hnotified : T'.notified = T.notified) :
    Counts false none T T' :=
  ⟨hconfig, hsink, by simp [hunread], by simp [hnotified]⟩

theorem counts_zero (hconfig : T'.config = T.config) (hsink : T'.hasSink = T.hasSink)
    (hunread : T'.unread = 0) (hnotified : T'.notified = T.notified) : Counts true none T T' :=
  ⟨hconfig, hsink, by simp [hunread], by simp [hnotified]⟩

theorem Counts.alike (h : Counts recounted entry T T') (halike : T'.Alike T'') :
    Counts recounted entry T T'' := by
  obtain ⟨holders, pump, refetch, rfl⟩ := halike
  exact ⟨h.config, h.hasSink, h.unread, h.notified⟩

-- Where counting starts from zero, the count before makes no difference.
theorem Counts.since {T₀ : Timeline} (h : Counts true entry T T') (hconfig : T.config = T₀.config)
    (hsink : T.hasSink = T₀.hasSink) (hnotified : T.notified = T₀.notified) :
    Counts true entry T₀ T' := by
  refine ⟨h.config.trans hconfig, h.hasSink.trans hsink, ?_, ?_⟩
  · rw [h.unread, hconfig]
    rfl
  · rw [h.notified, hconfig, hsink, hnotified]

-- An item that is received counts if it is new.
theorem counts_receive (T : Timeline) (item : Item) :
    Counts false
      (if (T.buffer.merge [item]).2.inserted.contains item.id then some item.id else none) T
      (T.receive item) := by
  obtain ⟨events, habsorb⟩ := absorb_eq T [item]
  have hdelta : (T.absorb [item]).2 = (T.buffer.merge [item]).2 := rfl
  unfold Timeline.receive
  simp only [hdelta, habsorb]
  by_cases hnew : (T.buffer.merge [item]).2.inserted.contains item.id = true
  · simp only [hnew, if_true]
    refine ⟨rfl, rfl, ?_, ?_⟩
    · cases T.config.countUnread <;> simp
    · cases T.config.notifyNewArrivals && T.hasSink <;> simp
  · simp only [hnew]
    exact counts_same rfl rfl rfl rfl

theorem counts_restarted (e : Engine) (t : TimelineId) :
    Counts true none (e.timeline t) (e.restarted t) := by
  obtain ⟨events, h⟩ := restarted_eq e t
  rw [h]
  exact counts_zero rfl rfl rfl rfl

theorem counts_refitted (e : Engine) (t : TimelineId) :
    Counts true none (e.timeline t) (e.refitted t) := by
  obtain ⟨events, h⟩ := refitted_eq e t
  rw [h]
  exact counts_zero rfl rfl rfl rfl

omit [Patterns] in
@[simp] theorem any_when (b : Bool) (incident : Incident) (p : Incident → Bool) :
    (when b incident).any p = (b && p incident) := by
  cases b <;> simp [when]

theorem delivery?_eq_some : e.delivery? t m = some item ↔ e.Delivers t item m := by
  constructor
  · intro h
    cases m with
    | offer t' item' =>
        by_cases hself : t' = t
        · subst hself
          simp only [delivery?, if_true, Option.some.injEq] at h
          exact h ▸ .offer
        · simp [delivery?, hself] at h
    | turn k =>
        unfold delivery? at h
        dsimp only at h
        split at h
        · rename_i t' s started htask
          split at h
          · rename_i item' hitem
            by_cases hself : t' = t
            · subst hself
              simp only [if_true, Option.some.injEq] at h
              exact h ▸ .turn htask hitem
            · simp [hself] at h
          · cases h
        · cases h
    | _ => cases h
  · intro h
    cases h with
    | offer => simp [delivery?]
    | turn htask hitem => simp [delivery?, htask, hitem]

-- A timeline accepts what the filter of its query accepts, applied or not.

theorem offer_of_inactive (hinactive : (e.timeline t).phase.isActive = false) (item : Item) :
    e.offer t item = (false, e) := by
  rw [offer_eq, hinactive]
  rfl

theorem offer_of_active (hw : Wired e) (hactive : (e.timeline t).phase.isActive = true)
    (item : Item) :
    e.offer t item =
      if (e.accepts t item).1 then (true, (e.catchUp t).modifyTimeline t (·.receive item))
      else (false, e.catchUp t) := by
  have hfilter : (e.accepts t item).1 = (e.caught t).compiled.accepts item :=
    congrArg (fun filter : CompiledFilter => filter.accepts item) (currentFilter_eq hw t)
  rw [offer_eq, hactive, compiled_catchUp (lt_of_active hactive), hfilter]
  rfl

theorem buffer_catchUp (hactive : (e.timeline t).phase.isActive = true) :
    ((e.catchUp t).timeline t).buffer = (e.caught t).buffer :=
  (alike_catchUp (lt_of_active hactive)).buffer

-- What a timeline that is behind applies is one invalidation, and a mark.

theorem catchUp_of_current (hcurrent : e.isStale t = false) : e.catchUp t = e := by
  simp [catchUp, hcurrent]

theorem catchUp_of_stale (hstale : e.isStale t = true) :
    e.catchUp t = (e.invalidateNow t).modifyTimeline t fun timeline =>
      { timeline with caughtUp := timeline.compiledRevision } := by
  have hsame (delta : Delta) :
      (fun timeline : Timeline => timeline.emit delta) ∘
        (fun timeline => { timeline with caughtUp := timeline.compiledRevision }) =
      (fun timeline => { timeline with caughtUp := timeline.compiledRevision }) ∘
        fun timeline : Timeline => timeline.emit delta := by
    funext T
    obtain ⟨events, hemit⟩ := emit_eq T delta
    simp only [Function.comp, emit_mark, hemit]
  unfold catchUp invalidateNow emit modifyTimeline
  rw [if_pos hstale]
  simp only [List.modify_modify_eq, hsame]

theorem renewed_catchUp (hm : Manned e t) (hactive : (e.timeline t).phase.isActive = true)
    (hstale : e.isStale t = true) : Renewed e (e.catchUp t) t := by
  have hrenewed := renewed_invalidateNow hactive (hm.runtime hactive)
  have hlt : t < (e.invalidateNow t).timelines.length :=
    (within_invalidateNow e t).size ▸ lt_of_active hactive
  rw [catchUp_of_stale hstale]
  have hT := timeline_modifyTimeline_self hlt fun timeline =>
    { timeline with caughtUp := timeline.compiledRevision }
  refine ⟨?_, ?_, ?_, ?_, ?_⟩
  · rw [hT]
    exact hrenewed.generation
  · rw [hT]
    exact hrenewed.phase
  · rw [hT]
    exact hrenewed.items
  · rw [hT]
    exact hrenewed.unread
  · rw [hT]
    exact hrenewed.jobs

-- A live item that reaches an active timeline.

theorem entry?_of_delivers (hactive : (e.timeline t).phase.isActive = true)
    (h : e.Delivers t item m) :
    e.entry? t m =
      if (e.caught t).compiled.accepts item &&
        ((e.caught t).buffer.merge [item]).2.inserted.contains item.id
      then some item.id else none := by
  have hfirst : (e.offer t item).1 = (e.caught t).compiled.accepts item := by
    rw [offer_eq, hactive, compiled_catchUp (lt_of_active hactive)]
    cases (e.caught t).compiled.accepts item <;> rfl
  unfold entry?
  rw [delivery?_eq_some.mpr h, buffer_catchUp hactive, ← hfirst]

theorem recounts_of_delivers (hw : Wired e) (hactive : (e.timeline t).phase.isActive = true)
    (h : e.Delivers t item m) : e.recounts t m = e.isStale t := by
  cases h with
  | offer => simp [recounts, Move.takesCount, incident?, isBehind, hactive, Incident.recounts]
  | turn htask hitem =>
      have halive : e.isAlive (.timeline t) = true := hw.alive_of_active hactive
      simp [recounts, Move.takesCount, incident?, pumpIncident?_pump htask, hitem, halive,
        isBehind, hactive, Incident.recounts]

theorem counts_caught (e : Engine) (t : TimelineId) :
    Counts (e.isStale t) none (e.timeline t) (e.caught t) := by
  cases hstale : e.isStale t with
  | false =>
      rw [caught_of_current hstale]
      exact counts_same rfl rfl rfl rfl
  | true =>
      rw [caught_of_stale hstale]
      obtain ⟨hconfig, hsink, hunread, hnotified⟩ := counts_restarted e t
      exact ⟨hconfig, hsink, hunread, hnotified⟩

theorem counts_tested (e : Engine) (t : TimelineId) (item : Item) :
    Counts (e.isStale t)
      (if (e.caught t).compiled.accepts item &&
        ((e.caught t).buffer.merge [item]).2.inserted.contains item.id
      then some item.id else none) (e.timeline t) (e.tested t item) := by
  have hcaught := counts_caught e t
  unfold tested
  cases (e.caught t).compiled.accepts item with
  | false => simpa using hcaught
  | true =>
      obtain ⟨hconfig, hsink, hunread, hnotified⟩ := counts_receive (e.caught t) item
      simp only [Bool.true_and, if_true]
      refine ⟨hconfig.trans hcaught.config, hsink.trans hcaught.hasSink, ?_, ?_⟩
      · rw [hunread, hcaught.unread, hcaught.config]
        simp
      · rw [hnotified, hcaught.notified, hcaught.config, hcaught.hasSink]
        simp

theorem Delivers.counts (h : e.Delivers t item m) (hw : Wired e)
    (hactive : (e.timeline t).phase.isActive = true) :
    Counts (e.recounts t m) (e.entry? t m) (e.timeline t) ((e.after m).timeline t) := by
  rw [recounts_of_delivers hw hactive h, entry?_of_delivers hactive h]
  exact (counts_tested e t item).alike (h.alike hw hactive)

-- A move that brings an active timeline no item has nothing to count.
theorem entry?_of_quiet (hquiet : ∀ item, e.Delivers t item m →
    (e.timeline t).phase.isActive = false) : e.entry? t m = none := by
  unfold entry?
  cases hdelivery : e.delivery? t m with
  | none => rfl
  | some item =>
      simp [offer_of_inactive (hquiet item (delivery?_eq_some.mp hdelivery)) item]

-- What becomes of a timeline that goes on counting.
theorem Becomes.counts (h : Becomes e t m T) (hlt : t < e.timelines.length)
    (hquiet : ∀ item, e.Delivers t item m → (e.timeline t).phase.isActive = false)
    (hgoes : e.recounts t m = false) : Counts false none (e.timeline t) T := by
  induction h with
  | kept m => exact counts_same rfl rfl rfl rfl
  | dropped h hdead ih =>
      obtain ⟨hconfig, hsink, hunread, hnotified⟩ := ih hquiet hgoes
      exact ⟨hconfig, hsink, hunread, hnotified⟩
  | told hs hheeds =>
      simp [recounts, incident?, hs, frameIncident?, hheeds, Incident.recounts] at hgoes
  | unmarked hs => exact counts_same rfl rfl rfl rfl
  | enrolled hs => exact counts_same rfl rfl rfl rfl
  | refreshed hs hstale | refitted hs hstale =>
      simp [recounts, incident?, hs, frameIncident?, hstale, Incident.recounts] at hgoes
  | @emitted delta rest hs =>
      obtain ⟨events, hT⟩ := emit_eq (e.timeline t) delta
      rw [hT]
      exact counts_same rfl rfl rfl rfl
  | stopped hactive => exact counts_same rfl rfl rfl rfl
  | invalidated hphase | ended hphase =>
      simp [recounts, incident?, hphase, Incident.recounts] at hgoes
  | requeried hphase hquery =>
      simp [recounts, incident?, hphase, hquery, Incident.recounts] at hgoes
  | counted => simp [recounts, Move.takesCount] at hgoes
  | launched hphase => exact counts_same rfl rfl rfl rfl
  | offered hm hactive => exact Bool.noConfusion (hactive.symm.trans (hquiet _ hm))
  | @absorbed a r items phase hawaits hasks hcurrent hphase =>
      obtain ⟨events, hT⟩ := absorb_eq ({ e.timeline t with phase } : Timeline) items
      rw [hT]
      exact counts_same rfl rfl rfl rfl
  | failed hawaits hasks hcurrent hphase => exact counts_same rfl rfl rfl rfl
  | rolledBack => exact counts_same rfl rfl rfl rfl
  | made hnew => exact absurd hlt (hnew ▸ Nat.lt_irrefl _)

-- A call that goes on and makes a timeline count from zero.
theorem counts_step (hw : Wired e) (hallows : e.allows .step = true) (ht : t < e.timelines.length)
    (hrecounts : e.recounts t .step = true) :
    Counts true none (e.timeline t) ((e.after .step).timeline t) := by
  obtain ⟨f, rest, hs, -, hafter⟩ := after_step hallows
  simp only [recounts, Move.takesCount, incident?, hs, List.head?_cons, Option.bind_some,
    Bool.false_or] at hrecounts
  cases f with
  | call target revision =>
      cases target with
      | observer o => cases hrecounts
      | timeline t' =>
          simp only [frameIncident?, any_when, Bool.and_eq_true, beq_iff_eq] at hrecounts
          obtain ⟨⟨rfl, hheeds⟩, -⟩ := hrecounts
          exact (counts_restarted e t').alike
            (Called.alike ⟨revision, calls_of_stack hs, hheeds⟩ ht)
  | attach t' q epoch purpose =>
      cases purpose with
      | swap =>
          simp only [frameIncident?, any_when, Bool.and_eq_true, beq_iff_eq] at hrecounts
          obtain ⟨⟨⟨rfl, rfl⟩, hstale⟩, -⟩ := hrecounts
          have hT := timeline_enrol_popped hw hs rfl
          have hcounts := counts_restarted (({ e with stack := rest } : Engine).enrol t' q) t'
          rw [hT] at hcounts
          have hsince : Counts true none (e.timeline t') _ := hcounts.since rfl rfl rfl
          rw [hafter]
          exact hsince.alike (alike_attach_swap hw hs hstale)
      | activation o generation =>
          simp only [frameIncident?, any_when, Bool.and_eq_true, beq_iff_eq] at hrecounts
          obtain ⟨⟨⟨⟨rfl, rfl⟩, rfl⟩, hstale⟩, -⟩ := hrecounts
          have hT := timeline_enrol_popped hw hs rfl
          have hcounts := counts_refitted (({ e with stack := rest } : Engine).enrol t' q) t'
          rw [hT] at hcounts
          have hsince : Counts true none (e.timeline t') _ := hcounts.since rfl rfl rfl
          rw [← timeline_attach_activation hw hs hstale] at hsince
          rw [hafter]
          exact hsince
  | release target =>
      cases target with
      | observer o => cases hrecounts
      | timeline t' => simp [frameIncident?, Incident.recounts] at hrecounts
  | finish o result => simp [frameIncident?, Incident.recounts] at hrecounts
  | _ => cases hrecounts

-- A move that brings no item and makes a timeline count from zero.
theorem counts_of_recounts (hw : Wired e) (hallows : e.allows m = true)
    (ht : t < e.timelines.length)
    (hquiet : ∀ item, e.Delivers t item m → (e.timeline t).phase.isActive = false)
    (hrecounts : e.recounts t m = true) :
    Counts true none (e.timeline t) ((e.after m).timeline t) := by
  cases m with
  | step => exact counts_step hw hallows ht hrecounts
  | takeUnread t' =>
      simp only [recounts, Move.takesCount, incident?, Option.any_none, Bool.or_false,
        beq_iff_eq] at hrecounts
      subst hrecounts
      have hT : (e.after (.takeUnread t')).timeline t' = { e.timeline t' with unread := 0 } :=
        timeline_modifyTimeline_self ht _
      rw [hT]
      exact counts_zero rfl rfl rfl rfl
  | invalidate t' =>
      simp only [recounts, Move.takesCount, incident?, any_when, Bool.false_or, Bool.and_eq_true,
        beq_iff_eq, decide_eq_true_eq] at hrecounts
      obtain ⟨⟨rfl, hphase⟩, -⟩ := hrecounts
      exact (counts_restarted e t').alike (alike_invalidate ht hphase)
  | setQuery t' query =>
      simp only [recounts, Move.takesCount, incident?, any_when, Bool.false_or, Bool.and_eq_true,
        beq_iff_eq, decide_eq_true_eq] at hrecounts
      obtain ⟨⟨rfl, hphase, hquery⟩, -⟩ := hrecounts
      have hcounts := counts_restarted (e.leaveQuery t' query) t'
      rw [timeline_leaveQuery ht] at hcounts
      have hsince : Counts true none (e.timeline t') _ := hcounts.since rfl rfl rfl
      exact hsince.alike (alike_setQuery ht hphase hquery)
  | dispose t' =>
      simp only [recounts, Move.takesCount, incident?, any_when, Bool.false_or, Bool.and_eq_true,
        beq_iff_eq, decide_eq_true_eq] at hrecounts
      obtain ⟨⟨rfl, hphase⟩, -⟩ := hrecounts
      have hended : Counts true none (e.timeline t') (ended (e.timeline t')) :=
        counts_zero rfl rfl rfl rfl
      exact hended.alike (alike_dispose ht hphase)
  | offer t' item =>
      simp only [recounts, Move.takesCount, incident?, any_when, Bool.false_or, Bool.and_eq_true,
        beq_iff_eq, isBehind] at hrecounts
      obtain ⟨⟨rfl, hactive, -⟩, -⟩ := hrecounts
      exact Bool.noConfusion (hactive.symm.trans (hquiet item .offer))
  | turn k =>
      rcases turn_cases e k with ⟨t', s, started, htask, -⟩ | ⟨hother, -⟩
      · simp only [recounts, Move.takesCount, incident?, pumpIncident?_pump htask,
          Bool.false_or] at hrecounts
        split at hrecounts
        · rename_i item hitem
          simp only [any_when, Bool.and_eq_true, beq_iff_eq, isBehind] at hrecounts
          obtain ⟨⟨⟨rfl, -⟩, hactive, -⟩, -⟩ := hrecounts
          exact Bool.noConfusion (hactive.symm.trans (hquiet item (.turn htask hitem)))
        · cases hrecounts
      · simp [recounts, Move.takesCount, incident?, pumpIncident?_other hother] at hrecounts
  | answer asker result =>
      cases asker with
      | task k => cases hrecounts
      | operation o =>
          simp only [recounts, Move.takesCount, incident?, answerIncident?, Bool.false_or]
            at hrecounts
          split at hrecounts
          · simp [Incident.recounts] at hrecounts
          · cases hrecounts
  | drop t' | deactivate t' | startActivation t' hasRuntime | cancel o =>
      simp [recounts, Move.takesCount, incident?, Incident.recounts] at hrecounts
  | _ => cases hrecounts

-- What a move does to the count of a timeline and to what it has announced is what counts in it.
theorem counts_after (hw : Wired e) (hallows : e.allows m = true) (ht : t < e.timelines.length) :
    Counts (e.recounts t m) (e.entry? t m) (e.timeline t) ((e.after m).timeline t) := by
  by_cases harrives : ∃ item, e.Delivers t item m ∧ (e.timeline t).phase.isActive = true
  · obtain ⟨item, hdelivers, hactive⟩ := harrives
    exact hdelivers.counts hw hactive
  · have hquiet (item : Item) (hdelivers : e.Delivers t item m) :
        (e.timeline t).phase.isActive = false :=
      Bool.eq_false_iff.mpr fun hactive => harrives ⟨item, hdelivers, hactive⟩
    rw [entry?_of_quiet hquiet]
    cases hrecounts : e.recounts t m with
    | true => exact counts_of_recounts hw hallows ht hquiet hrecounts
    | false =>
        obtain ⟨T, hT, halike⟩ := leaves_after hw hallows (lt_after ht hallows)
        exact (hT.counts ht hquiet hrecounts).alike halike

-- A timeline that is not made yet has nothing to count.
theorem ticks_of_unmade (hruns : ({} : Engine).Runs moves)
    (hunmade : (({} : Engine).replay moves).timelines.length ≤ t) :
    entries (ticks t {} moves) = [] ∧ uncounted (ticks t {} moves) = 0 := by
  induction moves using List.reverseRecOn with
  | nil => exact ⟨rfl, rfl⟩
  | append_singleton moves m ih =>
      obtain ⟨hbefore, hallows, -, -⟩ := follows_append.mp hruns
      rw [replay_concat, length_after hallows] at hunmade
      have hle := Nat.le_of_add_right_le hunmade
      have hquiet (item : Item) (_ : (({} : Engine).replay moves).Delivers t item m) :
          ((({} : Engine).replay moves).timeline t).phase.isActive = false := by
        rw [timeline_of_le hle]
        rfl
      obtain ⟨hentries, hcount⟩ := ih hbefore hle
      rw [ticks_concat, entries_tick, uncounted_tick, entry?_of_quiet hquiet, hentries, hcount]
      exact ⟨rfl, by simp⟩

-- A timeline shows how many items came in since the count was last taken back, and has announced
-- all that came in.
structure Tallies (T : Timeline) (ticks : List Tick) : Prop where
  unread : T.unread = if T.config.countUnread then uncounted ticks else 0
  notified : T.notified =
    if T.config.notifyNewArrivals && T.hasSink then (entries ticks).reverse else []

theorem tallies_nothing {ticks : List Tick} (hunread : T.unread = 0) (hnotified : T.notified = [])
    (hentries : entries ticks = []) (hcount : uncounted ticks = 0) : Tallies T ticks :=
  ⟨by simp [hunread, hcount], by simp [hnotified, hentries]⟩

theorem Tallies.counts {ticks : List Tick} (h : Tallies T ticks)
    (hcounts : Counts (e.recounts t m) (e.entry? t m) T T') : Tallies T' (ticks ++ e.tick t m) := by
  refine ⟨?_, ?_⟩
  · rw [hcounts.unread, hcounts.config, h.unread, uncounted_tick]
    cases T.config.countUnread <;> simp
  · rw [hcounts.notified, hcounts.config, hcounts.hasSink, h.notified, entries_tick]
    cases T.config.notifyNewArrivals && T.hasSink <;> cases e.entry? t m <;> simp

theorem tallies_replay (hruns : ({} : Engine).Runs moves) (t : TimelineId) :
    Tallies ((({} : Engine).replay moves).timeline t) (ticks t {} moves) := by
  induction moves using List.reverseRecOn with
  | nil => exact tallies_nothing rfl rfl rfl rfl
  | append_singleton moves m ih =>
      obtain ⟨hbefore, hallows, -, -⟩ := follows_append.mp hruns
      have hw := (isReached_replay hbefore).wired
      have hlength := length_after hallows
      by_cases ht : t < (({} : Engine).replay moves).timelines.length
      · rw [replay_concat, ticks_concat]
        exact (ih hbefore).counts (counts_after hw hallows ht)
      · by_cases hunmade : (({} : Engine).replay (moves ++ [m])).timelines.length ≤ t
        · obtain ⟨hentries, hcount⟩ := ticks_of_unmade hruns hunmade
          rw [timeline_of_le hunmade]
          exact tallies_nothing rfl rfl hentries hcount
        · rw [replay_concat, hlength] at hunmade
          cases m with
          | addTimeline config storage stream query hasSink =>
              have hmade : t < (({} : Engine).replay moves).timelines.length + 1 :=
                Nat.lt_of_not_le hunmade
              have hnew : t = (({} : Engine).replay moves).timelines.length :=
                Nat.le_antisymm (Nat.le_of_lt_succ hmade) (Nat.le_of_not_lt ht)
              obtain ⟨hentries, hcount⟩ := ticks_of_unmade hbefore (Nat.le_of_eq hnew.symm)
              obtain ⟨compiled, hT⟩ :=
                timeline_addTimeline config storage stream query hasSink hnew
              rw [replay_concat, ticks_concat]
              refine tallies_nothing (congrArg Timeline.unread hT) (congrArg Timeline.notified hT)
                ?_ ?_
              · rw [entries_tick, hentries]
                rfl
              · rw [uncounted_tick, hcount]
                rfl
          | _ => exact absurd (Nat.le_of_not_lt ht) hunmade

theorem entry?_eq_some_iff : e.entry? t m = some id ↔
    ∃ item, e.Delivers t item m ∧ item.id = id ∧ (e.offer t item).1 = true ∧
      id ∉ ((e.catchUp t).timeline t).buffer.ids ∧
      id ∈ (((e.catchUp t).timeline t).buffer.merge [item]).1.ids := by
  have hnew (item : Item) : (((e.catchUp t).timeline t).buffer.merge [item]).2.inserted.contains
      item.id = true ↔ item.id ∉ ((e.catchUp t).timeline t).buffer.ids ∧
        item.id ∈ (((e.catchUp t).timeline t).buffer.merge [item]).1.ids := by
    rw [List.contains_iff_mem]
    exact (Buffer.tracks_merge _ [item]).mem_inserted
  constructor
  · intro h
    unfold entry? at h
    split at h
    · rename_i item hdelivery
      dsimp only at h
      split at h
      · rename_i hboth
        obtain ⟨hoffer, hinserted⟩ := Bool.and_eq_true_iff.mp hboth
        obtain rfl := Option.some.inj h
        exact ⟨item, delivery?_eq_some.mp hdelivery, rfl, hoffer, (hnew item).mp hinserted⟩
      · cases h
    · cases h
  · rintro ⟨item, hdelivers, rfl, hoffer, hinserted⟩
    unfold entry?
    rw [delivery?_eq_some.mpr hdelivers]
    simp only [hoffer, (hnew item).mpr hinserted, Bool.and_self, if_true]

-- An active timeline accepts a live item exactly if its filter does. A change of the query that it
-- has not applied yet is one invalidation first, and what it accepts is merged. Who is told of new
-- items has been told of exactly those that came in, and the count is of those that came in since it
-- was last taken back.
theorem live_arrivals (hruns : ({} : Engine).Runs moves) (t : TimelineId) :
    let e := ({} : Engine).replay moves
    let T := e.timeline t
    (∀ item, e.offer t item =
      if T.phase.isActive then
        if (e.accepts t item).1 then (true, (e.catchUp t).modifyTimeline t (·.receive item))
        else (false, e.catchUp t)
      else (false, e)) ∧
    (∀ item, (e.offer t item).1 = true → ((e.offer t item).2.timeline t).buffer =
      (((e.catchUp t).timeline t).buffer.merge [item]).1) ∧
    (e.isStale t = false → e.catchUp t = e) ∧
    (T.phase.isActive = true → e.isStale t = true →
      (e.catchUp t = (e.invalidateNow t).modifyTimeline t fun timeline =>
        { timeline with caughtUp := timeline.compiledRevision }) ∧
      Renewed e (e.catchUp t) t ∧
      ((e.catchUp t).timeline t).compiled = (e.currentFilter t).1) ∧
    (∀ m id, e.entry? t m = some id ↔ ∃ item, e.Delivers t item m ∧ item.id = id ∧
      (e.offer t item).1 = true ∧ id ∉ ((e.catchUp t).timeline t).buffer.ids ∧
      id ∈ (((e.catchUp t).timeline t).buffer.merge [item]).1.ids) ∧
    T.notified = (if T.config.notifyNewArrivals && T.hasSink then
      (entries (ticks t {} moves)).reverse else []) ∧
    T.unread = if T.config.countUnread then uncounted (ticks t {} moves) else 0 := by
  intro e T
  have hreached : IsReached e := isReached_replay hruns
  have hoffer (item : Item) : e.offer t item =
      if T.phase.isActive then
        if (e.accepts t item).1 then (true, (e.catchUp t).modifyTimeline t (·.receive item))
        else (false, e.catchUp t)
      else (false, e) := by
    cases hactive : T.phase.isActive with
    | false => exact offer_of_inactive hactive item
    | true => exact offer_of_active hreached.wired hactive item
  have htallies : Tallies T (ticks t {} moves) := tallies_replay hruns t
  refine ⟨hoffer, ?_, catchUp_of_current, ?_, fun m id => entry?_eq_some_iff, htallies.notified,
    htallies.unread⟩
  · intro item haccepted
    have hactive : T.phase.isActive = true := by
      cases hactive : T.phase.isActive with
      | true => rfl
      | false => rw [offer_of_inactive hactive] at haccepted; cases haccepted
    rw [offer_of_active hreached.wired hactive] at haccepted ⊢
    split at haccepted
    · rename_i haccepts
      have hlt : t < (e.catchUp t).timelines.length :=
        (within_catchUp e t).size ▸ lt_of_active hactive
      obtain ⟨events, unread, notified, hreceive⟩ := receive_eq ((e.catchUp t).timeline t) item
      rw [if_pos haccepts, timeline_modifyTimeline_self hlt, hreceive]
    · cases haccepted
  · intro hactive hstale
    refine ⟨catchUp_of_stale hstale, ?_, ?_⟩
    · exact renewed_catchUp (hreached.staffed t).toManned hactive hstale
    · rw [compiled_catchUp (lt_of_active hactive), currentFilter_eq hreached.wired]

end

-- A timeline of two items gets one, hears two new ones, one of them again and one that is too old, and
-- is asked for the count in between. Then its query changes, and before it is told of that it hears
-- two more.
def heardBetween : List Move :=
  [.addQuery (.not .contradiction) none, .addChannel 4,
    .addTimeline { maxItems := 2, countUnread := true, notifyNewArrivals := true } 0 0 (some 0) true,
    .listen 0, .startActivation 0 true,
    .step, .step, .step, .step, .leaveObserver, .step, .step, .step,
    .answer (.operation 0) (.ok [{ id := 5, author := "a" }]),
    .offer 0 { id := 7, author := "a" }, .offer 0 { id := 7, author := "b" },
    .offer 0 { id := 3, author := "a" }, .takeUnread 0, .offer 0 { id := 8, author := "a" },
    .setExpression 0 (.compare .hasMedia (.relation .eq) (.bool false)), .step, .step, .step,
    .offer 0 { id := 9, author := "a" }, .offer 0 { id := 4, author := "b" }]

theorem live_arrivals_heardBetween :
    ({} : Engine).Runs heardBetween ∧
    ticks 0 {} heardBetween =
      [.entry 7, .recount, .entry 8, .recount, .entry 9, .entry 4] ∧
    ((({} : Engine).replay heardBetween).timeline 0).notified = [4, 9, 8, 7] ∧
    ((({} : Engine).replay heardBetween).timeline 0).unread = 2 := by
  have hruns : ({} : Engine).Runs heardBetween := by decide
  have hticks : ticks 0 {} heardBetween =
      [.entry 7, .recount, .entry 8, .recount, .entry 9, .entry 4] := by decide
  obtain ⟨-, -, -, -, -, hnotified, hunread⟩ := live_arrivals hruns 0
  rw [hticks] at hnotified hunread
  refine ⟨hruns, hticks, hnotified.trans ?_, hunread.trans ?_⟩
  · rfl
  · rfl

end FilteredFeed.Engine
