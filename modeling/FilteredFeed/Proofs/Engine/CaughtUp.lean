import FilteredFeed.Pattern.Builtin
import FilteredFeed.Proofs.Engine.Called

namespace FilteredFeed.Engine

open FilteredFeed.Feed FilteredFeed.Filter FilteredFeed.Listener FilteredFeed.Timeline
open FilteredFeed.Scenario (Asker)

section

variable [Patterns]
variable {e : Engine} {t : TimelineId} {q : QueryId} {c : Nat} {mark : Option Nat} {m : Move}
variable {moves : List Move} {item : Item}

-- An active timeline catches up with its query before it tests the item.
theorem Delivers.alike (h : e.Delivers t item m) (hw : Wired e)
    (hactive : (e.timeline t).phase.isActive = true) :
    (e.tested t item).Alike ((e.after m).timeline t) := by
  have ht := lt_of_active hactive
  cases h with
  | offer => exact alike_offer ht hactive item
  | @turn k s started htask hitem =>
      have hb := background_modifyChannel e s fun _ => ((e.channel s).receive k).2
      have halive : (e.modifyChannel s fun _ => ((e.channel s).receive k).2).isAlive
          (.timeline t) = true := hw.alive_of_active hactive
      have hafter : e.after (.turn k) =
          ((e.modifyChannel s fun _ => ((e.channel s).receive k).2).offer t item).2 := by
        change e.turn k = _
        unfold Engine.turn
        rw [htask]
        simp only [runPump, hitem]
        exact if_pos halive
      have hsame : e.tested t item =
          (e.modifyChannel s fun _ => ((e.channel s).receive k).2).tested t item := by
        unfold tested
        rw [caught_congr hb.timelines hb.queries]
      rw [hafter, hsame]
      exact alike_offer (e := e.modifyChannel s _) ht hactive item

-- How far a timeline is with its query, and the mark of what it has caught up with.
structure Marked (T : Timeline) (q : QueryId) (c : Nat) (mark : Option Nat) : Prop where
  query : T.query = some q
  applied : T.compiledRevision = some c
  mark : T.caughtUp = mark
  phase : T.phase ≠ .disposed

theorem marked_alike {T T' : Timeline} (h : Marked T q c mark) (halike : T.Alike T') :
    Marked T' q c mark :=
  ⟨halike.query.trans h.query, halike.compiledRevision.trans h.applied,
    halike.caughtUp.trans h.mark, halike.phase ▸ h.phase⟩

theorem Marked.lt (h : Marked (e.timeline t) q c mark) : t < e.timelines.length := by
  refine Nat.lt_of_not_le fun hle => ?_
  have hquery := h.query
  rw [timeline_of_le hle] at hquery
  cases hquery

theorem Marked.isStale (h : Marked (e.timeline t) q c mark) (hcurrent : e.revisions q = c) :
    e.isStale t = false := by
  simp only [Engine.isStale, h.query, h.applied, Option.map_some]
  exact bne_eq_false_iff_eq.mpr (congrArg some hcurrent)

-- A timeline that is level with its query heeds a call exactly if it has no mark, or one of an earlier
-- revision.
theorem Marked.heeds (h : Marked (e.timeline t) q c mark) (hcurrent : e.revisions q = c)
    (revision : Nat) : e.heeds t revision = true ↔ mark.all (· < revision) = true := by
  unfold Engine.heeds
  rw [h.mark, h.isStale hcurrent, decide_eq_true h.phase]
  cases mark <;> simp

theorem marked_receive {T : Timeline} (h : Marked T q c mark) (item : Item) :
    Marked (T.receive item) q c mark := by
  obtain ⟨events, unread, notified, heq⟩ := receive_eq T item
  rw [heq]
  exact ⟨h.query, h.applied, h.mark, h.phase⟩

-- A timeline that is behind its query when a live item comes is level with it afterwards.
theorem Delivers.marked (h : e.Delivers t item m) (hw : Wired e) (hbehind : e.isBehind t = true)
    (hquery : (e.timeline t).query = some q) :
    Marked ((e.after m).timeline t) q (e.revisions q) (some (e.revisions q)) := by
  obtain ⟨hactive, hstale⟩ := Bool.and_eq_true_iff.mp hbehind
  have hcurrent : (e.current t).2 = some (e.revisions q) := by
    rw [current_snd, hquery]
    rfl
  have hcaught : Marked (e.caught t) q (e.revisions q) (some (e.revisions q)) := by
    rw [caught_of_stale hstale]
    refine ⟨(query_restarted e t).trans hquery, (compiledRevision_restarted e t).trans hcurrent,
      hcurrent, ?_⟩
    change (e.restarted t).phase ≠ .disposed
    rw [phase_restarted, if_pos hactive]
    nofun
  refine marked_alike ?_ (h.alike hw hactive)
  rcases tested_eq e t item with hT | ⟨-, hT⟩
  · exact hT ▸ hcaught
  · exact hT ▸ marked_receive hcaught item

-- A buffer grows by batches. Items go only to keep the bound.
def Grows (T T' : Timeline) : Prop :=
  ∃ batches : List (List Item), T'.buffer = batches.foldl (fun b batch => (b.merge batch).1) T.buffer

theorem Grows.refl (T : Timeline) : Grows T T := ⟨[], rfl⟩

theorem grows_merge {T T' : Timeline} {batch : List Item} (h : T'.buffer = (T.buffer.merge batch).1) :
    Grows T T' := ⟨[batch], h⟩

theorem Grows.trans {T T' T'' : Timeline} (h : Grows T T') (h' : Grows T' T'') : Grows T T'' := by
  obtain ⟨batches, hb⟩ := h
  obtain ⟨batches', hb'⟩ := h'
  refine ⟨batches ++ batches', ?_⟩
  rw [List.foldl_append, ← hb, hb']

-- Whether a move gives a timeline another query, empties it or ends it.
def Move.resets (t : TimelineId) : Move → Bool
  | .invalidate t' | .setQuery t' _ | .dispose t' => t' == t
  | _ => false

-- Nothing that an active timeline has is lost in a move, but for the count if somebody takes it.
structure Keeps (t : TimelineId) (m : Move) (T T' : Timeline) : Prop where
  buffer : Grows T T'
  unread : m ≠ .takeUnread t → T.unread ≤ T'.unread

theorem keeps_same {T T' : Timeline} (hbuffer : T'.buffer = T.buffer)
    (hunread : T'.unread = T.unread) : Keeps t m T T' :=
  ⟨⟨[], hbuffer⟩, fun _ => Nat.le_of_eq hunread.symm⟩

theorem keeps_alike {T T' T'' : Timeline} (h : Keeps t m T T') (halike : T'.Alike T'') :
    Keeps t m T T'' := by
  obtain ⟨⟨batches, hb⟩, hunread⟩ := h
  exact ⟨⟨batches, halike.buffer.trans hb⟩, halike.unread ▸ hunread⟩

theorem unread_receive (T : Timeline) (item : Item) : T.unread ≤ (T.receive item).unread := by
  obtain ⟨events, h⟩ := absorb_eq T [item]
  unfold Timeline.receive
  dsimp only
  rw [h]
  split
  · dsimp only
    split
    · exact Nat.le_succ _
    · exact Nat.le_refl _
  · exact Nat.le_refl _

-- What becomes of a timeline that is level with its query and is not called.
theorem Becomes.uncalled {T : Timeline} (h : Becomes e t m T) (hlt : t < e.timelines.length)
    (hmarked : Marked (e.timeline t) q c mark) (hcurrent : e.revisions q = c)
    (hresets : m.resets t = false) (hcalls : ∀ revision, ¬ e.Calls t revision m) :
    Marked T q c mark ∧ Keeps t m (e.timeline t) T := by
  have hfresh := hmarked.isStale hcurrent
  obtain ⟨hquery, happlied, hmark, hphase⟩ := hmarked
  induction h with
  | kept m => exact ⟨⟨hquery, happlied, hmark, hphase⟩, keeps_same rfl rfl⟩
  | dropped h hdead ih =>
      obtain ⟨hmarked, hkeeps⟩ := ih hresets hcalls
      exact ⟨⟨hmarked.query, hmarked.applied, hmarked.mark, nofun⟩, ⟨hkeeps.buffer, hkeeps.unread⟩⟩
  | told hs | unmarked hs => exact absurd (calls_of_stack hs) (hcalls _)
  | enrolled hs => exact ⟨⟨hquery, happlied, hmark, hphase⟩, keeps_same rfl rfl⟩
  | refreshed hs hstale | refitted hs hstale => exact Bool.noConfusion (hstale.symm.trans hfresh)
  | @emitted delta rest hs =>
      obtain ⟨events, hT⟩ := emit_eq (e.timeline t) delta
      rw [hT]
      exact ⟨⟨hquery, happlied, hmark, hphase⟩, keeps_same rfl rfl⟩
  | stopped hactive => exact ⟨⟨hquery, happlied, hmark, nofun⟩, keeps_same rfl rfl⟩
  | invalidated | requeried | ended => simp [Move.resets] at hresets
  | counted => exact ⟨⟨hquery, happlied, hmark, hphase⟩, ⟨.refl _, fun hnot => absurd rfl hnot⟩⟩
  | launched hinactive => exact ⟨⟨hquery, happlied, hmark, nofun⟩, keeps_same rfl rfl⟩
  | @offered m item T hm hactive hT =>
      rw [caught_of_current hfresh] at hT
      rcases hT with rfl | ⟨-, rfl⟩
      · exact ⟨⟨hquery, happlied, hmark, hphase⟩, keeps_same rfl rfl⟩
      · obtain ⟨events, unread, notified, heq⟩ := receive_eq (e.timeline t) item
        refine ⟨marked_receive ⟨hquery, happlied, hmark, hphase⟩ item, ?_, fun _ => ?_⟩
        · have hmerged : ((e.timeline t).receive item).buffer =
              ((e.timeline t).buffer.merge [item]).1 := by rw [heq]
          exact grows_merge hmerged
        · exact unread_receive ..
  | @absorbed a r items phase hawaits hasks hg hp =>
      obtain ⟨events, hT⟩ := absorb_eq ({ e.timeline t with phase } : Timeline) items
      rw [hT]
      refine ⟨⟨hquery, happlied, hmark, ?_⟩, grows_merge rfl, fun _ => Nat.le_refl _⟩
      rcases hp with rfl | rfl
      · exact hphase
      · nofun
  | failed hawaits hasks hg hp =>
      refine ⟨⟨hquery, happlied, hmark, ?_⟩, .refl _, fun _ => Nat.le_refl _⟩
      rcases hp with rfl | rfl
      · exact hphase
      · nofun
  | rolledBack => exact ⟨⟨hquery, happlied, hmark, nofun⟩, keeps_same rfl rfl⟩
  | made hnew => exact absurd hlt (hnew ▸ Nat.lt_irrefl _)

-- Nobody resets a timeline, its query does not change, and it heeds no call.
def Undisturbed (t : TimelineId) (q : QueryId) (c : Nat) (e : Engine) (m : Move) : Prop :=
  m.resets t = false ∧ (e.after m).revisions q = c ∧ ¬ e.Called t m

instance : Decidable (Undisturbed t q c e m) := inferInstanceAs (Decidable (_ ∧ _ ∧ _))

-- Whether a timeline is called in a run, for a given revision.
def IsTold (t : TimelineId) (c : Nat) : Engine → List Move → Prop
  | _, [] => False
  | e, m :: moves => e.Calls t c m ∨ IsTold t c (e.after m) moves

instance decidableIsTold (t : TimelineId) (c : Nat) :
    (e : Engine) → (moves : List Move) → Decidable (IsTold t c e moves)
  | _, [] => .isFalse id
  | e, m :: moves =>
      have := decidableIsTold t c (e.after m) moves
      inferInstanceAs (Decidable (e.Calls t c m ∨ IsTold t c (e.after m) moves))

-- The first call of the revision that a timeline has caught up with takes the mark away.
theorem Marked.after (h : Marked (e.timeline t) q c mark) (hw : Wired e)
    (hmark : mark = some c ∨ mark = none) (hcurrent : e.revisions q = c)
    (hallows : e.allows m = true) (hundisturbed : Undisturbed t q c e m) :
    (∃ mark', Marked ((e.after m).timeline t) q c mark' ∧ (mark' = some c ∨ mark' = none) ∧
      (mark' = none ↔ mark = none ∨ e.Calls t c m)) ∧
    Keeps t m (e.timeline t) ((e.after m).timeline t) := by
  obtain ⟨hresets, hafter, hcalled⟩ := hundisturbed
  by_cases hcalls : ∃ revision, e.Calls t revision m
  · obtain ⟨revision, hcalls⟩ := hcalls
    have hheeds : e.heeds t revision = false := by
      cases hnow : e.heeds t revision with
      | true => exact absurd ⟨revision, hcalls, hnow⟩ hcalled
      | false => rfl
    -- a timeline without a mark heeds every call
    have hall := mt (h.heeds hcurrent revision).mpr (Bool.eq_false_iff.mp hheeds)
    obtain rfl : mark = some c := hmark.resolve_right (by rintro rfl; exact hall rfl)
    have hT := hcalls.unheeded h.lt hheeds
    by_cases hsame : revision = c
    · subst hsame
      rw [if_pos ⟨h.phase, h.mark⟩] at hT
      rw [hT]
      refine ⟨⟨none, ⟨h.query, h.applied, rfl, h.phase⟩, .inr rfl, ?_⟩, keeps_same rfl rfl⟩
      exact ⟨fun _ => .inr hcalls, fun _ => rfl⟩
    · have hother : (e.timeline t).caughtUp ≠ some revision := by
        rw [h.mark]
        exact fun heq => hsame (Option.some.inj heq).symm
      rw [if_neg fun hboth => hother hboth.2] at hT
      rw [hT]
      refine ⟨⟨some c, h, .inl rfl, nofun, ?_⟩, keeps_same rfl rfl⟩
      rintro (hnone | hcalls')
      · cases hnone
      · exact absurd (hcalls.unique hcalls') hsame
  · obtain ⟨T, hT, halike⟩ := leaves_after hw hallows (lt_after h.lt hallows)
    obtain ⟨hmarked, hkeeps⟩ := hT.uncalled h.lt h hcurrent hresets fun revision hc =>
      hcalls ⟨revision, hc⟩
    refine ⟨⟨mark, marked_alike hmarked halike, hmark, ?_⟩, keeps_alike hkeeps halike⟩
    exact ⟨.inl, fun hor => hor.resolve_right fun hc => hcalls ⟨c, hc⟩⟩

theorem Marked.replay (h : Marked (e.timeline t) q c mark) (hreached : IsReached e)
    (hmark : mark = some c ∨ mark = none) (hcurrent : e.revisions q = c)
    (hundisturbed : e.Follows (Undisturbed t q c) moves) :
    (∃ mark', Marked ((e.replay moves).timeline t) q c mark' ∧
      (mark' = some c ∨ mark' = none) ∧ (mark' = none ↔ mark = none ∨ IsTold t c e moves)) ∧
    IsReached (e.replay moves) ∧ (e.replay moves).revisions q = c ∧
    Grows (e.timeline t) ((e.replay moves).timeline t) ∧
    (.takeUnread t ∉ moves → (e.timeline t).unread ≤ ((e.replay moves).timeline t).unread) := by
  induction moves generalizing e mark with
  | nil =>
      exact ⟨⟨mark, h, hmark, by simp [IsTold]⟩, hreached, hcurrent, .refl _,
        fun _ => Nat.le_refl _⟩
  | cons m moves ih =>
      obtain ⟨hallows, hnow, hlater⟩ := hundisturbed
      obtain ⟨⟨mark', hmarked, hmark', hiff⟩, hkeeps⟩ := h.after hreached.wired hmark hcurrent
        hallows hnow
      obtain ⟨⟨mark'', hmarked', hmark'', hiff'⟩, hreached', hcurrent', hgrows, hunread⟩ :=
        ih hmarked (hreached.after hallows) hmark' hnow.2.1 hlater
      refine ⟨⟨mark'', hmarked', hmark'', ?_⟩, hreached', hcurrent', hkeeps.buffer.trans hgrows,
        fun htaken => ?_⟩
      · rw [hiff', hiff, or_assoc]
        exact Iff.rfl
      · obtain ⟨hfirst, hrest⟩ := not_or.mp (mt List.mem_cons.mpr htaken)
        exact Nat.le_trans (hkeeps.unread (Ne.symm hfirst)) (hunread hrest)

-- A live item has made a timeline apply revision `c` of its query, ahead of the notification. For as
-- long as the query has that revision and nobody resets the timeline, only a call empties it or
-- takes its count back: by a round of the query, which can be of no later revision, exactly if
-- another call of revision `c` came before, since the item. That call found the mark, and took it away.
theorem arrival_survives {before later : List Move} {arrival : Move}
    (hruns : ({} : Engine).Runs (before ++ [arrival]))
    (hdelivers : (({} : Engine).replay before).Delivers t item arrival)
    (hbehind : (({} : Engine).replay before).isBehind t = true)
    (hquery : ((({} : Engine).replay before).timeline t).query = some q)
    (hlater : (({} : Engine).replay (before ++ [arrival])).Follows
      (Undisturbed t q (({} : Engine).replay before |>.revisions q)) later) :
    let c := (({} : Engine).replay before).revisions q
    let arrived := ({} : Engine).replay (before ++ [arrival])
    let e := arrived.replay later
    Grows (arrived.timeline t) (e.timeline t) ∧
    (.takeUnread t ∉ later → (arrived.timeline t).unread ≤ (e.timeline t).unread) ∧
    ∀ revision, e.Calls t revision .step →
      (∃ q' rest, e.stack = .call (.timeline t) revision :: .release (.timeline t) ::
        .rounds q' :: rest ∧ (q' = q → revision ≤ c)) ∧
      (IsTold t c arrived later ∨ c < revision →
        ((e.after .step).timeline t).buffer.items = [] ∧ ((e.after .step).timeline t).unread = 0) ∧
      (¬ IsTold t c arrived later → revision ≤ c →
        ((e.after .step).timeline t).buffer = (e.timeline t).buffer ∧
          ((e.after .step).timeline t).unread = (e.timeline t).unread) := by
  intro c arrived e
  have hbefore := isReached_replay (follows_append.mp hruns).1
  have harrived : arrived = (({} : Engine).replay before).after arrival := replay_concat ..
  have hmodest : arrival.isModest = true := by
    cases hdelivers <;> rfl
  have hsame : arrived.revisions q = c := by
    rw [harrived, (modest_after hmodest).revisions]
  have hmarked : Marked (arrived.timeline t) q c (some c) :=
    harrived ▸ hdelivers.marked hbefore.wired hbehind hquery
  obtain ⟨⟨mark, hmark, hor, hiff⟩, hreached, hcurrent, hgrows, hunread⟩ :=
    hmarked.replay (isReached_replay hruns) (.inl rfl) hsame hlater
  refine ⟨hgrows, hunread, fun revision hcalls => ⟨?_, fun hcause => ?_, fun htold hle => ?_⟩⟩
  · obtain ⟨-, rest, hs⟩ := hcalls.stack
    obtain ⟨q', rest', rfl, hle⟩ := hreached.timely.first _ _ hs
    refine ⟨q', rest', hs, ?_⟩
    rintro rfl
    exact hcurrent ▸ hle
  · have hheeds : e.heeds t revision = true := by
      refine (hmark.heeds hcurrent revision).mpr ?_
      rcases hor with rfl | rfl
      · rcases hcause with htold | hlt
        · exact nomatch hiff.mpr (.inr htold)
        · simpa using hlt
      · rfl
    have halike := Called.alike ⟨revision, hcalls, hheeds⟩ hmark.lt
    refine ⟨?_, ?_⟩
    · rw [halike.buffer, buffer_restarted]
      exact Buffer.items_clear _
    · rw [halike.unread, unread_restarted]
  · obtain rfl : mark = some c := hor.resolve_right fun hnone => htold <|
      (hiff.mp hnone).resolve_left nofun
    have hheeds : e.heeds t revision = false := by
      refine Bool.eq_false_iff.mpr (mt (hmark.heeds hcurrent revision).mp ?_)
      simpa using hle
    have hT := hcalls.unheeded hmark.lt hheeds
    rw [hT]
    split <;> exact ⟨rfl, rfl⟩

end

-- The query of a timeline changes. An observer that is told first toggles the query, and then hands
-- the timeline an item.
def changedAndToggled : List Move :=
  [.addQuery .contradiction none, .addChannel 4,
    .addTimeline { countUnread := true } 0 0 (some 0) true, .listen 0, .startActivation 0 true,
    .step, .step, .step, .step, .leaveObserver, .step, .step, .step,
    .setExpression 0 (.not .contradiction), .step, .step, .step, .activateQuery 0, .step, .step]

-- The round of the change calls the timeline, and then the round of the toggle is about to.
def toldOfBoth : List Move :=
  [.leaveObserver, .step, .step, .step, .step, .step, .step, .step, .leaveObserver, .step, .step]

theorem arrival_survives_toldOfBoth :
    ((({} : Engine).replay (changedAndToggled ++
      [.offer 0 { id := 9, author := "a" }])).timeline 0).buffer.items =
      [{ id := 9, author := "a" }] ∧
    ((({} : Engine).replay (changedAndToggled ++ [.offer 0 { id := 9, author := "a" }])).Follows
      (Undisturbed 0 0 (({} : Engine).replay changedAndToggled |>.revisions 0)) toldOfBoth) ∧
    ((((({} : Engine).replay (changedAndToggled ++ [.offer 0 { id := 9, author := "a" }])).replay
      toldOfBoth).after .step).timeline 0).buffer.items = [] := by
  have hruns : ({} : Engine).Runs
      (changedAndToggled ++ [.offer 0 { id := 9, author := "a" }]) := by decide
  have hquery : ((({} : Engine).replay changedAndToggled).timeline 0).query = some 0 := by decide
  have hlater : (({} : Engine).replay (changedAndToggled ++
      [.offer 0 { id := 9, author := "a" }])).Follows
      (Undisturbed 0 0 (({} : Engine).replay changedAndToggled |>.revisions 0)) toldOfBoth := by
    decide
  have htold : IsTold 0 (({} : Engine).replay changedAndToggled |>.revisions 0)
      (({} : Engine).replay (changedAndToggled ++ [.offer 0 { id := 9, author := "a" }]))
      toldOfBoth := by
    decide
  have hcalls : (({} : Engine).replay (changedAndToggled ++
      [.offer 0 { id := 9, author := "a" }]) |>.replay toldOfBoth).Calls 0 1 .step := by
    decide
  obtain ⟨-, -, hcall⟩ := arrival_survives hruns .offer (by decide) hquery hlater
  exact ⟨by decide, hlater, ((hcall 1 hcalls).2.1 (.inl htold)).1⟩

end FilteredFeed.Engine
