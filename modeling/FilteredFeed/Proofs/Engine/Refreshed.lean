import FilteredFeed.Pattern.Builtin
import FilteredFeed.Proofs.Engine.Marks
import Mathlib.Data.List.Induction

namespace FilteredFeed.Engine

open FilteredFeed.Feed FilteredFeed.Filter FilteredFeed.Listener FilteredFeed.Timeline

section

variable [Patterns]
variable {e : Engine} {t : TimelineId} {q : QueryId} {id : SubscriptionId} {c : Nat} {m : Move}
variable {T T₀ : Timeline} {moves before later : List Move} {arrival : Move}

-- An activation of a timeline was overtaken under the generation that the timeline still has.
def Overtook (t : TimelineId) (moves : List Move) : Prop :=
  ∃ earlier rest, moves = earlier ++ .step :: rest ∧
    (({} : Engine).replay earlier).isOvertaken t = true ∧
    ((({} : Engine).replay earlier).timeline t).generation =
      ((({} : Engine).replay moves).timeline t).generation

theorem Overtook.concat (h : Overtook t moves)
    (hg : ((({} : Engine).replay (moves ++ [m])).timeline t).generation =
      ((({} : Engine).replay moves).timeline t).generation) : Overtook t (moves ++ [m]) := by
  obtain ⟨earlier, rest, rfl, hovertaken, hsame⟩ := h
  refine ⟨earlier, rest ++ [m], by simp, hovertaken, hsame.trans ?_⟩
  exact hg.symm

-- A stale timeline heeds every call, so one that does not start again has not been called.
theorem Expects.stale (h : Expects e t c) (hreached : IsReached e) (hallows : e.allows m = true)
    (hsub : (e.timeline t).subscription = some (q, id)) (hstale : e.isStale t = true)
    (hs : ((e.after m).timeline t).subscription = (e.timeline t).subscription)
    (hg : ((e.after m).timeline t).generation = (e.timeline t).generation) :
    Expects (e.after m) t c := by
  refine (h.after hreached.wired hallows hs).resolve_right ?_
  rintro ⟨revision, hcalls, -⟩
  have hactive := ((hreached.wired.bound t).subscribed q id hsub).1
  obtain ⟨-, -, -, hcurrent⟩ :=
    mark_of_unheeded hactive (hcalls.unheeded_of_generation (lt_of_active hactive) hg)
  exact Bool.noConfusion (hstale.symm.trans hcurrent)

-- A timeline that is behind the query to which it is subscribed will be told of the revision that the
-- query has, unless an activation of it was overtaken.
theorem expects_or_overtook (hruns : ({} : Engine).Runs moves)
    (hsub : ((({} : Engine).replay moves).timeline t).subscription = some (q, id))
    (hstale : (({} : Engine).replay moves).isStale t = true) :
    Expects (({} : Engine).replay moves) t ((({} : Engine).replay moves).revisions q) ∨
      Overtook t moves := by
  induction moves using List.reverseRecOn generalizing id with
  | nil => cases hsub
  | append_singleton moves m ih =>
      obtain ⟨hbefore, hallows, -⟩ := follows_append.mp hruns
      have hreached := isReached_replay hbefore
      have hreached' := isReached_replay hruns
      have hconcat := replay_concat {} moves m
      have hovertook : Overtook t moves → _ → Overtook t (moves ++ [m]) := Overtook.concat
      rw [hconcat] at hsub hstale hreached' hovertook ⊢
      generalize he : ({} : Engine).replay moves = e at *
      by_cases hm : m.amends = some q
      · exact .inl (expects_amended hallows hm hsub)
      have hrevision := revisions_after hallows hm
      obtain ⟨hactive, hquery, -⟩ := (hreached'.wired.bound t).subscribed q id hsub
      have hbehind : ((e.after m).timeline t).compiledRevision ≠ some (e.revisions q) := by
        intro happlied
        rw [isStale_eq, hquery, happlied, Option.map_some, hrevision] at hstale
        simp at hstale
      obtain ⟨T, hT, halike⟩ := leaves_after hreached.wired hallows (lt_of_active hactive)
      cases hearlier : (e.timeline t).subscription with
      | none =>
          rcases hT.joins hreached.wired hearlier (halike.subscription ▸ hsub) with
            ⟨hsame, happlied⟩ | ⟨rfl, hovertaken, hg⟩
          · refine absurd ?_ hbehind
            rw [halike.compiledRevision, happlied, current_snd, ← hsame, ← halike.query, hquery]
            rfl
          · refine .inr ⟨moves, [], rfl, he ▸ hovertaken, ?_⟩
            rw [hconcat, he, halike.generation, hg]
      | some s =>
          obtain ⟨q', id'⟩ := s
          cases fares_alike (hT.fares hreached hearlier) halike with
          | stays hg hs hq happlied hmark =>
              have hstale' : e.isStale t = true := by
                rw [isStale_eq, ← hq, ← happlied, hquery, Option.map_some, ← hrevision]
                rwa [isStale_eq, hquery, Option.map_some] at hstale
              rcases ih hbefore (hs.symm.trans hsub) hstale' with hexpects | hover
              · rw [hrevision]
                exact .inl (hexpects.stale hreached hallows hearlier hstale' hs hg)
              · exact .inr (hovertook hover hg)
          | restarts hg hs hq happlied =>
              refine absurd ?_ hbehind
              rw [happlied, current_snd, ← hq, hquery]
              rfl
          | leaves hg hs hmark => cases hs.symm.trans hsub

-- A live item has brought a timeline to revision `c` of its query, and the timeline has had the mark of
-- it since.
structure CaughtAt (t : TimelineId) (c : Nat) (before : List Move) (arrival : Move)
    (later : List Move) : Prop where
  delivers : ∃ item, (({} : Engine).replay before).Delivers t item arrival
  behind : (({} : Engine).replay before).isBehind t = true
  current : ∃ q, ((({} : Engine).replay before).timeline t).query = some q ∧
    (({} : Engine).replay before).revisions q = c
  kept : ∀ between, between <+: later →
    ((({} : Engine).replay (before ++ arrival :: between)).timeline t).caughtUp = some c

-- Why a timeline is not told of a revision that a live item has brought it to.
inductive Untold (t : TimelineId) (before : List Move) (arrival : Move) (later : List Move) : Prop
  | unsubscribed (h : ((({} : Engine).replay before).timeline t).subscription = none)
  | overtaken (h : Overtook t before)
  | stopped {between : List Move} (h : between <+: later)
      (hinactive : ((({} : Engine).replay (before ++ arrival :: between)).timeline t).phase.isActive =
        false)

theorem CaughtAt.concat (h : CaughtAt t c before arrival later)
    (hmark : ((({} : Engine).replay (before ++ arrival :: (later ++ [m]))).timeline t).caughtUp =
      some c) : CaughtAt t c before arrival (later ++ [m]) := by
  refine ⟨h.delivers, h.behind, h.current, fun between hinitial => ?_⟩
  rcases List.prefix_concat_iff.mp hinitial with rfl | hinitial
  · exact hmark
  · exact h.kept between hinitial

theorem Untold.concat (h : Untold t before arrival later) (m : Move) :
    Untold t before arrival (later ++ [m]) := by
  cases h with
  | unsubscribed h => exact .unsubscribed h
  | overtaken h => exact .overtaken h
  | stopped hinitial hinactive => exact .stopped (hinitial.trans (List.prefix_append ..)) hinactive

-- A timeline with a mark goes on being subscribed and expecting a call, for as long as it is active
-- and has the mark.
theorem Expects.marked (h : Expects e t c) (hreached : IsReached e) (hallows : e.allows m = true)
    (hsub : (e.timeline t).subscription = some (q, id))
    (hmark : ((e.after m).timeline t).caughtUp = some c)
    (hbefore : m = .step → (e.timeline t).caughtUp = some c) :
    ((e.after m).timeline t).phase.isActive = false ∨
      ((e.after m).timeline t).subscription = some (q, id) ∧ Expects (e.after m) t c := by
  have hactive := ((hreached.wired.bound t).subscribed q id hsub).1
  have hexpects (hs : ((e.after m).timeline t).subscription = (e.timeline t).subscription) :
      ((e.after m).timeline t).subscription = some (q, id) ∧ Expects (e.after m) t c := by
    refine ⟨hs.trans hsub, (h.after hreached.wired hallows hs).resolve_right ?_⟩
    rintro ⟨revision, hcalls, hle⟩
    have hnone := hcalls.unmarks hactive (hbefore hcalls.stack.1) hle
    cases hnone.symm.trans hmark
  obtain ⟨T, hT, halike⟩ :=
    leaves_after hreached.wired hallows (lt_after (lt_of_active hactive) hallows)
  cases fares_alike (hT.fares hreached hsub) halike with
  | stays hg hs => exact .inr (hexpects hs)
  | restarts hg hs => exact .inr (hexpects hs)
  | leaves hg hs hend => exact .inl (hend.resolve_right fun hnone => nomatch hnone.symm.trans hmark)

-- A mark is that of a live item, and the timeline is told of the revision unless it was not subscribed
-- when the item came, an activation had been overtaken, or it was stopped.
def MarkExplained (t : TimelineId) (c : Nat) (moves : List Move) : Prop :=
  ∃ before arrival later, moves = before ++ arrival :: later ∧ CaughtAt t c before arrival later ∧
    (Untold t before arrival later ∨
      ∃ s, ((({} : Engine).replay moves).timeline t).subscription = some s ∧
        Expects (({} : Engine).replay moves) t c)

-- A live item comes, which the timeline is behind its query for.
theorem markExplained_arrival (hruns : ({} : Engine).Runs (moves ++ [m]))
    (hmark : ((({} : Engine).replay (moves ++ [m])).timeline t).caughtUp = some c) {item : Item}
    (hdelivers : (({} : Engine).replay moves).Delivers t item m)
    (hbehind : (({} : Engine).replay moves).isBehind t = true)
    (hcurrent : ((({} : Engine).replay moves).current t).2 = some c) :
    MarkExplained t c (moves ++ [m]) := by
  obtain ⟨hbefore, hallows, -⟩ := follows_append.mp hruns
  have hreached := isReached_replay hbefore
  have hconcat := replay_concat {} moves m
  obtain ⟨q, hquery, rfl⟩ := Option.map_eq_some_iff.mp ((current_snd _ t).symm.trans hcurrent)
  refine ⟨moves, m, [], rfl, ⟨⟨item, hdelivers⟩, hbehind, ⟨q, hquery, rfl⟩, ?_⟩, ?_⟩
  · intro between hinitial
    obtain rfl := List.prefix_nil.mp hinitial
    exact hmark
  · cases hsub : ((({} : Engine).replay moves).timeline t).subscription with
    | none => exact .inl (.unsubscribed hsub)
    | some s =>
        obtain ⟨q', id⟩ := s
        have hquery' := ((hreached.wired.bound t).subscribed q' id hsub).2.1
        obtain rfl := Option.some.inj (hquery.symm.trans hquery')
        have hstale := (Bool.and_eq_true_iff.mp hbehind).2
        rcases expects_or_overtook hbefore hsub hstale with hexpects | hover
        · have hstep : m ≠ .step := by
            rintro rfl
            cases hdelivers
          rcases hexpects.marked hreached hallows hsub (hconcat ▸ hmark)
            fun h => absurd h hstep with hinactive | ⟨hsub', hexpects'⟩
          · exact .inl (.stopped (List.prefix_refl []) (hconcat ▸ hinactive))
          · exact .inr ⟨_, hconcat ▸ hsub', hconcat ▸ hexpects'⟩
        · exact .inl (.overtaken hover)

-- The timeline keeps its mark in a move.
theorem MarkExplained.concat (h : MarkExplained t c moves)
    (hruns : ({} : Engine).Runs (moves ++ [m]))
    (hold : ((({} : Engine).replay moves).timeline t).caughtUp = some c)
    (hmark : ((({} : Engine).replay (moves ++ [m])).timeline t).caughtUp = some c) :
    MarkExplained t c (moves ++ [m]) := by
  obtain ⟨hbefore, hallows, -⟩ := follows_append.mp hruns
  have hreached := isReached_replay hbefore
  have hconcat := replay_concat {} moves m
  obtain ⟨before, arrival, later, rfl, hcaught, hor⟩ := h
  have hsplit : before ++ arrival :: later ++ [m] = before ++ arrival :: (later ++ [m]) := by
    simp
  refine ⟨before, arrival, later ++ [m], hsplit, hcaught.concat (hsplit ▸ hmark), ?_⟩
  rcases hor with huntold | ⟨⟨q, id⟩, hsub, hexpects⟩
  · exact .inl (huntold.concat m)
  · rcases hexpects.marked hreached hallows hsub (hconcat ▸ hmark) fun _ => hold with
      hinactive | ⟨hsub', hexpects'⟩
    · refine .inl (.stopped (List.prefix_refl _) ?_)
      rw [← hsplit, hconcat]
      exact hinactive
    · exact .inr ⟨_, hconcat ▸ hsub', hconcat ▸ hexpects'⟩

theorem markExplained (hruns : ({} : Engine).Runs moves)
    (hmark : ((({} : Engine).replay moves).timeline t).caughtUp = some c) :
    MarkExplained t c moves := by
  induction moves using List.reverseRecOn with
  | nil => cases hmark
  | append_singleton moves m ih =>
      obtain ⟨hbefore, hallows, -⟩ := follows_append.mp hruns
      have hafter : (((({} : Engine).replay moves).after m).timeline t).caughtUp = some c :=
        replay_concat {} moves m ▸ hmark
      have ht : t < ((({} : Engine).replay moves).after m).timelines.length := by
        refine Nat.lt_of_not_le fun hle => ?_
        rw [timeline_of_le hle] at hafter
        cases hafter
      have hw := (isReached_replay hbefore).wired
      obtain ⟨T, hT, halike⟩ := leaves_after hw hallows ht
      rcases hT.marked hw (halike.caughtUp ▸ hafter) with
        hold | ⟨item, hdelivers, hbehind, hcurrent⟩
      · exact (ih hbefore hold).concat hruns hold hmark
      · exact markExplained_arrival hruns hmark hdelivers hbehind hcurrent

-- A move is made while calls are running.
def Busy (e : Engine) (_ : Move) : Prop := e.stack.isEmpty = false

instance : Decidable (Busy e m) := inferInstanceAs (Decidable (_ = _))

theorem phase_restarted_or (e : Engine) (t : TimelineId) :
    (e.restarted t).phase = .invalidated ∨ (e.restarted t).phase.isActive = false := by
  rw [phase_restarted]
  cases hactive : (e.timeline t).phase.isActive with
  | true => exact .inl rfl
  | false => exact .inr hactive

-- While calls are running, a timeline that starts again waits for a refetch or is not active, and
-- goes on so.
theorem Becomes.phase (h : Becomes e t m T) (hw : Wired e) (hallows : e.allows m = true)
    (hbusy : Busy e m) :
    T.phase = (e.timeline t).phase ∧ T.generation = (e.timeline t).generation ∨
      T.phase = .invalidated ∨ T.phase.isActive = false := by
  have hidle {b : Bool} (h : (e.stack.isEmpty && b) = true) : False :=
    Bool.noConfusion (hbusy.symm.trans (Bool.and_eq_true_iff.mp h).1)
  cases h with
  | kept | unmarked | enrolled | counted => exact .inl ⟨rfl, rfl⟩
  | dropped | stopped | ended | rolledBack | made => exact .inr (.inr rfl)
  | told | invalidated | requeried | refreshed => exact .inr (phase_restarted_or ..)
  | launched | absorbed | failed => exact (hidle hallows).elim
  | @refitted q o rest hs hstale =>
      obtain ⟨events, hT⟩ := refitted_eq (({ e with stack := rest } : Engine).enrol t q) t
      rw [hT, timeline_enrol_popped hw hs rfl]
      exact .inl ⟨rfl, rfl⟩
  | @emitted delta rest hs =>
      obtain ⟨events, hT⟩ := emit_eq (e.timeline t) delta
      rw [hT]
      exact .inl ⟨rfl, rfl⟩
  | @offered m item T hm hactive hT =>
      rcases tested_cases hT with ⟨-, buffer, events, unread, notified, rfl⟩ |
        ⟨-, buffer, events, unread, notified, rfl⟩
      · exact .inl ⟨rfl, rfl⟩
      · exact .inr (phase_restarted_or e t)

-- What becomes of a timeline once a query has been toggled to which it is subscribed.
inductive Turned (T₀ : Timeline) (c : Nat) (e : Engine) (t : TimelineId) : Prop
  | refreshed (hg : T₀.generation < (e.timeline t).generation)
      (hphase : (e.timeline t).phase = .invalidated ∨ (e.timeline t).phase.isActive = false)
  | waiting (hg : (e.timeline t).generation = T₀.generation)
      (hsub : (e.timeline t).subscription = T₀.subscription) (hexpects : Expects e t c)
      (hmark : (e.timeline t).caughtUp = T₀.caughtUp ∨ (e.timeline t).caughtUp = none)
  -- it has been told, but has had the mark of the revision
  | unmarked (hg : (e.timeline t).generation = T₀.generation)
      (hsub : (e.timeline t).subscription = T₀.subscription) (hbefore : T₀.caughtUp = some c)
      (hmark : (e.timeline t).caughtUp = none)

theorem Turned.after (h : Turned T₀ c e t) (hreached : IsReached e) (ht : t < e.timelines.length)
    (hallows : e.allows m = true) (hbusy : Busy e m) (hsub : T₀.subscription = some (q, id))
    (hle : ∀ mark, T₀.caughtUp = some mark → mark ≤ c) : Turned T₀ c (e.after m) t := by
  obtain ⟨T, hT, halike⟩ := leaves_after hreached.wired hallows (lt_after ht hallows)
  have hphase := hT.phase hreached.wired hallows hbusy
  rw [← halike.phase, ← halike.generation] at hphase
  have hrises (hg : T₀.generation ≤ (e.timeline t).generation)
      (hlt : (e.timeline t).generation < ((e.after m).timeline t).generation) :
      Turned T₀ c (e.after m) t :=
    .refreshed (Nat.lt_of_le_of_lt hg hlt)
      (hphase.resolve_left fun hsame => Nat.ne_of_gt hlt hsame.2)
  cases h with
  | refreshed hg hwaits =>
      rcases hphase with ⟨hsame, hsameg⟩ | hwaits'
      · exact .refreshed (hsameg ▸ hg) (hsame ▸ hwaits)
      · have hmono := (comes_after hreached.sound hreached.wired hallows).2 t
        exact .refreshed (Nat.lt_of_lt_of_le hg hmono.generation_le) hwaits'
  | waiting hg hs hexpects hmark =>
      have hsub' := hs.trans hsub
      cases fares_alike (hT.fares hreached hsub') halike with
      | stays hg' hs' hq happlied hmark' =>
          rcases hexpects.after hreached.wired hallows hs' with hstill | ⟨revision, hcalls, hrevision⟩
          · refine .waiting (hg'.trans hg) (hs'.trans hs) hstill ?_
            exact hmark'.elim (fun hsame => hsame ▸ hmark) .inr
          · have hactive := ((hreached.wired.bound t).subscribed q id hsub').1
            obtain ⟨mark, hnow, hbound, -⟩ :=
              mark_of_unheeded hactive (hcalls.unheeded_of_generation ht hg')
            have hbefore : T₀.caughtUp = some mark :=
              (hmark.resolve_right (by rw [hnow]; nofun)).symm.trans hnow
            obtain rfl := Nat.le_antisymm (hle mark hbefore) (Nat.le_trans hrevision hbound)
            exact .unmarked (hg'.trans hg) (hs'.trans hs) hbefore
              (hcalls.unmarks hactive hnow hrevision)
      | restarts hlt | leaves hlt => exact hrises (Nat.le_of_eq hg.symm) hlt
  | unmarked hg hs hbefore hmark =>
      cases fares_alike (hT.fares hreached (hs.trans hsub)) halike with
      | stays hg' hs' hq happlied hmark' =>
          refine .unmarked (hg'.trans hg) (hs'.trans hs) hbefore ?_
          exact hmark'.elim (fun hsame => hsame.trans hmark) fun hnone => hnone
      | restarts hlt | leaves hlt => exact hrises (Nat.le_of_eq hg.symm) hlt

theorem Turned.replay (h : Turned T₀ c e t) (hreached : IsReached e) (ht : t < e.timelines.length)
    (hbusy : e.Follows Busy moves) (hsub : T₀.subscription = some (q, id))
    (hle : ∀ mark, T₀.caughtUp = some mark → mark ≤ c) : Turned T₀ c (e.replay moves) t := by
  induction moves generalizing e with
  | nil => exact h
  | cons m moves ih =>
      obtain ⟨hallows, hnow, hlater⟩ := hbusy
      exact ih (h.after hreached ht hallows hnow hsub hle) (hreached.after hallows)
        (lt_after ht hallows) hlater

-- A timeline has started again and, if it is active, is filled again under its new generation.
structure Refreshed (e e' : Engine) (t : TimelineId) : Prop where
  generation : (e.timeline t).generation < (e'.timeline t).generation
  refetch : (e'.timeline t).phase.isActive = true → (e'.timeline t).phase = .invalidated ∧
    ∃ k r, e'.work k = some (.refetch t r) ∧ r.generation = (e'.timeline t).generation

-- A mark that is there while no call is running is that of a live item which a timeline got without
-- being told of the revision: it was not subscribed, an activation had been overtaken, or it was
-- stopped. And whenever a query is toggled, every timeline that is subscribed to it is refreshed,
-- unless it has the mark of the revision of the query, which the toggle may take away instead.
theorem toggle_refreshes (hruns : ({} : Engine).Runs moves)
    (hrest : (({} : Engine).replay moves).stack = []) (t : TimelineId) :
    (∀ c, ((({} : Engine).replay moves).timeline t).caughtUp = some c →
      ∃ before arrival later, moves = before ++ arrival :: later ∧
        CaughtAt t c before arrival later ∧ Untold t before arrival later) ∧
    ∀ before later q id, moves = before ++ .step :: later →
      (({} : Engine).replay before).toggling = some q →
      ((({} : Engine).replay before).timeline t).subscription = some (q, id) →
      (({} : Engine).replay before).Follows Busy (.step :: later) →
      Refreshed (({} : Engine).replay before) (({} : Engine).replay moves) t ∨
        ((({} : Engine).replay before).timeline t).caughtUp =
            some ((({} : Engine).replay before).revisions q) ∧
          ((({} : Engine).replay moves).timeline t).caughtUp = none ∧
          ((({} : Engine).replay moves).timeline t).generation =
            ((({} : Engine).replay before).timeline t).generation := by
  have hreached := isReached_replay hruns
  refine ⟨fun c hmark => ?_, ?_⟩
  · obtain ⟨before, arrival, later, hsplit, hcaught, hor⟩ := markExplained hruns hmark
    refine ⟨before, arrival, later, hsplit, hcaught, hor.resolve_right ?_⟩
    rintro ⟨s, -, hexpects⟩
    exact hreached.wired.not_expects hrest hexpects
  · rintro before later q id rfl htoggling hsub ⟨hallows, -, hbusy⟩
    have hbefore := isReached_replay (follows_append.mp hruns).1
    have ht := hbefore.lt_of_subscribed hsub
    have hquery := ((hbefore.wired.bound t).subscribed q id hsub).2.1
    obtain ⟨hT, hexpects⟩ := expects_toggled hbefore.wired htoggling hsub
    have hbegins : Turned ((({} : Engine).replay before).timeline t)
        ((({} : Engine).replay before).revisions q) ((({} : Engine).replay before).after .step) t :=
      .waiting (by rw [hT]) (by rw [hT]) hexpects (.inl (by rw [hT]))
    have hturned := hbegins.replay (hbefore.after hallows) (lt_after ht hallows) hbusy hsub
      fun mark hmark => hbefore.mark_le hquery hmark
    rw [← replay_cons, ← replay_append] at hturned
    cases hturned with
    | refreshed hg hphase =>
        refine .inl ⟨hg, fun hactive => ?_⟩
        have hphase := hphase.resolve_right (by rw [hactive]; nofun)
        obtain ⟨k, r, hk⟩ := (hreached.staffed t).refilled hphase
        exact ⟨hphase, k, r, hk, (hreached.staffed t).current k r hk⟩
    | waiting hg hs hexpects => exact absurd hexpects (hreached.wired.not_expects hrest)
    | unmarked hg hs hmark hnone => exact .inr ⟨hmark, hnone, hg⟩

end

-- While a timeline is being activated, and is not subscribed yet, an observer of its query changes the
-- query and hands the timeline an item.
def caughtUnsubscribed : List Move :=
  [.addQuery .contradiction none, .addChannel 4, .addTimeline {} 0 0 (some 0) true, .listen 0,
    .startActivation 0 true, .step, .step, .step, .step, .setExpression 0 (.not .contradiction), .step,
    .offer 0 { id := 9, author := "a" }, .leaveObserver, .step, .step, .step, .step, .leaveObserver,
    .step, .step, .step, .step]

-- The query is toggled. The timeline is told, and only loses its mark.
def toggledThen : List Move :=
  [.step, .step, .step, .leaveObserver, .step, .step, .step, .step, .step]

theorem toggle_refreshes_caughtUnsubscribed :
    (∃ before arrival later, caughtUnsubscribed = before ++ arrival :: later ∧
      CaughtAt 0 1 before arrival later ∧ Untold 0 before arrival later) ∧
    ((({} : Engine).replay (caughtUnsubscribed ++ [.activateQuery 0] ++
      .step :: toggledThen)).timeline 0).phase.isActive = true ∧
    ((({} : Engine).replay (caughtUnsubscribed ++ [.activateQuery 0] ++
      .step :: toggledThen)).timeline 0).generation =
        ((({} : Engine).replay (caughtUnsubscribed ++ [.activateQuery 0])).timeline 0).generation := by
  have hruns : ({} : Engine).Runs caughtUnsubscribed := by decide
  have hrest : (({} : Engine).replay caughtUnsubscribed).stack = [] :=
    List.isEmpty_iff.mp (by decide)
  have hruns' : ({} : Engine).Runs
      (caughtUnsubscribed ++ [.activateQuery 0] ++ .step :: toggledThen) := by decide
  have hrest' : (({} : Engine).replay
      (caughtUnsubscribed ++ [.activateQuery 0] ++ .step :: toggledThen)).stack = [] :=
    List.isEmpty_iff.mp (by decide)
  have hbusy : (({} : Engine).replay (caughtUnsubscribed ++ [.activateQuery 0])).Follows Busy
      (.step :: toggledThen) := by decide
  have hsame : ¬ ((({} : Engine).replay (caughtUnsubscribed ++ [.activateQuery 0])).timeline
      0).generation < ((({} : Engine).replay (caughtUnsubscribed ++ [.activateQuery 0] ++
        .step :: toggledThen)).timeline 0).generation := by decide
  refine ⟨(toggle_refreshes hruns hrest 0).1 1 (by decide), by decide, ?_⟩
  have hturned := (toggle_refreshes hruns' hrest' 0).2 _ _ 0 2 rfl (by decide) (by decide) hbusy
  exact (hturned.resolve_left fun h => hsame h.generation).2.2

end FilteredFeed.Engine
