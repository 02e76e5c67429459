import FilteredFeed.Pattern.Builtin
import FilteredFeed.Proofs.Engine.Leaves
import FilteredFeed.Proofs.Engine.Modest
import FilteredFeed.Proofs.Engine.Resumed
import FilteredFeed.Proofs.Timeline.Log

namespace FilteredFeed.Engine

open FilteredFeed.Feed FilteredFeed.Filter FilteredFeed.Listener FilteredFeed.Timeline
open FilteredFeed.Scenario (Asker)

section

variable [Patterns]
variable {e e' : Engine} {t : TimelineId} {d : Option TimelineId} {m : Move} {rest : List Frame}
variable {delta : Delta}

def Frame.owed (t : TimelineId) : Frame → Option Delta
  | .emit t' delta => if t' = t then some delta else none
  | _ => none

-- What happened to the buffer of a timeline and is still to be said. A call that ends a timeline
-- says it only after the listeners of the query.
def owed (e : Engine) (t : TimelineId) : List Delta := e.stack.filterMap (Frame.owed t)

theorem owed_append {frames : List Frame} (hs : e'.stack = frames ++ e.stack)
    (hframes : ∀ f ∈ frames, f.owed t = none) : e'.owed t = e.owed t := by
  unfold owed
  rw [hs, List.filterMap_append, List.filterMap_eq_nil_iff.mpr hframes, List.nil_append]

theorem Modest.owed (h : Modest d e e') (hd : d ≠ some t) : e'.owed t = e.owed t := by
  obtain ⟨frames, hs, hframes⟩ := h.stack
  refine owed_append hs fun f hmem => ?_
  have hf := hframes f hmem
  cases f with
  | emit t' delta =>
      have ht' : t' ≠ t := by
        rintro rfl
        exact hd hf
      exact if_neg ht'
  | _ => rfl

theorem owed_resumed (e : Engine) (q : QueryId) (g : Registry Target → Registry Target)
    (targets : List Target) {frames : List Frame} (hframes : ∀ f ∈ frames, f.owed t = none) :
    (e.resumed q g targets frames rest).owed t = ({ e with stack := rest } : Engine).owed t :=
  owed_append (stack_resumed ..) hframes

omit [Patterns] in
theorem owed_roundFrames (q : QueryId) (next : Registry.Next Target) :
    ∀ f ∈ roundFrames q next, f.owed t = none := by
  intro f hmem
  cases next with
  | call listener revision =>
      simp only [roundFrames, List.mem_cons, List.not_mem_nil, or_false] at hmem
      rcases hmem with rfl | rfl | rfl <;> rfl
  | again listeners =>
      rw [List.mem_singleton.mp hmem]
      rfl
  | done => cases hmem

-- A call that goes on says at most what it was to say.
theorem owed_perform (e : Engine) (rest : List Frame) (f : Frame) :
    (({ e with stack := rest } : Engine).perform f).owed t =
      ({ e with stack := rest } : Engine).owed t := by
  cases hmodest : f.isModest with
  | true => exact (modest_perform hmodest).owed nofun
  | false =>
      cases f with
      | announce q revision =>
          obtain ⟨targets, heq⟩ := announce_eq_resumed e q revision rest
          change (Engine.announce _ q revision).owed t = _
          rw [heq]
          refine owed_resumed e q _ targets fun f hmem => ?_
          rw [eq_rounds_of_mem hmem]
          rfl
      | rounds q =>
          change (Engine.continueRounds _ q).owed t = _
          rw [continueRounds_eq]
          exact owed_resumed e q _ _ (owed_roundFrames q _)
      | call target revision =>
          cases target with
          | timeline t' => cases hmodest
          | observer o => exact owed_append rfl (by simp [Frame.owed])
      | observer o revision => rfl
      | _ => cases hmodest

-- Only the end of a timeline leaves anything to be said.
theorem owed_after (hallows : e.allows m = true) (hend : m.ends ≠ some t) :
    (∃ delta rest, m = .step ∧ e.stack = .emit t delta :: rest ∧
      e.owed t = delta :: (e.after m).owed t) ∨
    (e.after m).owed t = e.owed t ∧
      ∀ delta rest, m = .step → e.stack ≠ .emit t delta :: rest := by
  cases hmodest : m.isModest with
  | true =>
      refine .inr ⟨(modest_after hmodest).owed hend, ?_⟩
      rintro delta rest rfl
      cases hmodest
  | false =>
      cases m with
      | step =>
          obtain ⟨f, rest, hs, -, hafter⟩ := after_step hallows
          have hrest : (e.after .step).owed t = rest.filterMap (Frame.owed t) := by
            rw [hafter]
            exact owed_perform e rest f
          have howed : e.owed t = (f :: rest).filterMap (Frame.owed t) :=
            congrArg (List.filterMap (Frame.owed t)) hs
          cases hf : f.owed t with
          | none =>
              rw [List.filterMap_cons_none hf] at howed
              refine .inr ⟨hrest.trans howed.symm, fun delta rest' _ hs' => ?_⟩
              obtain ⟨rfl, -⟩ := List.cons.inj (hs.symm.trans hs')
              simp [Frame.owed] at hf
          | some delta =>
              rw [List.filterMap_cons_some hf] at howed
              have hemit : f = .emit t delta := by
                cases f with
                | emit t' delta' =>
                    obtain ⟨rfl, heq⟩ := Option.ite_none_right_eq_some.mp hf
                    rw [Option.some.inj heq]
                | _ => cases hf
              exact .inl ⟨delta, rest, rfl, hemit ▸ hs, hrest ▸ howed⟩
      | leaveObserver =>
          refine .inr ⟨?_, nofun⟩
          change e.leaveObserver.owed t = e.owed t
          unfold leaveObserver
          split
          · rename_i hs
            have hpopped := congrArg (List.filterMap (Frame.owed t)) hs
            exact hpopped.symm
          · rfl
      | setExpression q expr => exact .inr ⟨owed_append rfl (by simp [Frame.owed]), nofun⟩
      | setSource q text => exact .inr ⟨owed_append rfl (by simp [Frame.owed]), nofun⟩
      | _ => cases hmodest

-- Every timeline logs what happens to its buffer.
def Logged (e : Engine) : Prop :=
  ∀ t, (e.timeline t).Logs (e.owed t) ∧ (e.owed t ≠ [] → t < e.timelines.length)

theorem logged_init : Logged {} := fun _ => ⟨⟨trivial, rfl, nofun⟩, fun h => absurd rfl h⟩

variable {owed : List Delta}

theorem logs_alike {T T' : Timeline} (h : T.Alike T') (hlogs : T.Logs owed) : T'.Logs owed :=
  hlogs.congr h.events h.buffer (.inr (.inl (congrArg Phase.isActive h.phase)))

theorem logs_restarted (h : (e.timeline t).Logs owed) : (e.restarted t).Logs owed :=
  h.clear rfl rfl (isActive_renewed ..)

theorem logs_caught (h : (e.timeline t).Logs owed) : (e.caught t).Logs owed := by
  unfold caught
  split
  · have hrestarted : (e.restarted t).Logs owed := logs_restarted h
    exact hrestarted.congr rfl rfl (.inr (.inl rfl))
  · exact h

-- What a move makes of a timeline is logged. What the end of a timeline leaves to be said, and what
-- is said of that, is told apart.
theorem Becomes.logs {T : Timeline} (h : Becomes e t m T) (hw : Wired e)
    (hallows : e.allows m = true) (ht : t < (e.after m).timelines.length)
    (hlogs : (e.timeline t).Logs (e.owed t)) (hlt : e.owed t ≠ [] → t < e.timelines.length)
    (hend : m.ends ≠ some t) (hsaid : ∀ delta rest, m = .step → e.stack ≠ .emit t delta :: rest) :
    T.Logs (e.owed t) := by
  have hidle (hstack : e.stack = []) : e.owed t = [] := by
    unfold Engine.owed
    rw [hstack]
    rfl
  have hawake (hactive : (e.timeline t).phase.isActive = true) : e.owed t = [] := by
    by_contra howed
    exact Bool.noConfusion (hactive.symm.trans (hlogs.still howed).1)
  induction h with
  | kept m => exact hlogs
  | dropped h hdead ih => exact (ih hallows ht hend hsaid).congr rfl rfl (.inr (.inr rfl))
  | told hs hheeds => exact logs_restarted hlogs
  | unmarked hs hmark hheeds => exact hlogs.congr rfl rfl (.inr (.inl rfl))
  | enrolled hs hcurrent => exact hlogs.congr rfl rfl (.inr (.inl rfl))
  | refreshed hs hstale =>
      refine logs_restarted ?_
      rw [timeline_enrol_popped hw hs rfl]
      exact hlogs.congr rfl rfl (.inr (.inl rfl))
  | refitted hs hstale =>
      refine Logs.clear (T := Engine.timeline _ t) ?_ rfl rfl rfl
      rw [timeline_enrol_popped hw hs rfl]
      exact hlogs.congr rfl rfl (.inr (.inl rfl))
  | emitted hs => exact absurd hs (hsaid _ _ rfl)
  | stopped hactive => exact hlogs.congr rfl rfl (.inr (.inr rfl))
  | invalidated hphase => exact logs_restarted hlogs
  | requeried hphase hquery =>
      refine logs_restarted ?_
      rw [length_after hallows] at ht
      rw [timeline_leaveQuery ht]
      exact hlogs.congr rfl rfl (.inr (.inl rfl))
  | ended hphase => exact absurd rfl hend
  | counted => exact hlogs.congr rfl rfl (.inr (.inl rfl))
  | launched hphase =>
      have hnone := hidle (stack_of_allows hallows)
      exact hlogs.congr rfl rfl (.inl hnone)
  | offered hm hactive hT =>
      rw [hawake hactive] at hlogs ⊢
      rcases hT with rfl | ⟨-, rfl⟩
      · exact logs_caught hlogs
      · exact (logs_caught hlogs).receive _
  | absorbed hawaits hasks hcurrent hphase =>
      rw [hidle (stack_of_allows hallows)] at hlogs ⊢
      refine Logs.absorb ?_ _
      exact hlogs.congr rfl rfl (.inl rfl)
  | failed hawaits hasks hcurrent hphase =>
      rw [hidle (stack_of_allows hallows)] at hlogs ⊢
      refine Logs.fail ?_ _ _
      exact hlogs.congr rfl rfl (.inl rfl)
  | rolledBack hawaits hasks hcurrent => exact hlogs.congr rfl rfl (.inr (.inr rfl))
  | made hmade =>
      have hnone : e.owed t = [] := by
        by_contra howed
        exact Nat.lt_irrefl _ (hmade ▸ hlt howed)
      rw [hnone]
      exact ⟨trivial, rfl, nofun⟩

-- What the end of a timeline leaves to be said.
theorem logs_dispose (ht : t < e.timelines.length) (hlogs : (e.timeline t).Logs (e.owed t)) :
    (((e.hold t).dispose t).timeline t).Logs (((e.hold t).dispose t).owed t) := by
  have hhold := alike_hold e t t
  have howed : (e.hold t).owed t = e.owed t := (modest_hold (d := none) e t).owed nofun
  rw [dispose_eq]
  split
  · rw [howed]
    exact logs_alike hhold hlogs
  · have hT : (((e.hold t).endWork t).modifyTimeline t ended).timeline t =
        ended ((e.hold t).timeline t) := by
      rw [timeline_modifyTimeline_self ((apart_endWork (e.hold t) t).size ▸ hold_lt ht t),
        timeline_endWork]
    have hleft : ((e.hold t).endWork t).owed t = e.owed t :=
      ((modest_endWork (d := none) (e.hold t) t).owed nofun).trans howed
    have hpushed : ((((e.hold t).endWork t).modifyTimeline t ended).push
        (deactivations ((e.hold t).timeline t).activated ++
          [.emit t ((e.hold t).timeline t).buffer.clear.2])).owed t =
        ((e.hold t).timeline t).buffer.clear.2 :: e.owed t := by
      rw [← hleft]
      have hemit : Frame.owed t (.emit t ((e.hold t).timeline t).buffer.clear.2) =
          some ((e.hold t).timeline t).buffer.clear.2 := if_pos rfl
      cases ((e.hold t).timeline t).activated with
      | none => exact List.filterMap_cons_some hemit
      | some q => exact List.filterMap_cons_some hemit
    rw [hpushed]
    change ((((e.hold t).endWork t).modifyTimeline t ended).timeline t).Logs _
    rw [hT]
    exact (logs_alike hhold hlogs).postpone rfl rfl rfl

theorem Logged.after (h : Logged e) (hw : Wired e) (hallows : e.allows m = true) :
    Logged (e.after m) := by
  intro t
  obtain ⟨hlogs, hlt⟩ := h t
  by_cases hend : m.ends = some t
  · cases m with
    | dispose t' =>
        obtain rfl := Option.some.inj hend
        have ht : t' < e.timelines.length := isAlive_lt (Bool.and_eq_true_iff.mp hallows).2
        exact ⟨logs_dispose ht hlogs, fun _ => lt_after ht hallows⟩
    | _ => cases hend
  · have hstays (howed : e.owed t ≠ []) : t < (e.after m).timelines.length :=
      lt_after (hlt howed) hallows
    rcases owed_after hallows hend with ⟨delta, rest, rfl, hs, howed⟩ | ⟨howed, hsaid⟩
    · rw [howed] at hlogs hlt
      have ht := hlt (List.cons_ne_nil _ _)
      obtain ⟨f, rest', hs', -, hafter⟩ := after_step hallows
      obtain ⟨rfl, rfl⟩ := List.cons.inj (hs'.symm.trans hs)
      have hT : (e.after .step).timeline t = (e.timeline t).emit delta := by
        rw [hafter]
        exact timeline_modifyTimeline_self ht _
      exact ⟨hT ▸ hlogs.emit, fun _ => lt_after ht hallows⟩
    · rw [howed]
      refine ⟨?_, hstays⟩
      by_cases ht : t < (e.after m).timelines.length
      · obtain ⟨T, hT, halike⟩ := leaves_after hw hallows ht
        exact logs_alike halike (hT.logs hw hallows ht hlogs hlt hend hsaid)
      · have hnone : e.owed t = [] := by
          by_contra howed
          exact ht (hstays howed)
        rw [hnone, timeline_of_le (Nat.le_of_not_lt ht)]
        exact ⟨trivial, rfl, nofun⟩

theorem Follows.logged {rule : Engine → Move → Prop} {moves : List Move}
    (h : ({} : Engine).Follows rule moves) : Logged (({} : Engine).replay moves) := by
  have hall : ∀ e, Sound e ∧ Wired e ∧ Logged e → ∀ m, e.allows m = true →
      Sound (e.after m) ∧ Wired (e.after m) ∧ Logged (e.after m) := by
    rintro e ⟨hs, hw, hl⟩ m hallows
    exact ⟨hs.after hallows, (comes_after hs hw hallows).1, hl.after hw hallows⟩
  exact (h.induction (P := fun e => Sound e ∧ Wired e ∧ Logged e)
    ⟨sound_init, wired_init, logged_init⟩ fun e m he hallows _ => hall e he m hallows).2.2

-- Whoever reads the events of a timeline in the order in which they were emitted, and nothing else,
-- knows what is in its buffer. A call that ends the timeline may still have something to say, but no
-- event ever said anything wrong.
theorem events_tell_buffer {moves : List Move} (hruns : ({} : Engine).Runs moves)
    (t : TimelineId) :
    let e := ({} : Engine).replay moves
    let log := (e.timeline t).events.reverse
    ((∀ delta, .emit t delta ∉ e.stack) →
      log.foldl Event.learn ∅ = (e.timeline t).buffer.ids) ∧
    ∀ before delta after, log = before ++ .bufferChanged delta :: after →
      delta.Fits (before.foldl Event.learn ∅) := by
  intro e log
  obtain ⟨hlogs, -⟩ := Follows.logged hruns t
  refine ⟨fun hsaid => ?_, fun before delta after hlog => hlogs.faithful.fits hlog⟩
  have hnone : e.owed t = [] := by
    refine List.filterMap_eq_nil_iff.mpr fun f hmem => ?_
    cases f with
    | emit t' delta =>
        refine if_neg ?_
        rintro rfl
        exact hsaid delta hmem
    | _ => rfl
  rw [hnone] at hlogs
  rw [← learned_eq_foldl]
  exact hlogs.learned_eq

end

-- A timeline of two items is filled, lets the older one go for a live one, and ends while somebody
-- listens to its query.
def endedAfterArrival : List Move :=
  [.addQuery (.not .contradiction) none, .addChannel 4, .addTimeline { maxItems := 2 } 0 0 (some 0) true,
    .listen 0, .startActivation 0 true, .step, .step, .step, .step, .leaveObserver, .step, .step,
    .step, .answer (.operation 0) (.ok [{ id := 1, author := "a" }, { id := 2, author := "b" }]),
    .offer 0 { id := 3, author := "c" }, .dispose 0, .step, .step, .step, .step, .leaveObserver,
    .step, .step, .step, .step]

theorem events_tell_buffer_endedAfterArrival :
    ({} : Engine).Runs endedAfterArrival ∧
      (∀ delta, .emit 0 delta ∉ (({} : Engine).replay endedAfterArrival).stack) ∧
      ((({} : Engine).replay endedAfterArrival).timeline 0).events.reverse =
        [.bufferChanged { inserted := [1, 2] }, .bufferChanged { inserted := [3], evicted := [1] },
          .bufferChanged { cleared := true }] ∧
      ((({} : Engine).replay endedAfterArrival).timeline 0).events.reverse.foldl Event.learn ∅ =
        ((({} : Engine).replay endedAfterArrival).timeline 0).buffer.ids ∧
      Delta.Fits { inserted := [3], evicted := [1] } {1, 2} := by
  have hruns : ({} : Engine).Runs endedAfterArrival := by decide
  have hsaid (delta : Delta) : .emit 0 delta ∉ (({} : Engine).replay endedAfterArrival).stack := by
    rw [show (({} : Engine).replay endedAfterArrival).stack = [] from rfl]
    exact List.not_mem_nil
  have hevents : ((({} : Engine).replay endedAfterArrival).timeline 0).events.reverse =
      [.bufferChanged { inserted := [1, 2] }, .bufferChanged { inserted := [3], evicted := [1] },
        .bufferChanged { cleared := true }] := by decide
  obtain ⟨htell, hfits⟩ := events_tell_buffer hruns 0
  exact ⟨hruns, hsaid, hevents, htell hsaid, hfits [.bufferChanged { inserted := [1, 2] }] _ _ hevents⟩

end FilteredFeed.Engine
