import FilteredFeed.Proofs.Engine.Expected

namespace FilteredFeed.Engine

open FilteredFeed.Feed FilteredFeed.Filter FilteredFeed.Listener FilteredFeed.Timeline

variable [Patterns]
variable {e e' : Engine} {t : TimelineId} {q : QueryId} {id : SubscriptionId} {c : Nat} {m : Move}
variable {T T' : Timeline} {rest : List Frame} {moves : List Move}

-- A timeline that has been subscribed is as far with its query as before.
theorem current_enrol_popped (hw : Wired e) {epoch : Nat} {purpose : Purpose}
    (hs : e.stack = .attach t q epoch purpose :: rest) (hepoch : (e.timeline t).epoch = epoch) :
    ((({ e with stack := rest } : Engine).enrol t q).current t).2 = (e.current t).2 := by
  have hrevisions : (({ e with stack := rest } : Engine).enrol t q).revisions = e.revisions :=
    funext (revision_enrol { e with stack := rest } t q)
  rw [current_snd, current_snd, hrevisions, timeline_enrol_popped hw hs hepoch]

-- A timeline has a mark only if it had it before, or a live item has just caught it up.
theorem Becomes.marked (h : Becomes e t m T) (hw : Wired e) (hmark : T.caughtUp = some c) :
    (e.timeline t).caughtUp = some c ∨
      ∃ item, e.Delivers t item m ∧ e.isBehind t = true ∧ (e.current t).2 = some c := by
  induction h with
  | kept | enrolled | stopped | ended | counted | launched | failed | rolledBack => exact .inl hmark
  | dropped h hdead ih => exact ih hmark
  | told | invalidated | requeried | refreshed => simp at hmark
  | unmarked | made => cases hmark
  | @refitted q o rest hs hstale =>
      obtain ⟨events, hT⟩ := refitted_eq (({ e with stack := rest } : Engine).enrol t q) t
      rw [hT, timeline_enrol_popped hw hs rfl] at hmark
      exact .inl hmark
  | @emitted delta rest hs =>
      obtain ⟨events, hT⟩ := emit_eq (e.timeline t) delta
      rw [hT] at hmark
      exact .inl hmark
  | @offered m item T hm hactive hT =>
      rcases tested_cases hT with ⟨-, buffer, events, unread, notified, rfl⟩ |
        ⟨hstale, buffer, events, unread, notified, rfl⟩
      · exact .inl hmark
      · refine .inr ⟨item, hm, ?_, hmark⟩
        unfold isBehind
        rw [hactive, hstale]
        rfl
  | @absorbed a r items phase hawaits hasks hg hp =>
      obtain ⟨events, hT⟩ := absorb_eq ({ e.timeline t with phase } : Timeline) items
      rw [hT] at hmark
      exact .inl hmark

-- A mark is not ahead of what its timeline applies.
def Bounded (T : Timeline) : Prop :=
  ∀ c applied, T.caughtUp = some c → T.compiledRevision = some applied → c ≤ applied

theorem bounded_unmarked (h : T.caughtUp = none) : Bounded T :=
  fun _ _ hmark => nomatch h.symm.trans hmark

theorem bounded_alike (h : Bounded T) (halike : T.Alike T') : Bounded T' := by
  unfold Bounded
  rw [halike.caughtUp, halike.compiledRevision]
  exact h

theorem Becomes.bounded (h : Becomes e t m T) (hw : Wired e) (hbounded : Bounded (e.timeline t)) :
    Bounded T := by
  induction h with
  | kept | enrolled | stopped | counted | launched | failed | rolledBack => exact hbounded
  | dropped h hdead ih => exact ih
  | told | invalidated | requeried | refreshed => exact bounded_unmarked (caughtUp_restarted ..)
  | unmarked | made => exact bounded_unmarked rfl
  | ended => exact fun _ _ _ => nofun
  | @refitted q o rest hs hstale =>
      obtain ⟨events, hT⟩ := refitted_eq (({ e with stack := rest } : Engine).enrol t q) t
      have hquery := (((hw.bound t).attaching q _ _ (hs ▸ List.mem_cons_self)).2 rfl).2
      rw [hT, timeline_enrol_popped hw hs rfl, current_enrol_popped hw hs rfl, current_snd, hquery]
      intro c applied hmark happlied
      obtain rfl := Option.some.inj happlied
      cases hearlier : (e.timeline t).compiledRevision with
      | none => cases ((hw.bound t).unapplied hearlier).symm.trans hquery
      | some earlier =>
          obtain ⟨q', hquery', hle, -⟩ := (hw.bound t).applied earlier hearlier
          obtain rfl := Option.some.inj (hquery.symm.trans hquery')
          exact Nat.le_trans (hbounded c earlier hmark hearlier) hle
  | @emitted delta rest hs =>
      obtain ⟨events, hT⟩ := emit_eq (e.timeline t) delta
      rw [hT]
      exact hbounded
  | @offered m item T hm hactive hT =>
      rcases tested_cases hT with ⟨-, buffer, events, unread, notified, rfl⟩ |
        ⟨-, buffer, events, unread, notified, rfl⟩
      · exact hbounded
      · intro c applied hmark happlied
        have hsame := (compiledRevision_restarted e t).symm.trans happlied
        exact Nat.le_of_eq (Option.some.inj (hmark.symm.trans hsame))
  | @absorbed a r items phase hawaits hasks hg hp =>
      obtain ⟨events, hT⟩ := absorb_eq ({ e.timeline t with phase } : Timeline) items
      rw [hT]
      exact hbounded

theorem IsReached.bounded (h : IsReached e) (t : TimelineId) : Bounded (e.timeline t) := by
  obtain ⟨moves, hruns, rfl⟩ := h
  have hboth : IsReached (({} : Engine).replay moves) ∧
      Bounded ((({} : Engine).replay moves).timeline t) := by
    refine hruns.induction (P := fun e => IsReached e ∧ Bounded (e.timeline t))
      ⟨⟨[], trivial, rfl⟩, bounded_unmarked rfl⟩ ?_
    rintro e m ⟨hreached, hbounded⟩ hallows -
    refine ⟨hreached.after hallows, ?_⟩
    by_cases ht : t < (e.after m).timelines.length
    · obtain ⟨T, hT, halike⟩ := leaves_after hreached.wired hallows ht
      exact bounded_alike (hT.bounded hreached.wired hbounded) halike
    · rw [timeline_of_le (Nat.le_of_not_lt ht)]
      exact bounded_unmarked rfl
  exact hboth.2

-- The mark of a timeline is not ahead of its query.
theorem IsReached.mark_le (h : IsReached e) (hquery : (e.timeline t).query = some q)
    (hmark : (e.timeline t).caughtUp = some c) : c ≤ e.revisions q := by
  cases happlied : (e.timeline t).compiledRevision with
  | none => cases ((h.wired.bound t).unapplied happlied).symm.trans hquery
  | some applied =>
      obtain ⟨q', hquery', hle, -⟩ := (h.wired.bound t).applied applied happlied
      obtain rfl := Option.some.inj (hquery.symm.trans hquery')
      exact Nat.le_trans (h.bounded t c applied hmark happlied) hle

theorem subscription_leaveQuery (e : Engine) (t : TimelineId) (query : Option QueryId) :
    ((e.leaveQuery t query).timeline t).subscription = none := by
  by_cases ht : t < e.timelines.length
  · rw [timeline_leaveQuery ht]
    rfl
  · have hsize : (e.leaveQuery t query).timelines.length = e.timelines.length := by
      have hs := (apart_unsubscribe e t).size
      simpa [leaveQuery, modifyTimeline] using hs
    rw [timeline_of_le (hsize ▸ Nat.le_of_not_lt ht)]
    rfl

theorem IsReached.lt_of_subscribed (h : IsReached e)
    (hsub : (e.timeline t).subscription = some (q, id)) : t < e.timelines.length :=
  lt_of_active ((h.wired.bound t).subscribed q id hsub).1

-- A timeline that is subscribed is not about to be attached.
theorem IsReached.not_attaching (h : IsReached e)
    (hsub : (e.timeline t).subscription = some (q, id)) {q' : QueryId} {purpose : Purpose} :
    e.stack ≠ .attach t q' (e.timeline t).epoch purpose :: rest := by
  intro hs
  have hsingle := h.accounted.single t
  rw [hs, hsub] at hsingle
  simp [Frame.attachesAt] at hsingle

-- What becomes of a timeline that is subscribed to its query.
inductive Fares (e : Engine) (t : TimelineId) (m : Move) (T : Timeline) : Prop
  -- it goes on, though it may lose its mark
  | stays (hgeneration : T.generation = (e.timeline t).generation)
      (hsubscription : T.subscription = (e.timeline t).subscription)
      (hquery : T.query = (e.timeline t).query)
      (happlied : T.compiledRevision = (e.timeline t).compiledRevision)
      (hmark : T.caughtUp = (e.timeline t).caughtUp ∨ T.caughtUp = none)
  -- it starts again under the filter of its query
  | restarts (hgeneration : (e.timeline t).generation < T.generation)
      (hsubscription : T.subscription = (e.timeline t).subscription)
      (hquery : T.query = (e.timeline t).query) (happlied : T.compiledRevision = (e.current t).2)
  -- it gives its subscription up
  | leaves (hgeneration : (e.timeline t).generation < T.generation)
      (hsubscription : T.subscription = none)
      (hmark : T.phase.isActive = false ∨ T.caughtUp = none)

theorem fares_alike (h : Fares e t m T) (halike : T.Alike T') : Fares e t m T' := by
  obtain ⟨_, _, _, rfl⟩ := halike
  cases h with
  | stays hg hs hq ha hm => exact .stays hg hs hq ha hm
  | restarts hg hs hq ha => exact .restarts hg hs hq ha
  | leaves hg hs hm => exact .leaves hg hs hm

theorem fares_restarted : Fares e t m (e.restarted t) :=
  .restarts (by simp) (by simp) (by simp) (by simp)

theorem Becomes.fares (h : Becomes e t m T) (hreached : IsReached e)
    (hsub : (e.timeline t).subscription = some (q, id)) : Fares e t m T := by
  have hactive := ((hreached.wired.bound t).subscribed q id hsub).1
  induction h with
  | kept m => exact .stays rfl rfl rfl rfl (.inl rfl)
  | @dropped m T h hdead ih =>
      refine .leaves ?_ rfl (.inl rfl)
      cases ih with
      | stays hg => exact Nat.lt_succ_of_le (Nat.le_of_eq hg.symm)
      | restarts hg | leaves hg => exact Nat.lt_succ_of_lt hg
  | told | invalidated => exact fares_restarted
  | unmarked => exact .stays rfl rfl rfl rfl (.inr rfl)
  | enrolled hs | refreshed hs | refitted hs => exact absurd hs (hreached.not_attaching hsub)
  | @emitted delta rest hs =>
      obtain ⟨events, hT⟩ := emit_eq (e.timeline t) delta
      rw [hT]
      exact .stays rfl rfl rfl rfl (.inl rfl)
  | stopped | rolledBack => exact .leaves (Nat.lt_succ_self _) rfl (.inl rfl)
  | @requeried query hphase hquery =>
      have hleft := timeline_leaveQuery (lt_of_active hactive) query
      refine .leaves ?_ ?_ (.inr (caughtUp_restarted ..))
      · rw [generation_restarted, hleft]
        exact Nat.lt_succ_self _
      · rw [subscription_restarted, subscription_leaveQuery]
  | ended => exact .leaves (Nat.lt_succ_self _) rfl (.inl rfl)
  | counted | failed => exact .stays rfl rfl rfl rfl (.inl rfl)
  | launched hphase =>
      rw [hphase] at hactive
      cases hactive
  | @offered m item T hm _ hT =>
      rcases tested_cases hT with ⟨-, buffer, events, unread, notified, rfl⟩ |
        ⟨-, buffer, events, unread, notified, rfl⟩
      · exact .stays rfl rfl rfl rfl (.inl rfl)
      · exact .restarts (by simp) (by simp) (by simp) (by simp)
  | @absorbed a r items phase hawaits hasks hg hp =>
      obtain ⟨events, hT⟩ := absorb_eq ({ e.timeline t with phase } : Timeline) items
      rw [hT]
      exact .stays rfl rfl rfl rfl (.inl rfl)
  | made hnew => exact absurd (lt_of_active hactive) (hnew ▸ Nat.lt_irrefl _)

-- A timeline that is subscribed then applies the filter of its query, unless an activation is
-- overtaken.
theorem Becomes.joins (h : Becomes e t m T) (hw : Wired e)
    (hbefore : (e.timeline t).subscription = none) (hsub : T.subscription = some (q, id)) :
    T.query = (e.timeline t).query ∧ T.compiledRevision = (e.current t).2 ∨
      m = .step ∧ e.isOvertaken t = true ∧ T.generation = (e.timeline t).generation := by
  have hnot {T : Timeline} (hsame : T.subscription = (e.timeline t).subscription) :
      T.subscription ≠ some (q, id) := by
    rw [hsame, hbefore]
    nofun
  induction h with
  | kept | counted | launched | unmarked | failed => exact absurd hsub (hnot rfl)
  | dropped | stopped | ended | rolledBack | made => cases hsub
  | told | invalidated => exact absurd hsub (hnot (subscription_restarted ..))
  | @requeried query hphase hquery =>
      rw [subscription_restarted, subscription_leaveQuery] at hsub
      cases hsub
  | @enrolled q' purpose rest hs hcurrent =>
      cases hstale : e.isStale t with
      | false =>
          refine .inl ⟨rfl, ?_⟩
          rw [current_snd]
          exact (bne_eq_false_iff_eq.mp hstale).symm
      | true =>
          obtain ⟨o, generation, rfl, hne⟩ := hcurrent.resolve_left (by simp [hstale])
          refine .inr ⟨rfl, ?_, rfl⟩
          simp [isOvertaken, hs, hstale, Ne.symm hne]
  | @refreshed q' rest hs hstale =>
      left
      have hT := timeline_enrol_popped hw hs rfl
      simp [hT, current_enrol_popped hw hs rfl]
  | @refitted q' o rest hs hstale =>
      obtain ⟨events, hT⟩ := refitted_eq (({ e with stack := rest } : Engine).enrol t q') t
      rw [hT, timeline_enrol_popped hw hs rfl]
      exact .inl ⟨rfl, current_enrol_popped hw hs rfl⟩
  | @emitted delta rest hs =>
      obtain ⟨events, hT⟩ := emit_eq (e.timeline t) delta
      rw [hT] at hsub
      exact absurd hsub (hnot rfl)
  | @offered m item T hm _ hT =>
      rcases tested_cases hT with ⟨-, buffer, events, unread, notified, rfl⟩ |
        ⟨-, buffer, events, unread, notified, rfl⟩
      · exact absurd hsub (hnot rfl)
      · exact absurd hsub (hnot (subscription_restarted e t))
  | @absorbed a r items phase hawaits hasks hg hp =>
      obtain ⟨events, hT⟩ := absorb_eq ({ e.timeline t with phase } : Timeline) items
      rw [hT] at hsub
      exact absurd hsub (hnot rfl)

end FilteredFeed.Engine
