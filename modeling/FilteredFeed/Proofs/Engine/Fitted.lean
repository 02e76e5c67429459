import FilteredFeed.Proofs.Engine.Leaves
import FilteredFeed.Proofs.Engine.Summons
import FilteredFeed.Proofs.Timeline.Newest

namespace FilteredFeed.Engine

open FilteredFeed.Feed FilteredFeed.Filter FilteredFeed.Listener FilteredFeed.Timeline

variable [Patterns]
variable {e : Engine} {t : TimelineId} {m : Move} {T T' : Timeline} {moves : List Move}

-- The bound of a buffer is the one that its timeline is set to.
def IsFitted (T : Timeline) : Prop := T.buffer.maxItems = T.config.maxItems

theorem isFitted_alike (h : IsFitted T) (halike : T.Alike T') : IsFitted T' := by
  obtain ⟨_, _, _, rfl⟩ := halike
  exact h

theorem isFitted_cleared (h : IsFitted T) (hT : T'.buffer = T.buffer.clear.1)
    (hconfig : T'.config = T.config) : IsFitted T' := by
  unfold IsFitted
  rw [hT, hconfig, Buffer.maxItems_clear]
  exact h

theorem isFitted_merged (h : IsFitted T) (items : List Item)
    (hT : T'.buffer = (T.buffer.merge items).1) (hconfig : T'.config = T.config) : IsFitted T' := by
  unfold IsFitted
  rw [hT, hconfig, Buffer.maxItems_merge]
  exact h

theorem isFitted_restarted (h : IsFitted (e.timeline t)) : IsFitted (e.restarted t) := by
  obtain ⟨events, hT⟩ := restarted_eq e t
  rw [hT]
  exact isFitted_cleared h rfl rfl

theorem isFitted_caught (h : IsFitted (e.timeline t)) : IsFitted (e.caught t) := by
  unfold caught
  split
  · exact isFitted_restarted h
  · exact h

theorem Becomes.isFitted (h : Becomes e t m T) (hw : Wired e) (hfitted : IsFitted (e.timeline t)) :
    IsFitted T := by
  induction h with
  | kept | unmarked | enrolled | stopped | counted | launched | failed | rolledBack => exact hfitted
  | dropped h hdead ih => exact ih
  | told | invalidated => exact isFitted_restarted hfitted
  | ended => exact isFitted_cleared hfitted rfl rfl
  | made => rfl
  | @refreshed q rest hs hstale =>
      refine isFitted_restarted ?_
      rw [timeline_enrol_popped hw hs rfl]
      exact hfitted
  | @refitted q o rest hs hstale =>
      obtain ⟨events, hT⟩ := refitted_eq (({ e with stack := rest } : Engine).enrol t q) t
      rw [hT, timeline_enrol_popped hw hs rfl]
      exact isFitted_cleared hfitted rfl rfl
  | @emitted delta rest hs =>
      obtain ⟨events, hT⟩ := emit_eq (e.timeline t) delta
      rw [hT]
      exact hfitted
  | @requeried query hphase hquery =>
      refine isFitted_restarted ?_
      rcases timeline_leaveQuery_or e t query with hT | hT
      · rw [hT]
        exact hfitted
      · rw [hT]
        exact hfitted
  | @offered m item T hm hactive hT =>
      rcases hT with rfl | ⟨-, rfl⟩
      · exact isFitted_caught hfitted
      · obtain ⟨events, unread, notified, hT⟩ := receive_eq (e.caught t) item
        rw [hT]
        exact isFitted_merged (isFitted_caught hfitted) [item] rfl rfl
  | @absorbed a r items phase hawaits hasks hg hp =>
      obtain ⟨events, hT⟩ := absorb_eq ({ e.timeline t with phase } : Timeline) items
      rw [hT]
      exact isFitted_merged hfitted items rfl rfl

theorem isFitted_addTimeline (e : Engine) (config : Config) (storage : StorageId)
    (stream : StreamId) (query : Option QueryId) (hasSink : Bool) :
    IsFitted ((e.addTimeline config storage stream query hasSink).2.timeline e.timelines.length) := by
  unfold addTimeline
  dsimp only
  rw [timeline_recompile (by simp), timeline_append, if_pos rfl]
  rfl

theorem isFitted_after (hw : Wired e) (hallows : e.allows m = true)
    (hfitted : ∀ t, t < e.timelines.length → IsFitted (e.timeline t))
    (ht : t < (e.after m).timelines.length) : IsFitted ((e.after m).timeline t) := by
  by_cases hold : t < e.timelines.length
  · obtain ⟨T, hT, halike⟩ := leaves_after hw hallows ht
    exact isFitted_alike (hT.isFitted hw (hfitted t hold)) halike
  · rw [length_after hallows] at ht
    cases m with
    | addTimeline config storage stream query hasSink =>
        have ht : t < e.timelines.length + 1 := ht
        obtain rfl := Nat.le_antisymm (Nat.le_of_lt_succ ht) (Nat.le_of_not_lt hold)
        exact isFitted_addTimeline e config storage stream query hasSink
    | _ => exact absurd ht hold

-- What every run keeps.
theorem isFitted_replay (hruns : ({} : Engine).Runs moves) :
    ∀ t, t < (({} : Engine).replay moves).timelines.length →
      IsFitted ((({} : Engine).replay moves).timeline t) := by
  have hboth : IsReached (({} : Engine).replay moves) ∧
      ∀ t, t < (({} : Engine).replay moves).timelines.length →
        IsFitted ((({} : Engine).replay moves).timeline t) := by
    refine hruns.induction
      (P := fun e => IsReached e ∧ ∀ t, t < e.timelines.length → IsFitted (e.timeline t))
      ⟨⟨[], trivial, rfl⟩, nofun⟩ ?_
    rintro e m ⟨hreached, hfitted⟩ hallows -
    exact ⟨hreached.after hallows, fun t ht => isFitted_after hreached.wired hallows hfitted ht⟩
  exact hboth.2

end FilteredFeed.Engine
