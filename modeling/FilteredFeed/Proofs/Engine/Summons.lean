import FilteredFeed.Proofs.Engine.Proceeds

namespace FilteredFeed.Engine

open FilteredFeed.Feed FilteredFeed.Filter FilteredFeed.Listener FilteredFeed.Timeline
open FilteredFeed.Scenario (Asker)

variable [Patterns]
variable {e e' : Engine} {t : TimelineId} {q : QueryId} {x : Target} {d : Option TimelineId}
variable {m : Move} {rest frames : List Frame}

-- Engines that a run comes to.
def IsReached (e : Engine) : Prop :=
  ∃ moves, ({} : Engine).Runs moves ∧ ({} : Engine).replay moves = e

theorem isReached_replay {moves : List Move} (hruns : ({} : Engine).Runs moves) :
    IsReached (({} : Engine).replay moves) := ⟨moves, hruns, rfl⟩

namespace IsReached

theorem after (h : IsReached e) (hallows : e.allows m = true) : IsReached (e.after m) := by
  obtain ⟨moves, hruns, rfl⟩ := h
  exact ⟨moves ++ [m], follows_append.mpr ⟨hruns, hallows, trivial, trivial⟩, replay_concat ..⟩

theorem sound (h : IsReached e) : Sound e := by
  obtain ⟨moves, hruns, rfl⟩ := h
  exact hruns.sound sound_init

theorem wired (h : IsReached e) : Wired e := by
  obtain ⟨moves, hruns, rfl⟩ := h
  exact hruns.wired sound_init wired_init

theorem staffed (h : IsReached e) (t : TimelineId) : Staffed e t := by
  obtain ⟨moves, hruns, rfl⟩ := h
  exact hruns.staffed sound_init wired_init staffed_init t

theorem accounted (h : IsReached e) : Accounted e e.stack.tail := by
  obtain ⟨moves, hruns, rfl⟩ := h
  exact hruns.accounted

-- Storage has no answer of the present generation for a timeline that is not active, if it has none
-- for an operation.
theorem unanswered (h : IsReached e) (hinactive : (e.timeline t).phase.isActive = false)
    (hlate : ∀ o r, e.asks (.operation o) = some (t, r) → r.generation < (e.timeline t).generation)
    {a : Asker} {r : FetchRequest} (hawaits : e.awaits a = true) (hasks : e.asks a = some (t, r))
    (hcurrent : r.generation = (e.timeline t).generation) : False := by
  cases a with
  | operation o => exact Nat.lt_irrefl _ (hcurrent ▸ hlate o r hasks)
  | task k =>
      obtain ⟨t', r', hwork, htask⟩ := work_of_awaits hawaits
      have hjob := asks_of_task htask
      obtain ⟨rfl, -⟩ := Prod.mk.inj (Option.some.inj (hjob.symm.trans hasks))
      exact (h.staffed t').work_of_inactive hinactive k _ hwork rfl

-- A timeline that is not active is not among the listeners of any query.
theorem unsubscribed (h : IsReached e) (hinactive : (e.timeline t).phase.isActive = false)
    (q : QueryId) (id : SubscriptionId) : (id, .timeline t) ∉ e.subscriptions q := by
  intro hmem
  have hsub := h.accounted.owned q id t hmem
  have hactive := ((h.wired.bound t).subscribed q id hsub).1
  exact Bool.noConfusion (hactive.symm.trans hinactive)

end IsReached

-- The listeners that the round of a query is still to call.
def waiting (e : Engine) (q : QueryId) : List Target := (e.query q).registry.waiting

-- A notification under way is still to call a listener.
def Summons (e : Engine) (x : Target) : Prop :=
  (∃ q, x ∈ e.waiting q) ∨ ∃ revision, .call x revision ∈ e.stack

theorem waiting_congr (h : e'.notices q = e.notices q) : e'.waiting q = e.waiting q :=
  congrArg (fun notice => notice.1.elim [] Round.waiting) h

-- Whoever waits after a registry went on waited before, or was put there.
theorem waiting_resumed {g : Registry Target → Registry Target} {targets : List Target}
    {q' : QueryId} (h : x ∈ (e.resumed q g targets frames rest).waiting q') :
    x ∈ e.waiting q' ∨ q' = q ∧ x ∈ (g (e.query q').registry).waiting := by
  unfold waiting at h ⊢
  rcases query_resumed e q q' g targets frames rest with ⟨-, heq⟩ | ⟨rfl, heq⟩ | ⟨rfl, heq, -⟩
  · exact .inl (heq ▸ h)
  · exact .inr ⟨rfl, heq ▸ h⟩
  · exact .inl (heq ▸ h)

theorem Modest.summons (h : Modest d e e') (hx : Summons e' x) : Summons e x := by
  rcases hx with ⟨q, hmem⟩ | ⟨revision, hmem⟩
  · rw [waiting_congr (congrFun h.notices q)] at hmem
    exact .inl ⟨q, hmem⟩
  · obtain ⟨frames, hs, hframes⟩ := h.stack
    rw [hs] at hmem
    rcases List.mem_append.mp hmem with hmem | hmem
    · exact (hframes _ hmem).elim
    · exact .inr ⟨revision, hmem⟩

theorem Summons.popped {f : Frame} (h : Summons { e with stack := rest } x)
    (hs : e.stack = f :: rest) : Summons e x := by
  refine h.imp_right ?_
  rintro ⟨revision, hmem⟩
  exact ⟨revision, hs ▸ List.mem_cons_of_mem _ hmem⟩

theorem summons_resumed {f : Frame} {g : Registry Target → Registry Target} {targets : List Target}
    (hs : e.stack = f :: rest) (hx : Summons (e.resumed q g targets frames rest) x)
    (hwaiting : x ∈ (g (e.query q).registry).waiting → x ∈ e.waiting q)
    (hframes : ∀ revision, .call x revision ∈ frames → x ∈ e.waiting q) : Summons e x := by
  rcases hx with ⟨q', hmem⟩ | ⟨revision, hmem⟩
  · rcases waiting_resumed hmem with hold | ⟨rfl, hnew⟩
    · exact .inl ⟨q', hold⟩
    · exact .inl ⟨q', hwaiting hnew⟩
  · rw [stack_resumed] at hmem
    rcases List.mem_append.mp hmem with hmem | hmem
    · exact .inl ⟨q, hframes revision hmem⟩
    · exact .inr ⟨revision, hs ▸ List.mem_cons_of_mem _ hmem⟩

-- A notification calls only those who are subscribed when it begins.
theorem Proceeds.summons (h : Proceeds e m e') (hx : Summons e' x)
    (hunsubscribed : ∀ q, ∀ s ∈ e.subscriptions q, s.2 ≠ x) : Summons e x := by
  cases h with
  | modest hm h => exact h.summons hx
  | performed hs hf h => exact (h.summons hx).popped hs
  | @announced q revision rest targets hs =>
      refine summons_resumed hs hx (fun hnew => ?_) fun revision' hmem => ?_
      · refine (Registry.mem_waiting_request hnew).resolve_right ?_
        rintro ⟨s, hmem, heq⟩
        exact hunsubscribed _ s hmem heq
      · cases eq_rounds_of_mem hmem
  | @continued q rest hs =>
      refine summons_resumed hs hx (fun hnew => ?_) fun revision hmem => ?_
      · refine (Registry.mem_waiting_advance hnew).resolve_right ?_
        rintro ⟨s, hmem, heq⟩
        exact hunsubscribed _ s hmem heq
      · exact Registry.mem_waiting_of_call (next_of_mem_roundFrames hmem)
  | handed hs =>
      refine hx.imp_right ?_
      rintro ⟨revision, hmem⟩
      rcases List.mem_cons.mp hmem with heq | hmem
      · cases heq
      · exact ⟨revision, hs ▸ List.mem_cons_of_mem _ hmem⟩
  | left hs => exact Summons.popped hx hs
  | amended hm hq hf =>
      rcases hx with ⟨q', hmem⟩ | ⟨revision, hmem⟩
      · refine .inl ⟨q', ?_⟩
        unfold waiting at hmem ⊢
        rwa [registry_amend hf] at hmem
      · exact .inr ⟨revision, mem_of_amend hmem nofun⟩

-- Once nobody is still to call a timeline that is not active, nobody comes to.
theorem IsReached.summons (h : IsReached e) (hallows : e.allows m = true)
    (hinactive : (e.timeline t).phase.isActive = false) (hx : Summons (e.after m) (.timeline t)) :
    Summons e (.timeline t) := by
  refine (proceeds_after hallows).summons hx ?_
  rintro q ⟨id, listener⟩ hmem rfl
  exact h.unsubscribed hinactive q id hmem

end FilteredFeed.Engine
