import FilteredFeed.Proofs.Engine.Activations

namespace FilteredFeed.Engine

open FilteredFeed.Feed FilteredFeed.Filter FilteredFeed.Listener FilteredFeed.Timeline
open FilteredFeed.Scenario (Asker)

variable [Patterns]
variable {e e' e'' : Engine} {t : TimelineId} {q : QueryId} {x : Target} {rest : List Frame}
variable {m : Move}

-- Whether a call has to do with a listener that is being told of a change.
def Frame.isCall : Frame → Bool
  | .call _ _ | .observer _ _ => true
  | _ => false

def Frame.addresses (x : Target) : Frame → Bool
  | .call target _ => target == x
  | .observer o _ => .observer o == x
  | _ => false

omit [Patterns] in
theorem addresses_of_not_isCall {f : Frame} (h : f.isCall = false) (x : Target) :
    f.addresses x = false := by
  cases f with
  | call | observer => cases h
  | activate | deactivate | announce | rounds | release | attach | emit | finish => rfl

-- Nobody tells a listener of any change, now or later.
structure Unheard (x : Target) (e : Engine) : Prop where
  subscriptions : ∀ q s, s ∈ e.subscriptions q → s.2 ≠ x
  waiting : ∀ q, x ∉ (e.query q).registry.waiting
  stack : ∀ f ∈ e.stack, f.addresses x = false

-- No timeline has applied a change ahead of its announcement.
def Prompt (e : Engine) : Prop := ∀ t, (e.timeline t).caughtUp = none

-- Whoever was unheard stays so, and no timeline gets ahead.
structure Tame (e e' : Engine) : Prop where
  caughtUp : ∀ t, (e.timeline t).caughtUp = none → (e'.timeline t).caughtUp = none
  subscriptions : ∀ q s, s ∈ e'.subscriptions q → s ∈ e.subscriptions q
  waiting : ∀ q x, x ∈ (e'.query q).registry.waiting → x ∈ (e.query q).registry.waiting
  stack : ∃ frames, e'.stack = frames ++ e.stack ∧ ∀ f ∈ frames, f.isCall = false

theorem Tame.refl (e : Engine) : Tame e e :=
  ⟨fun _ => id, fun _ _ => id, fun _ _ => id, [], rfl, nofun⟩

theorem Tame.trans (h : Tame e e') (h' : Tame e' e'') : Tame e e'' where
  caughtUp t := h'.caughtUp t ∘ h.caughtUp t
  subscriptions q s := h.subscriptions q s ∘ h'.subscriptions q s
  waiting q x := h.waiting q x ∘ h'.waiting q x
  stack := by
    obtain ⟨frames, hs, hf⟩ := h.stack
    obtain ⟨frames', hs', hf'⟩ := h'.stack
    refine ⟨frames' ++ frames, by rw [hs', hs, List.append_assoc], fun f hmem => ?_⟩
    rcases List.mem_append.mp hmem with hmem | hmem
    · exact hf' f hmem
    · exact hf f hmem

theorem Tame.prompt (h : Tame e e') (hp : Prompt e) : Prompt e' := fun t => h.caughtUp t (hp t)

theorem Tame.unheard (h : Tame e e') (hx : Unheard x e) : Unheard x e' where
  subscriptions q s hmem := hx.subscriptions q s (h.subscriptions q s hmem)
  waiting q hmem := hx.waiting q (h.waiting q x hmem)
  stack f hmem := by
    obtain ⟨frames, hs, hf⟩ := h.stack
    rw [hs] at hmem
    rcases List.mem_append.mp hmem with hmem | hmem
    · exact addresses_of_not_isCall (hf f hmem) x
    · exact hx.stack f hmem

theorem tame_of_queries (hq : e'.queries = e.queries) (hs : e'.stack = e.stack)
    (ht : ∀ t, (e.timeline t).caughtUp = none → (e'.timeline t).caughtUp = none) : Tame e e' := by
  have hquery (q : QueryId) : e'.query q = e.query q := by
    unfold query
    rw [hq]
  refine ⟨ht, fun q s hmem => ?_, fun q x hmem => ?_, [], hs, nofun⟩
  · unfold subscriptions at hmem ⊢
    rwa [hquery] at hmem
  · rwa [hquery] at hmem

theorem Background.tame (h : Background e e') : Tame e e' := by
  refine tame_of_queries h.queries h.stack fun t hnone => ?_
  rwa [h.timeline]

theorem Within.tame (h : Within t e e')
    (hT : (e.timeline t).caughtUp = none → (e'.timeline t).caughtUp = none) : Tame e e' := by
  refine ⟨fun t' hnone => ?_, fun q s hmem => ?_, fun q x hmem => ?_, [], h.stack, nofun⟩
  · by_cases hne : t' = t
    · exact hne ▸ hT (hne ▸ hnone)
    · rwa [h.others t' hne]
  · unfold subscriptions at hmem ⊢
    rwa [(h.query q).registry] at hmem
  · rwa [(h.query q).registry] at hmem

theorem tame_modifyTimeline (e : Engine) {f : Timeline → Timeline}
    (h : (e.timeline t).caughtUp = none → (f (e.timeline t)).caughtUp = none) :
    Tame e (e.modifyTimeline t f) := by
  refine (within_modifyTimeline e t f).tame fun hnone => ?_
  rcases timeline_modifyTimeline e t t f with hT | ⟨-, hT⟩
  · rwa [hT]
  · rw [hT]
    exact h hnone

theorem tame_modifyQuery (e : Engine) (q : QueryId) {f : Query Target → Query Target}
    (hsubscriptions : ∀ s, s ∈ (f (e.query q)).registry.subscriptions →
      s ∈ (e.query q).registry.subscriptions)
    (hround : (f (e.query q)).registry.round = (e.query q).registry.round) :
    Tame e (e.modifyQuery q f) := by
  refine ⟨fun _ => id, fun q' s hmem => ?_, fun q' x hmem => ?_, [], rfl, nofun⟩
  · unfold subscriptions at hmem ⊢
    rcases query_modifyQuery e q q' f with hQ | ⟨rfl, hQ⟩
    · rwa [hQ] at hmem
    · rw [hQ] at hmem
      exact hsubscriptions s hmem
  · rcases query_modifyQuery e q q' f with hQ | ⟨rfl, hQ⟩
    · rwa [hQ] at hmem
    · rw [hQ] at hmem
      unfold Registry.waiting at hmem ⊢
      rwa [hround] at hmem

theorem tame_push (e : Engine) {frames : List Frame} (h : ∀ f ∈ frames, f.isCall = false) :
    Tame e (e.push frames) :=
  ⟨fun _ => id, fun _ _ => id, fun _ _ => id, frames, rfl, h⟩

theorem tame_deactivations (e : Engine) (activated : Option QueryId) :
    Tame e (e.push (deactivations activated)) := by
  refine tame_push e fun f hmem => ?_
  cases activated with
  | none => cases hmem
  | some q =>
      rw [List.mem_singleton.mp hmem]
      rfl

theorem tame_deactivations_append (e : Engine) (activated : Option QueryId) {frames : List Frame}
    (h : ∀ f ∈ frames, f.isCall = false) : Tame e (e.push (deactivations activated ++ frames)) := by
  rw [push_append]
  exact (tame_push e h).trans (tame_deactivations ..)

theorem tame_setStatus (e : Engine) (o : OperationId) (status : Status) :
    Tame e (e.setStatus o status) :=
  tame_of_queries rfl rfl fun _ => id

theorem tame_retain (e : Engine) (target : Target) : Tame e (e.retain target) := by
  cases target with
  | timeline t => exact tame_modifyTimeline e id
  | observer o => exact tame_of_queries rfl rfl fun _ => id

theorem tame_retainAll (e : Engine) (targets : List Target) : Tame e (e.retainAll targets) := by
  induction targets generalizing e with
  | nil => exact .refl e
  | cons target targets ih => exact (tame_retain e target).trans (ih _)

theorem tame_hold (e : Engine) (t : TimelineId) : Tame e (e.hold t) :=
  (tame_retain e _).trans (tame_push _ (by simp [Frame.isCall]))

theorem caughtUp_emit (T : Timeline) (delta : Delta) : (T.emit delta).caughtUp = T.caughtUp := by
  obtain ⟨events, h⟩ := emit_eq T delta
  rw [h]

theorem caughtUp_absorb (T : Timeline) (items : List Item) :
    (T.absorb items).1.caughtUp = T.caughtUp := by
  obtain ⟨events, h⟩ := absorb_eq T items
  rw [h]

theorem caughtUp_receive (T : Timeline) (item : Item) :
    (T.receive item).caughtUp = T.caughtUp := by
  obtain ⟨events, unread, notified, h⟩ := receive_eq T item
  rw [h]

theorem tame_emit (e : Engine) (t : TimelineId) (delta : Delta) : Tame e (e.emit t delta) :=
  tame_modifyTimeline e (caughtUp_emit _ delta).trans

theorem tame_compile (e : Engine) (q : QueryId) : Tame e (e.compile q).2.2 := by
  have hr := (e.query q).remembers_compile
  have hkept (s : SubscriptionId × Target)
      (hmem : s ∈ (e.query q).compile.2.registry.subscriptions) :
      s ∈ (e.query q).registry.subscriptions := hr.registry ▸ hmem
  exact tame_modifyQuery e q hkept (congrArg Registry.round hr.registry)

theorem tame_currentFilter (e : Engine) (t : TimelineId) : Tame e (e.currentFilter t).2 := by
  unfold currentFilter
  split
  · split
    · exact tame_compile e _
    · exact .refl e
  · exact .refl e

theorem tame_recompile (e : Engine) (t : TimelineId) : Tame e (e.recompile t) := by
  unfold recompile
  split
  · exact (tame_compile e _).trans (tame_modifyTimeline _ id)
  · exact tame_modifyTimeline e id

theorem tame_startRefetch (e : Engine) (t : TimelineId) : Tame e (e.startRefetch t) := by
  unfold startRefetch
  dsimp only
  split
  · refine Tame.trans ?_ (tame_modifyTimeline _ id)
    exact (background_abort? e _).tame.trans (tame_of_queries rfl rfl fun _ => id)
  · exact .refl e

theorem tame_invalidateQuietly (e : Engine) (t : TimelineId) :
    Tame e (e.invalidateQuietly t).2 := by
  by_cases ht : t < e.timelines.length
  · refine (within_invalidateQuietly e t).tame fun _ => ?_
    rw [timeline_invalidateQuietly ht]
    rfl
  · rw [invalidateQuietly_of_le (Nat.le_of_not_lt ht)]
    exact .refl e

theorem tame_invalidateNow (e : Engine) (t : TimelineId) : Tame e (e.invalidateNow t) :=
  (tame_invalidateQuietly e t).trans (tame_emit ..)

theorem tame_onInvalidated (e : Engine) (t : TimelineId) (revision : Nat) :
    Tame e (e.onInvalidated t revision) := by
  unfold onInvalidated
  dsimp only
  split
  · exact .refl e
  · split
    · split
      · split
        · exact tame_modifyTimeline e fun _ => rfl
        · exact .refl e
      · exact tame_invalidateNow e t
    · exact tame_invalidateNow e t

theorem tame_refresh (e : Engine) (t : TimelineId) : Tame e (e.refresh t) := by
  unfold refresh
  split
  · exact tame_invalidateNow e t
  · exact .refl e

theorem tame_prepare (e : Engine) (t : TimelineId) (o : OperationId) (generation : Nat) :
    Tame e (e.prepare t o generation) := by
  rw [prepare_eq]
  split
  · exact tame_push e (by simp [Frame.isCall])
  · refine Tame.trans ?_ (tame_setStatus ..)
    unfold prepared
    split
    · exact ((tame_recompile e t).trans (tame_modifyTimeline _ id)).trans (tame_emit ..)
    · exact .refl e

theorem tame_toggled (e : Engine) (q : QueryId) : Tame e (e.toggled q) := by
  unfold toggled
  split
  · exact .refl e
  · exact tame_push e (by simp [Frame.isCall])

theorem tame_addActivation (e : Engine) (q : QueryId) : Tame e (e.addActivation q) :=
  (tame_modifyQuery e q (fun _ => id) rfl).trans (tame_toggled ..)

theorem tame_removeActivation (e : Engine) (q : QueryId) : Tame e (e.removeActivation q) := by
  unfold removeActivation
  split
  · exact (tame_modifyQuery e q (fun _ => id) rfl).trans (tame_toggled ..)
  · exact .refl e

theorem tame_dropSubscription (e : Engine) (subscription : Option (QueryId × SubscriptionId)) :
    Tame e (e.dropSubscription subscription) := by
  cases subscription with
  | none => exact .refl e
  | some s => exact tame_modifyQuery e s.1 (fun _ hmem => (List.mem_filter.mp hmem).1) rfl

-- A timeline gives up its query.

theorem tame_endWork (e : Engine) (t : TimelineId) : Tame e (e.endWork t) :=
  (background_abortWork e t).tame.trans (tame_dropSubscription ..)

theorem tame_teardown (e : Engine) (t : TimelineId) : Tame e (e.teardown t).2 := by
  rw [teardown_eq]
  exact (tame_endWork e t).trans (tame_modifyTimeline _ id)

theorem tame_release (e : Engine) (target : Target) : Tame e (e.release target) := by
  cases target with
  | observer o => exact tame_of_queries rfl rfl fun _ => id
  | timeline t =>
      have hdrop : Tame e (e.dropHold t) := tame_modifyTimeline e id
      rw [release_eq]
      split
      · exact (hdrop.trans (tame_teardown _ t)).trans (tame_deactivations ..)
      · exact hdrop

theorem tame_close (e : Engine) (o : OperationId) (status : Status) :
    Tame e (e.close o status) := by
  unfold close
  split
  · exact (tame_setStatus ..).trans (tame_release ..)
  · exact .refl e

theorem tame_deactivate (e : Engine) (t : TimelineId) : Tame e (e.deactivate t) := by
  unfold deactivate
  split
  · exact (tame_teardown e t).trans (tame_deactivations ..)
  · exact .refl e

theorem tame_dispose (e : Engine) (t : TimelineId) : Tame e (e.dispose t) := by
  rw [dispose_eq]
  split
  · exact .refl e
  · have hended : Tame (e.endWork t) ((e.endWork t).modifyTimeline t ended) :=
      tame_modifyTimeline _ id
    exact ((tame_endWork e t).trans hended).trans
      (tame_deactivations_append _ _ (by simp [Frame.isCall]))

theorem tame_invalidate (e : Engine) (t : TimelineId) : Tame e (e.invalidate t) := by
  unfold invalidate
  split
  · exact .refl e
  · exact tame_invalidateNow e t

theorem tame_setQuery (e : Engine) (t : TimelineId) (query : Option QueryId) :
    Tame e (e.setQuery t query).2 := by
  rw [setQuery_eq]
  split
  · exact .refl e
  · have hleave : Tame e (e.leaveQuery t query) :=
      ((tame_dropSubscription ..).trans (tame_modifyTimeline _ id)).trans (tame_modifyTimeline _ id)
    refine (hleave.trans (tame_invalidateNow ..)).trans (tame_deactivations_append _ _ fun f hmem => ?_)
    cases query with
    | none => cases hmem
    | some q =>
        unfold attachment at hmem
        dsimp only at hmem
        split at hmem
        · simp only [List.mem_cons, List.not_mem_nil, or_false] at hmem
          rcases hmem with rfl | rfl <;> rfl
        · cases hmem

-- Operations and tasks.

theorem tame_addOperation (e : Engine) (t : TimelineId) (kind : OperationKind) :
    Tame e (e.addOperation t kind).2 := by
  have hadded : Tame e
      { e with operations := e.operations ++ [{ timeline := t, kind, status := .running }] } :=
    tame_of_queries rfl rfl fun _ => id
  exact hadded.trans (tame_retain _ (.timeline t))

theorem tame_launched (e : Engine) (t : TimelineId) (o : OperationId) :
    Tame e (e.launched t o) := by
  have hspawn : Tame e (e.spawn (.pump t (e.timeline t).stream)).2 :=
    tame_of_queries rfl rfl fun _ => id
  have hlaunch : Tame e (e.launch t) :=
    (hspawn.trans (background_modifyChannel ..).tame).trans (tame_modifyTimeline _ id)
  unfold launched
  split
  · exact hlaunch.trans (tame_push _ (by simp [Frame.isCall]))
  · exact hlaunch.trans (tame_prepare ..)

theorem tame_startActivation (e : Engine) (t : TimelineId) (hasRuntime : Bool) :
    Tame e (e.startActivation t hasRuntime).2 := by
  rcases startActivation_cases e t hasRuntime with ⟨-, -, heq⟩ | ⟨-, result, heq⟩
  · rw [heq]
    exact (tame_addOperation ..).trans (tame_launched ..)
  · rw [heq]
    exact (tame_addOperation ..).trans (tame_close ..)

theorem tame_startPage (e : Engine) (t : TimelineId) (before : Option ItemId) (limit : Nat) :
    Tame e (e.startPage t before limit).2 := by
  unfold startPage
  dsimp only
  split
  · exact (tame_addOperation ..).trans (tame_close ..)
  · exact (tame_addOperation ..).trans (tame_setStatus ..)

theorem tame_complete (e : Engine) (o : OperationId) (result : Except StorageError (List Item)) :
    Tame e (e.complete o result) := by
  cases completes e o result with
  | unasked hnone heq =>
      rw [heq]
      exact .refl e
  | ended hop hwhy heq =>
      rw [heq]
      exact tame_close ..
  | @merged t kind r items phase outcome hop hg hphase heq =>
      have hmerged : Tame e (e.modifyTimeline t fun T =>
          (({ T with phase } : Timeline).absorb items).1) :=
        tame_modifyTimeline e fun hnone => (caughtUp_absorb _ items).trans hnone
      rw [heq]
      exact hmerged.trans (tame_close ..)
  | rolledBack hop hg heq =>
      rw [heq]
      exact ((tame_setStatus e o .running).trans (tame_teardown ..)).trans
        (tame_deactivations_append _ _ (by simp [Frame.isCall]))

theorem tame_cancel (e : Engine) (o : OperationId) : Tame e (e.cancel o) := by
  unfold cancel
  split
  · exact tame_close ..
  · exact .refl e

theorem tame_completeTask (e : Engine) (k : TaskId) (result : Except StorageError (List Item)) :
    Tame e (e.completeTask k result) := by
  cases replenishes e k result with
  | background hb => exact hb.tame
  | filled hasks halive hg hb heq =>
      rw [heq]
      exact hb.tame.trans (tame_modifyTimeline _ (caughtUp_absorb (replenished _) _).trans)
  | failed hasks halive hg hb heq =>
      rw [heq]
      exact hb.tame.trans (tame_modifyTimeline _ id)

-- A live item makes a timeline get ahead only if its query has changed.
theorem tame_offer (hcurrent : (e.timeline t).phase.isActive = true → e.isStale t = false)
    (item : Item) : Tame e (e.offer t item).2 := by
  have hcatch (hactive : (e.timeline t).phase.isActive = true) : e.catchUp t = e := by
    unfold catchUp
    rw [if_neg (Bool.eq_false_iff.mp (hcurrent hactive))]
  rw [offer_eq]
  split
  · exact .refl e
  · rename_i hactive
    rw [hcatch (by simpa using hactive)]
    split
    · exact tame_modifyTimeline e (caughtUp_receive _ item).trans
    · exact .refl e

theorem tame_turn (hcurrent : ∀ t, (e.timeline t).phase.isActive = true → e.isStale t = false)
    (k : TaskId) : Tame e (e.turn k) := by
  cases polls e k with
  | background hb => exact hb.tame
  | @offered t s started item e₁ htask halive hitem hb heq =>
      rw [heq]
      refine hb.tame.trans (tame_offer (fun hactive => ?_) item)
      rw [hb.timeline] at hactive
      rw [← hcurrent t hactive]
      exact isStale_congr (by rw [hb.timeline]) (by rw [hb.timeline]) fun q => by rw [hb.query]
  | lagged htask halive hactive hmissed hb heq =>
      rw [heq]
      exact hb.tame.trans (tame_startRefetch ..)

theorem tame_addTimeline (e : Engine) (config : Config) (storage : StorageId) (stream : StreamId)
    (query : Option QueryId) (hasSink : Bool) :
    Tame e (e.addTimeline config storage stream query hasSink).2 := by
  unfold addTimeline
  dsimp only
  generalize hnew : ({ config, storage, stream, query, hasSink, buffer := .empty config.maxItems } :
    Timeline) = new
  have happended : Tame e { e with timelines := e.timelines ++ [new] } := by
    refine tame_of_queries rfl rfl fun t hnone => ?_
    rw [timeline_append]
    split
    · exact hnew ▸ rfl
    · exact hnone
  exact happended.trans (tame_recompile _ _)

theorem tame_addQuery (e : Engine) (expr : Expr) (source : Option String) :
    Tame e (e.addQuery { expr, source }).2 := by
  have hsame (q : QueryId) :
      ((e.addQuery { expr, source }).2.query q).registry = (e.query q).registry := by
    by_cases hq : q < e.queries.length
    · rw [query_append hq]
    · have hle := Nat.le_of_not_lt hq
      simp only [addQuery, query, List.getElem?_append_right hle, List.getElem?_eq_none hle]
      cases q - e.queries.length <;> rfl
  refine ⟨fun _ => id, fun q s hmem => ?_, fun q x hmem => ?_, [], rfl,
    fun _ hmem => absurd hmem List.not_mem_nil⟩
  · unfold subscriptions at hmem ⊢
    rwa [hsame q] at hmem
  · rwa [hsame q] at hmem

end FilteredFeed.Engine
