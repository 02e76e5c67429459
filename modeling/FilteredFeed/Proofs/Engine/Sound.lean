import FilteredFeed.Proofs.Engine.Changes

namespace FilteredFeed.Engine

open FilteredFeed.Feed FilteredFeed.Filter FilteredFeed.Listener FilteredFeed.Timeline
open FilteredFeed.Scenario (Asker)

variable [Patterns]
variable {arrives : TimelineId → Item → Prop} {e e' : Engine} {t : TimelineId}

-- What holds of requests in every run. A request of the generation that its timeline has asks for
-- what the filter in use accepts. An activation may still apply another filter under its
-- generation, and as long as it may, nothing was asked for under that generation.
structure Sound (e : Engine) : Prop where
  coherent : ∀ q, (e.query q).Coherent
  origin : ∀ t, ∃ expr : Expr, (e.timeline t).compiled = expr.compile
  ranged : ∀ a t r, e.asks a = some (t, r) → t < e.timelines.length
  earlier : ∀ a t r, e.asks a = some (t, r) → r.generation ≤ (e.timeline t).generation
  current : ∀ a t r, e.asks a = some (t, r) → r.generation = (e.timeline t).generation →
    r.text = (e.timeline t).compiled.queryText
  single : e.activations.length ≤ 1
  window : ∀ t q epoch o generation,
    .attach t q epoch (.activation o generation) ∈ e.stack →
      e.owner o = some t ∧ t < e.timelines.length ∧ generation ≤ (e.timeline t).generation ∧
        ((e.timeline t).generation = generation →
          ∀ a r, e.asks a = some (t, r) → r.generation < generation)

theorem mem_activations {f : Frame} : f ∈ e.activations ↔ f ∈ e.stack ∧ f.isActivation = true :=
  List.mem_filter

theorem Sound.changes (h : Sound e) (hc : Changes arrives e e') : Sound e' where
  coherent q := hc.coherent q (h.coherent q)
  origin t := by
    rcases hc.origin h.coherent t with ht | ht
    · exact ht ▸ h.origin t
    · exact ht
  ranged a t r hr := by
    rw [hc.size]
    rcases hc.asks a t r hr with hr | ⟨-, ht, -⟩
    · exact h.ranged a t r hr
    · exact ht
  earlier a t r hr := by
    rcases hc.asks a t r hr with hr | ⟨hr, -, -⟩
    · have hle := h.earlier a t r hr
      rcases hc.timeline t with ht | ht
      · exact ht.generation ▸ hle
      · exact Nat.le_of_lt (Nat.lt_of_le_of_lt hle ht.generation)
    · exact Nat.le_of_eq hr.1
  current a t r hr hg := by
    rcases hc.asks a t r hr with hr | ⟨hr, -, -⟩
    · have hle := h.earlier a t r hr
      rcases hc.timeline t with ht | ht
      · rw [ht.compiled]
        exact h.current a t r hr (hg.trans ht.generation)
      · have hlt := ht.generation
        omega
    · exact hr.2
  single := hc.activations ▸ h.single
  window t q epoch o generation hf := by
    have hf' : .attach t q epoch (.activation o generation) ∈ e'.activations :=
      mem_activations.mpr ⟨hf, rfl⟩
    rw [hc.activations] at hf'
    have hstack := (mem_activations.mp hf').1
    obtain ⟨ho, ht, hle, hw⟩ := h.window t q epoch o generation hstack
    refine ⟨hc.owner o t ho, hc.size ▸ ht, ?_, fun heq a r hr => ?_⟩
    · rcases hc.timeline t with hk | hk
      · exact hk.generation ▸ hle
      · exact Nat.le_of_lt (Nat.lt_of_le_of_lt hle hk.generation)
    -- under an unchanged generation nothing was asked for anew, since a call is running
    · have hsame : (e.timeline t).generation = generation := by
        rcases hc.timeline t with hk | hk
        · exact hk.generation ▸ heq
        · have hlt := hk.generation
          omega
      rcases hc.asks a t r hr with hr | ⟨-, -, hs | hlt⟩
      · exact hw hsame a r hr
      · rw [hs] at hstack
        cases hstack
      · omega

-- A frame is taken from the stack.
theorem Sound.pop (h : Sound e) {f : Frame} {rest : List Frame} (hs : e.stack = f :: rest) :
    Sound { e with stack := rest } where
  coherent := h.coherent
  origin := h.origin
  ranged := h.ranged
  earlier := h.earlier
  current := h.current
  single := by
    have hle := h.single
    simp only [activations, hs, List.filter_cons] at hle ⊢
    split at hle
    · exact Nat.le_of_succ_le hle
    · exact hle
  window t q epoch o generation hf := by
    have hf' : .attach t q epoch (.activation o generation) ∈ e.stack := by
      rw [hs]
      exact List.mem_cons_of_mem _ hf
    exact h.window t q epoch o generation hf'

-- The first items of an activation.

-- An activation applies the filter of its query as it is by now.
def prepared (e : Engine) (t : TimelineId) : Engine :=
  if e.isStale t then
    ((e.recompile t).modifyTimeline t fun timeline =>
      { timeline with
        unread := 0
        buffer := ((e.recompile t).timeline t).buffer.clear.1 }).emit t
      ((e.recompile t).timeline t).buffer.clear.2
  else e

theorem prepare_eq (e : Engine) (t : TimelineId) (o : OperationId) (generation : Nat) :
    e.prepare t o generation =
      if (e.timeline t).generation ≠ generation then e.push [.finish o (.ok .activated)]
      else (e.prepared t).setStatus o
        (.waiting { refill ((e.prepared t).timeline t) with generation }) := by
  unfold prepare prepared
  split
  · rfl
  · rfl

theorem within_prepared (e : Engine) (t : TimelineId) : Within t e (e.prepared t) := by
  unfold prepared
  split
  · refine Within.trans (Within.trans (within_recompile e t) ?_) (within_modifyTimeline ..)
    exact within_modifyTimeline ..
  · exact .refl t e

theorem jobs_prepared (e : Engine) (t : TimelineId) : (e.prepared t).jobs = e.jobs := by
  unfold prepared
  split
  · exact jobs_recompile e t
  · rfl

-- A timeline that is stale loses its items and applies the filter of its query. One that is not
-- stays as it is.
theorem timeline_prepared (ht : t < e.timelines.length) :
    e.isStale t = false ∧ (e.prepared t).timeline t = e.timeline t ∨
      e.isStale t = true ∧ ∃ events, (e.prepared t).timeline t =
        { e.timeline t with
          compiled := (e.current t).1
          compiledRevision := (e.current t).2
          unread := 0
          buffer := (e.timeline t).buffer.clear.1
          events } := by
  unfold prepared
  split
  · rename_i hstale
    refine .inr ⟨hstale, ?_⟩
    have hs := (within_recompile e t).size
    unfold emit
    rw [timeline_modifyTimeline_self (by simpa [modifyTimeline, hs] using ht),
      timeline_modifyTimeline_self (hs ▸ ht), timeline_recompile ht]
    exact emit_eq _ _
  · rename_i hstale
    exact .inl ⟨by simpa using hstale, rfl⟩

theorem generation_prepared (e : Engine) (t t' : TimelineId) :
    ((e.prepared t).timeline t').generation = (e.timeline t').generation := by
  have hw := within_prepared e t
  by_cases h : t' = t
  · subst h
    by_cases ht : t' < e.timelines.length
    · rcases timeline_prepared ht with ⟨-, hT⟩ | ⟨-, events, hT⟩
      · rw [hT]
      · rw [hT]
    · have hle := Nat.le_of_not_lt ht
      rw [timeline_of_le hle, timeline_of_le (hw.size ▸ hle)]
  · rw [hw.others t' h]

theorem asks_setStatus {o : OperationId} {request request' : FetchRequest} {a : Asker}
    (h : (e.setStatus o (.waiting request)).asks a = some (t, request')) :
    e.asks a = some (t, request') ∨ e.owner o = some t ∧ request' = request := by
  cases a with
  | task k => exact .inl h
  | operation o' =>
      simp only [asks, setStatus, List.getElem?_modify] at h ⊢
      by_cases heq : o = o'
      · subst heq
        cases hop : e.operations[o]? with
        | none => simp [hop] at h
        | some op =>
            obtain ⟨rfl, rfl⟩ : op.timeline = t ∧ request = request' := by simpa [hop] using h
            exact .inr ⟨by simp [owner, hop], rfl⟩
      · exact .inl (by simpa [heq] using h)

-- While a timeline has no request of its generation, another filter can be applied under it.
theorem Sound.recompile (h : Sound e) (ht : t < e.timelines.length)
    (hfree : ∀ a r, e.asks a = some (t, r) → r.generation < (e.timeline t).generation) :
    Sound (e.recompile t) := by
  have hw := within_recompile e t
  have hT := timeline_recompile ht
  have hasks (a : Asker) : (e.recompile t).asks a = e.asks a :=
    asks_congr hw.operations (jobs_recompile e t) a
  have hgen (t' : TimelineId) :
      ((e.recompile t).timeline t').generation = (e.timeline t').generation := by
    by_cases ht' : t' = t
    · rw [ht', hT]
    · rw [hw.others t' ht']
  refine ⟨fun q => (hw.query q).coherent (h.coherent q), ?_, ?_, ?_, ?_, ?_, ?_⟩
  · intro t'
    by_cases ht' : t' = t
    · rw [ht', hT]
      exact origin_current h.coherent t
    · exact hw.others t' ht' ▸ h.origin t'
  · intro a t' r hr
    exact hw.size ▸ h.ranged a t' r (hasks a ▸ hr)
  · intro a t' r hr
    exact hgen t' ▸ h.earlier a t' r (hasks a ▸ hr)
  · intro a t' r hr hcurrent
    rw [hasks] at hr
    rw [hgen] at hcurrent
    by_cases ht' : t' = t
    · subst ht'
      have hlt := hfree a r hr
      omega
    · rw [hw.others t' ht']
      exact h.current a t' r hr hcurrent
  · rw [activations, hw.stack]
    exact h.single
  · intro t' q epoch o generation hf
    rw [hw.stack] at hf
    simp only [owner_congr hw.operations, hw.size, hgen, hasks]
    exact h.window t' q epoch o generation hf

-- Emptying a timeline that goes on under its generation is calm.
theorem calm_emptyBuffer (arrives : TimelineId → Item → Prop) (e : Engine) (t : TimelineId) :
    Calm arrives e ((e.modifyTimeline t fun timeline =>
      { timeline with
        unread := 0
        buffer := (e.timeline t).buffer.clear.1 }).emit t (e.timeline t).buffer.clear.2) := by
  refine Calm.trans (calm_modifyTimeline e ⟨rfl, rfl, ?_⟩) (calm_emit ..)
  intro item hitem
  simp at hitem

theorem Sound.prepared (h : Sound e) (ht : t < e.timelines.length)
    (hfree : ∀ a r, e.asks a = some (t, r) → r.generation < (e.timeline t).generation) :
    Sound (e.prepared t) := by
  unfold Engine.prepared
  split
  · exact (h.recompile ht hfree).changes (calm_emptyBuffer Nothing _ t).changes
  · exact h

-- While no activation waits for the listeners of its query, an operation can ask for what is
-- current.
theorem Sound.wait (h : Sound e) {o : OperationId} {request : FetchRequest}
    (hnone : e.activations = []) (ho : e.owner o = some t) (ht : t < e.timelines.length)
    (hcurrent : e.IsCurrent t request) : Sound (e.setStatus o (.waiting request)) where
  coherent := h.coherent
  origin := h.origin
  ranged a t' r hr := by
    rcases asks_setStatus hr with hr | ⟨ho', -⟩
    · exact h.ranged a t' r hr
    · exact Option.some.inj (ho.symm.trans ho') ▸ ht
  earlier a t' r hr := by
    rcases asks_setStatus hr with hr | ⟨ho', rfl⟩
    · exact h.earlier a t' r hr
    · exact Option.some.inj (ho.symm.trans ho') ▸ Nat.le_of_eq hcurrent.1
  current a t' r hr hg := by
    rcases asks_setStatus hr with hr | ⟨ho', rfl⟩
    · exact h.current a t' r hr hg
    · exact Option.some.inj (ho.symm.trans ho') ▸ hcurrent.2
  single := h.single
  window t' q epoch o' generation hf := by
    have hf' : _ ∈ e.activations := mem_activations.mpr ⟨hf, rfl⟩
    rw [hnone] at hf'
    cases hf'

theorem Sound.prepare (h : Sound e) {o : OperationId} {generation : Nat}
    (hnone : e.activations = []) (ho : e.owner o = some t) (ht : t < e.timelines.length)
    (hfree : (e.timeline t).generation = generation →
      ∀ a r, e.asks a = some (t, r) → r.generation < generation) :
    Sound (e.prepare t o generation) := by
  rw [prepare_eq]
  split
  · have hc : Calm Nothing e (e.push [.finish o (.ok .activated)]) := calm_push e rfl
    exact h.changes hc.changes
  · rename_i hg
    have hg := Decidable.not_not.mp hg
    have hw := within_prepared e t
    have hprepared := h.prepared ht fun a r hr => hg ▸ hfree hg a r hr
    refine hprepared.wait (t := t) ?_ ?_ ?_ ?_
    · rw [activations, hw.stack]
      exact hnone
    · rw [owner_congr hw.operations, ho]
    · exact hw.size ▸ ht
    · exact ⟨(hg.symm.trans (generation_prepared e t t).symm), rfl⟩

-- Steps and calls.

theorem Sound.attach (h : Sound e) {rest : List Frame} {q : QueryId} {epoch o generation : Nat}
    (hs : e.stack = .attach t q epoch (.activation o generation) :: rest) :
    Sound (({ e with stack := rest } : Engine).attach t q epoch (.activation o generation)) := by
  have hpop := h.pop hs
  obtain ⟨ho, ht, hle, hfree⟩ := h.window t q epoch o generation (by simp [hs])
  have hnone : ({ e with stack := rest } : Engine).activations = [] := by
    have hsingle := h.single
    simp only [activations, hs, List.filter_cons, Frame.isActivation, if_true, List.length_cons]
      at hsingle
    exact List.length_eq_zero_iff.mp (by simp only [activations]; omega)
  rw [attach_eq]
  split
  · have hc : Calm Nothing { e with stack := rest }
        (({ e with stack := rest } : Engine).push [.deactivate q, .finish o (.ok .activated)]) :=
      calm_push _ rfl
    exact hpop.changes hc.changes
  · have hc := calm_enrol Nothing { e with stack := rest } t q
    refine (hpop.changes hc.changes).prepare (hc.activations.trans hnone) ?_ ?_ ?_
    · exact hc.owner o t ho
    · exact hc.size ▸ ht
    · intro hg a r hr
      exact hfree ((hc.timeline t).generation ▸ hg) a r (hc.asks a t r hr)

theorem timeline_append (e : Engine) (new : Timeline) (t : TimelineId) :
    ({ e with timelines := e.timelines ++ [new] } : Engine).timeline t =
      if t = e.timelines.length then new else e.timeline t := by
  rcases Nat.lt_trichotomy t e.timelines.length with h | h | h
  · simp [timeline, List.getElem?_append_left h, Nat.ne_of_lt h]
  · subst h
    simp [timeline]
  · simp [timeline, List.getElem?_append_right (Nat.le_of_lt h), Nat.ne_of_gt h,
      List.getElem?_eq_none (Nat.le_of_lt h), Nat.sub_ne_zero_of_lt h]

theorem Sound.appendTimeline (h : Sound e) {new : Timeline}
    (horigin : ∃ expr : Expr, new.compiled = expr.compile) :
    Sound { e with timelines := e.timelines ++ [new] } := by
  have hT (t : TimelineId) (ht : t < e.timelines.length) :
      ({ e with timelines := e.timelines ++ [new] } : Engine).timeline t = e.timeline t := by
    rw [timeline_append, if_neg (Nat.ne_of_lt ht)]
  refine ⟨h.coherent, ?_, ?_, ?_, ?_, h.single, ?_⟩
  · intro t
    rw [timeline_append]
    split
    · exact horigin
    · exact h.origin t
  · intro a t r hr
    exact Nat.lt_of_lt_of_le (h.ranged a t r hr) (by simp)
  · intro a t r hr
    exact hT t (h.ranged a t r hr) ▸ h.earlier a t r hr
  · intro a t r hr
    exact hT t (h.ranged a t r hr) ▸ h.current a t r hr
  · intro t q epoch o generation hf
    obtain ⟨ho, ht, hrest⟩ := h.window t q epoch o generation hf
    exact ⟨ho, Nat.lt_of_lt_of_le ht (by simp), hT t ht ▸ hrest⟩

theorem Sound.addTimeline (h : Sound e) (config : Config) (storage : StorageId)
    (stream : StreamId) (query : Option QueryId) (hasSink : Bool) :
    Sound (e.addTimeline config storage stream query hasSink).2 := by
  apply (h.appendTimeline ⟨.contradiction, rfl⟩).recompile
  · simp
  · intro a r hr
    exact absurd (h.ranged a _ r hr) (Nat.lt_irrefl _)

-- The pump of a timeline is started, and the timeline is activating under a new generation.
def launch (e : Engine) (t : TimelineId) : Engine :=
  ((e.spawn (.pump t (e.timeline t).stream)).2.modifyChannel (e.timeline t).stream
    (·.subscribe e.tasks.length)).modifyTimeline t fun timeline =>
      { timeline with
        phase := .activating
        generation := (e.timeline t).generation + 1
        pump := some e.tasks.length
        hasRuntime := true }

-- How an activation goes on after its operation was made.
def launched (e : Engine) (t : TimelineId) (o : OperationId) : Engine :=
  match (e.timeline t).query with
  | some q =>
      (e.launch t).push [.activate q, .attach t q (e.timeline t).epoch
        (.activation o ((e.timeline t).generation + 1))]
  | none => (e.launch t).prepare t o ((e.timeline t).generation + 1)

theorem startActivation_cases (e : Engine) (t : TimelineId) (hasRuntime : Bool) :
    ((e.timeline t).phase = .inactive ∧ hasRuntime = true ∧
      (e.startActivation t hasRuntime).2 =
        (e.addOperation t .activation).2.launched t e.operations.length) ∨
    (((e.timeline t).phase ≠ .inactive ∨ hasRuntime = false) ∧
      ∃ result, (e.startActivation t hasRuntime).2 =
        (e.addOperation t .activation).2.close e.operations.length (.done result)) := by
  have hphase : ((e.addOperation t .activation).2.timeline t).phase = (e.timeline t).phase := by
    change ((e.retain (.timeline t)).timeline t).phase = _
    rcases timeline_modifyTimeline e t t
      (fun timeline => { timeline with holders := timeline.holders + 1 }) with h | ⟨-, h⟩
    · exact congrArg Timeline.phase h
    · exact (congrArg Timeline.phase h).trans rfl
  by_cases hd : (e.timeline t).phase = .disposed
  · refine .inr ⟨.inl (by rw [hd]; decide), .error .disposed, ?_⟩
    simp only [startActivation, hphase, hd]
    rfl
  · by_cases hi : (e.timeline t).phase = .inactive
    · cases hasRuntime with
      | false =>
          refine .inr ⟨.inr rfl, .error .noRuntime, ?_⟩
          simp only [startActivation, hphase, hi]
          rfl
      | true =>
          refine .inl ⟨hi, rfl, ?_⟩
          simp only [startActivation, hphase, hi, reduceCtorEq, if_false, ne_eq,
            not_true_eq_false, Bool.not_true, Bool.false_eq_true, Engine.launched]
          cases ((e.addOperation t .activation).2.timeline t).query <;> rfl
    · refine .inr ⟨.inl hi, .ok .activated, ?_⟩
      simp only [startActivation, hphase, hd, hi, if_false, ne_eq, not_false_eq_true, if_true]
      rfl

theorem changes_launch (arrives : TimelineId → Item → Prop) (e : Engine) (t : TimelineId) :
    Changes arrives e (e.launch t) := by
  unfold launch
  refine Calm.trans_changes ?_ (changes_modifyTimeline _ ?_ (.inl rfl))
  · exact (calm_spawnPump arrives e t _).trans (background_modifyChannel ..).calm
  · exact ⟨Nat.lt_succ_self _, fun _ h => .inl ⟨.inl h, rfl⟩⟩

theorem timeline_launch (ht : t < e.timelines.length) :
    (e.launch t).timeline t =
      { e.timeline t with
        phase := .activating
        generation := (e.timeline t).generation + 1
        pump := some e.tasks.length
        hasRuntime := true } :=
  timeline_modifyTimeline_self ht _

theorem asks_launch (e : Engine) (t : TimelineId) {t' : TimelineId} {a : Asker}
    {r : FetchRequest} (h : (e.launch t).asks a = some (t', r)) : e.asks a = some (t', r) :=
  (calm_spawnPump Nothing e t (e.timeline t).stream).asks a t' r h

theorem Sound.launched (h : Sound e) {o : OperationId} (hs : e.stack = [])
    (ho : e.owner o = some t) (ht : t < e.timelines.length) : Sound (e.launched t o) := by
  have hlaunch := h.changes (changes_launch Nothing e t)
  have hnone : (e.launch t).activations = [] := by
    rw [(changes_launch Nothing e t).activations, activations, hs]
    rfl
  have hT := timeline_launch ht
  have hfree : ∀ a r, (e.launch t).asks a = some (t, r) →
      r.generation < (e.timeline t).generation + 1 :=
    fun a r hr => Nat.lt_succ_of_le (h.earlier a t r (asks_launch e t hr))
  have ht' : t < (e.launch t).timelines.length :=
    (changes_launch Nothing e t).size ▸ ht
  unfold Engine.launched
  split
  · rename_i q hq
    refine ⟨hlaunch.coherent, hlaunch.origin, hlaunch.ranged, hlaunch.earlier, hlaunch.current,
      ?_, ?_⟩
    · rw [activations, push, List.filter_append]
      rw [show (e.launch t).stack.filter Frame.isActivation = [] from hnone]
      exact Nat.le_refl 1
    · intro t' q' epoch o' generation hf
      rcases List.mem_append.mp hf with hf | hf
      · obtain ⟨rfl, rfl, rfl, rfl, rfl⟩ : t' = t ∧ q' = q ∧ epoch = (e.timeline t).epoch ∧
            o' = o ∧ generation = (e.timeline t).generation + 1 := by simpa using hf
        refine ⟨ho, ht', Nat.le_of_eq ?_, fun _ => hfree⟩
        exact (congrArg Timeline.generation hT).symm
      · have hf' : _ ∈ (e.launch t).activations := mem_activations.mpr ⟨hf, rfl⟩
        rw [hnone] at hf'
        cases hf'
  · exact hlaunch.prepare hnone ho ht' fun _ => hfree

theorem Sound.startActivation (h : Sound e) (hs : e.stack = []) (ht : t < e.timelines.length)
    (hasRuntime : Bool) : Sound (e.startActivation t hasRuntime).2 := by
  have hc := calm_addOperation Nothing e t .activation
  have hadd := h.changes hc.changes
  rcases startActivation_cases e t hasRuntime with ⟨-, -, heq⟩ | ⟨-, result, heq⟩
  · rw [heq]
    exact hadd.launched hs (owner_addOperation e t .activation) (hc.size ▸ ht)
  · rw [heq]
    exact hadd.changes (changes_close Nothing _ _ fun _ => nofun)

theorem Sound.startPage (h : Sound e) (hs : e.stack = []) (ht : t < e.timelines.length)
    (before : Option ItemId) (limit : Nat) : Sound (e.startPage t before limit).2 := by
  have hc := calm_addOperation Nothing e t .page
  have hadd := h.changes hc.changes
  unfold Engine.startPage
  dsimp only
  split
  · exact hadd.changes (changes_close Nothing _ _ fun _ => nofun)
  · refine hadd.wait ?_ (owner_addOperation e t .page) (hc.size ▸ ht) ⟨rfl, rfl⟩
    rw [hc.activations, activations, hs]
    rfl

theorem Sound.step (h : Sound e) (hallows : e.allows .step = true) : Sound (e.after .step) := by
  obtain ⟨frame, rest, hs, -, hafter⟩ := after_step hallows
  rw [hafter]
  cases hactivation : frame.isActivation with
  | false => exact (h.pop hs).changes (changes_perform Nothing _ hactivation)
  | true =>
      obtain ⟨t, q, epoch, o, generation, rfl⟩ := Frame.attach_of_isActivation hactivation
      exact h.attach hs

theorem Sound.leaveObserver (h : Sound e) : Sound e.leaveObserver := by
  unfold Engine.leaveObserver
  split
  · rename_i hs
    exact h.pop hs
  · exact h

theorem isAlive_lt (h : e.isAlive (.timeline t) = true) : t < e.timelines.length := by
  apply Nat.lt_of_not_le
  intro hle
  simp [isAlive, List.getElem?_eq_none hle] at h

theorem holders_pos (halive : e.isAlive (.timeline t) = true) : 0 < (e.timeline t).holders := by
  simpa [isAlive, timeline, List.getElem?_eq_getElem (isAlive_lt halive)] using halive

theorem sound_init : Sound {} where
  coherent q := by simp [query, Query.Coherent, default]
  origin t := ⟨.contradiction, rfl⟩
  ranged a t r hr := by cases a <;> simp [asks, jobs] at hr
  earlier a t r hr := by cases a <;> simp [asks, jobs] at hr
  current a t r hr := by cases a <;> simp [asks, jobs] at hr
  single := Nat.zero_le _
  window t q epoch o generation hf := by cases hf

end FilteredFeed.Engine
