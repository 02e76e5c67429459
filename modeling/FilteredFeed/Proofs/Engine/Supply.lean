import FilteredFeed.Proofs.Engine.Feeding
import FilteredFeed.Proofs.Feed.Storage

namespace FilteredFeed.Engine

open FilteredFeed.Feed FilteredFeed.Filter FilteredFeed.Timeline

variable [Patterns]

-- A timeline on a stream of its own, the storage behind it, and items that are put into storage and
-- published after that.
structure Supply where
  engine : Engine
  storage : Storage
  -- stored, and still to be published
  unsent : List Item := []
  -- what storage has answered to tasks
  answers : List (TaskId × Except StorageError (List Item)) := []

-- Whether a task has made its request and not ended. An abort does not stop it before it would wait
-- again, so that its answer may still come.
def isFetching (e : Engine) (k : TaskId) : Bool :=
  match e.tasks[k]? with
  | some ⟨.refetch _ _, true, _, false⟩ => true
  | _ => false

namespace Supply

-- What can happen, in any order.
inductive Act where
  | store (item : Item)
  | publish (item : Item)
  -- a task goes on, the pump by one item
  | turn (k : TaskId)
  -- storage runs the query of a task
  | read (k : TaskId)
  -- a task goes on with what storage has answered
  | deliver (k : TaskId)

def Act.stored? : Act → Option Item
  | .store item => some item
  | .publish _ | .turn _ | .read _ | .deliver _ => none

def after (w : Supply) : Act → Supply
  | .store item => { w with storage := w.storage.insert item, unsent := w.unsent ++ [item] }
  | .publish item =>
      { w with engine := w.engine.after (.publish 0 item), unsent := w.unsent.erase item }
  | .turn k => { w with engine := w.engine.after (.turn k) }
  | .read k =>
      match w.engine.asks (.task k) with
      | some (_, request) =>
          let (result, storage) :=
            w.storage.query request.text request.before (some request.limit)
          { w with storage, answers := (k, result) :: w.answers }
      | none => w
  | .deliver k =>
      match w.answers.lookup k with
      | some result => { w with engine := w.engine.after (.answer (.task k) result) }
      | none => w

-- Every item has an id of its own, and is stored before it is published. Storage answers a task
-- once.
def allows (w : Supply) : Act → Bool
  | .store item => w.storage.items.all (·.id != item.id)
  | .publish item => w.unsent.contains item && w.engine.allows (.publish 0 item)
  | .turn k => w.engine.allows (.turn k)
  | .read k => w.engine.isFetching k && (w.answers.lookup k).isNone
  | .deliver k => w.engine.isFetching k && (w.answers.lookup k).isSome

def replay (w : Supply) (acts : List Act) : Supply := acts.foldl after w

-- Every act of a run can happen.
def Runs (w : Supply) : List Act → Prop
  | [] => True
  | act :: acts => w.allows act = true ∧ (w.after act).Runs acts

instance decidableRuns : (w : Supply) → (acts : List Act) → Decidable (w.Runs acts)
  | _, [] => .isTrue trivial
  | w, act :: acts =>
      have := decidableRuns (w.after act) acts
      inferInstanceAs (Decidable (w.allows act = true ∧ (w.after act).Runs acts))

-- Everything stored was published, nothing is left for the pump, and all tasks but the pump have
-- ended.
def IsResting (w : Supply) : Prop :=
  w.unsent = [] ∧ (w.engine.channel 0).backlog 0 = 0 ∧
    ∀ task ∈ w.engine.tasks.tail, task.finished = true

instance (w : Supply) : Decidable w.IsResting := inferInstanceAs (Decidable (_ ∧ _ ∧ _))

variable {w : Supply} {expr : Expr} {config : Config} {pending : List Item} {x item : Item}
variable {k : TaskId}

def items (w : Supply) : List Item := (w.engine.timeline 0).buffer.items

-- The filter accepts an item that storage holds.
def Wants (w : Supply) (expr : Expr) (x : Item) : Prop :=
  x ∈ w.storage.items ∧ expr.compile.accepts x = true

-- A task will still see to it that an item is covered: what storage has answered to it covers the
-- item, or storage has not answered yet.
def Owes (w : Supply) (config : Config) (x : Item) : Prop :=
  ∃ k job started, k ≠ 0 ∧ w.engine.tasks[k]? = some ⟨job, started, false, false⟩ ∧
    ∀ items, w.answers.lookup k = some (.ok items) → Covers config.backfillCount items x

-- Every item that is wanted is covered by the buffer, or is on a way on which it will be.
structure Accounts (w : Supply) (expr : Expr) (config : Config) (pending : List Item) : Prop where
  feeds : w.engine.Feeds expr config pending
  distinct : Distinct w.storage.items
  stored : ∀ x, x ∈ w.unsent ∨ x ∈ pending → x ∈ w.storage.items
  sound : ∀ x ∈ w.items, w.Wants expr x
  answers : ∀ k result, (k, result) ∈ w.answers → k < w.engine.tasks.length ∧
    ∃ items, result = .ok items ∧ Descending items ∧ ∀ x ∈ items, w.Wants expr x
  covered : ∀ x, w.Wants expr x →
    Covers config.maxItems w.items x ∨ x ∈ w.unsent ∨ x ∈ pending ∨ w.Owes config x

theorem Accounts.lookup_new (h : w.Accounts expr config pending)
    (hk : w.engine.tasks.length ≤ k) : w.answers.lookup k = none := by
  refine List.lookup_eq_none_iff.mpr fun answer hmem => ?_
  have hlt := (h.answers answer.1 answer.2 hmem).1
  exact bne_iff_ne.mpr (Nat.ne_of_gt (Nat.lt_of_lt_of_le hlt hk))

-- Wanted items of the same id are the same.
theorem Accounts.same (h : w.Accounts expr config pending) {batch : List Item}
    (hbatch : ∀ y ∈ batch, w.Wants expr y) (hx : w.Wants expr x) :
    ∀ y ∈ batch, x.id = y.id → x = y := fun y hy hid =>
  h.distinct.eq_of_id hx.1 (hbatch y hy).1 hid

-- What a task owes it owes as long as it is neither aborted nor ended, whether it was started or not.
theorem Owes.mono {e' : Engine} (h : w.Owes config x)
    (htasks : ∀ (k : TaskId) (job : Job) (started : Bool),
      w.engine.tasks[k]? = some ⟨job, started, false, false⟩ →
        ∃ started', e'.tasks[k]? = some ⟨job, started', false, false⟩) :
    ({ w with engine := e' } : Supply).Owes config x := by
  obtain ⟨k, job, started, hk, htask, hanswer⟩ := h
  obtain ⟨started', htask'⟩ := htasks k job started htask
  exact ⟨k, job, started', hk, htask', hanswer⟩

theorem Owes.of_tasks {e' : Engine} (h : w.Owes config x) (htasks : e'.tasks = w.engine.tasks) :
    ({ w with engine := e' } : Supply).Owes config x :=
  h.mono fun _ _ started htask => ⟨started, htasks ▸ htask⟩

-- While nothing is stored, nothing else is wanted.
theorem Accounts.withEngine (h : w.Accounts expr config pending) {e' : Engine}
    {pending' : List Item} (hfeeds : e'.Feeds expr config pending')
    (hpending : ∀ x ∈ pending', x ∈ pending)
    (hlength : w.engine.tasks.length ≤ e'.tasks.length)
    (hsound : ∀ x ∈ (e'.timeline 0).buffer.items, w.Wants expr x)
    (hcovered : ∀ x, w.Wants expr x → Covers config.maxItems (e'.timeline 0).buffer.items x ∨
      x ∈ w.unsent ∨ x ∈ pending' ∨ ({ w with engine := e' } : Supply).Owes config x) :
    ({ w with engine := e' } : Supply).Accounts expr config pending' where
  feeds := hfeeds
  distinct := h.distinct
  stored x hx := h.stored x (hx.imp_right (hpending x))
  sound := hsound
  answers k result hmem :=
    ⟨Nat.lt_of_lt_of_le (h.answers k result hmem).1 hlength, (h.answers k result hmem).2⟩
  covered := hcovered

theorem Accounts.store (h : w.Accounts expr config pending)
    (hallows : w.allows (.store item) = true) :
    (w.after (.store item)).Accounts expr config pending ∧
      (w.after (.store item)).storage.items = w.storage.items ++ [item] := by
  have hnew : ∀ y ∈ w.storage.items, y.id ≠ item.id := fun y hy =>
    bne_iff_ne.mp (List.all_eq_true.mp hallows y hy)
  have hitems : (w.after (.store item)).storage.items = w.storage.items ++ [item] :=
    Storage.store_of_new hnew
  have hwants (y : Item) (hy : w.Wants expr y) : (w.after (.store item)).Wants expr y :=
    ⟨hitems ▸ List.mem_append_left _ hy.1, hy.2⟩
  refine ⟨⟨h.feeds, ?_, fun y hy => ?_, fun y hy => hwants y (h.sound y hy),
    fun k result hmem => ?_, fun y hy => ?_⟩, hitems⟩
  · rw [hitems]
    exact List.pairwise_append.mpr ⟨h.distinct, List.pairwise_singleton .., fun y hy z hz =>
      List.mem_singleton.mp hz ▸ hnew y hy⟩
  · rw [hitems]
    rcases hy with hunsent | hpending
    · rcases List.mem_append.mp hunsent with hold | hself
      · exact List.mem_append_left _ (h.stored y (.inl hold))
      · exact List.mem_append_right _ hself
    · exact List.mem_append_left _ (h.stored y (.inr hpending))
  · obtain ⟨hlt, items, hok, hd, hall⟩ := h.answers k result hmem
    exact ⟨hlt, items, hok, hd, fun y hy => hwants y (hall y hy)⟩
  · obtain ⟨hmem, haccepts⟩ := hy
    rw [hitems] at hmem
    rcases List.mem_append.mp hmem with hold | hself
    · rcases h.covered y ⟨hold, haccepts⟩ with hcovers | hunsent | hpending | howes
      · exact .inl hcovers
      · exact .inr (.inl (List.mem_append_left _ hunsent))
      · exact .inr (.inr (.inl hpending))
      · exact .inr (.inr (.inr howes))
    · exact .inr (.inl (List.mem_append_right _ hself))

theorem Accounts.publish (h : w.Accounts expr config pending)
    (hallows : w.allows (.publish item) = true) :
    (w.after (.publish item)).Accounts expr config (pending ++ [item]) := by
  have hitem : item ∈ w.unsent := by
    have hboth := Bool.and_eq_true_iff.mp hallows
    simpa using hboth.1
  obtain ⟨hfeeds, htimeline, htasks⟩ := h.feeds.publish item
  have hitems : (w.after (.publish item)).items = w.items :=
    congrArg (fun T => T.buffer.items) htimeline
  refine ⟨hfeeds, h.distinct, fun y hy => ?_, hitems ▸ h.sound, fun k result hmem => ?_,
    fun y hy => ?_⟩
  · rcases hy with hunsent | hpending
    · exact h.stored y (.inl (List.mem_of_mem_erase hunsent))
    · rcases List.mem_append.mp hpending with hold | hself
      · exact h.stored y (.inr hold)
      · exact h.stored y (.inl (List.mem_singleton.mp hself ▸ hitem))
  · change k < (w.engine.publish 0 item).2.tasks.length ∧ _
    rw [htasks]
    exact h.answers k result hmem
  · rcases h.covered y hy with hcovers | hunsent | hpending | howes
    · exact .inl (hitems ▸ hcovers)
    · by_cases hself : y = item
      · exact .inr (.inr (.inl (List.mem_append_right _ (List.mem_singleton.mpr hself))))
      · exact .inr (.inl ((List.mem_erase_of_ne hself).mpr hunsent))
    · exact .inr (.inr (.inl (List.mem_append_left _ hpending)))
    · exact .inr (.inr (.inr (howes.of_tasks htasks)))

-- A batch of wanted items covers what it brings, and uncovers nothing.
theorem Accounts.merge (h : w.Accounts expr config pending) {batch : List Item}
    (hbatch : ∀ y ∈ batch, w.Wants expr y) {buffer : Buffer}
    (hbuffer : buffer = ((w.engine.timeline 0).buffer.merge batch).1) :
    (∀ y ∈ buffer.items, w.Wants expr y) ∧
      ∀ y, w.Wants expr y → y ∈ batch ∨ Covers config.maxItems w.items y →
        Covers config.maxItems buffer.items y := by
  subst hbuffer
  refine ⟨fun y hy => (Buffer.mem_merge hy).elim (h.sound y) (hbatch y), fun y hy hin => ?_⟩
  have hbound := h.feeds.live.maxItems
  rw [← hbound] at hin ⊢
  exact Buffer.covers_merge hin (h.same hbatch hy)

-- An item that the pump takes is covered from then on, if it is wanted.
theorem Accounts.take (h : w.Accounts expr config pending) (hitem : item ∈ w.storage.items)
    {T : Timeline} (hT : T = if expr.compile.accepts item then (w.engine.timeline 0).receive item
      else w.engine.timeline 0) :
    (∀ y ∈ T.buffer.items, w.Wants expr y) ∧
      ∀ y, w.Wants expr y → y = item ∨ Covers config.maxItems w.items y →
        Covers config.maxItems T.buffer.items y := by
  cases haccepts : expr.compile.accepts item with
  | true =>
      have hbatch : ∀ y ∈ [item], w.Wants expr y := fun y hy =>
        List.mem_singleton.mp hy ▸ ⟨hitem, haccepts⟩
      have hbuffer : T.buffer = ((w.engine.timeline 0).buffer.merge [item]).1 := by
        obtain ⟨events, unread, notified, hreceive⟩ := receive_eq (w.engine.timeline 0) item
        rw [hT, haccepts, if_pos rfl, hreceive]
      obtain ⟨hsound, hcovers⟩ := h.merge hbatch hbuffer
      exact ⟨hsound, fun y hy hin => hcovers y hy (hin.imp_left List.mem_singleton.mpr)⟩
  | false =>
      rw [haccepts, if_neg Bool.false_ne_true] at hT
      refine ⟨hT ▸ h.sound, fun y hy hin => hT ▸ hin.resolve_left ?_⟩
      rintro rfl
      exact Bool.false_ne_true (haccepts.symm.trans hy.2)

-- The pump takes an item, or has a task fetch what it has missed.
theorem Accounts.pump (h : w.Accounts expr config pending) :
    ∃ rest, (w.after (.turn 0)).Accounts expr config rest ∧
      (pending = [] ∧ rest = [] ∨ rest.length < pending.length) := by
  have hpumped := h.feeds.pumped
  change ∃ rest, ({ w with engine := w.engine.turn 0 } : Supply).Accounts expr config rest ∧ _
  generalize w.engine.turn 0 = e' at hpumped
  cases hpumped with
  | waits _ hfeeds htimeline htasks =>
      refine ⟨[], ?_, .inl ⟨rfl, rfl⟩⟩
      refine h.withEngine hfeeds (fun _ => id) (Nat.le_of_eq (htasks ▸ rfl)) ?_ fun y hy => ?_
      · rw [htimeline]
        exact h.sound
      · rw [htimeline]
        exact (h.covered y hy).imp_right (.imp_right (.imp_right (·.of_tasks htasks)))
  | takes _ item rest hfeeds htimeline htasks =>
      refine ⟨rest, ?_, .inr (Nat.lt_succ_self _)⟩
      have hstored : item ∈ w.storage.items := h.stored item (.inr List.mem_cons_self)
      have hlength := Nat.le_of_eq (congrArg List.length htasks.symm)
      obtain ⟨hsound, hcovers⟩ := h.take hstored htimeline
      refine h.withEngine hfeeds (fun _ => List.mem_cons_of_mem _) hlength hsound fun y hy => ?_
      rcases h.covered y hy with hold | hunsent | hpending | howes
      · exact .inl (hcovers y hy (.inr hold))
      · exact .inr (.inl hunsent)
      · rcases List.mem_cons.mp hpending with rfl | hrest
        · exact .inl (hcovers y hy (.inl rfl))
        · exact .inr (.inr (.inl hrest))
      · exact .inr (.inr (.inr (howes.of_tasks htasks)))
  | lags _ missed rest before hmissed hfeeds hbuffer htasks hlength =>
      refine ⟨rest, ?_, .inr ?_⟩
      · refine h.withEngine hfeeds (fun _ => List.mem_append_right _) ?_ ?_ fun y hy => ?_
        · rw [htasks, List.length_append, hlength]
          exact Nat.le_add_right ..
        · rw [hbuffer]
          exact h.sound
        · -- storage has not answered the new task, which will ask for everything
          have hpos : before.length ≠ 0 :=
            hlength ▸ Nat.ne_of_gt h.feeds.crew.length_pos
          have htask : e'.tasks[before.length]? = some { job := .refetch 0 (order expr config) } := by
            rw [htasks, List.getElem?_concat_length]
          refine .inr (.inr (.inr ⟨before.length, _, _, hpos, htask, fun items hanswer => ?_⟩))
          have hnone := h.lookup_new (Nat.le_of_eq hlength.symm)
          exact nomatch hnone.symm.trans hanswer
      · rw [List.length_append]
        exact Nat.lt_add_of_pos_left (List.length_pos_iff.mpr hmissed)

-- A task other than the pump begins, or goes away, or does nothing more.
theorem Accounts.begin (h : w.Accounts expr config pending) (hk : k ≠ 0) :
    (w.after (.turn k)).Accounts expr config pending := by
  change ({ w with engine := w.engine.turn k } : Supply).Accounts expr config pending
  cases htask : w.engine.tasks[k]? with
  | none =>
      have hturn : w.engine.turn k = w.engine := by simp [turn, htask, poll]
      rw [hturn]
      exact h
  | some task =>
      obtain ⟨job, started, aborted, finished⟩ := task
      obtain rfl := h.feeds.crew.refetches k _ htask hk
      cases finished with
      | true =>
          have hturn : w.engine.turn k = w.engine := by simp [turn, htask, poll]
          rw [hturn]
          exact h
      | false =>
          obtain ⟨hfeeds, htimeline, htasks⟩ := h.feeds.begins hk htask
          refine h.withEngine hfeeds (fun _ => id) ?_ ?_ fun y hy => ?_
          · rw [htasks, List.length_modify]
          · rw [htimeline]
            exact h.sound
          · rw [htimeline]
            refine (h.covered y hy).imp_right (.imp_right (.imp_right (·.mono ?_)))
            intro k' job started' htask'
            rw [htasks, List.getElem?_modify, htask']
            by_cases heq : k = k'
            · subst heq
              cases htask.symm.trans htask'
              exact ⟨true, by simp⟩
            · exact ⟨started', by simp [heq]⟩

theorem isFetching_eq {e : Engine} (h : e.isFetching k = true) :
    ∃ t request aborted, e.tasks[k]? = some ⟨.refetch t request, true, aborted, false⟩ := by
  unfold isFetching at h
  split at h
  · exact ⟨_, _, _, ‹_›⟩
  · cases h

-- A task that fetches asks for the newest items that the filter accepts.
theorem Accounts.fetching (h : w.Accounts expr config pending)
    (hfetching : w.engine.isFetching k = true) : k ≠ 0 ∧ ∃ aborted,
      w.engine.tasks[k]? = some ⟨.refetch 0 (order expr config), true, aborted, false⟩ := by
  obtain ⟨t, request, aborted, htask⟩ := isFetching_eq hfetching
  have hk : k ≠ 0 := by
    rintro rfl
    obtain ⟨started, hpump⟩ := h.feeds.crew.pump
    cases hpump.symm.trans htask
  obtain ⟨rfl, rfl⟩ := Job.refetch.inj (h.feeds.crew.refetches k _ htask hk)
  exact ⟨hk, aborted, htask⟩

theorem Accounts.after_read (h : w.Accounts expr config pending)
    (hfetching : w.engine.isFetching k = true) :
    ∃ storage, storage.items = w.storage.items ∧ w.after (.read k) =
      { w with
        storage
        answers := (k, .ok (w.storage.newest expr config.backfillCount)) :: w.answers } := by
  obtain ⟨hk, aborted, htask⟩ := h.fetching hfetching
  have hasks := asks_of_task htask
  refine ⟨(w.storage.query expr.compile.queryText none (some config.backfillCount)).2,
    Storage.items_query .., ?_⟩
  rw [← Storage.query_compile]
  simp only [after, hasks]
  rfl

-- What storage answers covers everything that is wanted.
theorem Accounts.read (h : w.Accounts expr config pending)
    (hallows : w.allows (.read k) = true) :
    (w.after (.read k)).Accounts expr config pending ∧
      (w.after (.read k)).storage.items = w.storage.items := by
  obtain ⟨hfetching, -⟩ := Bool.and_eq_true_iff.mp hallows
  obtain ⟨hk, aborted, htask⟩ := h.fetching hfetching
  obtain ⟨storage, hkept, hafter⟩ := h.after_read hfetching
  have hnewest : IsNewest config.backfillCount (w.Wants expr) _ :=
    Storage.isNewest_newest h.distinct expr _
  have hwants (y : Item) (hy : w.Wants expr y) : (w.after (.read k)).Wants expr y := by
    rw [hafter]
    exact ⟨hkept ▸ hy.1, hy.2⟩
  rw [hafter] at hwants ⊢
  refine ⟨⟨h.feeds, ?_, fun y hy => ?_, fun y hy => hwants y (h.sound y hy),
    fun k' result hmem => ?_, fun y hy => ?_⟩, hkept⟩
  · exact hkept ▸ h.distinct
  · exact hkept ▸ h.stored y hy
  · rcases List.mem_cons.mp hmem with heq | hmem
    · cases heq
      exact ⟨(List.getElem?_eq_some_iff.mp htask).1, _, rfl, hnewest.descending,
        fun y hy => hwants y (hnewest.sound y hy)⟩
    · obtain ⟨hlt, items, hok, hdescending, hall⟩ := h.answers k' result hmem
      exact ⟨hlt, items, hok, hdescending, fun y hy => hwants y (hall y hy)⟩
  · have hy' : w.Wants expr y := ⟨hkept ▸ hy.1, hy.2⟩
    refine (h.covered y hy').imp_right (.imp_right (.imp_right ?_))
    rintro ⟨k', job, started, hk', htask', hanswer⟩
    refine ⟨k', job, started, hk', htask', fun items hlookup => ?_⟩
    by_cases heq : k' = k
    · subst heq
      rw [List.lookup_cons_self] at hlookup
      cases hlookup
      exact hnewest.covers y hy'
    · rw [List.lookup_cons, beq_false_of_ne heq] at hlookup
      exact hanswer items hlookup

-- A task goes on with an answer, which covers what the task owed, and ends.
theorem Accounts.deliver (h : w.Accounts expr config pending)
    (hcount : config.maxItems ≤ config.backfillCount)
    (hallows : w.allows (.deliver k) = true) :
    (w.after (.deliver k)).Accounts expr config pending ∧
      (w.after (.deliver k)).engine.tasks =
        w.engine.tasks.modify k fun task => { task with finished := true } := by
  obtain ⟨hfetching, hsome⟩ := Bool.and_eq_true_iff.mp hallows
  obtain ⟨hk, aborted, htask⟩ := h.fetching hfetching
  obtain ⟨result, hlookup⟩ := Option.isSome_iff_exists.mp hsome
  obtain ⟨earlier, later, hanswers, -⟩ := List.lookup_eq_some_iff.mp hlookup
  have hmem : (k, result) ∈ w.answers := hanswers ▸ List.mem_append_right _ List.mem_cons_self
  obtain ⟨-, found, rfl, hdescending, hfound⟩ := h.answers k result hmem
  obtain ⟨hfeeds, hbuffer, htasks⟩ := h.feeds.answered hk htask found
  have hafter : w.after (.deliver k) =
      { w with engine := w.engine.completeTask k (.ok found) } := by
    simp only [after, hlookup]
    rfl
  obtain ⟨hsound, hcovers⟩ := h.merge hfound hbuffer
  rw [hafter]
  refine ⟨?_, htasks⟩
  refine h.withEngine hfeeds (fun _ => id) ?_ hsound fun y hy => ?_
  · rw [htasks, List.length_modify]
  · rcases h.covered y hy with hold | hunsent | hpending | ⟨k', job, started, hk', htask', hanswer⟩
    · exact .inl (hcovers y hy (.inr hold))
    · exact .inr (.inl hunsent)
    · exact .inr (.inr (.inl hpending))
    · by_cases heq : k = k'
      · -- what the task owed comes with its answer, or has no place beside it
        subst heq
        refine .inl ((hanswer found hlookup).trans hcount hdescending fun z hz => ?_)
        exact hcovers z (hfound z hz) (.inl hz)
      · refine .inr (.inr (.inr ⟨k', job, started, hk', ?_, hanswer⟩))
        change (w.engine.completeTask k (.ok found)).tasks[k']? = _
        rw [htasks, List.getElem?_modify_ne _ _ heq, htask']

theorem Accounts.after (h : w.Accounts expr config pending)
    (hcount : config.maxItems ≤ config.backfillCount) {act : Act} (hallows : w.allows act = true) :
    ∃ rest, (w.after act).Accounts expr config rest ∧
      (w.after act).storage.items = w.storage.items ++ act.stored?.toList := by
  cases act with
  | store item => exact ⟨pending, h.store hallows⟩
  | publish item => exact ⟨_, h.publish hallows, (List.append_nil _).symm⟩
  | turn k =>
      by_cases hk : k = 0
      · subst hk
        obtain ⟨rest, hrest, -⟩ := h.pump
        exact ⟨rest, hrest, (List.append_nil _).symm⟩
      · exact ⟨pending, h.begin hk, (List.append_nil _).symm⟩
  | read k =>
      obtain ⟨hread, hkept⟩ := h.read hallows
      exact ⟨pending, hread, hkept.trans (List.append_nil _).symm⟩
  | deliver k =>
      refine ⟨pending, (h.deliver hcount hallows).1, ?_⟩
      have hkept : (w.after (.deliver k)).storage = w.storage := by
        simp only [Supply.after]
        split <;> rfl
      rw [hkept]
      exact (List.append_nil _).symm

theorem Accounts.replay (h : w.Accounts expr config pending)
    (hcount : config.maxItems ≤ config.backfillCount) {acts : List Act} (hruns : w.Runs acts) :
    ∃ rest, (w.replay acts).Accounts expr config rest ∧
      (w.replay acts).storage.items = w.storage.items ++ acts.filterMap Act.stored? := by
  induction acts generalizing w pending with
  | nil => exact ⟨pending, h, (List.append_nil _).symm⟩
  | cons act acts ih =>
      obtain ⟨rest, hafter, hitems⟩ := h.after hcount hruns.1
      obtain ⟨rest', hreplay, hitems'⟩ := ih hafter hruns.2
      refine ⟨rest', hreplay, ?_⟩
      change ((w.after act).replay acts).storage.items = _
      rw [hitems', hitems, List.append_assoc]
      cases hstored : act.stored? with
      | none => simp [hstored]
      | some item => simp [hstored]

-- At rest the buffer holds the newest wanted items.
theorem Accounts.isNewest (h : w.Accounts expr config pending) (hrest : w.IsResting) :
    IsNewest config.maxItems (w.Wants expr) w.items := by
  obtain ⟨hunsent, hbacklog, hfinished⟩ := hrest
  have hpending : pending = [] := List.eq_nil_of_length_eq_zero (h.feeds.brings.backlog ▸ hbacklog)
  refine ⟨(w.engine.timeline 0).buffer.descending, h.feeds.live.length_le, h.sound, fun x hx => ?_⟩
  rcases h.covered x hx with hcovers | hin | hin | ⟨k, job, started, hk, htask, -⟩
  · exact hcovers
  · rw [hunsent] at hin
    cases hin
  · rw [hpending] at hin
    cases hin
  · have htail : ⟨job, started, false, false⟩ ∈ w.engine.tasks.tail := by
      obtain ⟨j, rfl⟩ := Nat.exists_eq_succ_of_ne_zero hk
      exact List.mem_of_getElem? ((List.getElem?_tail ..).trans htask)
    cases hfinished _ htail

end Supply

end FilteredFeed.Engine
