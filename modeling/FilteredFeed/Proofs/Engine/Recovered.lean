import FilteredFeed.Pattern.Builtin
import FilteredFeed.Proofs.Engine.FirstFill
import FilteredFeed.Proofs.Engine.Supply

namespace FilteredFeed.Engine

open FilteredFeed.Feed FilteredFeed.Filter FilteredFeed.Timeline

namespace Supply

section

variable [Patterns]
variable {w w' w'' : Supply} {expr : Expr} {config : Config} {pending : List Item} {k : TaskId}

-- Whatever has happened can go on until all is at rest.

-- One supply comes from another while nothing is stored.
def GoesOn (w w' : Supply) : Prop :=
  ∃ acts, (∀ act ∈ acts, Act.stored? act = none) ∧ w.Runs acts ∧ w.replay acts = w'

theorem GoesOn.refl (w : Supply) : w.GoesOn w := ⟨[], nofun, trivial, rfl⟩

theorem runs_append {acts more : List Act} :
    w.Runs (acts ++ more) ↔ w.Runs acts ∧ (w.replay acts).Runs more := by
  induction acts generalizing w with
  | nil => simp [Runs, replay]
  | cons act acts ih =>
      change w.allows act = true ∧ (w.after act).Runs (acts ++ more) ↔ _
      rw [ih, ← and_assoc]
      rfl

theorem GoesOn.trans (h : w.GoesOn w') (h' : w'.GoesOn w'') : w.GoesOn w'' := by
  obtain ⟨acts, hnone, hruns, rfl⟩ := h
  obtain ⟨more, hnone', hruns', rfl⟩ := h'
  refine ⟨acts ++ more, fun act hmem => ?_, runs_append.mpr ⟨hruns, hruns'⟩, List.foldl_append⟩
  exact (List.mem_append.mp hmem).elim (hnone act) (hnone' act)

theorem goesOn_after {act : Act} (hnone : act.stored? = none) (hallows : w.allows act = true) :
    w.GoesOn (w.after act) :=
  ⟨[act], fun _ hmem => List.mem_singleton.mp hmem ▸ hnone, ⟨hallows, trivial⟩, rfl⟩

theorem Accounts.allows_turn (h : w.Accounts expr config pending) (k : TaskId) :
    w.allows (.turn k) = true := by
  simp [allows, Engine.allows, h.feeds.stack]

theorem Accounts.publishAll (h : w.Accounts expr config pending) :
    ∃ w' rest, w.GoesOn w' ∧ w'.unsent = [] ∧ w'.Accounts expr config rest := by
  induction hunsent : w.unsent generalizing w pending with
  | nil => exact ⟨w, pending, .refl w, hunsent, h⟩
  | cons item unsent ih =>
      have hallows : w.allows (.publish item) = true := by
        simp [allows, hunsent, Engine.allows, isOpen, h.feeds.stack]
      have hleft : (w.after (.publish item)).unsent = unsent := by simp [Supply.after, hunsent]
      obtain ⟨w', rest, hgoes, hnone, haccounts⟩ := ih (h.publish hallows) hleft
      exact ⟨w', rest, (goesOn_after rfl hallows).trans hgoes, hnone, haccounts⟩

-- The pump goes on until nothing is left for it.
theorem Accounts.drain (h : w.Accounts expr config pending) :
    ∃ w', w.GoesOn w' ∧ w'.unsent = w.unsent ∧ w'.Accounts expr config [] := by
  induction hn : pending.length using Nat.strongRecOn generalizing w pending with
  | ind n ih =>
      obtain ⟨rest, hpump, ⟨rfl, -⟩ | hfewer⟩ := h.pump
      · exact ⟨w, .refl w, rfl, h⟩
      · obtain ⟨w', hgoes, hunsent, haccounts⟩ := ih rest.length (hn ▸ hfewer) hpump rfl
        exact ⟨w', (goesOn_after rfl (h.allows_turn 0)).trans hgoes, hunsent, haccounts⟩

-- One task comes to its end, and nothing happens to the others.
structure Finishes (w w' : Supply) (expr : Expr) (config : Config) (pending : List Item)
    (k : TaskId) : Prop where
  goesOn : w.GoesOn w'
  unsent : w'.unsent = w.unsent
  accounts : w'.Accounts expr config pending
  others : ∀ k', k' ≠ k → w'.engine.tasks[k']? = w.engine.tasks[k']?
  ended : ∀ task, w'.engine.tasks[k]? = some task → task.finished = true

theorem Finishes.before {act : Act} (h : (w.after act).Finishes w' expr config pending k)
    (hnone : act.stored? = none) (hallows : w.allows act = true)
    (hunsent : (w.after act).unsent = w.unsent)
    (hothers : ∀ k', k' ≠ k → (w.after act).engine.tasks[k']? = w.engine.tasks[k']?) :
    w.Finishes w' expr config pending k :=
  ⟨(goesOn_after hnone hallows).trans h.goesOn, h.unsent.trans hunsent, h.accounts,
    fun k' hk' => (h.others k' hk').trans (hothers k' hk'), h.ended⟩

theorem Accounts.finish_answered (h : w.Accounts expr config pending)
    (hcount : config.maxItems ≤ config.backfillCount) (hallows : w.allows (.deliver k) = true) :
    w.Finishes (w.after (.deliver k)) expr config pending k := by
  obtain ⟨haccounts, htasks⟩ := h.deliver hcount hallows
  have hunsent : (w.after (.deliver k)).unsent = w.unsent := by
    simp only [Supply.after]
    split <;> rfl
  refine ⟨goesOn_after rfl hallows, hunsent, haccounts, fun k' hk' => ?_, fun task htask => ?_⟩
  · rw [htasks, List.getElem?_modify_ne _ _ (Ne.symm hk')]
  · rw [htasks, List.getElem?_modify_eq] at htask
    obtain ⟨task', -, rfl⟩ := Option.map_eq_some_iff.mp htask
    rfl

theorem Accounts.finish_fetching (h : w.Accounts expr config pending)
    (hcount : config.maxItems ≤ config.backfillCount)
    (hfetching : w.engine.isFetching k = true) :
    ∃ w', w.Finishes w' expr config pending k := by
  cases hlookup : w.answers.lookup k with
  | some result =>
      have hallows : w.allows (.deliver k) = true := by simp [allows, hfetching, hlookup]
      exact ⟨_, h.finish_answered hcount hallows⟩
  | none =>
      have hallows : w.allows (.read k) = true := by simp [allows, hfetching, hlookup]
      obtain ⟨storage, -, hafter⟩ := h.after_read hfetching
      have hread := (h.read hallows).1
      have hdeliver : (w.after (.read k)).allows (.deliver k) = true := by
        simp [hafter, allows, hfetching]
      refine ⟨_, (hread.finish_answered hcount hdeliver).before rfl hallows ?_ fun k' _ => ?_⟩
      · rw [hafter]
      · rw [hafter]

theorem Accounts.finish (h : w.Accounts expr config pending)
    (hcount : config.maxItems ≤ config.backfillCount) (hk : k ≠ 0) :
    ∃ w', w.Finishes w' expr config pending k := by
  by_cases hall : ∀ task, w.engine.tasks[k]? = some task → task.finished = true
  · exact ⟨w, .refl w, rfl, h, fun _ _ => rfl, hall⟩
  · simp only [not_forall, Bool.not_eq_true] at hall
    obtain ⟨⟨job, started, aborted, finished⟩, htask, hfinished⟩ := hall
    obtain rfl : finished = false := hfinished
    obtain rfl := h.feeds.crew.refetches k _ htask hk
    obtain ⟨-, -, htasks⟩ := h.feeds.begins hk htask
    have hbegin := h.begin hk
    have hallows := h.allows_turn k
    have hothers (k' : TaskId) (hk' : k' ≠ k) :
        (w.after (.turn k)).engine.tasks[k']? = w.engine.tasks[k']? := by
      change (w.engine.turn k).tasks[k']? = _
      rw [htasks, List.getElem?_modify_ne _ _ (Ne.symm hk')]
    have hself : (w.after (.turn k)).engine.tasks[k]? =
        some ⟨.refetch 0 (order expr config), started || !aborted, aborted, aborted⟩ := by
      change (w.engine.turn k).tasks[k]? = _
      rw [htasks, List.getElem?_modify_eq, htask]
      cases aborted <;> simp
    cases aborted with
    | true =>
        refine ⟨_, goesOn_after rfl hallows, rfl, hbegin, hothers, fun task htask' => ?_⟩
        cases hself.symm.trans htask'
        rfl
    | false =>
        have hfetching : (w.after (.turn k)).engine.isFetching k = true := by
          rw [isFetching, hself, Bool.not_false, Bool.or_true]
        obtain ⟨w', hfinishes⟩ := hbegin.finish_fetching hcount hfetching
        exact ⟨w', hfinishes.before rfl hallows rfl hothers⟩

-- All tasks before one come to their end, and the later ones stay as they are.
theorem Accounts.finishAll (h : w.Accounts expr config pending)
    (hcount : config.maxItems ≤ config.backfillCount) (n : Nat) :
    ∃ w', w.GoesOn w' ∧ w'.unsent = w.unsent ∧ w'.Accounts expr config pending ∧
      (∀ k task, k < n → k ≠ 0 → w'.engine.tasks[k]? = some task → task.finished = true) ∧
      ∀ k, n ≤ k → w'.engine.tasks[k]? = w.engine.tasks[k]? := by
  induction n with
  | zero => exact ⟨w, .refl w, rfl, h, fun _ _ hlt => absurd hlt (Nat.not_lt_zero _), fun _ _ => rfl⟩
  | succ n ih =>
      obtain ⟨w', hgoes, hunsent, haccounts, hfinished, hlater⟩ := ih
      by_cases hn : n = 0
      · subst hn
        refine ⟨w', hgoes, hunsent, haccounts, fun k task hlt hk => ?_, fun k hle => hlater k ?_⟩
        · omega
        · omega
      · obtain ⟨w'', hfinishes⟩ := haccounts.finish hcount hn
        refine ⟨w'', hgoes.trans hfinishes.goesOn, hfinishes.unsent.trans hunsent,
          hfinishes.accounts, fun k task hlt hk htask => ?_, fun k hle => ?_⟩
        · rcases Nat.lt_succ_iff_lt_or_eq.mp hlt with hlt | rfl
          · rw [hfinishes.others k (Nat.ne_of_lt hlt)] at htask
            exact hfinished k task hlt hk htask
          · exact hfinishes.ended task htask
        · rw [hfinishes.others k (Nat.ne_of_gt hle), hlater k (Nat.le_of_succ_le hle)]

-- What was not published is published, the pump takes or misses what is left for it, and the other
-- tasks end.
theorem Accounts.settles (h : w.Accounts expr config pending)
    (hcount : config.maxItems ≤ config.backfillCount) :
    ∃ w', w.GoesOn w' ∧ w'.IsResting := by
  obtain ⟨w₁, rest, hgoes₁, hunsent₁, h₁⟩ := h.publishAll
  obtain ⟨w₂, hgoes₂, hunsent₂, h₂⟩ := h₁.drain
  obtain ⟨w₃, hgoes₃, hunsent₃, h₃, hfinished, hlater⟩ :=
    h₂.finishAll hcount w₂.engine.tasks.length
  refine ⟨w₃, (hgoes₁.trans hgoes₂).trans hgoes₃, ?_, h₃.feeds.brings.backlog, ?_⟩
  · rw [hunsent₃, hunsent₂, hunsent₁]
  · intro task htask
    obtain ⟨j, hj⟩ := List.mem_iff_getElem?.mp htask
    rw [List.getElem?_tail] at hj
    by_cases hlt : j + 1 < w₂.engine.tasks.length
    · exact hfinished (j + 1) task hlt (Nat.succ_ne_zero j) hj
    · rw [hlater _ (Nat.le_of_not_lt hlt), List.getElem?_eq_none (Nat.le_of_not_lt hlt)] at hj
      cases hj

-- A timeline after it was activated on what storage held.
def activated (expr : Expr) (source : Option String) (config : Config) (capacity : Nat)
    (hasSink : Bool) (stored : List Item) : Supply :=
  { engine := ((lone expr source config capacity hasSink).activateOn 0 (.ofList stored)).2
    storage := .ofList stored }

theorem activated_eq (expr : Expr) (source : Option String) (config : Config) (capacity : Nat)
    (hasSink : Bool) (stored : List Item) :
    ∃ events, activated expr source config capacity hasSink stored =
      { engine := solo capacity (queried expr source)
          (supplied expr config hasSink
            ((Storage.ofList stored).newest expr config.backfillCount) events)
          (.done (.ok .activated)) []
        storage := .ofList stored } := by
  obtain ⟨events, hengine⟩ :=
    activateOn_lone expr source config capacity hasSink (.ofList stored)
  exact ⟨events, by rw [activated, hengine]⟩

-- What storage held is covered by the buffer.
theorem accounts_activated (hcount : config.maxItems ≤ config.backfillCount)
    (source : Option String) (capacity : Nat) (hasSink : Bool) (stored : List Item) :
    (activated expr source config capacity hasSink stored).Accounts expr config [] := by
  obtain ⟨events, hactivated⟩ := activated_eq expr source config capacity hasSink stored
  have hdistinct := Storage.distinct_ofList stored
  have hnewest := Storage.isNewest_newest hdistinct expr config.backfillCount
  rw [hactivated]
  refine ⟨feeds_solo _ _ _ _ _ _ rfl _ _, hdistinct, nofun, fun x hx => ?_, nofun,
    fun x hx => .inl ?_⟩
  · exact hnewest.sound x ((Buffer.mem_merge hx).resolve_left List.not_mem_nil)
  · refine (hnewest.covers x hx).trans hcount hnewest.descending fun y hy => ?_
    exact Buffer.covers_merge (b := .empty config.maxItems) (.inl hy) fun z hz hid =>
      hdistinct.eq_of_id (hnewest.sound y hy).1 (hnewest.sound z hz).1 hid

-- Items are stored and published, and the pump may miss any of them, as the capacity and the order
-- of the tasks have it. All that happens can come to rest. Then the timeline holds the newest items
-- that its filter accepts of all that storage holds, as it does with any other capacity.
theorem resting_items {source : Option String} {capacity : Nat} {hasSink : Bool}
    {stored : List Item} {acts : List Act} (hcount : config.maxItems ≤ config.backfillCount)
    (hruns : (activated expr source config capacity hasSink stored).Runs acts) :
    let w := (activated expr source config capacity hasSink stored).replay acts
    w.storage.items = (Storage.ofList stored).items ++ acts.filterMap Act.stored? ∧
    (∃ w', w.GoesOn w' ∧ w'.IsResting) ∧
    (w.IsResting →
      w.items = w.storage.newest expr config.maxItems ∧
      ∀ capacity' acts', (activated expr source config capacity' hasSink stored).Runs acts' →
        (acts'.filterMap Act.stored?).Perm (acts.filterMap Act.stored?) →
        let w' := (activated expr source config capacity' hasSink stored).replay acts'
        w'.IsResting → w'.items = w.items) := by
  intro w
  have hstart (capacity : Nat) :
      (activated expr source config capacity hasSink stored).Accounts expr config [] :=
    accounts_activated hcount source capacity hasSink stored
  obtain ⟨pending, haccounts, hstored⟩ := (hstart capacity).replay hcount hruns
  refine ⟨hstored, haccounts.settles hcount, fun hrest => ⟨?_, ?_⟩⟩
  · exact (haccounts.isNewest hrest).unique (Storage.isNewest_newest haccounts.distinct expr _)
  · intro capacity' acts' hruns' hperm w' hrest'
    obtain ⟨pending', haccounts', hstored'⟩ := (hstart capacity').replay hcount hruns'
    have hwants : w'.Wants expr = w.Wants expr := by
      funext x
      have hmem : x ∈ w'.storage.items ↔ x ∈ w.storage.items := by
        rw [hstored', hstored, List.mem_append, List.mem_append, hperm.mem_iff]
        rfl
      rw [Wants, Wants, hmem]
    have hnewest := haccounts'.isNewest hrest'
    rw [hwants] at hnewest
    exact hnewest.unique (haccounts.isNewest hrest)

end

-- Two items get lost on a stream that keeps one, and are fetched after the third has arrived.
def twoMissed : List Act :=
  [.store { id := 2, author := "ann" }, .store { id := 3, author := "ann" },
    .publish { id := 3, author := "ann" }, .publish { id := 2, author := "ann" },
    .store { id := 4, author := "ann" }, .publish { id := 4, author := "ann" },
    .turn 0, .turn 0, .turn 1, .read 1, .deliver 1]

theorem resting_items_twoMissed :
    let config : Config := { maxItems := 3, backfillCount := 3 }
    let start := activated (.literal true) none config 1 true [{ id := 1, author := "ann" }]
    start.Runs twoMissed ∧ (start.replay twoMissed).IsResting ∧
      (start.replay twoMissed).items.map Item.id = [4, 3, 2] := by
  intro config start
  have hruns : start.Runs twoMissed := by decide +kernel
  have hrest : (start.replay twoMissed).IsResting := by decide +kernel
  obtain ⟨hstored, -, hitems⟩ := resting_items (Nat.le_refl config.maxItems) hruns
  refine ⟨hruns, hrest, ?_⟩
  rw [(hitems hrest).1, Storage.newest, hstored]
  cbv

end Supply

end FilteredFeed.Engine
