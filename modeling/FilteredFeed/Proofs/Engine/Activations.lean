import FilteredFeed.Pattern.Builtin
import FilteredFeed.Proofs.Engine.Accounted

namespace FilteredFeed

open FilteredFeed.Feed FilteredFeed.Filter FilteredFeed.Listener FilteredFeed.Timeline

-- Whether a timeline is active with a query.
def Timeline.uses [Patterns] (q : Nat) (T : Timeline) : Bool := T.phase.isActive && T.query == some q

namespace Engine

section

variable [Patterns]
variable {rule : Engine → Move → Prop} {e e' : Engine} {t : TimelineId} {q : QueryId} {m : Move}
variable {moves : List Move} {base : List Frame}

-- Moves by which somebody outside activates a query, or takes an activation back.

def Move.activates (q : QueryId) : Move → Bool
  | .activateQuery q' => q' == q
  | _ => false

def Move.deactivates (q : QueryId) : Move → Bool
  | .deactivateQuery q' => q' == q
  | _ => false

-- What a run leaves to those outside.
def outstanding (q : QueryId) (moves : List Move) : Int :=
  moves.countP (Move.activates q) - moves.countP (Move.deactivates q)

-- Those outside have never taken back more activations than they had.
def Solvent (q : QueryId) (moves : List Move) : Prop :=
  ∀ before, before <+: moves → before.countP (Move.deactivates q) ≤ before.countP (Move.activates q)

instance (q : QueryId) (moves : List Move) : Decidable (Solvent q moves) :=
  decidable_of_iff
    (∀ n < moves.length + 1,
      (moves.take n).countP (Move.deactivates q) ≤ (moves.take n).countP (Move.activates q)) <| by
    constructor
    · intro h before hbefore
      rw [List.prefix_iff_eq_take.mp hbefore]
      exact h before.length (Nat.lt_succ_of_le hbefore.length_le)
    · exact fun h n _ => h _ (List.take_prefix n moves)

omit [Patterns] in
theorem outstanding_cons (q : QueryId) (m : Move) (moves : List Move) :
    outstanding q (m :: moves) = outstanding q [m] + outstanding q moves := by
  unfold outstanding
  rw [← List.singleton_append, List.countP_append, List.countP_append]
  omega

omit [Patterns] in
theorem outstanding_single (h : m.activates q = false) (h' : m.deactivates q = false) :
    outstanding q [m] = 0 := by
  simp [outstanding, h, h']

-- The part of the stack that is matched: a call of a query by somebody outside is matched by nobody.
theorem accounted_tail (h : Accounted e e.stack) : Accounted e e.stack.tail :=
  { h with matched := fun q => (h.matched q).tail }

theorem accounted_open (h : Accounted e e.stack.tail) (hopen : e.isOpen = true) :
    Accounted e e.stack := by
  refine { h with matched := fun q => ?_ }
  have hmatched := h.matched q
  unfold isOpen at hopen
  cases hs : e.stack with
  | nil => trivial
  | cons f rest =>
      rw [hs] at hopen hmatched
      have hweight : f.weight q = 0 := by
        cases f with
        | observer => rfl
        | activate | deactivate | announce | rounds | call | release | attach | emit | finish =>
            cases hopen
      refine ⟨?_, hmatched⟩
      rw [weigh_cons, hweight, Int.zero_add]
      exact hmatched.weigh_nonpos

theorem isOpen_of_stack (h : e.stack = []) : e.isOpen = true := by
  unfold isOpen
  rw [h]
  rfl

-- What a move does on its own account.
theorem accounts_after (hw : Wired e) (hallows : e.allows m = true) (hstep : m ≠ .step)
    (hleave : m ≠ .leaveObserver) (hactivate : ∀ q, m ≠ .activateQuery q)
    (hdeactivate : ∀ q, m ≠ .deactivateQuery q) :
    e.isOpen = true ∧ Accounts e (e.after m) := by
  cases m with
  | step => exact absurd rfl hstep
  | leaveObserver => exact absurd rfl hleave
  | activateQuery q => exact absurd rfl (hactivate q)
  | deactivateQuery q => exact absurd rfl (hdeactivate q)
  | addQuery expr source => exact ⟨hallows, (discreet_addQuery e expr source).accounts⟩
  | addChannel capacity =>
      have hd : Discreet e (e.after (.addChannel capacity)) :=
        discreet_of_timelines rfl rfl rfl fun _ => .refl _
      exact ⟨hallows, hd.accounts⟩
  | addTimeline config storage stream query hasSink =>
      exact ⟨(Bool.and_eq_true_iff.mp (Bool.and_eq_true_iff.mp hallows).1).1,
        (discreet_addTimeline e config storage stream query hasSink).accounts⟩
  | setExpression q expr =>
      have hd : Discreet e (e.modifyQuery q (·.replace expr none)) :=
        discreet_modifyQuery e q rfl fun _ _ => id
      exact ⟨(Bool.and_eq_true_iff.mp hallows).1,
        (hd.trans (discreet_push _ (by simp [Frame.isDealing]))).accounts⟩
  | setSource q text =>
      have hsource : ((e.query q).replaceSource text).2.activations = (e.query q).activations ∧
          ((e.query q).replaceSource text).2.registry = (e.query q).registry := by
        unfold Query.replaceSource
        split <;> exact ⟨rfl, rfl⟩
      have hd : Discreet e (e.modifyQuery q fun _ => ((e.query q).replaceSource text).2) :=
        discreet_modifyQuery e q hsource.1 fun id t hmem => hsource.2 ▸ hmem
      exact ⟨(Bool.and_eq_true_iff.mp hallows).1,
        (hd.trans (discreet_push _ (by simp [Frame.isDealing]))).accounts⟩
  | compile q => exact ⟨(Bool.and_eq_true_iff.mp hallows).1, (discreet_compile e q).accounts⟩
  | listen q => exact ⟨(Bool.and_eq_true_iff.mp hallows).1, (discreet_listen e q).accounts⟩
  | unsubscribe q id =>
      exact ⟨(Bool.and_eq_true_iff.mp hallows).1,
        (discreet_dropSubscription e (some (q, id))).accounts⟩
  | releaseObserver o => exact ⟨hallows, accounts_release e (.observer o)⟩
  | retain t =>
      exact ⟨(Bool.and_eq_true_iff.mp hallows).1, (discreet_retain e (.timeline t)).accounts⟩
  | drop t => exact ⟨(Bool.and_eq_true_iff.mp hallows).1, accounts_release e (.timeline t)⟩
  | deactivate t =>
      exact ⟨(Bool.and_eq_true_iff.mp hallows).1,
        (discreet_hold e t).accounts.trans (accounts_deactivate _ t)⟩
  | invalidate t =>
      exact ⟨(Bool.and_eq_true_iff.mp hallows).1,
        (discreet_hold e t).accounts.trans (accounts_invalidate _ t)⟩
  | dispose t =>
      have ht := isAlive_of_allows hallows
      exact ⟨(Bool.and_eq_true_iff.mp hallows).1,
        (discreet_hold e t).accounts.trans (accounts_dispose (size_hold e t ▸ ht))⟩
  | setQuery t query =>
      obtain ⟨hopen, hall⟩ := Bool.and_eq_true_iff.mp hallows
      have ht := isAlive_of_allows hopen
      have hquery : ∀ q, query = some q → q < (e.hold t).queries.length := by
        rintro q rfl
        have hlt : q < e.queries.length := by simpa using hall
        exact hlt
      exact ⟨(Bool.and_eq_true_iff.mp hopen).1,
        (discreet_hold e t).accounts.trans (accounts_setQuery (size_hold e t ▸ ht) hquery)⟩
  | accepts t item =>
      exact ⟨(Bool.and_eq_true_iff.mp hallows).1, (discreet_currentFilter e t).accounts⟩
  | takeUnread t =>
      have hd : Discreet e (e.after (.takeUnread t)) := discreet_modifyTimeline e ⟨rfl, rfl, rfl⟩
      exact ⟨(Bool.and_eq_true_iff.mp hallows).1, hd.accounts⟩
  | offer t item => exact ⟨(Bool.and_eq_true_iff.mp hallows).1, (discreet_offer e t item).accounts⟩
  | publish s item => exact ⟨hallows, (background_publish e s item).discreet.accounts⟩
  | closeStream s => exact ⟨hallows, (background_closeStream e s).discreet.accounts⟩
  | startActivation t hasRuntime =>
      have hstack := stack_of_allows hallows
      exact ⟨isOpen_of_stack hstack, accounts_startActivation hw hstack t hasRuntime⟩
  | startPage t before limit =>
      exact ⟨isOpen_of_stack (stack_of_allows hallows), accounts_startPage e t before limit⟩
  | answer asker result =>
      refine ⟨isOpen_of_stack (stack_of_allows hallows), ?_⟩
      cases asker with
      | operation o => exact accounts_complete hw o result
      | task k => exact (discreet_completeTask e k result).accounts
  | cancel o => exact ⟨(Bool.and_eq_true_iff.mp hallows).1, accounts_cancel e o⟩
  | wake k => exact ⟨hallows, (background_wake e k).discreet.accounts⟩
  | nextTask =>
      exact ⟨isOpen_of_stack (List.isEmpty_iff.mp hallows), (background_nextTask e).discreet.accounts⟩
  | turn k => exact ⟨isOpen_of_stack (List.isEmpty_iff.mp hallows), (discreet_turn e k).accounts⟩

-- A call of a query from outside.
theorem accounted_call (ha : Accounted e e.stack) {f : Frame} (hq : q < e.queries.length)
    (hf : f = .activate q ∨ f = .deactivate q) :
    Accounted (e.push [f]) (e.push [f]).stack.tail := by
  have hstack : (e.push [f]).stack = f :: e.stack := rfl
  refine ⟨ha.paired, ha.owned, ha.known, ?_, ?_, fun t => ?_, ha.matched⟩
  · intro f' hmem q' hweight
    rcases List.mem_cons.mp (hstack ▸ hmem) with rfl | hmem
    · by_cases hne : q = q'
      · exact hne ▸ hq
      · rcases hf with rfl | rfl <;> exact absurd (if_neg hne) hweight
    · exact ha.ranged f' hmem q' hweight
  · intro t q' epoch purpose hmem
    rcases List.mem_cons.mp (hstack ▸ hmem) with rfl | hmem
    · rcases hf with hf | hf <;> cases hf
    · exact ha.past t q' epoch purpose hmem
  · have hle := ha.single t
    have hnot : f.attachesAt t (e.timeline t).epoch = false := by
      rcases hf with rfl | rfl <;> rfl
    have hT : (e.push [f]).timeline t = e.timeline t := rfl
    rw [hT, hstack, List.countP_cons_of_neg (by simp [hnot])]
    exact hle

-- What one move keeps, and how it changes what others have activated.
theorem accounted_after (hw : Wired e) (ha : Accounted e e.stack.tail)
    (hallows : e.allows m = true) :
    Accounted (e.after m) (e.after m).stack.tail ∧
      ∀ q, 0 ≤ e.surplus q → (e.after m).surplus q = e.surplus q + outstanding q [m] := by
  by_cases hstep : m = .step
  · subst hstep
    obtain ⟨f, rest, hs, -, heq⟩ := after_step hallows
    rw [hs, List.tail_cons] at ha
    obtain ⟨hafter, hsame⟩ := accounted_perform ha hw hs
    rw [heq]
    exact ⟨accounted_tail hafter, fun q hq => (hsame q hq).trans (Int.add_zero _).symm⟩
  by_cases hleave : m = .leaveObserver
  · subst hleave
    change Accounted e.leaveObserver e.leaveObserver.stack.tail ∧
      ∀ q, 0 ≤ e.surplus q → e.leaveObserver.surplus q = e.surplus q + 0
    unfold leaveObserver
    split
    · rename_i hs
      rw [hs, List.tail_cons] at ha
      refine ⟨accounted_tail (ha.pop hs), fun q _ => ?_⟩
      rw [surplus_pop hs]
      exact (Int.sub_zero _).trans (Int.add_zero _).symm
    · exact ⟨ha, fun q _ => (Int.add_zero _).symm⟩
  by_cases hactivate : ∃ q, m = .activateQuery q
  · obtain ⟨q, rfl⟩ := hactivate
    obtain ⟨hopen, hq⟩ := Bool.and_eq_true_iff.mp hallows
    refine ⟨accounted_call (accounted_open ha hopen) (of_decide_eq_true hq) (.inl rfl), ?_⟩
    intro q' _
    refine (surplus_push e [.activate q] q').trans ?_
    by_cases hne : q = q'
    · simp [outstanding, Move.activates, Move.deactivates, Frame.weight, hne]
    · simp [outstanding, Move.activates, Move.deactivates, Frame.weight, hne]
  by_cases hdeactivate : ∃ q, m = .deactivateQuery q
  · obtain ⟨q, rfl⟩ := hdeactivate
    obtain ⟨hopen, hq⟩ := Bool.and_eq_true_iff.mp hallows
    refine ⟨accounted_call (accounted_open ha hopen) (of_decide_eq_true hq) (.inr rfl), ?_⟩
    intro q' _
    refine (surplus_push e [.deactivate q] q').trans ?_
    by_cases hne : q = q'
    · simp [outstanding, Move.activates, Move.deactivates, Frame.weight, hne]
    · simp [outstanding, Move.activates, Move.deactivates, Frame.weight, hne]
  have hnone := not_exists.mp hactivate
  have hnone' := not_exists.mp hdeactivate
  obtain ⟨hopen, hafter⟩ := accounts_after hw hallows hstep hleave hnone hnone'
  obtain ⟨ha', hsame⟩ := hafter (accounted_open ha hopen)
  refine ⟨accounted_tail ha', fun q _ => ?_⟩
  have hzero : outstanding q [m] = 0 := by
    cases m with
    | activateQuery q => exact absurd rfl (hnone q)
    | deactivateQuery q => exact absurd rfl (hnone' q)
    | step | leaveObserver | addQuery | addChannel | addTimeline | setExpression | setSource | compile
    | listen | unsubscribe | releaseObserver | retain | drop | deactivate | invalidate | dispose
    | setQuery | accepts | takeUnread | offer | publish | closeStream | startActivation | startPage
    | answer | cancel | wake | nextTask | turn => exact outstanding_single rfl rfl
  rw [hsame q, hzero, Int.add_zero]

theorem accounted_init : Accounted {} [] := by
  refine ⟨fun _ => rfl, nofun, nofun, nofun, nofun, fun _ => Nat.zero_le 1, fun _ => trivial⟩

-- What every run keeps.
theorem Follows.accounted (h : ({} : Engine).Follows rule moves) :
    Accounted (({} : Engine).replay moves) (({} : Engine).replay moves).stack.tail := by
  have hall : Sound (({} : Engine).replay moves) ∧ Wired (({} : Engine).replay moves) ∧
      Accounted (({} : Engine).replay moves) (({} : Engine).replay moves).stack.tail := by
    refine h.induction (P := fun e => Sound e ∧ Wired e ∧ Accounted e e.stack.tail)
      ⟨sound_init, wired_init, accounted_init⟩ ?_
    rintro e m ⟨hs, hw, ha⟩ hallows -
    exact ⟨hs.after hallows, (comes_after hs hw hallows).1, (accounted_after hw ha hallows).1⟩
  exact hall.2.2

theorem surplus_replay (hs : Sound e) (hw : Wired e) (ha : Accounted e e.stack.tail)
    (hruns : e.Runs moves) (hsolvent : ∀ before, before <+: moves →
      0 ≤ e.surplus q + outstanding q before) :
    (e.replay moves).surplus q = e.surplus q + outstanding q moves := by
  induction moves generalizing e with
  | nil => exact (Int.add_zero _).symm
  | cons m moves ih =>
      obtain ⟨hallows, -, hrest⟩ := hruns
      obtain ⟨ha', hsurplus⟩ := accounted_after hw ha hallows
      have hnow : (e.after m).surplus q = e.surplus q + outstanding q [m] :=
        hsurplus q (Int.add_zero (e.surplus q) ▸ hsolvent [] List.nil_prefix)
      have hlater (before : List Move) (hbefore : before <+: moves) :
          0 ≤ (e.after m).surplus q + outstanding q before := by
        have hle := hsolvent (m :: before) (List.cons_prefix_cons.mpr ⟨rfl, hbefore⟩)
        rw [outstanding_cons q m before] at hle
        omega
      rw [replay_cons, ih (hs.after hallows) (comes_after hs hw hallows).1 ha' hrest hlater, hnow,
        outstanding_cons q m moves]
      omega

-- While no call is running, a timeline has an activation and a subscription exactly if it is active
-- with the query.

theorem uses_iff_activated (hw : Wired e) (ha : Accounted e base) (hrest : e.stack = []) :
    (e.timeline t).uses q = true ↔ (e.timeline t).activated = some q := by
  unfold Timeline.uses
  rw [Bool.and_eq_true, beq_iff_eq, ha.paired t]
  constructor
  · rintro ⟨hactive, hquery⟩
    rcases (hw.bound t).reached q hactive hquery with hsome | ⟨purpose, hmem⟩
    · obtain ⟨s, hs⟩ := Option.isSome_iff_exists.mp hsome
      obtain ⟨-, hquery', -⟩ := (hw.bound t).subscribed s.1 s.2 hs
      rw [hs, ← hquery, hquery']
      rfl
    · rw [hrest] at hmem
      cases hmem
  · intro hsub
    obtain ⟨s, hs, rfl⟩ := Option.map_eq_some_iff.mp hsub
    obtain ⟨hactive, hquery, -⟩ := (hw.bound t).subscribed s.1 s.2 hs
    exact ⟨hactive, hquery⟩

theorem users_at_rest (hw : Wired e) (ha : Accounted e base) (hrest : e.stack = []) (q : QueryId) :
    e.users q = e.timelines.countP (Timeline.uses q) := by
  unfold users
  rw [List.count, List.countP_map]
  refine List.countP_congr fun T hmem => ?_
  obtain ⟨t, rfl⟩ := exists_timeline_eq hmem
  rw [uses_iff_activated hw ha hrest, Function.comp_apply, beq_iff_eq]

theorem countP_subscriptions (hw : Wired e) (ha : Accounted e base) (hrest : e.stack = [])
    (t : TimelineId) (q : QueryId) :
    (e.subscriptions q).countP (fun s => s.2 == .timeline t) =
      if (e.timeline t).uses q then 1 else 0 := by
  split
  · rename_i huses
    have hactivated := (uses_iff_activated hw ha hrest).mp huses
    rw [ha.paired t] at hactivated
    obtain ⟨⟨q', id⟩, hsub, rfl⟩ := Option.map_eq_some_iff.mp hactivated
    obtain ⟨-, -, hmem⟩ := (hw.bound t).subscribed q' id hsub
    have hnodup : (e.subscriptions q').Nodup :=
      (hw.orderly q').distinct.imp fun hne heq => hne (congrArg Prod.fst heq)
    have hone : (e.subscriptions q').count (id, .timeline t) = 1 := hnodup.count.trans (if_pos hmem)
    refine Eq.trans ?_ hone
    refine List.countP_congr fun s hs => ?_
    rw [beq_iff_eq, beq_iff_eq]
    constructor
    · intro htarget
      obtain ⟨id', target⟩ := s
      obtain rfl : target = .timeline t := htarget
      have hown := ha.owned q' id' t hs
      rw [hsub] at hown
      rw [(Prod.mk.inj (Option.some.inj hown)).2]
    · rintro rfl
      rfl
  · rename_i hidle
    refine List.countP_eq_zero.mpr fun s hs htarget => hidle ?_
    obtain ⟨id, target⟩ := s
    obtain rfl : target = .timeline t := beq_iff_eq.mp htarget
    rw [uses_iff_activated hw ha hrest, ha.paired t, ha.owned q id t hs]
    rfl

-- A timeline that is active with a query is neither inactive nor gone.
theorem not_over_of_uses (hw : Wired e) (huses : (e.timeline t).uses q = true)
    (hover : (e.timeline t).query = some q → (e.timeline t).phase = .inactive ∨
      (e.timeline t).phase = .disposed ∨ e.isAlive (.timeline t) = false) : False := by
  obtain ⟨hactive, hquery⟩ := Bool.and_eq_true_iff.mp huses
  rcases hover (beq_iff_eq.mp hquery) with hphase | hphase | hdead
  · rw [hphase] at hactive
    cases hactive
  · rw [hphase] at hactive
    cases hactive
  · rw [hw.alive_of_active hactive] at hdead
    cases hdead

theorem countP_uses_eq_zero (hidle : ∀ t, (e.timeline t).uses q = false) :
    e.timelines.countP (Timeline.uses q) = 0 := by
  refine List.countP_eq_zero.mpr fun T hmem => ?_
  obtain ⟨t, rfl⟩ := exists_timeline_eq hmem
  exact Bool.eq_false_iff.mp (hidle t)

-- Where no timeline is active with the query, nobody but observers listens to it.
theorem isObserver_of_idle (hw : Wired e) (ha : Accounted e base) (hrest : e.stack = [])
    (hidle : ∀ t, (e.timeline t).uses q = false) {s : SubscriptionId × Target}
    (hs : s ∈ e.subscriptions q) : s.2.isObserver = true := by
  obtain ⟨id, target⟩ := s
  cases target with
  | observer o => rfl
  | timeline t =>
      have hnone := countP_subscriptions hw ha hrest t q
      rw [hidle t] at hnone
      exact absurd (beq_self_eq_true _) (List.countP_eq_zero.mp hnone _ hs)

-- While no call is running, a query has the activations that timelines have noted, and those of others.
theorem activations_eq_users (hruns : ({} : Engine).Runs moves) (hsolvent : Solvent q moves)
    (hrest : (({} : Engine).replay moves).stack = []) :
    ((({} : Engine).replay moves).query q).activations =
      outstanding q moves + (({} : Engine).replay moves).users q := by
  have hsurplus : (({} : Engine).replay moves).surplus q = outstanding q moves := by
    refine (surplus_replay sound_init wired_init accounted_init hruns ?_).trans (Int.zero_add _)
    intro before hbefore
    have hle := hsolvent before hbefore
    have hzero : ({} : Engine).surplus q = 0 := rfl
    unfold outstanding
    omega
  unfold surplus at hsurplus
  rw [hrest, weigh_nil] at hsurplus
  omega

-- While no call is running, activations and subscriptions of a query are those of the timelines that
-- are active with it, and what others have activated.
theorem activations_at_rest (hruns : ({} : Engine).Runs moves) (hsolvent : Solvent q moves)
    (hrest : (({} : Engine).replay moves).stack = []) :
    let e := ({} : Engine).replay moves
    (e.query q).activations = outstanding q moves + e.timelines.countP (Timeline.uses q) ∧
    (∀ t, (e.subscriptions q).countP (fun s => s.2 == .timeline t) =
      if (e.timeline t).uses q then 1 else 0) ∧
    ((∀ t, (e.timeline t).query = some q → (e.timeline t).phase = .inactive ∨
        (e.timeline t).phase = .disposed ∨ e.isAlive (.timeline t) = false) →
      outstanding q moves = 0 →
        (e.query q).isActive = false ∧ ∀ s ∈ e.subscriptions q, s.2.isObserver = true) := by
  intro e
  have hw : Wired e := hruns.wired sound_init wired_init
  have ha : Accounted e e.stack.tail := hruns.accounted
  have hsurplus : e.surplus q = outstanding q moves := by
    refine (surplus_replay sound_init wired_init accounted_init hruns ?_).trans (Int.zero_add _)
    intro before hbefore
    have hle := hsolvent before hbefore
    have hzero : ({} : Engine).surplus q = 0 := rfl
    unfold outstanding
    omega
  have hactivations : ((e.query q).activations : Int) =
      outstanding q moves + e.timelines.countP (Timeline.uses q) := by
    have husers := users_at_rest hw ha hrest q
    unfold surplus at hsurplus
    rw [show e.stack = [] from hrest, weigh_nil, husers] at hsurplus
    omega
  refine ⟨hactivations, fun t => countP_subscriptions hw ha hrest t q, fun hover hnone => ?_⟩
  have hidle (t : TimelineId) : (e.timeline t).uses q = false :=
    Bool.eq_false_iff.mpr fun huses => not_over_of_uses hw huses (hover t)
  have hactive : (e.query q).isActive = false := by
    rw [hnone, countP_uses_eq_zero hidle] at hactivations
    simpa [Query.isActive] using hactivations
  exact ⟨hactive, fun s hs => isObserver_of_idle hw ha hrest hidle hs⟩

end

-- Somebody outside has activated a query and takes that back after a timeline was activated with it.
def givenBack : List Move :=
  [.addQuery .contradiction none, .addChannel 4, .addTimeline {} 0 0 (some 0) true,
    .activateQuery 0, .step, .startActivation 0 true, .step, .step, .deactivateQuery 0, .step, .step,
    .step, .step, .step, .step]

theorem activations_at_rest_givenBack :
    ({} : Engine).Runs givenBack ∧ Solvent 0 givenBack ∧
      (({} : Engine).replay givenBack).stack = [] ∧
      ((({} : Engine).replay givenBack).query 0).activations = 1 := by
  have hruns : ({} : Engine).Runs givenBack := by decide
  have hsolvent : Solvent 0 givenBack := by decide
  have hrest : (({} : Engine).replay givenBack).stack = [] := List.isEmpty_iff.mp (by decide)
  refine ⟨hruns, hsolvent, hrest, Int.ofNat.inj ?_⟩
  exact (activations_at_rest hruns hsolvent hrest).1.trans (by decide)

end Engine

end FilteredFeed
