import FilteredFeed.Pattern.Builtin
import FilteredFeed.Proofs.Engine.RoundRevisions
import Mathlib.Data.List.Pairwise

namespace FilteredFeed.Engine

open FilteredFeed.Feed FilteredFeed.Filter FilteredFeed.Listener FilteredFeed.Timeline

section

variable [Patterns]
variable {e e' : Engine} {q : QueryId} {x : Target} {m : Move} {moves : List Move} {c : Nat}
variable {f : Frame} {rest frames : List Frame} {id : SubscriptionId} {d : Option TimelineId}

-- A listener of a query will be called for revision `c` or a later one, if it stays among the
-- listeners that are alive.
inductive Awaits (e : Engine) (q : QueryId) (x : Target) (c : Nat) : Prop where
  | called {revision : Nat} {y : Target} {rest : List Frame}
      (h : e.stack = .call x revision :: .release y :: .rounds q :: rest) (hle : c ≤ revision)
  | told (h : (e.query q).registry.Tells x c)
  | announced {revision : Nat} (h : .announce q revision ∈ e.stack) (hle : c ≤ revision)
  | deferred (h : (e.query q).registry.Defers c)

-- A listener is subscribed to a query, and somebody holds it.
def Listens (q : QueryId) (id : SubscriptionId) (x : Target) (e : Engine) : Prop :=
  (id, x) ∈ e.subscriptions q ∧ e.isAlive x = true

instance : Decidable (Listens q id x e) := inferInstanceAs (Decidable (_ ∧ _))

-- While no call is running, nobody awaits one.
theorem Wired.not_awaits (hw : Wired e) (hrest : e.stack = []) : ¬ Awaits e q x c := by
  have hquiet := hw.round_eq_none hrest q
  intro h
  cases h with
  | called h => cases hrest.symm.trans h
  | told h =>
      obtain ⟨round, hround, -⟩ := h
      cases hround.symm.trans hquiet
  | announced h => rw [hrest] at h; cases h
  | deferred h =>
      obtain ⟨revision, hpending, -⟩ := h
      have hround := (hw.orderly q).pending (by rw [hpending]; rfl)
      rw [hquiet] at hround
      cases hround

-- What leaves notifications alone keeps what is awaited, but for a call that is made.
theorem Awaits.mono (h : Awaits e q x c) (hnotices : e'.notices q = e.notices q)
    (hs : ∀ f ∈ e.stack, f.announces = true → f ∈ e'.stack)
    (hcall : ∀ revision rest, e.stack ≠ .call x revision :: rest) : Awaits e' q x c := by
  have hround : (e'.query q).registry.round = (e.query q).registry.round :=
    congrArg Prod.fst hnotices
  have hpending : (e'.query q).registry.pending = (e.query q).registry.pending :=
    congrArg Prod.snd hnotices
  cases h with
  | called h => exact absurd h (hcall _ _)
  | told h =>
      obtain ⟨round, hold, hrest⟩ := h
      exact .told ⟨round, hround.trans hold, hrest⟩
  | announced h hle => exact .announced (hs _ h rfl) hle
  | deferred h =>
      obtain ⟨revision, hold, hle⟩ := h
      exact .deferred ⟨revision, hpending.trans hold, hle⟩

-- A notification that goes on forgets nobody who listens.
theorem Forwards.awaits {q' : QueryId} {g : Registry Target → Registry Target}
    (h : Forwards e q' g f frames c) (hs : e.stack = f :: rest) (targets : List Target)
    (hawaits : Awaits e q x c) (hlistens : Listens q id x e)
    (hframes : ∀ revision, .call x revision ∈ frames →
      frames = [.call x revision, .release x, .rounds q']) :
    Awaits (e.resumed q' g targets frames rest) q x c := by
  have hkept {revision : Nat} (hmem : .announce q revision ∈ e.stack)
      (hne : f ≠ .announce q revision) :
      .announce q revision ∈ (e.resumed q' g targets frames rest).stack :=
    mem_resumed hs targets hmem hne.symm
  rcases query_resumed e q' q g targets frames rest with ⟨hne, heq⟩ | ⟨rfl, heq⟩ | ⟨rfl, -, hempty⟩
  · cases hawaits with
    | called hcall => exact absurd (List.cons.inj (hs.symm.trans hcall)).1 (h.uncalled _ _)
    | told htells => exact .told (heq ▸ htells)
    | announced hmem hle => exact .announced (hkept hmem (h.others q _ hne)) hle
    | deferred hdefers => exact .deferred (heq ▸ hdefers)
  · have hnow (hcause : (e.query q).registry.Defers c ∨
        ∃ revision, f = .announce q revision ∧ c ≤ revision) :
        Awaits (e.resumed q g targets frames rest) q x c := by
      rcases h.told hcause _ hlistens.1 hlistens.2 with hdefers | htells
      · exact .deferred (heq ▸ hdefers)
      · exact .told (heq ▸ htells)
    cases hawaits with
    | called hcall => exact absurd (List.cons.inj (hs.symm.trans hcall)).1 (h.uncalled _ _)
    | told htells =>
        rcases h.waiting x htells with ⟨revision, hmem, hle⟩ | hstill
        · have hs' := stack_resumed e q g targets frames rest
          rw [hframes revision hmem] at hs' ⊢
          exact .called hs' hle
        · exact .told (heq ▸ hstill)
    | @announced revision hmem hle =>
        by_cases hf : f = .announce q revision
        · exact hnow (.inr ⟨revision, hf, hle⟩)
        · exact .announced (hkept hmem hf) hle
    | deferred hdefers => exact hnow (.inl hdefers)
  · have hmem := hlistens.1
    unfold subscriptions at hmem
    rw [hempty] at hmem
    cases hmem

theorem Awaits.popped (h : Awaits e q x c) (hs : e.stack = f :: rest) (hf : f.announces = false) :
    Awaits { e with stack := rest } q x c ∨
      ∃ revision, e.roundCall q .step = some (x, revision) ∧ c ≤ revision := by
  cases h with
  | @called revision y rest' h hle =>
      exact .inr ⟨revision, roundCall_eq_some.mpr ⟨rfl, y, rest', h⟩, hle⟩
  | told h => exact .inl (.told h)
  | announced h hle =>
      refine .inl (.announced (mem_rest hs h ?_) hle)
      rintro rfl
      cases hf
  | deferred h => exact .inl (.deferred h)

-- Who awaits a call does so until it is made.
theorem Awaits.after (h : Awaits e q x c) (hreached : IsReached e) (hlistens : Listens q id x e)
    (hallows : e.allows m = true) :
    Awaits (e.after m) q x c ∨ ∃ revision, e.roundCall q m = some (x, revision) ∧ c ≤ revision := by
  have hw := hreached.wired
  have huncalled (hm : m ≠ .step) (revision : Nat) (rest : List Frame) :
      e.stack ≠ .call x revision :: rest := by
    intro hs
    exact hreached.timely.uncalled hallows hm x revision (hs ▸ List.mem_cons_self)
  have hpopped {f : Frame} {rest : List Frame} (hs : e.stack = f :: rest) (revision : Nat)
      (rest' : List Frame) : rest ≠ .call x revision :: rest' := by
    rintro rfl
    exact (hreached.timely.kept hs).2 x revision List.mem_cons_self
  have hproceeds := proceeds_after hallows
  generalize e.after m = e' at hproceeds ⊢
  cases hproceeds with
  | modest hm hmodest =>
      obtain ⟨frames, hs, -⟩ := hmodest.stack
      refine .inl (h.mono (congrFun hmodest.notices q) (fun f hmem _ => ?_) (huncalled ?_))
      · exact hs ▸ List.mem_append_right _ hmem
      · rintro rfl
        cases hm
  | @performed f rest e' hs hf hmodest =>
      obtain ⟨frames, hs', -⟩ := hmodest.stack
      have hsilent : f.announces = false := by
        cases f with
        | announce => cases hf
        | _ => rfl
      refine (h.popped hs hsilent).imp_left fun hstill => ?_
      exact hstill.mono (congrFun hmodest.notices q)
        (fun f hmem _ => hs' ▸ List.mem_append_right _ hmem) (hpopped hs)
  | @announced q' revision rest targets hs =>
      refine .inl ((forwards_request hw q' revision _ c).awaits hs targets h hlistens ?_)
      intro revision' hmem
      cases eq_rounds_of_mem hmem
  | @continued q' rest hs =>
      refine .inl ((forwards_advance hw q' c).awaits hs _ h hlistens fun revision hmem => ?_)
      rw [next_of_mem_roundFrames hmem]
      rfl
  | @handed o revision rest hs =>
      refine (h.popped hs rfl).imp_left fun hstill => ?_
      exact hstill.mono rfl (fun f hmem _ => List.mem_cons_of_mem _ hmem) (hpopped hs)
  | @left o revision rest hs =>
      refine .inl (h.mono rfl (fun f hmem hf => ?_) (huncalled nofun))
      refine mem_rest hs hmem ?_
      rintro rfl
      cases hf
  | @amended m q' f hm hq hf =>
      refine .inl (h.mono ?_ (fun f hmem _ => mem_amend hmem) (huncalled ?_))
      · unfold notices
        rw [registry_amend hf]
      · rintro rfl
        cases hm

-- Who awaits a call has got it when no call is running any more.
theorem Awaits.replay (h : Awaits e q x c) (hreached : IsReached e)
    (hlistens : e.Follows (fun e _ => Listens q id x e) moves)
    (hrest : (e.replay moves).stack = []) : ∃ revision, (x, revision) ∈ roundCalls q e moves ∧ c ≤ revision := by
  induction moves generalizing e with
  | nil => exact absurd h (hreached.wired.not_awaits hrest)
  | cons m moves ih =>
      obtain ⟨hallows, hnow, hlater⟩ := hlistens
      rcases h.after hreached hnow hallows with hstill | ⟨revision, hcall, hle⟩
      · obtain ⟨revision, hmem, hle⟩ := ih hstill (hreached.after hallows) hlater hrest
        exact ⟨revision, List.mem_append_right _ hmem, hle⟩
      · refine ⟨revision, List.mem_append_left _ ?_, hle⟩
        rw [hcall]
        exact List.mem_singleton_self _

-- A change is announced at once, and all who listen await a call.
theorem awaits_amended (hallows : e.allows m = true) (hm : m.amends = some q) :
    Awaits (e.after m) q x ((e.after m).revisions q) := by
  have h := proceeds_after hallows
  generalize e.after m = e' at h ⊢
  cases h with
  | modest hmodest h => cases (Modest.not_amends hmodest).symm.trans hm
  | performed | announced | continued | handed | left => cases hm
  | @amended m q' f hamends hq hf =>
      obtain rfl := Option.some.inj (hamends.symm.trans hm)
      exact .announced List.mem_cons_self (Nat.le_of_eq (revision_amended hq hf))

theorem revisions_replay (hruns : e.Runs moves) (hsame : ∀ m ∈ moves, m.amends ≠ some q) :
    (e.replay moves).revisions q = e.revisions q := by
  induction moves generalizing e with
  | nil => rfl
  | cons m moves ih =>
      obtain ⟨hallows, -, hlater⟩ := hruns
      have hrest := ih hlater fun m hmem => hsame m (List.mem_cons_of_mem _ hmem)
      exact hrest.trans (revisions_after hallows (hsame m List.mem_cons_self))

-- After the last change of a query, whoever has listened meanwhile was last told of its revision.
theorem last_call {before later : List Move} {change : Move}
    (hruns : ({} : Engine).Runs (before ++ change :: later)) (hchange : change.amends = some q)
    (hlast : ∀ m ∈ later, m.amends ≠ some q)
    (hlistens : ((({} : Engine).replay before).after change).Follows
      (fun e _ => Listens q id x e) later)
    (hrest : (({} : Engine).replay (before ++ change :: later)).stack = []) :
    ((roundCalls q ((({} : Engine).replay before).after change) later).filter (·.1 = x)).getLast? =
      some (x, (({} : Engine).replay (before ++ change :: later)).revisions q) := by
  obtain ⟨hbefore, hallows, -, hlater⟩ := follows_append.mp hruns
  have hascends := ascends_replay hruns q
  have hsplit : roundCalls q {} (before ++ change :: later) =
      (roundCalls q {} before ++ ((({} : Engine).replay before).roundCall q change).toList) ++
        roundCalls q ((({} : Engine).replay before).after change) later := by
    rw [roundCalls_append, List.append_assoc]
    rfl
  have hfinal : (({} : Engine).replay (before ++ change :: later)).revisions q =
      ((({} : Engine).replay before).after change).revisions q := by
    rw [replay_append, replay_cons]
    exact revisions_replay hlater hlast
  rw [replay_append, replay_cons] at hrest
  have hreached := (isReached_replay hbefore).after hallows
  obtain ⟨revision, hmem, hle⟩ :=
    (awaits_amended hallows hchange).replay hreached hlistens hrest
  generalize hcalls : (roundCalls q ((({} : Engine).replay before).after change) later).filter
    (·.1 = x) = calls
  have hcall : (x, revision) ∈ calls := hcalls ▸ List.mem_filter.mpr ⟨hmem, by simp⟩
  have hsorted : calls.Pairwise fun c c' => c.2 ≤ c'.2 := by
    have hall := hascends.sorted
    rw [hsplit] at hall
    exact hcalls ▸ (List.pairwise_append.mp hall).2.1.filter _
  have hlast := List.getLast_mem (List.ne_nil_of_mem hcall)
  rw [List.getLast?_eq_some_getLast (List.ne_nil_of_mem hcall)]
  have hge := hsorted.rel_getLast_of_rel_getLast_getLast hcall (Nat.le_refl _)
  generalize calls.getLast _ = last at hlast hge
  obtain ⟨hmade, hx⟩ := List.mem_filter.mp (hcalls ▸ hlast)
  have hpast := hascends.past last (hsplit ▸ List.mem_append_right _ hmade)
  obtain ⟨y, r⟩ := last
  obtain rfl : y = x := by simpa using hx
  rw [hfinal] at hpast ⊢
  exact congrArg (fun r => some (y, r)) (Nat.le_antisymm hpast (Nat.le_trans hle hge))

-- Every call of a round tells the revision that the query had when the round was started, so no
-- revision that a listener is told is below one before it. When no call is running any more, whoever
-- has listened since the last change was told of the revision that it made, and of none after that.
theorem rounds_tell_revision (hruns : ({} : Engine).Runs moves) (q : QueryId) :
    (∀ before call later x revision, moves = before ++ call :: later →
      (({} : Engine).replay before).roundCall q call = some (x, revision) →
      StartedAt q revision before) ∧
    ((roundCalls q {} moves).Pairwise fun c c' => c.2 ≤ c'.2) ∧
    ∀ before change later id x, moves = before ++ change :: later → change.amends = some q →
      (∀ m ∈ later, m.amends ≠ some q) →
      ((({} : Engine).replay before).after change).Follows (fun e _ => Listens q id x e) later →
      (({} : Engine).replay moves).stack = [] →
      ((roundCalls q ((({} : Engine).replay before).after change) later).filter
        (·.1 = x)).getLast? = some (x, (({} : Engine).replay moves).revisions q) := by
  refine ⟨?_, (ascends_replay hruns q).sorted, ?_⟩
  · rintro before call later x revision rfl hcall
    obtain ⟨hbefore, -⟩ := follows_append.mp hruns
    obtain ⟨round, hround, rfl⟩ := (isReached_replay hbefore).revision_of_call hcall
    exact startedAt_of_round hbefore hround
  · rintro before change later id x rfl hchange hlast hlistens hrest
    exact last_call hruns hchange hlast hlistens hrest

end

-- An observer is told of a change and changes the query once more before it gives control back.
def changedOnce : List Move :=
  [.addQuery (.literal true) none, .listen 0, .setExpression 0 (.literal false),
    .step, .step, .step]

def toldAgain : List Move :=
  [.step, .leaveObserver, .step, .step, .step, .step, .leaveObserver, .step, .step]

theorem rounds_tell_revision_reentered :
    let moves := changedOnce ++ .setExpression 0 (.literal true) :: toldAgain
    ({} : Engine).Runs moves ∧
      roundCalls 0 {} moves = [(.observer 0, 1), (.observer 0, 2)] ∧
      StartedAt 0 2 (changedOnce ++ .setExpression 0 (.literal true) :: toldAgain.take 5) ∧
      (roundCalls 0 {} moves).Pairwise (fun c c' => c.2 ≤ c'.2) ∧
      ((roundCalls 0 ((({} : Engine).replay changedOnce).after (.setExpression 0 (.literal true)))
        toldAgain).filter (·.1 = .observer 0)).getLast? =
          some (.observer 0, (({} : Engine).replay moves).revisions 0) := by
  intro moves
  have hruns : ({} : Engine).Runs moves := by decide
  have hlistens : ((({} : Engine).replay changedOnce).after (.setExpression 0 (.literal true))).Follows
      (fun e _ => Listens 0 1 (.observer 0) e) toldAgain := by decide
  obtain ⟨hstarted, hsorted, hlast⟩ := rounds_tell_revision hruns 0
  refine ⟨hruns, by decide, ?_, hsorted, ?_⟩
  · exact hstarted _ .step [.leaveObserver, .step, .step] (.observer 0) 2 rfl (by decide)
  · exact hlast changedOnce _ toldAgain 1 (.observer 0) rfl rfl (by decide) hlistens (by decide)

end FilteredFeed.Engine
