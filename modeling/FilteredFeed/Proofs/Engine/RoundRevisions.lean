import FilteredFeed.Proofs.Engine.Announced
import FilteredFeed.Proofs.Engine.Expected
import Mathlib.Data.List.Induction

namespace FilteredFeed

open FilteredFeed.Feed FilteredFeed.Filter FilteredFeed.Listener FilteredFeed.Timeline

namespace Listener.Registry

variable {τ : Type} {r : Registry τ} {alive : τ → Bool} {round : Round τ} {x : τ} {revision : Nat}

-- Whether a notification goes on with a further round.
def Next.isAgain : Next τ → Bool
  | .again _ => true
  | .call _ _ | .done => false

theorem round_request (h : (r.request alive revision).round = some round) :
    (r.isNotifying = false ∧ round.revision = revision) ∨
      (r.isNotifying = true ∧ r.round = some round) := by
  unfold isNotifying
  cases hround : r.round with
  | none =>
      rw [request_of_none hround] at h
      obtain rfl := Option.some.inj h
      exact .inl ⟨rfl, rfl⟩
  | some before =>
      rw [request_of_round hround] at h
      exact .inr ⟨rfl, hround.symm.trans h⟩

-- A further round is of the revision that was put off.
theorem round_of_advance (h : (r.advance alive).2.round = some round) :
    ((r.advance alive).1.isAgain = true ∧ r.pending = some round.revision) ∨
      ((r.advance alive).1.isAgain = false ∧ ∃ before, r.round = some before ∧
        before.revision = round.revision) := by
  unfold advance at h ⊢
  split at h
  · rename_i hround
    cases hround.symm.trans h
  · rename_i revision listener listeners hround
    obtain rfl := Option.some.inj h
    exact .inr ⟨rfl, _, hround, rfl⟩
  · rename_i revision hround
    split at h
    · rename_i requested hpending
      obtain rfl := Option.some.inj h
      exact .inl ⟨rfl, hpending⟩
    · cases h

theorem round_of_call (h : (r.advance alive).1 = .call x revision) :
    ∃ round, (r.advance alive).2.round = some round ∧ round.revision = revision := by
  unfold advance at h ⊢
  split at h
  · cases h
  · rename_i hround
    obtain ⟨-, rfl⟩ := Next.call.inj h
    exact ⟨_, rfl, rfl⟩
  · split at h <;> cases h

end Listener.Registry

variable [Patterns]

namespace Engine

variable {e e' : Engine} {q : QueryId} {x : Target} {m : Move} {moves : List Move}
variable {rest : List Frame} {revision : Nat}

-- Whether a move starts a round of a query.
def startsRound (e : Engine) (q : QueryId) : Move → Bool
  | .step =>
      match e.stack with
      | .announce q' _ :: _ => q' == q && !(e.query q).registry.isNotifying
      | .rounds q' :: _ => q' == q && ((e.query q).registry.advance e.isAlive).1.isAgain
      | _ => false
  | _ => false

-- The listener that a round of a query calls in a move, and the revision of which it is told.
def roundCall (e : Engine) (q : QueryId) : Move → Option (Target × Nat)
  | .step =>
      match e.stack with
      | .call x revision :: .release _ :: .rounds q' :: _ =>
          if q' = q then some (x, revision) else none
      | _ => none
  | _ => none

-- All such calls of a run.
def roundCalls (q : QueryId) : Engine → List Move → List (Target × Nat)
  | _, [] => []
  | e, m :: moves => (e.roundCall q m).toList ++ roundCalls q (e.after m) moves

theorem roundCalls_append (e : Engine) (moves more : List Move) :
    roundCalls q e (moves ++ more) = roundCalls q e moves ++ roundCalls q (e.replay moves) more := by
  induction moves generalizing e with
  | nil => rfl
  | cons m moves ih => simp only [List.cons_append, roundCalls, ih, replay_cons, List.append_assoc]

theorem roundCalls_concat (e : Engine) (moves : List Move) (m : Move) :
    roundCalls q e (moves ++ [m]) =
      roundCalls q e moves ++ ((e.replay moves).roundCall q m).toList := by
  rw [roundCalls_append]
  simp [roundCalls]

theorem roundCall_eq_some : e.roundCall q m = some (x, revision) ↔
    m = .step ∧ ∃ y rest, e.stack = .call x revision :: .release y :: .rounds q :: rest := by
  constructor
  · intro h
    cases m with
    | step =>
        unfold roundCall at h
        dsimp only at h
        split at h
        · rename_i x' revision' y q' rest hs
          split at h
          · rename_i hq
            subst hq
            obtain ⟨rfl, rfl⟩ := Prod.mk.inj (Option.some.inj h)
            exact ⟨rfl, y, rest, hs⟩
          · cases h
        · cases h
    | _ => cases h
  · rintro ⟨rfl, y, rest, hs⟩
    simp [roundCall, hs]

-- Only what is announced, or goes on with a round, can start one.
theorem startsRound_of_stack {f : Frame} (hs : e.stack = f :: rest)
    (hf : f.isModest = true ∨ f.isCall = true) : e.startsRound q .step = false := by
  unfold startsRound
  rw [hs]
  cases f with
  | announce | rounds => rcases hf with hf | hf <;> cases hf
  | _ => rfl

-- What a move makes of the round of a query. One that starts is of the present revision.
theorem round_after (hp : Punctual e) (hallows : e.allows m = true) {round : Round Target}
    (hround : ((e.after m).query q).registry.round = some round) :
    (e.startsRound q m = true ∧ round.revision = e.revisions q) ∨
    (e.startsRound q m = false ∧ ∃ before, (e.query q).registry.round = some before ∧
      before.revision = round.revision) := by
  have h := proceeds_after hallows
  generalize e.after m = e' at h hround
  have hsame (hnotices : e'.notices q = e.notices q) :
      (e.query q).registry.round = some round :=
    (congrArg Prod.fst hnotices).symm.trans hround
  cases h with
  | modest hm h =>
      refine .inr ⟨?_, round, hsame (congrFun h.notices q), rfl⟩
      cases m with
      | step => cases hm
      | _ => rfl
  | performed hs hf h =>
      exact .inr ⟨startsRound_of_stack hs (.inl hf), round, hsame (congrFun h.notices q), rfl⟩
  | @announced q' revision rest targets hs =>
      rcases query_resumed e q' q (·.request e.isAlive revision) targets
        (if (e.query q').registry.isNotifying then [] else [.rounds q']) rest with
        ⟨hne, heq⟩ | ⟨rfl, heq⟩ | ⟨rfl, heq, hempty⟩
      · refine .inr ⟨?_, round, heq ▸ hround, rfl⟩
        simp [startsRound, hs, Ne.symm hne]
      · rw [heq] at hround
        rcases Registry.round_request hround with ⟨hidle, hrevision⟩ | ⟨hrunning, hbefore⟩
        · refine .inl ⟨by simp [startsRound, hs, hidle], ?_⟩
          rw [hrevision]
          exact hp.first q revision rest hs
        · exact .inr ⟨by simp [startsRound, hs, hrunning], round, hbefore, rfl⟩
      · rw [heq, hempty] at hround
        cases hround
  | @continued q' rest hs =>
      rcases query_resumed e q' q (fun r => (r.advance e.isAlive).2)
        (roundHolds ((e.query q').registry.advance e.isAlive).1)
        (roundFrames q' ((e.query q').registry.advance e.isAlive).1) rest with
        ⟨hne, heq⟩ | ⟨rfl, heq⟩ | ⟨rfl, heq, hempty⟩
      · refine .inr ⟨?_, round, heq ▸ hround, rfl⟩
        simp [startsRound, hs, Ne.symm hne]
      · rw [heq] at hround
        rcases Registry.round_of_advance hround with ⟨hagain, hpending⟩ | ⟨hgoes, hbefore⟩
        · refine .inl ⟨by simp [startsRound, hs, hagain], ?_⟩
          exact hp.pending_of_silent (hp.silent hs rfl) q _ hpending
        · exact .inr ⟨by simp [startsRound, hs, hgoes], hbefore⟩
      · rw [heq, hempty] at hround
        cases hround
  | handed hs => exact .inr ⟨startsRound_of_stack hs (.inr rfl), round, hsame rfl, rfl⟩
  | left hs => exact .inr ⟨rfl, round, hsame rfl, rfl⟩
  | @amended m q' f hm hq hf =>
      refine .inr ⟨?_, round, ?_, rfl⟩
      · cases m with
        | step => cases hm
        | _ => rfl
      · rwa [registry_amend hf] at hround

-- A call that is to be made is of the round that is under way.
def Carried (e : Engine) : Prop :=
  ∀ x revision rest, e.stack = .call x revision :: rest →
    ∃ q rest' round, rest = .release x :: .rounds q :: rest' ∧
      (e.query q).registry.round = some round ∧ round.revision = revision

theorem carried_of_uncalled (h : ∀ x revision, .call x revision ∉ e.stack) : Carried e :=
  fun x revision _ hs => absurd (hs ▸ List.mem_cons_self) (h x revision)

theorem carried_continued (ht : Timely e) (hs : e.stack = .rounds q :: rest) :
    Carried (e.resumed q (fun r => (r.advance e.isAlive).2)
      (roundHolds ((e.query q).registry.advance e.isAlive).1)
      (roundFrames q ((e.query q).registry.advance e.isAlive).1) rest) := by
  intro x revision rest' hs'
  rw [stack_resumed] at hs'
  have hmem : .call x revision ∈ roundFrames q ((e.query q).registry.advance e.isAlive).1 := by
    refine (List.mem_append.mp (hs' ▸ List.mem_cons_self)).resolve_right ?_
    exact (ht.kept hs).2 x revision
  have hnext := next_of_mem_roundFrames hmem
  obtain ⟨round, hround, hrevision⟩ := Registry.round_of_call hnext
  rw [hnext] at hs'
  refine ⟨q, rest, round, (List.cons.inj hs').2.symm, ?_, hrevision⟩
  rcases query_resumed e q q (fun r => (r.advance e.isAlive).2)
    (roundHolds ((e.query q).registry.advance e.isAlive).1)
    (roundFrames q ((e.query q).registry.advance e.isAlive).1) rest with
    ⟨hne, -⟩ | ⟨-, heq⟩ | ⟨-, -, hempty⟩
  · exact absurd rfl hne
  · rw [heq]
    exact hround
  · rw [hempty] at hnext
    cases hnext

theorem Timely.carried (ht : Timely e) (hallows : e.allows m = true) : Carried (e.after m) := by
  have huncalled := ht.uncalled hallows
  have hproceeds := proceeds_after hallows
  generalize e.after m = e' at hproceeds ⊢
  cases hproceeds with
  | modest hm h =>
      obtain ⟨frames, hs, hframes⟩ := h.stack
      refine carried_of_uncalled ?_
      rw [hs]
      refine notMem_modest hframes (huncalled ?_)
      rintro rfl
      cases hm
  | performed hs hf h =>
      obtain ⟨frames, hs', hframes⟩ := h.stack
      refine carried_of_uncalled ?_
      rw [hs']
      exact notMem_modest hframes (ht.kept hs).2
  | announced hs =>
      refine carried_of_uncalled fun x revision hmem => ?_
      rw [stack_resumed] at hmem
      rcases List.mem_append.mp hmem with hmem | hmem
      · cases eq_rounds_of_mem hmem
      · exact (ht.kept hs).2 x revision hmem
  | continued hs => exact carried_continued ht hs
  | handed hs =>
      refine carried_of_uncalled fun x revision hmem => ?_
      rcases List.mem_cons.mp hmem with heq | hmem
      · cases heq
      · exact (ht.kept hs).2 x revision hmem
  | left hs => exact carried_of_uncalled (ht.kept hs).2
  | amended hm hq hf =>
      refine carried_of_uncalled fun x revision hmem => ?_
      rcases List.mem_cons.mp hmem with heq | hmem
      · cases heq
      · refine huncalled ?_ x revision hmem
        rintro rfl
        cases hm

theorem IsReached.carried (h : IsReached e) : Carried e := by
  obtain ⟨moves, hruns, rfl⟩ := h
  have hboth := hruns.induction (P := fun e => IsReached e ∧ Carried e)
    ⟨⟨[], trivial, rfl⟩, carried_of_uncalled fun _ _ => List.not_mem_nil⟩
    fun e m hp hallows _ => ⟨hp.1.after hallows, hp.1.timely.carried hallows⟩
  exact hboth.2

-- Every call is one of a round of some query.
theorem IsReached.exists_roundCall (h : IsReached e) (hs : e.stack = .call x revision :: rest) :
    ∃ q, e.roundCall q .step = some (x, revision) := by
  obtain ⟨q, rest', -, rfl, -⟩ := h.carried x revision rest hs
  exact ⟨q, roundCall_eq_some.mpr ⟨rfl, x, rest', hs⟩⟩

theorem IsReached.revision_of_call (h : IsReached e) (hcall : e.roundCall q m = some (x, revision)) :
    ∃ round, (e.query q).registry.round = some round ∧ round.revision = revision := by
  obtain ⟨-, y, rest, hs⟩ := roundCall_eq_some.mp hcall
  obtain ⟨q', rest', round, hrest, hround, hrevision⟩ := h.carried x revision _ hs
  cases hrest
  exact ⟨round, hround, hrevision⟩

-- No revision of a query goes down.
theorem revisions_le_after (hallows : e.allows m = true) (q : QueryId) :
    e.revisions q ≤ (e.after m).revisions q := by
  have h := proceeds_after hallows
  generalize e.after m = e' at h ⊢
  cases h with
  | modest hm h | performed hs hf h => exact Nat.le_of_eq (congrFun h.revisions q).symm
  | announced | continued => exact Nat.le_of_eq (by rw [revisions_resumed])
  | handed | left => exact Nat.le_refl _
  | amended hm hq hf => exact revisions_amend hf _ q

-- The last round of a query that a run has started, and the revision that the query had then.
def StartedAt (q : QueryId) (revision : Nat) (moves : List Move) : Prop :=
  ∃ before start since, moves = before ++ start :: since ∧
    (({} : Engine).replay before).startsRound q start = true ∧
    ((({} : Engine).replay before).after start).Follows
      (fun e m => e.startsRound q m = false) since ∧
    (({} : Engine).replay before).revisions q = revision

theorem startedAt_concat (hstarts : (({} : Engine).replay moves).startsRound q m = true) :
    StartedAt q ((({} : Engine).replay moves).revisions q) (moves ++ [m]) :=
  ⟨moves, m, [], rfl, hstarts, trivial, rfl⟩

theorem StartedAt.concat (h : StartedAt q revision moves)
    (hallows : (({} : Engine).replay moves).allows m = true)
    (hnone : (({} : Engine).replay moves).startsRound q m = false) :
    StartedAt q revision (moves ++ [m]) := by
  obtain ⟨before, start, since, rfl, hstarts, hsince, hrevision⟩ := h
  rw [replay_append, replay_cons] at hallows hnone
  refine ⟨before, start, since ++ [m], by simp, hstarts, ?_, hrevision⟩
  exact follows_append.mpr ⟨hsince, hallows, hnone, trivial⟩

-- A round that is under way is of the revision that its query had when it was started.
theorem startedAt_of_round (hruns : ({} : Engine).Runs moves) {round : Round Target}
    (hround : ((({} : Engine).replay moves).query q).registry.round = some round) :
    StartedAt q round.revision moves := by
  induction moves using List.reverseRecOn generalizing round with
  | nil => cases hround
  | append_singleton moves m ih =>
      obtain ⟨hbefore, hallows, -⟩ := follows_append.mp hruns
      rw [replay_concat] at hround
      rcases round_after (isReached_replay hbefore).punctual hallows hround with
        ⟨hstarts, hrevision⟩ | ⟨hnone, before, hold, hrevision⟩
      · rw [hrevision]
        exact startedAt_concat hstarts
      · rw [← hrevision]
        exact (ih hbefore hold).concat hallows hnone

-- The calls of the rounds of a query so far are in the order of their revisions, and none is ahead
-- of the round that is under way.
structure Ascends (e : Engine) (q : QueryId) (calls : List (Target × Nat)) : Prop where
  sorted : calls.Pairwise fun c c' => c.2 ≤ c'.2
  past : ∀ c ∈ calls, c.2 ≤ e.revisions q
  current : ∀ c ∈ calls, ∀ round, (e.query q).registry.round = some round → c.2 ≤ round.revision

theorem Ascends.after {calls : List (Target × Nat)} (h : Ascends e q calls) (hreached : IsReached e)
    (hallows : e.allows m = true) :
    Ascends (e.after m) q (calls ++ (e.roundCall q m).toList) := by
  have hle := revisions_le_after hallows q
  have hold (c : Target × Nat) (hpast : c.2 ≤ e.revisions q)
      (hcurrent : ∀ round, (e.query q).registry.round = some round → c.2 ≤ round.revision)
      (round : Round Target) (hround : ((e.after m).query q).registry.round = some round) :
      c.2 ≤ round.revision := by
    rcases round_after hreached.punctual hallows hround with ⟨-, hnow⟩ | ⟨-, before, hbefore, hsame⟩
    · exact hnow ▸ hpast
    · exact hsame ▸ hcurrent before hbefore
  cases hcall : e.roundCall q m with
  | none =>
      rw [Option.toList_none, List.append_nil]
      exact ⟨h.sorted, fun c hc => Nat.le_trans (h.past c hc) hle,
        fun c hc => hold c (h.past c hc) (h.current c hc)⟩
  | some call =>
      obtain ⟨x, revision⟩ := call
      obtain ⟨round, hround, rfl⟩ := hreached.revision_of_call hcall
      have hnow : round.revision ≤ e.revisions q := (hreached.timely.within q).round round hround
      have hself : ∀ round', (e.query q).registry.round = some round' →
          round.revision ≤ round'.revision := by
        intro round' hround'
        obtain rfl := Option.some.inj (hround.symm.trans hround')
        exact Nat.le_refl _
      refine ⟨?_, fun c hc => ?_, fun c hc => ?_⟩
      · refine List.pairwise_append.mpr ⟨h.sorted, List.pairwise_singleton .., fun c hc c' hc' => ?_⟩
        rw [List.mem_singleton.mp hc']
        exact h.current c hc round hround
      · rcases List.mem_append.mp hc with hc | hc
        · exact Nat.le_trans (h.past c hc) hle
        · rw [List.mem_singleton.mp hc]
          exact Nat.le_trans hnow hle
      · rcases List.mem_append.mp hc with hc | hc
        · exact hold c (h.past c hc) (h.current c hc)
        · rw [List.mem_singleton.mp hc]
          exact hold (x, round.revision) hnow hself

theorem ascends_replay (hruns : ({} : Engine).Runs moves) (q : QueryId) :
    Ascends (({} : Engine).replay moves) q (roundCalls q {} moves) := by
  induction moves using List.reverseRecOn with
  | nil => exact ⟨.nil, nofun, nofun⟩
  | append_singleton moves m ih =>
      obtain ⟨hbefore, hallows, -⟩ := follows_append.mp hruns
      rw [replay_concat, roundCalls_concat]
      exact (ih hbefore).after (isReached_replay hbefore) hallows

end Engine

end FilteredFeed
