import FilteredFeed.Proofs.Engine.Summons

namespace FilteredFeed

open FilteredFeed.Feed FilteredFeed.Filter FilteredFeed.Listener FilteredFeed.Timeline

namespace Listener.Registry

variable {τ : Type} {r : Registry τ} {alive : τ → Bool} {revision bound : Nat} {x : τ}

-- All that a notification tells of is of a revision up to some bound.
structure Within (r : Registry τ) (bound : Nat) : Prop where
  round : ∀ round, r.round = some round → round.revision ≤ bound
  pending : ∀ revision, r.pending = some revision → revision ≤ bound

theorem Within.mono (h : r.Within bound) {bound' : Nat} (hle : bound ≤ bound') :
    r.Within bound' :=
  ⟨fun round hr => Nat.le_trans (h.round round hr) hle,
    fun revision hp => Nat.le_trans (h.pending revision hp) hle⟩

theorem Within.request (h : r.Within bound) (hle : revision ≤ bound) :
    (r.request alive revision).Within bound := by
  cases hround : r.round with
  | none =>
      rw [request_of_none hround]
      refine ⟨fun round hr => ?_, h.pending⟩
      obtain rfl := Option.some.inj hr
      exact hle
  | some round =>
      rw [request_of_round hround]
      refine ⟨h.round, fun revision' hp => ?_⟩
      obtain rfl := Option.some.inj hp
      cases hpending : r.pending with
      | none => exact hle
      | some earlier => exact Nat.max_le.mpr ⟨hle, h.pending earlier hpending⟩

theorem Within.advance (h : r.Within bound) : (r.advance alive).2.Within bound := by
  unfold Registry.advance
  split
  · exact h
  · rename_i revision listener listeners hround
    have hle := h.round _ hround
    refine ⟨fun round hr => ?_, h.pending⟩
    obtain rfl := Option.some.inj hr
    exact hle
  · split
    · rename_i revision hpending
      refine ⟨fun round hr => ?_, nofun⟩
      obtain rfl := Option.some.inj hr
      exact h.pending revision hpending
    · exact ⟨nofun, h.pending⟩

theorem Within.call (h : r.Within bound) (hnext : (r.advance alive).1 = .call x revision) :
    revision ≤ bound := by
  unfold Registry.advance at hnext
  split at hnext
  · cases hnext
  · rename_i hround
    obtain ⟨-, rfl⟩ := Next.call.inj hnext
    exact h.round _ hround
  · split at hnext <;> cases hnext

end Listener.Registry

variable [Patterns]

namespace Engine

variable {e e' : Engine} {t : TimelineId} {q : QueryId} {x : Target} {m : Move}
variable {f : Frame} {rest frames : List Frame} {revision : Nat}

-- A call is made for a round that is under way, and of a revision that the query of the round has.
def Ordered (e : Engine) : Frame → List Frame → Prop
  | .call x revision, rest => ∃ q rest', rest = .release x :: .rounds q :: rest' ∧
      revision ≤ e.revisions q
  | _, _ => True

-- No notification is ahead of its query, and a call that is to be made is made at once.
structure Timely (e : Engine) : Prop where
  within : ∀ q, (e.query q).registry.Within (e.revisions q)
  announced : ∀ q revision, .announce q revision ∈ e.stack → revision ≤ e.revisions q
  first : ∀ f rest, e.stack = f :: rest → Ordered e f rest
  later : ∀ x revision, .call x revision ∉ e.stack.tail

theorem timely_init : Timely {} := by
  refine ⟨fun q => ?_, nofun, nofun, nofun⟩
  have hquery : ({} : Engine).query q = default := rfl
  rw [hquery]
  exact ⟨nofun, nofun⟩

theorem ordered_of_not_call (h : ∀ x revision, f ≠ .call x revision) : Ordered e f rest := by
  cases f with
  | call x revision => exact absurd rfl (h x revision)
  | _ => trivial

-- Other calls come in the place of one, and none of them is to be made at once.
theorem Timely.extend (ht : Timely e) (frames : List Frame) (hle : ∀ q, e.revisions q ≤ e'.revisions q)
    (hwithin : ∀ q, (e'.query q).registry.Within (e'.revisions q)) {base : List Frame}
    (hs : e'.stack = frames ++ base) (hbase : ∀ f ∈ base, f ∈ e.stack)
    (hnone : ∀ x revision, .call x revision ∉ frames ++ base)
    (hframes : ∀ q revision, .announce q revision ∈ frames → revision ≤ e'.revisions q) :
    Timely e' := by
  refine ⟨hwithin, fun q revision hmem => ?_, fun f rest hf => ?_, fun x revision hmem => ?_⟩
  · rw [hs] at hmem
    rcases List.mem_append.mp hmem with hmem | hmem
    · exact hframes q revision hmem
    · exact Nat.le_trans (ht.announced q revision (hbase _ hmem)) (hle q)
  · refine ordered_of_not_call fun x revision heq => hnone x revision ?_
    rw [← hs, hf, heq]
    exact List.mem_cons_self
  · exact hnone x revision (hs ▸ List.mem_of_mem_tail hmem)

theorem within_resumed (ht : Timely e) {g : Registry Target → Registry Target}
    (hg : (g (e.query q).registry).Within (e.revisions q)) (targets : List Target)
    (frames rest : List Frame) (q' : QueryId) :
    ((e.resumed q g targets frames rest).query q').registry.Within (e.revisions q') := by
  rcases query_resumed e q q' g targets frames rest with ⟨-, heq⟩ | ⟨rfl, heq⟩ | ⟨rfl, heq, -⟩
  · exact heq ▸ ht.within q'
  · exact heq ▸ hg
  · exact heq ▸ ht.within q'

theorem revisions_resumed (e : Engine) (q : QueryId) (g : Registry Target → Registry Target)
    (targets : List Target) (frames rest : List Frame) :
    (e.resumed q g targets frames rest).revisions = e.revisions := by
  have hqueries : (e.resumed q g targets frames rest).queries = _ :=
    (frame_retainAll _ targets).1
  funext q'
  unfold revisions query
  rw [hqueries]
  exact revision_modifyQuery { e with stack := rest } q q' rfl

theorem revisions_amend {g : Query Target → Query Target} (hg : Amends g (e.query q))
    (announced : Nat) (q' : QueryId) : e.revisions q' ≤ (e.amend q g announced).revisions q' := by
  unfold revisions
  rcases query_amend e q q' g announced with h | ⟨rfl, h⟩
  · exact Nat.le_of_eq (congrArg Query.revision h).symm
  · rw [h, hg.revision]
    exact Nat.le_succ _

theorem Modest.within {d : Option TimelineId} (h : Modest d e e') (ht : Timely e) (q : QueryId) :
    (e'.query q).registry.Within (e'.revisions q) := by
  obtain ⟨hround, hpending⟩ := Prod.mk.inj (congrFun h.notices q)
  rw [h.revisions]
  exact ⟨fun round hr => (ht.within q).round round (hround ▸ hr),
    fun revision hp => (ht.within q).pending revision (hpending ▸ hp)⟩

omit [Patterns] in
theorem notMem_modest {d : Option TimelineId} {base : List Frame} {revisions : QueryId → Nat}
    (hframes : ∀ f ∈ frames, f.IsModest d revisions)
    (hbase : ∀ x revision, .call x revision ∉ base) (x : Target) (revision : Nat) :
    .call x revision ∉ frames ++ base := by
  intro hmem
  rcases List.mem_append.mp hmem with hmem | hmem
  · exact hframes _ hmem
  · exact hbase x revision hmem

theorem Timely.kept (ht : Timely e) (hs : e.stack = f :: rest) :
    (∀ f ∈ rest, f ∈ e.stack) ∧ ∀ x revision, .call x revision ∉ rest := by
  refine ⟨fun f hmem => hs ▸ List.mem_cons_of_mem _ hmem, fun x revision => ?_⟩
  have hlater := ht.later x revision
  rwa [hs] at hlater

theorem Timely.popped (ht : Timely e) (hs : e.stack = f :: rest) :
    Timely { e with stack := rest } :=
  ht.extend [] (fun _ => Nat.le_refl _) ht.within rfl (ht.kept hs).1 (ht.kept hs).2 nofun

theorem Timely.modest {d : Option TimelineId} (ht : Timely e) (h : Modest d e e')
    (hnone : ∀ x revision, .call x revision ∉ e.stack) : Timely e' := by
  obtain ⟨frames, hs, hframes⟩ := h.stack
  refine ht.extend _ (fun q => Nat.le_of_eq (congrFun h.revisions q).symm) (h.within ht) hs
    (fun _ hmem => hmem) (notMem_modest hframes hnone) fun q revision hmem => ?_
  rw [h.revisions]
  exact Nat.le_of_eq (hframes _ hmem)

-- A notification goes on, without a call.
theorem Timely.resumed (ht : Timely e) (hs : e.stack = f :: rest)
    {g : Registry Target → Registry Target}
    (hg : (g (e.query q).registry).Within (e.revisions q)) (targets : List Target)
    (hframes : ∀ f ∈ frames, f = .rounds q) : Timely (e.resumed q g targets frames rest) := by
  refine ht.extend _ (fun q' => ?_) (fun q' => ?_) (stack_resumed ..) (ht.kept hs).1
    (fun x revision hmem => ?_) fun q' revision hmem => ?_
  · exact Nat.le_of_eq (by rw [revisions_resumed])
  · rw [revisions_resumed]
    exact within_resumed ht hg ..
  · rcases List.mem_append.mp hmem with hmem | hmem
    · cases hframes _ hmem
    · exact (ht.kept hs).2 x revision hmem
  · cases hframes _ hmem

-- It comes to its next call.
theorem Timely.called (ht : Timely e) (hs : e.stack = f :: rest)
    {g : Registry Target → Registry Target}
    (hg : (g (e.query q).registry).Within (e.revisions q)) (targets : List Target)
    (hle : revision ≤ e.revisions q) :
    Timely (e.resumed q g targets [.call x revision, .release x, .rounds q] rest) := by
  have hrevisions := revisions_resumed e q g targets [.call x revision, .release x, .rounds q] rest
  refine ⟨fun q' => ?_, fun q' revision' hmem => ?_, fun f' rest' hf => ?_,
    fun x' revision' hmem => ?_⟩
  · rw [hrevisions]
    exact within_resumed ht hg ..
  · rw [stack_resumed] at hmem
    rw [hrevisions]
    refine ht.announced q' revision' ((ht.kept hs).1 _ ?_)
    simpa using hmem
  · rw [stack_resumed] at hf
    obtain ⟨rfl, rfl⟩ := List.cons.inj hf
    exact ⟨q, rest, rfl, hrevisions ▸ hle⟩
  · rw [stack_resumed] at hmem
    refine (ht.kept hs).2 x' revision' ?_
    simpa using hmem

theorem Timely.continued (ht : Timely e) (hs : e.stack = .rounds q :: rest) :
    Timely (e.resumed q (fun r => (r.advance e.isAlive).2)
      (roundHolds ((e.query q).registry.advance e.isAlive).1)
      (roundFrames q ((e.query q).registry.advance e.isAlive).1) rest) := by
  cases hnext : ((e.query q).registry.advance e.isAlive).1 with
  | call x revision => exact ht.called hs (ht.within q).advance _ ((ht.within q).call hnext)
  | again listeners =>
      exact ht.resumed hs (ht.within q).advance _ fun f hmem => List.mem_singleton.mp hmem
  | done => exact ht.resumed hs (ht.within q).advance _ nofun

theorem Timely.amended (ht : Timely e) {g : Query Target → Query Target}
    (hq : q < e.queries.length) (hg : Amends g (e.query q))
    (hnone : ∀ x revision, .call x revision ∉ e.stack) :
    Timely (e.amend q g ((e.query q).revision + 1)) := by
  refine ht.extend [.announce q _] (revisions_amend hg _) (fun q' => ?_) rfl
    (fun _ hmem => hmem) (fun x revision hmem => ?_) fun q' revision hmem => ?_
  · rw [registry_amend hg]
    exact (ht.within q').mono (revisions_amend hg _ q')
  · rcases List.mem_cons.mp hmem with heq | hmem
    · cases heq
    · exact hnone x revision hmem
  · obtain ⟨rfl, rfl⟩ := Frame.announce.inj (List.mem_singleton.mp hmem)
    exact Nat.le_of_eq (revision_amended hq hg).symm

-- Somebody who has control finds no call that is to be made.
theorem Timely.uncalled (ht : Timely e) (hallows : e.allows m = true) (hm : m ≠ .step) (x : Target)
    (revision : Nat) : .call x revision ∉ e.stack := by
  cases hs : e.stack with
  | nil => exact List.not_mem_nil
  | cons f rest =>
      have hobserver := isOpen_of_allows hallows hm hs
      intro hmem
      rcases List.mem_cons.mp hmem with rfl | hmem
      · cases hobserver
      · exact (ht.kept hs).2 x revision hmem

theorem Timely.after (ht : Timely e) (hallows : e.allows m = true) : Timely (e.after m) := by
  have hopen := ht.uncalled hallows
  have h := proceeds_after hallows
  generalize e.after m = e' at h ⊢
  cases h with
  | modest hm h =>
      refine ht.modest h (hopen ?_)
      rintro rfl
      cases hm
  | performed hs hf h => exact (ht.popped hs).modest h (ht.kept hs).2
  | @announced q revision rest targets hs =>
      have hle := ht.announced q revision (hs ▸ List.mem_cons_self)
      exact ht.resumed hs ((ht.within q).request hle) targets fun f hmem => eq_rounds_of_mem hmem
  | continued hs => exact ht.continued hs
  | @handed o revision rest hs =>
      refine ht.extend [.observer o revision] (fun _ => Nat.le_refl _) ht.within rfl
        (ht.kept hs).1 (fun x revision hmem => ?_) (by simp)
      rcases List.mem_cons.mp hmem with heq | hmem
      · cases heq
      · exact (ht.kept hs).2 x revision hmem
  | left hs => exact ht.popped hs
  | amended hm hq hf =>
      refine ht.amended hq hf (hopen ?_)
      rintro rfl
      cases hm

theorem IsReached.timely (h : IsReached e) : Timely e := by
  obtain ⟨moves, hruns, rfl⟩ := h
  exact hruns.induction timely_init fun _ _ ht hallows _ => ht.after hallows

end Engine

end FilteredFeed
