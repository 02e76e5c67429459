import FilteredFeed.Proofs.Engine.Called

namespace FilteredFeed

open FilteredFeed.Feed FilteredFeed.Filter FilteredFeed.Listener FilteredFeed.Timeline

namespace Listener.Registry

variable {τ : Type} {r : Registry τ} {alive : τ → Bool} {revision c : Nat} {id : SubscriptionId} {x : τ}

-- A round of revision `c`, or of a later one, is still to call a listener.
def Tells (r : Registry τ) (x : τ) (c : Nat) : Prop :=
  ∃ round, r.round = some round ∧ x ∈ round.waiting ∧ c ≤ round.revision

-- Such a round is put off.
def Defers (r : Registry τ) (c : Nat) : Prop := ∃ revision, r.pending = some revision ∧ c ≤ revision

theorem tells_startRound (hmem : (id, x) ∈ r.subscriptions) (halive : alive x = true)
    (hle : c ≤ revision) : (r.startRound alive revision).Tells x c :=
  ⟨_, rfl, (mem_startRound hmem halive).2, hle⟩

theorem Tells.request (h : r.Tells x c) : (r.request alive revision).Tells x c := by
  obtain ⟨round, hround, hmem⟩ := h
  rw [request_of_round hround]
  exact ⟨round, hround, hmem⟩

theorem Defers.request (h : r.Defers c) (horderly : r.Orderly) :
    (r.request alive revision).Defers c := by
  obtain ⟨deferred, hpending, hle⟩ := h
  obtain ⟨round, hround⟩ := Option.isSome_iff_exists.mp (horderly.pending (by rw [hpending]; rfl))
  rw [request_of_round hround, hpending]
  exact ⟨_, rfl, Nat.le_trans hle (Nat.le_max_right ..)⟩

-- A request reaches whoever is alive and subscribed, now or later.
theorem tells_request (hmem : (id, x) ∈ r.subscriptions) (halive : alive x = true)
    (hle : c ≤ revision) :
    (r.request alive revision).Defers c ∨ (r.request alive revision).Tells x c := by
  cases hround : r.round with
  | none =>
      rw [request_of_none hround]
      exact .inr (tells_startRound hmem halive hle)
  | some round =>
      rw [request_of_round hround]
      refine .inl ⟨_, rfl, ?_⟩
      cases r.pending with
      | none => exact hle
      | some earlier => exact Nat.le_trans hle (Nat.le_max_left ..)

theorem Tells.advance (h : r.Tells x c) :
    (∃ revision, (r.advance alive).1 = .call x revision ∧ c ≤ revision) ∨
      (r.advance alive).2.Tells x c := by
  obtain ⟨⟨revision, listeners⟩, hround, hmem, hle⟩ := h
  unfold Registry.advance
  cases listeners with
  | nil => cases hmem
  | cons next rest =>
      simp only [hround]
      rcases List.mem_cons.mp hmem with rfl | hmem
      · exact .inl ⟨revision, rfl, hle⟩
      · exact .inr ⟨_, rfl, hmem, hle⟩

theorem Defers.advance (h : r.Defers c) (horderly : r.Orderly) (hmem : (id, x) ∈ r.subscriptions)
    (halive : alive x = true) : (r.advance alive).2.Defers c ∨ (r.advance alive).2.Tells x c := by
  obtain ⟨deferred, hpending, hle⟩ := h
  obtain ⟨⟨revision, listeners⟩, hround⟩ :=
    Option.isSome_iff_exists.mp (horderly.pending (by rw [hpending]; rfl))
  unfold Registry.advance
  cases listeners with
  | cons next rest => exact .inl ⟨deferred, by simp only [hround, hpending], hle⟩
  | nil =>
      simp only [hround, hpending]
      exact .inr (tells_startRound (r := { r with pending := none }) hmem halive hle)

end Listener.Registry

variable [Patterns]

namespace Engine

variable {e e' : Engine} {t : TimelineId} {q : QueryId} {c : Nat} {d : Option TimelineId} {m : Move}
variable {f : Frame} {rest frames : List Frame} {id : SubscriptionId}

-- The calls that are running will call a timeline for revision `c` or a later one, if it stays
-- subscribed.
inductive Expects (e : Engine) (t : TimelineId) (c : Nat) : Prop where
  | call {revision : Nat} (h : .call (.timeline t) revision ∈ e.stack) (hle : c ≤ revision)
  | told {q : QueryId} (h : (e.query q).registry.Tells (.timeline t) c)
  | announced {q : QueryId} {id : SubscriptionId} {revision : Nat}
      (hsub : (e.timeline t).subscription = some (q, id)) (h : .announce q revision ∈ e.stack)
      (hle : c ≤ revision)
  | deferred {q : QueryId} {id : SubscriptionId}
      (hsub : (e.timeline t).subscription = some (q, id)) (h : (e.query q).registry.Defers c)

-- While no call is running, nobody is about to be called.
theorem Wired.not_expects (hw : Wired e) (hrest : e.stack = []) : ¬ Expects e t c := by
  have hquiet := hw.round_eq_none hrest
  intro h
  cases h with
  | call h => rw [hrest] at h; cases h
  | @told q h =>
      obtain ⟨round, hround, -⟩ := h
      cases hround.symm.trans (hquiet q)
  | announced hsub h => rw [hrest] at h; cases h
  | @deferred q id hsub h =>
      obtain ⟨revision, hpending, -⟩ := h
      have hround := (hw.orderly q).pending (by rw [hpending]; rfl)
      rw [hquiet q] at hround
      cases hround

theorem tells_congr (h : e'.notices q = e.notices q) :
    (e'.query q).registry.Tells (.timeline t) c ↔ (e.query q).registry.Tells (.timeline t) c := by
  have hround : (e'.query q).registry.round = (e.query q).registry.round := congrArg Prod.fst h
  unfold Registry.Tells
  rw [hround]

theorem defers_congr (h : e'.notices q = e.notices q) :
    (e'.query q).registry.Defers c ↔ (e.query q).registry.Defers c := by
  have hpending : (e'.query q).registry.pending = (e.query q).registry.pending :=
    congrArg Prod.snd h
  unfold Registry.Defers
  rw [hpending]

-- What leaves notifications alone, and a timeline subscribed as it was, keeps what it expects.
theorem Expects.mono (h : Expects e t c) (hnotices : e'.notices = e.notices)
    (hs : ∀ f ∈ e.stack, f ∈ e'.stack)
    (hsub : (e'.timeline t).subscription = (e.timeline t).subscription) : Expects e' t c := by
  cases h with
  | call h hle => exact .call (hs _ h) hle
  | @told q h => exact .told ((tells_congr (congrFun hnotices q)).mpr h)
  | announced hsub' h hle => exact .announced (hsub.trans hsub') (hs _ h) hle
  | @deferred q id hsub' h =>
      exact .deferred (hsub.trans hsub') ((defers_congr (congrFun hnotices q)).mpr h)

theorem Modest.expects (h : Modest d e e') (hexpects : Expects e t c)
    (hsub : (e'.timeline t).subscription = (e.timeline t).subscription) : Expects e' t c := by
  obtain ⟨frames, hs, -⟩ := h.stack
  exact hexpects.mono h.notices (fun f hmem => hs ▸ List.mem_append_right _ hmem) hsub

-- A call that is taken from the stack may be the one that was expected.
theorem Expects.popped (h : Expects e t c) (hs : e.stack = f :: rest)
    (hf : ∀ q revision, f ≠ .announce q revision) :
    Expects { e with stack := rest } t c ∨ ∃ revision, f = .call (.timeline t) revision ∧ c ≤ revision := by
  cases h with
  | @call revision h hle =>
      rw [hs] at h
      rcases List.mem_cons.mp h with heq | hmem
      · exact .inr ⟨revision, heq.symm, hle⟩
      · exact .inl (.call hmem hle)
  | told h => exact .inl (.told h)
  | announced hsub h hle => exact .inl (.announced hsub (mem_rest hs h (hf _ _).symm) hle)
  | deferred hsub h => exact .inl (.deferred hsub h)

-- What a notification that goes on has to do so that nobody is forgotten who is to be told of
-- revision `c`.
structure Forwards (e : Engine) (q : QueryId) (g : Registry Target → Registry Target) (f : Frame)
    (frames : List Frame) (c : Nat) : Prop where
  waiting : ∀ target, (e.query q).registry.Tells target c →
    (∃ revision, .call target revision ∈ frames ∧ c ≤ revision) ∨
      (g (e.query q).registry).Tells target c
  told : ((e.query q).registry.Defers c ∨ ∃ revision, f = .announce q revision ∧ c ≤ revision) →
    ∀ s ∈ (e.query q).registry.subscriptions, e.isAlive s.2 = true →
      (g (e.query q).registry).Defers c ∨ (g (e.query q).registry).Tells s.2 c
  uncalled : ∀ target revision, f ≠ .call target revision
  others : ∀ q' revision, q' ≠ q → f ≠ .announce q' revision

section Resumed

variable {g : Registry Target → Registry Target}

theorem Forwards.expects_told (h : Forwards e q g f frames c) (hw : Wired e)
    (targets : List Target) {q' : QueryId}
    (hsub : (e.timeline t).subscription = some (q', id))
    (hsame : ((e.resumed q g targets frames rest).timeline t).subscription =
      (e.timeline t).subscription)
    (hcause : (e.query q').registry.Defers c ∨
      q' = q ∧ ∃ revision, f = .announce q revision ∧ c ≤ revision) :
    Expects (e.resumed q g targets frames rest) t c := by
  obtain ⟨halive, hmem⟩ := hw.alive hsub
  rcases query_resumed e q q' g targets frames rest with ⟨hne, heq⟩ | ⟨rfl, heq⟩ |
    ⟨rfl, -, hempty⟩
  · rcases hcause with hdefers | ⟨rfl, -⟩
    · exact .deferred (hsame.trans hsub) (heq ▸ hdefers)
    · exact absurd rfl hne
  · rcases h.told (hcause.imp_right And.right) _ hmem halive with hdefers | htells
    · exact .deferred (hsame.trans hsub) (heq ▸ hdefers)
    · exact .told (q := q') (heq ▸ htells)
  · rw [hempty] at hmem
    cases hmem

theorem Forwards.expects (h : Forwards e q g f frames c) (hw : Wired e) (hs : e.stack = f :: rest)
    (targets : List Target) (hexpects : Expects e t c)
    (hsame : ((e.resumed q g targets frames rest).timeline t).subscription =
      (e.timeline t).subscription) :
    Expects (e.resumed q g targets frames rest) t c := by
  cases hexpects with
  | call hmem hle => exact .call (mem_resumed hs targets hmem (h.uncalled _ _).symm) hle
  | @told q' htells =>
      rcases query_resumed e q q' g targets frames rest with ⟨-, heq⟩ | ⟨rfl, heq⟩ | ⟨rfl, heq, -⟩
      · exact .told (q := q') (heq ▸ htells)
      · rcases h.waiting _ htells with ⟨revision, hcall, hle⟩ | hstill
        · refine .call ?_ hle
          rw [stack_resumed]
          exact List.mem_append_left _ hcall
        · exact .told (q := q') (heq ▸ hstill)
      · exact .told (q := q') (heq ▸ htells)
  | @announced q' id revision hsub hmem hle =>
      by_cases hnow : f = .announce q' revision
      · by_cases hq : q' = q
        · subst hq
          exact h.expects_told hw targets hsub hsame (.inr ⟨rfl, revision, hnow, hle⟩)
        · exact absurd hnow (h.others q' revision hq)
      · exact .announced (hsame.trans hsub) (mem_resumed hs targets hmem (Ne.symm hnow)) hle
  | deferred hsub hdefers => exact h.expects_told hw targets hsub hsame (.inl hdefers)

theorem forwards_request (hw : Wired e) (q : QueryId) (revision : Nat) (frames : List Frame)
    (c : Nat) : Forwards e q (·.request e.isAlive revision) (.announce q revision) frames c := by
  refine ⟨fun target htells => .inr htells.request, ?_, nofun, fun q' revision' hne heq => ?_⟩
  · rintro (hdefers | ⟨revision', heq, hle⟩) s hmem halive
    · exact .inl (hdefers.request (hw.orderly q))
    · obtain ⟨-, rfl⟩ := Frame.announce.inj heq
      exact Registry.tells_request hmem halive hle
  · exact hne (Frame.announce.inj heq).1.symm

theorem forwards_advance (hw : Wired e) (q : QueryId) (c : Nat) :
    Forwards e q (fun r => (r.advance e.isAlive).2) (.rounds q)
      (roundFrames q ((e.query q).registry.advance e.isAlive).1) c := by
  refine ⟨fun target htells => ?_, ?_, nofun, nofun⟩
  · refine htells.advance.imp_left ?_
    rintro ⟨revision, hnext, hle⟩
    refine ⟨revision, ?_, hle⟩
    rw [hnext]
    exact List.mem_cons_self
  · rintro (hdefers | ⟨revision, heq, -⟩) s hmem halive
    · exact hdefers.advance (hw.orderly q) hmem halive
    · cases heq

end Resumed

-- What is expected is so until it comes.
theorem Proceeds.expects (h : Proceeds e m e') (hw : Wired e) (hexpects : Expects e t c)
    (hsame : (e'.timeline t).subscription = (e.timeline t).subscription) :
    Expects e' t c ∨ ∃ revision, e.Calls t revision m ∧ c ≤ revision := by
  cases h with
  | modest hm h => exact .inl (h.expects hexpects hsame)
  | @performed f rest e' hs hf h =>
      have hannounce (q : QueryId) (revision : Nat) : f ≠ .announce q revision := by
        rintro rfl
        cases hf
      rcases hexpects.popped hs hannounce with hstill | ⟨revision, rfl, hle⟩
      · exact .inl (h.expects hstill hsame)
      · exact .inr ⟨revision, calls_of_stack hs, hle⟩
  | @announced q revision rest targets hs =>
      exact .inl ((forwards_request hw q revision _ c).expects hw hs targets hexpects hsame)
  | @continued q rest hs => exact .inl ((forwards_advance hw q c).expects hw hs _ hexpects hsame)
  | @handed o revision rest hs =>
      have hstill := (hexpects.popped hs nofun).resolve_right fun ⟨_, heq, _⟩ => nomatch heq
      exact .inl (hstill.mono rfl (fun f hmem => List.mem_cons_of_mem _ hmem) rfl)
  | @left o revision rest hs =>
      exact .inl ((hexpects.popped hs nofun).resolve_right fun ⟨_, heq, _⟩ => nomatch heq)
  | @amended m q f hm hq hf =>
      refine .inl (hexpects.mono ?_ (fun _ hmem => mem_amend hmem) hsame)
      funext q'
      unfold notices
      rw [registry_amend hf]

theorem Expects.after (h : Expects e t c) (hw : Wired e) (hallows : e.allows m = true)
    (hsame : ((e.after m).timeline t).subscription = (e.timeline t).subscription) :
    Expects (e.after m) t c ∨ ∃ revision, e.Calls t revision m ∧ c ≤ revision :=
  (proceeds_after hallows).expects hw h hsame

-- Who is subscribed to a query expects a call when the query is given another expression, or is
-- toggled.

omit [Patterns] in
theorem Modest.not_amends {m : Move} (h : m.isModest = true) : m.amends = none := by
  cases m with
  | step | leaveObserver | setExpression | setSource => cases h
  | _ => rfl

theorem revisions_after (hallows : e.allows m = true) (hm : m.amends ≠ some q) :
    (e.after m).revisions q = e.revisions q := by
  have h := proceeds_after hallows
  generalize e.after m = e' at h ⊢
  cases h with
  | modest hmodest h => rw [h.revisions]
  | performed hs hf h => rw [h.revisions]; rfl
  | announced hs => rw [revisions_resumed]
  | continued hs => rw [revisions_resumed]
  | handed hs => rfl
  | left hs => rfl
  | @amended m q' f hamends hq hf =>
      rcases query_amend e q' q f ((e.query q').revision + 1) with h | ⟨rfl, -⟩
      · exact congrArg Query.revision h
      · exact absurd hamends hm

theorem expects_amended (hallows : e.allows m = true) (hm : m.amends = some q)
    (hsub : ((e.after m).timeline t).subscription = some (q, id)) :
    Expects (e.after m) t ((e.after m).revisions q) := by
  have h := proceeds_after hallows
  generalize e.after m = e' at h hsub ⊢
  cases h with
  | modest hmodest h => cases (Modest.not_amends hmodest).symm.trans hm
  | performed | announced | continued | handed | left => cases hm
  | @amended m q' f hamends hq hf =>
      obtain rfl := Option.some.inj (hamends.symm.trans hm)
      exact .announced hsub List.mem_cons_self (Nat.le_of_eq (revision_amended hq hf))

-- The query that is about to be marked as used once more, or once less.
def toggling (e : Engine) : Option QueryId :=
  match e.stack with
  | .activate q :: _ => some q
  | .deactivate q :: _ => if (e.query q).isActive then some q else none
  | _ => none

-- It is counted, and the toggle is announced if somebody listens.
theorem after_toggling (h : e.toggling = some q) : ∃ rest f,
    e.after .step = (({ e with stack := rest } : Engine).modifyQuery q f).toggled q ∧
      (f (e.query q)).revision = (e.query q).revision ∧
      (f (e.query q)).registry = (e.query q).registry := by
  unfold toggling at h
  split at h
  · rename_i q' rest hs
    obtain rfl := Option.some.inj h
    refine ⟨rest, fun query => { query with activations := query.activations + 1 }, ?_, rfl, rfl⟩
    simp only [Engine.after, step, hs, Option.getD_some]
    rfl
  · rename_i q' rest hs
    split at h
    · rename_i hused
      obtain rfl := Option.some.inj h
      have hused : (({ e with stack := rest } : Engine).query q').isActive = true := hused
      refine ⟨rest, fun query => { query with activations := query.activations - 1 }, ?_, rfl, rfl⟩
      simp only [Engine.after, step, hs, Option.getD_some]
      exact if_pos hused
    · cases h
  · cases h

theorem announces_toggled {x : Target} (hmem : (id, x) ∈ e.subscriptions q)
    (halive : e.isAlive x = true) : .announce q (e.revisions q) ∈ (e.toggled q).stack := by
  unfold toggled
  split
  · rename_i hnone
    have hlistens : (id, x) ∈ (e.query q).registry.subscriptions.filter fun s => e.isAlive s.2 :=
      List.mem_filter.mpr ⟨hmem, halive⟩
    rw [List.length_eq_zero_iff.mp hnone] at hlistens
    cases hlistens
  · exact List.mem_cons_self

-- A toggle leaves timelines as they are, and whoever is subscribed expects a call.
theorem expects_toggled (hw : Wired e) (htoggling : e.toggling = some q)
    (hsub : (e.timeline t).subscription = some (q, id)) :
    (e.after .step).timeline t = e.timeline t ∧ Expects (e.after .step) t (e.revisions q) := by
  obtain ⟨halive, hmem⟩ := hw.alive hsub
  have hlt := (hw.bound t).known q ((hw.bound t).subscribed q id hsub).2.1
  obtain ⟨rest, f, hafter, hrevision, hregistry⟩ := after_toggling htoggling
  have hquery : (({ e with stack := rest } : Engine).modifyQuery q f).query q = f (e.query q) :=
    query_modifyQuery_self (e := { e with stack := rest }) hlt f
  have hlistens : (id, .timeline t) ∈
      (({ e with stack := rest } : Engine).modifyQuery q f).subscriptions q := by
    unfold subscriptions
    rwa [hquery, hregistry]
  have hT : (e.after .step).timeline t = e.timeline t := by
    rw [hafter]
    exact timeline_congr (timelines_toggled _ q) t
  refine ⟨hT, .announced (hT ▸ hsub) ?_ (Nat.le_refl _)⟩
  have hannounces := announces_toggled hlistens halive
  rw [hafter]
  unfold revisions at hannounces ⊢
  rwa [hquery, hrevision] at hannounces

end Engine

end FilteredFeed
