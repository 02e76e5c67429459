import FilteredFeed.Proofs.Listener.Bus

namespace FilteredFeed.Listener.Bus

variable {τ : Type} {b : Bus τ} {m first : Move τ} {rest moves : List (Move τ)} {revision : Nat}
  {waiting : List τ}

-- Whom a round that starts now has to call, once for each subscription.
def audience (b : Bus τ) : List τ :=
  (b.registry.subscriptions.filter fun s => b.alive s.2).map Prod.snd

-- The call that a move makes, with the revision that it delivers.
def call? (b : Bus τ) : Move τ → Option (τ × Nat)
  | .proceed =>
      match (b.registry.advance b.alive).1 with
      | .call target revision => some (target, revision)
      | _ => none
  | _ => none

def calls : Bus τ → List (Move τ) → List (τ × Nat)
  | _, [] => []
  | b, m :: moves => (b.call? m).toList ++ calls (b.after m) moves

theorem calls_concat (b : Bus τ) (moves : List (Move τ)) (m : Move τ) :
    b.calls (moves ++ [m]) = b.calls moves ++ ((b.replay moves).call? m).toList := by
  induction moves generalizing b with
  | nil => exact List.append_nil _
  | cons first moves ih =>
      rw [List.cons_append, calls, ih, calls, List.append_assoc]
      rfl

theorem replay_concat (b : Bus τ) (moves : List (Move τ)) (m : Move τ) :
    b.replay (moves ++ [m]) = (b.replay moves).after m :=
  b.replay_append moves [m]

def Move.request? : Move τ → Option Nat
  | .notify revision => some revision
  | _ => none

-- The revisions that are asked for.
def requests (moves : List (Move τ)) : List Nat := moves.filterMap Move.request?

theorem requests_concat (moves : List (Move τ)) (m : Move τ) :
    requests (moves ++ [m]) = requests moves ++ m.request?.toList := by
  rw [requests, List.filterMap_append]
  cases hm : m.request? with
  | none => rw [List.filterMap_cons_none hm]; rfl
  | some revision => rw [List.filterMap_cons_some hm]; rfl

theorem mem_requests (h : .notify revision ∈ moves) : revision ∈ requests moves :=
  List.mem_filterMap.mpr ⟨_, h, rfl⟩

-- A whole round, from the move that starts it. It calls those who are subscribed and alive just
-- before, in the order of their subscriptions, and is over when the last of them has returned.
structure IsRound (b : Bus τ) (first : Move τ) (rest : List (Move τ)) (revision : Nat) : Prop where
  starts : (b.after first).registry.round = some ⟨revision, b.audience⟩
  calls : b.calls (first :: rest) = b.audience.map (·, revision)
  ended : (b.replay (first :: rest)).registry.round = some ⟨revision, []⟩
  returned : (b.replay (first :: rest)).stack = [.notification]

-- The moves of a notification, round by round. For whatever is asked for during a round there is
-- one more, of the highest revision.
inductive Rounds : Bus τ → Move τ → List (Move τ) → Nat → Prop where
  -- the notification still runs, or a listener broke it off
  | underWay {b : Bus τ} {first : Move τ} {rest : List (Move τ)} {revision : Nat}
      (starts : (b.after first).registry.round = some ⟨revision, b.audience⟩)
      (calls : b.calls (first :: rest) <+: b.audience.map (·, revision))
      (hopen : (b.replay (first :: rest)).stack ≠ [] ∨ .fail ∈ rest) : Rounds b first rest revision
  | last {b : Bus τ} {first : Move τ} {rest : List (Move τ)} {revision : Nat}
      (round : b.IsRound first rest revision) (quiet : requests rest = []) :
      Rounds b first (rest ++ [.proceed]) revision
  | next {b : Bus τ} {first : Move τ} {rest more : List (Move τ)} {revision highest : Nat}
      (round : b.IsRound first rest revision) (requested : (requests rest).max? = some highest)
      (further : Rounds (b.replay (first :: rest)) .proceed more highest) :
      Rounds b first (rest ++ .proceed :: more) revision

-- What a round has come to.
structure UnderWay (b : Bus τ) (first : Move τ) (rest : List (Move τ)) (revision : Nat)
    (waiting : List τ) : Prop where
  starts : (b.after first).registry.round = some ⟨revision, b.audience⟩
  calls : b.calls (first :: rest) ++ waiting.map (·, revision) = b.audience.map (·, revision)
  round : (b.replay (first :: rest)).registry.round = some ⟨revision, waiting⟩
  pending : (b.replay (first :: rest)).registry.pending = (requests rest).max?

theorem UnderWay.init (hround : (b.after first).registry.round = some ⟨revision, b.audience⟩)
    (hpending : (b.after first).registry.pending = none) (hcall : b.call? first = none) :
    b.UnderWay first [] revision b.audience where
  starts := hround
  calls := by rw [Bus.calls, hcall]; rfl
  round := hround
  pending := hpending

theorem UnderWay.concat {waiting' : List τ} (h : b.UnderWay first rest revision waiting)
    (hcall : ((b.replay (first :: rest)).call? m).toList ++ waiting'.map (·, revision) =
      waiting.map (·, revision))
    (hround : ((b.replay (first :: rest)).after m).registry.round = some ⟨revision, waiting'⟩)
    (hpending : ((b.replay (first :: rest)).after m).registry.pending =
      (requests rest ++ m.request?.toList).max?) :
    b.UnderWay first (rest ++ [m]) revision waiting' where
  starts := h.starts
  calls := by rw [← h.calls, ← hcall, ← List.cons_append, calls_concat, List.append_assoc]
  round := by rwa [← List.cons_append, replay_concat]
  pending := by rwa [← List.cons_append, replay_concat, requests_concat]

-- A listener does something other than to ask for a notification.
theorem UnderWay.concat_silent (h : b.UnderWay first rest revision waiting)
    (hround : ((b.replay (first :: rest)).after m).registry.round =
      (b.replay (first :: rest)).registry.round)
    (hpending : ((b.replay (first :: rest)).after m).registry.pending =
      (b.replay (first :: rest)).registry.pending)
    (hcall : (b.replay (first :: rest)).call? m = none) (hrequest : m.request? = none) :
    b.UnderWay first (rest ++ [m]) revision waiting := by
  refine h.concat ?_ (hround.trans h.round) ?_
  · rw [hcall]
    rfl
  · rw [hrequest, hpending, h.pending]
    exact congrArg List.max? (List.append_nil _).symm

theorem max?_concat (l : List Nat) (n : Nat) :
    (l ++ [n]).max? = some (l.max?.elim n (max n)) := by
  cases l with
  | nil => rfl
  | cons m l =>
      rw [List.cons_append, List.max?_cons', List.foldl_append, List.max?_cons']
      exact congrArg some (Nat.max_comm _ _)

theorem UnderWay.isRound (h : b.UnderWay first rest revision [])
    (hstack : (b.replay (first :: rest)).stack = [.notification]) :
    b.IsRound first rest revision where
  starts := h.starts
  calls := by rw [← h.calls]; exact (List.append_nil _).symm
  ended := h.round
  returned := hstack

theorem UnderWay.calls_prefix (h : b.UnderWay first rest revision waiting) :
    b.calls (first :: rest) <+: b.audience.map (·, revision) :=
  ⟨_, h.calls⟩

-- What is done while a notification runs is done in its rounds.
theorem UnderWay.rounds (h : b.UnderWay first rest revision waiting)
    (hs : (b.replay (first :: rest)).Steady)
    (hmoves : (b.replay (first :: rest)).Follows (fun b _ => b.stack ≠ []) moves) :
    b.Rounds first (rest ++ moves) revision := by
  induction moves generalizing b first rest revision waiting with
  | nil =>
      rw [List.append_nil]
      refine .underWay h.starts h.calls_prefix (.inl fun hstack => ?_)
      have hnone := hs.round_eq_none hstack
      rw [h.round] at hnone
      cases hnone
  | cons m moves ih =>
      obtain ⟨hallows, -, hrest⟩ := hmoves
      have hs' := hs.after hallows
      -- the round goes on
      have hon (waiting' : List τ) (h' : b.UnderWay first (rest ++ [m]) revision waiting') :
          b.Rounds first (rest ++ m :: moves) revision := by
        rw [← replay_concat, List.cons_append] at hs' hrest
        have hrounds := ih h' hs' hrest
        rwa [List.append_assoc, List.singleton_append] at hrounds
      -- nothing can follow the end of the notification
      have hlast (hstack : ((b.replay (first :: rest)).after m).stack = []) : moves = [] := by
        cases moves with
        | nil => rfl
        | cons m' moves => exact absurd hstack hrest.2.1
      cases m with
      | subscribe target => exact hon waiting (h.concat_silent rfl rfl rfl rfl)
      | unsubscribe id => exact hon waiting (h.concat_silent rfl rfl rfl rfl)
      | hold alive => exact hon waiting (h.concat_silent rfl rfl rfl rfl)
      | leave => exact hon waiting (h.concat_silent rfl rfl rfl rfl)
      | notify requested =>
          have hafter := after_notify_of_round h.round requested
          refine hon waiting (h.concat rfl ?_ ?_)
          · rw [hafter]
            exact h.round
          · rw [hafter, h.pending]
            exact (max?_concat _ _).symm
      | fail =>
          obtain rfl := hlast rfl
          refine .underWay h.starts ?_ (.inr (List.mem_append_right _ List.mem_cons_self))
          rw [← List.cons_append, calls_concat]
          exact (List.append_nil (b.calls (first :: rest))).symm ▸ h.calls_prefix
      | proceed =>
          have hstack := hs.stack_proceed hallows
          cases hs.proceeds hallows with
          | @calls target revision' waiting' hnow hafter =>
              obtain ⟨rfl, rfl⟩ : revision' = revision ∧ target :: waiting' = waiting := by
                simpa using Option.some.inj (hnow.symm.trans h.round)
              refine hon waiting' (h.concat ?_ ?_ ?_)
              · simp only [call?, Registry.advance, hnow]
                rfl
              · rw [hafter]
              · rw [hafter, h.pending]
                exact congrArg List.max? (List.append_nil _).symm
          | @again revision' highest hnow hpending hafter =>
              obtain ⟨rfl, rfl⟩ : revision' = revision ∧ [] = waiting := by
                simpa using Option.some.inj (hnow.symm.trans h.round)
              refine .next (h.isRound hstack) (h.pending.symm.trans hpending) ?_
              have hnext : (b.replay (first :: rest)).UnderWay .proceed [] highest
                  (b.replay (first :: rest)).audience := UnderWay.init ?_ ?_ ?_
              · exact ih hnext hs' hrest
              · rw [hafter]
                rfl
              · rw [hafter]
                rfl
              · simp only [call?, Registry.advance, hnow, hpending]
          | @returns revision' hnow hpending hafter =>
              obtain ⟨rfl, rfl⟩ : revision' = revision ∧ [] = waiting := by
                simpa using Option.some.inj (hnow.symm.trans h.round)
              obtain rfl := hlast (by rw [hafter])
              exact .last (h.isRound hstack) (List.max?_eq_none_iff.mp (h.pending.symm.trans hpending))

-- A notification that has returned ran its first round.
theorem Rounds.first_round (h : b.Rounds first moves revision)
    (hstack : (b.replay (first :: moves)).stack = []) (hfail : .fail ∉ moves) :
    ∃ rest more, moves = rest ++ more ∧ more ≠ [] ∧ b.IsRound first rest revision := by
  cases h with
  | underWay starts calls hopen =>
      rcases hopen with hopen | hopen
      · exact absurd hstack hopen
      · exact absurd hopen hfail
  | @last _ _ rest _ round quiet => exact ⟨rest, _, rfl, List.cons_ne_nil _ _, round⟩
  | @next _ _ rest more _ _ round requested further =>
      exact ⟨rest, _, rfl, List.cons_ne_nil _ _, round⟩

-- Whatever is asked for during a round, the next round delivers, or something higher.
theorem Rounds.served (h : b.Rounds first moves revision)
    (hstack : (b.replay (first :: moves)).stack = []) (hfail : .fail ∉ moves)
    {earlier later : List (Move τ)} {requested : Nat}
    (hsplit : moves = earlier ++ .notify requested :: later) :
    ∃ skipped round more highest, later = skipped ++ .proceed :: round ++ more ∧ more ≠ [] ∧
      requested ≤ highest ∧
        (b.replay (first :: earlier ++ .notify requested :: skipped)).IsRound .proceed round
          highest := by
  induction h generalizing earlier with
  | underWay starts calls hopen =>
      rcases hopen with hopen | hopen
      · exact absurd hstack hopen
      · exact absurd hopen hfail
  | @last b first rest revision round quiet =>
      have hmem : .notify requested ∈ rest ++ [.proceed] := by
        rw [hsplit]
        exact List.mem_append_right _ List.mem_cons_self
      rcases List.mem_append.mp hmem with hmem | hmem
      · have hrequest := mem_requests hmem
        rw [quiet] at hrequest
        cases hrequest
      · cases List.mem_singleton.mp hmem
  | @next b first rest more revision highest round hmax further ih =>
      have hstack' : ((b.replay (first :: rest)).replay (.proceed :: more)).stack = [] := by
        rwa [← replay_append]
      have hfail' : .fail ∉ more := fun hmem =>
        hfail (List.mem_append_right _ (List.mem_cons_of_mem _ hmem))
      rcases List.append_eq_append_iff.mp hsplit with ⟨inside, hearlier, hmore⟩ |
        ⟨inside, hrest, hlater⟩
      · cases inside with
        | nil => cases hmore
        | cons m inside =>
            obtain ⟨rfl, hmore'⟩ := List.cons.inj hmore
            obtain ⟨skipped, round', more', highest', hsame, hne, hle, hserved⟩ :=
              ih hstack' hfail' hmore'
            refine ⟨skipped, round', more', highest', hsame, hne, hle, ?_⟩
            rw [← replay_append] at hserved
            rw [hearlier]
            simpa using hserved
      · cases inside with
        | nil => cases hlater
        | cons m inside =>
            obtain ⟨rfl, hlater'⟩ := List.cons.inj hlater
            obtain ⟨round', more', hsame, hne, hround'⟩ := further.first_round hstack' hfail'
            refine ⟨inside, round', more', highest, ?_, hne, ?_, ?_⟩
            · rw [hlater', List.append_eq, hsame, List.append_assoc, List.cons_append]
            · have hmem : .notify requested ∈ rest := by
                rw [hrest]
                exact List.mem_append_right _ List.mem_cons_self
              exact (List.max?_eq_some_iff.mp hmax).2 requested (mem_requests hmem)
            · rw [List.cons_append, ← hrest]
              exact hround'

end FilteredFeed.Listener.Bus
