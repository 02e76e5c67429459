import FilteredFeed.Proofs.Engine.Rounds

namespace FilteredFeed.Engine

open FilteredFeed.Listener FilteredFeed.Timeline

variable [Patterns]
variable {e : Engine} {q : QueryId} {rest : List Frame}

-- What a notification leaves to be done, by what comes next in it.
def roundFrames (q : QueryId) : Registry.Next Target → List Frame
  | .call listener revision => [.call listener revision, .release listener, .rounds q]
  | .again _ => [.rounds q]
  | .done => []

omit [Patterns] in
theorem next_of_mem_roundFrames {next : Registry.Next Target} {x : Target} {revision : Nat}
    (h : .call x revision ∈ roundFrames q next) : next = .call x revision := by
  cases next with
  | call listener revision' =>
      simp only [roundFrames, List.mem_cons, Frame.call.injEq, List.not_mem_nil, or_false,
        reduceCtorEq] at h
      rw [h.1, h.2]
  | again listeners => cases List.mem_singleton.mp h
  | done => cases h

-- Who is held for a round that begins.
def roundHolds : Registry.Next Target → List Target
  | .again listeners => listeners
  | .call _ _ | .done => []

theorem continueRounds_eq (e : Engine) (q : QueryId) (rest : List Frame) :
    ({ e with stack := rest } : Engine).continueRounds q =
      e.resumed q (fun r => (r.advance e.isAlive).2)
        (roundHolds ((e.query q).registry.advance e.isAlive).1)
        (roundFrames q ((e.query q).registry.advance e.isAlive).1) rest := by
  have heq : ({ e with stack := rest } : Engine).modifyQuery q (fun query =>
        { query with registry := ((e.query q).registry.advance e.isAlive).2 }) =
      ({ e with stack := rest } : Engine).modifyQuery q fun query =>
        { query with registry := (query.registry.advance e.isAlive).2 } :=
    modifyQuery_congr rfl
  have halive : ({ e with stack := rest } : Engine).isAlive = e.isAlive := rfl
  have hquery : ({ e with stack := rest } : Engine).query q = e.query q := rfl
  unfold continueRounds
  dsimp only
  rw [halive, hquery, heq]
  cases ((e.query q).registry.advance e.isAlive).1 <;> rfl

omit [Patterns] in
theorem eq_rounds_of_mem {f : Frame} {running : Bool}
    (h : f ∈ if running then [] else [Frame.rounds q]) : f = .rounds q := by
  split at h
  · cases h
  · exact List.mem_singleton.mp h

-- A notification that begins goes on with its rounds.
theorem announce_eq_resumed (e : Engine) (q : QueryId) (revision : Nat) (rest : List Frame) :
    ∃ targets, ({ e with stack := rest } : Engine).announce q revision =
      e.resumed q (·.request e.isAlive revision) targets
        (if (e.query q).registry.isNotifying then [] else [.rounds q]) rest := by
  unfold announce
  dsimp only
  split
  · rename_i hrunning
    have hrunning : (e.query q).registry.isNotifying = true := hrunning
    exact ⟨[], by rw [if_pos hrunning]; rfl⟩
  · rename_i hidle
    have hidle : ¬(e.query q).registry.isNotifying = true := hidle
    exact ⟨_, by rw [if_neg hidle]; rfl⟩

end FilteredFeed.Engine
