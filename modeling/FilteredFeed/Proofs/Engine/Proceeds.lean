import FilteredFeed.Proofs.Engine.Modest
import FilteredFeed.Proofs.Engine.Resumed

namespace FilteredFeed.Engine

open FilteredFeed.Feed FilteredFeed.Filter FilteredFeed.Listener FilteredFeed.Timeline

variable [Patterns]
variable {e e' : Engine} {m : Move} {q : QueryId} {x : Target} {revision : Nat}

-- The query that a move gives another expression.
def Move.amends : Move → Option QueryId
  | .setExpression q _ | .setSource q _ => some q
  | _ => none

-- What a move does to notifications. All moves but these few leave them alone, and the revisions too.
inductive Proceeds (e : Engine) : Move → Engine → Prop
  | modest {m : Move} {e' : Engine} (hm : m.isModest = true) (h : Modest m.ends e e') :
      Proceeds e m e'
  | performed {f : Frame} {rest : List Frame} {e' : Engine} (hs : e.stack = f :: rest)
      (hf : f.isModest = true) (h : Modest none { e with stack := rest } e') :
      Proceeds e .step e'
  -- a notification is asked for, and starts or is put off
  | announced {q : QueryId} {revision : Nat} {rest : List Frame} {targets : List Target}
      (hs : e.stack = .announce q revision :: rest) :
      Proceeds e .step (e.resumed q (·.request e.isAlive revision) targets
        (if (e.query q).registry.isNotifying then [] else [.rounds q]) rest)
  | continued {q : QueryId} {rest : List Frame} (hs : e.stack = .rounds q :: rest) :
      Proceeds e .step (e.resumed q (fun r => (r.advance e.isAlive).2)
        (roundHolds ((e.query q).registry.advance e.isAlive).1)
        (roundFrames q ((e.query q).registry.advance e.isAlive).1) rest)
  -- an observer gets control, and gives it back
  | handed {o : ObserverId} {revision : Nat} {rest : List Frame}
      (hs : e.stack = .call (.observer o) revision :: rest) :
      Proceeds e .step { e with stack := .observer o revision :: rest }
  | left {o : ObserverId} {revision : Nat} {rest : List Frame}
      (hs : e.stack = .observer o revision :: rest) :
      Proceeds e .leaveObserver { e with stack := rest }
  | amended {m : Move} {q : QueryId} {f : Query Target → Query Target} (hm : m.amends = some q)
      (hq : q < e.queries.length) (hf : Amends f (e.query q)) :
      Proceeds e m (e.amend q f ((e.query q).revision + 1))

theorem proceeds_step (hallows : e.allows .step = true) : Proceeds e .step (e.after .step) := by
  obtain ⟨f, rest, hs, hobserver, hafter⟩ := after_step hallows
  rw [hafter]
  cases hmodest : f.isModest with
  | true => exact .performed hs hmodest (modest_perform hmodest)
  | false =>
      cases f with
      | announce q revision =>
          obtain ⟨targets, heq⟩ := announce_eq_resumed e q revision rest
          change Proceeds e .step (({ e with stack := rest } : Engine).announce q revision)
          rw [heq]
          exact .announced hs
      | rounds q =>
          change Proceeds e .step (({ e with stack := rest } : Engine).continueRounds q)
          rw [continueRounds_eq]
          exact .continued hs
      | call target revision =>
          cases target with
          | timeline t => cases hmodest
          | observer o => exact .handed hs
      | observer o revision => cases hobserver
      | activate | deactivate | release | attach | emit | finish => cases hmodest

theorem revision_amended {f : Query Target → Query Target} (hq : q < e.queries.length)
    (hf : Amends f (e.query q)) :
    ((e.modifyQuery q f).query q).revision = (e.query q).revision + 1 := by
  rw [query_modifyQuery_self hq, hf.revision]

theorem proceeds_amend {f : Query Target → Query Target} (hm : m.amends = some q)
    (hq : q < e.queries.length) (hf : Amends f (e.query q)) :
    Proceeds e m ((e.modifyQuery q f).push [.announce q ((e.modifyQuery q f).query q).revision]) := by
  rw [revision_amended hq hf]
  exact .amended hm hq hf

theorem amends_replaceSource (query : Query Target) (text : String) :
    Amends (fun _ => (query.replaceSource text).2) query := by
  refine ⟨?_, coherent_replaceSource _ text, ?_⟩ <;> unfold Query.replaceSource <;> split <;> rfl

theorem proceeds_after (hallows : e.allows m = true) : Proceeds e m (e.after m) := by
  cases hmodest : m.isModest with
  | true => exact .modest hmodest (modest_after hmodest)
  | false =>
      cases m with
      | step => exact proceeds_step hallows
      | leaveObserver =>
          change Proceeds e .leaveObserver e.leaveObserver
          unfold allows at hallows
          unfold leaveObserver
          split
          · rename_i hs
            exact .left hs
          · rename_i hnot
            cases hs : e.stack with
            | nil => simp [hs] at hallows
            | cons f rest =>
                rw [hs] at hallows
                cases f with
                | observer o revision => exact absurd hs (hnot o revision rest)
                | _ => cases hallows
      | setExpression q expr =>
          have hq : q < e.queries.length := by simpa using (Bool.and_eq_true_iff.mp hallows).2
          exact proceeds_amend rfl hq ⟨rfl, nofun, rfl⟩
      | setSource q text =>
          have hq : q < e.queries.length := by simpa using (Bool.and_eq_true_iff.mp hallows).2
          have hproceeds := proceeds_amend (m := .setSource q text) rfl hq
            (amends_replaceSource (e.query q) text)
          rwa [query_modifyQuery_self hq] at hproceeds
      | _ => cases hmodest

-- A move takes at most one call off the stack.
theorem stack_after (hallows : e.allows m = true) :
    ∃ frames, (e.after m).stack = frames ++ e.stack ∨ (e.after m).stack = frames ++ e.stack.tail := by
  have hproceeds := proceeds_after hallows
  generalize e.after m = e' at hproceeds ⊢
  cases hproceeds with
  | modest hm h =>
      obtain ⟨frames, hs, -⟩ := h.stack
      exact ⟨frames, .inl hs⟩
  | performed hs hf h =>
      obtain ⟨frames, hs', -⟩ := h.stack
      exact ⟨frames, .inr (hs'.trans (by rw [hs]; rfl))⟩
  | announced hs | continued hs => exact ⟨_, .inr ((stack_resumed ..).trans (by rw [hs]; rfl))⟩
  | @handed o revision rest hs => exact ⟨[.observer o revision], .inr (by rw [hs]; rfl)⟩
  | left hs => exact ⟨[], .inr (by rw [hs]; rfl)⟩
  | amended hm hq hf => exact ⟨[_], .inl rfl⟩

end FilteredFeed.Engine
