import FilteredFeed.Pattern.Builtin
import FilteredFeed.Proofs.Engine.Answers
import FilteredFeed.Proofs.Engine.Leaves
import FilteredFeed.Proofs.Engine.Summons

namespace FilteredFeed

open FilteredFeed.Feed FilteredFeed.Filter FilteredFeed.Listener FilteredFeed.Timeline
open FilteredFeed.Scenario (Asker)

section

variable [Patterns]

namespace Timeline

-- A buffer is not cleared: it is as it was, or a batch has been merged into it.
inductive Buffer.Fills (b : Buffer) : Buffer → Prop
  | same : Fills b b
  | merged (batch : List Item) : Fills b (b.merge batch).1

-- A timeline goes on with its query and filter. It is not invalidated, nobody has stopped it or
-- activated it anew, and its buffer is not cleared.
structure GoesOn (T T' : Timeline) : Prop where
  generation : T'.generation = T.generation
  query : T'.query = T.query
  compiled : T'.compiled = T.compiled
  phase : T'.phase = T.phase ∨ T'.phase = .active
  buffer : T.buffer.Fills T'.buffer

variable {T T' T'' : Timeline}

theorem GoesOn.refl (T : Timeline) : T.GoesOn T := ⟨rfl, rfl, rfl, .inl rfl, .same⟩

theorem GoesOn.alike (h : T.GoesOn T') (halike : T'.Alike T'') : T.GoesOn T'' := by
  obtain ⟨holders, pump, refetch, rfl⟩ := halike
  exact ⟨h.generation, h.query, h.compiled, h.phase, h.buffer⟩

theorem goesOn_emit (T : Timeline) (delta : Delta) : T.GoesOn (T.emit delta) := by
  obtain ⟨events, h⟩ := emit_eq T delta
  rw [h]
  exact ⟨rfl, rfl, rfl, .inl rfl, .same⟩

theorem goesOn_absorb (T : Timeline) {phase : Phase} (hphase : phase = T.phase ∨ phase = .active)
    (items : List Item) : T.GoesOn (({ T with phase } : Timeline).absorb items).1 := by
  obtain ⟨events, h⟩ := absorb_eq ({ T with phase } : Timeline) items
  rw [h]
  exact ⟨rfl, rfl, rfl, hphase, .merged items⟩

theorem goesOn_receive (T : Timeline) (item : Item) : T.GoesOn (T.receive item) := by
  obtain ⟨events, unread, notified, h⟩ := receive_eq T item
  rw [h]
  exact ⟨rfl, rfl, rfl, .inl rfl, .merged [item]⟩

end Timeline

namespace Engine

variable {e e' : Engine} {t : TimelineId} {a : Asker} {r : FetchRequest} {m : Move} {T : Timeline}
variable {moves : List Move}

theorem incident_of_refitted {q : QueryId} {o : OperationId} {rest : List Frame}
    (hs : e.stack =
      .attach t q (e.timeline t).epoch (.activation o (e.timeline t).generation) :: rest)
    (hstale : e.isStale t = true) : e.incident? t .step = some .cleared := by
  simp [incident?, hs, frameIncident?, when, hstale]

theorem lt_restarted (e : Engine) (t : TimelineId) :
    (e.timeline t).generation < (e.restarted t).generation := by
  rw [generation_restarted]
  exact Nat.lt_succ_self _

-- A timeline goes on as it is unless it comes under a new generation. Only an activation that finds
-- the query changed clears the buffer under the same one.
theorem Becomes.goesOn (h : Becomes e t m T) (hw : Wired e) (ht : t < e.timelines.length)
    (hcleared : e.incident? t m ≠ some .cleared) :
    (e.timeline t).generation < T.generation ∨ (e.timeline t).GoesOn T := by
  induction h with
  | kept | unmarked | enrolled | counted => exact .inr ⟨rfl, rfl, rfl, .inl rfl, .same⟩
  | @dropped m T h hdead ih =>
      have hle : (e.timeline t).generation ≤ T.generation := by
        rcases ih hcleared with hlt | hgoes
        · exact Nat.le_of_lt hlt
        · exact Nat.le_of_eq hgoes.generation.symm
      exact .inl (Nat.lt_succ_of_le hle)
  | stopped | ended | launched | rolledBack => exact .inl (Nat.lt_succ_self _)
  | told | invalidated => exact .inl (lt_restarted e t)
  | @refreshed q rest hs hstale =>
      have hlt := lt_restarted (({ e with stack := rest } : Engine).enrol t q) t
      rw [timeline_enrol_popped hw hs rfl] at hlt
      exact .inl hlt
  | refitted hs hstale => exact absurd (incident_of_refitted hs hstale) hcleared
  | emitted hs => exact .inr (goesOn_emit ..)
  | @requeried query hphase hquery =>
      have hlt := lt_restarted (e.leaveQuery t query) t
      rw [timeline_leaveQuery ht] at hlt
      exact .inl hlt
  | @offered m item T hm hactive hT =>
      cases hstale : e.isStale t with
      | false =>
          rw [caught_of_current hstale] at hT
          rcases hT with rfl | ⟨-, rfl⟩
          · exact .inr (.refl _)
          · exact .inr (goesOn_receive ..)
      | true =>
          refine .inl ?_
          rcases tested_cases hT with ⟨hnow, -⟩ | ⟨-, buffer, events, unread, notified, rfl⟩
          · cases hnow.symm.trans hstale
          · exact lt_restarted e t
  | absorbed hawaits hasks hg hphase => exact .inr (goesOn_absorb _ hphase _)
  | failed hawaits hasks hg hphase => exact .inr ⟨rfl, rfl, rfl, hphase, .same⟩
  | made hnew => exact absurd hnew (Nat.ne_of_lt ht)

-- A move that does nothing to a timeline lets it go on. It does not clear the buffer.
theorem goesOn_after (hreached : IsReached e) (hallows : e.allows m = true)
    (ht : t < e.timelines.length) (hnone : e.incident? t m = none) :
    (e.timeline t).GoesOn ((e.after m).timeline t) := by
  obtain ⟨T, hT, halike⟩ := leaves_after hreached.wired hallows (lt_after ht hallows)
  have hsame : T.generation = (e.timeline t).generation := by
    have hraises := raises_after ht hallows
    rw [hnone] at hraises
    exact halike.generation.symm.trans hraises
  have hgoes := hT.goesOn hreached.wired ht (hnone ▸ nofun)
  exact (hgoes.resolve_left (Nat.not_lt_of_le (Nat.le_of_eq hsame))).alike halike

-- Every move of a run lets a timeline go on.
def Unbroken (t : TimelineId) : Engine → List Move → Prop
  | _, [] => True
  | e, m :: moves => (e.timeline t).GoesOn ((e.after m).timeline t) ∧ Unbroken t (e.after m) moves

-- If nothing happens to a timeline in a whole run, its buffer is never cleared.
theorem unbroken_replay (hreached : IsReached e) (hruns : e.Runs moves)
    (ht : t < e.timelines.length) (hnone : incidents t e moves = []) : Unbroken t e moves := by
  induction moves generalizing e with
  | nil => trivial
  | cons m moves ih =>
      obtain ⟨hallows, -, hlater⟩ := hruns
      obtain ⟨hnow, hrest⟩ := List.append_eq_nil_iff.mp hnone
      have hnow : e.incident? t m = none := Option.toList_eq_nil_iff.mp hnow
      exact ⟨goesOn_after hreached hallows ht hnow,
        ih (hreached.after hallows) hlater (lt_after ht hallows) hrest⟩

-- Every request of a run was made by one of its moves. If nothing has happened to the timeline
-- since, the timeline has gone on with its buffer at each move, and the answer of storage goes into
-- the buffer, for which the text of the request is right. If anything has, the answer has no
-- effect, whatever it is.
theorem merged_or_ignored (hruns : ({} : Engine).Runs moves)
    (h : (({} : Engine).replay moves).asks a = some (t, r)) :
    ∃ before start during, moves = before ++ start :: during ∧
      MadeBy {} a t r before start during ∧
      (incidents t (({} : Engine).replay (before ++ [start])) during = [] ∧
          Unbroken t (({} : Engine).replay (before ++ [start])) during ∧
          (({} : Engine).replay moves).Merged a t r ∨
        incidents t (({} : Engine).replay (before ++ [start])) during ≠ [] ∧
          ∀ result, (({} : Engine).replay moves).Ignored a t result) := by
  have hsound := hruns.sound sound_init
  obtain ⟨before, start, during, rfl, hmade, hiff⟩ := made_of_asks hruns h
  refine ⟨before, start, during, rfl, hmade, ?_⟩
  by_cases hg : r.generation =
      ((({} : Engine).replay (before ++ start :: during)).timeline t).generation
  · have hnone := hiff.mp hg
    obtain ⟨hbefore, hallows, -, hduring⟩ := follows_append.mp hruns
    have hreached := (isReached_replay hbefore).after hallows
    have hasked := hmade.asked
    rw [replay_concat] at hnone hasked ⊢
    have ht := hreached.sound.ranged a t r hasked.now
    refine .inl ⟨hnone, unbroken_replay hreached hduring ht hnone,
      hsound.current a t r h hg, fun halive items => ?_⟩
    exact buffer_answer (hsound.ranged a t r h) h hg halive items
  · exact .inr ⟨fun hnone => hg (hiff.mpr hnone), fun result => ignored_of_late h hg result⟩

end Engine

end

namespace Engine

-- A timeline is activated, and invalidated before storage sends its first items.
def overtakenFill : List Move :=
  [.addQuery .contradiction none, .addChannel 4, .addTimeline {} 0 0 (some 0) true,
    .startActivation 0 true, .step, .step, .invalidate 0, .step]

-- A timeline is activated, and only a live item comes before storage sends its first items.
def timelyFill : List Move :=
  [.addQuery (.not .contradiction) none, .addChannel 4, .addTimeline {} 0 0 (some 0) true,
    .startActivation 0 true, .step, .step, .offer 0 { id := 2, author := "ben" }]

theorem merged_or_ignored_overtakenFill :
    (({} : Engine).Runs overtakenFill ∧
      ∃ r, (({} : Engine).replay overtakenFill).asks (.operation 0) = some (0, r) ∧
        ∀ result, (({} : Engine).replay overtakenFill).Ignored (.operation 0) 0 result) ∧
    ({} : Engine).Runs timelyFill ∧
      ∃ r, (({} : Engine).replay timelyFill).asks (.operation 0) = some (0, r) ∧
        (({} : Engine).replay timelyFill).Merged (.operation 0) 0 r := by
  refine ⟨⟨by decide, ?_⟩, by decide, ?_⟩
  · have hasks : (({} : Engine).replay overtakenFill).asks (.operation 0) =
        some (0, ⟨Expr.contradiction.compile.queryText, none, 200, 1⟩) := by decide
    refine ⟨_, hasks, ?_⟩
    obtain ⟨before, start, during, -, -, ⟨-, -, hmerged⟩ | ⟨-, hignored⟩⟩ :=
      merged_or_ignored (by decide) hasks
    · have hbuffer := hmerged.buffer (by decide) [{ id := 1, author := "ann" }]
      exact absurd (congrArg Buffer.items hbuffer) (by decide)
    · exact hignored
  · have hasks : (({} : Engine).replay timelyFill).asks (.operation 0) =
        some (0, ⟨(Expr.not .contradiction).compile.queryText, none, 200, 1⟩) := by decide
    refine ⟨_, hasks, ?_⟩
    obtain ⟨before, start, during, -, -, ⟨-, -, hmerged⟩ | ⟨-, hignored⟩⟩ :=
      merged_or_ignored (by decide) hasks
    · exact hmerged
    · have hitems := (hignored (.ok [{ id := 1, author := "ann" }])).items 0
      exact absurd (congrArg Buffer.items hitems.buffer) (by decide)

end Engine

end FilteredFeed
