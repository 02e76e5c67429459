import FilteredFeed.Pattern.Builtin
import FilteredFeed.Proofs.Engine.Buffered
import FilteredFeed.Proofs.Engine.Operations
import FilteredFeed.Proofs.Engine.Refreshed

namespace FilteredFeed.Engine

open FilteredFeed.Feed FilteredFeed.Filter FilteredFeed.Listener FilteredFeed.Timeline
open FilteredFeed.Scenario (Asker)

section

variable [Patterns]
variable {e : Engine} {t : TimelineId} {o : OperationId} {q : QueryId} {r : FetchRequest}
variable {before : Option ItemId} {limit : Nat} {moves : List Move}

-- What a fetch of a timeline asks for.
def paged (T : Timeline) (before : Option ItemId) (limit : Nat) : FetchRequest :=
  { text := T.compiled.queryText, before, limit, generation := T.generation }

theorem waits_startPage (before : Option ItemId) (limit : Nat)
    (hphase : (e.timeline t).phase ≠ .disposed) :
    (e.after (.startPage t before limit)).operations[e.operations.length]? =
      some ⟨t, .page, .waiting (paged (e.timeline t) before limit)⟩ := by
  obtain ⟨holders, hT⟩ : ∃ holders, (e.addOperation t .page).2.timeline t =
      { e.timeline t with holders } :=
    timeline_retain { e with operations := e.operations ++ [⟨t, .page, .running⟩] } t t
  have hphase' : ((e.addOperation t .page).2.timeline t).phase ≠ .disposed := hT ▸ hphase
  have hstart : e.after (.startPage t before limit) =
      (e.addOperation t .page).2.setStatus e.operations.length
        (.waiting (paged (e.timeline t) before limit)) := by
    change (e.startPage t before limit).2 = _
    unfold startPage
    dsimp only
    rw [if_neg hphase', hT]
    rfl
  rw [hstart, (aloof_begun e t .page _).operations]
  exact List.getElem?_concat_length

-- A timeline that is not behind its query tests items with the filter it applies.
theorem currentFilter_of_current (h : e.isStale t = false) :
    (e.currentFilter t).1 = (e.timeline t).compiled := by
  unfold currentFilter
  split
  · simp [h]
  · rfl

-- One that is behind applied the filter of an earlier revision, and tests items with that of the
-- expression the query has by now.
theorem currentFilter_of_stale (hw : Wired e) (h : e.isStale t = true) :
    ∃ q revision, (e.timeline t).query = some q ∧
      (e.timeline t).compiledRevision = some revision ∧ revision < (e.query q).revision ∧
      (e.currentFilter t).1 = (e.query q).expr.compile := by
  cases happlied : (e.timeline t).compiledRevision with
  | none =>
      have hquery := (hw.bound t).unapplied happlied
      simp [isStale, hquery, happlied] at h
  | some revision =>
      obtain ⟨q, hquery, hle, -⟩ := (hw.bound t).applied revision happlied
      have hne : (e.query q).revision ≠ revision := by
        rintro heq
        simp [isStale, hquery, happlied, heq] at h
      refine ⟨q, revision, hquery, rfl, Nat.lt_of_le_of_ne hle (Ne.symm hne), ?_⟩
      unfold currentFilter
      simp only [hquery, h, if_true]
      exact (hw.coherent q).compile

-- What storage has to say goes into the buffer as long as the timeline has the generation under which
-- it was asked for.
theorem buffer_of_answer (hs : Sound e) (hasks : e.asks (.operation o) = some (t, r))
    (items : List Item) :
    ((e.after (.answer (.operation o) (.ok items))).timeline t).buffer =
      if r.generation = (e.timeline t).generation then ((e.timeline t).buffer.merge items).1
      else (e.timeline t).buffer := by
  split
  · rename_i hg
    exact buffer_complete (hs.ranged _ t r hasks) hasks hg items
  · rename_i hg
    exact ((ignored_of_late hasks hg (.ok items)).items t).buffer

-- While no call is running, a fetch asks for what the filter selects that its timeline applied last,
-- and goes on to ask for it until storage answers. Only such items come into the buffer by it. This is
-- the filter by which the timeline tests items when the fetch begins, unless the timeline is behind its
-- query: it is not active and the query has changed, or an activation of it was overtaken.
theorem page_asks_applied (hruns : ({} : Engine).Runs moves)
    (hallows : (({} : Engine).replay moves).allows (.startPage t before limit) = true)
    (hphase : ((({} : Engine).replay moves).timeline t).phase ≠ .disposed) :
    let e := ({} : Engine).replay moves
    let T := e.timeline t
    let e' := e.after (.startPage t before limit)
    let o := e.operations.length
    e'.asks (.operation o) = some (t, paged T before limit) ∧
    (∀ later, e'.Follows (Awaiting o) later →
      (e'.replay later).asks (.operation o) = some (t, paged T before limit) ∧
      ∀ items, Selects T.compiled.queryText items →
        (∀ item ∈ items, T.compiled.accepts item = true) ∧
        (((e'.replay later).after (.answer (.operation o) (.ok items))).timeline t).buffer =
          if T.generation = ((e'.replay later).timeline t).generation then
            (((e'.replay later).timeline t).buffer.merge items).1
          else ((e'.replay later).timeline t).buffer) ∧
    (e.isStale t = false → (e.currentFilter t).1 = T.compiled) ∧
    (e.isStale t = true →
      (T.phase = .inactive ∨ Overtook t moves) ∧
      ∃ q revision, T.query = some q ∧ T.compiledRevision = some revision ∧
        revision < (e.query q).revision ∧ (e.currentFilter t).1 = (e.query q).expr.compile) := by
  intro e T e' o
  have hreached := isReached_replay hruns
  have hs : Sound e := hreached.sound
  have hw : Wired e := hreached.wired
  have hstack : e.stack = [] := stack_of_allows hallows
  have hreached' : IsReached e' := hreached.after hallows
  have hwaits : e'.operations[o]? = some ⟨t, .page, .waiting (paged T before limit)⟩ :=
    waits_startPage before limit hphase
  refine ⟨asks_of_waiting hwaits, fun later hlater => ?_, currentFilter_of_current, fun hstale => ?_⟩
  · have hasks := asks_of_waiting (hreached'.engaged.waits_replay hwaits hlater)
    refine ⟨hasks, fun items hselects => ⟨?_, ?_⟩⟩
    · obtain ⟨expr, hexpr⟩ := hs.origin t
      have hcompiled : T.compiled = expr.compile := hexpr
      rw [hcompiled] at hselects ⊢
      exact hselects.accepts
    · exact buffer_of_answer (hlater.sound hreached'.sound) hasks items
  · refine ⟨?_, currentFilter_of_stale hw hstale⟩
    rcases settled_or_overtaken sound_init wired_init hruns t with hsettled | ⟨hnot, -⟩ | hovertook
    · refine .inl ?_
      have hinactive : T.phase.isActive = false :=
        Bool.eq_false_iff.mpr fun hactive => not_due hw hstack (hsettled hactive hstale)
      cases hp : T.phase with
      | inactive => rfl
      | disposed => exact absurd hp hphase
      | activating | active | invalidated =>
          rw [hp] at hinactive
          cases hinactive
    · exact absurd (settled_of_inactive rfl) hnot
    · exact .inr hovertook

end

-- The query of a timeline that is not active changes.
def changedUnseen : List Move :=
  [.addQuery pictures none, .addChannel 4, .addTimeline {} 0 0 (some 0) true,
    .setExpression 0 .contradiction, .step, .step]

theorem page_asks_applied_changedUnseen :
    ({} : Engine).Runs changedUnseen ∧
      ((({} : Engine).replay changedUnseen).after (.startPage 0 none 10)).asks (.operation 0) =
        some (0, ⟨pictures.compile.queryText, none, 10, 0⟩) ∧
      ((({} : Engine).replay changedUnseen).currentFilter 0).1.queryText ≠
        pictures.compile.queryText := by
  have hruns : ({} : Engine).Runs changedUnseen := by decide
  have hallows : (({} : Engine).replay changedUnseen).allows (.startPage 0 none 10) = true := by
    decide
  obtain ⟨hasks, -, -, hstale⟩ := page_asks_applied hruns hallows (by decide)
  obtain ⟨-, q, revision, hquery, -, -, hcurrent⟩ := hstale (by decide)
  obtain rfl : q = 0 := (Option.some.inj hquery).symm
  refine ⟨hruns, hasks, ?_⟩
  rw [hcurrent]
  decide

end FilteredFeed.Engine
