import FilteredFeed.Pattern.Builtin
import FilteredFeed.Proofs.Engine.FinalRevision
import FilteredFeed.Proofs.Engine.Memos
import FilteredFeed.Proofs.Engine.Paged
import Mathlib.Data.Finset.Card
import Mathlib.Data.List.Induction
import Mathlib.Order.Interval.Finset.Nat

namespace FilteredFeed.Engine

open FilteredFeed.Feed FilteredFeed.Filter FilteredFeed.Listener FilteredFeed.Timeline

section

variable [Patterns]
variable {e : Engine} {t : TimelineId} {q : QueryId} {m : Move} {moves : List Move}

-- Whoever asks a query, the query is there.
theorem lt_of_consultsIf (hw : Wired e) {b : Bool} (h : e.consultsIf t b = some q) :
    q < e.queries.length := by
  cases b with
  | true => exact (hw.bound t).known q h
  | false => cases h

theorem lt_of_frameConsults {f : Frame} (hw : Wired e) (h : e.frameConsults? f = some q) :
    q < e.queries.length := by
  unfold frameConsults? at h
  split at h
  · exact lt_of_consultsIf hw h
  · exact lt_of_consultsIf hw h
  · exact lt_of_consultsIf hw h
  · cases h

theorem lt_of_consults (hw : Wired e) (hallows : e.allows m = true) (h : e.consults? m = some q) :
    q < e.queries.length := by
  cases m with
  | step =>
      obtain ⟨f, -, hconsults⟩ := Option.bind_eq_some_iff.mp h
      exact lt_of_frameConsults hw hconsults
  | compile q' =>
      obtain rfl := Option.some.inj h
      exact of_decide_eq_true (Bool.and_eq_true_iff.mp hallows).2
  | addTimeline config storage stream query hasSink =>
      obtain rfl : query = some q := h
      exact of_decide_eq_true (Bool.and_eq_true_iff.mp hallows).2
  | accepts | offer | invalidate => exact lt_of_consultsIf hw h
  | setQuery t query =>
      have hknown := (Bool.and_eq_true_iff.mp hallows).2
      change (if _ then none else query) = some q at h
      split at h
      · cases h
      · subst h
        exact of_decide_eq_true hknown
  | turn k =>
      change e.pumpConsults? k = some q at h
      unfold pumpConsults? at h
      split at h
      · split at h
        · exact lt_of_consultsIf hw h
        · cases h
      · cases h
  | _ => cases h

theorem getElem?_memos (hq : q < e.queries.length) : e.memos[q]? = some (e.query q).memo := by
  simp [memos, query, List.getElem?_eq_getElem hq]

theorem Memo.getElem?_consultAt (asked : Option QueryId) (memos : List Memo) (q : QueryId) :
    (Memo.consultAt asked memos)[q]? =
      if asked = some q then memos[q]?.map Memo.consult else memos[q]? := by
  cases asked with
  | none => simp
  | some q' => by_cases h : q' = q <;> simp [Memo.consultAt, h]

-- The number of queries, but for one that is made.
theorem length_queries_after (hallows : e.allows m = true) (hm : m.amends = none)
    (hmade : ∀ expr source, m ≠ .addQuery expr source) :
    (e.after m).queries.length = e.queries.length := by
  have h := congrArg List.length (memos_after hallows hm hmade)
  simp only [memos, List.length_map] at h
  rw [h]
  cases e.consults? m with
  | none => simp
  | some q => simp [Memo.consultAt]

-- A query that there is not yet has no form, and one that is made has none either.

theorem unmade_of_le (hq : e.queries.length ≤ q) :
    (e.query q).compiled = none ∧ (e.query q).compilations = 0 := by
  unfold query
  rw [List.getElem?_eq_none hq]
  exact ⟨rfl, rfl⟩

theorem unmade_addQuery (hq : e.queries.length ≤ q) (expr : Expr) (source : Option String) :
    ((e.addQuery { expr, source }).2.query q).compiled = none ∧
      ((e.addQuery { expr, source }).2.query q).compilations = 0 := by
  simp only [addQuery, query, List.getElem?_append_right hq]
  cases q - e.queries.length <;> exact ⟨rfl, rfl⟩

-- A change drops the form, and what was made stays counted.
theorem memo_amended (hallows : e.allows m = true) (hm : m.amends = some q) :
    q < e.queries.length ∧ ((e.after m).query q).compiled = none ∧
      ((e.after m).query q).compilations = (e.query q).compilations ∧
      (e.after m).revisions q = e.revisions q + 1 := by
  cases m with
  | setExpression q' expr =>
      obtain rfl := Option.some.inj hm
      have hq := of_decide_eq_true (Bool.and_eq_true_iff.mp hallows).2
      have hquery : (e.after (.setExpression q' expr)).query q' = (e.query q').replace expr none :=
        query_modifyQuery_self hq _
      unfold revisions
      rw [hquery]
      exact ⟨hq, rfl, rfl, rfl⟩
  | setSource q' text =>
      obtain rfl := Option.some.inj hm
      have hq := of_decide_eq_true (Bool.and_eq_true_iff.mp hallows).2
      have hquery : (e.after (.setSource q' text)).query q' =
          ((e.query q').replaceSource text).2 := query_modifyQuery_self hq _
      obtain ⟨hcompiled, hcounted⟩ := (e.query q').compiled_replaceSource text
      unfold revisions
      rw [hquery]
      exact ⟨hq, hcompiled, hcounted, (amends_replaceSource _ text).revision⟩
  | _ => cases hm

theorem consults_of_amends (hm : m.amends = some q) : e.consults? m = none := by
  cases m with
  | setExpression | setSource => rfl
  | _ => cases hm

-- What one move does to the memo of a query that it does not change.
theorem memo_after (hallows : e.allows m = true) (hq : q < e.queries.length)
    (hm : m.amends ≠ some q) :
    ((e.after m).query q).memo =
      if e.consults? m = some q then (e.query q).memo.consult else (e.query q).memo := by
  cases hamends : m.amends with
  | some q' =>
      have hne : q ≠ q' := fun h => hm (h ▸ hamends)
      rw [consults_of_amends hamends, if_neg nofun]
      cases m with
      | setExpression | setSource =>
          obtain rfl := Option.some.inj hamends
          exact congrArg Query.memo (query_modifyQuery_ne hne _)
      | _ => cases hamends
  | none =>
      by_cases hmade : ∃ expr source, m = .addQuery expr source
      · obtain ⟨expr, source, rfl⟩ := hmade
        exact congrArg Query.memo (query_append hq _)
      · have hmade : ∀ expr source, m ≠ .addQuery expr source := fun expr source h =>
          hmade ⟨expr, source, h⟩
        have hq' := (length_queries_after hallows hamends hmade).symm ▸ hq
        apply Option.some.inj
        rw [← getElem?_memos hq', memos_after hallows hamends hmade, Memo.getElem?_consultAt,
          getElem?_memos hq]
        split <;> rfl

-- A query that was asked has a form, at the revision that it had.
theorem known_after (hw : Wired e) (hallows : e.allows m = true)
    (hconsults : e.consults? m = some q) :
    ((e.after m).query q).compiled.isSome = true ∧ (e.after m).revisions q = e.revisions q := by
  have hm : m.amends ≠ some q := by
    intro hm
    rw [consults_of_amends hm] at hconsults
    cases hconsults
  have hmemo := memo_after hallows (lt_of_consults hw hallows hconsults) hm
  rw [if_pos hconsults] at hmemo
  exact ⟨(congrArg (fun memo => memo.compiled.isSome) hmemo).trans (Memo.isSome_consult _),
    revisions_after hallows hm⟩

-- A query that is not there before a move has no form after it.
theorem unmade_after (hallows : e.allows m = true) (hq : e.queries.length ≤ q) :
    ((e.after m).query q).compiled = none ∧ ((e.after m).query q).compilations = 0 := by
  cases hamends : m.amends with
  | some q' =>
      have hne : q ≠ q' := Nat.ne_of_gt (Nat.lt_of_lt_of_le (memo_amended hallows hamends).1 hq)
      have hsame : (e.after m).query q = e.query q := by
        cases m with
        | setExpression | setSource =>
            obtain rfl := Option.some.inj hamends
            exact query_modifyQuery_ne hne _
        | _ => cases hamends
      rw [hsame]
      exact unmade_of_le hq
  | none =>
      by_cases hmade : ∃ expr source, m = .addQuery expr source
      · obtain ⟨expr, source, rfl⟩ := hmade
        exact unmade_addQuery hq expr source
      · have hsize := length_queries_after hallows hamends fun expr source h =>
          hmade ⟨expr, source, h⟩
        exact unmade_of_le (hsize ▸ hq)

-- The revision at which a move asks a query for its compiled form.
def asking (e : Engine) (q : QueryId) (m : Move) : Option Nat :=
  if e.consults? m = some q then some (e.revisions q) else none

-- All such revisions of a run.
def askings (q : QueryId) : Engine → List Move → List Nat
  | _, [] => []
  | e, m :: moves => (e.asking q m).toList ++ askings q (e.after m) moves

theorem askings_concat (e : Engine) (moves : List Move) (m : Move) :
    askings q e (moves ++ [m]) =
      askings q e moves ++ ((e.replay moves).asking q m).toList := by
  induction moves generalizing e with
  | nil => simp [askings]
  | cons first moves ih =>
      simp only [List.cons_append, askings, ih, replay_cons, List.append_assoc]

theorem asking_eq_some (h : e.consults? m = some q) : e.asking q m = some (e.revisions q) :=
  if_pos h

theorem asking_eq_none (h : e.consults? m ≠ some q) : e.asking q m = none := if_neg h

-- A query has a form if it was asked for one at its revision, and has made one for each revision
-- at which it was asked.
structure KeepsForm (e : Engine) (q : QueryId) (asked : List Nat) : Prop where
  known : (e.query q).compiled.isSome = true ↔ e.revisions q ∈ asked
  counted : (e.query q).compilations = asked.toFinset.card
  earlier : ∀ revision ∈ asked, revision ≤ e.revisions q

namespace KeepsForm

variable {asked : List Nat}

-- At a further revision the query was not asked yet.
theorem amended (h : KeepsForm e q asked) (hallows : e.allows m = true) (hm : m.amends = some q) :
    KeepsForm (e.after m) q asked := by
  obtain ⟨-, hcompiled, hcounted, hrevision⟩ := memo_amended hallows hm
  refine ⟨?_, hcounted.trans h.counted, fun revision hmem => ?_⟩
  · rw [hcompiled, hrevision]
    refine ⟨nofun, fun hmem => ?_⟩
    exact absurd (h.earlier _ hmem) (Nat.not_succ_le_self _)
  · rw [hrevision]
    exact Nat.le_succ_of_le (h.earlier revision hmem)

theorem consulted (h : KeepsForm e q asked) (hw : Wired e) (hallows : e.allows m = true)
    (hq : q < e.queries.length) (hm : m.amends ≠ some q) (hconsults : e.consults? m = some q) :
    KeepsForm (e.after m) q (asked ++ [e.revisions q]) := by
  obtain ⟨hcompiled, hrevision⟩ := known_after hw hallows hconsults
  have hmemo := memo_after hallows hq hm
  rw [if_pos hconsults] at hmemo
  have hcounted : ((e.after m).query q).compilations =
      (e.query q).compilations + if (e.query q).compiled.isSome then 0 else 1 := by
    change ((e.after m).query q).memo.compilations = _
    rw [hmemo]
    exact Memo.compilations_consult _
  refine ⟨?_, ?_, fun revision hmem => ?_⟩
  · simp [hcompiled, hrevision]
  · rw [hcounted, h.counted, List.toFinset_append, Finset.union_comm]
    by_cases hknown : (e.query q).compiled.isSome = true
    · have hmem := h.known.mp hknown
      simp [hknown, hmem]
    · have hmem : e.revisions q ∉ asked := fun hmem => hknown (h.known.mpr hmem)
      simp [hknown, hmem]
  · rw [hrevision]
    rcases List.mem_append.mp hmem with hmem | hmem
    · exact h.earlier revision hmem
    · exact Nat.le_of_eq (List.mem_singleton.mp hmem)

theorem unasked (h : KeepsForm e q asked) (hallows : e.allows m = true)
    (hq : q < e.queries.length) (hm : m.amends ≠ some q) (hconsults : e.consults? m ≠ some q) :
    KeepsForm (e.after m) q asked := by
  have hmemo := memo_after hallows hq hm
  rw [if_neg hconsults] at hmemo
  have hrevision := revisions_after hallows hm
  refine ⟨?_, (congrArg Memo.compilations hmemo).trans h.counted, hrevision ▸ h.earlier⟩
  rw [hrevision, ← h.known]
  exact iff_of_eq (congrArg (fun memo => memo.compiled.isSome = true) hmemo)

theorem nil_of_le (h : KeepsForm e q asked) (hq : e.queries.length ≤ q) : asked = [] := by
  have hcounted := h.counted
  rw [(unmade_of_le hq).2] at hcounted
  exact List.toFinset_eq_empty_iff asked |>.mp (Finset.card_eq_zero.mp hcounted.symm)

theorem after (h : KeepsForm e q asked) (hw : Wired e) (hallows : e.allows m = true) :
    KeepsForm (e.after m) q (asked ++ (e.asking q m).toList) := by
  by_cases hm : m.amends = some q
  · rw [asking_eq_none (by rw [consults_of_amends hm]; exact nofun), Option.toList_none,
      List.append_nil]
    exact h.amended hallows hm
  by_cases hconsults : e.consults? m = some q
  · rw [asking_eq_some hconsults]
    exact h.consulted hw hallows (lt_of_consults hw hallows hconsults) hm hconsults
  rw [asking_eq_none hconsults, Option.toList_none, List.append_nil]
  by_cases hq : q < e.queries.length
  · exact h.unasked hallows hq hm hconsults
  · have hle := Nat.le_of_not_lt hq
    obtain ⟨hcompiled, hcounted⟩ := unmade_after hallows hle
    rw [h.nil_of_le hle]
    exact ⟨by simp [hcompiled], hcounted, nofun⟩

-- There are no more revisions than the query has had.
theorem counted_le (h : KeepsForm e q asked) :
    (e.query q).compilations ≤ (e.query q).revision + 1 := by
  have hrange : asked.toFinset ⊆ Finset.range ((e.query q).revision + 1) := by
    intro revision hmem
    exact Finset.mem_range.mpr (Nat.lt_succ_of_le (h.earlier revision (List.mem_toFinset.mp hmem)))
  have hcard := Finset.card_le_card hrange
  rwa [Finset.card_range, ← h.counted] at hcard

end KeepsForm

theorem keepsForm_replay (hruns : ({} : Engine).Runs moves) (q : QueryId) :
    KeepsForm (({} : Engine).replay moves) q (askings q {} moves) := by
  induction moves using List.reverseRecOn with
  | nil => exact ⟨by simp [askings, query, default], rfl, nofun⟩
  | append_singleton moves m ih =>
      obtain ⟨hmoves, hallows, -⟩ := follows_append.mp hruns
      rw [replay_concat, askings_concat]
      exact (ih hmoves).after (isReached_replay hmoves).wired hallows

-- As many revisions were made as there were changes.
theorem revisions_eq_countP (hruns : ({} : Engine).Runs moves) (q : QueryId) :
    (({} : Engine).replay moves).revisions q = moves.countP fun m => m.amends == some q := by
  induction moves using List.reverseRecOn with
  | nil => rfl
  | append_singleton moves m ih =>
      obtain ⟨hmoves, hallows, -⟩ := follows_append.mp hruns
      rw [replay_concat, List.countP_append, ← ih hmoves]
      by_cases hm : m.amends = some q
      · rw [(memo_amended hallows hm).2.2.2]
        simp [hm]
      · rw [revisions_after hallows hm]
        simp [hm]

theorem revisions_le_replay (hruns : e.Runs moves) (q : QueryId) :
    e.revisions q ≤ (e.replay moves).revisions q :=
  hruns.induction (P := fun e' => e.revisions q ≤ e'.revisions q) (Nat.le_refl _)
    fun _ _ hle hallows _ => Nat.le_trans hle (revisions_le_after hallows q)

theorem lt_of_known (h : (e.query q).compiled.isSome = true) : q < e.queries.length := by
  by_contra hq
  rw [(unmade_of_le (Nat.le_of_not_lt hq)).1] at h
  cases h

-- A form that there is stays until the next revision, and no other is made.
theorem memo_replay (hruns : e.Runs moves) (hknown : (e.query q).compiled.isSome = true)
    (hsame : (e.replay moves).revisions q = e.revisions q) :
    ((e.replay moves).query q).memo = (e.query q).memo := by
  induction moves generalizing e with
  | nil => rfl
  | cons m moves ih =>
      obtain ⟨hallows, -, hlater⟩ := hruns
      have hle := revisions_le_replay hlater q
      have hm : m.amends ≠ some q := by
        intro hm
        have hrevision := (memo_amended hallows hm).2.2.2
        rw [replay_cons] at hsame
        omega
      have hmemo := memo_after hallows (lt_of_known hknown) hm
      rw [Memo.consult_of_isSome hknown, ite_self] at hmemo
      have hknown' : ((e.after m).query q).memo.compiled.isSome = true := hmemo ▸ hknown
      exact (ih hlater hknown' (hsame.trans (revisions_after hallows hm).symm)).trans hmemo

-- Who asks for a form that there is changes nothing.
theorem compile_of_known (h : (e.query q).compiled.isSome = true) : (e.compile q).2.2 = e := by
  have heq : e.modifyQuery q (fun _ => (e.query q).compile.2) = e.modifyQuery q id :=
    modifyQuery_congr (Query.compile_of_isSome h)
  change e.modifyQuery q (fun _ => (e.query q).compile.2) = e
  rw [heq, modifyQuery, List.modify_id]

-- A timeline tests items with the form that its query has by now.
theorem currentFilter_of_query (hs : Sound e) (hw : Wired e)
    (hquery : (e.timeline t).query = some q) :
    (e.currentFilter t).1 = (e.query q).expr.compile := by
  cases hstale : e.isStale t with
  | false =>
      rw [currentFilter_of_current hstale]
      exact (applies_current hs hw hquery hstale).2.1
  | true =>
      obtain ⟨q', revision, hquery', -, -, hfilter⟩ := currentFilter_of_stale hw hstale
      obtain rfl := Option.some.inj (hquery.symm.trans hquery')
      exact hfilter

-- A query hands out the form of the expression it has, and makes one for each revision at which it
-- is asked. All who ask at one revision are given the same.
theorem compiled_once (hruns : ({} : Engine).Runs moves) (q : QueryId) :
    let e := ({} : Engine).replay moves
    ((e.compile q).1 = (e.query q).expr.compile ∧ (e.compile q).2.1 = (e.query q).revision) ∧
    (∀ t, (e.timeline t).query = some q → (e.currentFilter t).1 = (e.query q).expr.compile) ∧
    (e.query q).revision = (moves.countP fun m => m.amends == some q) ∧
    (e.query q).compilations = (askings q {} moves).toFinset.card ∧
    (e.query q).compilations ≤ (e.query q).revision + 1 ∧
    ∀ before m later, moves = before ++ m :: later →
      (({} : Engine).replay before).consults? m = some q →
      (({} : Engine).replay before).revisions q = e.revisions q →
      (e.query q).compiled = (((({} : Engine).replay before).after m).query q).compiled ∧
        (e.query q).compilations =
          (((({} : Engine).replay before).after m).query q).compilations ∧
        (e.compile q).2.2 = e := by
  intro e
  have hreached : IsReached e := isReached_replay hruns
  have hw := hreached.wired
  have hkeeps := keepsForm_replay hruns q
  refine ⟨⟨(hw.coherent q).compile, (e.query q).remembers_compile.revision⟩,
    fun t hquery => currentFilter_of_query hreached.sound hw hquery,
    revisions_eq_countP hruns q, hkeeps.counted, hkeeps.counted_le, ?_⟩
  rintro before m later rfl hconsults hrevision
  obtain ⟨hbefore, hallows, -, hlater⟩ := follows_append.mp hruns
  have hreplay : e = ((({} : Engine).replay before).after m).replay later := replay_append ..
  obtain ⟨hknown, hlevel⟩ := known_after (isReached_replay hbefore).wired hallows hconsults
  have hkept := memo_replay hlater hknown (hreplay ▸ hrevision.symm.trans hlevel.symm)
  rw [← hreplay] at hkept
  have hknown' : (e.query q).compiled.isSome = true :=
    (congrArg (fun memo => memo.compiled.isSome) hkept).trans hknown
  exact ⟨congrArg Memo.compiled hkept, congrArg Memo.compilations hkept,
    compile_of_known hknown'⟩

end

-- Two timelines share a query. It is given text that cannot be read, and the observer that is told
-- of that asks for the form and changes the query once more.
def changedInRound : List Move :=
  [.addQuery (.literal true) none, .addChannel 4, .addTimeline {} 0 0 (some 0) true,
    .addTimeline {} 0 0 (some 0) true, .startActivation 0 true, .step, .step, .listen 0,
    .setSource 0 "(", .step, .step, .step, .step, .step, .step, .compile 0,
    .setExpression 0 (.literal false), .step, .leaveObserver, .step, .step, .step]

theorem compiled_once_changedInRound :
    let moves := changedInRound ++ .step :: [.step, .step, .step, .accepts 1 default]
    let e := ({} : Engine).replay moves
    ({} : Engine).Runs moves ∧ askings 0 {} moves = [0, 0, 1, 1, 2, 2] ∧
      (e.query 0).revision = 2 ∧ (e.query 0).compilations = 3 ∧
      (e.compile 0).1 = (e.query 0).expr.compile ∧
      (e.currentFilter 1).1 = (e.query 0).expr.compile ∧
      (e.query 0).compiled =
        (((({} : Engine).replay changedInRound).after .step).query 0).compiled ∧
      (e.compile 0).2.2 = e := by
  intro moves
  have hruns : ({} : Engine).Runs moves := by decide +kernel
  have hasked : askings 0 {} moves = [0, 0, 1, 1, 2, 2] := by decide +kernel
  obtain ⟨⟨hform, -⟩, hfilter, hrevision, hcounted, -, hshared⟩ := compiled_once hruns 0
  obtain ⟨hkept, -, hsame⟩ := hshared changedInRound .step _ rfl (by decide +kernel) (by decide +kernel)
  rw [hasked] at hcounted
  exact ⟨hruns, hasked, hrevision.trans (by decide +kernel), hcounted, hform,
    hfilter 1 (by decide +kernel), hkept, hsame⟩

end FilteredFeed.Engine
