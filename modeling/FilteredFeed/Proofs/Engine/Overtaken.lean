import FilteredFeed.Pattern.Builtin
import FilteredFeed.Proofs.Engine.Settled

namespace FilteredFeed.Engine

open FilteredFeed.Feed FilteredFeed.Filter FilteredFeed.Listener FilteredFeed.Timeline
open FilteredFeed.Scenario (Asker)

section

variable [Patterns]
variable {e e' : Engine} {t : TimelineId} {q : QueryId} {rest : List Frame} {m : Move}

theorem wired_init : Wired {} where
  coherent q := sound_init.coherent q
  orderly q := by
    simp only [query, List.getElem?_nil, Option.getD_none]
    exact Registry.orderly_init
  ringing q h := by simp [query, default] at h
  bound t := by
    have hT : ({} : Engine).timeline t = default := rfl
    refine ⟨?_, ?_, ?_, ?_, ?_, ?_, ?_, ?_⟩ <;> rw [hT]
    · intro hactive
      cases hactive
    · intro q hq
      cases hq
    · intro q id hsub
      cases hsub
    · intro q hactive
      cases hactive
    · intro q epoch purpose hmem
      cases hmem
    · intro o r hop
      cases hop
    · intro revision hr
      cases hr
    · exact fun _ => rfl

theorem Follows.wired {rule : Engine → Move → Prop} {moves : List Move}
    (h : e.Follows rule moves) (hs : Sound e) (hw : Wired e) : Wired (e.replay moves) := by
  have hboth : Sound (e.replay moves) ∧ Wired (e.replay moves) := by
    refine h.induction (P := fun e => Sound e ∧ Wired e) ⟨hs, hw⟩ ?_
    intro e m ⟨hs, hw⟩ hallows _
    exact ⟨hs.after hallows, (comes_after hs hw hallows).1⟩
  exact hboth.2

-- A generation never goes down.
theorem Comes.generation_le (h : Comes e m t) :
    (e.timeline t).generation ≤ ((e.after m).timeline t).generation := by
  cases h with
  | tends h =>
      cases h with
      | renewed hg hs => exact Nat.le_of_lt hg
      | kept hg hstale hs => exact Nat.le_of_eq hg.symm
  | made ht hs =>
      rw [timeline_of_le ht]
      exact Nat.zero_le _
  | attached hm hf hepoch h =>
      cases h with
      | present hg hg' hs => exact Nat.le_of_eq (hg.trans hg'.symm)
      | overtaken hg hg' hs => exact Nat.le_of_eq hg'.symm

theorem generation_le_replay (hs : Sound e) (hw : Wired e) {moves : List Move}
    (hruns : e.Runs moves) (t : TimelineId) :
    (e.timeline t).generation ≤ ((e.replay moves).timeline t).generation := by
  induction moves generalizing e with
  | nil => exact Nat.le_refl _
  | cons m moves ih =>
      obtain ⟨hw', hcomes⟩ := comes_after hs hw hruns.1
      exact Nat.le_trans (hcomes t).generation_le (ih (hs.after hruns.1) hw' hruns.2.2)

-- Activations that wait to attach their timeline.

theorem activations_pop {f : Frame} (hs : e.stack = f :: rest) {f' : Frame}
    (h : f' ∈ ({ e with stack := rest } : Engine).activations) : f' ∈ e.activations := by
  obtain ⟨hmem, hactivation⟩ := mem_activations.mp h
  exact mem_activations.mpr ⟨hs ▸ List.mem_cons_of_mem _ hmem, hactivation⟩

theorem activations_prepare (e : Engine) (t : TimelineId) (o : OperationId) (generation : Nat) :
    (e.prepare t o generation).activations = e.activations := by
  rw [prepare_eq]
  split
  · exact activations_push e rfl
  · change (e.prepared t).stack.filter Frame.isActivation = _
    rw [(within_prepared e t).stack]
    rfl

theorem activations_attach (e : Engine) (t : TimelineId) (q : QueryId) (epoch : Nat)
    (purpose : Purpose) : (e.attach t q epoch purpose).activations = e.activations := by
  rw [attach_eq]
  split
  · cases purpose <;> exact activations_push e rfl
  · have hc := calm_enrol Nothing e t q
    cases purpose with
    | swap => exact (hc.trans_changes (changes_refresh Nothing _ t)).activations
    | activation o generation =>
        exact (activations_prepare _ t o generation).trans hc.activations

theorem activations_perform (e : Engine) (f : Frame) :
    (e.perform f).activations = e.activations := by
  cases hactivation : f.isActivation with
  | false => exact (changes_perform Nothing e hactivation).activations
  | true =>
      obtain ⟨t, q, epoch, o, generation, rfl⟩ := Frame.attach_of_isActivation hactivation
      exact activations_attach e t q epoch _

theorem activations_step (hallows : e.allows .step = true) {f : Frame}
    (h : f ∈ (e.after .step).activations) : f ∈ e.activations := by
  obtain ⟨frame, rest, hstack, -, hafter⟩ := after_step hallows
  rw [hafter, activations_perform] at h
  exact activations_pop hstack h

theorem activations_startActivation (hstack : e.stack = []) (t : TimelineId)
    (hasRuntime : Bool) {f : Frame} (h : f ∈ (e.startActivation t hasRuntime).2.activations) :
    ∃ q epoch o, f = .attach t q epoch (.activation o ((e.timeline t).generation + 1)) := by
  have hc := calm_addOperation Nothing e t .activation
  have hnone : (e.addOperation t .activation).2.activations = [] := by
    rw [hc.activations, activations, hstack]
    rfl
  rcases startActivation_cases e t hasRuntime with ⟨-, -, heq⟩ | ⟨-, result, heq⟩
  · rw [heq] at h
    have hlaunch := (changes_launch Nothing (e.addOperation t .activation).2 t).activations
    unfold launched at h
    split at h
    · rename_i q hq
      rw [activations, push, List.filter_append] at h
      rcases List.mem_append.mp h with hmem | hmem
      · have hgeneration := (hc.timeline t).generation
        obtain ⟨hmem, hactivation⟩ := List.mem_filter.mp hmem
        rcases List.mem_cons.mp hmem with rfl | hmem
        · cases hactivation
        · rw [List.mem_singleton.mp hmem, hgeneration]
          exact ⟨_, _, _, rfl⟩
      · rw [← activations, hlaunch, hnone] at hmem
        cases hmem
    · rw [activations_prepare, hlaunch, hnone] at h
      cases h
  · have hdone (request : FetchRequest) : Status.done result ≠ .waiting request := by
      intro heq
      cases heq
    have hclosed := changes_close Nothing (e.addOperation t .activation).2 e.operations.length hdone
    rw [heq, hclosed.activations, hnone] at h
    cases h

theorem activations_startPage (e : Engine) (t : TimelineId) (before : Option ItemId)
    (limit : Nat) : (e.startPage t before limit).2.activations = e.activations := by
  have hc := calm_addOperation Nothing e t .page
  unfold startPage
  dsimp only
  split
  · have hclosed := changes_close Nothing (e.addOperation t .page).2 e.operations.length
      fun request => (nofun : Status.done (.error .disposed) ≠ .waiting request)
    exact hclosed.activations.trans hc.activations
  · exact hc.activations

-- An activation that has just begun is of a later generation than its timeline was.
theorem activations_after (hallows : e.allows m = true) {f : Frame}
    (h : f ∈ (e.after m).activations) : f ∈ e.activations ∨
      ∃ t q epoch o, f = .attach t q epoch (.activation o ((e.timeline t).generation + 1)) := by
  cases hplain : m.isPlain with
  | true => exact .inl ((changes_after hallows hplain).activations ▸ h)
  | false =>
      cases Move.special hplain with
      | step => exact .inl (activations_step hallows h)
      | leaveObserver =>
          refine .inl ?_
          change f ∈ e.leaveObserver.activations at h
          unfold leaveObserver at h
          split at h
          · rename_i hstack
            exact activations_pop hstack h
          · exact h
      | addTimeline config storage stream query hasSink =>
          refine .inl ?_
          have hstack : (e.after (.addTimeline config storage stream query hasSink)).stack =
              e.stack := (within_recompile _ _).stack
          rwa [activations, hstack] at h
      | startActivation t hasRuntime =>
          exact .inr
            ⟨t, activations_startActivation (stack_of_allows hallows) t hasRuntime h⟩
      | startPage t before limit =>
          exact .inl (activations_startPage e t before limit ▸ h)

-- A timeline that has become unsettled was overtaken just now, or was so before.
theorem Comes.unsettled (h : Comes e m t) (hnot : ¬ Settled (e.after m) t) :
    ((e.after m).timeline t).generation = (e.timeline t).generation ∧
      (¬ Settled e t ∨ m = .step ∧ e.isOvertaken t = true) := by
  cases h with
  | tends h =>
      cases h with
      | renewed hg hs => exact absurd hs hnot
      | kept hg hstale hs => exact ⟨hg, .inl fun hsettled => hnot (hs hsettled)⟩
  | made ht hs => exact absurd hs hnot
  | attached hm hf hepoch h =>
      cases h with
      | present hg hg' hs => exact absurd (settled_of_current hs) hnot
      | overtaken hg hg' hs =>
          refine ⟨hg', .inr ⟨hm, ?_⟩⟩
          have hstale : e.isStale t = true := by
            rw [← hs]
            cases hnow : (e.after m).isStale t with
            | true => rfl
            | false => exact absurd (settled_of_current hnow) hnot
          simp [isOvertaken, hf, hepoch, hg, hstale]

-- A run that begins with an activation being overtaken, or was unsettled before, leaves a timeline
-- unsettled only under the generation it had.
theorem settled_or_overtaken (hs : Sound e) (hw : Wired e) {moves : List Move}
    (hruns : e.Runs moves) (t : TimelineId) :
    Settled (e.replay moves) t ∨
      (¬ Settled e t ∧
        (e.timeline t).generation = ((e.replay moves).timeline t).generation) ∨
      ∃ before rest, moves = before ++ .step :: rest ∧
        (e.replay before).isOvertaken t = true ∧
        ((e.replay before).timeline t).generation =
          ((e.replay moves).timeline t).generation := by
  induction moves generalizing e with
  | nil =>
      by_cases hsettled : Settled e t
      · exact .inl hsettled
      · exact .inr (.inl ⟨hsettled, rfl⟩)
  | cons m moves ih =>
      obtain ⟨hw', hcomes⟩ := comes_after hs hw hruns.1
      rcases ih (hs.after hruns.1) hw' hruns.2.2 with hsettled | ⟨hnot, hg⟩ |
        ⟨before, rest, rfl, hovertaken, hg⟩
      · exact .inl hsettled
      · obtain ⟨hsame, hbefore | ⟨rfl, hovertaken⟩⟩ := (hcomes t).unsettled hnot
        · exact .inr (.inl ⟨hbefore, hsame.symm.trans hg⟩)
        · exact .inr (.inr ⟨[], moves, rfl, hovertaken, hsame.symm.trans hg⟩)
      · exact .inr (.inr ⟨m :: before, rest, rfl, hovertaken, hg⟩)

-- A timeline that is stale and will not be brought to its query by an activation of its
-- generation.
structure Stuck (e : Engine) (t : TimelineId) : Prop where
  stale : e.isStale t = true
  free : ∀ q epoch o,
    .attach t q epoch (.activation o (e.timeline t).generation) ∉ e.stack

-- It stays so for as long as it has its generation.
theorem Stuck.after (h : Stuck e t) (hallows : e.allows m = true) (hcomes : Comes e m t)
    (hg : ((e.after m).timeline t).generation = (e.timeline t).generation) :
    Stuck (e.after m) t := by
  refine ⟨?_, ?_⟩
  · cases hcomes with
    | tends htends =>
        cases htends with
        | renewed hlt hs => exact absurd hg (Nat.ne_of_gt hlt)
        | kept hsame hstale hs => exact hstale h.stale
    | made ht hs =>
        have hstale := h.stale
        rw [isStale, timeline_of_le ht] at hstale
        cases hstale
    | attached hm hf hepoch hattaches =>
        cases hattaches with
        | present hnow hg' hs =>
            rw [← hnow] at hf
            exact absurd (List.mem_of_head? hf) (h.free _ _ _)
        | overtaken hne hg' hs => exact hs.trans h.stale
  · intro q epoch o hmem
    rw [hg] at hmem
    have hactivation : _ ∈ (e.after m).activations := mem_activations.mpr ⟨hmem, rfl⟩
    rcases activations_after hallows hactivation with hold | ⟨t', q', epoch', o', heq⟩
    · exact h.free q epoch o (mem_activations.mp hold).1
    · obtain ⟨rfl, -, -, hpurpose⟩ := Frame.attach.inj heq
      have hlater := (Purpose.activation.inj hpurpose).2
      omega

theorem Stuck.replay (h : Stuck e t) (hs : Sound e) (hw : Wired e) {moves : List Move}
    (hruns : e.Runs moves)
    (hg : ((e.replay moves).timeline t).generation = (e.timeline t).generation) :
    Stuck (e.replay moves) t := by
  induction moves generalizing e with
  | nil => exact h
  | cons m moves ih =>
      obtain ⟨hw', hcomes⟩ := comes_after hs hw hruns.1
      have hs' := hs.after hruns.1
      have hle := (hcomes t).generation_le
      have hle' := generation_le_replay hs' hw' hruns.2.2 t
      rw [replay_cons] at hg
      have hsame : ((e.after m).timeline t).generation = (e.timeline t).generation := by omega
      exact ih (h.after hruns.1 (hcomes t) hsame) hs' hw' hruns.2.2 (hg.trans hsame.symm)

theorem head_of_overtaken (h : e.isOvertaken t = true) :
    ∃ q o generation rest,
      e.stack = .attach t q (e.timeline t).epoch (.activation o generation) :: rest ∧
        (e.timeline t).generation ≠ generation ∧ e.isStale t = true := by
  unfold isOvertaken at h
  split at h
  · rename_i t' q epoch o generation hhead
    simp only [Bool.and_eq_true, beq_iff_eq, bne_iff_ne] at h
    obtain ⟨⟨⟨rfl, rfl⟩, hne⟩, hstale⟩ := h
    cases hs : e.stack with
    | nil => simp [hs] at hhead
    | cons frame rest =>
        obtain rfl : frame = _ := by simpa [hs] using hhead
        exact ⟨q, o, generation, rest, rfl, hne, hstale⟩
  · cases h

theorem after_overtaken (h : e.isOvertaken t = true) :
    ((e.after .step).timeline t).generation = (e.timeline t).generation ∧
      (e.after .step).isStale t = true := by
  obtain ⟨q, o, generation, rest, hs, hne, hstale⟩ := head_of_overtaken h
  have hafter : e.after .step = ({ e with stack := rest } : Engine).attach t q
      (e.timeline t).epoch (.activation o generation) := by
    simp only [Engine.after, Engine.step, hs, Option.getD_some]
    rfl
  have hepoch : ¬ (({ e with stack := rest } : Engine).timeline t).epoch ≠ (e.timeline t).epoch :=
    not_not_intro rfl
  have hgeneration := generation_enrol { e with stack := rest } t q
  have hpast : ((({ e with stack := rest } : Engine).enrol t q).timeline t).generation ≠
      generation := hgeneration ▸ hne
  rw [hafter, attach_eq, if_neg hepoch]
  dsimp only
  rw [prepare_eq, if_pos hpast]
  exact ⟨hgeneration, (isStale_popped e rest t q).trans hstale⟩

-- An activation that is overtaken leaves a timeline stale, with nobody to tell it.
theorem stuck_of_overtaken (hs : Sound e) (h : e.isOvertaken t = true) :
    Stuck (e.after .step) t := by
  obtain ⟨hg, hstale⟩ := after_overtaken h
  refine ⟨hstale, fun q epoch o hmem => ?_⟩
  obtain ⟨q', o', generation, rest, hstack, hne, -⟩ := head_of_overtaken h
  rw [hg] at hmem
  have hactivation : _ ∈ (e.after .step).activations := mem_activations.mpr ⟨hmem, rfl⟩
  have hallows : e.allows .step = true := by simp [allows, Engine.step, hstack]
  rcases activations_after hallows hactivation with hold | ⟨t'', q'', epoch'', o'', heq⟩
  · have hhead : e.activations =
        .attach t q' (e.timeline t).epoch (.activation o' generation) ::
          rest.filter Frame.isActivation := by
      rw [activations, hstack]
      rfl
    have hsingle := hs.single
    rw [hhead, List.length_cons] at hsingle
    have hnone : rest.filter Frame.isActivation = [] :=
      List.length_eq_zero_iff.mp (by omega)
    rw [hhead, hnone, List.mem_singleton] at hold
    obtain ⟨-, -, -, hpurpose⟩ := Frame.attach.inj hold
    exact hne (Purpose.activation.inj hpurpose).2
  · obtain ⟨rfl, -, -, hpurpose⟩ := Frame.attach.inj heq
    have hlater := (Purpose.activation.inj hpurpose).2
    omega

theorem Wired.round_eq_none (hw : Wired e) (hrest : e.stack = []) (q : QueryId) :
    (e.query q).registry.round = none := by
  cases hround : (e.query q).registry.round with
  | none => rfl
  | some round =>
      have hmem := hw.ringing q (by rw [hround]; rfl)
      rw [hrest] at hmem
      cases hmem

-- While no call is running, nobody is about to be told anything.
theorem not_due (hw : Wired e) (hrest : e.stack = []) : ¬ Due e t := by
  have hquiet := hw.round_eq_none hrest
  intro hdue
  cases hdue with
  | attach h => rw [hrest] at h; cases h
  | call h => rw [hrest] at h; cases h
  | @waiting q h => simp [Registry.waiting, hquiet q] at h
  | announced hsub h => rw [hrest] at h; cases h
  | @pending q id hsub h =>
      have hround := (hw.orderly q).pending h
      rw [hquiet q] at hround
      cases hround

-- A timeline that is not stale applies the filter of its query, and asks for what it accepts.
theorem applies_current (hs : Sound e) (hw : Wired e) (hquery : (e.timeline t).query = some q)
    (hcurrent : e.isStale t = false) :
    (e.timeline t).compiledRevision = some (e.query q).revision ∧
      (e.timeline t).compiled = (e.query q).expr.compile ∧
      ∀ a r, e.asks a = some (t, r) → r.generation = (e.timeline t).generation →
        r.text = (e.query q).expr.compile.queryText := by
  have hrevision : (e.timeline t).compiledRevision = some (e.query q).revision := by
    simp only [isStale, hquery, Option.map_some] at hcurrent
    exact (bne_eq_false_iff_eq.mp hcurrent).symm
  obtain ⟨q', hquery', -, happlied⟩ := (hw.bound t).applied _ hrevision
  obtain rfl := Option.some.inj (hquery.symm.trans hquery')
  have hcompiled := happlied rfl
  refine ⟨hrevision, hcompiled, fun a r hasks hg => ?_⟩
  rw [hs.current a t r hasks hg, hcompiled]

-- While no call is running, an active timeline with a query is stale exactly if an activation was
-- overtaken under the generation that the timeline has. If none was, the timeline applies the
-- filter of its query.
theorem isStale_iff_overtaken {moves : List Move} (hruns : ({} : Engine).Runs moves)
    (hrest : (({} : Engine).replay moves).stack = [])
    (hactive : ((({} : Engine).replay moves).timeline t).phase.isActive = true)
    (hquery : ((({} : Engine).replay moves).timeline t).query = some q) :
    ((({} : Engine).replay moves).isStale t = true ↔
      ∃ before rest, moves = before ++ .step :: rest ∧
        (({} : Engine).replay before).isOvertaken t = true ∧
        ((({} : Engine).replay before).timeline t).generation =
          ((({} : Engine).replay moves).timeline t).generation) ∧
    ((({} : Engine).replay moves).isStale t = false →
      ((({} : Engine).replay moves).timeline t).compiledRevision =
          some ((({} : Engine).replay moves).query q).revision ∧
        ((({} : Engine).replay moves).timeline t).compiled =
          ((({} : Engine).replay moves).query q).expr.compile ∧
        ∀ a r, (({} : Engine).replay moves).asks a = some (t, r) →
          r.generation = ((({} : Engine).replay moves).timeline t).generation →
            r.text = ((({} : Engine).replay moves).query q).expr.compile.queryText) := by
  have hs := hruns.sound sound_init
  have hw := hruns.wired sound_init wired_init
  refine ⟨⟨fun hstale => ?_, ?_⟩, applies_current hs hw hquery⟩
  · rcases settled_or_overtaken sound_init wired_init hruns t with hsettled | ⟨hnot, -⟩ |
      hovertaken
    · exact absurd (hsettled hactive hstale) (not_due hw hrest)
    · exact absurd (settled_of_inactive rfl) hnot
    · exact hovertaken
  · rintro ⟨before, rest, rfl, hovertaken, hg⟩
    obtain ⟨hbefore, hallows, -, hafter⟩ := follows_append.mp hruns
    have hsound := hbefore.sound sound_init
    have hwired := hbefore.wired sound_init wired_init
    have hstuck := stuck_of_overtaken hsound hovertaken
    have hsame := (after_overtaken hovertaken).1
    rw [replay_append, replay_cons] at hg ⊢
    have hkept := hstuck.replay (hsound.after hallows) (comes_after hsound hwired hallows).1 hafter
      (hg.symm.trans hsame.symm)
    exact hkept.stale

end

-- While a timeline is being activated, an observer of its query invalidates the timeline and then
-- changes the query.
def overtakenActivation : List Move :=
  [.addQuery .contradiction none, .addChannel 4, .addTimeline {} 0 0 (some 0) true, .listen 0,
    .startActivation 0 true, .step, .step, .step, .step, .invalidate 0, .step,
    .setExpression 0 (.not .contradiction), .step, .leaveObserver, .step, .step, .step, .step,
    .leaveObserver, .step, .step, .step, .step]

theorem isStale_iff_overtaken_overtakenActivation :
    ({} : Engine).Runs overtakenActivation ∧
      (({} : Engine).replay overtakenActivation).stack = [] ∧
      (({} : Engine).replay overtakenActivation).isStale 0 = true ∧
      ∃ before rest, overtakenActivation = before ++ .step :: rest ∧
        (({} : Engine).replay before).isOvertaken 0 = true ∧
        ((({} : Engine).replay before).timeline 0).generation =
          ((({} : Engine).replay overtakenActivation).timeline 0).generation := by
  have hruns : ({} : Engine).Runs overtakenActivation := by decide
  have hrest : (({} : Engine).replay overtakenActivation).stack = [] :=
    List.isEmpty_iff.mp (by decide)
  have hstale : (({} : Engine).replay overtakenActivation).isStale 0 = true := by decide
  exact ⟨hruns, hrest, hstale,
    (isStale_iff_overtaken hruns hrest (by decide) (q := 0) (by decide)).1.mp hstale⟩

end FilteredFeed.Engine
