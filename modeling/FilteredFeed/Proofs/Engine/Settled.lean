import FilteredFeed.Proofs.Engine.Attachment
import FilteredFeed.Proofs.Engine.Incidents
import FilteredFeed.Proofs.Engine.Rounds

namespace FilteredFeed.Engine

open FilteredFeed.Feed FilteredFeed.Filter FilteredFeed.Listener FilteredFeed.Timeline
open FilteredFeed.Scenario (Asker)

variable [Patterns]
variable {e e' : Engine} {t : TimelineId} {q : QueryId} {rest : List Frame} {m : Move}

-- Changes of a query.

section Amend

variable {f : Query Target → Query Target} {announced : Nat}

-- A query is changed, and the change is to be announced.
def amend (e : Engine) (q : QueryId) (f : Query Target → Query Target) (announced : Nat) : Engine :=
  (e.modifyQuery q f).push [.announce q announced]

-- A change makes a further revision, and concerns nobody yet.
structure Amends (f : Query Target → Query Target) (query : Query Target) : Prop where
  revision : (f query).revision = query.revision + 1
  coherent : (f query).Coherent
  registry : (f query).registry = query.registry

theorem query_amend (e : Engine) (q q' : QueryId) (f : Query Target → Query Target)
    (announced : Nat) : (e.amend q f announced).query q' = e.query q' ∨
      q' = q ∧ (e.amend q f announced).query q' = f (e.query q) := query_modifyQuery e q q' f

theorem registry_amend (hf : Amends f (e.query q)) (q' : QueryId) :
    ((e.amend q f announced).query q').registry = (e.query q').registry := by
  rcases query_amend e q q' f announced with h | ⟨rfl, h⟩
  · rw [h]
  · rw [h, hf.registry]

theorem mem_amend {frame : Frame} (h : frame ∈ e.stack) : frame ∈ (e.amend q f announced).stack :=
  List.mem_cons_of_mem _ h

theorem mem_of_amend {frame : Frame} (h : frame ∈ (e.amend q f announced).stack)
    (hne : frame ≠ .announce q announced) : frame ∈ e.stack :=
  (List.mem_cons.mp h).resolve_left hne

theorem Bound.amend (hb : Bound e t) (hf : Amends f (e.query q)) :
    Bound (e.amend q f announced) t := by
  refine ⟨hb.held, ?_, ?_, ?_, ?_, hb.begun, ?_, hb.unapplied⟩
  · intro q' hq'
    have hlength : (e.amend q f announced).queries.length = e.queries.length := by
      simp [Engine.amend, modifyQuery, push]
    exact hlength ▸ hb.known q' hq'
  · intro q' id hsub
    obtain ⟨hactive, hq', hmem⟩ := hb.subscribed q' id hsub
    refine ⟨hactive, hq', ?_⟩
    unfold subscriptions at hmem ⊢
    rwa [registry_amend hf]
  · intro q' hactive hq'
    refine (hb.reached q' hactive hq').imp_right ?_
    rintro ⟨purpose, h⟩
    exact ⟨purpose, mem_amend h⟩
  · intro q' epoch purpose h
    have hne : Frame.attach t q' epoch purpose ≠ .announce q announced := by
      intro heq
      cases heq
    exact hb.attaching q' epoch purpose (mem_of_amend h hne)
  · intro revision hr
    obtain ⟨q', hq', hle, heq⟩ := hb.applied revision hr
    refine ⟨q', hq', ?_⟩
    rcases query_amend e q q' f announced with h | ⟨rfl, h⟩
    · rw [h]
      exact ⟨hle, heq⟩
    · rw [h, hf.revision]
      exact ⟨Nat.le_succ_of_le hle, fun hnow => by omega⟩

-- Whose query changes is stale.
theorem isStale_amend (hb : Bound e t) (hf : Amends f (e.query q)) (hlt : q < e.queries.length)
    (hq : (e.timeline t).query = some q) : (e.amend q f announced).isStale t = true := by
  have hquery : (e.amend q f announced).query q = f (e.query q) := query_modifyQuery_self hlt f
  have hne : (some ((e.amend q f announced).query q).revision) ≠
      (e.timeline t).compiledRevision := by
    intro heq
    obtain ⟨q', hq', hle, -⟩ := hb.applied _ heq.symm
    obtain rfl := Option.some.inj (hq.symm.trans hq')
    rw [hquery, hf.revision] at hle
    exact Nat.lt_irrefl _ hle
  have hT : (e.amend q f announced).timeline t = e.timeline t := rfl
  simpa [isStale, hT, hq] using hne

theorem isStale_amend_ne (hq : (e.timeline t).query ≠ some q) :
    (e.amend q f announced).isStale t = e.isStale t := by
  have hT : (e.amend q f announced).timeline t = e.timeline t := rfl
  simp only [isStale, hT]
  cases hquery : (e.timeline t).query with
  | none => rfl
  | some q' =>
      have hne : q' ≠ q := fun heq => hq (heq ▸ hquery)
      have hsame : (e.amend q f announced).query q' = e.query q' := query_modifyQuery_ne hne f
      simp only [Option.map_some, hsame]

theorem Due.amend (h : Due e t) (hf : Amends f (e.query q)) : Due (e.amend q f announced) t := by
  cases h with
  | attach h => exact .attach (mem_amend h)
  | call h => exact .call (mem_amend h)
  | @waiting q' h =>
      refine .waiting (q := q') ?_
      rwa [registry_amend hf]
  | announced hsub h => exact .announced hsub (List.mem_cons_of_mem _ h)
  | pending hsub h =>
      refine .pending hsub ?_
      rwa [registry_amend hf]

theorem tends_amend (hb : Bound e t) (hf : Amends f (e.query q)) (hlt : q < e.queries.length) :
    Tends e (e.amend q f announced) t := by
  by_cases hq : (e.timeline t).query = some q
  · refine .kept rfl (fun _ => isStale_amend hb hf hlt hq) fun _ hactive _ => ?_
    rcases hb.reached q hactive hq with hsome | ⟨purpose, h⟩
    · obtain ⟨⟨q', id⟩, hsub⟩ := Option.isSome_iff_exists.mp hsome
      obtain rfl := Option.some.inj (hq.symm.trans (hb.subscribed q' id hsub).2.1)
      exact .announced hsub List.mem_cons_self
    · exact .attach (mem_amend h)
  · have hsame : (e.amend q f announced).isStale t = e.isStale t := isStale_amend_ne hq
    refine .kept rfl (fun h => hsame ▸ h) fun hs hactive hstale => ?_
    exact (hs hactive (hsame ▸ hstale)).amend hf

theorem advances_amend (hlt : q < e.queries.length) (hf : Amends f (e.query q)) :
    Advances e (e.amend q f announced) := by
  intro hw
  refine ⟨⟨?_, ?_, ?_, fun t => (hw.bound t).amend hf⟩, fun t => tends_amend (hw.bound t) hf hlt⟩
  · intro q'
    rcases query_amend e q q' f announced with h | ⟨rfl, h⟩
    · rw [h]
      exact hw.coherent q'
    · rw [h]
      exact hf.coherent
  · intro q'
    rw [registry_amend hf]
    exact hw.orderly q'
  · intro q' hround
    rw [registry_amend hf] at hround
    exact mem_amend (hw.ringing q' hround)

theorem advances_setExpression (hlt : q < e.queries.length) (expr : Expr) :
    Advances e (e.setExpression q expr) :=
  advances_amend hlt ⟨rfl, nofun, rfl⟩

theorem advances_setSource (hlt : q < e.queries.length) (text : String) :
    Advances e (e.setSource q text).2 := by
  have hf : Amends (fun _ => ((e.query q).replaceSource text).2) (e.query q) := by
    refine ⟨?_, coherent_replaceSource _ text, ?_⟩ <;> unfold Query.replaceSource <;> split <;> rfl
  exact advances_amend hlt hf

end Amend

-- Operations and tasks.

theorem advances_complete (e : Engine) (o : OperationId)
    (result : Except StorageError (List Item)) : Advances e (e.complete o result) := by
  intro hw
  cases completes e o result with
  | unasked hnone heq =>
      rw [heq]
      exact Advances.refl e hw
  | ended hop hwhy heq =>
      rw [heq]
      exact advances_close e o (done_ne_waiting _) hw
  | @merged t kind r items phase outcome hop hg hphase heq =>
      have hactive : phase.isActive = (e.timeline t).phase.isActive := by
        rcases hphase with ⟨-, rfl⟩ | ⟨rfl, rfl⟩
        · rfl
        · exact (((hw.bound t).begun o r hop).2 hg).symm
      have hties : (e.timeline t).SameTies { e.timeline t with phase } :=
        ⟨hactive, rfl, rfl, rfl, rfl, rfl, rfl, id⟩
      rw [heq]
      refine Advances.trans (links_modifyTimeline e ?_).advances
        (advances_close _ o (done_ne_waiting _)) hw
      exact hties.trans (ties_absorb _ items)
  | @rolledBack t r cause hop hg heq =>
      have hrunning : Links none e (e.setStatus o .running) := links_setStatus e o running_ne_waiting
      have ht : t < (e.setStatus o .running).timelines.length :=
        lt_of_active (e := e) (((hw.bound t).begun o r hop).2 hg)
      rw [heq]
      refine (hrunning.advances.trans ((advances_teardown ht).trans (links_push _ ?_).advances)) hw
      intro t' q epoch purpose
      simp [attach_notMem_deactivations]

theorem advances_cancel (e : Engine) (o : OperationId) : Advances e (e.cancel o) := by
  unfold cancel
  split
  · exact advances_close e o fun _ => nofun
  · exact .refl e

theorem links_startRefetch (e : Engine) (t : TimelineId) : Links none e (e.startRefetch t) := by
  unfold startRefetch
  dsimp only
  split
  · have hspawn (e : Engine) (job : Job) : Links none e (e.spawn job).2 :=
      links_of_timelines rfl rfl rfl fun _ _ => .refl _
    refine ((background_abort? e _).links.trans (hspawn _ _)).trans (links_modifyTimeline _ ?_)
    exact ⟨rfl, rfl, rfl, rfl, rfl, rfl, rfl, id⟩
  · exact .refl _ _

theorem links_completeTask (e : Engine) (k : TaskId) (result : Except StorageError (List Item)) :
    Links none e (e.completeTask k result) := by
  have hreplenished (T : Timeline) : T.SameTies (replenished T) := by
    refine ⟨?_, rfl, rfl, rfl, rfl, rfl, rfl, id⟩
    unfold replenished
    dsimp only
    split
    · rename_i hinvalidated
      rw [hinvalidated]
      rfl
    · rfl
  cases replenishes e k result with
  | background hb => exact hb.links
  | filled hasks halive hg hb heq =>
      rw [heq]
      exact hb.links.trans (links_modifyTimeline _ ((hreplenished _).trans (ties_absorb ..)))
  | failed hasks halive hg hb heq =>
      rw [heq]
      refine hb.links.trans (links_modifyTimeline _ ((hreplenished _).trans ?_))
      exact ⟨rfl, rfl, rfl, rfl, rfl, rfl, rfl, id⟩

theorem advances_turn (e : Engine) (k : TaskId) : Advances e (e.turn k) := by
  cases polls e k with
  | background hb => exact hb.links.advances
  | offered htask halive hitem hb heq =>
      rw [heq]
      exact hb.links.advances.trans (advances_offer _ _ _)
  | lagged htask halive hactive hmissed hb heq =>
      rw [heq]
      exact hb.links.advances.trans (links_startRefetch ..).advances

theorem advances_startActivation (halive : e.isAlive (.timeline t) = true) (hasRuntime : Bool) :
    Advances e (e.startActivation t hasRuntime).2 := by
  have hadd := links_addOperation e t .activation
  have ht := isAlive_lt halive
  rcases startActivation_cases e t hasRuntime with ⟨hinactive, -, heq⟩ | ⟨-, result, heq⟩
  · have hT : (e.addOperation t .activation).2.timeline t =
        { e.timeline t with holders := (e.timeline t).holders + 1 } :=
      timeline_modifyTimeline_self ht _
    have hsize := (calm_addOperation Nothing e t .activation).size
    rw [heq]
    refine hadd.advances.trans (advances_launched (hsize ▸ ht) (owner_addOperation ..) ?_ ?_)
    · rw [hT]
      exact hinactive
    · rw [hT]
      exact Nat.succ_pos _
  · rw [heq]
    exact hadd.advances.trans (advances_close _ _ fun _ => nofun)

theorem advances_startPage (e : Engine) (t : TimelineId) (before : Option ItemId) (limit : Nat) :
    Advances e (e.startPage t before limit).2 := by
  have hadd := links_addOperation e t .page
  unfold startPage
  dsimp only
  split
  · exact hadd.advances.trans (advances_close _ _ fun _ => nofun)
  · refine hadd.advances.trans (advances_wait ?_)
    intro t' status hop
    simp [addOperation, retain, modifyTimeline] at hop

-- A timeline is made.

theorem bound_new (hb : Bound e t) (ht : t = e.timelines.length) :
    (∀ q epoch purpose, .attach t q epoch purpose ∉ e.stack) ∧
      ∀ (o : OperationId) r, e.operations[o]? ≠ some ⟨t, .activation, .waiting r⟩ := by
  have hT : e.timeline t = default := timeline_of_le (Nat.le_of_eq ht.symm)
  constructor
  · intro q epoch purpose hmem
    obtain ⟨hle, hcurrent⟩ := hb.attaching q epoch purpose hmem
    rw [hT] at hle hcurrent
    cases (hcurrent (Nat.le_zero.mp hle)).1
  · intro o r hop
    obtain ⟨hle, hcurrent⟩ := hb.begun o r hop
    rw [hT] at hle hcurrent
    cases hcurrent (Nat.le_zero.mp hle)

-- A timeline that is made is inactive, and wired to nothing.
theorem Bound.made (hb : Bound e t) (ht : t = e.timelines.length)
    (hinactive : (e'.timeline t).phase.isActive = false)
    (hsubscription : (e'.timeline t).subscription = none)
    (hquery : ∀ q, (e'.timeline t).query = some q → q < e'.queries.length)
    (hstack : e'.stack = e.stack) (hoperations : e'.operations = e.operations)
    (happlied : ∀ revision, (e'.timeline t).compiledRevision = some revision →
      ∃ q, (e'.timeline t).query = some q ∧ revision ≤ (e'.query q).revision ∧
        (revision = (e'.query q).revision →
          (e'.timeline t).compiled = (e'.query q).expr.compile))
    (hunapplied : (e'.timeline t).compiledRevision = none → (e'.timeline t).query = none) :
    Bound e' t := by
  obtain ⟨hnoattach, hnobegun⟩ := bound_new hb ht
  refine ⟨?_, hquery, ?_, ?_, ?_, ?_, happlied, hunapplied⟩
  · intro hactive
    rw [hinactive] at hactive
    cases hactive
  · intro q id hsub
    rw [hsubscription] at hsub
    cases hsub
  · intro q hactive
    rw [hinactive] at hactive
    cases hactive
  · intro q epoch purpose hmem
    rw [hstack] at hmem
    exact absurd hmem (hnoattach q epoch purpose)
  · intro o r hop
    rw [hoperations] at hop
    exact absurd hop (hnobegun o r)

theorem wired_addTimeline (hw : Wired e) (config : Config) (storage : StorageId)
    (stream : StreamId) {query : Option QueryId} (hasSink : Bool)
    (hquery : ∀ q, query = some q → q < e.queries.length) :
    let e' := (e.addTimeline config storage stream query hasSink).2
    Wired e' ∧ (∀ t, t ≠ e.timelines.length → Tends e e' t) ∧
      Settled e' e.timelines.length := by
  unfold addTimeline
  dsimp only
  generalize hnew : ({ config, storage, stream, query, hasSink, buffer := .empty config.maxItems } :
    Timeline) = new
  generalize he : ({ e with timelines := e.timelines ++ [new] } : Engine) = added
  have hadded : Links (some e.timelines.length) e added := by
    subst he
    refine links_of_timelines rfl rfl rfl fun t hd => ?_
    rw [timeline_append, if_neg fun heq => hd (congrArg some heq.symm)]
    exact .refl _
  have hT : added.timeline e.timelines.length = new := by
    subst he
    rw [timeline_append, if_pos rfl]
  have hsize : e.timelines.length < added.timelines.length := by
    subst he
    simp
  have hwithin := within_recompile added e.timelines.length
  have htimeline := timeline_recompile hsize
  have hlinks := hadded.trans hwithin.links
  have hstack := hwithin.stack.trans (by rw [← he] : added.stack = e.stack)
  have hoperations := hwithin.operations.trans (by rw [← he] : added.operations = e.operations)
  rw [hT] at htimeline
  have hsame : ((added.recompile e.timelines.length).timeline e.timelines.length).query =
      (added.timeline e.timelines.length).query := by rw [htimeline, hT]
  obtain ⟨happlied, hunapplied, -⟩ := applied_current
    (fun q => hadded.coherent q (hw.coherent q)) hwithin.query hsame (by rw [htimeline])
    (by rw [htimeline])
  generalize added.recompile e.timelines.length = e' at *
  have hinactive : (e'.timeline e.timelines.length).phase.isActive = false := by
    rw [htimeline, ← hnew]
    rfl
  have hsubscription : (e'.timeline e.timelines.length).subscription = none := by
    rw [htimeline, ← hnew]
  have hknown : ∀ q, (e'.timeline e.timelines.length).query = some q → q < e'.queries.length := by
    intro q hq
    rw [hsame, hT, ← hnew] at hq
    exact Nat.lt_of_lt_of_le (hquery q hq) hlinks.range
  have hbound := (hw.bound e.timelines.length).made rfl hinactive hsubscription hknown hstack
    hoperations happlied hunapplied
  refine ⟨hw.links hlinks hbound, fun t hne => ?_, settled_of_inactive hinactive⟩
  exact hlinks.tends (hw.bound t) fun hsome => hne (Option.some.inj hsome).symm

-- What a move does to a timeline. Only an activation that is overtaken leaves one unsettled that
-- was settled.
inductive Comes (e : Engine) (m : Move) (t : TimelineId) : Prop where
  | tends (h : Tends e (e.after m) t)
  | made (ht : e.timelines.length ≤ t) (hs : Settled (e.after m) t)
  | attached {q : QueryId} {epoch : Nat} {o : OperationId} {generation : Nat} (hm : m = .step)
      (hf : e.stack.head? = some (.attach t q epoch (.activation o generation)))
      (hepoch : (e.timeline t).epoch = epoch) (h : Attaches e (e.after m) t generation)

theorem Advances.comes (h : Advances e (e.after m)) (hw : Wired e) :
    Wired (e.after m) ∧ ∀ t, Comes e m t := by
  obtain ⟨hw', ht⟩ := h hw
  exact ⟨hw', fun t => .tends (ht t)⟩

-- Whether a call tells no timeline of a change, and brings none to its query.
def Frame.isSilent : Frame → Bool
  | .attach .. | .call (.timeline _) _ | .announce _ _ | .rounds _ => false
  | _ => true

theorem advances_pop {frame : Frame} (hs : e.stack = frame :: rest)
    (hsilent : frame.isSilent = true) : Advances e { e with stack := rest } := by
  have htells (t : TimelineId) : frame.tells t = false := by
    unfold Frame.tells
    split
    · cases hsilent
    · cases hsilent
    · rfl
  refine (links_pop hs ?_ (fun t _ => htells t) ?_).advances
  · rintro t - q epoch purpose rfl
    cases hsilent
  · rintro q rfl
    cases hsilent

theorem advances_call {revision : Nat} (hs : e.stack = .call (.timeline t) revision :: rest) :
    Advances e (({ e with stack := rest } : Engine).onInvalidated t revision) := by
  intro hw
  have hties : Ties none e { e with stack := rest } := ties_pop hs fun _ _ _ _ _ => nofun
  have hpop : Links (some t) e { e with stack := rest } := by
    refine links_pop hs (fun _ _ _ _ _ => nofun) ?_ fun _ => nofun
    intro t' hd
    exact beq_false_of_ne fun heq => hd (congrArg some heq)
  have hw' : Wired { e with stack := rest } := hw.links hpop ((hw.bound t).spared hties nofun)
  have hstale : ({ e with stack := rest } : Engine).isStale t = e.isStale t := rfl
  have htends (t' : TimelineId) (hne : t' ≠ t) : Tends e { e with stack := rest } t' :=
    hpop.tends (hw.bound t') fun hsome => hne (Option.some.inj hsome).symm
  rcases onInvalidated_settled { e with stack := rest } t revision with heq | ⟨hl, hsettled⟩
  · rw [heq]
    obtain ⟨hw'', htends'⟩ := advances_invalidateNow { e with stack := rest } t hw'
    refine ⟨hw'', fun t' => ?_⟩
    by_cases hne : t' = t
    · subst hne
      by_cases ht : t' < e.timelines.length
      · obtain ⟨hT, hlater⟩ := refreshes_invalidateNow (e := { e with stack := rest }) ht
        exact .renewed hlater
          (settled_of_current (hT.isStale hw'.coherent (within_invalidateNow _ t')))
      · have hinactive : (e.timeline t').phase.isActive = false := by
          rw [timeline_of_le (Nat.le_of_not_lt ht)]
          rfl
        have hkept : Tends e { e with stack := rest } t' :=
          .kept rfl id fun _ => settled_of_inactive hinactive
        exact hkept.trans (htends' t')
    · exact (htends t' hne).trans (htends' t')
  · obtain ⟨hw'', htends'⟩ := hl.advances hw'
    refine ⟨hw'', fun t' => ?_⟩
    by_cases hne : t' = t
    · subst hne
      cases htends' t' with
      | renewed hg hs' => exact .renewed hg hs'
      | kept hg hst hs' => exact .kept hg hst fun _ => hs' hsettled
    · exact (htends t' hne).trans (htends' t')

theorem comes_step (hs : Sound e) (hw : Wired e) (hallows : e.allows .step = true) :
    Wired (e.after .step) ∧ ∀ t, Comes e .step t := by
  obtain ⟨frame, rest, hstack, hframe, hafter⟩ := after_step hallows
  have hadvances (h : Advances e (({ e with stack := rest } : Engine).perform frame)) :
      Wired (e.after .step) ∧ ∀ t, Comes e .step t := by
    apply Advances.comes _ hw
    rw [hafter]
    exact h
  cases frame with
  | activate q =>
      have hpop := advances_pop hstack rfl
      exact hadvances (hpop.trans (links_addActivation _ q).advances)
  | deactivate q =>
      have hpop := advances_pop hstack rfl
      exact hadvances (hpop.trans (links_removeActivation _ q).advances)
  | announce q revision => exact hadvances (advances_announce hstack)
  | rounds q => exact hadvances (advances_continueRounds hstack)
  | call target revision =>
      cases target with
      | timeline t => exact hadvances (advances_call hstack)
      | observer o =>
          have hpop := advances_pop hstack rfl
          exact hadvances (hpop.trans (links_push _ (by simp)).advances)
  | observer o revision => cases hframe
  | release target =>
      have hpop := advances_pop hstack rfl
      exact hadvances (hpop.trans (advances_release _ target))
  | attach t q epoch purpose =>
      cases purpose with
      | swap => exact hadvances (advances_attach_swap hstack)
      | activation o generation =>
          have ho := (hs.window t q epoch o generation (by simp [hstack])).1
          obtain ⟨hw', ht⟩ := attach_activation_cases hstack ho hw
          have hafter : e.after .step = ({ e with stack := rest } : Engine).attach t q epoch
              (.activation o generation) := hafter
          rw [← hafter] at hw' ht
          refine ⟨hw', fun t' => ?_⟩
          rcases ht t' with h | ⟨rfl, hepoch, h⟩
          · exact .tends h
          · exact .attached rfl (by rw [hstack]; rfl) hepoch h
  | emit t delta =>
      have hpop := advances_pop hstack rfl
      exact hadvances (hpop.trans (links_emit _ t delta).advances)
  | finish o result =>
      have hpop := advances_pop hstack rfl
      exact hadvances (hpop.trans (advances_close _ o fun _ => nofun))

theorem advances_leaveObserver (e : Engine) : Advances e e.leaveObserver := by
  unfold leaveObserver
  split
  · rename_i hstack
    exact advances_pop hstack rfl
  · exact .refl e

-- What one move does to the wiring and to every timeline.
theorem comes_after (hs : Sound e) (hw : Wired e) (hallows : e.allows m = true) :
    Wired (e.after m) ∧ ∀ t, Comes e m t := by
  cases m with
  | step => exact comes_step hs hw hallows
  | addTimeline config storage stream query hasSink =>
      have hquery : ∀ q, query = some q → q < e.queries.length := by
        rintro q rfl
        simpa using (Bool.and_eq_true_iff.mp hallows).2
      obtain ⟨hw', htends, hnew⟩ := wired_addTimeline hw config storage stream hasSink hquery
      refine ⟨hw', fun t => ?_⟩
      by_cases ht : t = e.timelines.length
      · exact .made (Nat.le_of_eq ht.symm) (ht ▸ hnew)
      · exact .tends (htends t ht)
  | leaveObserver => exact (advances_leaveObserver e).comes hw
  | addQuery expr source => exact Advances.comes (links_addQuery e expr source).advances hw
  | addChannel capacity =>
      have hl : Links none e (e.after (.addChannel capacity)) :=
        links_of_timelines rfl rfl rfl fun _ _ => .refl _
      exact hl.advances.comes hw
  | setExpression q expr =>
      have hlt : q < e.queries.length := by simpa using (Bool.and_eq_true_iff.mp hallows).2
      exact Advances.comes (advances_setExpression hlt expr) hw
  | setSource q text =>
      have hlt : q < e.queries.length := by simpa using (Bool.and_eq_true_iff.mp hallows).2
      exact Advances.comes (advances_setSource hlt text) hw
  | activateQuery q =>
      have hl : Links none e (e.push [.activate q]) := links_push e (by simp)
      exact Advances.comes hl.advances hw
  | deactivateQuery q =>
      have hl : Links none e (e.push [.deactivate q]) := links_push e (by simp)
      exact Advances.comes hl.advances hw
  | compile q => exact Advances.comes (links_compile e q).advances hw
  | listen q => exact Advances.comes (links_listen e q).advances hw
  | unsubscribe q id =>
      refine Advances.comes (links_dropSubscription_observer ?_).advances hw
      intro s hmem hid
      have hall := List.all_eq_true.mp (Bool.and_eq_true_iff.mp hallows).2 s hmem
      simpa [hid] using hall
  | releaseObserver o => exact Advances.comes (advances_release e (.observer o)) hw
  | retain t => exact Advances.comes (links_retain e (.timeline t)).advances hw
  | drop t => exact Advances.comes (advances_release e (.timeline t)) hw
  | deactivate t =>
      exact Advances.comes ((links_hold e t).advances.trans (advances_deactivate _ t)) hw
  | invalidate t =>
      exact Advances.comes ((links_hold e t).advances.trans (advances_invalidate _ t)) hw
  | dispose t =>
      have ht := isAlive_of_allows hallows
      exact Advances.comes ((links_hold e t).advances.trans
        (advances_dispose (size_hold e t ▸ ht))) hw
  | setQuery t query =>
      obtain ⟨hopen, hall⟩ := Bool.and_eq_true_iff.mp hallows
      have ht := isAlive_of_allows hopen
      have hquery : ∀ q, query = some q → q < (e.hold t).queries.length := by
        rintro q rfl
        have hlt : q < e.queries.length := by simpa using hall
        exact hlt
      exact Advances.comes ((links_hold e t).advances.trans
        (advances_setQuery (size_hold e t ▸ ht) hquery)) hw
  | accepts t item => exact Advances.comes (links_currentFilter e t).advances hw
  | takeUnread t =>
      have hl : Links none e (e.after (.takeUnread t)) :=
        links_modifyTimeline e ⟨rfl, rfl, rfl, rfl, rfl, rfl, rfl, id⟩
      exact hl.advances.comes hw
  | offer t item => exact Advances.comes (advances_offer e t item) hw
  | publish s item => exact Advances.comes (background_publish e s item).links.advances hw
  | closeStream s => exact Advances.comes (background_closeStream e s).links.advances hw
  | startActivation t hasRuntime =>
      have halive := (Bool.and_eq_true_iff.mp hallows).2
      exact Advances.comes (advances_startActivation halive hasRuntime) hw
  | startPage t before limit => exact Advances.comes (advances_startPage e t before limit) hw
  | answer asker result =>
      cases asker with
      | operation o => exact Advances.comes (advances_complete e o result) hw
      | task k => exact Advances.comes (links_completeTask e k result).advances hw
  | cancel o => exact Advances.comes (advances_cancel e o) hw
  | wake k => exact Advances.comes (background_wake e k).links.advances hw
  | nextTask => exact Advances.comes (background_nextTask e).links.advances hw
  | turn k => exact Advances.comes (advances_turn e k) hw

end FilteredFeed.Engine
