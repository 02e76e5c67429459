import FilteredFeed.Proofs.Engine.Notice

namespace FilteredFeed.Engine

open FilteredFeed.Feed FilteredFeed.Filter FilteredFeed.Listener FilteredFeed.Timeline

variable [Patterns]
variable {e e' e'' : Engine} {t : TimelineId} {q : QueryId} {d : Option TimelineId}

-- A timeline goes over to another query.

def moved (timeline : Timeline) (query : Option QueryId) : Timeline :=
  { timeline with
    subscription := none
    activated := none
    query
    epoch := timeline.epoch + 1 }

theorem timeline_leaveQuery (ht : t < e.timelines.length) (query : Option QueryId) :
    (e.leaveQuery t query).timeline t = moved (e.timeline t) query := by
  unfold leaveQuery
  rw [timeline_modifyTimeline_self ((apart_unsubscribe e t).size ▸ ht), timeline_unsubscribe ht]
  rfl

theorem apart_leaveQuery (e : Engine) (t : TimelineId) (query : Option QueryId) :
    Apart t e (e.leaveQuery t query) :=
  (apart_unsubscribe e t).trans (within_modifyTimeline ..).toApart

theorem timeline_leaveQuery_or (e : Engine) (t : TimelineId) (query : Option QueryId) :
    (e.leaveQuery t query).timeline t = e.timeline t ∨
      (e.leaveQuery t query).timeline t = moved (e.timeline t) query := by
  by_cases ht : t < e.timelines.length
  · exact .inr (timeline_leaveQuery ht query)
  · have hle := Nat.le_of_not_lt ht
    rw [timeline_of_le hle, timeline_of_le ((apart_leaveQuery e t query).size ▸ hle)]
    exact .inl rfl

theorem refreshes_invalidateNow (ht : t < e.timelines.length) :
    Refreshes (e.current t) (e.timeline t) ((e.invalidateNow t).timeline t) ∧
      (e.timeline t).generation < ((e.invalidateNow t).timeline t).generation := by
  have hT := refreshes_invalidateQuietly ht
  have hsize := (within_invalidateQuietly e t).size
  have hgeneration : (e.timeline t).generation <
      ((e.invalidateQuietly t).2.timeline t).generation := by
    rw [timeline_invalidateQuietly ht]
    exact Nat.lt_succ_self _
  obtain ⟨events, hemit⟩ :=
    emit_eq ((e.invalidateQuietly t).2.timeline t) (e.invalidateQuietly t).1
  have hnow : (e.invalidateNow t).timeline t =
      ((e.invalidateQuietly t).2.timeline t).emit (e.invalidateQuietly t).1 :=
    timeline_modifyTimeline_self (hsize ▸ ht) _
  rw [hnow, hemit]
  exact ⟨⟨hT.active, hT.query, hT.epoch, hT.subscription, hT.holders, hT.generation, hT.compiled,
    hT.revision⟩, hgeneration⟩

theorem mem_attachment {f : Frame} {T : Timeline} {query : Option QueryId} {q' : QueryId}
    {t' : TimelineId} {epoch : Nat} {purpose : Purpose}
    (h : f ∈ attachment T t query) (hf : f = .attach t' q' epoch purpose) :
    t' = t ∧ epoch = T.epoch + 1 ∧ T.phase.isActive = true ∧ query = some q' := by
  subst hf
  cases query with
  | none => cases h
  | some q =>
      unfold attachment at h
      dsimp only at h
      split at h
      · rename_i hactive
        obtain ⟨rfl, rfl, rfl, -⟩ : t' = t ∧ q' = q ∧ epoch = T.epoch + 1 ∧ purpose = .swap := by
          simpa using h
        exact ⟨rfl, rfl, hactive, rfl⟩
      · cases h

theorem attach_mem_attachment {T : Timeline} (h : T.phase.isActive = true) (t : TimelineId)
    (q : QueryId) : .attach t q (T.epoch + 1) .swap ∈ attachment T t (some q) := by
  simp [attachment, h]

-- A timeline that has gone over to another query is not subscribed. What it is wired to is the
-- attachment that its query is given, if it is active.
theorem Bound.moved (hb : Bound e t) {query : Option QueryId}
    {applied : CompiledFilter × Option Nat} (hlinks : Links (some t) e e')
    (hT : Refreshes applied (moved (e.timeline t) query) (e'.timeline t))
    (hgeneration : (e.timeline t).generation < (e'.timeline t).generation)
    (hstack : e'.stack = e.stack) (hoperations : e'.operations = e.operations)
    (hquery : ∀ q, query = some q → q < e.queries.length)
    (happlied : ∀ revision, (e'.timeline t).compiledRevision = some revision →
      ∃ q, (e'.timeline t).query = some q ∧ revision ≤ (e'.query q).revision ∧
        (revision = (e'.query q).revision →
          (e'.timeline t).compiled = (e'.query q).expr.compile))
    (hunapplied : (e'.timeline t).compiledRevision = none → (e'.timeline t).query = none) :
    Bound (e'.push
      (deactivations (e.timeline t).activated ++ attachment (e.timeline t) t query)) t := by
  have hactive : (e'.timeline t).phase.isActive = (e.timeline t).phase.isActive := hT.active
  have hepoch : (e'.timeline t).epoch = (e.timeline t).epoch + 1 := hT.epoch
  refine ⟨?_, ?_, ?_, ?_, ?_, ?_, happlied, hunapplied⟩
  · intro hact
    have hheld := hb.held (hactive ▸ hact)
    exact hT.holders ▸ hheld
  · intro q hq
    have hq : query = some q := hT.query.symm.trans hq
    exact Nat.lt_of_lt_of_le (hquery q hq) hlinks.range
  · intro q id hsub
    have hsub : none = some (q, id) := hT.subscription.symm.trans hsub
    cases hsub
  · intro q hact hq
    have hq : query = some q := hT.query.symm.trans hq
    refine .inr ⟨.swap, ?_⟩
    have hmem := attach_mem_attachment (hactive ▸ hact : (e.timeline t).phase.isActive = true) t q
    rw [← hq, ← hepoch] at hmem
    exact List.mem_append_left _ (List.mem_append_right _ hmem)
  · intro q epoch purpose hmem
    rcases List.mem_append.mp hmem with hmem | hmem
    · rcases List.mem_append.mp hmem with hmem | hmem
      · exact absurd hmem (attach_notMem_deactivations _ _ _ _ _)
      · obtain ⟨-, rfl, hact, hq⟩ := mem_attachment hmem rfl
        exact ⟨Nat.le_of_eq hepoch.symm, fun _ => ⟨hactive.trans hact, hT.query.trans hq⟩⟩
    · -- attachments that were under way before are of earlier epochs
      have hle := (hb.attaching q epoch purpose (hstack ▸ hmem)).1
      refine ⟨Nat.le_trans hle (hepoch ▸ Nat.le_succ _), fun heq => ?_⟩
      have heq : epoch = (e'.timeline t).epoch := heq
      omega
  · intro o r hop
    have hle := (hb.begun o r (hoperations ▸ hop)).1
    refine ⟨Nat.le_of_lt (Nat.lt_of_le_of_lt hle hgeneration), fun heq => ?_⟩
    have heq : r.generation = (e'.timeline t).generation := heq
    omega

theorem advances_setQuery (ht : t < e.timelines.length) {query : Option QueryId}
    (hquery : ∀ q, query = some q → q < e.queries.length) :
    Advances e (e.setQuery t query).2 := by
  rw [setQuery_eq]
  split
  · exact .refl e
  intro hw
  have hleft := timeline_leaveQuery ht query
  have hsize : t < (e.leaveQuery t query).timelines.length := by
    have hs := (apart_unsubscribe e t).size
    simpa [leaveQuery, modifyTimeline, hs] using ht
  have hwithin := within_invalidateNow (e.leaveQuery t query) t
  obtain ⟨hT, hgeneration⟩ := refreshes_invalidateNow hsize
  rw [hleft] at hT hgeneration
  have hleave : Links (some t) e (e.leaveQuery t query) :=
    (links_unsubscribe hw.orderly (hw.own t)).trans (within_modifyTimeline ..).links
  have hlinks := hleave.trans hwithin.links
  have hcoherent (q : QueryId) : ((e.leaveQuery t query).query q).Coherent :=
    hleave.coherent q (hw.coherent q)
  obtain ⟨happlied, hunapplied, hstale⟩ := applied_current hcoherent hwithin.query
    (by rw [hT.query, hleft]) hT.compiled hT.revision
  have hstack : ((e.leaveQuery t query).invalidateNow t).stack = e.stack :=
    hwithin.stack.trans (apart_unsubscribe e t).stack
  have hoperations : ((e.leaveQuery t query).invalidateNow t).operations = e.operations :=
    hwithin.operations.trans (apart_unsubscribe e t).operations
  have hbound := (hw.bound t).moved hlinks hT hgeneration hstack hoperations hquery happlied
    hunapplied
  have hpush : Links (some t) ((e.leaveQuery t query).invalidateNow t)
      (((e.leaveQuery t query).invalidateNow t).push
        (deactivations (e.timeline t).activated ++ attachment (e.timeline t) t query)) := by
    refine links_pushed _ ?_
    intro t' hd q epoch purpose hmem
    rcases List.mem_append.mp hmem with hmem | hmem
    · exact attach_notMem_deactivations _ _ _ _ _ hmem
    · exact hd (congrArg some (mem_attachment hmem rfl).1.symm)
  exact (hlinks.trans hpush).advances_on hw hbound
    (.renewed hgeneration (settled_of_current hstale))

-- The second half of an attachment.

section Attach

variable {rest : List Frame} {epoch : Nat} {purpose : Purpose}

theorem links_pop_attach (hs : e.stack = .attach t q epoch purpose :: rest) :
    Links (some t) e { e with stack := rest } := by
  refine links_pop hs ?_ (fun _ _ => rfl) (fun _ => nofun)
  rintro t' hd q' epoch' purpose' heq
  exact hd (congrArg some (Frame.attach.inj heq).1)

-- An attachment of an earlier epoch is given up.
theorem advances_pop_attach (hs : e.stack = .attach t q epoch purpose :: rest)
    (hepoch : (e.timeline t).epoch ≠ epoch) : Advances e { e with stack := rest } := by
  intro hw
  have hb := hw.bound t
  have hrest {q' : QueryId} {purpose' : Purpose}
      (h : .attach t q' (e.timeline t).epoch purpose' ∈ e.stack) :
      .attach t q' (e.timeline t).epoch purpose' ∈ rest := by
    rw [hs] at h
    rcases List.mem_cons.mp h with heq | h
    · exact absurd (Frame.attach.inj heq).2.2.1 hepoch
    · exact h
  have hmem {f : Frame} (h : f ∈ rest) : f ∈ e.stack := hs ▸ List.mem_cons_of_mem _ h
  refine (links_pop_attach hs).advances_on hw ?_ (.kept rfl id ?_)
  · refine ⟨hb.held, hb.known, hb.subscribed, ?_, ?_, hb.begun, hb.applied, hb.unapplied⟩
    · intro q' hactive hq
      refine (hb.reached q' hactive hq).imp_right ?_
      rintro ⟨purpose', h⟩
      exact ⟨purpose', hrest h⟩
    · exact fun q' epoch' purpose' h => hb.attaching q' epoch' purpose' (hmem h)
  · intro hsettled hactive hstale
    cases hsettled hactive hstale with
    | attach h => exact .attach (hrest h)
    | call h => exact .call (mem_rest hs h nofun)
    | waiting h => exact .waiting h
    | announced hsub h => exact .announced hsub (mem_rest hs h nofun)
    | pending hsub h => exact .pending hsub h

-- A timeline is brought to its query by an attachment of the present epoch: the attachment is over,
-- and the timeline is subscribed.
theorem Bound.enrol (hb : Bound e t) (hs : e.stack = .attach t q epoch purpose :: rest)
    (ht : t < e.timelines.length)
    (hlinks : Links (some t) e (({ e with stack := rest } : Engine).enrol t q))
    (hactive : (e.timeline t).phase.isActive = true) (hquery : (e.timeline t).query = some q)
    (hmem : ((e.query q).registry.nextId, .timeline t) ∈
      (({ e with stack := rest } : Engine).enrol t q).subscriptions q) :
    Bound (({ e with stack := rest } : Engine).enrol t q) t := by
  have ha : Apart t { e with stack := rest } _ := apart_enrol _ t q
  have hT := timeline_enrol (e := { e with stack := rest }) ht q
  generalize ({ e with stack := rest } : Engine).enrol t q = e' at *
  refine ⟨?_, ?_, ?_, ?_, ?_, ?_, ?_, ?_⟩
  · rw [hT]
    exact hb.held
  · rw [hT]
    exact fun q' hq' => Nat.lt_of_lt_of_le (hb.known q' hq') hlinks.range
  · intro q' id hsub
    rw [hT] at hsub ⊢
    obtain ⟨rfl, rfl⟩ := Prod.mk.inj (Option.some.inj hsub)
    exact ⟨hactive, hquery, hmem⟩
  · rw [hT]
    exact fun _ _ _ => .inl rfl
  · intro q' epoch' purpose' h
    rw [ha.stack] at h
    rw [hT]
    exact hb.attaching q' epoch' purpose' (hs ▸ List.mem_cons_of_mem _ h)
  · rw [hT, ha.operations]
    exact hb.begun
  · rw [hT]
    intro revision hr
    obtain ⟨q', hq', hle, heq⟩ := hb.applied revision hr
    have hlt' := hb.known q' hq'
    rw [← hlinks.revision q' hlt'] at hle heq
    rw [← hlinks.expr q' hlt'] at heq
    exact ⟨q', hq', hle, heq⟩
  · rw [hT]
    exact hb.unapplied

-- What is left after that is what the attachment is for.
theorem wired_enrol (hw : Wired e) (hs : e.stack = .attach t q epoch purpose :: rest)
    (hepoch : (e.timeline t).epoch = epoch) (ht : t < e.timelines.length) :
    Wired (({ e with stack := rest } : Engine).enrol t q) ∧
      ∀ t', t' ≠ t → Tends e (({ e with stack := rest } : Engine).enrol t q) t' := by
  have hb := hw.bound t
  obtain ⟨-, hcurrent⟩ := hb.attaching q epoch purpose (by simp [hs])
  obtain ⟨hactive, hquery⟩ := hcurrent hepoch.symm
  have hlinks := (links_pop_attach hs).trans
    (links_enrol (e := { e with stack := rest }) hw.orderly (hw.own t) q)
  have hmem : ((e.query q).registry.nextId, .timeline t) ∈
      (({ e with stack := rest } : Engine).enrol t q).subscriptions q :=
    mem_enrol (e := { e with stack := rest }) hw.orderly (hw.own t) (hb.known q hquery)
  refine ⟨hw.links hlinks (hb.enrol hs ht hlinks hactive hquery hmem), fun t' hne => ?_⟩
  exact hlinks.tends (hw.bound t') fun hsome => hne (Option.some.inj hsome).symm

theorem isStale_popped (e : Engine) (rest : List Frame) (t : TimelineId) (q : QueryId) :
    (({ e with stack := rest } : Engine).enrol t q).isStale t = e.isStale t :=
  isStale_enrol ..

theorem generation_enrol (e : Engine) (t : TimelineId) (q : QueryId) :
    ((e.enrol t q).timeline t).generation = (e.timeline t).generation :=
  ((calm_enrol Nothing e t q).timeline t).generation

theorem attach_lt (hw : Wired e) (hs : e.stack = .attach t q epoch purpose :: rest)
    (hepoch : (e.timeline t).epoch = epoch) : t < e.timelines.length := by
  obtain ⟨-, hcurrent⟩ := (hw.bound t).attaching q epoch purpose (by simp [hs])
  exact lt_of_active (hcurrent hepoch.symm).1

-- After a change of its query a timeline is brought to its new query.
theorem advances_attach_swap (hs : e.stack = .attach t q epoch .swap :: rest) :
    Advances e (({ e with stack := rest } : Engine).attach t q epoch .swap) := by
  rw [attach_eq]
  by_cases hepoch : (({ e with stack := rest } : Engine).timeline t).epoch = epoch
  · rw [if_neg (not_not_intro hepoch)]
    intro hw
    have ht := attach_lt hw hs hepoch
    obtain ⟨hw', htends⟩ := wired_enrol hw hs hepoch ht
    obtain ⟨hw'', htends'⟩ := advances_refresh (({ e with stack := rest } : Engine).enrol t q) t hw'
    refine ⟨hw'', fun t' => ?_⟩
    by_cases hne : t' = t
    · subst hne
      have hstale := isStale_popped e rest t' q
      have hgeneration := generation_enrol { e with stack := rest } t' q
      have hkept : Tends e (({ e with stack := rest } : Engine).enrol t' q) t' ∨
          e.isStale t' = true := by
        cases hnow : e.isStale t' with
        | true => exact .inr rfl
        | false =>
            rw [hnow] at hstale
            exact .inl (.kept hgeneration (by simp [hnow]) fun _ => settled_of_current hstale)
      rcases hkept with hkept | hnow
      · exact hkept.trans (htends' t')
      · rw [hnow] at hstale
        have ht' : t' < (({ e with stack := rest } : Engine).enrol t' q).timelines.length := by
          rw [(apart_enrol { e with stack := rest } t' q).size]
          exact ht
        obtain ⟨hT, hlater⟩ := refreshes_invalidateNow ht'
        have hcurrent := hT.isStale hw'.coherent (within_invalidateNow _ t')
        unfold refresh
        rw [hstale]
        exact .renewed (hgeneration ▸ hlater) (settled_of_current hcurrent)
    · exact (htends t' hne).trans (htends' t')
  · rw [if_pos hepoch]
    exact (advances_pop_attach hs hepoch).trans (links_push _ (by simp)).advances

-- An operation begins to wait for storage.
theorem advances_wait {o : OperationId} {r : FetchRequest}
    (hbegun : ∀ t status, e.operations[o]? = some ⟨t, .activation, status⟩ →
      r.generation ≤ (e.timeline t).generation ∧
        (r.generation = (e.timeline t).generation → (e.timeline t).phase.isActive = true)) :
    Advances e (e.setStatus o (.waiting r)) := by
  intro hw
  refine ⟨⟨hw.coherent, hw.orderly, hw.ringing, fun t => ?_⟩, fun t => .kept rfl id ?_⟩
  · have hb := hw.bound t
    refine ⟨hb.held, hb.known, hb.subscribed, hb.reached, hb.attaching, ?_, hb.applied,
      hb.unapplied⟩
    intro o' r' hop
    simp only [setStatus, List.getElem?_modify] at hop
    by_cases heq : o = o'
    · subst heq
      cases hold : e.operations[o]? with
      | none => simp [hold] at hop
      | some operation =>
          obtain ⟨t', kind, status⟩ := operation
          obtain ⟨rfl, rfl, rfl⟩ : t' = t ∧ kind = .activation ∧ r = r' := by simpa [hold] using hop
          exact hbegun t' status hold
    · exact hb.begun o' r' (by simpa [heq] using hop)
  · intro hsettled hactive hstale
    cases hsettled hactive hstale with
    | attach h => exact .attach h
    | call h => exact .call h
    | waiting h => exact .waiting h
    | announced hsub h => exact .announced hsub h
    | pending hsub h => exact .pending hsub h

theorem refreshes_prepared (ht : t < e.timelines.length) (hstale : e.isStale t = true) :
    Refreshes (e.current t) (e.timeline t) ((e.prepared t).timeline t) := by
  rcases timeline_prepared ht with ⟨hnot, -⟩ | ⟨-, events, hT⟩
  · rw [hstale] at hnot
    cases hnot
  · rw [hT]
    exact ⟨rfl, rfl, rfl, rfl, rfl, Nat.le_refl _, rfl, rfl⟩

theorem wired_prepared (hw : Wired e) (ht : t < e.timelines.length) :
    Wired (e.prepared t) ∧ (∀ t', t' ≠ t → Tends e (e.prepared t) t') ∧
      (e.prepared t).isStale t = false := by
  cases hstale : e.isStale t with
  | false =>
      have hsame : e.prepared t = e := by simp [prepared, hstale]
      rw [hsame]
      exact ⟨hw, fun t' _ => .kept rfl id id, hstale⟩
  | true =>
      have hwithin := within_prepared e t
      have hT := refreshes_prepared ht hstale
      refine ⟨hw.links hwithin.links ((hw.bound t).refresh hw.coherent hwithin hT), ?_,
        hT.isStale hw.coherent hwithin⟩
      intro t' hne
      exact hwithin.links.tends (hw.bound t') fun hsome => hne (Option.some.inj hsome).symm

theorem active_prepared (ht : t < e.timelines.length)
    (hactive : (e.timeline t).phase.isActive = true) :
    ((e.prepared t).timeline t).phase.isActive = true := by
  cases hstale : e.isStale t with
  | false => simpa [prepared, hstale] using hactive
  | true => exact (refreshes_prepared ht hstale).active.trans hactive

-- An activation under its generation applies the filter of its query, and waits.
theorem wired_prepare (hw : Wired e) {o : OperationId} {generation : Nat}
    (ho : e.owner o = some t) (ht : t < e.timelines.length)
    (hactive : (e.timeline t).phase.isActive = true)
    (hg : (e.timeline t).generation = generation) :
    Wired (e.prepare t o generation) ∧ (∀ t', t' ≠ t → Tends e (e.prepare t o generation) t') ∧
      (e.prepare t o generation).isStale t = false ∧
      ((e.prepare t o generation).timeline t).generation = (e.timeline t).generation := by
  obtain ⟨hw', htends, hcurrent⟩ := wired_prepared hw ht
  have hgeneration := generation_prepared e t t
  have hwait : Advances (e.prepared t) (e.prepare t o generation) := by
    rw [prepare_eq, if_neg (not_not_intro hg)]
    refine advances_wait fun t' status hop => ?_
    have hop : e.operations[o]? = some ⟨t', .activation, status⟩ := by
      rwa [(within_prepared e t).operations] at hop
    obtain rfl : t' = t := by
      simpa [owner, hop] using ho
    exact ⟨Nat.le_of_eq (hg.symm.trans hgeneration.symm), fun _ => active_prepared ht hactive⟩
  obtain ⟨hw'', htends'⟩ := hwait hw'
  refine ⟨hw'', fun t' hne => (htends t' hne).trans (htends' t'), ?_, ?_⟩
  · rw [prepare_eq, if_neg (not_not_intro hg)]
    exact hcurrent
  · rw [prepare_eq, if_neg (not_not_intro hg)]
    exact hgeneration

-- An activation comes to attach a timeline that was invalidated meanwhile, so that it will not
-- look at the query any more, which has changed.
def isOvertaken (e : Engine) (t : TimelineId) : Bool :=
  match e.stack.head? with
  | some (.attach t' _ epoch (.activation _ generation)) =>
      t' == t && (e.timeline t).epoch == epoch && (e.timeline t).generation != generation &&
        e.isStale t
  | _ => false

-- An activation attaches a timeline under its generation, or the timeline stays as it is but for
-- its subscription.
inductive Attaches (e e' : Engine) (t : TimelineId) (generation : Nat) : Prop where
  | present (hg : (e.timeline t).generation = generation)
      (hg' : (e'.timeline t).generation = generation) (hs : e'.isStale t = false)
  | overtaken (hg : (e.timeline t).generation ≠ generation)
      (hg' : (e'.timeline t).generation = (e.timeline t).generation)
      (hs : e'.isStale t = e.isStale t)

theorem attach_activation_cases {o : OperationId} {generation : Nat}
    (hs : e.stack = .attach t q epoch (.activation o generation) :: rest)
    (ho : e.owner o = some t) (hw : Wired e) :
    let e' := ({ e with stack := rest } : Engine).attach t q epoch (.activation o generation)
    Wired e' ∧ ∀ t', Tends e e' t' ∨
      t' = t ∧ (e.timeline t).epoch = epoch ∧ Attaches e e' t generation := by
  dsimp only
  rw [attach_eq]
  by_cases hepoch : (({ e with stack := rest } : Engine).timeline t).epoch = epoch
  · rw [if_neg (not_not_intro hepoch)]
    dsimp only
    have ht := attach_lt hw hs hepoch
    obtain ⟨hw', htends⟩ := wired_enrol hw hs hepoch ht
    have hstale := isStale_popped e rest t q
    have hgeneration := generation_enrol { e with stack := rest } t q
    have hsize : t < (({ e with stack := rest } : Engine).enrol t q).timelines.length := by
      rw [(apart_enrol { e with stack := rest } t q).size]
      exact ht
    have howner : (({ e with stack := rest } : Engine).enrol t q).owner o = some t := by
      rw [owner_congr (apart_enrol { e with stack := rest } t q).operations]
      exact ho
    have hactive : ((({ e with stack := rest } : Engine).enrol t q).timeline t).phase.isActive =
        true := by
      rw [timeline_enrol (e := { e with stack := rest }) ht q]
      have hattaching := (hw.bound t).attaching q epoch (.activation o generation) (by simp [hs])
      exact (hattaching.2 hepoch.symm).1
    generalize ({ e with stack := rest } : Engine).enrol t q = e' at *
    by_cases hg : (e'.timeline t).generation = generation
    · obtain ⟨hw'', htends', hcurrent, hsame⟩ := wired_prepare hw' howner hsize hactive hg
      refine ⟨hw'', fun t' => ?_⟩
      by_cases hne : t' = t
      · exact .inr ⟨hne, hepoch, .present (hgeneration.symm.trans hg) (hsame.trans hg) hcurrent⟩
      · exact .inl ((htends t' hne).trans (htends' t' hne))
    · have hpush : Links none e' (e'.push [.finish o (.ok .activated)]) := links_push e' (by simp)
      obtain ⟨hw'', htends'⟩ := hpush.advances hw'
      rw [prepare_eq, if_pos hg]
      refine ⟨hw'', fun t' => ?_⟩
      by_cases hne : t' = t
      · exact .inr ⟨hne, hepoch, .overtaken (fun heq => hg (hgeneration.trans heq)) hgeneration
          hstale⟩
      · exact .inl ((htends t' hne).trans (htends' t'))
  · rw [if_pos hepoch]
    have hpush : Links none { e with stack := rest } (({ e with stack := rest } : Engine).push
        [.deactivate q, .finish o (.ok .activated)]) := links_push _ (by simp)
    obtain ⟨hw', htends⟩ := (advances_pop_attach hs hepoch).trans hpush.advances hw
    exact ⟨hw', fun t' => .inl (htends t')⟩

end Attach

-- An activation begins.

theorem links_launch (e : Engine) (t : TimelineId) : Links (some t) e (e.launch t) := by
  refine links_of_timelines rfl rfl rfl ?_
  intro t' hd
  have hne : t' ≠ t := fun heq => hd (congrArg some heq.symm)
  rw [show (e.launch t).timeline t' = e.timeline t' from timeline_modifyTimeline_ne hne _]
  exact .refl _

-- An inactive timeline is started. What it is wired to does not change, but it may have to be
-- brought to its query.
theorem Bound.launch (hb : Bound e t) (ht : t < e.timelines.length)
    (hinactive : (e.timeline t).phase = .inactive) (hheld : 0 < (e.timeline t).holders)
    {frames : List Frame}
    (hreached : ∀ q, (e.timeline t).query = some q →
      ∃ purpose, .attach t q (e.timeline t).epoch purpose ∈ frames)
    (hframes : ∀ q epoch purpose, .attach t q epoch purpose ∈ frames →
      epoch = (e.timeline t).epoch ∧ (e.timeline t).query = some q) :
    Bound ((e.launch t).push frames) t := by
  have hT : ((e.launch t).push frames).timeline t = (e.launch t).timeline t := rfl
  rw [timeline_launch ht] at hT
  have hno : (e.timeline t).phase.isActive ≠ true := by
    rw [hinactive]
    exact nofun
  refine ⟨?_, ?_, ?_, ?_, ?_, ?_, ?_, ?_⟩ <;> rw [hT]
  · exact fun _ => hheld
  · exact hb.known
  · exact fun q id hsub => absurd (hb.subscribed q id hsub).1 hno
  · intro q hactive hq
    obtain ⟨purpose, hmem⟩ := hreached q hq
    exact .inr ⟨purpose, List.mem_append_left _ hmem⟩
  · intro q epoch purpose hmem
    rcases List.mem_append.mp hmem with hmem | hmem
    · obtain ⟨rfl, hq⟩ := hframes q epoch purpose hmem
      exact ⟨Nat.le_refl _, fun _ => ⟨rfl, hq⟩⟩
    · obtain ⟨hle, hcurrent⟩ := hb.attaching q epoch purpose hmem
      exact ⟨hle, fun heq => absurd (hcurrent heq).1 hno⟩
  · intro o r hop
    have hle := (hb.begun o r hop).1
    exact ⟨Nat.le_succ_of_le hle, fun _ => rfl⟩
  · exact hb.applied
  · exact hb.unapplied

theorem advances_launched (ht : t < e.timelines.length) {o : OperationId}
    (ho : e.owner o = some t) (hinactive : (e.timeline t).phase = .inactive)
    (hheld : 0 < (e.timeline t).holders) : Advances e (e.launched t o) := by
  intro hw
  have hb := hw.bound t
  have hT := timeline_launch ht
  have hl := links_launch e t
  have hlater : (e.timeline t).generation < ((e.launch t).timeline t).generation := by
    rw [hT]
    exact Nat.lt_succ_self _
  unfold launched
  split
  · rename_i q hq
    have hpush : Links (some t) (e.launch t) ((e.launch t).push [.activate q,
        .attach t q (e.timeline t).epoch (.activation o ((e.timeline t).generation + 1))]) := by
      refine links_pushed _ ?_
      intro t' hd q' epoch purpose hmem
      have heq : t' = t := by simp at hmem; exact hmem.1
      exact hd (congrArg some heq.symm)
    refine (hl.trans hpush).advances_on hw ?_ (.renewed hlater fun _ _ => ?_)
    · refine hb.launch ht hinactive hheld ?_ ?_
      · intro q' hq'
        obtain rfl := Option.some.inj (hq.symm.trans hq')
        exact ⟨_, List.mem_cons_of_mem _ List.mem_cons_self⟩
      · intro q' epoch purpose hmem
        obtain ⟨rfl, rfl, -⟩ : q' = q ∧ epoch = (e.timeline t).epoch ∧
            purpose = .activation o ((e.timeline t).generation + 1) := by simpa using hmem
        exact ⟨rfl, hq⟩
    · have hepoch : ((e.launch t).timeline t).epoch = (e.timeline t).epoch := by rw [hT]
      have hmem : .attach t q ((e.launch t).timeline t).epoch
          (.activation o ((e.timeline t).generation + 1)) ∈
            ((e.launch t).push [.activate q, .attach t q (e.timeline t).epoch
              (.activation o ((e.timeline t).generation + 1))]).stack := by
        rw [hepoch]
        exact List.mem_cons_of_mem _ List.mem_cons_self
      exact .attach hmem
  · rename_i hq
    have hbound : Bound ((e.launch t).push []) t := by
      refine hb.launch ht hinactive hheld ?_ (fun _ _ _ => nofun)
      intro q hq'
      rw [hq] at hq'
      cases hq'
    have hw' : Wired (e.launch t) := hw.links hl hbound
    have hsize : t < (e.launch t).timelines.length := (changes_launch Nothing e t).size ▸ ht
    obtain ⟨hw'', htends, hcurrent, hsame⟩ := wired_prepare hw' (o := o) ho hsize
      (by rw [hT]; rfl) (by rw [hT] : _ = (e.timeline t).generation + 1)
    refine ⟨hw'', fun t' => ?_⟩
    by_cases hne : t' = t
    · subst hne
      exact .renewed (hsame ▸ hlater) (settled_of_current hcurrent)
    · have htends' := hl.tends (hw.bound t') fun hsome => hne (Option.some.inj hsome).symm
      exact htends'.trans (htends t' hne)

end FilteredFeed.Engine
