import Lamplighter.Proofs.Run.Corner

/-!
# Neighbours: what runs leave alone

* `Plan.errand`       the effect that a run dispatches on a bulb;
* `Session.Admits`    a part of a step leaves one corner alone, and one desk unless it puts a new
                      effect there;
* `Session.Reliable`, `Session.IsSole`   a run has a reliable audience, and is the only one;
* `Spares.perform`, `Admits.perform`   performing a cue leaves alone what the cue is not about.
-/

set_option linter.unusedSectionVars false

namespace Lamplighter

open Deeds

/-- the effect that a run dispatches on a bulb -/
def Plan.errand (plan : Plan) (r : Nat) (handle : Handle) : Errand where
  run := some r
  client := plan.client
  handle := handle
  timeout := .ofFloat plan.settings.queryTimeout
  maxRetries := plan.settings.queryRetries
  stage := .fresh (plan.action.effect.play plan.settings plan.saved handle)

namespace Session

variable {s t u : Session Bench} {c r e q : Nat} {x : String} {k : Handle → Prop} {plan : Plan}

structure Admits (c r : Nat) (x : String) (e : Nat) (k : Handle → Prop) (plan : Plan)
    (s t : Session Bench) : Prop where
  corner : t.corner c r x = s.corner c r x
  desk : t.desk e = s.desk e ∨ (s.desk e).errand = none ∧ ∃ handle,
    t.desk e = ⟨some (plan.errand r handle), (s.desk e).cues.soon 0 (.begin e)⟩
  plans : t.runs.map Run.plan = s.runs.map Run.plan
  order : s.agenda.IsOrdered → t.agenda.IsOrdered
  known : s.Knows r k → t.Knows r k

theorem Spares.admits (h : Spares c r x e k s t) : Admits c r x e k plan s t :=
  ⟨h.corner, .inl h.desk, h.plans, h.order, h.known⟩

/-! ### Reliable and sole runs -/

def Reliable (s : Session Bench) (r : Nat) : Prop :=
  ∀ run, s.runs[r]? = some run → run.audience.isReliable = true

def IsSole (s : Session Bench) (r : Nat) : Prop :=
  ∀ q, q ≠ r → s.runs[q]? = none

lemma map_plan_of_plans (h : t.runs.map Run.plan = s.runs.map Run.plan) (q : Nat) :
    t.runs[q]?.map Run.plan = s.runs[q]?.map Run.plan := by
  rw [← List.getElem?_map, ← List.getElem?_map, h]

lemma Reliable.of_plans (h : s.Reliable r) (hp : t.runs.map Run.plan = s.runs.map Run.plan) :
    t.Reliable r := by
  intro run hrun
  have hsame := map_plan_of_plans hp r
  rw [hrun] at hsame
  obtain ⟨run', hrun', heq⟩ := Option.map_eq_some_iff.mp hsame.symm
  have haudience : run'.audience = run.audience := congrArg Plan.audience heq
  rw [← haudience]
  exact h run' hrun'

lemma IsSole.of_plans (h : s.IsSole r) (hp : t.runs.map Run.plan = s.runs.map Run.plan) :
    t.IsSole r := by
  intro q hq
  have hsame := map_plan_of_plans hp q
  rw [h q hq] at hsame
  exact Option.map_eq_none_iff.mp hsame

/-- no event of a reliable audience fails -/
lemma emit_of_reliable (h : s.Reliable q) (kind : EventKind) (message : String)
    (device : Option String) (data : Option Json) :
    s.emit q kind message device data = ((s.emit q kind message device data).1, none) := by
  cases hget : s.runs[q]? with
  | none => simp only [Session.emit, hget]
  | some run =>
    have haudience := h run hget
    cases ha : run.audience with
    | nobody => simp only [Session.emit, hget, ha]
    | hub => simp only [Session.emit, hget, ha]
    | recorder failing =>
      obtain rfl : failing = [] := by simpa [Audience.isReliable, ha] using haudience
      simp [Session.emit, hget, ha]

/-! ### Searching -/

namespace Spares

lemma expect (s : Session Bench) {signal : Wait × Signal}
    (hkind : ∀ client session handle, signal.2 = .bulb client session handle → k handle) :
    Spares c r x e k s (s.expect signal) := by
  have hsignal : ∀ client session handle,
      Cue.signal signal.2 = .signal (.bulb client session handle) → k handle := by
    intro client session handle heq
    exact hkind client session handle (Cue.signal.inj heq)
  unfold Session.expect
  split
  · exact soon s 0 rfl hsignal
  · exact after s _ 0 rfl hsignal
  · exact pause s _ rfl hsignal

lemma sight (s : Session Bench) (client : Nat) {sighting : Sighting}
    (hfound : ∀ handle ∈ sighting.found, k handle)
    (hlater : ∀ signal ∈ sighting.later, ∀ client session handle,
      signal.2 = .bulb client session handle → k handle) :
    Spares c r x e k s (s.sight client sighting) := by
  refine sight_induction (p := Spares c r x e k s) (hearAll s client hfound) ?_
  exact fun t signal hmem ht => ht.trans (expect t (hlater signal hmem))

lemma unlisten (s : Session Bench) (client : Nat) : Spares c r x e k s (s.unlisten client) := by
  have hcalls : (s.network.stop client).callsFor c x = s.network.callsFor c x :=
    Bench.callsFor_modifyClient c client fun _ => rfl
  have hstopped : Spares c r x e k s { s with network := s.network.stop client } :=
    network s rfl hcalls
  exact hstopped.trans ⟨rfl, rfl, rfl, id, fun h => ⟨h.signals, h.messages⟩, fun _ _ => id, rfl⟩

lemma endRun (s : Session Bench) (q : Nat) (outcome : Except Fault Summary) :
    Spares c r x e k s (s.endRun q outcome) := by
  have hended : Spares c r x e k s (s.modifyRun q fun run =>
      { run with outcome := some outcome, isWaiting := false, isGathering := false }) :=
    modifyRun s q (fun _ => rfl) (fun _ => rfl) fun _ _ => .inl
  have hfree : ∀ t : Session Bench, Spares c r x e k t { t with turn := none } :=
    fun t => ⟨rfl, rfl, rfl, id, fun h => ⟨h.signals, h.messages⟩, fun _ _ => id, rfl⟩
  rw [endRun_eq]
  refine hended.trans ?_
  unfold Session.pass
  split
  · split
    · exact hfree _
    · exact (hfree _).trans (soon _ 0 rfl (by simp))
  · exact refl _

end Spares

namespace Admits

theorem refl (s : Session Bench) : Admits c r x e k plan s s :=
  (Spares.refl s).admits

theorem trans (h : Admits c r x e k plan s t) (h' : Admits c r x e k plan t u) :
    Admits c r x e k plan s u := by
  refine ⟨h'.corner.trans h.corner, ?_, h'.plans.trans h.plans, h'.order ∘ h.order,
    h'.known ∘ h.known⟩
  rcases h'.desk with hsame | ⟨hnone, handle, hnew⟩
  · rw [hsame]
    exact h.desk
  · rcases h.desk with hsame | ⟨_, _, hold⟩
    · rw [hsame] at hnone hnew
      exact .inr ⟨hnone, handle, hnew⟩
    · rw [hold] at hnone
      cases hnone

/-! ### The end of a run -/

lemma stopSearch (s : Session Bench) (q : Nat) (run : Run) :
    Admits c r x e k plan s (s.stopSearch q run) := by
  have hstopped : Spares c r x e k s (s.stopping q) :=
    Spares.modifyRun s q (fun _ => rfl) (fun _ => rfl) fun _ _ => .inl
  rw [stopSearch_eq]
  refine (hstopped.admits.trans ?_).trans (Spares.unlisten _ _).admits
  generalize s.stopping q = t
  have hdrop : (t.agenda.drop fun cue => cue.isClockOf q).drop (fun cue => !cue.isAwaitedBy e)
      = t.agenda.drop fun cue => !cue.isAwaitedBy e := by
    refine Agenda.drop_drop _ ?_
    intro cue hcue
    cases cue <;> first | rfl | cases hcue
  refine ⟨rfl, .inl (congrArg (Desk.mk _) hdrop), rfl, fun h => h.drop _, ?_⟩
  intro hknown
  refine ⟨?_, hknown.messages⟩
  intro client session handle hmem
  have hmem : _ ∈ (t.agenda.drop _).cues := hmem
  rw [Agenda.cues_drop] at hmem
  exact hknown.signals client session handle (List.mem_filter.mp hmem).1

lemma finalize (s : Session Bench) (q : Nat) (run : Run) :
    Admits c r x e k plan s (s.finalize q run).1 := by
  have hstore : ∀ store, Admits c r x e k plan s { s with store } :=
    fun store => ⟨rfl, .inl rfl, rfl, id, fun h => ⟨h.signals, h.messages⟩⟩
  obtain ⟨store, hfiled | ⟨message, htold⟩⟩ := s.finalize_frame q run
  · rw [hfiled]
    exact hstore store
  · rw [htold]
    exact (hstore store).trans (Spares.emit _ q .deviceReport message none none).admits

lemma sumUp (s : Session Bench) (q : Nat) (text : String) :
    Admits c r x e k plan s (s.sumUp q text) := by
  have hemit : Admits c r x e k plan s (s.emit q .runFinished text none none).1 :=
    (Spares.emit s q .runFinished text none none).admits
  cases sumUp_course s q text with
  | absent said gone result =>
    rw [result]
    exact hemit
  | mute said result | ends said here result =>
    rw [result]
    exact hemit.trans (Spares.endRun _ q _).admits

lemma close (s : Session Bench) (q : Nat) (run : Run) :
    Admits c r x e k plan s (s.close q run) := by
  have hcleared : Spares c r x e k s (s.clearAway q) := by
    refine Spares.modifyRun s q (fun _ => rfl) ?_ ?_
    · intro run
      show (raised (clearing run.inbox ++ run.deeds)).filter _ = _
      rw [raised_clearing]
    · intro run handle hmem
      have hmem : handle ∈ bulbs (queued (clearing run.inbox ++ run.deeds)) := hmem
      rw [queued_clearing] at hmem
      exact .inl hmem
  have hfinalize : Admits c r x e k plan s ((s.clearAway q).finalize q run).1 :=
    hcleared.admits.trans (finalize _ q run)
  cases close_course s q run with
  | fails finalized result =>
    rw [result]
    exact hfinalize.trans (Spares.endRun _ q _).admits
  | sums finalized result =>
    rw [result]
    have hfinished : ∀ t : Session Bench,
        Spares c r x e k t (t.modifyRun q fun run => { run with phase := .finished }) :=
      fun t => Spares.modifyRun t q (fun _ => rfl) (fun _ => rfl) fun _ _ => .inl
    exact (hfinalize.trans (hfinished _).admits).trans (sumUp _ q _)

lemma drain (s : Session Bench) (q : Nat) (run : Run) :
    Admits c r x e k plan s (s.drain q run) := by
  have hstopped : Admits c r x e k plan s (s.stopSearch q run) := stopSearch s q run
  cases drain_course s q run with
  | absent ended gone result =>
    rw [result]
    exact hstopped
  | closes ended here result =>
    rw [result]
    exact hstopped.trans (close _ q _)
  | harmed raised result | calm busy unharmed ended result =>
    rw [result]
    exact hstopped.trans (Spares.soon _ 1 rfl (by simp)).admits
  | gathers unharmed unended result =>
    rw [result]
    refine hstopped.trans (Spares.admits ?_)
    exact Spares.modifyRun _ q (fun _ => rfl) (fun _ => rfl) fun _ _ => .inl

/-! ### The inbox -/

lemma dispatch (s : Session Bench) {run : Run} (hplan : run.plan = plan) (handle : Handle) :
    Admits c r x e k plan s (s.dispatch r run handle) := by
  subst hplan
  have hknown : s.Knows r k → (s.dispatch r run handle).Knows r k := by
    refine fun h => ⟨?_, h.messages⟩
    intro client session handle hmem
    rcases List.mem_cons.mp ((s.agenda.cues_soon 0 _).mem_iff.mp hmem) with heq | hold
    · cases heq
    · exact h.signals client session handle hold
  refine ⟨rfl, ?_, rfl, id, hknown⟩
  by_cases he : e = s.errands.length
  · subst he
    refine .inr ⟨?_, handle, ?_⟩
    · simp [Session.desk]
    · have hcues : (s.agenda.soon 0 (.begin s.errands.length)).drop
            (fun cue => !cue.isAwaitedBy s.errands.length)
          = (s.agenda.drop fun cue => !cue.isAwaitedBy s.errands.length).soon 0
            (.begin s.errands.length) := Agenda.drop_soon_kept (by simp [Cue.isAwaitedBy]) 0
      show Desk.mk ((s.errands ++ [_])[s.errands.length]?.map _) ((s.agenda.soon 0 _).drop _) = _
      rw [hcues, List.getElem?_concat_length]
      rfl
  · refine .inl ?_
    have hcue : (Cue.begin s.errands.length).isAwaitedBy e = false := by
      simpa [Cue.isAwaitedBy] using Ne.symm he
    have hcues : (s.agenda.soon 0 (.begin s.errands.length)).drop (fun cue => !cue.isAwaitedBy e)
        = s.agenda.drop fun cue => !cue.isAwaitedBy e := Agenda.drop_soon (by simp [hcue]) 0
    have herrand : (s.errands ++ [run.plan.errand r handle])[e]? = s.errands[e]? := by
      rcases Nat.lt_or_gt_of_ne he with hlt | hgt
      · exact List.getElem?_append_left hlt
      · rw [List.getElem?_eq_none (by simp; omega), List.getElem?_eq_none (by omega)]
    show Desk.mk ((s.errands ++ [_])[e]?.map _) ((s.agenda.soon 0 _).drop _) = _
    rw [hcues]
    exact congrArg (fun o => Desk.mk (Option.map _ o) _) herrand

/-- by induction on the messages that are left -/
theorem handleAll (s : Session Bench) {run : Run} (hplan : run.plan = plan)
    (hreliable : s.Reliable r) (messages : List Message) :
    Admits c r x e k plan s (s.handleAll r run messages) := by
  induction messages generalizing s with
  | nil =>
    refine Spares.admits ?_
    exact Spares.modifyRun s r (fun _ => rfl) (fun _ => rfl) fun _ _ => .inl
  | cons message rest ih =>
    have htaken : ∀ current, Spares c r x e k s (s.take r current message rest) :=
      fun current => Spares.modifyRun s r (fun _ => rfl) (fun _ => rfl) fun _ _ => .inl
    have hsaid : ∀ current handle,
        Admits c r x e k plan s ((s.take r current message rest).sayMatch r handle).1 :=
      fun current handle =>
        ((htaken current).trans (Spares.emit _ r .deviceMatched _ (some handle.name) none)).admits
    cases handleAll_course s r run message rest with
    | absent gone result =>
      rw [result]
      exact refl s
    | @breaksOff current handle fault here matched said result =>
      rw [sayMatch, emit_of_reliable (hreliable.of_plans (htaken current).plans)] at said
      cases said
    | @acts current handle here matched said result =>
      rw [result]
      have hgone := (hsaid current handle).trans (dispatch _ hplan handle)
      exact hgone.trans (ih _ (hreliable.of_plans hgone.plans))
    | goesOn here matched looks result =>
      rw [result]
      exact (htaken _).admits.trans (ih _ (hreliable.of_plans (htaken _).plans))
    | drains here matched looked result =>
      rw [result]
      exact (htaken _).admits.trans (drain _ r run)

end Admits

/-! ### Performing a cue -/

/-- a cue is not about an errand, nor about a bulb through another one -/
def IsForeign (s : Session Bench) (cue : Cue) (x : String) (e : Nat) : Prop :=
  cue.isAwaitedBy e = false ∧ ∀ i errand, cue.isAwaitedBy i = true → s.errands[i]? = some errand →
    errand.handle.serial ≠ x

/-- a cue that does not concern the run leaves all alone that it is not about -/
theorem Spares.perform (hsole : s.IsSole r) {cue : Cue} (hcue : s.IsForeign cue x e)
    (hconcerns : cue.concerns r = false)
    (hkind : ∀ client session handle, cue = .signal (.bulb client session handle) → k handle) :
    Spares c r x e k s (s.perform cue) := by
  have hawaited : ∀ {i}, cue.isAwaitedBy i = true → Spares c r x e k s (s.perform cue) := by
    intro i hawait
    refine .awaited s hawait ?_ fun errand => hcue.2 i errand hawait
    rintro rfl
    exact absurd (hawait.symm.trans hcue.1) (by decide)
  have hother : ∀ {q : Nat} {act : Run → Session Bench}, q ≠ r →
      Spares c r x e k s (s.overRun q act) := by
    intro q act hq
    refine overRun_induction q (.refl s) fun run hget => ?_
    rw [hsole q hq] at hget
    cases hget
  cases cue with
  | signal signal =>
    have hnetwork : Spares c r x e k s { s with network := (s.network.signal signal).1 } :=
      .network s (by cases signal <;> rfl) (by cases signal <;> rfl)
    refine hnetwork.trans (.sight _ _ ?_ ?_)
    · intro handle hmem
      cases signal with
      | bulb client session bulb =>
        have hmem : handle ∈ (if (s.network.client client).isListening
            && (s.network.client client).starts == session then [bulb] else []) := hmem
        split at hmem
        · obtain rfl : handle = bulb := by simpa using hmem
          exact hkind client session handle rfl
        · cases hmem
      | search client session => cases hmem
    · intro later hmem
      cases signal <;> cases hmem
  | clock q => exact overRun_induction q (.refl s) fun run _ => .pause s _ rfl (by simp)
  | tick q =>
    exact overRun_induction q (.refl s) fun run _ =>
      (Spares.post s q (by simp)).trans (.pause _ _ rfl (by simp))
  | wake q => exact hother (by simpa [Cue.concerns, Cue.isWakeOf, Cue.isCalmOf, Cue.isHaltOf,
      Cue.isEntryOf] using hconcerns)
  | drained q fault =>
    cases fault with
    | none => exact hother (by simpa [Cue.concerns, Cue.isWakeOf, Cue.isCalmOf, Cue.isHaltOf,
        Cue.isEntryOf] using hconcerns)
    | some fault => exact .endRun s q _
  | enter q => exact hother (by simpa [Cue.concerns, Cue.isWakeOf, Cue.isCalmOf, Cue.isHaltOf,
      Cue.isEntryOf] using hconcerns)
  | takeTurn q => exact hother (by simpa [Cue.concerns, Cue.isWakeOf, Cue.isCalmOf, Cue.isHaltOf,
      Cue.isEntryOf] using hconcerns)
  | begin i => exact hawaited (beq_self_eq_true i)
  | attempt i => exact hawaited (beq_self_eq_true i)
  | arrive i request answer => exact hawaited (beq_self_eq_true i)
  | expire i => exact hawaited (beq_self_eq_true i)
  | resume i => exact hawaited (beq_self_eq_true i)
  | retire i => exact .modifyErrand s fun _ _ => rfl
  | alarm => exact ⟨rfl, rfl, rfl, id, fun h => ⟨h.signals, h.messages⟩, fun _ _ => id, rfl⟩

/-- performing a cue leaves alone what the cue is not about, or puts a new effect there -/
theorem Admits.perform (hsole : s.IsSole r) (hreliable : s.Reliable r)
    (hplan : s.runs[r]?.map Run.plan = some plan) {cue : Cue} (hcue : s.IsForeign cue x e)
    (hentry : cue.isEntryOf r = false)
    (hkind : ∀ client session handle, cue = .signal (.bulb client session handle) → k handle) :
    Admits c r x e k plan s (s.perform cue) := by
  cases hconcerns : cue.concerns r with
  | false => exact (Spares.perform hsole hcue hconcerns hkind).admits
  | true =>
    rcases Cue.eq_of_concerns hconcerns hentry with rfl | ⟨_ | fault, rfl⟩
    · refine overRun_induction r (.refl s) fun run hget => ?_
      rw [hget] at hplan
      exact .handleAll s (Option.some.inj hplan) hreliable _
    · exact overRun_induction r (.refl s) fun run _ => .close s r run
    · exact (Spares.endRun s r _).admits

end Session

end Lamplighter
