import Lamplighter.Proofs.Run.Passage

/-!
# Reached: every session that a run can come to

* `Session.Awaits`    a new run is there, and nothing is under way for it;
* `Session.alone`     a session with nothing but a new run;
* `Session.Next`      any of the cues that are set is taken off the agenda and performed;
* `Session.Reached`   a run has started, cues were performed in any order, and meanwhile any client
                      found bulbs and the network came to any state.

In every session that is reached the ledger of the run is sound: the start makes it so, and each
step keeps it.
-/

set_option linter.unusedSectionVars false

namespace Lamplighter.Session

open Deeds

variable {ν : Type} [Network ν] {r q : Nat} {s t : Session ν}

/-! ### The start -/

/-- a run that has not started, and of which the session knows nothing else -/
structure Awaits (s : Session ν) (r : Nat) (run : Run) : Prop where
  here : s.runs[r]? = some run
  fresh : ∃ action settings client audience hasStore,
    run = Run.ofAction action settings client audience hasStore
  effects : ∀ errand ∈ s.errands, errand.run ≠ some r
  cues : ∀ cue ∈ s.agenda.cues, cue.concerns r = false
  line : r ∉ s.line
  retired : ∀ e, .retire e ∈ s.agenda.cues → e < s.errands.length

lemma Awaits.ledger {run : Run} (h : s.Awaits r run) :
    s.ledger r = some (s.ledgerOf r run) ∧ (s.ledgerOf r run).Sound ∧
      (s.ledgerOf r run).phase = .idle ∧ (s.ledgerOf r run).outcome = none := by
  obtain ⟨action, settings, client, audience, hasStore, rfl⟩ := h.fresh
  have hnone : ∀ p : Cue → Bool, (∀ cue, p cue = true → cue.concerns r = true) →
      s.agenda.cues.countP p = 0 := by
    intro p hp
    rw [List.countP_eq_zero]
    intro cue hcue hpc
    exact absurd ((h.cues cue hcue).symm.trans (hp cue hpc)) (by decide)
  have hwakes := hnone (·.isWakeOf r) (by simp +contextual [Cue.concerns])
  have hcalms := hnone (·.isCalmOf r) (by simp +contextual [Cue.concerns])
  have hhalts := hnone (·.isHaltOf r) (by simp +contextual [Cue.concerns])
  have hentries := hnone (·.isEntryOf r) (by simp +contextual [Cue.concerns])
  have hline : s.line.count r = 0 := List.count_eq_zero.mpr h.line
  have heffects : s.effects r = [] := by
    show List.map _ (List.filter _ _) = []
    rw [List.map_eq_nil_iff, List.filter_eq_nil_iff]
    intro errand herrand
    simpa using h.effects errand herrand
  have hledger : s.ledgerOf r (Run.ofAction action settings client audience hasStore) =
      { action, audience, phase := .idle, control := { working := action.targets }, inbox := []
        isWaiting := false, isGathering := false, deeds := [], outcome := none, effects := []
        wakes := 0, calms := 0, halts := 0, entries := 0 } := by
    simp only [ledgerOf, hwakes, hcalms, hhalts, hentries, hline, heffects]
    rfl
  refine ⟨?_, ?_, rfl, rfl⟩
  · rw [Session.ledger, h.here]
    rfl
  · rw [hledger]
    refine ⟨⟨⟨rfl, Control.agrees_nil _, ?_, List.nil_subperm, fun _ => .refl _, rfl⟩,
      ⟨List.nil_prefix, fun _ => rfl⟩, fun _ => ⟨rfl, rfl, rfl, rfl, rfl, rfl⟩, ?_, ?_, ?_, ?_⟩,
      ⟨rfl, rfl⟩, rfl⟩
    · intro older m heq
      have heq : ([] : List Message) = older ++ [m] := heq
      simp at heq
    · intro hd
      cases hd
    · rintro (hd | hf)
      · cases hd
      · cases hf
    · intro hf
      cases hf
    · intro summary hsum
      cases hsum

lemma Awaits.orderly {run : Run} (h : s.Awaits r run) : s.Orderly r := by
  constructor
  · intro errand herrand hrun
    exact absurd hrun (h.effects errand herrand)
  · intro e he
    have hlt := h.retired e he
    refine ⟨s.errands[e], List.getElem?_eq_getElem hlt, ?_⟩
    intro hrun
    exact absurd hrun (h.effects _ (List.getElem_mem hlt))

/-- a session with a single run, which has not started -/
def alone (network : ν) (run : Run) (store : Snapshot.Store := {}) : Session ν :=
  { network, runs := [run], store }

lemma alone_awaits (network : ν) (action : Action) (settings : Settings) (client : Nat)
    (audience : Audience) (hasStore : Bool) (store : Snapshot.Store) :
    (alone network (.ofAction action settings client audience hasStore) store).Awaits 0
      (.ofAction action settings client audience hasStore) where
  here := rfl
  fresh := ⟨action, settings, client, audience, hasStore, rfl⟩
  effects := fun _ h => by cases h
  cues := fun _ h => by cases h
  line := fun h => by cases h
  retired := fun _ h => by cases h

lemma Same.sayStart (r : Nat) (s : Session ν) (run : Run) : Same r s (s.sayStart r run).1 := by
  have hstarted : Same r s (s.modifyRun r fun run => { run with started := s.agenda.now }) :=
    .modifyRun s r _ fun _ => rfl
  exact hstarted.trans (.emit _ r .runStarted _ none _)

theorem Same.readied (r : Nat) (s : Session ν) (run : Run) : Same r s (s.readied r run) :=
  (Same.sayStart r s run).trans (.prepare r _ r run)

/-- a run starts: it says so, gets ready and looks for bulbs -/
theorem Kept.start {l : Ledger} (hl : s.ledger r = some l) (h : s.Kept r) (hp : l.phase = .idle)
    (hout : l.outcome = none) (run : Run) : (s.start r run).Kept r := by
  have hfault : ∀ t : Session ν, t.ledger r = some l → t.Kept r → ∀ fault,
      (t.endRun r (.error fault)).Kept r := by
    intro t ht hkept fault
    refine hkept.endRun ?_
    intro l' hl'
    obtain rfl := Option.some.inj (ht.symm.trans hl')
    refine ⟨?_, fun summary hsum => by cases hsum⟩
    rw [hp]
    decide
  have hsaid := Same.sayStart r s run
  have hready := Same.readied r s run
  cases start_course s r run with
  | mute said result =>
    rw [result]
    exact hfault _ (hsaid.ledger.trans hl) (h.same hsaid) _
  | unready said prepared result =>
    rw [result]
    exact hfault _ (hready.ledger.trans hl) (h.same hready) _
  | @seeks saved said prepared result =>
    rw [result]
    have hsaved := hready.trans (.modifyRun _ r (fun run => { run with saved }) fun _ => rfl)
    exact Kept.search (hsaved.ledger.trans hl) (h.same hsaved) hp hout _

theorem Kept.start_ne (h : s.Kept r) (hq : q ≠ r) (run : Run) : (s.start q run).Kept r := by
  have hstarted := h.same (.modifyRun_ne hq fun run => { run with started := s.agenda.now })
  have hsaid : (s.sayStart q run).1.Kept r := hstarted.same (.emit _ q .runStarted _ none _)
  have hready : (s.readied q run).Kept r := hsaid.same (.prepare r _ q run)
  cases start_course s q run with
  | mute said result =>
    rw [result]
    exact hsaid.endRun_ne hq _
  | unready said prepared result =>
    rw [result]
    exact hready.endRun_ne hq _
  | seeks said prepared result =>
    rw [result]
    exact (hready.same (.modifyRun_ne hq _)).search_ne hq _

theorem Kept.takeTurn_ne (h : s.Kept r) (hq : q ≠ r) (run : Run) : (s.takeTurn q run).Kept r := by
  have hline : (s.line.filter fun waiting => waiting != q).count r = s.line.count r :=
    List.count_filter (by simpa using hq.symm)
  have hturn : Same r s { s with
      turn := some q, line := s.line.filter fun waiting => waiting != q } :=
    .of_cues rfl rfl hline (.refl _) (fun _ => id)
  exact (h.same hturn).start_ne hq run

/-! ### Steps -/

/-- a cue that is set is taken off the agenda -/
lemma ledger_remove {l : Ledger} {agenda : Agenda Cue} {cue : Cue} (hl : s.ledger r = some l)
    (hcues : s.agenda.cues.Perm (cue :: agenda.cues)) :
    ∃ l', ({ s with agenda } : Session ν).ledger r = some l' ∧ l = { l' with
      wakes := l'.wakes + (cue.isWakeOf r).toNat
      calms := l'.calms + (cue.isCalmOf r).toNat
      halts := l'.halts + (cue.isHaltOf r).toNat
      entries := l'.entries + (cue.isEntryOf r).toNat } := by
  obtain ⟨run, hget, rfl⟩ := Option.map_eq_some_iff.mp hl
  have hcount : ∀ p : Cue → Bool,
      s.agenda.cues.countP p = agenda.cues.countP p + (p cue).toNat := by
    intro p
    rw [hcues.countP_eq, List.countP_cons]
    cases p cue <;> rfl
  refine ⟨({ s with agenda } : Session ν).ledgerOf r run, ?_, ?_⟩
  · show s.runs[r]?.map _ = _
    rw [hget]
    rfl
  · simp only [ledgerOf, hcount, ← Nat.add_assoc]
    rfl

theorem Kept.remove (h : s.Kept r) {agenda : Agenda Cue} {cue : Cue}
    (hcues : s.agenda.cues.Perm (cue :: agenda.cues)) : ({ s with agenda } : Session ν).Kept r := by
  obtain ⟨l, hl, hsound⟩ := h.sound
  obtain ⟨l', hl', rfl⟩ := ledger_remove hl hcues
  refine ⟨⟨l', hl', ?_⟩, ?_⟩
  · have hless := hsound.wait l'.isWaiting l'.wakes
      (.inl (Nat.add_le_add_right (Nat.le_add_right _ _) _))
    have htoll := hsound.toll_le
    have hbefore := hsound.toll_eq_zero
    simp only [Ledger.toll] at htoll hbefore
    have hawait := hless.await l'.isGathering l'.calms l'.halts ?_ ?_ ?_
    · have hentries : l'.entries + (cue.isEntryOf r).toNat = 0 := hsound.booked.entries
      rw [Nat.add_eq_zero_iff] at hentries
      rw [hentries.2] at hawait
      exact hawait
    · intro hp
      have hzero := hbefore hp
      refine ⟨?_, by omega, by omega⟩
      cases hg : l'.isGathering with
      | false => rfl
      | true =>
        simp only [hg, Bool.toNat_true] at hzero
        omega
    · show l'.calms + l'.halts + l'.isGathering.toNat + finals l'.deeds + aborts l'.deeds ≤ 1
      omega
    · intro hcalm
      exact hsound.allEnded (Nat.lt_of_lt_of_le hcalm (Nat.le_add_right _ _))
  · refine h.orderly.of_errands rfl ?_
    intro e he
    exact hcues.mem_iff.mpr (List.mem_cons_of_mem cue he)

lemma Kept.overRun (h : s.Kept r) (q : Nat) {act : Run → Session ν}
    (hact : ∀ run, s.runs[q]? = some run → (act run).Kept r) : (s.overRun q act).Kept r :=
  overRun_induction (p := (Kept · r)) q h hact

theorem Same.wind (r : Nat) (s : Session ν) (q : Nat) (run : Run) : Same r s (s.wind q run) :=
  .of_cue (.tick q) (Agenda.cues_pause _ _ _) rfl (by simp)

/-- a run that is told to look into its inbox looks for bulbs, and is told only once -/
lemma Kept.wake {run : Run} (h : s.Kept r) (hget : s.runs[r]? = some run)
    (hold : ∃ l, l.Sound ∧ l = { s.ledgerOf r run with wakes := (s.ledgerOf r run).wakes + 1 }) :
    (s.wake r run).Kept r := by
  obtain ⟨l, hsound, rfl⟩ := hold
  obtain ⟨l, hl, hsound'⟩ := h.sound
  obtain rfl : s.ledgerOf r run = l := by
    rw [ledger, hget] at hl
    exact Option.some.inj hl
  have hp : run.phase = .discovering := hsound.discovering (Nat.succ_pos _)
  have hlook := (hsound.looks hp).wakes
  have hnone : (s.ledgerOf r run).wakes = 0 ∧ (s.ledgerOf r run).isWaiting = false := by
    have hlook : (s.ledgerOf r run).wakes + 1 + (s.ledgerOf r run).isWaiting.toNat ≤ 1 := hlook
    cases hw : (s.ledgerOf r run).isWaiting with
    | false => exact ⟨by omega, rfl⟩
    | true =>
      simp only [hw, Bool.toNat_true] at hlook
      omega
  exact Kept.handleAll run run.inbox hl h.orderly (hsound'.busy hp hnone.1 hnone.2)
    hsound'.staffed (hsound'.looks hp).looking rfl

/-- a run that is told that its effects have ended, or that one has a fault, is draining, and
nothing else will tell it so -/
lemma draining_of_drained {l l' : Ledger} (calms halts : Nat) (h : l.Sound)
    (hl : l = { l' with calms := l'.calms + calms, halts := l'.halts + halts })
    (honce : calms + halts = 1) : l'.phase = .draining ∧ l'.toll = 0 := by
  have hle := h.toll_le
  have hzero := h.toll_eq_zero
  have hfinished := h.finished
  subst hl
  simp only [Ledger.toll] at hle hzero hfinished ⊢
  cases hp : l'.phase with
  | idle =>
    have := hzero (.inl hp)
    omega
  | discovering =>
    have := hzero (.inr hp)
    omega
  | draining => exact ⟨rfl, by omega⟩
  | finished =>
    have := hfinished hp
    omega

section

variable {agenda : Agenda Cue} {l : Ledger}

/-- a run that is woken up looks for bulbs -/
lemma ledger_wake (h : l.Sound) (hl : s.ledger r = some l)
    (hcues : s.agenda.cues.Perm (.wake r :: agenda.cues)) :
    l.phase = .discovering ∧ ∃ l₀, ({ s with agenda } : Session ν).ledger r = some l₀ ∧
      l₀.phase = .discovering ∧ l₀.deeds = l.deeds := by
  obtain ⟨l₀, hl₀, hcounts⟩ := ledger_remove hl hcues
  have hp : l.phase = .discovering := h.discovering (by
    rw [hcounts]
    simp [Cue.isWakeOf])
  exact ⟨hp, l₀, hl₀, by rwa [hcounts] at hp, by rw [hcounts]⟩

/-- a run that is told how its effects have ended is draining -/
lemma ledger_drained (h : l.Sound) (hl : s.ledger r = some l) {fault : Option Fault}
    (hcues : s.agenda.cues.Perm (.drained r fault :: agenda.cues)) :
    l.phase = .draining ∧ ∃ l₀, ({ s with agenda } : Session ν).ledger r = some l₀ ∧
      l₀.phase = .draining := by
  obtain ⟨l₀, hl₀, hcounts⟩ := ledger_remove hl hcues
  have hp₀ : l₀.phase = .draining := by
    cases fault with
    | none => exact (draining_of_drained 1 0 h
        (by simpa [Cue.isWakeOf, Cue.isCalmOf, Cue.isHaltOf, Cue.isEntryOf] using hcounts) rfl).1
    | some fault => exact (draining_of_drained 0 1 h
        (by simpa [Cue.isWakeOf, Cue.isCalmOf, Cue.isHaltOf, Cue.isEntryOf] using hcounts) rfl).1
  exact ⟨by rw [hcounts]; exact hp₀, l₀, hl₀, hp₀⟩

lemma perform_wake {run : Run} (hget : s.runs[r]? = some run) :
    s.perform (.wake r) = s.handleAll r run run.inbox := by
  simp only [Session.perform, Session.overRun, hget]
  rfl

lemma perform_drained {run : Run} (hget : s.runs[r]? = some run) :
    s.perform (.drained r none) = s.close r run := by
  simp only [Session.perform, Session.overRun, hget]

end

/-- performing a cue that was set keeps the ledger sound -/
theorem Kept.perform (h : s.Kept r) {agenda : Agenda Cue} {cue : Cue}
    (hcues : s.agenda.cues.Perm (cue :: agenda.cues)) :
    (({ s with agenda } : Session ν).perform cue).Kept r := by
  have ht := h.remove hcues
  obtain ⟨l, hl, hsound⟩ := h.sound
  obtain ⟨l', hl', hcounts⟩ := ledger_remove hl hcues
  have hentry : cue.isEntryOf r = false := by
    have hzero := hsound.booked.entries
    rw [hcounts] at hzero
    have hzero : l'.entries + (cue.isEntryOf r).toNat = 0 := hzero
    cases hc : cue.isEntryOf r with
    | false => rfl
    | true =>
      simp only [hc, Bool.toNat_true] at hzero
      omega
  have hbook : ∀ run, s.runs[r]? = some run → l' = ({ s with agenda } : Session ν).ledgerOf r run := by
    intro run hget
    rw [ledger, show ({ s with agenda } : Session ν).runs[r]? = _ from hget] at hl'
    exact (Option.some.inj hl').symm
  cases cue with
  | signal signal => exact (ht.same (.network r _ _)).advance (.sight r _ _ _)
  | clock q => exact ht.overRun q fun run _ => ht.same (.wind r _ q run)
  | tick q => exact ht.overRun q fun run _ => (ht.advance (.tick r _ q)).same (.wind r _ q run)
  | wake q =>
    refine ht.overRun q fun run hget => ?_
    by_cases hq : q = r
    · subst hq
      refine ht.wake hget ⟨l, hsound, ?_⟩
      rw [hcounts, ← hbook run hget]
      simp [Cue.isWakeOf, Cue.isCalmOf, Cue.isHaltOf, Cue.isEntryOf]
    · exact ht.handleAll_ne hq run _
  | drained q fault =>
    by_cases hq : q = r
    · subst hq
      cases fault with
      | none =>
        refine ht.overRun q fun run hget => ?_
        have hdrained := draining_of_drained 1 0 hsound
          (by simpa [Cue.isWakeOf, Cue.isCalmOf, Cue.isHaltOf, Cue.isEntryOf] using hcounts) rfl
        have hall : AllEnded l'.effects := by
          have hended := hsound.allEnded (by
            rw [hcounts]
            simp [Cue.isCalmOf])
          rw [hcounts] at hended
          exact hended
        rw [hbook run hget] at hdrained hall
        exact ht.close hget hdrained.1 hdrained.2 hall
      | some fault =>
        have hdrained := draining_of_drained 0 1 hsound
          (by simpa [Cue.isWakeOf, Cue.isCalmOf, Cue.isHaltOf, Cue.isEntryOf] using hcounts) rfl
        refine ht.endRun ?_
        intro l'' hl''
        obtain rfl := Option.some.inj (hl'.symm.trans hl'')
        refine ⟨?_, fun summary hsum => by cases hsum⟩
        rw [hdrained.1]
        decide
    · cases fault with
      | none => exact ht.overRun q fun run _ => ht.close_ne hq run
      | some fault => exact ht.endRun_ne hq _
  | enter q =>
    have hq : q ≠ r := by simpa [Cue.isEntryOf] using hentry
    refine ht.overRun q fun run _ => ?_
    unfold Session.enter
    split
    · exact ht.same (.of_cues rfl rfl (by simp [hq]) (.refl _) (fun _ => id))
    · exact ht.takeTurn_ne hq run
  | takeTurn q =>
    have hq : q ≠ r := by simpa [Cue.isEntryOf] using hentry
    exact ht.overRun q fun run _ => ht.takeTurn_ne hq run
  | begin e => exact ht.advance (.awaited r _ (beq_self_eq_true e))
  | attempt e => exact ht.advance (.awaited r _ (beq_self_eq_true e))
  | arrive e request answer => exact ht.advance (.awaited r _ (beq_self_eq_true e))
  | expire e => exact ht.advance (.awaited r _ (beq_self_eq_true e))
  | resume e => exact ht.advance (.awaited r _ (beq_self_eq_true e))
  | retire e =>
    obtain ⟨errand, he, hover⟩ := h.orderly.retired e (hcues.mem_iff.mpr (List.mem_cons_self ..))
    have heffects := effects_modifyErrand (r := r) (s := { s with agenda })
      (fun errand => { errand with isAttached := false }) he rfl rfl rfl
    refine ht.same ⟨congrArg (s.runs[r]?.map ·) (ledgerOf_congr rfl heffects (.refl _)), ?_⟩
    exact fun horderly => horderly.modifyErrand he rfl (fun _ hopen => hopen)
      (fun hrun _ => hover hrun)
  | alarm => exact ht.same (.of_cues rfl rfl rfl (.refl _) (fun _ => id))

/-! ### Every session that is reached -/

/-- one of the cues that are set is performed, whichever -/
def Next (s t : Session ν) : Prop :=
  ∃ cue agenda, s.agenda.cues.Perm (cue :: agenda.cues) ∧
    t = ({ s with agenda } : Session ν).perform cue

/-- a session that a run can come to: cues are performed in any order, and between them any client
may find a bulb, and the network may come to any state -/
inductive Reached (r : Nat) : Session ν → Prop
  | start {s : Session ν} {run : Run} : s.Awaits r run → Reached r (s.start r run)
  | next {s t : Session ν} : Reached r s → s.Next t → Reached r t
  | hear {s : Session ν} (client : Nat) (handle : Handle) :
    Reached r s → Reached r (s.hear client handle)
  | network {s : Session ν} (network : ν) : Reached r s → Reached r { s with network }

/-- the ledger of a run that has started is always sound -/
theorem Reached.kept (h : Reached r s) : s.Kept r := by
  induction h with
  | start hnew =>
    obtain ⟨hl, hsound, hphase, hout⟩ := hnew.ledger
    exact Kept.start hl ⟨⟨_, hl, hsound⟩, hnew.orderly⟩ hphase hout _
  | next _ hnext ih =>
    obtain ⟨cue, agenda, hcues, rfl⟩ := hnext
    exact ih.perform hcues
  | hear client handle _ ih => exact ih.advance (.hear r _ client handle)
  | network network _ ih => exact ih.same (.network r _ network)

theorem Reached.sound (h : Reached r s) {run : Run} (hrun : s.runs[r]? = some run) :
    (s.ledgerOf r run).Sound := by
  obtain ⟨l, hl, hsound⟩ := h.kept.sound
  rw [ledger, hrun] at hl
  exact Option.some.inj hl ▸ hsound

theorem next_of_step (h : s.step = some t) : s.Next t := by
  unfold Session.step at h
  obtain ⟨⟨cue, agenda⟩, hnext, rfl⟩ := Option.map_eq_some_iff.mp h
  exact ⟨cue, agenda, Agenda.cues_next hnext, rfl⟩

/-- what is driven step by step is reached -/
theorem Reached.drive (h : Reached r s) (isDone : Session ν → Bool) (fuel : Nat) :
    Reached r (Session.drive isDone fuel s) := by
  induction fuel generalizing s with
  | zero => exact h
  | succ fuel ih =>
    unfold Session.drive
    split
    · exact h
    · split
      · exact h
      · rename_i t hstep
        exact ih (h.next (next_of_step hstep))

end Lamplighter.Session
