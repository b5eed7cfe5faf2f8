import Lamplighter.Proofs.Run.Hosting

/-!
# Alert: a run that will go on

* `Ledger.Alert`      a run that looks for bulbs is to look into its inbox or has emptied it, one
                      that waits for its effects waits for one that has not ended, and one that has
                      finished has a summary;
* `Ledger.Unmoved`    what no move changes;
* `Advances.perform`  a cue that does not concern the run makes its ledger move, if anything;
* `Session.Backed`    nothing goes wrong in a run but on the bulbs;
* `Backed.close`, `Backed.drain`, `Backed.handleAll`   what such a run does leaves it alert.
-/

set_option linter.unusedSectionVars false

namespace Lamplighter

open Deeds

namespace Ledger

variable {l l' : Ledger}

structure Alert (l : Ledger) : Prop where
  reliable : l.audience.isReliable = true
  begun : l.phase ≠ .idle
  looks : l.phase = .discovering → 0 < l.wakes ∨ l.isWaiting = true ∧ l.inbox = []
  waits : l.phase = .draining → 0 < l.calms ∨ l.isGathering = true ∧ ¬ AllEnded l.effects
  finished : l.phase = .finished → ∃ summary, l.outcome = some (.ok summary)

lemma Alert.post (h : l.Alert) (m : Message) : (l.post m).Alert where
  reliable := h.reliable
  begun := h.begun
  looks hp := by
    refine .inl ?_
    show 0 < l.wakes + l.isWaiting.toNat
    rcases h.looks hp with hwakes | ⟨hwaiting, _⟩
    · omega
    · rw [hwaiting]
      exact Nat.succ_pos _
  waits := h.waits
  finished := h.finished

lemma Alert.hear (h : l.Alert) (handle : Handle) : (l.hear handle).Alert := by
  have htold : { l with
      control := (l.control.announce handle).1
      deeds := .heard handle :: l.deeds }.Alert :=
    ⟨h.reliable, h.begun, h.looks, h.waits, h.finished⟩
  unfold Ledger.hear
  split
  · exact htold
  · exact htold.post _

/-- an effect that ends is the last one, and the run is told so, or it is not -/
lemma Alert.conclude (h : l.Alert) (handle : Handle) (effects : List (Handle × Bool)) (isOk : Bool) :
    ((l.conclude handle effects isOk).check none).Alert := by
  have hpost : (l.conclude handle effects isOk).phase = .discovering →
      0 < (l.conclude handle effects isOk).wakes := by
    intro hp
    show 0 < l.wakes + l.isWaiting.toNat
    rcases h.looks hp with hwakes | ⟨hwaiting, _⟩
    · omega
    · rw [hwaiting]
      exact Nat.succ_pos _
  have hgathered : l.phase = .draining → 0 < l.calms ∨ l.isGathering = true :=
    fun hp => (h.waits hp).imp id And.left
  unfold Ledger.check
  split
  · exact ⟨h.reliable, h.begun, fun hp => .inl (hpost hp), fun _ => .inl (Nat.succ_pos _), h.finished⟩
  · rename_i hopen
    refine ⟨h.reliable, h.begun, fun hp => .inl (hpost hp), ?_, h.finished⟩
    intro hp
    refine (hgathered hp).imp id fun hgather => ⟨hgather, ?_⟩
    intro hall
    refine hopen (Bool.and_eq_true_iff.mpr ⟨hgather, ?_⟩)
    rw [Option.isSome_none, Bool.false_or, List.all_eq_true]
    exact hall

theorem Alert.move (h : l.Alert) (hm : Move l l') : l'.Alert := by
  cases hm with
  | tick => exact h.post .tick
  | hear handle => exact h.hear handle
  | done he => exact h.conclude _ _ true
  | @fail handle effects further fault he hfurther =>
    cases further with
    | some further => exact absurd (h.reliable.symm.trans (hfurther rfl)) (by decide)
    | none =>
      have hnoted : { l with deeds := .raised handle fault :: l.deeds }.Alert :=
        ⟨h.reliable, h.begun, h.looks, h.waits, h.finished⟩
      exact hnoted.conclude handle effects false

theorem Alert.moves (h : l.Alert) (hm : l.Moves l') : l'.Alert := by
  induction hm with
  | refl => exact h
  | tail _ hmove ih => exact ih.move hmove

/-- a sound and alert run is not told of a fault, and has not broken off -/
lemma Alert.untroubled (h : l.Alert) (hs : l.Sound) : l.halts = 0 ∧ aborts l.deeds = 0 := by
  have htoll := hs.toll_le
  have hbefore := hs.toll_eq_zero
  have hfinals := hs.finished
  simp only [Ledger.toll] at htoll hbefore
  cases hp : l.phase with
  | idle => exact absurd hp h.begun
  | discovering =>
    have := hbefore (.inr hp)
    omega
  | draining =>
    rcases h.waits hp with hcalms | ⟨hgather, _⟩
    · omega
    · rw [hgather, Bool.toNat_true] at htoll
      omega
  | finished =>
    have := hfinals hp
    omega

/-! ### What moves leave as it is -/

/-- a ledger has moved, so that only messages have been added -/
structure Unmoved (l l' : Ledger) : Prop where
  phase : l'.phase = l.phase
  action : l'.action = l.action
  outcome : l'.outcome = l.outcome
  handled : handled l'.deeds = handled l.deeds
  queued : queued l.deeds <+: queued l'.deeds
  effects : l'.effects.map Prod.fst = l.effects.map Prod.fst

lemma Unmoved.refl (l : Ledger) : Unmoved l l :=
  ⟨rfl, rfl, rfl, rfl, List.prefix_rfl, rfl⟩

lemma Unmoved.trans {l'' : Ledger} (h : Unmoved l l') (h' : Unmoved l' l'') : Unmoved l l'' :=
  ⟨h'.phase.trans h.phase, h'.action.trans h.action, h'.outcome.trans h.outcome,
    h'.handled.trans h.handled, h.queued.trans h'.queued, h'.effects.trans h.effects⟩

lemma Unmoved.post (l : Ledger) (m : Message) : Unmoved l (l.post m) :=
  ⟨rfl, rfl, rfl, rfl, List.prefix_append _ _, rfl⟩

lemma Unmoved.check (l : Ledger) (fault : Option Fault) : Unmoved l (l.check fault) := by
  unfold Ledger.check
  split
  · exact ⟨rfl, rfl, rfl, rfl, List.prefix_rfl, rfl⟩
  · exact .refl l

lemma Move.unmoved (hm : Move l l') : Unmoved l l' := by
  cases hm with
  | tick => exact .post l .tick
  | hear handle =>
    have htold : Unmoved l { l with
        control := (l.control.announce handle).1
        deeds := .heard handle :: l.deeds } :=
      ⟨rfl, rfl, rfl, rfl, List.prefix_rfl, rfl⟩
    unfold Ledger.hear
    split
    · exact htold
    · exact htold.trans (.post _ _)
  | @done handle effects he =>
    have hended : Unmoved l { l with effects } :=
      ⟨rfl, rfl, rfl, rfl, List.prefix_rfl, he.map_fst⟩
    exact (hended.trans (.post _ _)).trans (.check _ _)
  | @fail handle effects further fault he hfurther =>
    have hended : Unmoved l { l with deeds := .raised handle fault :: l.deeds, effects } :=
      ⟨rfl, rfl, rfl, rfl, List.prefix_rfl, he.map_fst⟩
    exact (hended.trans (.post _ _)).trans (.check _ _)

theorem Moves.unmoved (hm : l.Moves l') : Unmoved l l' := by
  induction hm with
  | refl => exact .refl l
  | tail _ hmove ih => exact ih.trans hmove.unmoved

end Ledger

namespace Session

variable {s t : Session Bench} {r : Nat} {cue : Cue} {agenda : Agenda Cue}

lemma advances_overRun (hsole : s.IsSole r) {q : Nat} {act : Run → Session Bench}
    (hact : ∀ run, q = r → Advances r s (act run)) : Advances r s (s.overRun q act) := by
  refine overRun_induction q (.refl r s) fun run hget => ?_
  by_cases hq : q = r
  · exact hact run hq
  · rw [hsole q hq] at hget
    cases hget

/-- a cue that does not concern the only run makes its ledger move, if anything -/
theorem Advances.perform (hsole : s.IsSole r) (hline : r ∉ s.line) (hconcerns : cue.concerns r = false)
    (hretire : ∀ i, cue = .retire i → ∃ errand, s.errands[i]? = some errand ∧
      (errand.run = some r → errand.isOver = true)) : Advances r s (s.perform cue) := by
  have hne : ∀ {q}, cue.concerns r = (q == r) → q ≠ r := by
    rintro q hq rfl
    rw [hconcerns] at hq
    simp at hq
  cases cue with
  | signal signal =>
    exact (Same.network r s (s.network.signal signal).1).advances.trans (.sight r _ _ _)
  | clock q => exact advances_overRun hsole fun run _ => (Same.wind r s q run).advances
  | tick q =>
    exact advances_overRun hsole fun run _ =>
      (Advances.tick r s q).trans (Same.wind r _ q run).advances
  | wake q =>
    refine advances_overRun hsole fun run hq => absurd hq (hne ?_)
    simp [Cue.concerns, Cue.isWakeOf, Cue.isCalmOf, Cue.isHaltOf, Cue.isEntryOf]
  | drained q fault =>
    have hq : q ≠ r := by
      refine hne ?_
      cases fault <;> simp [Cue.concerns, Cue.isWakeOf, Cue.isCalmOf, Cue.isHaltOf, Cue.isEntryOf]
    cases fault with
    | none => exact advances_overRun hsole fun run heq => absurd heq hq
    | some fault => exact (Same.endRun_ne hline hq _).advances
  | enter q =>
    refine advances_overRun hsole fun run hq => absurd hq (hne ?_)
    simp [Cue.concerns, Cue.isWakeOf, Cue.isCalmOf, Cue.isHaltOf, Cue.isEntryOf]
  | takeTurn q =>
    refine advances_overRun hsole fun run hq => absurd hq (hne ?_)
    simp [Cue.concerns, Cue.isWakeOf, Cue.isCalmOf, Cue.isHaltOf, Cue.isEntryOf]
  | begin i => exact .awaited r s (beq_self_eq_true i)
  | attempt i => exact .awaited r s (beq_self_eq_true i)
  | arrive i request answer => exact .awaited r s (beq_self_eq_true i)
  | expire i => exact .awaited r s (beq_self_eq_true i)
  | resume i => exact .awaited r s (beq_self_eq_true i)
  | retire i =>
    obtain ⟨errand, he, hover⟩ := hretire i rfl
    have heffects := effects_modifyErrand (r := r) (s := s)
      (fun errand => { errand with isAttached := false }) he rfl rfl rfl
    refine Same.advances ⟨congrArg (s.runs[r]?.map ·) (ledgerOf_congr rfl heffects (.refl _)), ?_⟩
    exact fun horderly => horderly.modifyErrand he rfl (fun _ hopen => hopen)
      (fun hrun _ => hover hrun)
  | alarm => exact ⟨fun _ l hl => ⟨l, hl, .refl⟩, fun h => ⟨h.detached, h.retired⟩⟩

end Session

end Lamplighter
