import Mathlib.Data.List.Perm.Subperm
import Mathlib.Logic.Relation
import Lamplighter.Proofs.Run.Deeds

/-!
# Ledgers: where a run stands

A ledger has what concerns one run: its own record, the effects that it dispatched, and how many
cues are under way to it.  `Sound` says what holds of the ledger whenever nothing is half done:

* `Told`        the bulbs that were announced are known, and the first of each serial is a message;
* `Booked`      the messages and the books agree with one another;
* `Staffed`     the effects are those of the bulbs that were picked;
* `Unstarted`, `Looks`, `Stopped`   what holds before, during and after the search for bulbs.

Each thing that can happen to a run is a change of its ledger, and keeps it sound.  `Move` has the
changes that are none of the run's own doing: its clock, the bulbs, and its effects.
-/

namespace Lamplighter

open Deeds

structure Ledger where
  action : Action
  audience : Audience
  phase : Phase
  control : Control
  inbox : List Message
  isWaiting : Bool
  isGathering : Bool
  deeds : List Deed
  outcome : Option (Except Fault Summary)
  /-- the effects in the order of dispatch, each with whether it is over -/
  effects : List (Handle × Bool)
  /-- the cues to look into the inbox -/
  wakes : Nat
  /-- the cues that all effects have ended -/
  calms : Nat
  /-- the cues that an effect has a fault -/
  halts : Nat
  /-- the cues to start the run, and its places in the line -/
  entries : Nat

/-- no event of an audience fails -/
def Audience.isReliable : Audience → Bool
  | .recorder failing => failing.isEmpty
  | _ => true

/-- the bulbs whose effects are over -/
def ended (effects : List (Handle × Bool)) : List Handle :=
  (effects.filter (·.2)).map Prod.fst

def AllEnded (effects : List (Handle × Bool)) : Prop :=
  ∀ effect ∈ effects, effect.2 = true

/-- an effect ends -/
inductive Ends (handle : Handle) : List (Handle × Bool) → List (Handle × Bool) → Prop
  | intro (older newer : List (Handle × Bool)) :
    Ends handle (older ++ (handle, false) :: newer) (older ++ (handle, true) :: newer)

section
variable {handle : Handle} {effects effects' : List (Handle × Bool)}

lemma Ends.ended_perm (h : Ends handle effects effects') :
    (handle :: ended effects).Perm (ended effects') := by
  obtain ⟨older, newer⟩ := h
  show (handle :: List.map _ (List.filter _ (older ++ _))).Perm
    (List.map _ (List.filter _ (older ++ _)))
  rw [List.filter_append, List.filter_append, List.map_append, List.map_append]
  exact List.perm_middle.symm

lemma Ends.map_fst (h : Ends handle effects effects') :
    effects'.map Prod.fst = effects.map Prod.fst := by
  obtain ⟨older, newer⟩ := h
  simp

/-- as long as an effect can end, not all have -/
lemma Ends.not_allEnded (h : Ends handle effects effects') : ¬ AllEnded effects := by
  obtain ⟨older, newer⟩ := h
  intro hall
  simpa using hall (handle, false) (by simp)

lemma Ends.ne_nil (h : Ends handle effects effects') : effects ≠ [] := by
  obtain ⟨older, newer⟩ := h
  simp

end

/-- the effect finished its work after the search was stopped, and no effect ended after that -/
def Closed (deeds : List Deed) : Prop :=
  ∃ later earlier, deeds = later ++ .finalized :: earlier ∧ 0 < stops earlier ∧
    ends (queued later) = []

/-- a summary agrees with the books -/
structure Summary.Sums (summary : Summary) (control : Control) : Prop where
  matched : summary.matched = control.matched
  failed : summary.failed = control.failed
  unmatched : summary.unmatched = control.unmatched
  idleChecks : summary.idleChecks = control.idleChecks

namespace Ledger

/-- how often the run has come, or is about to come, to its end -/
def toll (l : Ledger) : Nat :=
  l.calms + l.halts + l.isGathering.toNat + finals l.deeds + aborts l.deeds

structure Told (l : Ledger) : Prop where
  seen : l.control.seen = (firsts (announced l.deeds)).map Handle.serial
  first : bulbs (queued l.deeds) = firsts (announced l.deeds)

structure Booked (l : Ledger) : Prop where
  mail : queued l.deeds = handled l.deeds ++ cleared l.deeds ++ l.inbox
  books : l.control.Agrees l.action.targets (handled l.deeds) (cleared l.deeds)
  /-- only the last message can have ended the search -/
  latest : ∀ older m, handled l.deeds = older ++ [m] → Undecided l.action.targets older
  /-- a message tells that an effect has ended only if it is over -/
  reported : ((ends (queued l.deeds)).map Prod.fst).Subperm (ended l.effects)
  accounted : aborts l.deeds = 0 → ((ends (queued l.deeds)).map Prod.fst).Perm (ended l.effects)
  entries : l.entries = 0

structure Staffed (l : Ledger) : Prop where
  among : l.effects.map Prod.fst <+: l.action.targets.picked (bulbs (handled l.deeds))
  full : (aborts l.deeds = 0 ∨ l.audience.isReliable = true) →
    l.effects.map Prod.fst = l.action.targets.picked (bulbs (handled l.deeds))

structure Unstarted (l : Ledger) : Prop where
  effects : l.effects = []
  handled : handled l.deeds = []
  cleared : cleared l.deeds = []
  toll : l.toll = 0
  wakes : l.wakes = 0
  waiting : l.isWaiting = false

structure Looks (l : Ledger) : Prop where
  looking : l.control.isLooking = true
  cleared : cleared l.deeds = []
  toll : l.toll = 0
  wakes : l.wakes + l.isWaiting.toNat ≤ 1
  outcome : l.outcome = none

structure Stopped (l : Ledger) : Prop where
  stops : 0 < stops l.deeds
  decided : aborts l.deeds = 0 → l.control.isLooking = false
  wakes : l.wakes = 0
  waiting : l.isWaiting = false
  toll : l.toll ≤ 1
  calm : 0 < l.calms → AllEnded l.effects
  closed : 0 < finals l.deeds → AllEnded l.effects ∧ ends l.inbox = [] ∧ Closed l.deeds

structure Steady (l : Ledger) : Prop where
  booked : l.Booked
  staffed : l.Staffed
  unstarted : l.phase = .idle → l.Unstarted
  looks : l.phase = .discovering → l.Looks
  stopped : l.phase = .draining ∨ l.phase = .finished → l.Stopped
  finished : l.phase = .finished → 0 < finals l.deeds
  summed : ∀ summary, l.outcome = some (.ok summary) →
    l.phase = .finished ∧ summary.Sums l.control

/-- the effects that have a fault are those that report so, in this order -/
def Blamed (l : Ledger) : Prop :=
  (raised l.deeds).map Prod.fst = ((ends (queued l.deeds)).filter fun e => !e.2).map Prod.fst

structure Sound (l : Ledger) : Prop extends Steady l where
  told : l.Told
  blamed : l.Blamed

/-! ### Announcements and messages -/

/-- a message comes into the inbox -/
def post (l : Ledger) (message : Message) : Ledger :=
  { l with
    inbox := l.inbox ++ [message]
    isWaiting := false
    deeds := .queued message :: l.deeds
    wakes := l.wakes + l.isWaiting.toNat }

/-- the run is told of a bulb -/
def hear (l : Ledger) (handle : Handle) : Ledger :=
  let told := { l with
    control := (l.control.announce handle).1
    deeds := .heard handle :: l.deeds }
  match (l.control.announce handle).2 with
  | none => told
  | some message => told.post message

lemma closed_cons {deeds : List Deed} (h : Closed deeds) {deed : Deed}
    (hd : ends (queued [deed]) = []) : Closed (deed :: deeds) := by
  obtain ⟨later, earlier, rfl, hstops, hlater⟩ := h
  refine ⟨deed :: later, earlier, rfl, hstops, ?_⟩
  rw [← List.singleton_append, queued_append, ends_append, hlater, hd, List.append_nil]

section
variable {l : Ledger}

lemma Booked.post (h : l.Booked) {m : Message} (hm : ends [m] = []) : (l.post m).Booked where
  mail := by
    show queued l.deeds ++ [m] = _ ++ (l.inbox ++ [m])
    rw [h.mail, List.append_assoc]
    rfl
  books := h.books
  latest := h.latest
  reported := by
    show ((ends (queued l.deeds ++ [m])).map Prod.fst).Subperm _
    rw [ends_append, hm, List.append_nil]
    exact h.reported
  accounted := by
    show _ → ((ends (queued l.deeds ++ [m])).map Prod.fst).Perm _
    rw [ends_append, hm, List.append_nil]
    exact h.accounted
  entries := h.entries

lemma Unstarted.post (h : l.Unstarted) (m : Message) : (l.post m).Unstarted where
  effects := h.effects
  handled := h.handled
  cleared := h.cleared
  toll := h.toll
  wakes := by
    show l.wakes + l.isWaiting.toNat = 0
    rw [h.wakes, h.waiting]
    rfl
  waiting := rfl

lemma Looks.post (h : l.Looks) (m : Message) : (l.post m).Looks where
  looking := h.looking
  cleared := h.cleared
  toll := h.toll
  wakes := h.wakes
  outcome := h.outcome

lemma Stopped.post (h : l.Stopped) {m : Message} (hm : ends [m] = []) : (l.post m).Stopped where
  stops := h.stops
  decided := h.decided
  wakes := by
    show l.wakes + l.isWaiting.toNat = 0
    rw [h.wakes, h.waiting]
    rfl
  waiting := rfl
  toll := h.toll
  calm := h.calm
  closed := by
    intro hf
    obtain ⟨hall, hinbox, hclosed⟩ := h.closed hf
    refine ⟨hall, ?_, closed_cons hclosed hm⟩
    show ends (l.inbox ++ [m]) = []
    rw [ends_append, hinbox, hm]
    rfl

lemma Steady.post (h : l.Steady) {m : Message} (hm : ends [m] = []) : (l.post m).Steady where
  booked := h.booked.post hm
  staffed := ⟨h.staffed.among, h.staffed.full⟩
  unstarted hp := (h.unstarted hp).post m
  looks hp := (h.looks hp).post m
  stopped hp := (h.stopped hp).post hm
  finished := h.finished
  summed := h.summed

lemma Blamed.post (h : l.Blamed) {m : Message} (hm : ends [m] = []) : (l.post m).Blamed := by
  show _ = ((ends (queued l.deeds ++ [m])).filter fun e => !e.2).map Prod.fst
  rw [ends_append, hm, List.append_nil]
  exact h

/-- an idle interval passes -/
theorem Sound.tick (h : l.Sound) : (l.post .tick).Sound where
  toSteady := h.toSteady.post rfl
  told :=
    { seen := h.told.seen
      first := by
        show bulbs (queued l.deeds ++ [.tick]) = _
        rw [bulbs_append, h.told.first]
        exact List.append_nil _ }
  blamed := h.blamed.post rfl

/-- a deed that says nothing of the messages, of the search or of the end -/
def IsAside : Deed → Prop
  | .heard _ | .raised _ _ | .sought => True
  | _ => False

lemma Steady.note (h : l.Steady) (deed : Deed) (hd : IsAside deed) :
    { l with deeds := deed :: l.deeds }.Steady := by
  have hclosed : Closed l.deeds → Closed (deed :: l.deeds) := by
    intro hc
    cases deed with
    | heard _ | raised _ _ | sought => exact closed_cons hc rfl
    | _ => exact hd.elim
  cases deed with
  | heard _ | raised _ _ | sought =>
    refine ⟨⟨h.booked.mail, h.booked.books, h.booked.latest, h.booked.reported,
      h.booked.accounted, h.booked.entries⟩, ⟨h.staffed.among, h.staffed.full⟩, ?_, ?_, ?_,
      h.finished, h.summed⟩
    · intro hp
      have hu := h.unstarted hp
      exact ⟨hu.effects, hu.handled, hu.cleared, hu.toll, hu.wakes, hu.waiting⟩
    · intro hp
      have hl := h.looks hp
      exact ⟨hl.looking, hl.cleared, hl.toll, hl.wakes, hl.outcome⟩
    · intro hp
      have hs := h.stopped hp
      refine ⟨hs.stops, hs.decided, hs.wakes, hs.waiting, hs.toll, hs.calm, ?_⟩
      intro hf
      obtain ⟨hall, hinbox, hc⟩ := hs.closed hf
      exact ⟨hall, hinbox, hclosed hc⟩
  | _ => exact hd.elim

/-- an announcement touches the bulbs that are known, and no figures -/
lemma Steady.announce (h : l.Steady) (handle : Handle) :
    { l with control := (l.control.announce handle).1 }.Steady := by
  have hsame : ∃ seen, (l.control.announce handle).1 = { l.control with seen } := by
    unfold Control.announce
    split
    · exact ⟨l.control.seen, rfl⟩
    · exact ⟨_, rfl⟩
  obtain ⟨seen, hseen⟩ := hsame
  have hbooks := h.booked.books.announce handle
  rw [hseen] at hbooks ⊢
  refine ⟨⟨h.booked.mail, hbooks, h.booked.latest, h.booked.reported, h.booked.accounted,
    h.booked.entries⟩, ⟨h.staffed.among, h.staffed.full⟩, ?_, ?_, ?_, h.finished, ?_⟩
  · intro hp
    have hu := h.unstarted hp
    exact ⟨hu.effects, hu.handled, hu.cleared, hu.toll, hu.wakes, hu.waiting⟩
  · intro hp
    have hl := h.looks hp
    exact ⟨hl.looking, hl.cleared, hl.toll, hl.wakes, hl.outcome⟩
  · intro hp
    have hs := h.stopped hp
    exact ⟨hs.stops, hs.decided, hs.wakes, hs.waiting, hs.toll, hs.calm, hs.closed⟩
  · intro summary hsum
    obtain ⟨hp, hsums⟩ := h.summed summary hsum
    exact ⟨hp, hsums.matched, hsums.failed, hsums.unmatched, hsums.idleChecks⟩

/-- the run is told of a bulb, and only the first announcement of a serial becomes a message -/
theorem Sound.hear (h : l.Sound) (handle : Handle) : (l.hear handle).Sound := by
  have hsteady := (h.toSteady.announce handle).note (.heard handle) trivial
  have hheard : announced (.heard handle :: l.deeds) = announced l.deeds ++ [handle] := rfl
  have hmem : handle.serial ∈ l.control.seen ↔
      handle.serial ∈ (firsts (announced l.deeds)).map Handle.serial := by
    rw [h.told.seen]
  by_cases hold : handle.serial ∈ l.control.seen
  · have hann : l.control.announce handle = (l.control, none) := if_pos hold
    simp only [Ledger.hear, hann] at hsteady ⊢
    refine ⟨hsteady, ⟨?_, ?_⟩, h.blamed⟩
    · rw [hheard, firsts_concat, if_pos (hmem.mp hold)]
      exact h.told.seen
    · rw [hheard, firsts_concat, if_pos (hmem.mp hold)]
      exact h.told.first
  · have hann : l.control.announce handle =
        ({ l.control with seen := l.control.seen ++ [handle.serial] }, some (.seen handle)) :=
      if_neg hold
    have hnew := fun hin => hold (hmem.mpr hin)
    simp only [Ledger.hear, hann] at hsteady ⊢
    refine ⟨hsteady.post rfl, ⟨?_, ?_⟩, Blamed.post h.blamed rfl⟩
    · show l.control.seen ++ [handle.serial] = (firsts (announced (.heard handle :: l.deeds))).map _
      rw [hheard, firsts_concat, if_neg hnew, List.map_append, h.told.seen]
      rfl
    · show bulbs (queued l.deeds ++ [.seen handle]) = firsts (announced (.heard handle :: l.deeds))
      rw [hheard, firsts_concat, if_neg hnew, bulbs_append, h.told.first]
      rfl

end

/-! ### The end of an effect -/

section
variable {l : Ledger} {handle : Handle} {effects : List (Handle × Bool)}

/-- an effect ends, and reports whether it went well -/
def conclude (l : Ledger) (handle : Handle) (effects : List (Handle × Bool)) (isOk : Bool) :
    Ledger :=
  { l with effects }.post (.ended handle isOk)

lemma Steady.conclude (h : l.Steady) (he : Ends handle l.effects effects) (isOk : Bool) :
    (l.conclude handle effects isOk).Steady := by
  have hends : (ends (queued l.deeds ++ [.ended handle isOk])).map Prod.fst
      = (ends (queued l.deeds)).map Prod.fst ++ [handle] := by
    rw [ends_append, List.map_append]
    rfl
  have hperm : ((ends (queued l.deeds)).map Prod.fst ++ [handle]).Perm
      (handle :: (ends (queued l.deeds)).map Prod.fst) := List.perm_append_singleton _ _
  refine ⟨⟨?_, h.booked.books, h.booked.latest, ?_, ?_, h.booked.entries⟩, ⟨?_, ?_⟩, ?_, ?_, ?_,
    h.finished, h.summed⟩
  · show queued l.deeds ++ [_] = _ ++ (l.inbox ++ [_])
    rw [h.booked.mail, List.append_assoc]
    rfl
  · show ((ends (queued l.deeds ++ [.ended handle isOk])).map Prod.fst).Subperm (ended effects)
    rw [hends]
    have hcons := (List.subperm_cons handle).mpr h.booked.reported
    exact (hperm.subperm.trans hcons).trans he.ended_perm.subperm
  · intro ha
    show ((ends (queued l.deeds ++ [.ended handle isOk])).map Prod.fst).Perm (ended effects)
    rw [hends]
    exact (hperm.trans ((h.booked.accounted ha).cons handle)).trans he.ended_perm
  · show effects.map Prod.fst <+: _
    rw [he.map_fst]
    exact h.staffed.among
  · show _ → effects.map Prod.fst = _
    rw [he.map_fst]
    exact h.staffed.full
  · intro hp
    exact absurd (h.unstarted hp).effects he.ne_nil
  · intro hp
    have hl := h.looks hp
    exact ⟨hl.looking, hl.cleared, hl.toll, hl.wakes, hl.outcome⟩
  · intro hp
    have hs := h.stopped hp
    have hcalm : ¬ 0 < l.calms := fun hc => he.not_allEnded (hs.calm hc)
    have hopen : ¬ 0 < finals l.deeds := fun hf => he.not_allEnded (hs.closed hf).1
    refine ⟨hs.stops, hs.decided, ?_, rfl, hs.toll, fun hc => absurd hc hcalm,
      fun hf => absurd hf hopen⟩
    show l.wakes + l.isWaiting.toNat = 0
    rw [hs.wakes, hs.waiting]
    rfl

lemma Told.conclude (h : l.Told) (handle : Handle) (effects : List (Handle × Bool))
    (isOk : Bool) : (l.conclude handle effects isOk).Told := by
  refine ⟨h.seen, ?_⟩
  show bulbs (queued l.deeds ++ [.ended handle isOk]) = _
  rw [bulbs_append, h.first]
  exact List.append_nil _

/-- an effect that was under way ends well -/
theorem Sound.conclude (h : l.Sound) (he : Ends handle l.effects effects) :
    (l.conclude handle effects true).Sound where
  toSteady := h.toSteady.conclude he true
  told := h.told.conclude handle effects true
  blamed := by
    show _ = ((ends (queued l.deeds ++ [.ended handle true])).filter fun e => !e.2).map Prod.fst
    rw [ends_append, List.filter_append, List.map_append, ← h.blamed]
    exact (List.append_nil _).symm

/-- an effect that was under way ends with a fault, which is recorded first -/
theorem Sound.fail (h : l.Sound) (he : Ends handle l.effects effects) (fault : Fault) :
    ({ l with deeds := .raised handle fault :: l.deeds }.conclude handle effects false).Sound where
  toSteady := (h.toSteady.note (.raised handle fault) trivial).conclude he false
  told := by
    have htold : Told { l with deeds := .raised handle fault :: l.deeds } :=
      ⟨h.told.seen, h.told.first⟩
    exact htold.conclude handle effects false
  blamed := by
    show (raised l.deeds ++ [(handle, fault)]).map Prod.fst
      = ((ends (queued l.deeds ++ [.ended handle false])).filter fun e => !e.2).map Prod.fst
    rw [ends_append, List.filter_append, List.map_append, List.map_append, ← h.blamed]
    rfl

/-- an effect that is called off once something went wrong is over, and does not report -/
theorem Sound.callOff (h : l.Sound) (ha : 0 < aborts l.deeds) (he : Ends handle l.effects effects) :
    { l with effects }.Sound := by
  have hmore : (ended l.effects).Subperm (ended effects) :=
    (List.sublist_cons_self handle _).subperm.trans he.ended_perm.subperm
  refine ⟨⟨⟨h.booked.mail, h.booked.books, h.booked.latest, h.booked.reported.trans hmore, ?_,
    h.booked.entries⟩, ⟨?_, ?_⟩, ?_, ?_, ?_, h.finished, h.summed⟩, ⟨h.told.seen, h.told.first⟩,
    h.blamed⟩
  · intro hnone
    exact absurd hnone (Nat.ne_of_gt ha)
  · show effects.map Prod.fst <+: _
    rw [he.map_fst]
    exact h.staffed.among
  · show _ → effects.map Prod.fst = _
    rw [he.map_fst]
    exact h.staffed.full
  · intro hp
    exact absurd (h.unstarted hp).effects he.ne_nil
  · intro hp
    have hl := h.looks hp
    exact ⟨hl.looking, hl.cleared, hl.toll, hl.wakes, hl.outcome⟩
  · intro hp
    have hs := h.stopped hp
    exact ⟨hs.stops, hs.decided, hs.wakes, hs.waiting, hs.toll,
      fun hc => absurd (hs.calm hc) he.not_allEnded,
      fun hf => absurd (hs.closed hf).1 he.not_allEnded⟩

end

/-! ### Cues that concern the run -/

section
variable {l : Ledger}

/-- the run waits for its effects, or a cue says that it need not any longer, but never twice -/
theorem Sound.await (h : l.Sound) (isGathering : Bool) (calms halts : Nat)
    (hbefore : l.phase = .idle ∨ l.phase = .discovering →
      isGathering = false ∧ calms = 0 ∧ halts = 0)
    (honce : calms + halts + isGathering.toNat + finals l.deeds + aborts l.deeds ≤ 1)
    (hcalm : 0 < calms → AllEnded l.effects) :
    { l with isGathering, calms, halts }.Sound := by
  refine ⟨⟨⟨h.booked.mail, h.booked.books, h.booked.latest, h.booked.reported, h.booked.accounted,
    h.booked.entries⟩, ⟨h.staffed.among, h.staffed.full⟩, ?_, ?_, ?_, h.finished, h.summed⟩,
    ⟨h.told.seen, h.told.first⟩, h.blamed⟩
  · intro hp
    have hu := h.unstarted hp
    obtain ⟨rfl, rfl, rfl⟩ := hbefore (.inl hp)
    have htoll := hu.toll
    refine ⟨hu.effects, hu.handled, hu.cleared, ?_, hu.wakes, hu.waiting⟩
    simp only [toll, Bool.toNat_false] at htoll ⊢
    omega
  · intro hp
    have hl := h.looks hp
    obtain ⟨rfl, rfl, rfl⟩ := hbefore (.inr hp)
    have htoll := hl.toll
    refine ⟨hl.looking, hl.cleared, ?_, hl.wakes, hl.outcome⟩
    simp only [toll, Bool.toNat_false] at htoll ⊢
    omega
  · intro hp
    have hs := h.stopped hp
    exact ⟨hs.stops, hs.decided, hs.wakes, hs.waiting, honce, hcalm, hs.closed⟩

theorem Sound.toll_le (h : l.Sound) : l.toll ≤ 1 := by
  cases hp : l.phase with
  | idle => exact Nat.le_trans (Nat.le_of_eq (h.unstarted hp).toll) (Nat.zero_le 1)
  | discovering => exact Nat.le_trans (Nat.le_of_eq (h.looks hp).toll) (Nat.zero_le 1)
  | draining => exact (h.stopped (.inl hp)).toll
  | finished => exact (h.stopped (.inr hp)).toll

/-- before the search is over the run is not about to end -/
theorem Sound.toll_eq_zero (h : l.Sound) (hp : l.phase = .idle ∨ l.phase = .discovering) :
    l.toll = 0 := by
  rcases hp with hp | hp
  · exact (h.unstarted hp).toll
  · exact (h.looks hp).toll

/-- a run that waits for its effects goes on if all have ended, or if one has a fault -/
def check (l : Ledger) (fault : Option Fault) : Ledger :=
  if l.isGathering && (fault.isSome || l.effects.all (·.2)) then
    { l with
      isGathering := false
      calms := l.calms + fault.isNone.toNat
      halts := l.halts + fault.isSome.toNat }
  else l

theorem Sound.check (h : l.Sound) (fault : Option Fault) : (l.check fault).Sound := by
  unfold Ledger.check
  split
  · rename_i hready
    obtain ⟨hgather, hcause⟩ := Bool.and_eq_true_iff.mp hready
    have htoll := h.toll_le
    have hsearch := h.toll_eq_zero
    simp only [toll, hgather, Bool.toNat_true] at htoll hsearch
    have hone : fault.isNone.toNat + fault.isSome.toNat = 1 := by
      cases fault <;> rfl
    refine h.await _ _ _ ?_ ?_ ?_
    · intro hp
      have := hsearch hp
      omega
    · simp only [Bool.toNat_false]
      omega
    · intro hcalm
      cases fault with
      | none => simpa [AllEnded] using hcause
      | some fault =>
        simp only [Option.isNone_some, Bool.toNat_false] at hcalm
        omega
  · exact h

/-- a run is told that its effects have ended only if they have -/
theorem Sound.allEnded (h : l.Sound) (hcalm : 0 < l.calms) : AllEnded l.effects := by
  have hbefore := h.toll_eq_zero
  simp only [toll] at hbefore
  cases hp : l.phase with
  | idle =>
    have := hbefore (.inl hp)
    omega
  | discovering =>
    have := hbefore (.inr hp)
    omega
  | draining => exact (h.stopped (.inl hp)).calm hcalm
  | finished => exact (h.stopped (.inr hp)).calm hcalm

/-- the run is to look into its inbox once at most, and only while it looks for bulbs -/
theorem Sound.wait (h : l.Sound) (isWaiting : Bool) (wakes : Nat)
    (hless : wakes + isWaiting.toNat ≤ l.wakes + l.isWaiting.toNat ∨
      l.phase = .discovering ∧ wakes + isWaiting.toNat ≤ 1) :
    { l with isWaiting, wakes }.Sound := by
  have hnone : l.phase ≠ .discovering → l.wakes = 0 → l.isWaiting = false →
      wakes = 0 ∧ isWaiting = false := by
    intro hp hw hi
    have hless := hless.resolve_right fun hd => hp hd.1
    rw [hw, hi] at hless
    cases isWaiting
    · exact ⟨by simpa using hless, rfl⟩
    · simp at hless
  refine ⟨⟨⟨h.booked.mail, h.booked.books, h.booked.latest, h.booked.reported, h.booked.accounted,
    h.booked.entries⟩, ⟨h.staffed.among, h.staffed.full⟩, ?_, ?_, ?_, h.finished, h.summed⟩,
    ⟨h.told.seen, h.told.first⟩, h.blamed⟩
  · intro hp
    have hu := h.unstarted hp
    have hd : l.phase ≠ .discovering := fun hd => absurd (hd.symm.trans hp) (by decide)
    obtain ⟨hw, hi⟩ := hnone hd hu.wakes hu.waiting
    exact ⟨hu.effects, hu.handled, hu.cleared, hu.toll, hw, hi⟩
  · intro hp
    have hl := h.looks hp
    refine ⟨hl.looking, hl.cleared, hl.toll, ?_, hl.outcome⟩
    exact hless.elim (fun hle => Nat.le_trans hle hl.wakes) And.right
  · intro hp
    have hs := h.stopped hp
    have hd : l.phase ≠ .discovering := by
      intro hd
      rcases hp with hp | hp
      · exact absurd (hd.symm.trans hp) (by decide)
      · exact absurd (hd.symm.trans hp) (by decide)
    obtain ⟨hw, hi⟩ := hnone hd hs.wakes hs.waiting
    exact ⟨hs.stops, hs.decided, hw, hi, hs.toll, hs.calm, hs.closed⟩

/-- a run that does not look for bulbs ends, with a fault or with a summary of its books -/
theorem Sound.over (h : l.Sound) (hp : l.phase ≠ .discovering) {outcome : Except Fault Summary}
    (hsum : ∀ summary, outcome = .ok summary → l.phase = .finished ∧ summary.Sums l.control) :
    { l with outcome := some outcome }.Sound := by
  refine ⟨⟨⟨h.booked.mail, h.booked.books, h.booked.latest, h.booked.reported, h.booked.accounted,
    h.booked.entries⟩, ⟨h.staffed.among, h.staffed.full⟩, ?_, ?_, ?_, h.finished, ?_⟩,
    ⟨h.told.seen, h.told.first⟩, h.blamed⟩
  · intro hp
    have hu := h.unstarted hp
    exact ⟨hu.effects, hu.handled, hu.cleared, hu.toll, hu.wakes, hu.waiting⟩
  · intro hd
    exact absurd hd hp
  · intro hp
    have hs := h.stopped hp
    exact ⟨hs.stops, hs.decided, hs.wakes, hs.waiting, hs.toll, hs.calm, hs.closed⟩
  · intro summary heq
    exact hsum summary (Option.some.inj heq)

/-! ### The search for bulbs -/

/-- a run starts to look for bulbs -/
theorem Sound.seek (h : l.Sound) (hp : l.phase = .idle) (hout : l.outcome = none) :
    { l with phase := .discovering, deeds := .sought :: l.deeds }.Sound := by
  have hs := h.toSteady.note .sought trivial
  have hu := h.unstarted hp
  refine ⟨⟨⟨hs.booked.mail, hs.booked.books, hs.booked.latest, hs.booked.reported,
    hs.booked.accounted, hs.booked.entries⟩, ⟨hs.staffed.among, hs.staffed.full⟩, ?_, ?_, ?_, ?_,
    ?_⟩, ⟨h.told.seen, h.told.first⟩, h.blamed⟩
  · intro hi
    cases hi
  · intro _
    refine ⟨?_, hu.cleared, hu.toll, ?_, hout⟩
    · have hlook := h.booked.books.isLooking
      rw [hu.handled] at hlook
      exact hlook.mpr undecided_nil
    · show l.wakes + l.isWaiting.toNat ≤ 1
      rw [hu.wakes, hu.waiting]
      exact Nat.zero_le 1
  · rintro (hd | hf)
    · cases hd
    · cases hf
  · intro hf
    cases hf
  · intro summary hsum
    rw [hout] at hsum
    cases hsum

/-- a run that handles messages -/
structure Busy (l : Ledger) : Prop where
  booked : l.Booked
  told : l.Told
  blamed : l.Blamed
  phase : l.phase = .discovering
  cleared : Deeds.cleared l.deeds = []
  toll : l.toll = 0
  wakes : l.wakes = 0
  waiting : l.isWaiting = false
  outcome : l.outcome = none

theorem Sound.busy (h : l.Sound) (hp : l.phase = .discovering) (hw : l.wakes = 0)
    (hi : l.isWaiting = false) : l.Busy :=
  have hl := h.looks hp
  ⟨h.booked, h.told, h.blamed, hp, hl.cleared, hl.toll, hw, hi, hl.outcome⟩

theorem Busy.sound (h : l.Busy) (hs : l.Staffed) (hl : l.control.isLooking = true) : l.Sound := by
  have hwakes : l.wakes + l.isWaiting.toNat ≤ 1 := by
    rw [h.wakes, h.waiting]
    exact Nat.zero_le 1
  refine ⟨⟨h.booked, hs, ?_, ?_, ?_, ?_, ?_⟩, h.told, h.blamed⟩
  · intro hp
    exact absurd (h.phase.symm.trans hp) (by decide)
  · intro _
    exact ⟨hl, h.cleared, h.toll, hwakes, h.outcome⟩
  · rintro (hp | hp)
    · exact absurd (h.phase.symm.trans hp) (by decide)
    · exact absurd (h.phase.symm.trans hp) (by decide)
  · intro hp
    exact absurd (h.phase.symm.trans hp) (by decide)
  · intro summary hsum
    exact absurd (h.outcome.symm.trans hsum) (by simp)

/-- the first message of the inbox is handled -/
def take (l : Ledger) (m : Message) (rest : List Message) : Ledger :=
  { l with
    control := (l.control.handle m).1
    inbox := rest
    deeds := .handled m :: l.deeds }

theorem Busy.take (h : l.Busy) (hl : l.control.isLooking = true) {m : Message}
    {rest : List Message} (hin : l.inbox = m :: rest) : (l.take m rest).Busy := by
  have hseen : (l.control.handle m).1.seen = l.control.seen := by
    cases m with
    | seen bulb =>
      rw [Control.handle_seen]
      unfold Control.match?
      split <;> rfl
    | ended bulb isOk =>
      rw [Control.handle_ended]
      rfl
    | tick =>
      show l.control.tick.seen = _
      unfold Control.tick
      split <;> rfl
  have hbooks : l.control.Agrees l.action.targets (handled l.deeds) [] := h.cleared ▸ h.booked.books
  refine ⟨⟨?_, ?_, ?_, h.booked.reported, h.booked.accounted, h.booked.entries⟩, ⟨?_, h.told.first⟩,
    h.blamed, h.phase, h.cleared, h.toll, h.wakes, h.waiting, h.outcome⟩
  · show queued l.deeds = (handled l.deeds ++ [m]) ++ Deeds.cleared l.deeds ++ rest
    rw [h.booked.mail, h.cleared, hin]
    simp
  · show (l.control.handle m).1.Agrees _ (handled l.deeds ++ [m]) (Deeds.cleared l.deeds)
    rw [h.cleared]
    exact hbooks.handle m
  · intro older last heq
    obtain ⟨rfl, _⟩ := List.append_inj' heq rfl
    exact hbooks.isLooking.mp hl
  · show (l.control.handle m).1.seen = _
    rw [hseen]
    exact h.told.seen

/-- the bulb that a message brings to act on is picked next -/
theorem Busy.picked_take (h : l.Busy) (m : Message) :
    l.action.targets.picked (bulbs (handled l.deeds ++ [m]))
      = l.action.targets.picked (bulbs (handled l.deeds)) ++ (l.control.handle m).2.toList := by
  rw [bulbs_append, Targets.picked_append, ← h.booked.books.working]
  congr 1
  cases m with
  | seen bulb =>
    rw [Control.handle_seen]
    show l.control.working.picked [bulb] = _
    rw [Targets.picked_singleton]
    split <;> rfl
  | ended bulb isOk =>
    rw [Control.handle_ended]
    rfl
  | tick => rfl

lemma Busy.among_take (h : l.Busy) (hs : l.Staffed) (m : Message) (rest : List Message) :
    (l.take m rest).effects.map Prod.fst
      <+: l.action.targets.picked (bulbs (handled (l.take m rest).deeds)) := by
  show l.effects.map Prod.fst <+: l.action.targets.picked (bulbs (handled l.deeds ++ [m]))
  rw [h.picked_take]
  exact hs.among.trans (List.prefix_append _ _)

/-- a message that brings no bulb to act on leaves the effects as they should be -/
theorem Busy.staffed_take (h : l.Busy) (hs : l.Staffed) {m : Message} (rest : List Message)
    (hm : (l.control.handle m).2 = none) : (l.take m rest).Staffed := by
  have hpicked := h.picked_take m
  rw [hm] at hpicked
  simp only [Option.toList_none, List.append_nil] at hpicked
  refine ⟨?_, ?_⟩
  · show l.effects.map Prod.fst <+: l.action.targets.picked (bulbs (handled l.deeds ++ [m]))
    rw [hpicked]
    exact hs.among
  · show _ → l.effects.map Prod.fst = l.action.targets.picked (bulbs (handled l.deeds ++ [m]))
    rw [hpicked]
    exact hs.full

/-- an effect is dispatched on the bulb that a message brought -/
theorem Busy.dispatch (h : l.Busy) (hs : l.Staffed) (hl : l.control.isLooking = true)
    {m : Message} {rest : List Message} (hin : l.inbox = m :: rest) {bulb : Handle}
    (hm : (l.control.handle m).2 = some bulb) :
    { l.take m rest with effects := l.effects ++ [(bulb, false)] }.Busy ∧
      { l.take m rest with effects := l.effects ++ [(bulb, false)] }.Staffed := by
  have ht := h.take hl hin
  have hpicked := h.picked_take m
  rw [hm] at hpicked
  have hended : ended (l.effects ++ [(bulb, false)]) = ended l.effects := by
    simp [ended]
  have habort : aborts l.deeds = 0 := by
    have htoll := h.toll
    simp only [Ledger.toll] at htoll
    omega
  have hnames : (l.effects ++ [(bulb, false)]).map Prod.fst
      = l.action.targets.picked (bulbs (handled l.deeds ++ [m])) := by
    rw [hpicked, List.map_append, hs.full (.inl habort)]
    rfl
  refine ⟨⟨⟨ht.booked.mail, ht.booked.books, ht.booked.latest, ?_, ?_, ht.booked.entries⟩,
    ⟨ht.told.seen, ht.told.first⟩, ht.blamed, ht.phase, ht.cleared, ht.toll, ht.wakes, ht.waiting,
    ht.outcome⟩, ⟨?_, ?_⟩⟩
  · show ((ends (queued l.deeds)).map Prod.fst).Subperm (ended (l.effects ++ [(bulb, false)]))
    rw [hended]
    exact h.booked.reported
  · show _ → ((ends (queued l.deeds)).map Prod.fst).Perm (ended (l.effects ++ [(bulb, false)]))
    rw [hended]
    exact h.booked.accounted
  · show (l.effects ++ [(bulb, false)]).map Prod.fst <+: _
    rw [hnames]
    exact List.prefix_rfl
  · intro _
    exact hnames

/-! ### The end of the search -/

/-- the search is stopped, and the record says why -/
def stop (l : Ledger) (why : List Deed) : Ledger :=
  { l with phase := .draining, deeds := .stopped :: why ++ l.deeds }

lemma Busy.calms_finals (h : l.Busy) : l.calms = 0 ∧ finals l.deeds = 0 := by
  have htoll := h.toll
  simp only [Ledger.toll] at htoll
  omega

/-- the message that ends the search was handled -/
theorem Busy.stop (h : l.Busy) (hs : l.Staffed) (hl : l.control.isLooking = false) :
    (l.stop []).Sound := by
  obtain ⟨hcalms, hfinals⟩ := h.calms_finals
  refine ⟨⟨⟨h.booked.mail, h.booked.books, h.booked.latest, h.booked.reported, h.booked.accounted,
    h.booked.entries⟩, ⟨hs.among, hs.full⟩, ?_, ?_, ?_, ?_, ?_⟩, ⟨h.told.seen, h.told.first⟩,
    h.blamed⟩
  · intro hp
    cases hp
  · intro hp
    cases hp
  · intro _
    refine ⟨Nat.succ_pos _, fun _ => hl, h.wakes, h.waiting, ?_, ?_, ?_⟩
    · show l.toll ≤ 1
      rw [h.toll]
      exact Nat.zero_le 1
    · intro hc
      exact absurd hcalms (Nat.ne_of_gt hc)
    · intro hf
      exact absurd hfinals (Nat.ne_of_gt hf)
  · intro hp
    cases hp
  · intro summary hsum
    exact absurd (h.outcome.symm.trans hsum) (by simp)

/-- something went wrong; only if an event failed may a bulb have been left out -/
theorem Busy.abort (h : l.Busy)
    (hamong : l.effects.map Prod.fst <+: l.action.targets.picked (bulbs (handled l.deeds)))
    (hfull : l.audience.isReliable = true →
      l.effects.map Prod.fst = l.action.targets.picked (bulbs (handled l.deeds))) :
    (l.stop [.aborted]).Sound := by
  obtain ⟨hcalms, hfinals⟩ := h.calms_finals
  have haborts : aborts (l.stop [.aborted]).deeds ≠ 0 := Nat.succ_ne_zero _
  refine ⟨⟨⟨h.booked.mail, h.booked.books, h.booked.latest, h.booked.reported,
    fun hnone => absurd hnone haborts, h.booked.entries⟩, ⟨hamong, ?_⟩, ?_, ?_, ?_, ?_, ?_⟩,
    ⟨h.told.seen, h.told.first⟩, h.blamed⟩
  · rintro (hnone | hreliable)
    · exact absurd hnone haborts
    · exact hfull hreliable
  · intro hp
    cases hp
  · intro hp
    cases hp
  · intro _
    refine ⟨Nat.succ_pos _, fun hnone => absurd hnone haborts, h.wakes, h.waiting, ?_, ?_, ?_⟩
    · exact Nat.le_of_eq (congrArg (· + 1) h.toll)
    · intro hc
      exact absurd hcalms (Nat.ne_of_gt hc)
    · intro hf
      exact absurd hfinals (Nat.ne_of_gt hf)
  · intro hp
    cases hp
  · intro summary hsum
    exact absurd (h.outcome.symm.trans hsum) (by simp)

/-! ### The end of the run -/

/-- what is left in the inbox is cleared away, and the effect finishes its work -/
def close (l : Ledger) : Ledger :=
  { l with
    control := l.control.settleAll l.inbox
    inbox := []
    deeds := .finalized :: (clearing l.inbox ++ l.deeds) }

theorem Sound.close (h : l.Sound) (hp : l.phase = .draining) (htoll : l.toll = 0)
    (hall : AllEnded l.effects) : l.close.Sound := by
  have hs := h.stopped (.inl hp)
  have hbooks := h.booked.books.settleAll l.inbox
  have hqueued : queued l.close.deeds = queued l.deeds := queued_clearing _ _
  have hhandled : handled l.close.deeds = handled l.deeds := handled_clearing _ _
  have hcleared : cleared l.close.deeds = cleared l.deeds ++ l.inbox := cleared_clearing _ _
  have haborts : aborts l.close.deeds = aborts l.deeds := aborts_clearing _ _
  have hstops : stops (clearing l.inbox ++ l.deeds) = stops l.deeds := stops_clearing _ _
  have hfinals : finals l.close.deeds = finals l.deeds + 1 :=
    congrArg (· + 1) (finals_clearing _ _)
  have htolls : l.calms = 0 ∧ l.close.toll = 1 := by
    have hsame : l.close.toll =
        l.calms + l.halts + l.isGathering.toNat + (finals l.deeds + 1) + aborts l.deeds := by
      rw [← hfinals, ← haborts]
      rfl
    simp only [Ledger.toll] at htoll
    omega
  refine ⟨⟨⟨?_, ?_, ?_, ?_, ?_, h.booked.entries⟩, ⟨?_, ?_⟩, ?_, ?_, ?_, ?_, ?_⟩, ⟨?_, ?_⟩, ?_⟩
  · rw [hqueued, hhandled, hcleared, h.booked.mail]
    simp [Ledger.close]
  · rw [hhandled, hcleared]
    exact hbooks
  · rw [hhandled]
    exact h.booked.latest
  · rw [hqueued]
    exact h.booked.reported
  · rw [hqueued, haborts]
    exact h.booked.accounted
  · rw [hhandled]
    exact h.staffed.among
  · rw [hhandled, haborts]
    exact h.staffed.full
  · intro hi
    exact absurd (hp.symm.trans hi) (by decide)
  · intro hd
    exact absurd (hp.symm.trans hd) (by decide)
  · intro _
    refine ⟨?_, ?_, hs.wakes, hs.waiting, Nat.le_of_eq htolls.2,
      fun hc => absurd htolls.1 (Nat.ne_of_gt hc),
      fun _ => ⟨hall, rfl, [], clearing l.inbox ++ l.deeds, rfl, ?_, rfl⟩⟩
    · show 0 < stops (clearing l.inbox ++ l.deeds)
      rw [hstops]
      exact hs.stops
    · intro ha
      have hlook := hs.decided (haborts ▸ ha)
      have hundecided := mt h.booked.books.isLooking.mpr (by rw [hlook]; decide)
      exact Bool.eq_false_iff.mpr (mt hbooks.isLooking.mp hundecided)
    · rw [hstops]
      exact hs.stops
  · intro hf
    exact absurd (hp.symm.trans hf) (by decide)
  · intro summary hsum
    exact absurd (hp.symm.trans (h.summed summary hsum).1) (by decide)
  · rw [show announced l.close.deeds = announced l.deeds from announced_clearing _ _, ← h.told.seen]
    exact Control.settleAll_seen _ _
  · rw [hqueued, show announced l.close.deeds = announced l.deeds from announced_clearing _ _]
    exact h.told.first
  · show (raised l.close.deeds).map Prod.fst = _
    rw [hqueued, show raised l.close.deeds = raised l.deeds from raised_clearing _ _]
    exact h.blamed

/-- the run has finished -/
theorem Sound.finish (h : l.Sound) (hp : l.phase = .draining) (hf : 0 < finals l.deeds) :
    { l with phase := .finished }.Sound := by
  have hs := h.stopped (.inl hp)
  refine ⟨⟨⟨h.booked.mail, h.booked.books, h.booked.latest, h.booked.reported, h.booked.accounted,
    h.booked.entries⟩, ⟨h.staffed.among, h.staffed.full⟩, ?_, ?_, ?_, fun _ => hf, ?_⟩,
    ⟨h.told.seen, h.told.first⟩, h.blamed⟩
  · intro hi
    cases hi
  · intro hd
    cases hd
  · intro _
    exact ⟨hs.stops, hs.decided, hs.wakes, hs.waiting, hs.toll, hs.calm, hs.closed⟩
  · intro summary hsum
    exact ⟨rfl, (h.summed summary hsum).2⟩

/-! ### Moves -/

/-- what comes to a run while it does nothing of its own; only an audience that is not reliable lets
the fault of an effect go further -/
inductive Move : Ledger → Ledger → Prop
  | tick (l : Ledger) : Move l (l.post .tick)
  | hear (l : Ledger) (handle : Handle) : Move l (l.hear handle)
  | done {l : Ledger} {handle : Handle} {effects : List (Handle × Bool)} :
    Ends handle l.effects effects → Move l ((l.conclude handle effects true).check none)
  | fail {l : Ledger} {handle : Handle} {effects : List (Handle × Bool)} {further : Option Fault}
    (fault : Fault) : Ends handle l.effects effects →
    (further.isSome = true → l.audience.isReliable = false) →
    Move l (({ l with deeds := .raised handle fault :: l.deeds }.conclude handle effects
      false).check further)

abbrev Moves : Ledger → Ledger → Prop :=
  Relation.ReflTransGen Move

theorem Sound.move {l' : Ledger} (h : l.Sound) (hm : Move l l') : l'.Sound := by
  cases hm with
  | tick => exact h.tick
  | hear handle => exact h.hear handle
  | done he => exact (h.conclude he).check none
  | fail fault he hfurther => exact (h.fail he fault).check _

theorem Sound.moves {l' : Ledger} (h : l.Sound) (hm : l.Moves l') : l'.Sound := by
  induction hm with
  | refl => exact h
  | tail _ hmove ih => exact ih.move hmove

/-! ### What a sound ledger shows -/

/-- only a run that looks for bulbs is to look into its inbox -/
lemma Sound.discovering (h : l.Sound) (hwakes : 0 < l.wakes) : l.phase = .discovering := by
  cases hp : l.phase with
  | idle => exact absurd (h.unstarted hp).wakes (Nat.ne_of_gt hwakes)
  | discovering => rfl
  | draining => exact absurd (h.stopped (.inl hp)).wakes (Nat.ne_of_gt hwakes)
  | finished => exact absurd (h.stopped (.inr hp)).wakes (Nat.ne_of_gt hwakes)

/-- the messages of bulbs are those of the first announcement of each serial -/
lemma Sound.bulbs_eq_firsts (h : l.Sound) : bulbs (handled l.deeds) ++ bulbs (cleared l.deeds)
    ++ bulbs l.inbox = firsts (announced l.deeds) := by
  rw [← h.told.first, h.booked.mail, bulbs_append, bulbs_append]

/-- no serial is handled twice -/
lemma Sound.nodup_handled (h : l.Sound) :
    ((bulbs (handled l.deeds)).map Handle.serial).Nodup := by
  have hall := nodup_firsts (announced l.deeds)
  rw [← h.bulbs_eq_firsts, List.append_assoc, List.map_append] at hall
  exact (List.nodup_append.mp hall).1

/-- each effect reports at most once, and only what was reported is handled or cleared away -/
lemma Sound.length_ends_le (h : l.Sound) :
    (ends (handled l.deeds ++ cleared l.deeds)).length ≤ (ended l.effects).length := by
  have hreported := h.booked.reported.length_le
  rw [List.length_map, h.booked.mail, ends_append, List.length_append] at hreported
  omega

/-- when no effect's report is in the inbox, the bulbs that have failed are those whose effect had a
fault -/
lemma Sound.failed_eq (h : l.Sound) (hinbox : ends l.inbox = []) :
    l.control.failed = (raised l.deeds).map fun f => f.1.name := by
  have hmail : ends (handled l.deeds ++ cleared l.deeds) = ends (queued l.deeds) := by
    rw [h.booked.mail, ends_append _ l.inbox, hinbox, List.append_nil]
  have hblamed := congrArg (List.map Handle.name) h.blamed
  rw [List.map_map, List.map_map] at hblamed
  rw [h.booked.books.failed, hmail]
  exact hblamed.symm

end

end Ledger

end Lamplighter
