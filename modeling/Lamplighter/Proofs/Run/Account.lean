import Lamplighter.Proofs.Run.Gist
import Lamplighter.Proofs.Run.Reached
import Lamplighter.Proofs.Run.Touches

/-!
# Accounts: what is read of a run, and what others cannot change

* `Ledger.bearing`    what announcements, messages and the clock leave alone of a ledger;
* `Touches.bearing`   so does whatever others do;
* `Ear`               where the events of a run are read: in its own record, or in the queue of a
                      subscriber;
* `Session.Attends`   a reader to whom every event of a run comes;
* `emit_attends`      each event of the run is read next;
* `Touches.carries`   whatever is done, no event is lost where none was lost before;
* `Touches.record`    the record of a run has only what the run itself tells.
-/

set_option linter.unusedSectionVars false

namespace Lamplighter

open Deeds

/-- where a run stands, but for what it has been told -/
structure Bearing where
  audience : Audience
  phase : Phase
  isGathering : Bool
  outcome : Option (Except Fault Summary)
  effects : List (Handle × Bool)
  /-- the bulbs whose effect had a fault -/
  blamed : List Handle
  calms : Nat
  halts : Nat

def Ledger.bearing (l : Ledger) : Bearing where
  audience := l.audience
  phase := l.phase
  isGathering := l.isGathering
  outcome := l.outcome
  effects := l.effects
  blamed := (raised l.deeds).map Prod.fst
  calms := l.calms
  halts := l.halts

lemma Ledger.bearing_hear (l : Ledger) (handle : Handle) : (l.hear handle).bearing = l.bearing := by
  unfold Ledger.hear
  split <;> rfl

/-- the cue does not tell the run how its effects have ended -/
structure Cue.IsAside (cue : Cue) (r : Nat) : Prop where
  calm : cue.isCalmOf r = false
  halt : cue.isHaltOf r = false

namespace Session

variable {ν : Type} {s t u : Session ν} {r q e : Nat} {who : Option Nat} {errand : Errand} {cue : Cue}
  {agenda : Agenda Cue}

/-! ### Bearings -/

def bearing (s : Session ν) (r : Nat) : Option Bearing :=
  (s.ledger r).map Ledger.bearing

lemma Same.bearing (h : Same r s t) : t.bearing r = s.bearing r :=
  congrArg (Option.map Ledger.bearing) h.ledger

lemma bearing_of_effects (hruns : t.runs = s.runs) (hagenda : t.agenda = s.agenda)
    (heffects : t.effects r = s.effects r) : t.bearing r = s.bearing r := by
  unfold bearing ledger
  rw [hruns]
  cases s.runs[r]? with
  | none => rfl
  | some run => simp [Ledger.bearing, ledgerOf, heffects, hagenda]

lemma bearing_agenda
    (hcalms : agenda.cues.countP (·.isCalmOf r) = s.agenda.cues.countP (·.isCalmOf r))
    (hhalts : agenda.cues.countP (·.isHaltOf r) = s.agenda.cues.countP (·.isHaltOf r)) :
    ({ s with agenda } : Session ν).bearing r = s.bearing r := by
  unfold bearing ledger
  show (s.runs[r]?.map _).map _ = _
  cases s.runs[r]? with
  | none => rfl
  | some run =>
    simp only [Option.map_some, Ledger.bearing, ledgerOf, hcalms, hhalts]
    rfl

/-- a cue is set, or not -/
lemma bearing_set (h : agenda.cues.Perm s.agenda.cues ∨ agenda.cues.Perm (cue :: s.agenda.cues))
    (hcue : cue.IsAside r) : ({ s with agenda } : Session ν).bearing r = s.bearing r := by
  have hcount : ∀ p : Cue → Bool, p cue = false → agenda.cues.countP p = s.agenda.cues.countP p := by
    intro p hp
    rcases h with h | h
    · exact h.countP_eq p
    · rw [h.countP_eq, List.countP_cons_of_neg (by simp [hp])]
  exact bearing_agenda (hcount _ hcue.calm) (hcount _ hcue.halt)

/-- cues are dropped -/
lemma bearing_drop {unwanted : Cue → Bool} (h : ∀ cue, unwanted cue = true → cue.IsAside r) :
    ({ s with agenda := s.agenda.drop unwanted } : Session ν).bearing r = s.bearing r := by
  have hcount : ∀ p : Cue → Bool, (∀ cue, unwanted cue = true → p cue = false) →
      (s.agenda.drop unwanted).cues.countP p = s.agenda.cues.countP p := by
    intro p hp
    rw [Agenda.cues_drop, List.countP_filter]
    refine List.countP_congr fun cue _ => ?_
    cases hu : unwanted cue with
    | false => simp
    | true => simp [hp cue hu]
  exact bearing_agenda (hcount _ fun cue hu => (h cue hu).calm) (hcount _ fun cue hu => (h cue hu).halt)

lemma bearing_post (s : Session ν) (q : Nat) (message : Message) :
    (s.post q message).bearing r = s.bearing r := by
  by_cases hq : q = r
  · subst hq
    unfold bearing
    cases hl : s.ledger q with
    | some l =>
      rw [ledger_post hl]
      rfl
    | none =>
      have hnone : s.runs[q]? = none := Option.map_eq_none_iff.mp hl
      simp only [Session.post, hnone, hl]
  · exact (Same.post_ne hq message).bearing

lemma bearing_hear (s : Session ν) (client : Nat) (handle : Handle) :
    (s.hear client handle).bearing r = s.bearing r := by
  unfold bearing
  cases hl : s.ledger r with
  | some l =>
    rcases ledger_hear hl client handle with hsame | hheard
    · rw [hsame]
    · rw [hheard, Option.map_some, Ledger.bearing_hear]
      rfl
  | none =>
    have hgists := congrArg (·.runs[r]?) (gist_hear s client handle)
    simp only [Session.gist, List.getElem?_map, Option.map_eq_none_iff.mp hl] at hgists
    rw [ledger, Option.map_eq_none_iff.mp hgists]
    rfl

lemma bearing_hearAll (s : Session ν) (client : Nat) (handles : List Handle) :
    (s.hearAll client handles).bearing r = s.bearing r :=
  hearAll_induction (p := fun t => t.bearing r = s.bearing r) rfl fun t handle _ =>
    (bearing_hear t client handle).trans

/-! ### Errands of others -/

lemma aside_of_isSetFor (hrun : errand.run ≠ some r) (h : cue.isSetFor e errand) : cue.IsAside r := by
  have hne : ∀ q, errand.run = some q → q ≠ r := by
    rintro q hq rfl
    exact hrun hq
  rcases h with h | rfl | ⟨q, hq, rfl | ⟨fault, rfl⟩⟩
  · cases cue <;> first | exact ⟨rfl, rfl⟩ | simp [Cue.isAwaitedBy] at h
  · exact ⟨rfl, rfl⟩
  · exact ⟨rfl, rfl⟩
  · cases fault <;> constructor <;> simp [Cue.isCalmOf, Cue.isHaltOf, hne q hq]

lemma aside_of_isSetBy (hq : q ≠ r) (h : cue.isSetBy q) : cue.IsAside r := by
  cases cue with
  | drained q' fault =>
    obtain rfl : q' = q := h
    cases fault <;> constructor <;> simp [Cue.isCalmOf, Cue.isHaltOf, hq]
  | _ => exact ⟨rfl, rfl⟩

/-- the effects of a run, each with its stage -/
def works (s : Session ν) (r : Nat) : List (Handle × Stage) :=
  (s.errands.filter fun errand => errand.run == some r).map fun errand => (errand.handle, errand.stage)

lemma effects_of_works (h : t.works r = s.works r) : t.effects r = s.effects r := by
  have hread : ∀ s : Session ν, s.effects r = (s.works r).map fun work =>
      (work.1, (⟨none, 0, work.1, .endless, 0, work.2, true⟩ : Errand).isOver) := by
    intro s
    rw [works, List.map_map]
    rfl
  rw [hread, hread, h]

/-- an errand is changed that is not of the run, or not in its stage -/
lemma works_modifyErrand {change : Errand → Errand} (hrun : ∀ errand, (change errand).run = errand.run)
    (hsame : ∀ errand, s.errands[e]? = some errand → errand.run = some r →
      (change errand).handle = errand.handle ∧ (change errand).stage = errand.stage) :
    (s.modifyErrand e change).works r = s.works r := by
  cases he : s.errands[e]? with
  | none =>
    show ((s.errands.modify e change).filter _).map _ = _
    rw [List.modify_eq_self (List.getElem?_eq_none_iff.mp he)]
    rfl
  | some errand =>
    obtain ⟨older, newer, hs, hchange⟩ := errands_split he
    unfold works
    rw [hchange, hs, List.filter_append, List.filter_append, List.filter_cons, List.filter_cons, hrun]
    by_cases hown : errand.run = some r
    · obtain ⟨hhandle, hstage⟩ := hsame errand he hown
      simp [hown, hhandle, hstage]
    · simp [hown]

variable [Network ν]

/-- what is done by others, or by none, leaves the effects of a run in their stages -/
theorem Touch.works (h : Touch who s t) (hwho : who ≠ some r) : t.works r = s.works r := by
  have herrands : ∀ {t : Session ν}, t.errands = s.errands → t.works r = s.works r := by
    intro t ht
    rw [Session.works, Session.works, ht]
  cases h with
  | emit kind message device data mine => exact herrands (errands_emit s _ _ _ _ _)
  | stroke own mine stroke =>
    cases stroke with
    | stage stage =>
      refine works_modifyErrand (fun _ => rfl) fun errand he hrun => ?_
      obtain ⟨own, he', hwhose⟩ := own
      obtain rfl := Option.some.inj (he.symm.trans he')
      exact absurd (hwhose.symm.trans hrun) hwho
    | emit whose kind_eq message data => exact herrands (errands_emit s _ _ _ _ _)
    | hear handle => exact herrands (errands_hear s _ handle)
    | _ => exact herrands rfl
  | dispatch errand mine own =>
    have hne : ¬ errand.run = some r := own.trans mine.symm ▸ hwho
    show ((s.errands ++ [errand]).filter _).map _ = _
    simp [Session.works, hne]
  | hear client handle => exact herrands (errands_hear s client handle)
  | expect signal =>
    refine herrands ?_
    unfold Session.expect
    split <;> rfl
  | retire e => exact works_modifyErrand (fun _ => rfl) fun _ _ _ => ⟨rfl, rfl⟩
  | _ => exact herrands rfl

theorem Touches.works (h : Touches who s t) (hwho : who ≠ some r) : t.works r = s.works r := by
  induction h with
  | refl => rfl
  | tail _ htouch ih => exact (htouch.works hwho).trans ih

lemma Stroke.bearing (h : Stroke e errand s t) (hworks : t.works r = s.works r)
    (hne : errand.run ≠ some r) : t.bearing r = s.bearing r := by
  cases h with
  | stage stage => exact bearing_of_effects rfl rfl (effects_of_works hworks)
  | drop => exact (Same.dropAwaited s e).bearing
  | soon turns cue mine =>
    exact bearing_set (.inr (s.agenda.cues_soon turns cue)) (aside_of_isSetFor hne mine)
  | after duration turns cue mine =>
    exact bearing_set (Agenda.cues_after _ duration turns cue) (aside_of_isSetFor hne mine)
  | pause duration cue mine =>
    exact bearing_set (Agenda.cues_pause _ duration cue) (aside_of_isSetFor hne mine)
  | change mine change core told =>
    exact (Same.modifyRun_ne (fun hq => hne (mine.trans (congrArg some hq))) change).bearing
  | emit mine kind_eq message data => exact (Same.emit s _ _ _ _ _).bearing
  | send request => exact (Same.network r s _).bearing
  | settle request answer => exact (Same.network r s _).bearing
  | hear handle => exact bearing_hear s _ handle

/-- what is done by others, or by none -/
theorem Touch.bearing (h : Touch who s t) (hwho : who ≠ some r) : t.bearing r = s.bearing r := by
  have hworks := h.works hwho
  have hne : ∀ {q}, who = some q → q ≠ r := by
    rintro q hq rfl
    exact hwho hq
  cases h with
  | change change mine told => exact (Same.modifyRun_ne (hne mine) change).bearing
  | emit kind message device data mine => exact (Same.emit s _ _ _ _ _).bearing
  | stroke own mine stroke => exact stroke.bearing hworks (mine.symm ▸ hwho)
  | dispatch errand mine own => exact bearing_of_effects rfl rfl (effects_of_works hworks)
  | soon turns cue mine set =>
    exact bearing_set (.inr (s.agenda.cues_soon turns cue)) (aside_of_isSetBy (hne mine) set)
  | wind duration mine => exact bearing_set (Agenda.cues_pause _ duration (Cue.tick _)) ⟨rfl, rfl⟩
  | unwind mine =>
    refine bearing_drop fun cue hcue => ?_
    cases cue <;> first | exact ⟨rfl, rfl⟩ | cases hcue
  | start client mine => exact (Same.network r s _).bearing
  | listen client mine => rfl
  | unlisten client mine => rfl
  | file store mine => rfl
  | wait line turn mine => exact bearing_of_effects rfl rfl rfl
  | hear client handle => exact bearing_hear s client handle
  | expect signal => exact (Same.expect r s signal).bearing
  | signal signal => exact (Same.network r s _).bearing
  | retire e => exact bearing_of_effects rfl rfl (effects_of_works hworks)
  | ring => rfl

/-- whatever is done by others, or by none -/
theorem Touches.bearing (h : Touches who s t) (hwho : who ≠ some r) : t.bearing r = s.bearing r := by
  induction h with
  | refl => rfl
  | tail _ htouch ih => exact (htouch.bearing hwho).trans ih

end Session

/-! ### Where events are read -/

namespace Hub

variable {ε : Type} {hub : Hub ε} {place : Nat}

/-- the subscriber is there, and loses no event -/
def Keeps (hub : Hub ε) (place : Nat) : Prop :=
  hub.limit ≤ 0 ∧ ∃ queue, hub.subscriptions[place]? = some ⟨true, queue⟩

lemma Keeps.publish (h : hub.Keeps place) (event : ε) : (hub.publish event).Keeps place ∧
    (hub.publish event).waiting place = hub.waiting place ++ [event] := by
  obtain ⟨hlimit, queue, hget⟩ := h
  have hpush : push hub.limit queue event = queue ++ [event] := by
    unfold push isFull
    rw [decide_eq_false (by omega), Bool.false_and, if_neg (by decide)]
  have hthere : (hub.publish event).subscriptions[place]? = some ⟨true, queue ++ [event]⟩ := by
    simp [Hub.publish, hget, hpush]
  refine ⟨⟨hlimit, _, hthere⟩, ?_⟩
  unfold waiting
  rw [hthere, hget]
  rfl

end Hub

/-- where the events of a run are read -/
inductive Ear where
  /-- in what the run itself keeps of them -/
  | record
  /-- in the queue of a subscriber -/
  | subscriber (place : Nat)
  deriving DecidableEq, Repr

/-- the audience whose events are read there -/
def Ear.IsOf (ear : Ear) (audience : Audience) : Prop :=
  match ear with
  | .record => audience = .recorder []
  | .subscriber _ => audience = .hub

/-- someone who reads what a run tells -/
structure Reader where
  ear : Ear
  /-- what was read of the run before -/
  told : List Event
  /-- how much there was to read then -/
  past : Nat

namespace Session

variable {ν : Type} {s t u : Session ν} {r q e : Nat} {who : Option Nat} {errand : Errand} {cue : Cue}
  {ear : Ear} {reader : Reader}

/-- what there is to read -/
def heard (s : Session ν) (r : Nat) : Ear → List Event
  | .record => (s.runs[r]?.map Run.events).getD []
  | .subscriber place => s.hub.waiting place

/-- no event is lost there -/
def Carries (s : Session ν) : Ear → Prop
  | .record => True
  | .subscriber place => s.hub.Keeps place

/-- all that was read of a run so far -/
def voice (s : Session ν) (r : Nat) (reader : Reader) : List Event :=
  reader.told ++ (s.heard r reader.ear).drop reader.past

/-- every event of the run comes to the reader -/
structure Attends (s : Session ν) (r : Nat) (reader : Reader) : Prop where
  audience : ∃ run, s.runs[r]? = some run ∧ reader.ear.IsOf run.audience
  carries : s.Carries reader.ear
  past : reader.past ≤ (s.heard r reader.ear).length

/-! ### What tells nothing -/

/-- what the runs have told, and to whom -/
def airs (s : Session ν) : List (Audience × List Event) × Hub Event :=
  (s.runs.map fun run => (run.audience, run.events), s.hub)

lemma airs_modifyRun (s : Session ν) (q : Nat) {change : Run → Run}
    (h : ∀ run, (change run).audience = run.audience ∧ (change run).events = run.events) :
    (s.modifyRun q change).airs = s.airs := by
  refine congrArg (Prod.mk · _) ?_
  show (s.runs.modify q change).map (fun run => (run.audience, run.events)) = _
  rw [map_modify_of_comp id fun run => by simp [(h run).1, (h run).2], List.modify_id]

lemma airs_post (s : Session ν) (q : Nat) (message : Message) : (s.post q message).airs = s.airs := by
  obtain ⟨agenda, hposted⟩ := s.post_frame q message
  rw [hposted]
  exact airs_modifyRun s q fun _ => ⟨rfl, rfl⟩

lemma airs_hear (s : Session ν) (client : Nat) (handle : Handle) :
    (s.hear client handle).airs = s.airs :=
  hear_induction (p := fun t => t.airs = s.airs) rfl (fun _ => rfl)
    (fun q _ => airs_modifyRun s q fun _ => ⟨rfl, rfl⟩) fun t q ht => (airs_post t q _).trans ht

lemma airs_hearAll (s : Session ν) (client : Nat) (handles : List Handle) :
    (s.hearAll client handles).airs = s.airs :=
  hearAll_induction (p := fun t => t.airs = s.airs) rfl fun t handle _ =>
    (airs_hear t client handle).trans

lemma airs_expect (s : Session ν) (signal : Wait × Signal) : (s.expect signal).airs = s.airs := by
  unfold Session.expect
  split <;> rfl

lemma getElem?_airs (h : t.airs = s.airs) (r : Nat) :
    t.runs[r]?.map (fun run => (run.audience, run.events))
      = s.runs[r]?.map fun run => (run.audience, run.events) := by
  rw [← List.getElem?_map, ← List.getElem?_map]
  exact congrArg (·.1[r]?) h

lemma heard_of_airs (h : t.airs = s.airs) (r : Nat) (ear : Ear) : t.heard r ear = s.heard r ear := by
  cases ear with
  | record =>
    have hevents := congrArg (Option.map Prod.snd) (getElem?_airs h r)
    simp only [Option.map_map] at hevents
    exact congrArg (Option.getD · []) hevents
  | subscriber place => exact congrArg (fun airs => airs.2.waiting place) h

lemma voice_of_airs (h : t.airs = s.airs) : t.voice r reader = s.voice r reader := by
  rw [voice, voice, heard_of_airs h]

lemma Attends.of_airs (h : s.Attends r reader) (hsame : t.airs = s.airs) : t.Attends r reader := by
  obtain ⟨run, hget, hof⟩ := h.audience
  have hruns := getElem?_airs hsame r
  rw [hget] at hruns
  obtain ⟨run', hget', heq⟩ := Option.map_eq_some_iff.mp hruns
  refine ⟨⟨run', hget', ?_⟩, ?_, ?_⟩
  · rw [(Prod.mk.inj heq).1]
    exact hof
  · have hcarries := h.carries
    unfold Carries at hcarries ⊢
    rwa [show t.hub = s.hub from congrArg Prod.snd hsame]
  · rw [heard_of_airs hsame]
    exact h.past

/-! ### What a run tells -/

/-- an event is told, and read next -/
structure Utters (r : Nat) (reader : Reader) (event : Event) (s t : Session ν) : Prop where
  voice : t.voice r reader = s.voice r reader ++ [event]
  attends : t.Attends r reader
  errands : t.errands = s.errands
  agenda : t.agenda = s.agenda
  run : ∀ run, s.runs[r]? = some run →
    ∃ run', t.runs[r]? = some run' ∧ run'.outcome = run.outcome ∧ run'.deeds = run.deeds

lemma voice_concat (hpast : reader.past ≤ (s.heard r reader.ear).length) {event : Event}
    (hheard : t.heard r reader.ear = s.heard r reader.ear ++ [event]) :
    t.voice r reader = s.voice r reader ++ [event] := by
  rw [voice, voice, hheard, List.drop_append_of_le_length hpast, List.append_assoc]

/-- every event of the run is read next -/
theorem emit_attends (h : s.Attends r reader) (kind : EventKind) (message : String)
    (device : Option String) (data : Option Json) : ∃ (t : Session ν) (event : Event),
      s.emit r kind message device data = (t, none) ∧ event.kind = kind ∧ event.device = device ∧
        Utters r reader event s t := by
  obtain ⟨ear, told, past⟩ := reader
  obtain ⟨⟨run, hget, hof⟩, hcarries, hpast⟩ := h
  have hlonger : ∀ {t : Session ν} {event : Event}, t.heard r ear = s.heard r ear ++ [event] →
      past ≤ (t.heard r ear).length := by
    intro t event hheard
    rw [hheard, List.length_append]
    exact Nat.le_add_right_of_le hpast
  generalize hevent : Event.ofMoment s.agenda.now kind run.action.command message device data = event
  cases ear with
  | record =>
    have haudience : run.audience = .recorder [] := hof
    have hnew : (s.modifyRun r fun run => { run with
        emitted := run.emitted + 1, events := run.events ++ [event] }).runs[r]? = some { run with
          emitted := run.emitted + 1, events := run.events ++ [event] } := by
      rw [runs_modifyRun_self, hget]
      rfl
    have hheard : (s.modifyRun r fun run => { run with
        emitted := run.emitted + 1, events := run.events ++ [event] }).heard r .record
          = s.heard r .record ++ [event] := by
      unfold heard
      rw [hnew, hget]
      rfl
    refine ⟨_, event, ?_, hevent ▸ rfl, hevent ▸ rfl, voice_concat hpast hheard,
      ⟨⟨_, hnew, haudience⟩, trivial, hlonger hheard⟩, rfl, rfl, ?_⟩
    · simp only [Session.emit, hget, haudience, List.not_mem_nil, if_false, hevent]
    · intro run' hget'
      obtain rfl := Option.some.inj (hget.symm.trans hget')
      exact ⟨_, hnew, rfl, rfl⟩
  | subscriber place =>
    have haudience : run.audience = .hub := hof
    have hkeeps : s.hub.Keeps place := hcarries
    obtain ⟨hstill, hheard⟩ := hkeeps.publish event
    have hheard : ({ s with hub := s.hub.publish event } : Session ν).heard r (.subscriber place)
        = s.heard r (.subscriber place) ++ [event] := hheard
    refine ⟨{ s with hub := s.hub.publish event }, event, ?_, hevent ▸ rfl, hevent ▸ rfl,
      voice_concat hpast hheard, ⟨⟨run, hget, hof⟩, hstill, hlonger hheard⟩, rfl, rfl,
      fun run' hget' => ⟨run', hget', rfl, rfl⟩⟩
    simp only [Session.emit, hget, haudience, hevent]

/-! ### Whatever is done -/

/-- a run that tells something adds at most to its own record -/
lemma emit_cases (s : Session ν) (q : Nat) (kind : EventKind) (message : String)
    (device : Option String) (data : Option Json) :
    let t := (s.emit q kind message device data).1
    t.runs.map Run.audience = s.runs.map Run.audience ∧
      (t.hub = s.hub ∨ ∃ event, t.hub = s.hub.publish event) ∧
      (∀ r, s.heard r .record <+: t.heard r .record) ∧ ∀ r, q ≠ r → t.runs[r]? = s.runs[r]? := by
  obtain ⟨count, events, hub, hhub, htold⟩ := s.emit_frame q kind message device data
  rw [htold]
  refine ⟨?_, hhub, fun r => ?_, fun _ hq => runs_modifyRun_ne hq _⟩
  · show (s.runs.modify q _).map Run.audience = _
    rw [map_modify_of_comp id fun _ => by rfl, List.modify_id]
  · show _ <+: ((s.modifyRun q _).runs[r]?.map Run.events).getD []
    by_cases hq : q = r
    · subst hq
      rw [runs_modifyRun_self, heard]
      cases s.runs[q]? with
      | none => exact List.prefix_rfl
      | some run => exact List.prefix_append run.events events
    · rw [runs_modifyRun_ne hq]
      exact List.prefix_rfl

variable [Network ν]

/-- what is done tells nothing, or an event of a run -/
theorem Touch.airs_cases (h : Touch who s t) : t.airs = s.airs ∨
    ∃ q kind message device data, who = some q ∧ t = (s.emit q kind message device data).1 := by
  cases h with
  | change change mine told =>
    exact .inl (airs_modifyRun s _ fun run => ⟨(told run).1, (told run).2.2⟩)
  | emit kind message device data mine => exact .inr ⟨_, kind, message, device, data, mine, rfl⟩
  | stroke own mine stroke =>
    cases stroke with
    | change whose change core told =>
      exact .inl (airs_modifyRun s _ fun run => ⟨congrArg Run.Core.audience (core run), (told run).2⟩)
    | emit whose kind_eq message data =>
      exact .inr ⟨_, _, message, _, data, mine.symm.trans whose, rfl⟩
    | hear handle => exact .inl (airs_hear s _ handle)
    | _ => exact .inl rfl
  | hear client handle => exact .inl (airs_hear s client handle)
  | expect signal => exact .inl (airs_expect s signal)
  | _ => exact .inl rfl

/-- each run keeps its audience -/
theorem Touches.audiences (h : Touches who s t) :
    t.runs.map Run.audience = s.runs.map Run.audience := by
  induction h with
  | refl => rfl
  | tail _ htouch ih =>
    refine Eq.trans ?_ ih
    rcases htouch.airs_cases with hsame | ⟨q, kind, message, device, data, -, rfl⟩
    · have haudiences := congrArg (fun airs => airs.1.map Prod.fst) hsame
      simp only [airs, List.map_map] at haudiences
      exact haudiences
    · exact (emit_cases _ q kind message device data).1

/-- no event is lost where none was lost before -/
theorem Touches.carries (h : Touches who s t) (hs : s.Carries ear) : t.Carries ear := by
  cases ear with
  | record => trivial
  | subscriber place =>
    induction h with
    | refl => exact hs
    | @tail t u _ htouch ih =>
      have ih : t.hub.Keeps place := ih
      show u.hub.Keeps place
      rcases htouch.airs_cases with hsame | ⟨q, kind, message, device, data, -, rfl⟩
      · rwa [show u.hub = t.hub from congrArg Prod.snd hsame]
      · rcases (emit_cases t q kind message device data).2.1 with hhub | ⟨event, hhub⟩
        · rwa [hhub]
        · rw [hhub]
          exact (ih.publish event).1

/-- what a run has told stays on its record -/
theorem Touches.record_grows (h : Touches who s t) :
    s.heard r .record <+: t.heard r .record := by
  induction h with
  | refl => exact List.prefix_rfl
  | @tail t u _ htouch ih =>
    refine ih.trans ?_
    rcases htouch.airs_cases with hsame | ⟨q, kind, message, device, data, -, rfl⟩
    · exact (heard_of_airs hsame r .record).symm ▸ List.prefix_rfl
    · exact (emit_cases t q kind message device data).2.2.1 r

/-- and others add nothing to it -/
theorem Touches.record (h : Touches who s t) (hwho : who ≠ some r) :
    t.heard r .record = s.heard r .record := by
  induction h with
  | refl => rfl
  | @tail t u _ htouch ih =>
    refine Eq.trans ?_ ih
    rcases htouch.airs_cases with hsame | ⟨q, kind, message, device, data, rfl, rfl⟩
    · exact heard_of_airs hsame r .record
    · unfold heard
      rw [(emit_cases t q kind message device data).2.2.2 r fun hq => hwho (congrArg some hq)]

end Session

end Lamplighter
