import Lamplighter.Proofs.Network.Recorded
import Lamplighter.Proofs.Run.Strokes

/-!
# Backdrops: what is about the runs and not about their effects

* `Session.backdrop`    the cores of the runs, who the errands are of, who listens, the line and the
                        turn, the store, the cues that the runs set for themselves, and the searches
                        for bulbs on record;
* `Strokes.backdrop`    whatever an errand does leaves all of this as it is;
* `Backdrop.Deal`       one thing that a run does of its own, on the backdrop alone;
* `backdrop_perform`    a cue for no run leaves the backdrop as it is;
* `does_wake`, `does_drained`, `launches_start`   each step of a run comes to deals, and nothing else.
-/

set_option linter.unusedSectionVars false

namespace Lamplighter

namespace Cue

/-- the cue is set by a run for itself, or for another run -/
def isInner : Cue → Bool
  | .clock _ | .tick _ | .enter _ | .takeTurn _ => true
  | _ => false

/-- the run that is to do something of its own -/
def runOf? : Cue → Option Nat
  | .clock r | .tick r | .wake r | .drained r _ | .enter r | .takeTurn r => some r
  | _ => none

lemma isInner_of_isSetFor {cue : Cue} {e : Nat} {errand : Errand} (h : cue.isSetFor e errand) :
    cue.isInner = false := by
  rcases h with h | rfl | ⟨r, -, rfl | ⟨fault, rfl⟩⟩
  · cases cue <;> first | rfl | simp [Cue.isAwaitedBy] at h
  · rfl
  · rfl
  · rfl

end Cue

/-- what is about the runs and not about their effects -/
structure Backdrop where
  runs : List Run.Core
  /-- the run, the client and the bulb of each errand -/
  errands : List (Option Nat × Nat × Handle)
  listeners : List (Nat × Listener)
  line : List Nat
  turn : Option Nat
  store : Snapshot.Store
  /-- the cues that the runs set for themselves and for one another -/
  cues : Agenda Cue
  searches : List Contact

namespace Session

variable {ν : Type} [Network ν] {s t u : Session (Recorded ν)} {e r q : Nat} {errand : Errand}
  {run : Run} {fault : Fault}

def backdrop (s : Session (Recorded ν)) : Backdrop where
  runs := s.runs.map Run.core
  errands := s.errands.map fun errand => (errand.run, errand.client, errand.handle)
  listeners := s.listeners
  line := s.line
  turn := s.turn
  store := s.store
  cues := s.agenda.drop fun cue => !cue.isInner
  searches := s.network.searches

/-! ### What leaves the backdrop as it is -/

/-- a run is changed, but for its core -/
lemma backdrop_modifyRun (s : Session (Recorded ν)) (q : Nat) {change : Run → Run}
    (h : ∀ run, (change run).core = run.core) : (s.modifyRun q change).backdrop = s.backdrop := by
  refine congrArg (Backdrop.mk · _ _ _ _ _ _ _) ?_
  show (s.runs.modify q change).map Run.core = _
  rw [map_modify_of_comp id h, List.modify_id]

lemma backdrop_modifyErrand (s : Session (Recorded ν)) (e : Nat) {change : Errand → Errand}
    (h : ∀ errand, (change errand).run = errand.run ∧ (change errand).client = errand.client ∧
      (change errand).handle = errand.handle) : (s.modifyErrand e change).backdrop = s.backdrop := by
  refine congrArg (Backdrop.mk _ · _ _ _ _ _ _) ?_
  show (s.errands.modify e change).map (fun errand => (errand.run, errand.client, errand.handle)) = _
  rw [map_modify_of_comp id (fun errand => by
    obtain ⟨hrun, hclient, hhandle⟩ := h errand
    simp [hrun, hclient, hhandle]), List.modify_id]

lemma backdrop_setStage (s : Session (Recorded ν)) (e : Nat) (stage : Stage) :
    (s.setStage e stage).backdrop = s.backdrop :=
  backdrop_modifyErrand s e fun _ => ⟨rfl, rfl, rfl⟩

/-- the agenda is changed, but for the cues that the runs set -/
lemma backdrop_agenda {agenda : Agenda Cue}
    (h : (agenda.drop fun cue => !cue.isInner) = s.agenda.drop fun cue => !cue.isInner) :
    ({ s with agenda } : Session (Recorded ν)).backdrop = s.backdrop :=
  congrArg (Backdrop.mk _ _ _ _ _ _ · _) h

lemma backdrop_soon (s : Session (Recorded ν)) (turns : Nat) {cue : Cue} (h : cue.isInner = false) :
    (s.soon turns cue).backdrop = s.backdrop :=
  backdrop_agenda (Agenda.drop_soon (by simp [h]) turns)

lemma backdrop_after (s : Session (Recorded ν)) (duration : Duration) (turns : Nat) {cue : Cue}
    (h : cue.isInner = false) : ({ s with
      agenda := s.agenda.after duration turns cue } : Session (Recorded ν)).backdrop = s.backdrop :=
  backdrop_agenda (Agenda.drop_after (by simp [h]) duration turns)

lemma backdrop_pause (s : Session (Recorded ν)) (duration : Duration) {cue : Cue}
    (h : cue.isInner = false) : ({ s with
      agenda := s.agenda.pause duration cue } : Session (Recorded ν)).backdrop = s.backdrop :=
  backdrop_agenda (Agenda.drop_pause (by simp [h]) duration)

lemma backdrop_dropAwaited (s : Session (Recorded ν)) (e : Nat) :
    (s.dropAwaited e).backdrop = s.backdrop := by
  refine backdrop_agenda (Agenda.drop_drop _ ?_)
  intro cue hcue
  cases cue <;> first | rfl | cases hcue

lemma backdrop_network (s : Session (Recorded ν)) {network : Recorded ν}
    (h : network.searches = s.network.searches) :
    ({ s with network } : Session (Recorded ν)).backdrop = s.backdrop :=
  congrArg (Backdrop.mk _ _ _ _ _ _ _) h

lemma backdrop_emit (s : Session (Recorded ν)) (q : Nat) (kind : EventKind) (message : String)
    (device : Option String) (data : Option Json) :
    (s.emit q kind message device data).1.backdrop = s.backdrop := by
  obtain ⟨_, _, _, -, htold⟩ := s.emit_frame q kind message device data
  rw [htold]
  exact backdrop_modifyRun s q fun _ => rfl

lemma backdrop_post (s : Session (Recorded ν)) (q : Nat) {message : Message} (h : message ≠ .tick) :
    (s.post q message).backdrop = s.backdrop := by
  have hposted : (s.posting q message).backdrop = s.backdrop :=
    backdrop_modifyRun s q fun _ => by simp [Run.core, h]
  cases s.post_course q message with
  | absent _ result => rw [result]
  | wakes _ _ result => rw [result, backdrop_soon _ 0 rfl, hposted]
  | queued _ _ result => rw [result, hposted]

lemma backdrop_hear (s : Session (Recorded ν)) (client : Nat) (handle : Handle) :
    (s.hear client handle).backdrop = s.backdrop :=
  hear_induction (p := fun t => t.backdrop = s.backdrop) rfl (fun _ => rfl)
    (fun q _ => backdrop_modifyRun s q fun _ => by simp [Run.core])
    fun t q ht => (backdrop_post t q (by simp)).trans ht

lemma backdrop_hearAll (s : Session (Recorded ν)) (client : Nat) (handles : List Handle) :
    (s.hearAll client handles).backdrop = s.backdrop :=
  hearAll_induction (p := fun t => t.backdrop = s.backdrop) rfl fun t handle _ =>
    (backdrop_hear t client handle).trans

lemma backdrop_sight (s : Session (Recorded ν)) (client : Nat) (sighting : Sighting) :
    (s.sight client sighting).backdrop = s.backdrop := by
  have hexpect : ∀ (s : Session (Recorded ν)) (signal : Wait × Signal),
      (s.expect signal).backdrop = s.backdrop := by
    intro s signal
    unfold Session.expect
    split
    · exact backdrop_soon s 0 rfl
    · exact backdrop_after s _ 0 rfl
    · exact backdrop_pause s _ rfl
  exact sight_induction (p := fun t => t.backdrop = s.backdrop) (backdrop_hearAll s client _)
    fun t signal _ => (hexpect t signal).trans

theorem Stroke.backdrop (h : Stroke e errand s t) : t.backdrop = s.backdrop := by
  cases h with
  | stage stage => exact backdrop_setStage s e stage
  | drop => exact backdrop_dropAwaited s e
  | soon turns cue mine => exact backdrop_soon s turns (Cue.isInner_of_isSetFor mine)
  | after duration turns cue mine =>
    exact backdrop_after s duration turns (Cue.isInner_of_isSetFor mine)
  | pause duration cue mine => exact backdrop_pause s duration (Cue.isInner_of_isSetFor mine)
  | change mine change core told => exact backdrop_modifyRun s _ core
  | emit mine kind_eq message data => exact backdrop_emit s _ _ _ _ _
  | send request => exact backdrop_network s (Recorded.searches_send ..)
  | settle request answer => exact backdrop_network s (Recorded.searches_settle ..)
  | hear handle => exact backdrop_hear s _ handle

/-- whatever an errand does, what is about the runs stays as it is -/
theorem Strokes.backdrop (h : Strokes e errand s t) : t.backdrop = s.backdrop := by
  induction h with
  | refl => rfl
  | tail _ hlast ih => exact hlast.backdrop.trans ih

lemma backdrop_callOffAll (s : Session (Recorded ν)) (q : Nat) :
    (s.callOffAll q).backdrop = s.backdrop := by
  refine callOffAll_congr Session.backdrop ?_ s q
  intro s e stage
  rw [backdrop_setStage, backdrop_dropAwaited]

end Session

/-! ### What a run does of its own -/

namespace Backdrop

/-- the core of a run is changed -/
def modify (b : Backdrop) (r : Nat) (change : Run.Core → Run.Core) : Backdrop :=
  { b with runs := b.runs.modify r change }

/-- a run starts to look for bulbs -/
def seek (b : Backdrop) (r client : Nat) : Backdrop :=
  { b.modify r fun core => { core with phase := .discovering } with
    searches := b.searches ++ [.start client] }

/-- a run stops looking for bulbs -/
def stop (b : Backdrop) (r client : Nat) : Backdrop :=
  { b.modify r fun core =>
      { core with phase := if core.phase = .discovering then .draining else core.phase } with
    cues := b.cues.drop fun cue => cue.isClockOf r
    listeners := b.listeners.filter fun l => l.1 != client
    searches := b.searches ++ [.stop client] }

/-- a run gives its turn to the next one in the line -/
def pass (b : Backdrop) (r : Nat) : Backdrop :=
  if b.turn = some r then
    match b.line with
    | [] => { b with turn := none }
    | next :: _ => { b with turn := none, cues := b.cues.soon 0 (.takeTurn next) }
  else b

/-- a run ends -/
def finish (b : Backdrop) (r : Nat) (outcome : Except Fault Summary) : Backdrop :=
  (b.modify r fun core => { core with outcome := some outcome }).pass r

/-- one thing that a run does of its own -/
inductive Deal (r : Nat) (b : Backdrop) : Backdrop → Prop
  /-- it notes when it starts, or what it restores -/
  | ready (started : Moment → Moment) (saved : Option Saved → Option Saved) :
    Deal r b (b.modify r fun core =>
      { core with started := started core.started, saved := saved core.saved })
  | seek {core : Run.Core} (here : b.runs[r]? = some core) (idle : core.phase = .idle) :
    Deal r b (b.seek r core.client)
  | listen (client : Nat) :
    Deal r b { b with listeners := Assoc.put b.listeners client (.run r) }
  | clock {core : Run.Core} (here : b.runs[r]? = some core) (looks : core.phase = .discovering) :
    Deal r b { b with cues := b.cues.soon 0 (.clock r) }
  | tick {core : Run.Core} (here : b.runs[r]? = some core) (looks : core.phase = .discovering) :
    Deal r b (b.modify r fun core => { core with ticks := core.ticks + 1 })
  /-- the idle clock is set, for now or for later -/
  | wind {core : Run.Core} (cues : Agenda Cue) (here : b.runs[r]? = some core)
    (looks : core.phase = .discovering)
    (line : cues.line = b.cues.line ∨ cues.line = b.cues.line ++ [⟨0, .tick r⟩])
    (timers : ∀ timer ∈ cues.timers, timer ∈ b.cues.timers ∨ timer.entry.cue = .tick r) :
    Deal r b { b with cues }
  | dispatch (client : Nat) (handle : Handle) :
    Deal r b { b with errands := b.errands ++ [(some r, client, handle)] }
  | stop {core : Run.Core} (here : b.runs[r]? = some core) (looks : core.phase = .discovering) :
    Deal r b (b.stop r core.client)
  | file (store : Snapshot.Store) : Deal r b { b with store }
  /-- the work is done -/
  | complete {core : Run.Core} (here : b.runs[r]? = some core) (drains : core.phase = .draining) :
    Deal r b (b.modify r fun core => { core with phase := .finished })
  | finish {core : Run.Core} (here : b.runs[r]? = some core) (rests : core.phase ≠ .discovering)
    (outcome : Except Fault Summary) : Deal r b (b.finish r outcome)

abbrev Deals (r : Nat) : Backdrop → Backdrop → Prop :=
  Relation.ReflTransGen (Deal r)

lemma runs_pass (b : Backdrop) (r : Nat) : (b.pass r).runs = b.runs := by
  unfold pass
  split
  · split <;> rfl
  · rfl

end Backdrop

namespace Session

open Backdrop Deeds

variable {ν : Type} [Network ν] {s t u : Session (Recorded ν)} {e r q : Nat} {errand : Errand}
  {run : Run} {fault : Fault} {outcome : Except Fault Summary}

/-- the core of a run is changed, and maybe something else in it -/
lemma backdrop_modifyCore (s : Session (Recorded ν)) (q : Nat) {change : Run → Run}
    (change' : Run.Core → Run.Core) (h : ∀ run, (change run).core = change' run.core) :
    (s.modifyRun q change).backdrop = s.backdrop.modify q change' := by
  refine congrArg (Backdrop.mk · _ _ _ _ _ _ _) ?_
  exact map_modify_of_comp change' h s.runs q

lemma backdrop_pass (s : Session (Recorded ν)) (q : Nat) :
    (s.pass q).backdrop = s.backdrop.pass q := by
  unfold Session.pass Backdrop.pass
  split
  · rename_i hturn
    rw [if_pos (show s.backdrop.turn = some q from hturn)]
    cases hline : s.line with
    | nil =>
      rw [show s.backdrop.line = [] from hline]
      rfl
    | cons next rest =>
      rw [show s.backdrop.line = next :: rest from hline]
      exact congrArg (Backdrop.mk _ _ _ _ _ _ · _) (Agenda.drop_soon_kept (by rfl) 0)
  · rename_i hturn
    rw [if_neg (show s.backdrop.turn ≠ some q from hturn)]

lemma backdrop_endRun (s : Session (Recorded ν)) (q : Nat) (outcome : Except Fault Summary) :
    (s.endRun q outcome).backdrop = s.backdrop.finish q outcome := by
  rw [endRun_eq, backdrop_pass, backdrop_modifyCore s q
    (fun core => { core with outcome := some outcome }) fun _ => rfl]
  rfl

lemma backdrop_stopSearch (s : Session (Recorded ν)) (q : Nat) (run : Run) :
    (s.stopSearch q run).backdrop = s.backdrop.stop q run.client := by
  have hstopped : (s.stopping q).backdrop = _ := backdrop_modifyCore s q (fun core =>
    { core with phase := if core.phase = .discovering then .draining else core.phase }) fun _ => rfl
  have hcues : ((s.agenda.drop fun cue => cue.isClockOf q).drop fun cue => !cue.isInner)
      = (s.agenda.drop fun cue => !cue.isInner).drop fun cue => cue.isClockOf q := by
    simp [Agenda.drop, List.filter_filter, Bool.and_comm]
  rw [stopSearch_eq]
  exact Backdrop.mk.injEq .. ▸ ⟨congrArg Backdrop.runs hstopped, rfl, rfl, rfl, rfl, rfl, hcues,
    Recorded.searches_stop ..⟩

/-! ### A run goes on -/

/-- the run is in such a phase, and has such a client -/
def IsIn (s : Session (Recorded ν)) (r : Nat) (phase : Phase) (client : Nat) : Prop :=
  ∃ core, s.backdrop.runs[r]? = some core ∧ core.phase = phase ∧ core.client = client

lemma IsIn.of_runs {phase : Phase} {client : Nat} (h : s.IsIn r phase client)
    (hruns : t.backdrop.runs = s.backdrop.runs) : t.IsIn r phase client := by
  unfold IsIn
  rw [hruns]
  exact h

lemma IsIn.modify {phase phase' : Phase} {client : Nat} (change : Run.Core → Run.Core)
    (h : s.IsIn r phase client) (hruns : t.backdrop.runs = s.backdrop.runs.modify r change)
    (hchange : ∀ core, core.phase = phase →
      (change core).phase = phase' ∧ (change core).client = core.client) : t.IsIn r phase' client := by
  obtain ⟨core, hget, hphase, hclient⟩ := h
  obtain ⟨hphase', hclient'⟩ := hchange core hphase
  refine ⟨change core, ?_, hphase', hclient'.trans hclient⟩
  rw [hruns, List.getElem?_modify_eq, hget]
  rfl

lemma deals_stopSearch (h : s.IsIn r .discovering run.client) :
    Deals r s.backdrop (s.stopSearch r run).backdrop ∧
      (s.stopSearch r run).IsIn r .draining run.client := by
  have hstopped := backdrop_stopSearch s r run
  constructor
  · obtain ⟨core, hget, hphase, hclient⟩ := h
    rw [hstopped, ← hclient]
    exact .single (.stop hget hphase)
  · exact h.modify _ (congrArg Backdrop.runs hstopped) fun core hphase => by simp [hphase]

lemma deals_endRun {phase : Phase} {client : Nat} (h : s.IsIn r phase client)
    (hphase : phase ≠ .discovering) (outcome : Except Fault Summary) :
    Deals r s.backdrop (s.endRun r outcome).backdrop := by
  obtain ⟨core, hget, rfl, hclient⟩ := h
  rw [backdrop_endRun]
  exact .single (.finish hget hphase outcome)

lemma IsIn.endRun {phase : Phase} {client : Nat} (h : s.IsIn r phase client)
    (outcome : Except Fault Summary) : (s.endRun r outcome).IsIn r phase client := by
  refine h.modify (fun core => { core with outcome := some outcome }) ?_
    fun core hcore => ⟨hcore, rfl⟩
  rw [backdrop_endRun]
  exact Backdrop.runs_pass _ r

/-- a run does something of its own: it goes on without having finished, or it closes once it is
draining -/
inductive Does (r : Nat) (s t : Session (Recorded ν)) : Prop
  | goesOn {phase : Phase} {client : Nat} (deals : Deals r s.backdrop t.backdrop)
    (isIn : t.IsIn r phase client) (unfinished : phase ≠ .finished)
  | closes {u : Session (Recorded ν)} {run : Run} (deals : Deals r s.backdrop u.backdrop)
    (here : u.runs[r]? = some run) (drains : run.phase = .draining) (closed : t = u.close r run)

lemma Does.after {b : Backdrop} (h : Does r t u) (hdeals : Deals r s.backdrop b)
    (hb : t.backdrop = b) : Does r s u := by
  subst hb
  cases h with
  | goesOn deals isIn unfinished => exact .goesOn (hdeals.trans deals) isIn unfinished
  | closes deals here drains closed => exact .closes (hdeals.trans deals) here drains closed

lemma does_endRun {phase : Phase} {client : Nat} (h : s.IsIn r phase client)
    (hphase : phase ≠ .discovering) (hopen : phase ≠ .finished) (outcome : Except Fault Summary) :
    Does r s (s.endRun r outcome) :=
  .goesOn (deals_endRun h hphase outcome) (h.endRun outcome) hopen

lemma does_abort (h : s.IsIn r .discovering run.client) (fault : Fault) :
    Does r s (s.abort r run fault) := by
  have hnoted : (s.note r .aborted).backdrop = s.backdrop :=
    backdrop_modifyRun s r fun run => by simp [Run.core]
  obtain ⟨hstopped, hdrains⟩ := deals_stopSearch (h.of_runs (congrArg Backdrop.runs hnoted))
  have hcalled := backdrop_callOffAll ((s.note r .aborted).stopSearch r run) r
  rw [hnoted] at hstopped
  exact (does_endRun (hdrains.of_runs (congrArg Backdrop.runs hcalled)) (by decide) (by decide)
    (.error fault)).after hstopped hcalled

lemma finalize_cases (s : Session (Recorded ν)) (q : Nat) (run : Run) :
    ∃ store, (s.finalize q run).1.backdrop = { s.backdrop with store } := by
  obtain ⟨store, hfiled | ⟨message, htold⟩⟩ := s.finalize_frame q run
  · rw [hfiled]
    exact ⟨store, rfl⟩
  · rw [htold]
    exact ⟨store, backdrop_emit _ q .deviceReport message none none⟩

lemma deals_sumUp (h : s.IsIn r .finished run.client) (text : String) :
    Deals r s.backdrop (s.sumUp r text).backdrop ∧ (s.sumUp r text).IsIn r .finished run.client := by
  have hemit := backdrop_emit s r .runFinished text none none
  have hended : ∀ t : Session (Recorded ν), t.backdrop = s.backdrop → ∀ outcome,
      Deals r s.backdrop (t.endRun r outcome).backdrop ∧
        (t.endRun r outcome).IsIn r .finished run.client := by
    intro t ht outcome
    have hthere := h.of_runs (congrArg Backdrop.runs ht)
    have hdeals := deals_endRun hthere (by decide) outcome
    rw [ht] at hdeals
    exact ⟨hdeals, hthere.endRun outcome⟩
  cases sumUp_course s r text with
  | absent said gone result =>
    rw [result]
    exact ⟨by rw [hemit], h.of_runs (congrArg Backdrop.runs hemit)⟩
  | mute said result | ends said here result =>
    rw [result]
    exact hended _ hemit _

/-- a run closes, and has finished just if nothing went wrong with the work at the end -/
theorem deals_close (h : s.IsIn r .draining run.client) :
    Deals r s.backdrop (s.close r run).backdrop ∧
      (s.close r run).IsIn r (if ((s.clearAway r).finalize r run).2 = none then .finished
        else .draining) run.client := by
  have hsettled : (s.clearAway r).backdrop = s.backdrop :=
    backdrop_modifyRun s r fun run => by simp [Run.core, clearing, List.count_eq_zero]
  obtain ⟨store, hfiled⟩ := finalize_cases (s.clearAway r) r run
  rw [hsettled] at hfiled
  have hdeal : Deals r s.backdrop ((s.clearAway r).finalize r run).1.backdrop := by
    rw [hfiled]
    exact .single (.file store)
  have hdrains : ((s.clearAway r).finalize r run).1.IsIn r .draining run.client :=
    h.of_runs (by rw [hfiled])
  cases close_course s r run with
  | fails finalized result =>
    rw [result, finalized, if_neg (Option.some_ne_none _)]
    exact ⟨hdeal.trans (deals_endRun hdrains (by decide) _), hdrains.endRun _⟩
  | sums finalized result =>
    rw [result, if_pos finalized]
    revert hdeal hdrains
    generalize ((s.clearAway r).finalize r run).1 = t
    intro hdeal hdrains
    have hfinished : (t.modifyRun r fun run => { run with phase := .finished }).backdrop = _ :=
      backdrop_modifyCore t r (fun core => { core with phase := .finished }) fun _ => rfl
    obtain ⟨hsums, hends⟩ := deals_sumUp (hdrains.modify _ (congrArg Backdrop.runs hfinished)
      fun core _ => ⟨rfl, rfl⟩) ("Finishing action " ++ run.action.verb.word)
    rw [hfinished] at hsums
    obtain ⟨core, hget, hphase, hclient⟩ := hdrains
    exact ⟨(hdeal.tail (.complete hget hphase)).trans hsums, hends⟩

lemma isIn_core (hget : s.runs[r]? = some run) : s.IsIn r run.phase run.client := by
  refine ⟨run.core, ?_, rfl, rfl⟩
  show (s.runs.map Run.core)[r]? = _
  rw [List.getElem?_map, hget]
  rfl

lemma IsIn.eq_core {phase : Phase} {client : Nat} (h : s.IsIn r phase client)
    (hget : s.runs[r]? = some run) : run.phase = phase ∧ run.client = client := by
  obtain ⟨core, hcore, rfl, rfl⟩ := h
  obtain ⟨core', hcore', hphase, hclient⟩ := isIn_core hget
  obtain rfl := Option.some.inj (hcore.symm.trans hcore')
  exact ⟨hphase.symm, hclient.symm⟩

lemma does_drain (h : s.IsIn r .discovering run.client) : Does r s (s.drain r run) := by
  obtain ⟨hstopped, hdrains⟩ := deals_stopSearch h
  have hwaits : ∀ t : Session (Recorded ν), t.backdrop = (s.stopSearch r run).backdrop →
      Does r s t := by
    intro t ht
    refine .goesOn ?_ (hdrains.of_runs (congrArg Backdrop.runs ht)) (by decide)
    rw [ht]
    exact hstopped
  cases drain_course s r run with
  | absent ended gone result =>
    rw [result]
    exact hwaits _ rfl
  | closes ended here result => exact .closes hstopped here (hdrains.eq_core here).1 result
  | harmed raised result | calm busy unharmed ended result =>
    rw [result]
    exact hwaits _ (backdrop_soon _ 1 rfl)
  | gathers unharmed unended result =>
    rw [result]
    exact hwaits _ (backdrop_modifyRun _ r fun _ => rfl)

lemma backdrop_dispatch (s : Session (Recorded ν)) (r : Nat) (run : Run) (handle : Handle) :
    (s.dispatch r run handle).backdrop
      = { s.backdrop with errands := s.backdrop.errands ++ [(some r, run.client, handle)] } := by
  unfold Session.dispatch
  rw [backdrop_soon _ 0 rfl]
  exact congrArg (Backdrop.mk _ · _ _ _ _ _ _) (by simp [Session.backdrop])

/-- by induction on the messages that are left; as long as there is one, the run looks for bulbs -/
theorem does_handleAll (h : s.IsIn r .discovering run.client) (messages : List Message) :
    Does r s (s.handleAll r run messages) := by
  have hsame : ∀ (s u : Session (Recorded ν)), s.IsIn r .discovering run.client →
      u.backdrop = s.backdrop → u.IsIn r .discovering run.client :=
    fun s u h hu => h.of_runs (congrArg Backdrop.runs hu)
  induction messages generalizing s with
  | nil =>
    have hwaits : (s.handleAll r run []).backdrop = s.backdrop :=
      backdrop_modifyRun s r fun _ => rfl
    exact .goesOn (by rw [hwaits]) (hsame s _ h hwaits) (by decide)
  | cons message rest ih =>
    have htaken : ∀ current, (s.take r current message rest).backdrop = s.backdrop :=
      fun current => backdrop_modifyRun s r fun run => by simp [Run.core]
    have hsaid : ∀ current handle,
        ((s.take r current message rest).sayMatch r handle).1.backdrop = s.backdrop :=
      fun current handle =>
        (backdrop_emit _ r .deviceMatched _ (some handle.name) none).trans (htaken current)
    cases handleAll_course s r run message rest with
    | absent gone result =>
      rw [result]
      exact .goesOn .refl h (by decide)
    | breaksOff here matched said result =>
      rw [result]
      exact (does_abort (hsame s _ h (hsaid _ _)) _).after .refl (hsaid _ _)
    | @acts current handle here matched said result =>
      rw [result]
      have hdispatched := backdrop_dispatch ((s.take r current message rest).sayMatch r handle).1 r run
        handle
      rw [hsaid] at hdispatched
      exact (ih (h.of_runs (by rw [hdispatched]))).after
        (.single (.dispatch run.client handle)) hdispatched
    | goesOn here matched looks result =>
      rw [result]
      exact (ih (hsame s _ h (htaken _))).after .refl (htaken _)
    | drains here matched looked result =>
      rw [result]
      exact (does_drain (hsame s _ h (htaken _))).after .refl (htaken _)

/-! ### A run starts -/

lemma backdrop_prepare (s : Session (Recorded ν)) (r : Nat) (run : Run) :
    (s.prepare r run).1.backdrop = s.backdrop := by
  rcases prepare_cases s r run with heq | heq
  · rw [heq]
  · rw [heq]
    exact backdrop_emit s r .deviceReport _ none none

/-- a client that listens for bulbs tells the network so, and is heard if nothing goes wrong -/
lemma listen_cases (s : Session (Recorded ν)) (client : Nat) (listener : Listener) :
    ∃ listeners, (s.listen client listener).1.backdrop = { s.backdrop with
        listeners, searches := s.backdrop.searches ++ [.start client] } ∧
      (listeners = s.backdrop.listeners ∨
        listeners = Assoc.put s.backdrop.listeners client listener) := by
  have hstart := Recorded.searches_start s.network client
  unfold Session.listen
  revert hstart
  generalize Network.start s.network client = started
  obtain ⟨network, fault | sighting⟩ := started
  · intro hstart
    exact ⟨_, congrArg (Backdrop.mk _ _ _ _ _ _ _) hstart, .inl rfl⟩
  · intro hstart
    exact ⟨_, (backdrop_sight _ client sighting).trans
      (congrArg (Backdrop.mk _ _ _ _ _ _ _) hstart), .inr rfl⟩

/-- a run looks for bulbs, and looks into its inbox for those that were found at once -/
theorem does_search (h : s.IsIn r .idle run.client) :
    ∃ u : Session (Recorded ν), Deals r (s.backdrop.seek r run.client) u.backdrop ∧
      u.IsIn r .discovering run.client ∧ Does r u (s.search r run) := by
  have hlooking : (s.seeking r).backdrop = _ :=
    backdrop_modifyCore s r (fun core => { core with phase := .discovering }) fun _ => rfl
  obtain ⟨listeners, hlistened, hlisteners⟩ := listen_cases (s.seeking r) run.client (.run r)
  have hsought : Deals r (s.backdrop.seek r run.client)
      ((s.seeking r).listen run.client (.run r)).1.backdrop := by
    rw [hlistened, hlooking]
    rw [hlooking] at hlisteners
    rcases hlisteners with rfl | rfl
    · exact .refl
    · exact .single (.listen run.client)
  have hlooks : ((s.seeking r).listen run.client (.run r)).1.IsIn r .discovering run.client :=
    h.modify (fun core => { core with phase := .discovering })
      (by rw [hlistened, hlooking]; rfl) fun core _ => ⟨rfl, rfl⟩
  refine ⟨_, hsought, hlooks, ?_⟩
  cases search_course s r run with
  | breaksOff listened result =>
    rw [result]
    exact does_abort hlooks _
  | absent listened gone result =>
    rw [result]
    exact .goesOn .refl hlooks (by decide)
  | @looks current listened here result =>
    rw [result]
    revert hlooks here
    generalize ((s.seeking r).listen run.client (.run r)).1 = t
    intro hlooks hget
    have hclock : (t.soon 0 (.clock r)).backdrop
        = { t.backdrop with cues := t.backdrop.cues.soon 0 (.clock r) } :=
      congrArg (Backdrop.mk _ _ _ _ _ _ · _) (Agenda.drop_soon_kept (by rfl) 0)
    have hhere : (t.soon 0 (.clock r)).IsIn r .discovering current.client :=
      (hlooks.eq_core hget).2 ▸ hlooks.of_runs (by rw [hclock])
    have hwoken := does_handleAll hhere current.inbox
    obtain ⟨core, hcore, hphase, -⟩ := hlooks
    exact hwoken.after (.single (.clock hcore hphase)) hclock

/-- what a session has besides its runs, its store and its hub -/
def setting (s : Session (Recorded ν)) :
    Agenda Cue × List Errand × List (Nat × Listener) × Recorded ν × Option Nat :=
  (s.agenda, s.errands, s.listeners, s.network, s.turn)

lemma setting_emit (s : Session (Recorded ν)) (q : Nat) (kind : EventKind) (message : String)
    (device : Option String) (data : Option Json) :
    (s.emit q kind message device data).1.setting = s.setting := by
  obtain ⟨_, _, _, -, htold⟩ := s.emit_frame q kind message device data
  rw [htold]
  rfl

lemma setting_prepare (s : Session (Recorded ν)) (r : Nat) (run : Run) :
    (s.prepare r run).1.setting = s.setting := by
  rcases prepare_cases s r run with heq | heq
  · rw [heq]
  · rw [heq]
    exact setting_emit s r .deviceReport _ none none

/-- a run that has not looked for bulbs starts: it ends at once, or looks for bulbs -/
inductive Launches (r client : Nat) (s t : Session (Recorded ν)) : Prop
  | fails {u : Session (Recorded ν)} {fault : Fault}
    (deals : Deals r s.backdrop u.backdrop) (idle : u.IsIn r .idle client)
    (same : u.setting = s.setting) (failed : t = u.endRun r (.error fault))
  | seeks {u v : Session (Recorded ν)} (before : Deals r s.backdrop u.backdrop)
    (idle : u.IsIn r .idle client) (deals : Deals r (u.backdrop.seek r client) v.backdrop)
    (looks : v.IsIn r .discovering client) (does : Does r v t)

/-- the start of a run that has not looked for bulbs -/
theorem launches_start (h : s.IsIn r .idle run.client) :
    Launches r run.client s (s.start r run) := by
  have hready : ∀ (t : Session (Recorded ν)) (change : Run → Run) (started : Moment → Moment)
      (saved : Option Saved → Option Saved), t.IsIn r .idle run.client →
      (∀ run, (change run).core = { run.core with
        started := started run.core.started, saved := saved run.core.saved }) →
      Deal r t.backdrop (t.modifyRun r change).backdrop ∧
        (t.modifyRun r change).IsIn r .idle run.client := by
    intro t change started saved hin hchange
    have hchanged := backdrop_modifyCore t r (fun core => { core with
      started := started core.started, saved := saved core.saved }) hchange
    refine ⟨?_, hin.modify _ (congrArg Backdrop.runs hchanged) fun core hphase => ⟨hphase, rfl⟩⟩
    rw [hchanged]
    exact .ready started saved
  obtain ⟨hstarted, hidle⟩ := hready s (fun run => { run with started := s.agenda.now })
    (fun _ => s.agenda.now) id h fun _ => rfl
  have hsaid : (s.sayStart r run).1.backdrop = _ := backdrop_emit _ r .runStarted _ none _
  have hsame : (s.sayStart r run).1.setting = s.setting := setting_emit _ r .runStarted _ none _
  have hprepared : (s.readied r run).backdrop = _ := (backdrop_prepare _ r run).trans hsaid
  have hsame' : (s.readied r run).setting = s.setting := (setting_prepare _ r run).trans hsame
  cases start_course s r run with
  | mute said result =>
    rw [← hsaid] at hstarted
    exact .fails (.single hstarted) (hidle.of_runs (congrArg Backdrop.runs hsaid)) hsame result
  | unready said prepared result =>
    rw [← hprepared] at hstarted
    exact .fails (.single hstarted) (hidle.of_runs (congrArg Backdrop.runs hprepared)) hsame' result
  | @seeks saved said prepared result =>
    rw [result]
    rw [← hprepared] at hstarted
    obtain ⟨hsaved, hseeks⟩ := hready (s.readied r run) (fun run => { run with saved }) id
      (fun _ => saved)
      (hidle.of_runs (congrArg Backdrop.runs hprepared)) fun _ => rfl
    have hready : Session.IsIn _ r .idle { run with saved }.client := hseeks
    obtain ⟨v, hdeals, hlooks, hdoes⟩ := does_search hready
    exact .seeks (.tail (.single hstarted) hsaved) hseeks hdeals hlooks hdoes

/-! ### Performing cues -/

/-- what no run is to do leaves what is about the runs as it is -/
theorem backdrop_perform (s : Session (Recorded ν)) {cue : Cue} (hcue : cue.runOf? = none) :
    (s.perform cue).backdrop = s.backdrop := by
  have herrand : ∀ e, cue.isAwaitedBy e = true → (s.perform cue).backdrop = s.backdrop := by
    intro e hawaited
    cases he : s.errands[e]? with
    | some errand => exact (strokes_perform he hawaited).backdrop
    | none => rw [s.perform_idle hawaited (by simp [he])]
  cases cue with
  | signal signal =>
    exact (backdrop_sight _ _ _).trans (backdrop_network s (Recorded.searches_signal ..))
  | begin e | attempt e | arrive e request answer | expire e | resume e =>
    exact herrand e (by simp [Cue.isAwaitedBy])
  | retire e => exact backdrop_modifyErrand s e fun _ => ⟨rfl, rfl, rfl⟩
  | alarm => rfl
  | _ => cases hcue

/-- there is nothing to do for a run that is not there; at most the next one gets its turn -/
lemma perform_of_none {cue : Cue} (hcue : cue.runOf? = some q) (hget : s.runs[q]? = none) :
    s.perform cue = s ∨ s.perform cue = s.pass q := by
  have hnone : ∀ act : Run → Session (Recorded ν), s.overRun q act = s := by
    intro act
    rw [overRun, hget]
  cases cue with
  | drained r fault =>
    obtain rfl : r = q := Option.some.inj hcue
    cases fault with
    | none => exact .inl (hnone _)
    | some fault =>
      have hsame : s.runs.modify r (fun run => { run with
          outcome := some (.error fault), isWaiting := false, isGathering := false }) = s.runs :=
        List.modify_eq_self (List.getElem?_eq_none_iff.mp hget)
      refine .inr ?_
      show s.endRun r (.error fault) = _
      rw [endRun_eq]
      unfold Session.modifyRun
      rw [hsame]
  | clock r | tick r | wake r | enter r | takeTurn r =>
    obtain rfl : r = q := Option.some.inj hcue
    exact .inl (hnone _)
  | _ => cases hcue

lemma deals_wind (h : s.IsIn r .discovering run.client) :
    Deals r s.backdrop (s.wind r run).backdrop := by
  obtain ⟨core, hcore, hlooks, -⟩ := h
  refine .single (.wind ((s.agenda.pause (.ofFloat run.settings.idleSeconds) (.tick r)).drop
    fun cue => !cue.isInner) hcore hlooks ?_ ?_)
  · unfold Agenda.pause
    split
    · exact .inr (congrArg Agenda.line (Agenda.drop_soon_kept (by rfl) 0))
    · refine .inl ?_
      unfold Agenda.after
      split <;> rfl
  · intro timer hmem
    obtain ⟨hmem, hinner⟩ := List.mem_filter.mp hmem
    unfold Agenda.pause at hmem
    split at hmem
    · exact .inl (List.mem_filter.mpr ⟨hmem, hinner⟩)
    · unfold Agenda.after at hmem
      split at hmem
      · exact .inl (List.mem_filter.mpr ⟨hmem, hinner⟩)
      · rcases Agenda.mem_insert.mp hmem with rfl | hold
        · exact .inr rfl
        · exact .inl (List.mem_filter.mpr ⟨hold, hinner⟩)

theorem deals_clock (hget : s.runs[r]? = some run) (hphase : run.phase = .discovering) :
    Deals r s.backdrop (s.perform (.clock r)).backdrop := by
  have hwound : s.perform (.clock r) = s.wind r run := by
    rw [Session.perform, overRun, hget]
  rw [hwound]
  exact deals_wind (hphase ▸ isIn_core hget)

theorem deals_tick (hget : s.runs[r]? = some run) (hphase : run.phase = .discovering) :
    Deals r s.backdrop (s.perform (.tick r)).backdrop := by
  have hwound : s.perform (.tick r) = (s.post r .tick).wind r run := by
    rw [Session.perform, overRun, hget]
  have hposted : (s.post r .tick).backdrop
      = s.backdrop.modify r fun core => { core with ticks := core.ticks + 1 } := by
    have hqueued : (s.posting r .tick).backdrop = _ :=
      backdrop_modifyCore s r (fun core => { core with ticks := core.ticks + 1 })
        fun run => by simp [Run.core]
    cases s.post_course r .tick with
    | absent gone => cases hget.symm.trans gone
    | wakes _ _ result => rw [result, backdrop_soon _ 0 rfl, hqueued]
    | queued _ _ result => rw [result, hqueued]
  have hlooks : s.IsIn r .discovering run.client := hphase ▸ isIn_core hget
  have hposts : (s.post r .tick).IsIn r .discovering run.client :=
    hlooks.modify _ (congrArg Backdrop.runs hposted) fun core hphase => ⟨hphase, rfl⟩
  have hwinds := deals_wind hposts
  rw [hposted, ← hwound] at hwinds
  obtain ⟨core, hcore, hphase, -⟩ := hlooks
  exact .head (.tick hcore hphase) hwinds

theorem does_wake (hget : s.runs[r]? = some run) (hphase : run.phase = .discovering) :
    Does r s (s.perform (.wake r)) := by
  rw [perform_wake hget]
  exact does_handleAll (hphase ▸ isIn_core hget) _

theorem does_drained (hget : s.runs[r]? = some run) (hphase : run.phase = .draining)
    (fault : Option Fault) : Does r s (s.perform (.drained r fault)) := by
  cases fault with
  | none => exact .closes .refl hget hphase (perform_drained hget)
  | some fault => exact does_endRun (hphase ▸ isIn_core hget) (by decide) (by decide) _

/-- whatever a run does, it comes to deals -/
theorem Does.deals (h : Does r s t) : Deals r s.backdrop t.backdrop := by
  cases h with
  | goesOn deals isIn unfinished => exact deals
  | closes deals here drains closed =>
    subst closed
    exact deals.trans (deals_close (drains ▸ isIn_core here)).1

lemma deals_of_seek {client : Nat} {b : Backdrop} (h : s.IsIn r .idle client)
    (hdeals : Deals r (s.backdrop.seek r client) b) : Deals r s.backdrop b := by
  obtain ⟨core, hcore, hphase, rfl⟩ := h
  exact .head (.seek hcore hphase) hdeals

theorem Launches.does {client : Nat} (h : Launches r client s t) : Does r s t := by
  cases h with
  | fails deals idle same failed =>
    subst failed
    exact (does_endRun idle (by decide) (by decide) _).after deals rfl
  | seeks before idle deals looks does =>
    exact does.after (before.trans (deals_of_seek idle deals)) rfl

end Session

end Lamplighter
