import Lamplighter.Proofs.Run.Neighbours

/-!
# Solo: an errand on its own

What an errand does depends on nothing but the errand itself and the corner of its bulb.

* `Play.IsQuick`, `Play.IsPlain`   a play that asks for no state, or only for one to begin with;
* `Solo`              an errand with its corner; its steps are those of the errand in a session;
* `Session.Has`       a session has an errand, with its corner and the cues that it waits for;
* `Has.follow`, `Has.ask`, ...   a step of the errand in the session is the step on its own.
-/

set_option linter.unusedSectionVars false

namespace Lamplighter

open Deeds

/-! ### Plays -/

namespace Play

/-- no state is asked for, and nothing takes time -/
def IsQuick : Play → Prop
  | .done _ => True
  | .ask _ => False
  | .send request next => request ≠ .read ∧ ∀ reply, (next reply).IsQuick
  | .report _ _ next => next.IsQuick
  | .keep _ next => next.IsQuick

/-- at most one state is asked for, before anything else is done -/
def IsPlain : Play → Prop
  | .ask next => ∀ state, (next state).IsQuick
  | play => play.IsQuick

lemma isQuick_switch {handle : Handle} {isOn : Bool} {next : Play} (h : next.IsQuick) :
    (switch handle isOn next).IsQuick :=
  ⟨by simp, fun _ => h⟩

lemma isQuick_switchOn {handle : Handle} {state : BulbState} {next : Play} (h : next.IsQuick) :
    (switchOn handle state next).IsQuick := by
  unfold switchOn
  split
  · exact h
  · exact isQuick_switch h

lemma isQuick_color {hue saturation brightness kelvin duration : Int} {message : String} :
    (Play.send (.color hue saturation brightness kelvin duration) fun _ =>
      .report message none .finish).IsQuick :=
  ⟨by simp, fun _ => trivial⟩

end Play

theorem Effect.isPlain_play (effect : Effect) (settings : Settings) (saved : Option Saved)
    (handle : Handle) : (effect.play settings saved handle).IsPlain := by
  have hpaint : ∀ tint speed, (paintPlay settings handle tint speed).IsPlain := by
    intro tint speed state
    dsimp only
    split
    · split
      · exact Play.isQuick_switch trivial
      · trivial
    · exact Play.isQuick_switchOn Play.isQuick_color
  cases effect with
  | on => exact Play.isQuick_switch trivial
  | off => exact Play.isQuick_switch trivial
  | save name =>
    intro state
    trivial
  | restore name speed =>
    show (restorePlay saved speed handle).IsPlain
    unfold restorePlay
    split
    · trivial
    · intro current
      dsimp only
      split
      · exact Play.isQuick_color
      · exact ⟨by simp, fun _ => Play.isQuick_color⟩
  | color paint => exact hpaint _ _
  | hsb paint => exact hpaint _ _
  | darker dimming =>
    intro state
    dsimp only
    split
    · trivial
    · split
      · exact Play.isQuick_switch trivial
      · exact Play.isQuick_color
  | lighter dimming =>
    intro state
    dsimp only
    split
    · trivial
    · exact Play.isQuick_switchOn Play.isQuick_color
  | status =>
    intro state
    trivial

/-! ### The steps of an errand on its own -/

structure Solo where
  errand : Errand
  corner : Corner

namespace Solo

def setStage (solo : Solo) (stage : Stage) : Solo :=
  { solo with errand := { solo.errand with stage } }

/-- an errand that is the one of a solo but for its stage -/
def IsOf (solo : Solo) (errand : Errand) : Prop :=
  ∃ stage, solo.errand = { errand with stage, isAttached := true }

def conclude (solo : Solo) (outcome : Except Fault Reply) : Solo :=
  solo.setStage (.over outcome)

def note (solo : Solo) (fault : Fault) : Solo :=
  { solo with corner := { solo.corner with
      faults := solo.corner.faults ++ [(solo.errand.handle, fault)] } }

def fail (solo : Solo) (fault : Fault) : Solo :=
  (solo.note fault).conclude (.ok .nothing)

def send (solo : Solo) (request : Request) : Solo × Wait × Answer :=
  let noted := { solo.corner with
    calls := solo.corner.calls.map fun calls => calls ++ [⟨solo.errand.handle, request⟩] }
  match solo.corner.bulb with
  | none => ({ solo with corner := noted }, .atOnce, .fault (.unreachable "unknown bulb"))
  | some bulb =>
    let (taken, wait, answer) := bulb.take request
    ({ solo with corner := { noted with bulb := some taken } }, wait, answer)

def settle (solo : Solo) (request : Request) (answer : Answer) : Solo × Except Fault Reply :=
  match answer, solo.corner.bulb with
  | .fault fault, _ => (solo, .error fault)
  | _, none => (solo, .error (.unreachable "unknown bulb"))
  | .impostor serial, some bulb =>
    (solo, .ok (Bench.replyOf { solo.errand.handle with serial, label := "Impostor" } bulb.state
      request))
  | .ok, some bulb =>
    ({ solo with corner := { solo.corner with
        bulb := some { bulb with state := BenchBulb.obey bulb.state request } } },
      .ok (Bench.replyOf solo.errand.handle bulb.state request))

@[simp] lemma errand_send (solo : Solo) (request : Request) :
    (solo.send request).1.errand = solo.errand := by
  unfold send
  dsimp only
  split <;> rfl

@[simp] lemma errand_settle (solo : Solo) (request : Request) (answer : Answer) :
    (solo.settle request answer).1.errand = solo.errand := by
  unfold settle
  split <;> rfl

/-- send a request and settle it -/
def request (solo : Solo) (request : Request) : Solo × Except Fault Reply :=
  (solo.send request).1.settle request (solo.send request).2.2

@[simp] lemma errand_request (solo : Solo) (request : Request) :
    (solo.request request).1.errand = solo.errand := by
  rw [Solo.request, errand_settle, errand_send]

/-- requests that ask for no state are settled at once -/
lemma wait_send (solo : Solo) {request : Request} (h : request ≠ .read) :
    (solo.send request).2.1 = .atOnce := by
  unfold send
  dsimp only
  split
  · rfl
  · cases request with
    | read => exact absurd rfl h
    | _ => rfl

def ask (solo : Solo) (next : BulbState → Play) (retries : Nat) : Solo :=
  if solo.errand.timeout.isInstant then solo.setStage (.answered next retries none)
  else solo.setStage (.asking next retries)

/-- go through a play until a state is asked for, or to its end -/
def follow (solo : Solo) : Play → Solo
  | .done reply => solo.conclude (.ok reply)
  | .ask next => solo.ask next 0
  | .keep _ next => follow solo next
  | .report _ _ next => follow solo next
  | .send request next =>
    match solo.send request with
    | (sent, _, answer) =>
      match sent.settle request answer with
      | (settled, .ok reply) => follow settled (next reply)
      | (settled, .error fault) => settled.fail fault

lemma follow_send (solo : Solo) (request : Request) (next : Reply → Play) :
    solo.follow (.send request next) = match (solo.request request).2 with
      | .ok reply => (solo.request request).1.follow (next reply)
      | .error fault => (solo.request request).1.fail fault := by
  unfold Solo.request
  rw [Solo.follow]
  dsimp only
  generalize (solo.send request).1.settle request (solo.send request).2.2 = settled
  obtain ⟨settled, fault | reply⟩ := settled <;> rfl

/-- a quick play leaves nothing to wait for -/
lemma stage_follow (solo : Solo) {play : Play} (hquick : play.IsQuick) :
    ∃ reply, (solo.follow play).errand.stage = .over (.ok reply) := by
  induction play generalizing solo with
  | done reply => exact ⟨reply, rfl⟩
  | ask next => exact hquick.elim
  | keep state next ih => exact ih solo hquick
  | report message data next ih => exact ih solo hquick
  | send request next ih =>
    rw [follow_send]
    split
    · exact ih _ _ (hquick.2 _)
    · exact ⟨_, rfl⟩

/-- a request for the state is settled -/
def arrive (solo : Solo) (next : BulbState → Play) (retries : Nat) (answer : Answer) : Solo :=
  let (settled, result) := solo.settle .read answer
  settled.setStage (.answered next retries (some result))

lemma errand_arrive (solo : Solo) (next : BulbState → Play) (retries : Nat) (answer : Answer) :
    ∃ result, (solo.arrive next retries answer).errand
      = { solo.errand with stage := .answered next retries (some result) } := by
  have herrand := errand_settle solo .read answer
  unfold arrive
  revert herrand
  generalize solo.settle .read answer = settled
  obtain ⟨settled, result⟩ := settled
  intro herrand
  dsimp only at herrand ⊢
  rw [← herrand]
  exact ⟨result, rfl⟩

/-- send a request for the state; tells how long it takes and what comes of it, if it takes time -/
def attempt (solo : Solo) (next : BulbState → Play) (retries : Nat) :
    Solo × Option (Duration × Answer) :=
  match solo.send .read with
  | (sent, .atOnce, answer) => (sent.arrive next retries answer, none)
  | (sent, .lasting duration, answer) => (sent, some (duration, answer))

def expire (solo : Solo) (next : BulbState → Play) (retries : Nat) : Solo :=
  solo.setStage (.answered next retries none)

def resume (solo : Solo) (next : BulbState → Play) (retries : Nat)
    (result : Option (Except Fault Reply)) : Solo :=
  match Query.judge solo.errand.handle solo.errand.maxRetries retries result with
  | .take state => solo.follow (next state)
  | .again retries => solo.ask next retries
  | .give fault => solo.fail fault

/-- the cues that an errand sets when it has begun or gone on -/
def await (solo : Solo) (e : Nat) (cues : Agenda Cue) : Agenda Cue :=
  match solo.errand.stage with
  | .asking _ _ => (cues.after solo.errand.timeout 1 (.expire e)).soon 0 (.attempt e)
  | .answered _ _ _ => cues.soon 2 (.resume e)
  | _ => cues

end Solo

/-- the agenda when its cues are taken off -/
def Agenda.cleared {α : Type} (agenda : Agenda α) : Agenda α :=
  { now := agenda.now }

namespace Bench

variable {bench : Bench}

lemma find?_modifyBulb_self {serial : String} {bulbs : List BenchBulb}
    {change : BenchBulb → BenchBulb}
    (hchange : ∀ b, bulbs.find? (fun b => b.handle.serial == serial) = some b →
      (change b).handle.serial = serial) :
    (modifyBulb bulbs serial change).find? (fun b => b.handle.serial == serial)
      = (bulbs.find? fun b => b.handle.serial == serial).map change := by
  induction bulbs with
  | nil => rfl
  | cons b rest ih =>
    unfold modifyBulb
    split
    · rename_i hb
      have hfirst : (b :: rest).find? (fun b => b.handle.serial == serial) = some b := by
        simp [hb]
      rw [hfirst, List.find?_cons_of_pos (by simpa using hchange b hfirst)]
      rfl
    · rename_i hb
      have hb : (b.handle.serial == serial) = false := Bool.eq_false_iff.mpr hb
      simp only [List.find?_cons, hb] at hchange ⊢
      exact ih hchange

lemma find?_modify_self {serial : String} {change : BenchBulb → BenchBulb}
    (hchange : ∀ b, bench.find? serial = some b → (change b).handle.serial = serial) :
    (bench.modify serial change).find? serial = (bench.find? serial).map change :=
  find?_modifyBulb_self hchange

end Bench

namespace Session

variable {s t : Session Bench} {r e : Nat} {solo : Solo} {cues : Agenda Cue}

/-- a session has an errand of a run with a reliable audience, with the corner of its bulb and the
cues that it waits for -/
structure Has (s : Session Bench) (r e : Nat) (solo : Solo) (cues : Agenda Cue) : Prop where
  desk : s.desk e = ⟨some solo.errand, cues⟩
  corner : s.corner solo.errand.client r solo.errand.handle.serial = solo.corner
  run : solo.errand.run = some r
  here : s.runs[r]?.isSome = true
  reliable : s.Reliable r
  ordered : s.agenda.IsOrdered

namespace Has

theorem spares (h : s.Has r e solo cues)
    (hs : Spares solo.errand.client r solo.errand.handle.serial e (fun _ => True) s t) :
    t.Has r e solo cues := by
  refine ⟨hs.desk.trans h.desk, hs.corner.trans h.corner, h.run, ?_,
    h.reliable.of_plans hs.plans, hs.order h.ordered⟩
  have hsame := congrArg Option.isSome (map_plan_of_plans hs.plans r)
  rw [Option.isSome_map, Option.isSome_map] at hsame
  exact hsame.trans h.here

theorem setStage (h : s.Has r e solo cues) (stage : Stage) :
    (s.setStage e stage).Has r e (solo.setStage stage) cues := by
  refine ⟨?_, h.corner, h.run, h.here, h.reliable, h.ordered⟩
  have hdesk := h.desk
  unfold Session.desk at hdesk ⊢
  obtain ⟨herrand, hcues⟩ := Desk.mk.inj hdesk
  obtain ⟨errand, he, hsolo⟩ := Option.map_eq_some_iff.mp herrand
  have hnew : (s.setStage e stage).errands[e]? = some { errand with stage } := by
    show (s.errands.modify e _)[e]? = _
    simp [he]
  rw [hnew]
  show Desk.mk _ (s.agenda.drop _) = _
  rw [hcues, Solo.setStage, ← hsolo]
  rfl

theorem soon (h : s.Has r e solo cues) (turns : Nat) {cue : Cue} (hcue : cue.isAwaitedBy e = true) :
    (s.soon turns cue).Has r e solo (cues.soon turns cue) := by
  refine ⟨?_, h.corner, h.run, h.here, h.reliable, h.ordered⟩
  obtain ⟨herrand, hcues⟩ := Desk.mk.inj h.desk
  have hsoon : (s.agenda.soon turns cue).drop (fun cue => !cue.isAwaitedBy e)
      = (s.agenda.drop fun cue => !cue.isAwaitedBy e).soon turns cue :=
    Agenda.drop_soon_kept (by simp [hcue]) turns
  rw [hcues] at hsoon
  exact congr (congrArg Desk.mk herrand) hsoon

theorem after (h : s.Has r e solo cues) (duration : Duration) (turns : Nat) {cue : Cue}
    (hcue : cue.isAwaitedBy e = true) :
    ({ s with agenda := s.agenda.after duration turns cue } : Session Bench).Has r e solo
      (cues.after duration turns cue) := by
  refine ⟨?_, h.corner, h.run, h.here, h.reliable, h.ordered.after duration turns cue⟩
  obtain ⟨herrand, hcues⟩ := Desk.mk.inj h.desk
  have hafter : (s.agenda.after duration turns cue).drop (fun cue => !cue.isAwaitedBy e)
      = (s.agenda.drop fun cue => !cue.isAwaitedBy e).after duration turns cue :=
    Agenda.drop_after_kept h.ordered (by simp [hcue]) duration turns
  rw [hcues] at hafter
  exact congr (congrArg Desk.mk herrand) hafter

theorem pause (h : s.Has r e solo cues) (duration : Duration) {cue : Cue}
    (hcue : cue.isAwaitedBy e = true) :
    ({ s with agenda := s.agenda.pause duration cue } : Session Bench).Has r e solo
      (cues.pause duration cue) := by
  unfold Agenda.pause
  split
  · exact h.soon 0 hcue
  · exact h.after duration 1 hcue

theorem dropAwaited (h : s.Has r e solo cues) : (s.dropAwaited e).Has r e solo cues.cleared := by
  refine ⟨?_, h.corner, h.run, h.here, h.reliable, h.ordered.drop _⟩
  obtain ⟨herrand, hcues⟩ := Desk.mk.inj h.desk
  have hcleared : (s.agenda.drop fun cue => cue.isAwaitedBy e).drop (fun cue => !cue.isAwaitedBy e)
      = cues.cleared := by
    rw [← hcues]
    simp only [Agenda.drop, Agenda.cleared, List.filter_filter]
    congr 1
    · rw [List.filter_eq_nil_iff]
      simp
    · rw [List.filter_eq_nil_iff]
      simp
  exact congr (congrArg Desk.mk herrand) hcleared

/-! ### Events and the end -/

theorem conclude (h : s.Has r e solo cues) {errand : Errand} (hrun : errand.run = some r)
    (isOk : Bool) (outcome : Except Fault Reply) :
    (s.conclude e errand isOk outcome).Has r e (solo.conclude outcome) cues.cleared := by
  have hended := h.dropAwaited.setStage (.over outcome)
  simp only [Session.conclude, hrun]
  refine hended.spares ?_
  exact ((Spares.post _ r (by simp)).trans (Spares.soon _ 0 rfl (by simp))).trans
    (Spares.checkGathered _ r _)

lemma emit (h : s.Has r e solo cues) (kind : EventKind) (message : String)
    (device : Option String) (data : Option Json) :
    ∃ t, s.emit r kind message device data = (t, none) ∧ t.Has r e solo cues := by
  refine ⟨_, emit_of_reliable h.reliable kind message device data, ?_⟩
  exact h.spares (Spares.emit s r kind message device data)

theorem note (h : s.Has r e solo cues) (fault : Fault) :
    (s.note r (.raised solo.errand.handle fault)).Has r e (solo.note fault) cues := by
  have hspared : Spares (solo.errand.client + 1) r (solo.errand.handle.serial ++ "x") e
      (fun _ => True) s (s.note r (.raised solo.errand.handle fault)) := by
    refine Spares.note s r ?_ fault
    intro heq
    have hlength := congrArg String.length heq
    rw [String.length_append] at hlength
    simp at hlength
  refine ⟨h.desk, ?_, h.run, ?_, h.reliable.of_plans hspared.plans, h.ordered⟩
  · obtain ⟨run, hrun⟩ := Option.isSome_iff_exists.mp h.here
    have hfaults : (s.note r (.raised solo.errand.handle fault)).faultsOf r
        solo.errand.handle.serial = s.faultsOf r solo.errand.handle.serial
          ++ [(solo.errand.handle, fault)] := by
      unfold faultsOf Session.note
      rw [runs_modifyRun_self, hrun]
      show (raised run.deeds ++ [_]).filter _ = (raised run.deeds).filter _ ++ _
      rw [List.filter_append]
      simp
    refine (congrArg (Corner.mk _ _) hfaults).trans ?_
    rw [Solo.note, ← h.corner]
    rfl
  · obtain ⟨run, hrun⟩ := Option.isSome_iff_exists.mp h.here
    rw [Session.note, runs_modifyRun_self, hrun]
    rfl

theorem fail (h : s.Has r e solo cues) {errand : Errand} (hrun : errand.run = some r)
    (hhandle : errand.handle = solo.errand.handle) (fault : Fault) :
    (s.fail e errand fault).Has r e (solo.fail fault) cues.cleared := by
  obtain ⟨t, hemit, ht⟩ := (h.note fault).emit .deviceFailed (failureText errand.handle fault)
    (some errand.handle.name) none
  rw [← hhandle] at hemit
  simp only [Session.fail, hrun, hemit]
  exact ht.conclude hrun false _

/-! ### Requests -/

lemma corner_network (h : s.Has r e solo cues) {network : Bench} {bulb : Option BenchBulb}
    {calls : Option (List Call)} (hbulb : network.find? solo.errand.handle.serial = bulb)
    (hcalls : network.callsFor solo.errand.client solo.errand.handle.serial = calls) :
    ({ s with network } : Session Bench).Has r e
      { solo with corner := { solo.corner with bulb, calls } } cues := by
  refine ⟨h.desk, ?_, h.run, h.here, h.reliable, h.ordered⟩
  show Corner.mk _ _ _ = _
  rw [hbulb, hcalls, ← h.corner]
  rfl

lemma bulb (h : s.Has r e solo cues) :
    s.network.find? solo.errand.handle.serial = solo.corner.bulb :=
  congrArg Corner.bulb h.corner

lemma calls (h : s.Has r e solo cues) :
    s.network.callsFor solo.errand.client solo.errand.handle.serial = solo.corner.calls :=
  congrArg Corner.calls h.corner

theorem send (h : s.Has r e solo cues) {errand : Errand} (ho : solo.IsOf errand)
    (request : Request) : (s.send errand request).2 = (solo.send request).2 ∧
      (s.send errand request).1.Has r e (solo.send request).1 cues := by
  have hbulb := h.bulb
  have hcalls := h.calls
  obtain ⟨stage, hsolo⟩ := ho
  have hclient : errand.client = solo.errand.client := by rw [hsolo]
  have hhandle : errand.handle = solo.errand.handle := by rw [hsolo]
  have hnoted : (s.network.modifyClient solo.errand.client fun c =>
      { c with calls := c.calls ++ [⟨solo.errand.handle, request⟩] }).callsFor solo.errand.client
        solo.errand.handle.serial = solo.corner.calls.map fun calls =>
          calls ++ [⟨solo.errand.handle, request⟩] := by
    rw [← hcalls]
    show (s.network.clients.modify _ _)[_]?.map _ = _
    unfold Bench.callsFor
    rw [List.getElem?_modify]
    cases s.network.clients[solo.errand.client]? with
    | none => rfl
    | some client => simp [List.filter_append]
  have hsend : Network.send s.network errand.client errand.handle request
      = s.network.send solo.errand.client solo.errand.handle request := by
    rw [hclient, hhandle]
    rfl
  unfold Session.send
  rw [hsend]
  unfold Bench.send Solo.send
  dsimp only
  cases hsome : solo.corner.bulb with
  | none =>
    rw [hsome] at hbulb
    simp only [hbulb]
    exact ⟨trivial, h.corner_network hbulb hnoted⟩
  | some bulb =>
    rw [hsome] at hbulb
    simp only [hbulb]
    refine ⟨trivial, h.corner_network ?_ hnoted⟩
    have hserial : (bulb.take request).1.handle.serial = solo.errand.handle.serial :=
      (congrArg Handle.serial (Bench.take_handle bulb request)).trans (Bench.serial_of_find? hbulb)
    have hfind : (s.network.modifyClient solo.errand.client fun c =>
        { c with calls := c.calls ++ [⟨solo.errand.handle, request⟩] }).find?
          solo.errand.handle.serial = some bulb := hbulb
    rw [Bench.find?_modify_self fun _ _ => hserial, hfind]
    rfl

/-- no bulb is found when a request is settled -/
lemma settle_eq (s : Session Bench) (errand : Errand) (request : Request) (answer : Answer) :
    s.settle errand request answer
      = ({ s with network := (s.network.settle errand.handle request answer).1 },
        (s.network.settle errand.handle request answer).2.1) := by
  show (Session.hearAll _ _ (s.network.settle errand.handle request answer).2.2, _) = _
  rw [Bench.found_settle]
  rfl

theorem settle (h : s.Has r e solo cues) {errand : Errand} (ho : solo.IsOf errand)
    (request : Request) (answer : Answer) :
    (s.settle errand request answer).2 = (solo.settle request answer).2 ∧
      (s.settle errand request answer).1.Has r e (solo.settle request answer).1 cues := by
  have hbulb := h.bulb
  have hcalls := h.calls
  obtain ⟨stage, hsolo⟩ := ho
  have hhandle : errand.handle = solo.errand.handle := by rw [hsolo]
  rw [settle_eq, hhandle]
  unfold Bench.settle Solo.settle
  cases answer with
  | fault fault => exact ⟨rfl, h⟩
  | impostor serial =>
    cases hsome : solo.corner.bulb with
    | none =>
      rw [hsome] at hbulb
      simp only [hbulb]
      exact ⟨trivial, h⟩
    | some bulb =>
      rw [hsome] at hbulb
      simp only [hbulb]
      exact ⟨trivial, h⟩
  | ok =>
    cases hsome : solo.corner.bulb with
    | none =>
      rw [hsome] at hbulb
      simp only [hbulb]
      exact ⟨trivial, h⟩
    | some bulb =>
      rw [hsome] at hbulb
      simp only [hbulb]
      refine ⟨trivial, h.corner_network ?_ hcalls⟩
      refine (Bench.find?_modify_self ?_).trans ?_
      · intro b hb
        have hserial : b.handle.serial = solo.errand.handle.serial := Bench.serial_of_find? hb
        exact hserial
      · rw [hbulb]
        rfl

/-! ### Going through a play -/

/-- a request that asks for no state is settled at once -/
theorem request (h : s.Has r e solo cues) {errand : Errand} (ho : solo.IsOf errand)
    {request : Request} (hread : request ≠ .read) (next : Reply → Play) :
    ∃ network, ({ s with network } : Session Bench).Has r e (solo.request request).1 cues ∧
      (solo.request request).1.IsOf errand ∧
      s.follow e errand (.send request next) = match (solo.request request).2 with
        | .ok reply => ({ s with network } : Session Bench).follow e errand (next reply)
        | .error fault => ({ s with network } : Session Bench).fail e errand fault := by
  obtain ⟨hsent, hhas⟩ := h.send ho request
  have hshape : s.send errand request
      = ({ s with network := (s.network.send errand.client errand.handle request).1 }, .atOnce,
        (solo.send request).2.2) :=
    Prod.ext rfl (hsent.trans (Prod.ext (solo.wait_send hread) rfl))
  have ho' : (solo.send request).1.IsOf errand := by
    rw [Solo.IsOf, Solo.errand_send]
    exact ho
  obtain ⟨hresult, hhas⟩ := hhas.settle ho' request (solo.send request).2.2
  rw [hshape, settle_eq] at hresult hhas
  refine ⟨_, hhas, ?_, ?_⟩
  · rw [Solo.IsOf, Solo.errand_request]
    exact ho
  · rw [Solo.request, ← hresult, Session.follow, hshape]
    dsimp only
    rw [settle_eq]
    dsimp only
    generalize Bench.settle _ errand.handle request (solo.send request).2.2 = settled
    obtain ⟨network, fault | reply, found⟩ := settled <;> rfl

/-- a quick play comes to its end: by induction on what is left of it -/
theorem follow (h : s.Has r e solo cues) {errand : Errand} (hrun : errand.run = some r)
    (ho : solo.IsOf errand) {play : Play} (hquick : play.IsQuick) :
    (s.follow e errand play).Has r e (solo.follow play) cues.cleared := by
  have hhandle : ∀ {solo : Solo}, solo.IsOf errand → errand.handle = solo.errand.handle := by
    rintro solo ⟨stage, hsolo⟩
    rw [hsolo]
  induction play generalizing s solo with
  | done reply => exact h.conclude hrun true _
  | ask next => exact hquick.elim
  | keep state next ih =>
    unfold Session.follow
    simp only [hrun]
    refine ih (h.spares ?_) ho hquick
    exact Spares.modifyRun s r (fun _ => rfl) (fun _ => rfl) fun _ _ => .inl
  | report message data next ih =>
    obtain ⟨t, hemit, ht⟩ := h.emit .deviceReport message (some errand.handle.name) data
    unfold Session.follow
    simp only [hrun, hemit]
    exact ih ht ho hquick
  | send request next ih =>
    obtain ⟨network, hhas, ho', hfollow⟩ := h.request ho hquick.1 next
    rw [hfollow, Solo.follow_send]
    split
    · exact ih _ hhas ho' (hquick.2 _)
    · exact hhas.fail hrun (hhandle ho') _

theorem ask (h : s.Has r e solo cues) {errand : Errand} (ho : solo.IsOf errand)
    (next : BulbState → Play) (retries : Nat) :
    (s.ask e errand next retries).Has r e (solo.ask next retries)
      ((solo.ask next retries).await e cues) := by
  have htimeout : errand.timeout = solo.errand.timeout := by
    obtain ⟨stage, hsolo⟩ := ho
    rw [hsolo]
  unfold Session.ask Solo.ask
  rw [htimeout]
  split
  · exact (h.setStage _).soon 2 (by simp [Cue.isAwaitedBy])
  · have hcue : (Cue.expire e).isAwaitedBy e = true := by simp [Cue.isAwaitedBy]
    have hwaits := (h.setStage (.asking next retries)).after solo.errand.timeout 1 hcue
    exact hwaits.soon 0 (by simp [Cue.isAwaitedBy])

/-- a play of an effect comes to its end, or to its request for a state -/
theorem play (h : s.Has r e solo cues) {errand : Errand} (hrun : errand.run = some r)
    (ho : solo.IsOf errand) {play : Play} (hplain : play.IsPlain) (hclear : cues.cleared = cues) :
    (s.follow e errand play).Has r e (solo.follow play) ((solo.follow play).await e cues) := by
  have hend : play.IsQuick → (s.follow e errand play).Has r e (solo.follow play)
      ((solo.follow play).await e cues) := by
    intro hquick
    obtain ⟨reply, hstage⟩ := solo.stage_follow hquick
    have hhas := h.follow hrun ho hquick
    rw [hclear] at hhas
    rw [Solo.await, hstage]
    exact hhas
  cases play with
  | ask next => exact h.ask ho next 0
  | _ => exact hend hplain

/-! ### The steps of an errand -/

lemma errand (h : s.Has r e solo cues) : ∃ errand, s.errands[e]? = some errand ∧
    errand.stage = solo.errand.stage ∧ errand.run = some r ∧ solo.IsOf errand := by
  obtain ⟨errand, he, hsolo⟩ := Option.map_eq_some_iff.mp (Desk.mk.inj h.desk).1
  have hrun := h.run
  rw [← hsolo] at hrun ⊢
  exact ⟨errand, he, rfl, hrun, errand.stage, hsolo.symm⟩

theorem begin (h : s.Has r e solo cues) {play : Play} (hstage : solo.errand.stage = .fresh play)
    (hplain : play.IsPlain) (hclear : cues.cleared = cues) :
    (s.perform (.begin e)).Has r e (solo.follow play) ((solo.follow play).await e cues) := by
  obtain ⟨errand, he, hstage', hrun, ho⟩ := h.errand
  rw [hstage] at hstage'
  simp only [Session.perform, Session.overErrand, he, Session.begin, hstage']
  exact h.play hrun ho hplain hclear

lemma answer (h : s.Has r e solo cues) (next : BulbState → Play) (retries : Nat)
    (result : Except Fault Reply) : (s.answer e next retries result).Has r e
      (solo.setStage (.answered next retries (some result))) (cues.soon 1 (.resume e)) :=
  (h.setStage _).soon 1 (by simp [Cue.isAwaitedBy])

/-- what comes of a request for the state -/
lemma settled (h : s.Has r e solo cues) {errand : Errand} (ho : solo.IsOf errand)
    (next : BulbState → Play) (retries : Nat) (answer : Answer) :
    ((s.settle errand .read answer).1.answer e next retries (s.settle errand .read answer).2).Has
      r e (solo.arrive next retries answer) (cues.soon 1 (.resume e)) := by
  obtain ⟨hresult, hhas⟩ := h.settle ho .read answer
  rw [hresult]
  exact hhas.answer next retries _

theorem attempt (h : s.Has r e solo cues) {next : BulbState → Play} {retries : Nat}
    (hstage : solo.errand.stage = .asking next retries) :
    (s.perform (.attempt e)).Has r e (solo.attempt next retries).1
      (match (solo.attempt next retries).2 with
      | none => cues.soon 1 (.resume e)
      | some (duration, answer) => cues.pause duration (.arrive e .read answer)) := by
  obtain ⟨errand, he, hstage', hrun, ho⟩ := h.errand
  rw [hstage] at hstage'
  obtain ⟨hsent, hhas⟩ := h.send ho .read
  have ho' : (solo.send .read).1.IsOf errand := by
    rw [Solo.IsOf, Solo.errand_send]
    exact ho
  simp only [Session.perform, Session.overErrand, he, Session.attempt, hstage', Solo.attempt]
  revert hsent hhas ho'
  generalize s.send errand .read = sent
  generalize solo.send .read = alone
  obtain ⟨t, wait, answer⟩ := sent
  obtain ⟨solo', wait', answer'⟩ := alone
  intro hsent hhas ho'
  obtain ⟨rfl, rfl⟩ := Prod.mk.inj hsent
  cases wait with
  | atOnce => exact hhas.settled ho' next retries answer
  | lasting duration => exact hhas.pause duration (by simp [Cue.isAwaitedBy])

theorem arrive (h : s.Has r e solo cues) {next : BulbState → Play} {retries : Nat}
    (hstage : solo.errand.stage = .asking next retries) (answer : Answer) :
    (s.perform (.arrive e .read answer)).Has r e (solo.arrive next retries answer)
      (cues.soon 1 (.resume e)) := by
  obtain ⟨errand, he, hstage', hrun, ho⟩ := h.errand
  rw [hstage] at hstage'
  simp only [Session.perform, Session.overErrand, he, Session.arrive, hstage']
  exact h.settled ho next retries answer

theorem expire (h : s.Has r e solo cues) {next : BulbState → Play} {retries : Nat}
    (hstage : solo.errand.stage = .asking next retries) :
    (s.perform (.expire e)).Has r e (solo.expire next retries)
      (cues.cleared.soon 2 (.resume e)) := by
  obtain ⟨errand, he, hstage', hrun, ho⟩ := h.errand
  rw [hstage] at hstage'
  simp only [Session.perform, Session.overErrand, he, Session.expire, hstage']
  exact (h.dropAwaited.setStage _).soon 2 (by simp [Cue.isAwaitedBy])

theorem resume (h : s.Has r e solo cues) {next : BulbState → Play} {retries : Nat}
    {result : Option (Except Fault Reply)}
    (hstage : solo.errand.stage = .answered next retries result)
    (hnext : ∀ state, (next state).IsQuick) :
    (s.perform (.resume e)).Has r e (solo.resume next retries result)
      ((solo.resume next retries result).await e cues.cleared) := by
  obtain ⟨errand, he, hstage', hrun, ho⟩ := h.errand
  rw [hstage] at hstage'
  have hready := h.dropAwaited
  have hsame : errand.handle = solo.errand.handle ∧ errand.maxRetries = solo.errand.maxRetries := by
    obtain ⟨stage, hsolo⟩ := ho
    rw [hsolo]
    exact ⟨rfl, rfl⟩
  simp only [Session.perform, Session.overErrand, he, Session.resume, hstage', Solo.resume, hsame]
  cases Query.judge solo.errand.handle solo.errand.maxRetries retries result with
  | take state =>
    obtain ⟨reply, hover⟩ := solo.stage_follow (hnext state)
    rw [Solo.await]
    simp only [hover]
    exact hready.follow hrun ho (hnext state)
  | again retries => exact hready.ask ho next retries
  | give fault => exact hready.fail hrun hsame.1 fault

end Has

end Session

end Lamplighter
