import Lamplighter.Proofs.Run.Solo

/-!
# Inquiries: asking one bulb for its state, whatever its script

The answers of a bulb are read one by one, each with a request of its own, until one of them decides:
the bulb answers under its serial, a fault comes that is no timeout, or the retries are used up.

* `Echo`, `echoes`          what the requests for the state come to, as far as anyone may ask;
* `Echo.Decides`            the echo that ends an inquiry, and what the inquiry comes to;
* `Inquiry`, `Session.At`   a query that is all that a session has to do, and how far it has come;
* `Session.Walk`            steps of a session before which an errand is not over;
* `At.hears`                a request comes to its echo in at most three steps;
* `At.learned`              the errand takes it up with one more: it ends, or asks again;
* `At.isDecided`            an inquiry ends with the first echo that decides;
* `Session.query_exact`     the same of a query, with its answer and the requests that were sent.
-/

namespace Lamplighter

/-! ### Echoes -/

/-- what a request for the state comes to -/
inductive Echo where
  /-- the bulb answers under its own serial -/
  | right (state : BulbState)
  /-- a bulb answers under another serial -/
  | wrong
  /-- no answer comes in time -/
  | late
  /-- a fault that is no timeout -/
  | fault (fault : Fault)
  deriving DecidableEq, Repr

namespace ScriptedReply

/-- an answer comes before the time to answer is over, as the clock counts -/
def isPunctual (timeout : Rat) (now : Moment) : Option Duration → Bool
  | none => true
  | some .endless => false
  | some (.seconds delay) => delay ≤ 0 || now.later delay < now.later timeout

/-- the echo of a request that is sent at a moment -/
def echo (serial : String) (state : BulbState) (timeout : Rat) (now : Moment) :
    ScriptedReply → Echo
  | .silence | .fault (.timeout _) => .late
  | .fault failure => .fault failure
  | .answer delay impostor =>
    if isPunctual timeout now delay then
      if impostor.getD serial = serial then .right state else .wrong
    else .late

/-- the moment when an echo is known -/
def knownAt (timeout : Rat) (now : Moment) : ScriptedReply → Moment
  | .fault _ | .answer none _ => now
  | .silence | .answer (some .endless) _ => max now (now.later timeout)
  | .answer (some (.seconds delay)) _ =>
    if delay ≤ 0 then now else max now (min (now.later delay) (now.later timeout))

end ScriptedReply

/-- the echoes of a script, one request after the other; a script that has run out answers well -/
def echoes (serial : String) (state : BulbState) (timeout : Rat) :
    Moment → List ScriptedReply → List Echo
  | _, [] => [.right state]
  | now, reply :: script =>
    reply.echo serial state timeout now
      :: echoes serial state timeout (reply.knownAt timeout now) script

/-- what follows from an echo -/
def Echo.verdict (handle : Handle) (maxRetries used : Nat) : Echo → Verdict
  | .right state => .take state
  | .wrong => .again used
  | .late => Query.unanswered handle.name maxRetries used
  | .fault failure => .give failure

/-- the echo that ends an inquiry for which some retries were used, and what the inquiry comes to -/
inductive Echo.Decides (handle : Handle) (maxRetries used : Nat) : Echo → Except Fault Reply → Prop
  | right (state : BulbState) : Decides handle maxRetries used (.right state) (.ok (.state handle state))
  | fault (fault : Fault) : Decides handle maxRetries used (.fault fault) (.error fault)
  | late : used = maxRetries →
    Decides handle maxRetries used .late (.error (.silent handle.name maxRetries))

/-! ### Lines and timers -/

namespace Agenda

variable {α : Type} {now : Moment} {cue : α} {line : List (Pending α)} {timers : List (Timer α)}

lemma takeLine_alone (turns : Nat) (cue : α) : takeLine [⟨turns, cue⟩] = some (cue, []) := by
  induction turns with
  | zero => rw [takeLine]
  | succ turns ih =>
    rw [takeLine]
    exact ih

lemma takeLine_turn (line : List (Pending α)) (hline : ∀ p ∈ line, p.turns = 1) :
    takeLine (⟨1, cue⟩ :: line) = some (cue, line.map fun p => ⟨0, p.cue⟩) := by
  have hrest : ∀ done : List (Pending α),
      takeLine (line ++ ⟨0, cue⟩ :: done)
        = some (cue, done ++ line.map fun p => ⟨0, p.cue⟩) := by
    induction line with
    | nil =>
      intro done
      rw [List.nil_append, takeLine, List.map_nil, List.append_nil]
    | cons p line ih =>
      intro done
      obtain ⟨turns, waiting⟩ := p
      obtain rfl : turns = 1 := hline _ (List.mem_cons_self ..)
      rw [List.cons_append, takeLine, List.append_assoc, List.cons_append,
        ih (fun p hp => hline p (List.mem_cons_of_mem _ hp))]
      simp
  rw [takeLine, hrest []]
  rfl

lemma next?_ready : next? ⟨now, ⟨0, cue⟩ :: line, timers⟩ = some (cue, ⟨now, line, timers⟩) := by
  rw [next?, takeLine]

lemma next?_alone (turns : Nat) :
    next? ⟨now, [⟨turns, cue⟩], timers⟩ = some (cue, ⟨now, [], timers⟩) := by
  rw [next?, takeLine_alone]

/-- time goes on to the first timer; those that are due with it are next in the line -/
lemma next?_timers (now : Moment) {timer : Timer α} {timers : List (Timer α)}
    (htimer : timer.entry.turns = 1) (htimers : ∀ t ∈ timers, t.entry.turns = 1) :
    ∃ joined left, timers = joined ++ left ∧ next? ⟨now, [], timer :: timers⟩
      = some (timer.entry.cue,
        ⟨max now timer.due, joined.map fun t => ⟨0, t.entry.cue⟩, left⟩) := by
  obtain ⟨due, turns, cue⟩ := timer
  obtain rfl : turns = 1 := htimer
  have hnow : (if now < due then due else now) = max now due := by
    rw [max_def]
    grind
  unfold next? advance joinDue
  rw [takeLine]
  dsimp only
  rw [hnow]
  generalize hdue : (fun t : Timer α => _ : Timer α → Bool) = isDue
  have hfirst : isDue ⟨due, 1, cue⟩ = true := by
    rw [← hdue]
    simp
  refine ⟨timers.takeWhile isDue, timers.dropWhile isDue,
    (List.takeWhile_append_dropWhile ..).symm, ?_⟩
  rw [List.takeWhile_cons_of_pos hfirst, List.dropWhile_cons_of_pos hfirst, List.nil_append,
    List.map_cons, takeLine_turn, List.map_map]
  · rfl
  · simp only [List.mem_map]
    rintro p ⟨t, ht, rfl⟩
    exact htimers t ((List.takeWhile_sublist _).subset ht)

end Agenda

/-! ### Inquiries -/

/-- a query that asks a bulb for its state, by its number among the errands -/
structure Inquiry where
  number : Nat
  client : Nat
  handle : Handle
  timeout : Rat
  maxRetries : Nat
  /-- the bulb when the query started -/
  bulb : BenchBulb

namespace Inquiry

def errand (q : Inquiry) (stage : Stage) : Errand :=
  { client := q.client, handle := q.handle, timeout := .seconds q.timeout,
    maxRetries := q.maxRetries, stage }

/-- the bulb when so much of its script is left -/
def bulbWith (q : Inquiry) (script : List ScriptedReply) : BenchBulb :=
  { q.bulb with replies := script }

/-- what is done with the state -/
def next (q : Inquiry) : BulbState → Play :=
  fun state => .done (.state q.handle state)

def call (q : Inquiry) : Call :=
  ⟨q.handle, .read⟩

/-- what a request comes to once it is settled -/
def result (q : Inquiry) : Answer → Except Fault Reply
  | .fault fault => .error fault
  | .impostor serial => .ok (.state { q.handle with serial, label := "Impostor" } q.bulb.state)
  | .ok => .ok (.state q.handle q.bulb.state)

/-- the time to answer a request that is sent at a moment is over -/
def deadline (q : Inquiry) (now : Moment) : Timer Cue :=
  ⟨now.later q.timeout, 1, .expire q.number⟩

/-- an answer comes at a moment -/
def arrival (q : Inquiry) (answer : Answer) (due : Moment) : Timer Cue :=
  ⟨due, 1, .arrive q.number .read answer⟩

@[simp] lemma isAwaitedBy_deadline (q : Inquiry) (now : Moment) :
    (q.deadline now).entry.cue.isAwaitedBy q.number = true :=
  beq_self_eq_true _

@[simp] lemma isAwaitedBy_arrival (q : Inquiry) (answer : Answer) (due : Moment) :
    (q.arrival answer due).entry.cue.isAwaitedBy q.number = true :=
  beq_self_eq_true _

/-- the agenda when a request is about to be sent -/
def asking (q : Inquiry) (now : Moment) : Agenda Cue :=
  ⟨now, [⟨0, .attempt q.number⟩], [q.deadline now]⟩

/-- an answer and the end of the time to answer, in the order of their moments -/
lemma pause_arrive {q : Inquiry} {now : Moment} {answer : Answer} {delay : Rat} (hdelay : 0 < delay) :
    Agenda.pause ⟨now, [], [q.deadline now]⟩ (.seconds delay) (.arrive q.number .read answer)
      = ⟨now, [], if now.later delay < now.later q.timeout
          then [q.arrival answer (now.later delay), q.deadline now]
          else [q.deadline now, q.arrival answer (now.later delay)]⟩ := by
  rw [Agenda.pause, if_neg (by simpa [Duration.isInstant] using hdelay)]
  rfl

/-- nothing is on the agenda but what the inquiry waits for -/
def IsAll (q : Inquiry) (agenda : Agenda Cue) : Prop :=
  (∀ p ∈ agenda.line, p.cue.isAwaitedBy q.number = true) ∧
    ∀ t ∈ agenda.timers, t.entry.cue.isAwaitedBy q.number = true

lemma IsAll.drop {q : Inquiry} {agenda : Agenda Cue} (h : q.IsAll agenda) :
    agenda.drop (fun cue => cue.isAwaitedBy q.number) = agenda.cleared := by
  unfold Agenda.drop Agenda.cleared
  congr 1
  · rw [List.filter_eq_nil_iff]
    intro p hp
    simp [h.1 p hp]
  · rw [List.filter_eq_nil_iff]
    intro t ht
    simp [h.2 t ht]

end Inquiry

namespace Session

variable {s t u : Session Bench} {q : Inquiry} {stage : Stage} {agenda rest : Agenda Cue}
  {script left : List ScriptedReply} {calls : List Call} {used : Nat} {now : Moment} {e n m : Nat}

/-- how far an inquiry has come: its stage, the agenda, the script that is left and the calls -/
structure At (s : Session Bench) (q : Inquiry) (stage : Stage) (agenda : Agenda Cue)
    (script : List ScriptedReply) (calls : List Call) : Prop where
  errand : s.errands[q.number]? = some (q.errand stage)
  agenda : s.agenda = agenda
  bulb : s.network.find? q.handle.serial = some (q.bulbWith script)
  calls : (s.network.clients[q.client]?).map (·.calls) = some calls

namespace At

lemma setStage (h : s.At q stage agenda script calls) (stage' : Stage) :
    (s.setStage q.number stage').At q stage' agenda script calls := by
  refine ⟨?_, h.agenda, h.bulb, h.calls⟩
  show (s.errands.modify q.number _)[q.number]? = _
  simp [h.errand, Inquiry.errand]

lemma setAgenda (h : s.At q stage agenda script calls) (agenda' : Agenda Cue) :
    ({ s with agenda := agenda' } : Session Bench).At q stage agenda' script calls :=
  ⟨h.errand, rfl, h.bulb, h.calls⟩

lemma soon (h : s.At q stage agenda script calls) (turns : Nat) (cue : Cue) :
    (s.soon turns cue).At q stage (agenda.soon turns cue) script calls := by
  rw [← h.agenda]
  exact h.setAgenda _

lemma dropAwaited (h : s.At q stage agenda script calls) (hall : q.IsAll agenda) :
    (s.dropAwaited q.number).At q stage agenda.cleared script calls := by
  rw [← hall.drop, ← h.agenda]
  exact h.setAgenda _

/-! ### Requests -/

lemma send (h : s.At q stage agenda script calls) {wait : Wait} {answer : Answer}
    (hscript : BenchBulb.nextReply script = (wait, answer, left)) :
    ∃ network, s.send (q.errand stage) .read = ({ s with network }, wait, answer) ∧
      ({ s with network } : Session Bench).At q stage agenda left (calls ++ [q.call]) := by
  have htake : (q.bulbWith script).take .read = (q.bulbWith left, wait, answer) := by
    show (q.bulbWith (BenchBulb.nextReply script).2.2, (BenchBulb.nextReply script).1,
      (BenchBulb.nextReply script).2.1) = _
    rw [hscript]
  have hserial : (q.bulbWith script).handle.serial = q.handle.serial :=
    Bench.serial_of_find? h.bulb
  generalize hnoted : s.network.modifyClient q.client (fun c =>
    { c with calls := c.calls ++ [q.call] }) = noted
  have hfind : noted.find? q.handle.serial = some (q.bulbWith script) := by
    rw [← hnoted]
    exact h.bulb
  have hsend : Bench.send s.network q.client q.handle .read
      = (noted.modify q.handle.serial fun _ => q.bulbWith left, wait, answer) := by
    simp only [Bench.send, h.bulb, htake]
    rw [← hnoted]
    rfl
  refine ⟨noted.modify q.handle.serial fun _ => q.bulbWith left, ?_, h.errand, h.agenda, ?_, ?_⟩
  · exact congrArg (fun sent : Bench × Wait × Answer =>
      (({ s with network := sent.1 } : Session Bench), sent.2)) hsend
  · have hchange : ∀ b, noted.find? q.handle.serial = some b →
        ((fun _ => q.bulbWith left) b : BenchBulb).handle.serial = q.handle.serial :=
      fun _ _ => hserial
    refine (Bench.find?_modify_self hchange).trans ?_
    rw [hfind]
    rfl
  · obtain ⟨client, hclient, hcalls⟩ := Option.map_eq_some_iff.mp h.calls
    show (noted.clients[q.client]?).map _ = _
    rw [← hnoted]
    simp [Bench.modifyClient, hclient, hcalls]

lemma settle (h : s.At q stage agenda script calls) (answer : Answer) :
    ∃ network, s.settle (q.errand stage) .read answer = ({ s with network }, q.result answer) ∧
      ({ s with network } : Session Bench).At q stage agenda script calls := by
  have hsettle : ∀ network result, s.network.settle q.handle .read answer = (network, result, []) →
      s.settle (q.errand stage) .read answer = ({ s with network }, result) := by
    intro network result hnetwork
    rw [Has.settle_eq]
    exact Prod.ext (congrArg (fun n => ({ s with network := n.1 } : Session Bench)) hnetwork)
      (congrArg (·.2.1) hnetwork)
  have hbulb := h.bulb
  cases answer with
  | fault fault => exact ⟨s.network, hsettle _ _ (by simp only [Bench.settle]; rfl), h⟩
  | impostor serial =>
    exact ⟨s.network, hsettle _ _ (by simp only [Bench.settle, hbulb]; rfl), h⟩
  | ok =>
    refine ⟨s.network.modify q.handle.serial fun b =>
      { b with state := BenchBulb.obey b.state .read }, hsettle _ _ ?_, h.errand, h.agenda, ?_,
      h.calls⟩
    · simp only [Bench.settle, hbulb]
      rfl
    · refine (Bench.find?_modify_self ?_).trans ?_
      · exact fun b hb => Bench.serial_of_find? hb
      · rw [h.bulb]
        rfl

/-! ### Steps -/

/-- the session goes on with the next cue of its agenda -/
lemma step (h : s.At q stage agenda script calls) {cue : Cue} (hnext : agenda.next? = some (cue, rest)) :
    s.step = some (({ s with agenda := rest } : Session Bench).perform cue) ∧
      ({ s with agenda := rest } : Session Bench).At q stage rest script calls := by
  refine ⟨?_, h.setAgenda rest⟩
  unfold Session.step
  rw [h.agenda, hnext]
  rfl

lemma overErrand (h : s.At q stage agenda script calls) (act : Errand → Session Bench) :
    s.overErrand q.number act = act (q.errand stage) := by
  unfold Session.overErrand
  rw [h.errand]

/-- a request is sent and settled at once -/
lemma attempt_atOnce (h : s.At q (.asking q.next used) agenda script calls) {answer : Answer}
    (hscript : BenchBulb.nextReply script = (.atOnce, answer, left)) :
    (s.perform (.attempt q.number)).At q (.answered q.next used (some (q.result answer)))
      (agenda.soon 1 (.resume q.number)) left (calls ++ [q.call]) := by
  obtain ⟨network, hsend, hsent⟩ := h.send hscript
  obtain ⟨settled, hsettle, hhere⟩ := hsent.settle answer
  show (s.overErrand _ _).At ..
  rw [h.overErrand]
  simp only [Session.attempt, Inquiry.errand] at hsend hsettle ⊢
  rw [hsend]
  dsimp only
  rw [hsettle]
  exact (hhere.setStage _).soon _ _

/-- a request is sent and takes its time -/
lemma attempt_lasting (h : s.At q (.asking q.next used) agenda script calls) {duration : Duration}
    {answer : Answer} (hscript : BenchBulb.nextReply script = (.lasting duration, answer, left)) :
    (s.perform (.attempt q.number)).At q (.asking q.next used)
      (agenda.pause duration (.arrive q.number .read answer)) left (calls ++ [q.call]) := by
  obtain ⟨network, hsend, hsent⟩ := h.send hscript
  show (s.overErrand _ _).At ..
  rw [h.overErrand]
  simp only [Session.attempt, Inquiry.errand] at hsend ⊢
  rw [hsend, ← h.agenda]
  exact hsent.setAgenda _

lemma arrive (h : s.At q (.asking q.next used) agenda script calls) (answer : Answer) :
    (s.perform (.arrive q.number .read answer)).At q
      (.answered q.next used (some (q.result answer))) (agenda.soon 1 (.resume q.number)) script
      calls := by
  obtain ⟨network, hsettle, hhere⟩ := h.settle answer
  show (s.overErrand _ _).At ..
  rw [h.overErrand]
  simp only [Session.arrive, Inquiry.errand] at hsettle ⊢
  rw [hsettle]
  exact (hhere.setStage _).soon _ _

lemma expire (h : s.At q (.asking q.next used) agenda script calls) (hall : q.IsAll agenda) :
    (s.perform (.expire q.number)).At q (.answered q.next used none)
      (agenda.cleared.soon 2 (.resume q.number)) script calls := by
  show (s.overErrand _ _).At ..
  rw [h.overErrand]
  exact ((h.dropAwaited hall).setStage _).soon _ _

/-- an answer has come, and the time to answer is over only then -/
lemma expire_answered {result : Option (Except Fault Reply)}
    (h : s.At q (.answered q.next used result) agenda script calls) :
    (s.perform (.expire q.number)).At q (.answered q.next used result) agenda script calls := by
  show (s.overErrand _ _).At ..
  rw [h.overErrand]
  exact h

/-- the next request is about to be sent -/
lemma ask (h : s.At q stage agenda script calls) (htimeout : 0 < q.timeout)
    (hclear : agenda = { now }) (used : Nat) :
    (s.ask q.number (q.errand stage) q.next used).At q (.asking q.next used) (q.asking now) script
      calls := by
  have hlasting : (q.errand stage).timeout.isInstant = false := by
    simpa [Inquiry.errand, Duration.isInstant] using htimeout
  unfold Session.ask
  rw [hlasting]
  have hwaiting := h.setStage (.asking q.next used)
  have hagenda : ((s.setStage q.number (.asking q.next used)).agenda.after (.seconds q.timeout) 1
      (.expire q.number)).soon 0 (.attempt q.number) = q.asking now := by
    rw [hwaiting.agenda, hclear]
    rfl
  rw [← hagenda]
  exact hwaiting.setAgenda _

/-- the errand learns what its request has come to: it ends, or asks again -/
lemma resume {result : Option (Except Fault Reply)}
    (h : s.At q (.answered q.next used result) agenda script calls) (hall : q.IsAll agenda)
    (htimeout : 0 < q.timeout) :
    match Query.judge q.handle q.maxRetries used result with
    | .take state => (s.perform (.resume q.number)).At q (.over (.ok (.state q.handle state)))
        agenda.cleared script calls
    | .again retries => (s.perform (.resume q.number)).At q (.asking q.next retries)
        (q.asking agenda.now) script calls
    | .give fault => (s.perform (.resume q.number)).At q (.over (.error fault)) agenda.cleared script
        calls := by
  have hperform : s.perform (.resume q.number)
      = s.resume q.number (q.errand (.answered q.next used result)) := h.overErrand _
  have hready := h.dropAwaited hall
  have hcleared : q.IsAll agenda.cleared := ⟨by simp [Agenda.cleared], by simp [Agenda.cleared]⟩
  rw [hperform]
  simp only [Session.resume, Inquiry.errand]
  cases Query.judge q.handle q.maxRetries used result with
  | take state => exact (hready.dropAwaited hcleared).setStage _
  | again retries => exact hready.ask htimeout rfl retries
  | give fault => exact (hready.dropAwaited hcleared).setStage _

end At

/-! ### Walks -/

/-- so many steps, and an errand that is not over before any of them -/
inductive Walk (e : Nat) : Nat → Session Bench → Session Bench → Prop
  | refl (s : Session Bench) : Walk e 0 s s
  | step {n : Nat} {s t u : Session Bench} :
    s.isErrandOver e = false → s.step = some t → Walk e n t u → Walk e (n + 1) s u

namespace Walk

lemma trans (h : Walk e n s t) (h' : Walk e m t u) : Walk e (n + m) s u := by
  induction h with
  | refl s => rwa [Nat.zero_add]
  | step hopen hstep _ ih =>
    rw [Nat.add_right_comm]
    exact .step hopen hstep (ih h')

/-- a session is driven to the end of a walk that ends with the errand -/
lemma drive (h : Walk e n s t) (hover : t.isErrandOver e = true) {fuel : Nat} (hfuel : n ≤ fuel) :
    Session.drive (fun s => s.isErrandOver e) fuel s = t := by
  induction h generalizing fuel with
  | refl s =>
    cases fuel with
    | zero => rfl
    | succ fuel => exact if_pos hover
  | step hopen hstep _ ih =>
    obtain ⟨fuel, rfl⟩ : ∃ left, fuel = left + 1 := ⟨fuel - 1, by omega⟩
    rw [Session.drive, hopen, hstep]
    exact ih hover (by omega)

end Walk

namespace At

lemma isErrandOver (h : s.At q stage agenda script calls) :
    s.isErrandOver q.number = (q.errand stage).isOver := by
  unfold Session.isErrandOver
  rw [h.errand]
  rfl

/-- the errand goes on with the next cue of the agenda -/
lemma walk (h : s.At q stage agenda script calls) (hopen : (q.errand stage).isOver = false)
    {cue : Cue} (hnext : agenda.next? = some (cue, rest)) :
    ∃ t : Session Bench, t.At q stage rest script calls ∧ ∀ n u,
      Walk q.number n (t.perform cue) u → Walk q.number (n + 1) s u := by
  obtain ⟨hstep, hhere⟩ := h.step hnext
  exact ⟨_, hhere, fun n u hwalk => .step (h.isErrandOver.trans hopen) hstep hwalk⟩

end At

/-! ### A request and its echo -/

/-- a session comes, in at most three steps, to the point where the errand learns what its request
has come to -/
def Learns (s : Session Bench) (q : Inquiry) (used : Nat) (result : Option (Except Fault Reply))
    (known : Moment) (script : List ScriptedReply) (calls : List Call) : Prop :=
  ∃ n t turns timers, n ≤ 3 ∧ Walk q.number n s t ∧
    t.At q (.answered q.next used result) ⟨known, [⟨turns, .resume q.number⟩], timers⟩ script calls ∧
    q.IsAll ⟨known, [⟨turns, .resume q.number⟩], timers⟩

namespace At

lemma isAll_resume {turns : Nat} {known : Moment} {timers : List (Timer Cue)}
    (h : ∀ t ∈ timers, t.entry.cue.isAwaitedBy q.number = true) :
    q.IsAll ⟨known, [⟨turns, .resume q.number⟩], timers⟩ := by
  refine ⟨?_, h⟩
  intro p hp
  obtain rfl := List.mem_singleton.mp hp
  simp [Cue.isAwaitedBy]

/-- an answer that takes no time -/
lemma learns_atOnce (h : s.At q (.asking q.next used) (q.asking now) script calls) {answer : Answer}
    (hscript : BenchBulb.nextReply script = (.atOnce, answer, left)) :
    s.Learns q used (some (q.result answer)) now left (calls ++ [q.call]) := by
  obtain ⟨t, ht, hwalk⟩ := h.walk rfl Agenda.next?_ready
  refine ⟨1, _, 1, _, by omega, hwalk _ _ (.refl _), ht.attempt_atOnce hscript, isAll_resume ?_⟩
  simp

/-- an answer that is there with the next turn -/
lemma learns_instant (h : s.At q (.asking q.next used) (q.asking now) script calls)
    {duration : Duration} {answer : Answer} (hinstant : duration.isInstant = true)
    (hscript : BenchBulb.nextReply script = (.lasting duration, answer, left)) :
    s.Learns q used (some (q.result answer)) now left (calls ++ [q.call]) := by
  obtain ⟨t, ht, hwalk⟩ := h.walk rfl Agenda.next?_ready
  have hsent := ht.attempt_lasting hscript
  rw [Agenda.pause, if_pos hinstant] at hsent
  obtain ⟨u, hu, hwalk'⟩ := hsent.walk rfl Agenda.next?_ready
  refine ⟨2, _, 1, _, by omega, hwalk _ _ (hwalk' _ _ (.refl _)), hu.arrive answer, isAll_resume ?_⟩
  simp

/-- an answer that takes its time, but comes before the time to answer is over -/
lemma learns_delayed (h : s.At q (.asking q.next used) (q.asking now) script calls) {delay : Rat}
    {answer : Answer} (hdelay : 0 < delay) (hpunctual : now.later delay < now.later q.timeout)
    (hscript : BenchBulb.nextReply script = (.lasting (.seconds delay), answer, left)) :
    s.Learns q used (some (q.result answer)) (max now (now.later delay)) left (calls ++ [q.call]) := by
  obtain ⟨t, ht, hwalk⟩ := h.walk rfl Agenda.next?_ready
  have hsent := ht.attempt_lasting hscript
  rw [Inquiry.pause_arrive hdelay, if_pos hpunctual] at hsent
  obtain ⟨joined, waiting, htimers, hnext⟩ := Agenda.next?_timers now
    (show (q.arrival answer (now.later delay)).entry.turns = 1 from rfl)
    (fun t ht => by rw [List.mem_singleton.mp ht]; rfl : ∀ t ∈ [q.deadline now], t.entry.turns = 1)
  obtain ⟨u, hu, hwalk'⟩ := hsent.walk rfl hnext
  have hcome := hu.arrive answer
  cases joined with
  | nil =>
    refine ⟨2, _, 1, waiting, by omega, hwalk _ _ (hwalk' _ _ (.refl _)), hcome, isAll_resume ?_⟩
    rw [← show [q.deadline now] = waiting from htimers]
    simp
  | cons timer joined =>
    -- the time to answer is over at the same moment, behind the answer
    obtain ⟨rfl, hnone⟩ := List.cons.inj htimers
    obtain ⟨rfl, rfl⟩ := List.nil_eq_append_iff.mp hnone
    obtain ⟨v, hv, hwalk''⟩ := hcome.walk rfl Agenda.next?_ready
    exact ⟨3, _, 1, [], by omega, hwalk _ _ (hwalk' _ _ (hwalk'' _ _ (.refl _))),
      hv.expire_answered, isAll_resume (by simp)⟩

/-- no answer before the time to answer is over -/
lemma learns_late (h : s.At q (.asking q.next used) (q.asking now) script calls)
    {duration : Duration} {answer : Answer}
    (hlate : ∀ delay, duration = .seconds delay →
      0 < delay ∧ ¬ now.later delay < now.later q.timeout)
    (hscript : BenchBulb.nextReply script = (.lasting duration, answer, left)) :
    s.Learns q used none (max now (now.later q.timeout)) left (calls ++ [q.call]) := by
  obtain ⟨t, ht, hwalk⟩ := h.walk rfl Agenda.next?_ready
  have hsent := ht.attempt_lasting hscript
  obtain ⟨others, hothers, hagenda⟩ : ∃ others : List (Timer Cue),
      (∀ timer ∈ others, timer.entry.turns = 1 ∧ timer.entry.cue.isAwaitedBy q.number = true) ∧
      Agenda.pause ⟨now, [], [q.deadline now]⟩ duration (.arrive q.number .read answer)
        = ⟨now, [], q.deadline now :: others⟩ := by
    cases duration with
    | endless => exact ⟨[], by simp, rfl⟩
    | seconds delay =>
      obtain ⟨hdelay, hbehind⟩ := hlate delay rfl
      refine ⟨[q.arrival answer (now.later delay)], ?_, ?_⟩
      · intro timer htimer
        rw [List.mem_singleton.mp htimer]
        exact ⟨rfl, q.isAwaitedBy_arrival answer _⟩
      · rw [Inquiry.pause_arrive hdelay, if_neg hbehind]
  rw [hagenda] at hsent
  obtain ⟨joined, waiting, rfl, hnext⟩ := Agenda.next?_timers now
    (show (q.deadline now).entry.turns = 1 from rfl) fun t ht => (hothers t ht).1
  obtain ⟨u, hu, hwalk'⟩ := hsent.walk rfl hnext
  have hgone := hu.expire ?_
  · exact ⟨2, _, 2, [], by omega, hwalk _ _ (hwalk' _ _ (.refl _)), hgone, isAll_resume (by simp)⟩
  · refine ⟨?_, fun timer ht => (hothers timer (List.mem_append_right _ ht)).2⟩
    intro p hp
    obtain ⟨timer, ht, rfl⟩ := List.mem_map.mp hp
    exact (hothers timer (List.mem_append_left _ ht)).2

/-! ### An echo and what follows -/

/-- the errand takes up what its request has come to -/
lemma learned {result : Option (Except Fault Reply)} {known : Moment} (htimeout : 0 < q.timeout)
    (h : s.Learns q used result known script calls) :
    ∃ n t agenda, n ≤ 4 ∧ Walk q.number n s t ∧
      match Query.judge q.handle q.maxRetries used result with
      | .take state => t.At q (.over (.ok (.state q.handle state))) agenda script calls
      | .again retries => t.At q (.asking q.next retries) (q.asking known) script calls
      | .give fault => t.At q (.over (.error fault)) agenda script calls := by
  obtain ⟨n, t, turns, timers, hn, hwalk, ht, hall⟩ := h
  obtain ⟨u, hu, hlast⟩ := ht.walk rfl (Agenda.next?_alone turns)
  have hresumed := hu.resume ⟨by simp, hall.2⟩ htimeout
  refine ⟨n + 1, _, { now := known }, by omega, hwalk.trans (hlast 0 _ (.refl _)), ?_⟩
  revert hresumed
  cases Query.judge q.handle q.maxRetries used result with
  | take state => exact id
  | again retries => exact id
  | give fault => exact id

/-- a request comes to its echo, when the script says -/
lemma hears (h : s.At q (.asking q.next used) (q.asking now) (reply :: script) calls) :
    ∃ result, s.Learns q used result (reply.knownAt q.timeout now) script (calls ++ [q.call]) ∧
      Query.judge q.handle q.maxRetries used result
        = (reply.echo q.handle.serial q.bulb.state q.timeout now).verdict q.handle q.maxRetries
          used := by
  cases reply with
  | silence =>
    refine ⟨none, h.learns_late ?_ rfl, rfl⟩
    rintro delay ⟨⟩
  | fault failure =>
    refine ⟨_, h.learns_atOnce rfl, ?_⟩
    cases failure <;> rfl
  | answer delay impostor =>
    have hanswered : Query.judge q.handle q.maxRetries used
        (some (q.result ((impostor.map Answer.impostor).getD .ok)))
        = (if impostor.getD q.handle.serial = q.handle.serial then Echo.right q.bulb.state
            else .wrong).verdict q.handle q.maxRetries used := by
      cases impostor with
      | none => simp [Inquiry.result, Query.judge, Echo.verdict]
      | some serial =>
        simp only [Option.map_some, Option.getD_some, Inquiry.result, Query.judge]
        split <;> rfl
    match delay with
    | none => exact ⟨_, h.learns_atOnce rfl, hanswered⟩
    | some .endless =>
      refine ⟨none, h.learns_late ?_ rfl, rfl⟩
      rintro delay ⟨⟩
    | some (.seconds delay) =>
      by_cases hinstant : delay ≤ 0
      · have hpunctual : ScriptedReply.isPunctual q.timeout now (some (.seconds delay)) = true := by
          simp [ScriptedReply.isPunctual, hinstant]
        have hknown : (ScriptedReply.answer (some (.seconds delay)) impostor).knownAt q.timeout now
            = now := if_pos hinstant
        rw [hknown, ScriptedReply.echo, if_pos hpunctual]
        have hduration : (Duration.seconds delay).isInstant = true := decide_eq_true hinstant
        exact ⟨_, h.learns_instant hduration rfl, hanswered⟩
      · have hknown : (ScriptedReply.answer (some (.seconds delay)) impostor).knownAt q.timeout now
            = max now (min (now.later delay) (now.later q.timeout)) := if_neg hinstant
        by_cases hbefore : now.later delay < now.later q.timeout
        · have hpunctual : ScriptedReply.isPunctual q.timeout now (some (.seconds delay)) = true := by
            simp [ScriptedReply.isPunctual, hbefore]
          rw [hknown, min_eq_left hbefore.le, ScriptedReply.echo, if_pos hpunctual]
          exact ⟨_, h.learns_delayed (not_le.mp hinstant) hbefore rfl, hanswered⟩
        · have hlate : ¬ ScriptedReply.isPunctual q.timeout now (some (.seconds delay)) = true := by
            simp [ScriptedReply.isPunctual, hinstant, hbefore]
          rw [hknown, min_eq_right (not_lt.mp hbefore), ScriptedReply.echo, if_neg hlate]
          refine ⟨none, h.learns_late ?_ rfl, rfl⟩
          rintro delay ⟨⟩
          exact ⟨not_le.mp hinstant, hbefore⟩

end At

/-! ### A whole script -/

/-- an inquiry with so many retries used comes to an end with the first echo that decides, and reads
the echoes up to that one, with a request for each -/
def IsDecided (s : Session Bench) (q : Inquiry) (used : Nat) (now : Moment)
    (script : List ScriptedReply) (calls : List Call) : Prop :=
  ∃ before last after outcome,
    echoes q.handle.serial q.bulb.state q.timeout now script = before ++ last :: after ∧
    (∀ echo ∈ before, echo = .wrong ∨ echo = .late) ∧
    used + before.count .late ≤ q.maxRetries ∧
    last.Decides q.handle q.maxRetries (used + before.count .late) outcome ∧
    ∃ n t agenda, n ≤ 4 * (before.length + 1) ∧ Walk q.number n s t ∧
      t.At q (.over outcome) agenda (script.drop (before.length + 1))
        (calls ++ List.replicate (before.length + 1) q.call)

/-- an echo that does not decide is read before the others -/
lemma IsDecided.cons {reply : ScriptedReply} {echo : Echo}
    (h : t.IsDecided q (used + [echo].count .late) (reply.knownAt q.timeout now) script
      (calls ++ [q.call])) (hwalk : Walk q.number n s t) (hn : n ≤ 4)
    (hecho : reply.echo q.handle.serial q.bulb.state q.timeout now = echo)
    (hpassed : echo = .wrong ∨ echo = .late) :
    s.IsDecided q used now (reply :: script) calls := by
  obtain ⟨before, last, after, outcome, hsplit, hbefore, hcount, hdecides, m, u, agenda, hm, hrest,
    hu⟩ := h
  have hused : used + (echo :: before).count .late
      = used + [echo].count .late + before.count .late := by
    rw [← List.singleton_append, List.count_append, Nat.add_assoc]
  refine ⟨echo :: before, last, after, outcome, ?_, ?_, hused ▸ hcount, hused ▸ hdecides, n + m, u,
    agenda, ?_, hwalk.trans hrest, ?_⟩
  · rw [echoes, hecho, hsplit]
    rfl
  · simpa using ⟨hpassed, hbefore⟩
  · rw [List.length_cons]
    omega
  · rw [List.length_cons, List.replicate_succ, List.drop_succ_cons, ← List.singleton_append,
      ← List.append_assoc]
    exact hu

namespace At

/-- by induction on the script: an echo decides, or the inquiry goes on with the rest -/
theorem isDecided (h : s.At q (.asking q.next used) (q.asking now) script calls)
    (htimeout : 0 < q.timeout) (hused : used ≤ q.maxRetries) :
    s.IsDecided q used now script calls := by
  induction script generalizing s now used calls with
  | nil =>
    have hheard : s.Learns q used (some (.ok (.state q.handle q.bulb.state))) now []
        (calls ++ [q.call]) := h.learns_atOnce rfl
    obtain ⟨n, t, agenda, hn, hwalk, ht⟩ := learned htimeout hheard
    simp only [Query.judge, if_true] at ht
    exact ⟨[], _, [], _, rfl, by simp, hused, .right _, n, t, agenda, hn, hwalk, ht⟩
  | cons reply script ih =>
    obtain ⟨result, hheard, hjudge⟩ := h.hears
    obtain ⟨n, t, agenda, hn, hwalk, ht⟩ := learned htimeout hheard
    rw [hjudge] at ht
    cases hecho : reply.echo q.handle.serial q.bulb.state q.timeout now with
    | right state =>
      rw [hecho] at ht
      exact ⟨[], _, _, _, congrArg (· :: _) hecho, by simp, hused, .right _, n, t, agenda, hn,
        hwalk, ht⟩
    | fault failure =>
      rw [hecho] at ht
      exact ⟨[], _, _, _, congrArg (· :: _) hecho, by simp, hused, .fault _, n, t, agenda, hn,
        hwalk, ht⟩
    | wrong =>
      rw [hecho] at ht
      exact (ih ht hused).cons hwalk hn hecho (.inl rfl)
    | late =>
      rw [hecho, Echo.verdict, Query.unanswered] at ht
      by_cases hspent : q.maxRetries ≤ used
      · rw [if_pos (by simpa using hspent)] at ht
        obtain rfl : used = q.maxRetries := by omega
        exact ⟨[], _, _, _, congrArg (· :: _) hecho, by simp, hused, .late rfl, n, t, agenda, hn,
          hwalk, ht⟩
      · rw [if_neg (by simpa using hspent)] at ht
        exact (ih ht (by omega)).cons hwalk hn hecho (.inr rfl)

end At

/-- a query that is given so many steps -/
def inquire (s : Session Bench) (fuel client : Nat) (handle : Handle) (timeout : Rat)
    (maxRetries : Nat) : Session Bench :=
  let e := s.errands.length
  let errand := Errand.query client handle (.seconds timeout) maxRetries
  drive (fun s => s.isErrandOver e) fuel ({ s with errands := s.errands ++ [errand] }.begin e errand)

/-- A query is exact on every script.  The script of a bulb is read up to the first echo that decides:
an answer under its serial, a fault that is no timeout, or the timeout behind the last retry.  With
one request for each echo that is read, the query gives back that state, raises that fault, or is
given up with all retries used.  An answer under another serial costs no retry and is never taken. -/
theorem query_exact {s : Session Bench} {client : Nat} {handle : Handle} {timeout : Rat}
    (maxRetries : Nat) {bulb : BenchBulb} {asker : BenchClient} (htimeout : 0 < timeout)
    (hidle : s.agenda.isEmpty = true) (hbulb : s.network.find? handle.serial = some bulb)
    (hclient : s.network.clients[client]? = some asker) :
    ∃ before last after outcome,
      echoes handle.serial bulb.state timeout s.agenda.now bulb.replies = before ++ last :: after ∧
      (∀ echo ∈ before, echo = .wrong ∨ echo = .late) ∧
      before.count .late ≤ maxRetries ∧
      last.Decides handle maxRetries (before.count .late) outcome ∧
      (∀ fuel ≥ 4 * (before.length + 1), let t := s.inquire fuel client handle timeout maxRetries
        (t.errands[s.errands.length]?).bind Errand.outcome? = some outcome ∧
        t.network.find? handle.serial
          = some { bulb with replies := bulb.replies.drop (before.length + 1) } ∧
        (t.network.clients[client]?).map (·.calls)
          = some (asker.calls ++ List.replicate (before.length + 1) ⟨handle, .read⟩)) ∧
      (4 * (before.length + 1) ≤ patience →
        (s.query client handle (.seconds timeout) maxRetries).2 = some outcome) := by
  let q : Inquiry := ⟨s.errands.length, client, handle, timeout, maxRetries, bulb⟩
  have hfresh : ({ s with errands := s.errands ++ [q.errand (.fresh (.ask q.next))] } :
      Session Bench).At q (.fresh (.ask q.next)) { now := s.agenda.now } bulb.replies
        asker.calls := by
    refine ⟨by simp [q], ?_, hbulb, by simp [q, hclient]⟩
    obtain ⟨⟨now, line, timers⟩⟩ := s
    obtain ⟨hline, htimers⟩ := Bool.and_eq_true_iff.mp hidle
    obtain rfl := List.isEmpty_iff.mp hline
    obtain rfl := List.isEmpty_iff.mp htimers
    rfl
  have hasked := hfresh.ask htimeout rfl 0
  obtain ⟨before, last, after, outcome, hsplit, hbefore, hcount, hdecides, n, t, agenda, hn, hwalk,
    ht⟩ := hasked.isDecided htimeout (Nat.zero_le _)
  rw [Nat.zero_add] at hcount hdecides
  have hinquire : ∀ fuel ≥ 4 * (before.length + 1),
      s.inquire fuel client handle timeout maxRetries = t :=
    fun fuel hfuel => hwalk.drive ht.isErrandOver (hn.trans hfuel)
  have houtcome : (t.errands[s.errands.length]?).bind Errand.outcome? = some outcome := by
    rw [ht.errand]
    rfl
  refine ⟨before, last, after, outcome, hsplit, hbefore, hcount, hdecides, ?_, ?_⟩
  · intro fuel hfuel
    rw [hinquire fuel hfuel]
    exact ⟨houtcome, ht.bulb, ht.calls⟩
  · intro hpatience
    show ((s.inquire patience client handle timeout maxRetries).errands[_]?).bind _ = _
    rw [hinquire patience hpatience]
    exact houtcome

/-- a light whose script has answers of all kinds -/
def moody : BenchBulb :=
  { handle := { serial := "d073d5000001", label := "Porch", host := "10.0.0.1" }
    state := { label := "Porch", power := 65535, hue := 0, saturation := 0, brightness := 65535,
               kelvin := 3500 }
    replies := [.answer none (some "d073d5000002"), .answer (some (.seconds 9)) none,
      .fault (.timeout "no reply"), .answer (some (.seconds (1 / 2))) none,
      .fault (.unreachable "gone")] }

theorem query_exact_moody :
    let asker : BenchClient := { calls := [] }
    let s : Session Bench := { network := { bulbs := [moody], clients := [asker] } }
    (0 : Rat) < 5 ∧ s.agenda.isEmpty = true ∧ s.network.find? moody.handle.serial = some moody ∧
    s.network.clients[0]? = some asker ∧
    (s.query 0 moody.handle (.seconds 5) 1).2 = some (.error (.silent "Porch" 1)) ∧
    (s.query 0 moody.handle (.seconds 5) 2).2 = some (.ok (.state moody.handle moody.state)) := by
  intro asker s
  have htimeout : (0 : Rat) < 5 := by decide
  have hidle : s.agenda.isEmpty = true := rfl
  have hbulb : s.network.find? moody.handle.serial = some moody := rfl
  have hclient : s.network.clients[0]? = some asker := rfl
  have hechoes : echoes moody.handle.serial moody.state 5 0 moody.replies
      = [.wrong, .late, .late, .right moody.state, .fault (.unreachable "gone"),
        .right moody.state] := by
    decide +kernel
  refine ⟨htimeout, hidle, hbulb, hclient, ?_, ?_⟩
  · obtain ⟨before, last, after, outcome, hsplit, -, hcount, hdecides, -, hquery⟩ :=
      query_exact 1 htimeout hidle hbulb hclient
    rw [show s.agenda.now = 0 from rfl, hechoes] at hsplit
    match before with
    | [] =>
      obtain ⟨rfl, -⟩ := List.cons.inj hsplit
      cases hdecides
    | [_] =>
      simp only [List.cons_append, List.nil_append, List.cons.injEq] at hsplit
      obtain ⟨rfl, rfl, -⟩ := hsplit
      cases hdecides with
      | late hused => exact absurd hused (by decide)
    | [_, _] =>
      simp only [List.cons_append, List.nil_append, List.cons.injEq] at hsplit
      obtain ⟨-, -, rfl, -⟩ := hsplit
      cases hdecides
      exact hquery (by simp [patience])
    | _ :: _ :: _ :: _ =>
      simp only [List.cons_append, List.cons.injEq] at hsplit
      obtain ⟨rfl, rfl, rfl, -⟩ := hsplit
      simp at hcount
  · obtain ⟨before, last, after, outcome, hsplit, hbefore, hcount, hdecides, -, hquery⟩ :=
      query_exact 2 htimeout hidle hbulb hclient
    rw [show s.agenda.now = 0 from rfl, hechoes] at hsplit
    match before with
    | [] =>
      obtain ⟨rfl, -⟩ := List.cons.inj hsplit
      cases hdecides
    | [_] =>
      simp only [List.cons_append, List.nil_append, List.cons.injEq] at hsplit
      obtain ⟨rfl, rfl, -⟩ := hsplit
      cases hdecides with
      | late hused => exact absurd hused (by decide)
    | [_, _] =>
      simp only [List.cons_append, List.nil_append, List.cons.injEq] at hsplit
      obtain ⟨rfl, rfl, rfl, -⟩ := hsplit
      cases hdecides with
      | late hused => exact absurd hused (by decide)
    | [_, _, _] =>
      simp only [List.cons_append, List.nil_append, List.cons.injEq] at hsplit
      obtain ⟨-, -, -, rfl, -⟩ := hsplit
      cases hdecides
      exact hquery (by simp [patience])
    | _ :: _ :: _ :: fourth :: _ =>
      simp only [List.cons_append, List.cons.injEq] at hsplit
      obtain ⟨-, -, -, rfl, -⟩ := hsplit
      have hpassed := hbefore (.right moody.state) (by simp)
      simp at hpassed

end Session

end Lamplighter
