import Mathlib.Algebra.Order.Ring.Unbundled.Rat
import Mathlib.Data.List.Basic
import Lamplighter.Network.Bench
import Lamplighter.Proofs.Run.Reached

/-!
# Corners: what a step leaves alone

* `Session.corner`    what a session has of one bulb: the bulb itself, the requests that it was sent,
                      and the faults that were raised for it;
* `Session.desk`      what it has of one errand: the errand, and the cues that it waits for;
* `Run.plan`          what a run is about, which never changes once it looks for bulbs;
* `Session.Spares`    a part of a step leaves one corner and one desk alone, and every plan.

The errands of one bulb spare the corners of the others and the desks of the other errands.  So do
the runs, but for the desks of the effects that they dispatch.
-/

set_option linter.unusedSectionVars false

namespace Lamplighter

open Deeds

/-! ### Agendas -/

namespace Agenda

variable {α : Type} {agenda : Agenda α} {p : α → Bool} {cue : α}

/-- the timers stand in the order in which they are due -/
def IsOrdered (agenda : Agenda α) : Prop :=
  agenda.timers.Pairwise fun t t' => t.due ≤ t'.due

lemma mem_insert {timers : List (Timer α)} {timer t : Timer α} :
    t ∈ insert timers timer ↔ t = timer ∨ t ∈ timers := by
  rw [(insert_perm timers timer).mem_iff, List.mem_cons]

lemma pairwise_insert {timers : List (Timer α)}
    (h : timers.Pairwise fun t t' => t.due ≤ t'.due) (timer : Timer α) :
    (insert timers timer).Pairwise fun t t' => t.due ≤ t'.due := by
  induction timers with
  | nil => exact List.pairwise_singleton _ _
  | cons first rest ih =>
    obtain ⟨hfirst, hrest⟩ := List.pairwise_cons.mp h
    unfold insert
    split
    · rename_i hlt
      refine List.pairwise_cons.mpr ⟨?_, h⟩
      intro t ht
      rcases List.mem_cons.mp ht with rfl | ht
      · exact Rat.le_of_lt hlt
      · exact Rat.le_trans (Rat.le_of_lt hlt) (hfirst t ht)
    · rename_i hle
      refine List.pairwise_cons.mpr ⟨?_, ih hrest⟩
      intro t ht
      rcases mem_insert.mp ht with rfl | ht
      · exact Rat.not_lt.mp hle
      · exact hfirst t ht

lemma IsOrdered.after (h : agenda.IsOrdered) (duration : Duration) (turns : Nat) (cue : α) :
    (agenda.after duration turns cue).IsOrdered := by
  cases duration with
  | endless => exact h
  | seconds seconds => exact pairwise_insert h _

lemma IsOrdered.pause (h : agenda.IsOrdered) (duration : Duration) (cue : α) :
    (agenda.pause duration cue).IsOrdered := by
  unfold Agenda.pause
  split
  · exact h
  · exact h.after duration 1 cue

lemma IsOrdered.drop (h : agenda.IsOrdered) (unwanted : α → Bool) :
    (agenda.drop unwanted).IsOrdered :=
  h.filter _

lemma IsOrdered.advance (h : agenda.IsOrdered) : agenda.advance.IsOrdered := by
  unfold Agenda.advance
  split
  · exact h
  · exact h.sublist (List.dropWhile_sublist _)

/-- the timers keep their order when a cue is taken -/
lemma IsOrdered.next (h : agenda.IsOrdered) {rest : Agenda α} (hnext : agenda.next? = some (cue, rest)) :
    rest.IsOrdered := by
  unfold next? at hnext
  split at hnext
  · obtain ⟨rfl, rfl⟩ := Prod.mk.inj (Option.some.inj hnext)
    exact h
  · dsimp only at hnext
    split at hnext
    · obtain ⟨rfl, rfl⟩ := Prod.mk.inj (Option.some.inj hnext)
      exact h.advance
    · cases hnext

/-! ### The part of an agenda that is left when cues are dropped -/

lemma drop_soon (hcue : p cue = true) (turns : Nat) :
    (agenda.soon turns cue).drop p = agenda.drop p := by
  simp [drop, soon, hcue]

lemma drop_soon_kept (hcue : p cue = false) (turns : Nat) :
    (agenda.soon turns cue).drop p = (agenda.drop p).soon turns cue := by
  simp [drop, soon, hcue]

lemma filter_insert (timers : List (Timer α)) (timer : Timer α)
    (hcue : p timer.entry.cue = true) :
    (insert timers timer).filter (fun t => !p t.entry.cue)
      = timers.filter fun t => !p t.entry.cue := by
  induction timers with
  | nil => simp [insert, hcue]
  | cons t rest ih =>
    unfold insert
    split
    · rw [List.filter_cons_of_neg (by simp [hcue])]
    · rw [List.filter_cons, List.filter_cons, ih]

lemma drop_after (hcue : p cue = true) (duration : Duration) (turns : Nat) :
    (agenda.after duration turns cue).drop p = agenda.drop p := by
  cases duration with
  | endless => rfl
  | seconds seconds =>
    show (Agenda.mk _ _ (List.filter _ (insert _ _)) : Agenda α) = _
    rw [filter_insert _ _ hcue]
    rfl

lemma insert_of_lt {timers : List (Timer α)} {timer : Timer α}
    (h : ∀ t ∈ timers, timer.due < t.due) : insert timers timer = timer :: timers := by
  cases timers with
  | nil => rfl
  | cons t rest => exact if_pos (h t (List.mem_cons_self ..))

/-- a timer that is kept finds its place among those that are kept -/
lemma filter_insert_kept {timers : List (Timer α)}
    (h : timers.Pairwise fun t t' => t.due ≤ t'.due) (timer : Timer α)
    (hcue : p timer.entry.cue = false) :
    (insert timers timer).filter (fun t => !p t.entry.cue)
      = insert (timers.filter fun t => !p t.entry.cue) timer := by
  induction timers with
  | nil => simp [insert, hcue]
  | cons t rest ih =>
    obtain ⟨hfirst, hrest⟩ := List.pairwise_cons.mp h
    by_cases hlt : timer.due < t.due
    · have hall : ∀ t' ∈ t :: rest, timer.due < t'.due := by
        intro t' ht'
        rcases List.mem_cons.mp ht' with rfl | ht'
        · exact hlt
        · exact lt_of_lt_of_le hlt (hfirst t' ht')
      rw [insert_of_lt hall, List.filter_cons_of_pos (by simp [hcue])]
      exact (insert_of_lt fun t' ht' => hall t' (List.mem_filter.mp ht').1).symm
    · have hbehind : insert (t :: rest) timer = t :: insert rest timer := if_neg hlt
      rw [hbehind, List.filter_cons, List.filter_cons, ih hrest]
      split
      · exact (if_neg hlt).symm
      · rfl

lemma drop_after_kept (h : agenda.IsOrdered) (hcue : p cue = false) (duration : Duration)
    (turns : Nat) :
    (agenda.after duration turns cue).drop p = (agenda.drop p).after duration turns cue := by
  cases duration with
  | endless => rfl
  | seconds seconds =>
    show (Agenda.mk _ _ (List.filter _ (insert _ _)) : Agenda α) = _
    rw [filter_insert_kept h _ hcue]
    rfl

lemma drop_pause (hcue : p cue = true) (duration : Duration) :
    (agenda.pause duration cue).drop p = agenda.drop p := by
  unfold pause
  split
  · exact drop_soon hcue 0
  · exact drop_after hcue duration 1

lemma drop_drop (q : α → Bool) (h : ∀ cue, q cue = true → p cue = true) :
    (agenda.drop q).drop p = agenda.drop p := by
  have hboth : ∀ cue, (!p cue && !q cue) = !p cue := by
    intro cue
    have := h cue
    cases hp : p cue <;> cases hq : q cue <;> simp_all
  simp only [drop, List.filter_filter, hboth]

end Agenda

/-! ### The bench -/

namespace Bench

variable {bench : Bench} {serial other : String}

/-- the requests for a bulb that a client has noted, if there is such a client -/
def callsFor (bench : Bench) (client : Nat) (serial : String) : Option (List Call) :=
  bench.clients[client]?.map fun c => c.calls.filter fun call => call.handle.serial == serial

lemma find?_modifyBulb_ne (h : serial ≠ other) (bulbs : List BenchBulb)
    {change : BenchBulb → BenchBulb} (hchange : ∀ b, b.handle.serial = serial →
      (change b).handle.serial = serial) :
    (modifyBulb bulbs serial change).find? (fun b => b.handle.serial == other)
      = bulbs.find? fun b => b.handle.serial == other := by
  induction bulbs with
  | nil => rfl
  | cons b rest ih =>
    unfold modifyBulb
    split
    · rename_i hb
      have hb : b.handle.serial = serial := by simpa using hb
      have hnew := hchange b hb
      rw [List.find?_cons_of_neg (by simp [hnew, h]), List.find?_cons_of_neg (by simp [hb, h])]
    · rw [List.find?_cons, List.find?_cons, ih]

lemma find?_modify_ne (h : serial ≠ other) {change : BenchBulb → BenchBulb}
    (hchange : ∀ b, b.handle.serial = serial → (change b).handle.serial = serial) :
    (bench.modify serial change).find? other = bench.find? other :=
  find?_modifyBulb_ne h bench.bulbs hchange

lemma serial_of_find? {bulb : BenchBulb} (h : bench.find? serial = some bulb) :
    bulb.handle.serial = serial := by
  simpa using List.find?_some h

/-- a client is changed in what is not about its calls -/
lemma callsFor_modifyClient (client q : Nat) {change : BenchClient → BenchClient}
    (h : ∀ c, (change c).calls.filter (fun call => call.handle.serial == serial)
      = c.calls.filter fun call => call.handle.serial == serial) :
    (bench.modifyClient q change).callsFor client serial = bench.callsFor client serial := by
  show (bench.clients.modify q change)[client]?.map _ = _
  rw [List.getElem?_modify]
  cases hget : bench.clients[client]? with
  | none => simp [callsFor, hget]
  | some noted =>
    simp only [callsFor, hget, Option.map_eq_map, Option.map_some]
    split
    · rw [h]
    · rfl

lemma take_handle (bulb : BenchBulb) (request : Request) :
    (bulb.take request).1.handle = bulb.handle := by
  cases request <;> rfl

lemma find?_send_ne (h : serial ≠ other) {handle : Handle} (hhandle : handle.serial = serial)
    (client : Nat) (request : Request) :
    (bench.send client handle request).1.find? other = bench.find? other := by
  subst hhandle
  unfold Bench.send
  dsimp only
  split
  · rfl
  · rename_i bulb hbulb
    have hserial := (congrArg Handle.serial (take_handle bulb request)).trans (serial_of_find? hbulb)
    exact find?_modify_ne h fun _ _ => hserial

lemma callsFor_send_ne (h : serial ≠ other) {handle : Handle} (hhandle : handle.serial = serial)
    (client q : Nat) (request : Request) :
    (bench.send q handle request).1.callsFor client other = bench.callsFor client other := by
  have hnoted : (bench.modifyClient q fun c => { c with
      calls := c.calls ++ [⟨handle, request⟩] }).callsFor client other = bench.callsFor client other := by
    refine callsFor_modifyClient client q ?_
    intro c
    simp [hhandle, h]
  unfold Bench.send
  dsimp only
  split
  · exact hnoted
  · exact hnoted

lemma find?_settle_ne (h : serial ≠ other) {handle : Handle} (hhandle : handle.serial = serial)
    (request : Request) (answer : Answer) :
    (bench.settle handle request answer).1.find? other = bench.find? other := by
  subst hhandle
  unfold Bench.settle
  split
  · rfl
  · rfl
  · rfl
  · exact find?_modify_ne h fun _ hb => hb

@[simp] lemma callsFor_settle (handle : Handle) (request : Request) (answer : Answer)
    (client : Nat) : (bench.settle handle request answer).1.callsFor client serial
      = bench.callsFor client serial := by
  unfold Bench.settle
  split <;> rfl

@[simp] lemma found_settle (handle : Handle) (request : Request) (answer : Answer) :
    (bench.settle handle request answer).2.2 = [] := by
  unfold Bench.settle
  split <;> rfl

end Bench

/-! ### Corners, desks and plans -/

structure Corner where
  bulb : Option BenchBulb
  calls : Option (List Call)
  faults : List (Handle × Fault)

structure Desk where
  errand : Option Errand
  cues : Agenda Cue

structure Plan where
  action : Action
  settings : Settings
  client : Nat
  audience : Audience
  hasStore : Bool
  saved : Option Saved

def Run.plan (run : Run) : Plan :=
  { run with }

namespace Session

variable {s t u : Session Bench} {c r e q i : Nat} {x : String} {k : Handle → Prop}
  {errand : Errand}

/-- the faults that a run noted for a bulb -/
def faultsOf (s : Session Bench) (r : Nat) (serial : String) : List (Handle × Fault) :=
  ((s.runs[r]?).map fun run => (raised run.deeds).filter fun f => f.1.serial == serial).getD []

def corner (s : Session Bench) (client r : Nat) (serial : String) : Corner where
  bulb := s.network.find? serial
  calls := s.network.callsFor client serial
  faults := s.faultsOf r serial

/-- whether a run still counts an errand does not matter to the errand -/
def desk (s : Session Bench) (e : Nat) : Desk where
  errand := s.errands[e]?.map fun errand => { errand with isAttached := true }
  cues := s.agenda.drop fun cue => !cue.isAwaitedBy e

/-- the bulbs that a run knows, or is about to hear of, are of some kind -/
structure Knows (s : Session Bench) (r : Nat) (k : Handle → Prop) : Prop where
  signals : ∀ client session handle, .signal (.bulb client session handle) ∈ s.agenda.cues →
    k handle
  messages : ∀ run, s.runs[r]? = some run → ∀ handle ∈ bulbs (queued run.deeds), k handle

structure Spares (c r : Nat) (x : String) (e : Nat) (k : Handle → Prop)
    (s t : Session Bench) : Prop where
  corner : t.corner c r x = s.corner c r x
  desk : t.desk e = s.desk e
  plans : t.runs.map Run.plan = s.runs.map Run.plan
  order : s.agenda.IsOrdered → t.agenda.IsOrdered
  known : s.Knows r k → t.Knows r k
  clocks : ∀ cue, cue.isClockOf r = true → cue ∈ s.agenda.cues → cue ∈ t.agenda.cues
  store : t.store = s.store

lemma plans_modifyRun (s : Session Bench) (q : Nat) {change : Run → Run}
    (hplan : ∀ run, (change run).plan = run.plan) :
    (s.modifyRun q change).runs.map Run.plan = s.runs.map Run.plan := by
  show (s.runs.modify q change).map Run.plan = _
  apply List.ext_getElem?
  intro j
  rw [List.getElem?_map, List.getElem?_map, List.getElem?_modify]
  cases s.runs[j]? with
  | none => rfl
  | some run =>
    simp only [Option.map_eq_map, Option.map_some]
    split
    · rw [hplan]
    · rfl

lemma corner_modifyRun (s : Session Bench) (q : Nat) {change : Run → Run}
    (hfaults : ∀ run, (raised (change run).deeds).filter (fun f => f.1.serial == x)
      = (raised run.deeds).filter fun f => f.1.serial == x) :
    (s.modifyRun q change).corner c r x = s.corner c r x := by
  have hsame : (s.modifyRun q change).faultsOf r x = s.faultsOf r x := by
    unfold faultsOf
    by_cases hq : q = r
    · subst hq
      rw [runs_modifyRun_self, Option.map_map]
      exact congrArg (fun f => (Option.map f s.runs[q]?).getD []) (funext hfaults)
    · rw [runs_modifyRun_ne hq]
  unfold Session.corner
  rw [hsame]
  rfl

lemma Knows.modifyRun (h : s.Knows r k) (q : Nat) {change : Run → Run}
    (hbulbs : ∀ run, ∀ handle ∈ bulbs (queued (change run).deeds),
      handle ∈ bulbs (queued run.deeds) ∨ k handle) : (s.modifyRun q change).Knows r k := by
  refine ⟨h.signals, ?_⟩
  intro run hrun handle hmem
  by_cases hq : q = r
  · subst hq
    rw [runs_modifyRun_self] at hrun
    obtain ⟨run, hget, rfl⟩ := Option.map_eq_some_iff.mp hrun
    exact (hbulbs run handle hmem).elim (h.messages run hget handle) id
  · rw [runs_modifyRun_ne hq] at hrun
    exact h.messages run hrun handle hmem

namespace Spares

theorem refl (s : Session Bench) : Spares c r x e k s s :=
  ⟨rfl, rfl, rfl, id, id, fun _ _ => id, rfl⟩

theorem trans (h : Spares c r x e k s t) (h' : Spares c r x e k t u) :
    Spares c r x e k s u :=
  ⟨h'.corner.trans h.corner, h'.desk.trans h.desk, h'.plans.trans h.plans, h'.order ∘ h.order,
    h'.known ∘ h.known, fun cue hcue => h'.clocks cue hcue ∘ h.clocks cue hcue,
    h'.store.trans h.store⟩

/-! ### Parts of a session -/

/-- a cue is set that the errand does not wait for -/
lemma of_cue {agenda : Agenda Cue} (cue : Cue)
    (hcues : agenda.cues.Perm s.agenda.cues ∨ agenda.cues.Perm (cue :: s.agenda.cues))
    (hsignal : ∀ client session handle, cue = .signal (.bulb client session handle) → k handle)
    (hdrop : agenda.drop (fun cue => !cue.isAwaitedBy e)
      = s.agenda.drop fun cue => !cue.isAwaitedBy e)
    (horder : s.agenda.IsOrdered → agenda.IsOrdered) : Spares c r x e k s { s with agenda } := by
  refine ⟨rfl, congrArg (Desk.mk _) hdrop, rfl, horder, ?_, ?_, rfl⟩
  · intro hknown
    refine ⟨?_, hknown.messages⟩
    intro client session handle hmem
    rcases hcues with hcues | hcues
    · exact hknown.signals client session handle (hcues.mem_iff.mp hmem)
    · rcases List.mem_cons.mp (hcues.mem_iff.mp hmem) with heq | hold
      · exact hsignal client session handle heq.symm
      · exact hknown.signals client session handle hold
  · intro clock _ hmem
    rcases hcues with hcues | hcues
    · exact hcues.mem_iff.mpr hmem
    · exact hcues.mem_iff.mpr (List.mem_cons_of_mem _ hmem)

lemma soon (s : Session Bench) (turns : Nat) {cue : Cue} (hcue : cue.isAwaitedBy e = false)
    (hsignal : ∀ client session handle, cue = .signal (.bulb client session handle) → k handle) :
    Spares c r x e k s (s.soon turns cue) :=
  of_cue cue (.inr (s.agenda.cues_soon turns cue)) hsignal
    (Agenda.drop_soon (by simp [hcue]) turns) id

lemma after (s : Session Bench) (duration : Duration) (turns : Nat) {cue : Cue}
    (hcue : cue.isAwaitedBy e = false)
    (hsignal : ∀ client session handle, cue = .signal (.bulb client session handle) → k handle) :
    Spares c r x e k s { s with agenda := s.agenda.after duration turns cue } :=
  of_cue cue (s.agenda.cues_after duration turns cue) hsignal
    (Agenda.drop_after (by simp [hcue]) duration turns) fun h => h.after duration turns cue

lemma pause (s : Session Bench) (duration : Duration) {cue : Cue}
    (hcue : cue.isAwaitedBy e = false)
    (hsignal : ∀ client session handle, cue = .signal (.bulb client session handle) → k handle) :
    Spares c r x e k s { s with agenda := s.agenda.pause duration cue } :=
  of_cue cue (s.agenda.cues_pause duration cue) hsignal
    (Agenda.drop_pause (by simp [hcue]) duration) fun h => h.pause duration cue

lemma dropAwaited (s : Session Bench) (hi : i ≠ e) : Spares c r x e k s (s.dropAwaited i) := by
  have hdrop : (s.agenda.drop fun cue => cue.isAwaitedBy i).drop (fun cue => !cue.isAwaitedBy e)
      = s.agenda.drop fun cue => !cue.isAwaitedBy e := by
    refine Agenda.drop_drop _ ?_
    intro cue hcue
    cases cue <;> simp_all [Cue.isAwaitedBy]
  refine ⟨rfl, congrArg (Desk.mk _) hdrop, rfl, fun h => h.drop _, ?_, ?_, rfl⟩
  · intro hknown
    refine ⟨?_, hknown.messages⟩
    intro client session handle hmem
    rw [Session.dropAwaited, Agenda.cues_drop] at hmem
    exact hknown.signals client session handle (List.mem_filter.mp hmem).1
  · intro clock hclock hmem
    rw [Session.dropAwaited, Agenda.cues_drop]
    refine List.mem_filter.mpr ⟨hmem, ?_⟩
    cases clock <;> first | rfl | cases hclock

lemma network (s : Session Bench) {network : Bench} (hfind : network.find? x = s.network.find? x)
    (hcalls : network.callsFor c x = s.network.callsFor c x) :
    Spares c r x e k s { s with network } := by
  refine ⟨?_, rfl, rfl, id, fun h => ⟨h.signals, h.messages⟩, fun _ _ => id, rfl⟩
  unfold Session.corner
  rw [hfind, hcalls]
  rfl

lemma modifyRun (s : Session Bench) (q : Nat) {change : Run → Run}
    (hplan : ∀ run, (change run).plan = run.plan)
    (hfaults : ∀ run, (raised (change run).deeds).filter (fun f => f.1.serial == x)
      = (raised run.deeds).filter fun f => f.1.serial == x)
    (hbulbs : ∀ run, ∀ handle ∈ bulbs (queued (change run).deeds),
      handle ∈ bulbs (queued run.deeds) ∨ k handle) :
    Spares c r x e k s (s.modifyRun q change) :=
  ⟨corner_modifyRun s q hfaults, rfl, plans_modifyRun s q hplan, id,
    fun h => h.modifyRun q hbulbs, fun _ _ => id, rfl⟩

/-- a fault of another bulb goes on record -/
lemma note (s : Session Bench) (q : Nat) {handle : Handle} (hx : handle.serial ≠ x) (fault : Fault) :
    Spares c r x e k s (s.note q (.raised handle fault)) := by
  refine modifyRun s q (fun _ => rfl) ?_ fun _ _ => .inl
  intro run
  show (raised run.deeds ++ [(handle, fault)]).filter _ = _
  simp [hx]

lemma modifyErrand (s : Session Bench) {change : Errand → Errand}
    (h : i = e → ∀ errand, { change errand with isAttached := true }
      = { errand with isAttached := true }) :
    Spares c r x e k s (s.modifyErrand i change) := by
  refine ⟨rfl, ?_, rfl, id, fun h => ⟨h.signals, h.messages⟩, fun _ _ => id, rfl⟩
  unfold Session.desk
  congr 1
  show (s.errands.modify i change)[e]?.map _ = _
  rw [List.getElem?_modify]
  cases s.errands[e]? with
  | none => rfl
  | some errand =>
    simp only [Option.map_eq_map, Option.map_some]
    split
    · rename_i hi
      rw [h hi]
    · rfl

lemma setStage (s : Session Bench) (hi : i ≠ e) (stage : Stage) :
    Spares c r x e k s (s.setStage i stage) :=
  modifyErrand s fun h => absurd h hi

lemma emit (s : Session Bench) (q : Nat) (kind : EventKind) (message : String)
    (device : Option String) (data : Option Json) :
    Spares c r x e k s (s.emit q kind message device data).1 := by
  obtain ⟨count, events, _, -, htold⟩ := s.emit_frame q kind message device data
  rw [htold]
  have hadded : Spares c r x e k s (s.modifyRun q fun run =>
      { run with emitted := run.emitted + count, events := run.events ++ events }) :=
    modifyRun s q (fun _ => rfl) (fun _ => rfl) fun _ _ => .inl
  exact hadded.trans
    ⟨rfl, rfl, rfl, id, fun h => ⟨h.signals, h.messages⟩, fun _ _ => id, rfl⟩

lemma post (s : Session Bench) (q : Nat) {message : Message}
    (hkind : ∀ handle, message = .seen handle → k handle) :
    Spares c r x e k s (s.post q message) := by
  have hbulbs : ∀ run : Run, ∀ handle ∈ bulbs (queued (.queued message :: run.deeds)),
      handle ∈ bulbs (queued run.deeds) ∨ k handle := by
    intro run handle hmem
    have hmem : handle ∈ bulbs (queued run.deeds ++ [message]) := hmem
    rw [bulbs_append, List.mem_append] at hmem
    refine hmem.imp id ?_
    cases message with
    | seen bulb =>
      intro hnew
      obtain rfl : handle = bulb := List.mem_singleton.mp hnew
      exact hkind handle rfl
    | _ => exact fun hnew => by cases hnew
  have hposted : Spares c r x e k s (s.posting q message) :=
    modifyRun s q (fun _ => rfl) (fun _ => rfl) hbulbs
  cases s.post_course q message with
  | absent _ result =>
    rw [result]
    exact refl s
  | wakes _ _ result =>
    rw [result]
    exact hposted.trans (soon _ 0 rfl (by simp))
  | queued _ _ result =>
    rw [result]
    exact hposted

lemma hear (s : Session Bench) (client : Nat) {handle : Handle} (hkind : k handle) :
    Spares c r x e k s (s.hear client handle) := by
  refine hear_induction (refl s)
    (fun _ => ⟨rfl, rfl, rfl, id, fun h => ⟨h.signals, h.messages⟩, fun _ _ => id, rfl⟩)
    (fun q _ => modifyRun s q (fun _ => rfl) (fun _ => rfl) fun _ _ => .inl)
    fun t q ht => ht.trans (post t q ?_)
  intro bulb heq
  obtain rfl := Message.seen.inj heq
  exact hkind

lemma hearAll (s : Session Bench) (client : Nat) {handles : List Handle}
    (hkind : ∀ handle ∈ handles, k handle) :
    Spares c r x e k s (s.hearAll client handles) :=
  hearAll_induction (refl s) fun t handle hmem ht => ht.trans (hear t client (hkind handle hmem))

/-! ### Errands of other bulbs -/

lemma checkGathered (s : Session Bench) (q : Nat) (fault : Option Fault) :
    Spares c r x e k s (s.checkGathered q fault) := by
  unfold Session.checkGathered
  split
  · exact refl s
  · split
    · refine Spares.trans ?_ (soon _ 1 rfl (by simp))
      exact modifyRun s q (fun _ => rfl) (fun _ => rfl) fun _ _ => .inl
    · exact refl s

lemma conclude (s : Session Bench) (hi : i ≠ e) (errand : Errand) (isOk : Bool)
    (outcome : Except Fault Reply) : Spares c r x e k s (s.conclude i errand isOk outcome) := by
  have hended := (dropAwaited (c := c) (r := r) (k := k) (x := x) s hi).trans
    (setStage _ hi (.over outcome))
  unfold Session.conclude
  dsimp only
  split
  · exact hended
  · exact ((hended.trans (post _ _ (by simp))).trans (soon _ 0 rfl (by simp))).trans (checkGathered _ _ _)

lemma fail (s : Session Bench) (hi : i ≠ e) (hx : errand.handle.serial ≠ x) (fault : Fault) :
    Spares c r x e k s (s.fail i errand fault) := by
  unfold Session.fail
  split
  · exact conclude s hi errand false _
  · rename_i q hq
    have hemit := Spares.trans (note (c := c) (r := r) (k := k) (e := e) (x := x) s q hx fault)
      (emit _ q .deviceFailed (failureText errand.handle fault) (some errand.handle.name) none)
    split
    · rename_i v heq
      rw [heq] at hemit
      exact hemit.trans (conclude _ hi errand false _)
    · rename_i v further heq
      rw [heq] at hemit
      exact hemit.trans (conclude _ hi errand false _)

lemma send (s : Session Bench) (hx : errand.handle.serial ≠ x) (request : Request) :
    Spares c r x e k s (s.send errand request).1 :=
  network s (Bench.find?_send_ne hx rfl errand.client request)
    (Bench.callsFor_send_ne hx rfl c errand.client request)

lemma settle (s : Session Bench) (hx : errand.handle.serial ≠ x) (request : Request)
    (answer : Answer) : Spares c r x e k s (s.settle errand request answer).1 := by
  refine (network s (Bench.find?_settle_ne hx rfl request answer)
    (Bench.callsFor_settle errand.handle request answer c)).trans (hearAll _ _ ?_)
  intro handle hmem
  have hmem : handle ∈ (s.network.settle errand.handle request answer).2.2 := hmem
  rw [Bench.found_settle] at hmem
  cases hmem

/-- by the cases of a step of an errand for another bulb -/
theorem of_stepping (h : Stepping i errand s t) (hi : i ≠ e) (hx : errand.handle.serial ≠ x) :
    Spares c r x e k s t := by
  have hresume : (Cue.resume i).isAwaitedBy e = false := by simpa [Cue.isAwaitedBy] using hi
  have hexpire : (Cue.expire i).isAwaitedBy e = false := hresume
  have hattempt : (Cue.attempt i).isAwaitedBy e = false := hresume
  have harrive : ∀ request answer, (Cue.arrive i request answer).isAwaitedBy e = false :=
    fun _ _ => hresume
  induction h with
  | ends s reply => exact conclude s hi errand true _
  | fails s fault => exact fail s hi hx fault
  | asks s next retries =>
    exact ((setStage s hi _).trans (after _ errand.timeout 1 hexpire (by simp))).trans
      (soon _ 0 hattempt (by simp))
  | lapses s next retries => exact (setStage s hi _).trans (soon _ 2 hresume (by simp))
  | answers s next retries result => exact (setStage s hi _).trans (soon _ 1 hresume (by simp))
  | pauses s duration request answer => exact pause s duration (harrive request answer) (by simp)
  | waits s next duration request answer =>
    exact (setStage s hi _).trans (pause _ duration (harrive request answer) (by simp))
  | drops _ ih => exact (dropAwaited _ hi).trans ih
  | keeps _ _ _ ih =>
    refine Spares.trans ?_ ih
    exact modifyRun _ _ (fun _ => rfl) (fun _ => rfl) fun _ _ => .inl
  | reports _ message data _ ih => exact (emit _ _ _ _ _ _).trans ih
  | sends request _ ih => exact (send _ hx request).trans ih
  | settles request answer _ ih => exact (settle _ hx request answer).trans ih

/-- performing a cue that an errand for another bulb waits for -/
theorem awaited (s : Session Bench) {cue : Cue} (hcue : cue.isAwaitedBy i = true) (hi : i ≠ e)
    (hx : ∀ errand, s.errands[i]? = some errand → errand.handle.serial ≠ x) :
    Spares c r x e k s (s.perform cue) := by
  cases s.perform_course hcue with
  | late result =>
    rw [result]
    exact refl s
  | steps here _ stepping => exact of_stepping stepping hi (hx _ here)

end Spares

end Session

end Lamplighter
