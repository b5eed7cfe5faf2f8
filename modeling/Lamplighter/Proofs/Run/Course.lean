import Lamplighter.Proofs.Run.Deeds
import Lamplighter.Run.Session

/-!
# The course of a run, case by case

Each station of a run is a function that goes on to the next one unless something goes wrong.  What
each of them can come to is said here once, with what has happened by then: whatever holds of a run
is proved by these cases, and the functions need not be opened again.

* `Posting`     a message is put into the inbox of a run;
* `Hearing`     a client hears of a bulb;
* `Starting`    a run says that it starts, gets ready and looks for bulbs;
* `Searching`   it listens for bulbs and looks into its inbox;
* `Handling`    it handles the message at the head of its inbox;
* `Draining`    it stops looking for bulbs and waits for its effects;
* `Closing`     its effect finishes its work;
* `Summing`     it sums up.
-/

namespace Lamplighter.Session

open Deeds

section

variable {ν : Type} (s : Session ν) (r : Nat) (run : Run)

/-! ### Messages for a run -/

/-- a message is in the inbox of a run, and on its record -/
def posting (message : Message) : Session ν :=
  s.modifyRun r fun run => { run with
    inbox := run.inbox ++ [message]
    isWaiting := false
    deeds := .queued message :: run.deeds }

/-- what a message for a run comes to: the run wakes if it waits for one -/
inductive Posting (message : Message) (t : Session ν) : Prop
  | absent (gone : s.runs[r]? = none) (result : t = s)
  | wakes {run : Run} (here : s.runs[r]? = some run) (waits : run.isWaiting = true)
    (result : t = (s.posting r message).soon 0 (.wake r))
  | queued {run : Run} (here : s.runs[r]? = some run) (busy : run.isWaiting = false)
    (result : t = s.posting r message)

theorem post_course (message : Message) : Posting s r message (s.post r message) := by
  unfold post
  split
  · rename_i hget
    exact .absent hget rfl
  · rename_i run hget
    split
    · rename_i hwaits
      exact .wakes hget hwaits rfl
    · rename_i hbusy
      exact .queued hget (Bool.not_eq_true _ ▸ hbusy) rfl

/-- a message changes the run and what comes next, and nothing else -/
lemma post_frame (message : Message) :
    ∃ agenda, s.post r message = { s.posting r message with agenda } := by
  cases s.post_course r message with
  | absent gone result =>
    have hsame : s.posting r message = s := by
      rw [posting, modifyRun, List.modify_eq_self (List.getElem?_eq_none_iff.mp gone)]
    exact ⟨s.agenda, by rw [result, hsame]⟩
  | wakes _ _ result => exact ⟨_, result⟩
  | queued _ _ result => exact ⟨_, result⟩

/-! ### Hearing of bulbs -/

/-- a run notices a bulb -/
def noticing (handle : Handle) (control : Control) : Session ν :=
  s.modifyRun r fun run => { run with control, deeds := .heard handle :: run.deeds }

/-- what it comes to that a client hears of a bulb: its listener writes it down, or a run notices
it, and the first bulb of a serial is a message for the run -/
inductive Hearing (client : Nat) (handle : Handle) (t : Session ν) : Prop
  | nobody (result : t = s)
  | listed {lists : List (List (Handle × Moment))} (result : t = { s with lists })
  | known {r : Nat} {run : Run} (listens : Assoc.get? s.listeners client = some (.run r))
    (here : s.runs[r]? = some run) (said : (run.control.announce handle).2 = none)
    (result : t = s.noticing r handle (run.control.announce handle).1)
  | first {r : Nat} {run : Run} (listens : Assoc.get? s.listeners client = some (.run r))
    (here : s.runs[r]? = some run) (said : (run.control.announce handle).2 = some (.seen handle))
    (result : t = (s.noticing r handle (run.control.announce handle).1).post r (.seen handle))

lemma announce_eq_seen {control : Control} {handle : Handle} {message : Message}
    (h : (control.announce handle).2 = some message) : message = .seen handle := by
  unfold Control.announce at h
  split at h
  · cases h
  · exact (Option.some.inj h).symm

theorem hear_course (client : Nat) (handle : Handle) :
    Hearing s client handle (s.hear client handle) := by
  unfold hear
  split
  · exact .nobody rfl
  · exact .listed rfl
  · rename_i r hlistens
    split
    · exact .nobody rfl
    · rename_i run hget
      dsimp only
      split
      · rename_i hsaid
        exact .known hlistens hget hsaid rfl
      · rename_i message hsaid
        obtain rfl := announce_eq_seen hsaid
        exact .first hlistens hget hsaid rfl

variable {s} in
/-- what is not about the lists, and is kept when a run notices a bulb and gets the message of it, is
kept when a client hears of the bulb -/
lemma hear_induction {p : Session ν → Prop} {client : Nat} {handle : Handle} (hs : p s)
    (hlists : ∀ lists, p { s with lists }) (hnotice : ∀ r control, p (s.noticing r handle control))
    (hpost : ∀ t r, p t → p (t.post r (.seen handle))) : p (s.hear client handle) := by
  cases s.hear_course client handle with
  | nobody result =>
    rw [result]
    exact hs
  | listed result =>
    rw [result]
    exact hlists _
  | known _ _ _ result =>
    rw [result]
    exact hnotice _ _
  | first _ _ _ result =>
    rw [result]
    exact hpost _ _ (hnotice _ _)

variable {s} in
/-- what each announcement keeps holds once all are heard of -/
lemma hearAll_induction {p : Session ν → Prop} {client : Nat} {handles : List Handle} (hs : p s)
    (hhear : ∀ t, ∀ handle ∈ handles, p t → p (t.hear client handle)) :
    p (s.hearAll client handles) :=
  List.foldlRecOn handles _ hs fun t ht handle hmem => hhear t handle hmem ht

variable {s} in
/-- what holds once the bulbs that were found are heard of still holds when the signals to come are
expected -/
lemma sight_induction {p : Session ν → Prop} {client : Nat} {sighting : Sighting}
    (hfound : p (s.hearAll client sighting.found))
    (hexpect : ∀ t, ∀ signal ∈ sighting.later, p t → p (t.expect signal)) :
    p (s.sight client sighting) :=
  List.foldlRecOn sighting.later expect hfound fun t ht signal hmem => hexpect t signal hmem ht

/-- the signals to come are cues, and nothing else -/
lemma sight_frame (client : Nat) (sighting : Sighting) :
    ∃ agenda, s.sight client sighting = { s.hearAll client sighting.found with agenda } := by
  refine sight_induction (p := fun t => ∃ agenda, t = { s.hearAll client sighting.found with agenda })
    ⟨_, rfl⟩ ?_
  rintro t signal - ⟨agenda, rfl⟩
  unfold expect
  split <;> exact ⟨_, rfl⟩

/-! ### Telling the audience -/

/-- an event changes the record of the run that tells it, or the hub, and nothing else -/
lemma emit_frame (kind : EventKind) (message : String) (device : Option String)
    (data : Option Json) : ∃ count events hub,
      (hub = s.hub ∨ ∃ event, hub = s.hub.publish event) ∧
      (s.emit r kind message device data).1 = { s.modifyRun r fun run =>
        { run with emitted := run.emitted + count, events := run.events ++ events } with hub } := by
  -- where the record of the run stays as it is, nothing is added to it
  have hsilent : (s.modifyRun r fun run =>
      { run with emitted := run.emitted + 0, events := run.events ++ [] }) = s := by
    have hsame : (fun run : Run =>
        { run with emitted := run.emitted + 0, events := run.events ++ [] }) = id := by
      funext run
      simp
    rw [hsame, modifyRun, List.modify_id]
  unfold Session.emit
  split
  · exact ⟨0, [], _, .inl rfl, hsilent.symm⟩
  · split
    · exact ⟨0, [], _, .inl rfl, hsilent.symm⟩
    · exact ⟨0, [], _, .inr ⟨_, rfl⟩, by rw [hsilent]⟩
    · split
      · exact ⟨1, [], _, .inl rfl, by simp [modifyRun]⟩
      · exact ⟨1, _, _, .inl rfl, rfl⟩

/-- what an effect has to do at the end is to write to the store, and it reports at most that -/
lemma finalize_frame : ∃ store, (s.finalize r run).1 = { s with store } ∨ ∃ message,
    (s.finalize r run).1 = (({ s with store } : Session ν).emit r .deviceReport message).1 := by
  unfold finalize
  split
  · split
    · exact ⟨s.store, .inr ⟨_, rfl⟩⟩
    · split
      · exact ⟨s.store, .inl rfl⟩
      · split
        · exact ⟨_, .inl rfl⟩
        · exact ⟨_, .inr ⟨_, rfl⟩⟩
  · exact ⟨s.store, .inl rfl⟩

/-! ### What is done for a run -/

variable {s} in
/-- what holds anyhow, and once it is done for a run that is there -/
lemma overRun_induction {p : Session ν → Prop} {act : Run → Session ν} (hs : p s)
    (hact : ∀ run, s.runs[r]? = some run → p (act run)) : p (s.overRun r act) := by
  unfold overRun
  split
  · exact hs
  · rename_i run hget
    exact hact run hget

/-! ### Summing up -/

/-- the last event of a run, and its summary -/
def sumUp (text : String) : Session ν :=
  match s.emit r .runFinished text with
  | (s, some fault) => s.endRun r (.error fault)
  | (s, none) =>
    match s.runs[r]? with
    | none => s
    | some run => s.endRun r (.ok (run.summary s.agenda.now))

/-- what a run that sums up comes to -/
inductive Summing (text : String) (t : Session ν) : Prop
  | mute {fault : Fault} (said : (s.emit r .runFinished text).2 = some fault)
    (result : t = (s.emit r .runFinished text).1.endRun r (.error fault))
  | absent (said : (s.emit r .runFinished text).2 = none)
    (gone : (s.emit r .runFinished text).1.runs[r]? = none)
    (result : t = (s.emit r .runFinished text).1)
  | ends {run : Run} (said : (s.emit r .runFinished text).2 = none)
    (here : (s.emit r .runFinished text).1.runs[r]? = some run)
    (result : t = (s.emit r .runFinished text).1.endRun r
      (.ok (run.summary (s.emit r .runFinished text).1.agenda.now)))

theorem sumUp_course (text : String) : Summing s r text (s.sumUp r text) := by
  unfold sumUp
  split
  · rename_i t fault heq
    obtain ⟨rfl, hsaid⟩ := Prod.ext_iff.mp heq
    exact .mute hsaid rfl
  · rename_i t heq
    obtain ⟨rfl, hsaid⟩ := Prod.ext_iff.mp heq
    split
    · rename_i hgone
      exact .absent hsaid hgone rfl
    · rename_i run hhere
      exact .ends hsaid hhere rfl

/-! ### Closing -/

/-- what is left in the inbox of a run is cleared away, and its effect is about to finish its work -/
def clearAway : Session ν :=
  s.modifyRun r fun run =>
    { run with
      control := run.control.settleAll run.inbox
      inbox := []
      deeds := .finalized :: (clearing run.inbox ++ run.deeds) }

/-- what a run that closes comes to -/
inductive Closing (t : Session ν) : Prop
  | fails {fault : Fault} (finalized : ((s.clearAway r).finalize r run).2 = some fault)
    (result : t = ((s.clearAway r).finalize r run).1.endRun r (.error fault))
  | sums (finalized : ((s.clearAway r).finalize r run).2 = none)
    (result : t = (((s.clearAway r).finalize r run).1.modifyRun r fun run =>
      { run with phase := .finished }).sumUp r ("Finishing action " ++ run.action.verb.word))

lemma close_eq : s.close r run =
    match (s.clearAway r).finalize r run with
    | (s, some fault) => s.endRun r (.error fault)
    | (s, none) =>
      (s.modifyRun r fun run => { run with phase := .finished }).sumUp r
        ("Finishing action " ++ run.action.verb.word) := rfl

theorem close_course : Closing s r run (s.close r run) := by
  rw [close_eq]
  split
  · rename_i t fault heq
    obtain ⟨rfl, hfinalized⟩ := Prod.ext_iff.mp heq
    exact .fails hfinalized rfl
  · rename_i t heq
    obtain ⟨rfl, hfinalized⟩ := Prod.ext_iff.mp heq
    exact .sums hfinalized rfl

/-! ### Getting ready -/

/-- a run that gets ready at most says that there is nothing to restore -/
lemma prepare_cases : (s.prepare r run).1 = s ∨
    (s.prepare r run).1
      = (s.emit r .deviceReport "Configuration state not found, cannot restore").1 := by
  unfold prepare
  split
  · dsimp only
    split
    · exact .inl rfl
    · exact .inl rfl
    · split
      · rename_i t fault heq
        exact .inr (by rw [heq])
      · rename_i t heq
        exact .inr (by rw [heq])
  · exact .inl rfl

end

variable {ν : Type} [Network ν] (s : Session ν) (r : Nat) (run : Run)

/-! ### Draining -/

omit [Network ν] in
/-- a run looks for bulbs no longer -/
def stopping : Session ν :=
  s.modifyRun r fun run =>
    { run with
      phase := if run.phase = .discovering then .draining else run.phase
      deeds := .stopped :: run.deeds }

lemma stopSearch_eq : s.stopSearch r run =
    { s.stopping r with
      agenda := (s.stopping r).agenda.drop fun cue => cue.isClockOf r }.unlisten run.client := rfl

/-- what a run that need not look for bulbs any longer comes to -/
inductive Draining (t : Session ν) : Prop
  | absent
    (ended : ((s.stopSearch r run).errands.filter fun errand => errand.isOf r).isEmpty = true)
    (gone : (s.stopSearch r run).runs[r]? = none) (result : t = s.stopSearch r run)
  | closes {run' : Run}
    (ended : ((s.stopSearch r run).errands.filter fun errand => errand.isOf r).isEmpty = true)
    (here : (s.stopSearch r run).runs[r]? = some run') (result : t = (s.stopSearch r run).close r run')
  | harmed {fault : Fault}
    (raised : ((s.stopSearch r run).errands.filter fun errand => errand.isOf r).findSome?
      Errand.raised? = some fault)
    (result : t = (s.stopSearch r run).soon 1 (.drained r (some fault)))
  | calm
    (busy : ((s.stopSearch r run).errands.filter fun errand => errand.isOf r).isEmpty = false)
    (unharmed : ((s.stopSearch r run).errands.filter fun errand => errand.isOf r).findSome?
      Errand.raised? = none)
    (ended : ((s.stopSearch r run).errands.filter fun errand => errand.isOf r).all
      Errand.isOver = true)
    (result : t = (s.stopSearch r run).soon 1 (.drained r none))
  | gathers
    (unharmed : ((s.stopSearch r run).errands.filter fun errand => errand.isOf r).findSome?
      Errand.raised? = none)
    (unended : ((s.stopSearch r run).errands.filter fun errand => errand.isOf r).all
      Errand.isOver = false)
    (result : t = (s.stopSearch r run).modifyRun r fun run => { run with isGathering := true })

theorem drain_course : Draining s r run (s.drain r run) := by
  unfold drain
  dsimp only
  split
  · rename_i hempty
    split
    · rename_i hgone
      exact .absent hempty hgone rfl
    · rename_i run' hhere
      exact .closes hempty hhere rfl
  · rename_i hbusy
    split
    · rename_i fault hraised
      exact .harmed hraised rfl
    · rename_i hunharmed
      split
      · rename_i hover
        exact .calm (Bool.eq_false_iff.mpr hbusy) hunharmed hover rfl
      · rename_i hunended
        exact .gathers hunharmed (Bool.eq_false_iff.mpr hunended) rfl

/-! ### The inbox -/

omit [Network ν] in
/-- a run takes the message at the head of its inbox, and `current` is what it is by then -/
def take (current : Run) (message : Message) (rest : List Message) : Session ν :=
  s.modifyRun r fun run =>
    { run with
      control := (current.control.handle message).1
      inbox := rest
      deeds := .handled message :: run.deeds }

omit [Network ν] in
/-- a run says on which bulb it is to act -/
def sayMatch (handle : Handle) : Session ν × Option Fault :=
  s.emit r .deviceMatched ("Running action on " ++ handle.name) (some handle.name)

lemma handleAll_cons {current : Run} (here : s.runs[r]? = some current) (message : Message)
    (rest : List Message) : s.handleAll r run (message :: rest) =
      match (current.control.handle message).2 with
      | some handle =>
        match (s.take r current message rest).sayMatch r handle with
        | (s, some fault) => s.abort r run fault
        | (s, none) => (s.dispatch r run handle).handleAll r run rest
      | none =>
        if (current.control.handle message).1.isLooking then
          (s.take r current message rest).handleAll r run rest
        else (s.take r current message rest).drain r run := by
  rw [handleAll, here]
  rfl

/-- what handling the message at the head of the inbox comes to -/
inductive Handling (message : Message) (rest : List Message) (t : Session ν) : Prop
  | absent (gone : s.runs[r]? = none) (result : t = s)
  | breaksOff {current : Run} {handle : Handle} {fault : Fault} (here : s.runs[r]? = some current)
    (matched : (current.control.handle message).2 = some handle)
    (said : ((s.take r current message rest).sayMatch r handle).2 = some fault)
    (result : t = ((s.take r current message rest).sayMatch r handle).1.abort r run fault)
  | acts {current : Run} {handle : Handle} (here : s.runs[r]? = some current)
    (matched : (current.control.handle message).2 = some handle)
    (said : ((s.take r current message rest).sayMatch r handle).2 = none)
    (result : t = (((s.take r current message rest).sayMatch r handle).1.dispatch r run
      handle).handleAll r run rest)
  | goesOn {current : Run} (here : s.runs[r]? = some current)
    (matched : (current.control.handle message).2 = none)
    (looks : (current.control.handle message).1.isLooking = true)
    (result : t = (s.take r current message rest).handleAll r run rest)
  | drains {current : Run} (here : s.runs[r]? = some current)
    (matched : (current.control.handle message).2 = none)
    (looked : (current.control.handle message).1.isLooking = false)
    (result : t = (s.take r current message rest).drain r run)

theorem handleAll_course (message : Message) (rest : List Message) :
    Handling s r run message rest (s.handleAll r run (message :: rest)) := by
  cases hhere : s.runs[r]? with
  | none => exact .absent hhere (by rw [handleAll, hhere])
  | some current =>
    rw [handleAll_cons s r run hhere]
    split
    · rename_i handle hmatched
      split
      · rename_i t fault heq
        obtain ⟨rfl, hsaid⟩ := Prod.ext_iff.mp heq
        exact .breaksOff hhere hmatched hsaid rfl
      · rename_i t heq
        obtain ⟨rfl, hsaid⟩ := Prod.ext_iff.mp heq
        exact .acts hhere hmatched hsaid rfl
    · rename_i hmatched
      split
      · rename_i hlooks
        exact .goesOn hhere hmatched hlooks rfl
      · rename_i hlooked
        exact .drains hhere hmatched (Bool.eq_false_iff.mpr hlooked) rfl

/-! ### Looking for bulbs -/

omit [Network ν] in
/-- a run looks for bulbs from now on -/
def seeking : Session ν :=
  s.modifyRun r fun run => { run with phase := .discovering, deeds := .sought :: run.deeds }

/-- what a run that looks for bulbs comes to -/
inductive Searching (t : Session ν) : Prop
  | breaksOff {fault : Fault} (listened : ((s.seeking r).listen run.client (.run r)).2 = some fault)
    (result : t = ((s.seeking r).listen run.client (.run r)).1.abort r run fault)
  | absent (listened : ((s.seeking r).listen run.client (.run r)).2 = none)
    (gone : ((s.seeking r).listen run.client (.run r)).1.runs[r]? = none)
    (result : t = ((s.seeking r).listen run.client (.run r)).1)
  | looks {run' : Run} (listened : ((s.seeking r).listen run.client (.run r)).2 = none)
    (here : ((s.seeking r).listen run.client (.run r)).1.runs[r]? = some run')
    (result : t = (((s.seeking r).listen run.client (.run r)).1.soon 0 (.clock r)).wake r run')

lemma search_eq : s.search r run =
    match (s.seeking r).listen run.client (.run r) with
    | (s, some fault) => s.abort r run fault
    | (s, none) =>
      match s.runs[r]? with
      | none => s
      | some run => (s.soon 0 (.clock r)).wake r run := rfl

theorem search_course : Searching s r run (s.search r run) := by
  rw [search_eq]
  split
  · rename_i t fault heq
    obtain ⟨rfl, hlistened⟩ := Prod.ext_iff.mp heq
    exact .breaksOff hlistened rfl
  · rename_i t heq
    obtain ⟨rfl, hlistened⟩ := Prod.ext_iff.mp heq
    split
    · rename_i hgone
      exact .absent hlistened hgone rfl
    · rename_i run' hhere
      exact .looks hlistened hhere rfl

/-! ### Starting -/

omit [Network ν] in
/-- a run says that it starts -/
def sayStart : Session ν × Option Fault :=
  (s.modifyRun r fun run => { run with started := s.agenda.now }).emit r .runStarted
    ("Starting action " ++ run.action.verb.word) none (some (startData run.action))

omit [Network ν] in
/-- a run has said that it starts, and has got ready -/
def readied : Session ν :=
  ((s.sayStart r run).1.prepare r run).1

/-- what a run that starts comes to -/
inductive Starting (t : Session ν) : Prop
  | mute {fault : Fault} (said : (s.sayStart r run).2 = some fault)
    (result : t = (s.sayStart r run).1.endRun r (.error fault))
  | unready {fault : Fault} (said : (s.sayStart r run).2 = none)
    (prepared : ((s.sayStart r run).1.prepare r run).2 = .error fault)
    (result : t = (s.readied r run).endRun r (.error fault))
  | seeks {saved : Option Saved} (said : (s.sayStart r run).2 = none)
    (prepared : ((s.sayStart r run).1.prepare r run).2 = .ok saved)
    (result : t = ((s.readied r run).modifyRun r fun run => { run with saved }).search r
      { run with saved })

theorem start_course : Starting s r run (s.start r run) := by
  unfold start
  dsimp only
  split
  · rename_i t fault heq
    obtain ⟨rfl, hsaid⟩ := Prod.ext_iff.mp heq
    exact .mute hsaid rfl
  · rename_i t heq
    obtain ⟨rfl, hsaid⟩ := Prod.ext_iff.mp heq
    split
    · rename_i u fault heq'
      obtain ⟨rfl, hprepared⟩ := Prod.ext_iff.mp heq'
      exact .unready hsaid hprepared rfl
    · rename_i u saved heq'
      obtain ⟨rfl, hprepared⟩ := Prod.ext_iff.mp heq'
      exact .seeks hsaid hprepared rfl

end Lamplighter.Session
