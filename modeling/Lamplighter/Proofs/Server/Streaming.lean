import Lamplighter.Proofs.Event.Window
import Lamplighter.Proofs.Json.Printed
import Lamplighter.Proofs.Json.Written
import Lamplighter.Proofs.Run.Broadcast
import Lamplighter.Server.Stream

/-!
# Streaming: what the reader of a stream gets

* `Hub.Reading`             how a hub goes on while one subscriber reads event by event;
* `Reading.sublist`         what is taken and what waits are events that waited or were published, in
                            their order;
* `Reading.conserves`       and all of them, if the queue has room;
* `Frame.ofEvent_framed`    the frame of an event is one line of data, which is read back as the event;
* `Front.reading_frames`    the frames of a stream are those of the events that are taken;
* `Front.close_begun`       a stream that was read and is closed has no subscriber any more;
* `streamed`                what this comes to.
-/

set_option linter.unusedSectionVars false

namespace Lamplighter

/-! ### A hub while one subscriber reads -/

namespace Hub

variable {ε : Type} {place : Nat} {hub mid later : Hub ε} {published taken : List ε}

/-- how a hub goes on while the subscriber at a place reads: events are published, and the reader takes
the event that waits longest -/
inductive Reading (place : Nat) (hub : Hub ε) : List ε → List ε → Hub ε → Prop
  | refl : Reading place hub [] [] hub
  | publish {published taken : List ε} {mid : Hub ε} (before : Reading place hub published taken mid)
      (event : ε) : Reading place hub (published ++ [event]) taken (mid.publish event)
  | take {published taken : List ε} {mid later : Hub ε} {event : ε}
      (before : Reading place hub published taken mid)
      (next : mid.next? place = some (event, later)) :
      Reading place hub published (taken ++ [event]) later

namespace Reading

theorem trans {published' taken' : List ε} (h : Reading place hub published taken mid)
    (h' : Reading place mid published' taken' later) :
    Reading place hub (published ++ published') (taken ++ taken') later := by
  induction h' with
  | refl => simpa using h
  | publish before event ih => simpa using ih.publish event
  | take before next ih => simpa using ih.take next

theorem publishAll (hub : Hub ε) (events : List ε) :
    Reading place hub events [] (hub.publishAll events) := by
  induction events using List.reverseRecOn with
  | nil => exact .refl
  | append_singleton events event ih =>
    rw [Hub.publishAll_append]
    exact ih.publish event

end Reading

lemma waiting_of_some {s : Subscription ε} (h : hub.subscriptions[place]? = some s) :
    hub.waiting place = s.queue := by
  rw [waiting, h]
  rfl

lemma waiting_of_none (h : hub.subscriptions[place]? = none) : hub.waiting place = [] := by
  rw [waiting, h]
  rfl

lemma publish_at {s : Subscription ε} (h : hub.subscriptions[place]? = some s) (event : ε) :
    (hub.publish event).subscriptions[place]?
      = some (if s.isOpen then { s with queue := push hub.limit s.queue event } else s) := by
  show (hub.subscriptions.map _)[place]? = _
  rw [List.getElem?_map, h]
  rfl

/-- the reader takes the first event of its queue, and nobody else notices -/
lemma next?_at {event : ε} (h : hub.next? place = some (event, later)) :
    later.limit = hub.limit ∧ ∃ s rest, hub.subscriptions[place]? = some s ∧ s.queue = event :: rest
      ∧ later.subscriptions[place]? = some { s with queue := rest } := by
  cases hat : hub.subscriptions[place]? with
  | none =>
    rw [next?, waiting_of_none hat] at h
    cases h
  | some s =>
    rw [next?, waiting_of_some hat] at h
    cases hqueue : s.queue with
    | nil =>
      rw [hqueue] at h
      cases h
    | cons first rest =>
      rw [hqueue] at h
      obtain ⟨rfl, rfl⟩ := Prod.mk.inj (Option.some.inj h)
      refine ⟨rfl, s, rest, rfl, hqueue, ?_⟩
      show (hub.subscriptions.modify place _)[place]? = _
      rw [List.getElem?_modify_eq, hat]
      rfl

lemma waiting_next? {event : ε} (h : hub.next? place = some (event, later)) :
    hub.waiting place = event :: later.waiting place := by
  obtain ⟨-, s, rest, hat, hqueue, hlater⟩ := next?_at h
  rw [waiting_of_some hat, waiting_of_some hlater, hqueue]

lemma push_sublist (limit : Int) (queue : List ε) (event : ε) :
    (push limit queue event).Sublist (queue ++ [event]) := by
  unfold push
  split
  · exact (List.drop_sublist 1 queue).append_right [event]
  · exact List.Sublist.refl _

lemma waiting_publish_sublist (hub : Hub ε) (event : ε) :
    ((hub.publish event).waiting place).Sublist (hub.waiting place ++ [event]) := by
  cases hat : hub.subscriptions[place]? with
  | none =>
    have hnone : (hub.publish event).subscriptions[place]? = none := by
      show (hub.subscriptions.map _)[place]? = none
      rw [List.getElem?_map, hat]
      rfl
    rw [waiting_of_none hnone]
    exact List.nil_sublist _
  | some s =>
    rw [waiting_of_some (publish_at hat event), waiting_of_some hat]
    split
    · exact push_sublist ..
    · exact List.sublist_append_left ..

namespace Reading

/-- by induction on what happens to the hub -/
theorem sublist (h : Reading place hub published taken later) :
    (taken ++ later.waiting place).Sublist (hub.waiting place ++ published) := by
  induction h with
  | refl => rw [List.nil_append, List.append_nil]
  | @publish published taken mid before event ih =>
    have hpublish : ((mid.publish event).waiting place).Sublist (mid.waiting place ++ [event]) :=
      waiting_publish_sublist mid event
    have hwaiting := hpublish.append_left taken
    have hsum := ih.append_right [event]
    rw [List.append_assoc] at hsum
    rw [← List.append_assoc (hub.waiting place)]
    exact hwaiting.trans (by simpa using hsum)
  | take before next ih =>
    rw [waiting_next? next] at ih
    simpa using ih

/-- the subscriber stays as long as it reads -/
theorem isOpen_at {queue : List ε} (h : Reading place hub published taken later)
    (hopen : hub.subscriptions[place]? = some ⟨true, queue⟩) :
    later.subscriptions[place]? = some ⟨true, later.waiting place⟩ := by
  induction h with
  | refl =>
    rw [waiting_of_some hopen]
    exact hopen
  | publish before event ih =>
    have hnext := publish_at ih event
    rw [waiting_of_some hnext]
    exact hnext
  | take before next ih =>
    obtain ⟨-, s, rest, hs, -, hrest⟩ := next?_at next
    rw [waiting_of_some hrest]
    obtain rfl := Option.some.inj (hs.symm.trans ih)
    exact hrest

/-- a queue with room for all that is published loses nothing; by induction on what happens to the
hub, where what waits is never more than what waited at first and was published since -/
theorem conserves {queue : List ε} (h : Reading place hub published taken later)
    (hopen : hub.subscriptions[place]? = some ⟨true, queue⟩)
    (hroom : hub.limit ≤ 0 ∨ Int.ofNat (queue.length + published.length) ≤ hub.limit) :
    later.limit = hub.limit ∧ taken ++ later.waiting place = queue ++ published := by
  induction h with
  | refl =>
    rw [waiting_of_some hopen]
    exact ⟨rfl, (List.append_nil queue).symm⟩
  | @publish published taken mid before event ih =>
    have hlength : (published ++ [event]).length = published.length + 1 := List.length_append
    rw [hlength] at hroom
    obtain ⟨hlimit, hsum⟩ := ih (hroom.imp_right fun h => by
      simp only [Int.ofNat_eq_natCast] at h ⊢
      omega)
    have hshort : (mid.waiting place).length ≤ queue.length + published.length := by
      rw [← List.length_append, ← hsum, List.length_append]
      exact Nat.le_add_left ..
    have hfull : isFull mid.limit (mid.waiting place) = false := by
      rw [hlimit]
      simp only [isFull, Bool.and_eq_false_iff, decide_eq_false_iff_not, Int.ofNat_eq_natCast] at hroom ⊢
      omega
    have hnext := publish_at (before.isOpen_at hopen) event
    simp only [↓reduceIte, push, hfull, Bool.false_eq_true] at hnext
    rw [waiting_of_some hnext]
    refine ⟨hlimit, ?_⟩
    rw [← List.append_assoc, hsum, List.append_assoc]
  | take before next ih =>
    obtain ⟨hlimit, hsum⟩ := ih hroom
    rw [waiting_next? next] at hsum
    exact ⟨(next?_at next).1.trans hlimit, by rw [← hsum, List.append_assoc]; rfl⟩

end Reading

/-! ### Leaving -/

lemma count_unsubscribe {queue : List ε} (h : hub.subscriptions[place]? = some ⟨true, queue⟩) :
    (hub.unsubscribe place).count + 1 = hub.count := by
  unfold count unsubscribe
  dsimp only
  generalize hub.subscriptions = subscriptions at h
  induction subscriptions generalizing place with
  | nil => cases h
  | cons first rest ih =>
    cases place with
    | zero =>
      obtain rfl := Option.some.inj h
      rfl
    | succ place =>
      have hrest := ih h
      show ((first :: rest.modify place _).filter _).length + 1 = _
      rw [List.filter_cons, List.filter_cons]
      split
      · rw [List.length_cons, List.length_cons, hrest]
      · exact hrest

lemma unsubscribe_at {s : Subscription ε} (h : hub.subscriptions[place]? = some s) :
    (hub.unsubscribe place).subscriptions[place]? = some { s with isOpen := false } := by
  show (hub.subscriptions.modify place _)[place]? = _
  rw [List.getElem?_modify_eq, h]
  rfl

lemma unsubscribe_ne {other : Nat} (hne : other ≠ place) :
    (hub.unsubscribe place).subscriptions[other]? = hub.subscriptions[other]? := by
  show (hub.subscriptions.modify place _)[other]? = _
  rw [List.getElem?_modify_ne _ _ hne.symm]

/-- a queue that is closed stays as it is -/
lemma closed_publishAll {queue : List ε} (h : hub.subscriptions[place]? = some ⟨false, queue⟩)
    (events : List ε) : (hub.publishAll events).subscriptions[place]? = some ⟨false, queue⟩ := by
  induction events generalizing hub with
  | nil => exact h
  | cons event rest ih => exact ih (publish_at h event)

end Hub

/-! ### Frames -/

namespace Event

/-- the data of an event are plain -/
def IsPlain (event : Event) : Prop :=
  ∀ data, event.data = some data → data.IsPlain

/-- the names of the members are distinct, whichever there are -/
lemma isPlain_toJson {event : Event} (h : event.IsPlain) : event.toJson.IsPlain := by
  obtain ⟨stamp, kind, command, message, device, data⟩ := event
  have hnames : ["ts", "type", "command", "message", "device", "data"].Nodup := by decide
  cases device with
  | none =>
    cases data with
    | none =>
      exact ⟨hnames.sublist (by decide : List.Sublist ["ts", "type", "command", "message"] _),
        trivial, trivial, trivial, trivial, trivial⟩
    | some data =>
      exact ⟨hnames.sublist (by decide : List.Sublist ["ts", "type", "command", "message", "data"] _),
        trivial, trivial, trivial, trivial, h data rfl, trivial⟩
  | some device =>
    cases data with
    | none =>
      exact ⟨hnames.sublist (by decide : List.Sublist ["ts", "type", "command", "message", "device"] _),
        trivial, trivial, trivial, trivial, trivial, trivial⟩
    | some data => exact ⟨hnames, trivial, trivial, trivial, trivial, trivial, h data rfl, trivial⟩

end Event

namespace Frame

/-- one line of data that no content breaks, with an empty line behind it; the line is read back as the
event -/
theorem ofEvent_framed (event : Event) : ∃ text, ofEvent event = "data: " ++ text ++ "\n\n"
    ∧ Json.ArePrinted text.toList ∧ (event.IsPlain → Json.read? text = some event.toJson) :=
  ⟨event.toJson.toText .ascii, rfl, Json.arePrinted_toText _,
    fun hplain => Json.read?_toText .ascii (Event.isPlain_toJson hplain)⟩

lemma ofEvent_ne_keepAlive (event : Event) : ofEvent event ≠ keepAlive := by
  intro h
  have hfirst := congrArg (fun text => text.toList.head?) h
  simp [ofEvent, keepAlive] at hfirst

end Frame

namespace Server.Front

open Hub

variable {ν : Type} [Network ν]

/-! ### Frames of a stream -/

lemma hub_drive (isDone : Session ν → Bool) (fuel : Nat) (s : Session ν) :
    ∃ events, (Session.drive isDone fuel s).hub = s.hub.publishAll events := by
  induction fuel generalizing s with
  | zero => exact ⟨[], rfl⟩
  | succ fuel ih =>
    rw [Session.drive]
    split
    · exact ⟨[], rfl⟩
    · split
      · exact ⟨[], rfl⟩
      · rename_i next hstep
        obtain ⟨⟨cue, agenda⟩, -, rfl⟩ := Option.map_eq_some_iff.mp hstep
        obtain ⟨events, hevents⟩ := ih (({ s with agenda } : Session ν).perform cue)
        rw [hevents, Session.hub_perform, ← Hub.publishAll_append]
        exact ⟨_, rfl⟩

/-- a frame that is there at once -/
lemma takeFrame?_eq_some {front later : Front ν} {place : Nat} {text : String}
    (h : front.takeFrame? place = some (later, text)) : ∃ event,
      front.session.hub.next? place = some (event, later.session.hub) ∧ text = Frame.ofEvent event := by
  obtain ⟨⟨event, hub⟩, hnext, heq⟩ := Option.map_eq_some_iff.mp h
  obtain ⟨rfl, rfl⟩ := Prod.mk.inj heq
  exact ⟨event, hnext, rfl⟩

lemma next?_of_takeFrame?_eq_none {front : Front ν} {place : Nat}
    (h : front.takeFrame? place = none) : front.session.hub.waiting place = [] := by
  have hnext := Option.map_eq_none_iff.mp h
  unfold next? at hnext
  split at hnext
  · assumption
  · cases hnext

/-- a frame is that of the next event, which is there at once or after a while, or a comment -/
theorem reading_nextFrame (front : Front ν) (place : Nat) :
    (∃ event, front.session.hub.next? place = some (event, (front.nextFrame place).1.session.hub)
      ∧ (front.nextFrame place).2 = Frame.ofEvent event)
    ∨ front.session.hub.waiting place = [] ∧ ∃ published taken,
      Reading place front.session.hub published taken (front.nextFrame place).1.session.hub
      ∧ (taken = [] ∧ (front.nextFrame place).2 = Frame.keepAlive
        ∨ ∃ event, taken = [event] ∧ (front.nextFrame place).2 = Frame.ofEvent event) := by
  unfold nextFrame
  split
  · rename_i result htaken
    obtain ⟨event, hnext, htext⟩ := takeFrame?_eq_some htaken
    exact .inl ⟨event, hnext, htext⟩
  · rename_i hnone
    refine .inr ⟨next?_of_takeFrame?_eq_none hnone, ?_⟩
    dsimp only
    obtain ⟨events, hdriven⟩ := hub_drive
      (fun s => s.isRung || !(s.hub.waiting place).isEmpty) Session.patience
      { front.session with
        isRung := false
        agenda := front.session.agenda.pause Frame.patience .alarm }
    generalize Session.drive _ Session.patience { front.session with
      isRung := false
      agenda := front.session.agenda.pause Frame.patience .alarm } = later at hdriven ⊢
    have hpublished : Reading place front.session.hub events [] later.hub := by
      rw [hdriven]
      exact .publishAll ..
    generalize hsettled : ({ front with
      session := { later with agenda := later.agenda.drop Cue.isAlarm } } : Front ν) = settled
    have hhub : settled.session.hub = later.hub := by rw [← hsettled]
    cases htaken : settled.takeFrame? place with
    | none =>
      refine ⟨events, [], ?_, .inl ⟨rfl, rfl⟩⟩
      show Reading place _ events [] settled.session.hub
      rw [hhub]
      exact hpublished
    | some result =>
      obtain ⟨event, hnext, htext⟩ := takeFrame?_eq_some htaken
      rw [hhub] at hnext
      exact ⟨events, [event], hpublished.take hnext, .inr ⟨event, rfl, htext⟩⟩

/-- the frames of a stream: by induction on how many are read -/
theorem reading_frames (front : Front ν) (place count : Nat) : ∃ published taken,
    Reading place front.session.hub published taken (front.frames place count).1.session.hub
    ∧ (front.frames place count).2.length = count
    ∧ (front.frames place count).2.filter (· ≠ Frame.keepAlive) = taken.map Frame.ofEvent
    ∧ (front.session.hub.waiting place).take count <+: taken := by
  induction count generalizing front with
  | zero => exact ⟨[], [], .refl, rfl, rfl, List.prefix_refl _⟩
  | succ count ih =>
    obtain ⟨published, taken, hrest, hlength, hfilter, hprefix⟩ := ih (front.nextFrame place).1
    have hframes : (front.frames place (count + 1)).2
        = (front.nextFrame place).2 :: ((front.nextFrame place).1.frames place count).2 := rfl
    have hhub : (front.frames place (count + 1)).1 = ((front.nextFrame place).1.frames place count).1 :=
      rfl
    rw [hframes, hhub, List.length_cons, hlength, List.filter_cons, hfilter]
    obtain ⟨event, hnext, htext⟩ | ⟨hempty, older, first, hread, hfirst⟩ :=
      reading_nextFrame front place
    · refine ⟨published, event :: taken, (Reading.refl.take hnext).trans hrest, rfl, ?_, ?_⟩
      · simp [htext, Frame.ofEvent_ne_keepAlive]
      · rw [waiting_next? hnext, List.take_succ_cons]
        exact (List.prefix_cons_inj event).mpr hprefix
    · refine ⟨older ++ published, first ++ taken, hread.trans hrest, rfl, ?_, ?_⟩
      · obtain ⟨rfl, htext⟩ | ⟨event, rfl, htext⟩ := hfirst
        · simp [htext]
        · simp [htext, Frame.ofEvent_ne_keepAlive]
      · rw [hempty, List.take_nil]
        exact List.nil_prefix

/-- a stream begins with an empty queue of its own -/
lemma openStream_at (front : Front ν) :
    (front.openStream).1.session.hub.subscriptions[(front.openStream).2.place]? = some ⟨true, []⟩ :=
  List.getElem?_concat_length ..

/-- a stream that was read and is closed has no subscriber any more: it is not counted, what is published
does not reach it, and the others keep their queues -/
theorem close_begun {front : Front ν} {stream : Stream} {queue : List Event} (hbegun : stream.isBegun)
    (hopen : front.session.hub.subscriptions[stream.place]? = some ⟨true, queue⟩) :
    (front.closeStream stream).session.hub.count + 1 = front.session.hub.count
    ∧ (∀ events, ((front.closeStream stream).session.hub.publishAll events).waiting stream.place = queue)
    ∧ ∀ other, other ≠ stream.place → (front.closeStream stream).session.hub.subscriptions[other]?
        = front.session.hub.subscriptions[other]? := by
  have hhub : (front.closeStream stream).session.hub = front.session.hub.unsubscribe stream.place := by
    rw [closeStream, if_pos hbegun]
    rfl
  rw [hhub]
  refine ⟨count_unsubscribe hopen, fun events => ?_, fun other hother => unsubscribe_ne hother⟩
  exact waiting_of_some (closed_publishAll (unsubscribe_at hopen) events)

/-- what the reader of a stream gets, whatever happens meanwhile: one frame for each event that it takes
from its queue, in order, and comments, no event that waits being passed over; what is taken and what still
waits is what waited and was published, less what a full queue loses, and all of it if there is room; every
frame is `data: `, one line that is read back as the event, and an empty line; and closing the stream
removes the subscriber that opening it made -/
theorem streamed (front : Front ν) (stream : Stream) (count : Nat) :
    (∃ published taken,
      Reading stream.place front.session.hub published taken
          (front.readStream stream count).1.session.hub
      ∧ (front.readStream stream count).2.2.length = count
      ∧ (front.readStream stream count).2.2.filter (· ≠ Frame.keepAlive) = taken.map Frame.ofEvent
      ∧ (front.session.hub.waiting stream.place).take count <+: taken
      ∧ (taken ++ (front.readStream stream count).1.session.hub.waiting stream.place).Sublist
          (front.session.hub.waiting stream.place ++ published)
      ∧ ∀ queue, front.session.hub.subscriptions[stream.place]? = some ⟨true, queue⟩ →
          (front.session.hub.limit ≤ 0
            ∨ Int.ofNat (queue.length + published.length) ≤ front.session.hub.limit) →
          taken ++ (front.readStream stream count).1.session.hub.waiting stream.place
            = queue ++ published)
    ∧ (∀ event, ∃ text, Frame.ofEvent event = "data: " ++ text ++ "\n\n" ∧ Json.ArePrinted text.toList
        ∧ (event.IsPlain → Json.read? text = some event.toJson))
    ∧ front.openStream.1.session.hub.subscriptions[front.openStream.2.place]? = some ⟨true, []⟩
    ∧ ∀ queue, front.session.hub.subscriptions[stream.place]? = some ⟨true, queue⟩ →
        stream.isBegun = true ∨ 0 < count →
        let (later, reading, _) := front.readStream stream count
        (later.closeStream reading).session.hub.count + 1 = later.session.hub.count
        ∧ (∀ events, ((later.closeStream reading).session.hub.publishAll events).waiting stream.place
            = later.session.hub.waiting stream.place)
        ∧ ∀ other, other ≠ stream.place →
            (later.closeStream reading).session.hub.subscriptions[other]?
              = later.session.hub.subscriptions[other]? := by
  obtain ⟨published, taken, hread, hlength, hfilter, hprefix⟩ :=
    reading_frames front stream.place count
  refine ⟨⟨published, taken, hread, hlength, hfilter, hprefix, hread.sublist, fun queue hopen hroom =>
    (hread.conserves hopen hroom).2⟩, Frame.ofEvent_framed, openStream_at front,
    fun queue hopen hbegun => ?_⟩
  have hreading : (stream.isBegun || count != 0) = true := by
    rcases hbegun with hbegun | hcount
    · rw [hbegun, Bool.true_or]
    · simp [Nat.pos_iff_ne_zero.mp hcount]
  have hlater : (front.readStream stream count).1.session.hub.subscriptions[
      (front.readStream stream count).2.1.place]? = some ⟨true, _⟩ := hread.isOpen_at hopen
  exact close_begun hreading hlater

/-- a report of two lines, with a list inside a list among its data -/
def report : Event where
  stamp := "2024-01-01T00:00:00.000Z"
  kind := .deviceReport
  command := "status \"Hall\""
  message := "status for Hall\n---"
  device := some "Hall"
  data := some (.obj [("levels", .arr [.arr [.int 1, .int (-2)], .null])])

/-- a report that waits for the one subscriber -/
def reported : Front Bench where
  session := { network := {}, hub := { limit := 0, subscriptions := [⟨true, [report]⟩] } }
  settings := {}
  client := 0

/-- the report is the first frame, and its one line is read back -/
theorem streamed_report :
    (reported.readStream { place := 0 } 1).2.2 = [Frame.ofEvent report]
    ∧ (∃ text, Frame.ofEvent report = "data: " ++ text ++ "\n\n" ∧ Json.ArePrinted text.toList
        ∧ Json.read? text = some report.toJson)
    ∧ (∃ taken published, taken ++ (reported.readStream { place := 0 } 1).1.session.hub.waiting 0
        = report :: published)
    ∧ ((reported.readStream { place := 0 } 1).1.closeStream { place := 0, isBegun := true }
        ).session.hub.count + 1 = (reported.readStream { place := 0 } 1).1.session.hub.count := by
  obtain ⟨⟨published, taken, -, hlength, hfilter, hprefix, -, hall⟩, hframed, -, hclosed⟩ :=
    streamed reported { place := 0 } 1
  obtain ⟨more, htaken⟩ : [report] <+: taken := hprefix
  have hshort := List.length_filter_le (fun text => decide (text ≠ Frame.keepAlive))
    (reported.readStream { place := 0 } 1).2.2
  rw [hfilter, hlength, ← htaken, List.map_append, List.length_append] at hshort
  obtain rfl : more = [] := by
    cases more with
    | nil => rfl
    | cons event more =>
      simp at hshort
  refine ⟨?_, ?_, ⟨taken, published, hall [report] rfl (.inl (by decide))⟩,
    (hclosed [report] rfl (.inr (by decide))).1⟩
  · rw [← htaken] at hfilter
    have hsublist : ((reported.readStream { place := 0 } 1).2.2.filter (· ≠ Frame.keepAlive)).Sublist
        (reported.readStream { place := 0 } 1).2.2 := List.filter_sublist
    have hsame := hsublist.eq_of_length (by rw [hfilter, hlength]; rfl)
    rw [← hsame, hfilter]
    rfl
  · obtain ⟨text, htext, hprinted, hread⟩ := hframed report
    have hplain : report.IsPlain := by
      rintro data hdata
      obtain rfl := Option.some.inj hdata
      have hone : Json.IsShort 1 := by decide +kernel
      have htwo : Json.IsShort (-2) := by decide +kernel
      exact ⟨by decide, ⟨⟨hone, htwo, trivial⟩, trivial, trivial⟩, trivial⟩
    exact ⟨text, htext, hprinted, hread hplain⟩

end Server.Front

end Lamplighter
