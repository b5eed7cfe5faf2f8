import Lamplighter.Proofs.Network.Tables

/-!
# Tidings: what a client tells its listener

* `Lan.Sign`            what is seen of a client: it is started and stopped, a light is asked for its label,
                        the listener is told of a light, a request is answered;
* `Lan.Course`          what becomes of a client and a network whose lights do as they like, while the
                        client is started, stopped and asked, in any order and at any time;
* `Lan.Tells`           between a start and the next start or stop the listener is told of the lights that
                        were known, and of each new one when it gives its label;
* `Course.holds`        the tables and what is told stay in step, by induction on the course;
* `Course.kept_and_told`  what this comes to.
-/

namespace Lamplighter.Lan

variable {lan later : Lan} {client : Nat}

/-- a request that was sent and has not been settled -/
structure Pending where
  handle : Handle
  request : Request
  answer : Answer

/-- what is seen of a client -/
inductive Sign where
  /-- it was started, and the listener was told of these lights at once -/
  | started (told : List Handle)
  | stopped
  /-- a light that turned up was asked for its label, which it gave or not -/
  | read (serial : String) (label : Option String)
  /-- the listener was told of a light -/
  | told (handle : Handle)
  | answered (handle : Handle) (request : Request) (result : Except Fault Reply)

namespace Sign

def isSwitch : Sign → Bool
  | .started _ | .stopped => true
  | _ => false

def isStart : Sign → Bool
  | .started _ => true
  | _ => false

def label? : Sign → Option (String × String)
  | .read serial label => label.map (serial, ·)
  | _ => none

def tiding? : Sign → Option Handle
  | .told handle => some handle
  | _ => none

end Sign

/-- the labels that were given, with their serials, in order -/
def labels (signs : List Sign) : List (String × String) :=
  signs.filterMap Sign.label?

/-- the lights that the listener was told of after the start, in order -/
def tidings (signs : List Sign) : List Handle :=
  signs.filterMap Sign.tiding?

/-- the signs of a search that goes on -/
def signsOf (reads : List (String × Option String)) (found : List Handle) : List Sign :=
  reads.map (fun read => .read read.1 read.2) ++ found.map .told

/-- what becomes of a client with its requests, and what is seen of it.  The network may send it on at any
time, in the search that goes on or in one that was given up; a request may be settled at any time after it
was sent, or never; and meanwhile lights may change, as long as they stay, and other clients do as they
like -/
inductive Course (client : Nat) : Lan → List Pending → List Sign → Prop
  | fresh {lan : Lan} (broadcast : String) (interval : Float)
      (new : lan.clients[client]? = some { broadcast, interval }) (tame : lan.IsTame) :
      Course client lan [] []
  | start {lan later : Lan} {pending : List Pending} {signs : List Sign} {sighting : Sighting}
      (before : Course client lan pending signs) (started : lan.start client = (later, .ok sighting)) :
      Course client later pending (signs ++ [.started sighting.found])
  | stop {lan : Lan} {pending : List Pending} {signs : List Sign}
      (before : Course client lan pending signs) :
      Course client (lan.stop client) pending (signs ++ [.stopped])
  | send {lan : Lan} {pending : List Pending} {signs : List Sign}
      (before : Course client lan pending signs) (handle : Handle) (request : Request)
      (known : request ≠ .introduce) : Course client (lan.send client handle request).1
        (pending ++ [⟨handle, request, (lan.send client handle request).2.2⟩]) signs
  | settle {lan : Lan} {older newer : List Pending} {asked : Pending} {signs : List Sign}
      (before : Course client lan (older ++ asked :: newer) signs) :
      Course client (lan.settle client asked.handle asked.request asked.answer).1 (older ++ newer)
        (signs ++ [.answered asked.handle asked.request
          (lan.settle client asked.handle asked.request asked.answer).2.1])
  | signal {lan : Lan} {pending : List Pending} {signs : List Sign}
      (before : Course client lan pending signs) (session : Nat) :
      Course client (lan.signal (.search client session)).1 pending
        (signs ++ signsOf
          (if (lan.client client).session == session then lan.readingsOn client else [])
          (lan.signal (.search client session)).2.found)
  | elsewhere {lan later : Lan} {pending : List Pending} {signs : List Sign}
      (before : Course client lan pending signs)
      (same : later.clients[client]? = lan.clients[client]?)
      (stay : ∀ serial ∈ lan.serials, serial ∈ later.serials) (tame : later.IsTame) :
      Course client later pending signs

/-! ### Signs in their order -/

lemma labels_append (signs marks : List Sign) : labels (signs ++ marks) = labels signs ++ labels marks :=
  List.filterMap_append ..

lemma tidings_append (signs marks : List Sign) :
    tidings (signs ++ marks) = tidings signs ++ tidings marks :=
  List.filterMap_append ..

lemma labels_signsOf (reads : List (String × Option String)) (found : List Handle) :
    labels (signsOf reads found) = reads.filterMap (fun read => read.2.map (read.1, ·)) := by
  have hfound : (found.map Sign.told).filterMap Sign.label? = [] := by
    rw [List.filterMap_map, List.filterMap_eq_nil_iff]
    exact fun _ _ => rfl
  rw [labels, signsOf, List.filterMap_append, hfound, List.append_nil, List.filterMap_map]
  rfl

lemma tidings_signsOf (reads : List (String × Option String)) (found : List Handle) :
    tidings (signsOf reads found) = found := by
  have hreads : (reads.map fun read => Sign.read read.1 read.2).filterMap Sign.tiding? = [] := by
    rw [List.filterMap_map, List.filterMap_eq_nil_iff]
    exact fun _ _ => rfl
  have hfound : (found.map Sign.told).filterMap Sign.tiding? = found := by
    rw [List.filterMap_map]
    exact List.filterMap_some
  rw [tidings, signsOf, List.filterMap_append, hreads, hfound, List.nil_append]

lemma isSwitch_signsOf (reads : List (String × Option String)) (found : List Handle) :
    ∀ sign ∈ signsOf reads found, sign.isSwitch = false := by
  intro sign hsign
  rcases List.mem_append.mp hsign with hsign | hsign
  · obtain ⟨read, -, rfl⟩ := List.mem_map.mp hsign
    rfl
  · obtain ⟨handle, -, rfl⟩ := List.mem_map.mp hsign
    rfl

/-- a start or a stop among signs that go on without one -/
lemma split_quiet {signs marks older newer : List Sign} {switch : Sign}
    (h : signs ++ marks = older ++ switch :: newer) (hswitch : switch.isSwitch = true)
    (hmarks : ∀ sign ∈ marks, sign.isSwitch = false) :
    ∃ rest, newer = rest ++ marks ∧ signs = older ++ switch :: rest := by
  rcases List.append_eq_append_iff.mp h with ⟨between, rfl, hrest⟩ | ⟨between, hsigns, hrest⟩
  · have hquiet := hmarks switch (by rw [hrest]; exact List.mem_append_right _ (List.mem_cons_self ..))
    rw [hswitch] at hquiet
    cases hquiet
  · cases between with
    | nil =>
      have hquiet := hmarks switch (by rw [← List.nil_append marks, ← hrest]; exact List.mem_cons_self ..)
      rw [hswitch] at hquiet
      cases hquiet
    | cons first rest =>
      obtain ⟨rfl, rfl⟩ := List.cons.inj hrest
      exact ⟨rest, rfl, hsigns⟩

/-- a sign among signs with one more at their end -/
lemma split_concat {signs older newer : List Sign} {last sign : Sign}
    (h : signs ++ [last] = older ++ sign :: newer) :
    (older = signs ∧ sign = last ∧ newer = [])
      ∨ ∃ rest, newer = rest ++ [last] ∧ signs = older ++ sign :: rest := by
  rcases List.eq_nil_or_concat newer with rfl | ⟨rest, other, rfl⟩
  · obtain ⟨rfl, hlast⟩ := List.append_inj' h rfl
    exact .inl ⟨rfl, (List.cons.inj hlast).1.symm, rfl⟩
  · rw [List.concat_eq_append] at h ⊢
    have hsplit : signs ++ [last] = (older ++ sign :: rest) ++ [other] := by
      rw [h, List.append_assoc, List.cons_append]
    obtain ⟨hsigns, hlast⟩ := List.append_inj' hsplit rfl
    exact .inr ⟨rest, by rw [hlast], hsigns⟩

/-- what the listener is told: after a start, the lights known by then and each new one with its label, in
order; nothing after a stop, and nothing before the first start -/
structure Tells (signs : List Sign) (isListening : Bool) : Prop where
  started : ∀ older told newer, signs = older ++ .started told :: newer →
    (∀ sign ∈ newer, sign.isSwitch = false) →
    isListening = true ∧ told.map (·.serial) = (labels older).map Prod.fst
      ∧ pairs (tidings newer) = labels newer
  stopped : ∀ older newer, signs = older ++ .stopped :: newer →
    (∀ sign ∈ newer, sign.isStart = false) → isListening = false ∧ tidings newer = []
  silent : (∀ sign ∈ signs, sign.isStart = false) → isListening = false ∧ tidings signs = []

namespace Tells

variable {signs marks : List Sign} {isListening : Bool}

/-- signs without a start or a stop -/
theorem append (h : Tells signs isListening) (hmarks : ∀ sign ∈ marks, sign.isSwitch = false)
    (htold : isListening = true → pairs (tidings marks) = labels marks)
    (hsilent : isListening = false → tidings marks = []) : Tells (signs ++ marks) isListening where
  started := by
    intro older told newer hsplit hnewer
    obtain ⟨rest, rfl, hsigns⟩ := split_quiet hsplit rfl hmarks
    obtain ⟨hlistening, hold, hnew⟩ := h.started older told rest hsigns
      fun sign hsign => hnewer sign (List.mem_append_left _ hsign)
    refine ⟨hlistening, hold, ?_⟩
    rw [tidings_append, labels_append, ← hnew, ← htold hlistening]
    exact List.map_append ..
  stopped := by
    intro older newer hsplit hnewer
    obtain ⟨rest, rfl, hsigns⟩ := split_quiet hsplit rfl hmarks
    obtain ⟨hlistening, hnone⟩ := h.stopped older rest hsigns
      fun sign hsign => hnewer sign (List.mem_append_left _ hsign)
    exact ⟨hlistening, by rw [tidings_append, hnone, hsilent hlistening, List.append_nil]⟩
  silent := by
    intro hnone
    obtain ⟨hlistening, hnothing⟩ := h.silent fun sign hsign => hnone sign (List.mem_append_left _ hsign)
    exact ⟨hlistening, by rw [tidings_append, hnothing, hsilent hlistening, List.append_nil]⟩

/-- a start, at which the listener is told of the lights that have given their labels so far -/
theorem start (signs : List Sign) {told : List Handle}
    (htold : told.map (·.serial) = (labels signs).map Prod.fst) :
    Tells (signs ++ [.started told]) true where
  started := by
    intro older first newer hsplit hnewer
    obtain ⟨rfl, hfirst, rfl⟩ | ⟨rest, rfl, -⟩ := split_concat hsplit
    · obtain rfl := Sign.started.inj hfirst
      exact ⟨rfl, htold, rfl⟩
    · exact nomatch hnewer _ (List.mem_append_right _ (List.mem_singleton_self _))
  stopped := by
    intro older newer hsplit hnewer
    obtain ⟨-, hfirst, -⟩ | ⟨rest, rfl, -⟩ := split_concat hsplit
    · cases hfirst
    · exact nomatch hnewer _ (List.mem_append_right _ (List.mem_singleton_self _))
  silent hnone := nomatch hnone _ (List.mem_append_right _ (List.mem_singleton_self _))

theorem stop (h : Tells signs isListening) : Tells (signs ++ [.stopped]) false where
  started := by
    intro older told newer hsplit hnewer
    obtain ⟨-, hfirst, -⟩ | ⟨rest, rfl, -⟩ := split_concat hsplit
    · cases hfirst
    · exact nomatch hnewer _ (List.mem_append_right _ (List.mem_singleton_self _))
  stopped := by
    intro older newer hsplit hnewer
    obtain ⟨-, -, rfl⟩ | ⟨rest, rfl, hsigns⟩ := split_concat hsplit
    · exact ⟨rfl, rfl⟩
    · obtain ⟨-, hnone⟩ := h.stopped older rest hsigns
        fun sign hsign => hnewer sign (List.mem_append_left _ hsign)
      exact ⟨rfl, by rw [tidings_append, hnone]; rfl⟩
  silent := by
    intro hnone
    obtain ⟨-, hnothing⟩ := h.silent fun sign hsign => hnone sign (List.mem_append_left _ hsign)
    exact ⟨rfl, by rw [tidings_append, hnothing]; rfl⟩

end Tells

/-! ### The course of a client -/

/-- the tables of a client, its open requests and what is seen of it are in step -/
structure Holds (client : Nat) (lan : Lan) (pending : List Pending) (signs : List Sign) : Prop where
  keeps : lan.Keeps client ((labels signs).map Prod.fst)
  asks : lan.AsksNew client ((labels signs).map Prod.fst)
  fair : ∀ asked ∈ pending, asked.request ≠ .introduce
    ∧ IsFair ((labels signs).map Prod.fst) asked.handle asked.request asked.answer
  tells : Tells signs (lan.client client).isListening
  answers : ∀ handle result, Sign.answered handle .read result ∈ signs → IsOwn handle result

lemma IsFair.mono {known more : List String} {handle : Handle} {request : Request} {answer : Answer}
    (h : IsFair known handle request answer) : IsFair (known ++ more) handle request answer := by
  cases answer with
  | ok => exact List.mem_append_left more h
  | impostor serial => exact h
  | fault fault => exact h

lemma keeps_fresh {broadcast : String} {interval : Float}
    (hnew : lan.clients[client]? = some { broadcast, interval }) (htame : lan.IsTame) :
    lan.Keeps client [] ∧ lan.AsksNew client [] ∧ (lan.client client).isListening = false := by
  have hclient : lan.client client = { broadcast, interval } := by
    unfold Lan.client
    rw [hnew]
    rfl
  refine ⟨⟨(List.getElem?_eq_some_iff.mp hnew).1, ?_, ?_, ?_, List.nodup_nil, nofun, htame⟩, ?_, ?_⟩
  · rw [hclient]
    rfl
  · rw [hclient]
    rfl
  · rw [hclient]
    exact nofun
  · unfold AsksNew
    rw [hclient]
    exact nofun
  · rw [hclient]

/-- a change of the client that leaves its tables alone -/
lemma keeps_switch {known : List String} {change : LanClient → LanClient} (h : lan.Keeps client known)
    (hdevices : (change (lan.client client)).devices = (lan.client client).devices)
    (hlights : (change (lan.client client)).lights = (lan.client client).lights) :
    (lan.modifyClient client change).Keeps client known where
  here := (length_modifyClient _).symm ▸ h.here
  devices := by rw [client_modifyClient _ h.here, hdevices, h.devices]
  lights := by rw [client_modifyClient _ h.here, hlights, h.lights]
  own := by rw [client_modifyClient _ h.here, hdevices]; exact h.own
  distinct := h.distinct
  there := h.there
  tame := h.tame

/-- the known lights are told of at the start -/
lemma keeps_start {known : List String} {sighting : Sighting} (h : lan.Keeps client known)
    (hasks : lan.AsksNew client known) (hstart : lan.start client = (later, .ok sighting)) :
    later.Keeps client known ∧ later.AsksNew client known
      ∧ (later.client client).isListening = true ∧ sighting.found.map (·.serial) = known := by
  have hserials : ((lan.client client).devices.map (·.2)).map (·.serial) = known := by
    rw [List.map_map, ← h.devices]
    exact List.map_congr_left h.own
  unfold start at hstart
  dsimp only at hstart
  split at hstart
  · obtain ⟨rfl, hsighting⟩ := Prod.mk.inj hstart
    obtain rfl := Except.ok.inj hsighting
    refine ⟨keeps_switch h rfl rfl, ?_, ?_, hserials⟩
    · unfold AsksNew
      rw [client_modifyClient _ h.here]
      exact hasks
    · rw [client_modifyClient _ h.here]
  · obtain ⟨rfl, hsighting⟩ := Prod.mk.inj hstart
    obtain rfl := Except.ok.inj hsighting
    refine ⟨keeps_switch h rfl rfl, ?_, ?_, hserials⟩
    · unfold AsksNew
      rw [client_modifyClient _ h.here]
      exact nofun
    · rw [client_modifyClient _ h.here]

/-- a signal of the search, in the search that goes on or in one that was given up -/
lemma finds_signal {known : List String} (h : lan.Keeps client known) (hasks : lan.AsksNew client known)
    (session : Nat) : ∃ new, Finds lan (lan.signal (.search client session)).1 client known
        (lan.signal (.search client session)).2.found
        (if (lan.client client).session == session then lan.readingsOn client else []) new
      ∧ (lan.signal (.search client session)).1.AsksNew client (known ++ new.map (·.serial)) := by
  unfold signal
  dsimp only
  split
  · exact finds_goOn h hasks
  · exact ⟨[], .of_same h (same_refl lan client) rfl, by simpa using hasks⟩

namespace Holds

variable {pending : List Pending} {signs : List Sign}

/-- a search that goes on has told of the lights that have given their labels, if somebody listens -/
theorem signal (h : Holds client lan pending signs) (session : Nat) :
    Holds client (lan.signal (.search client session)).1 pending (signs ++ signsOf
      (if (lan.client client).session == session then lan.readingsOn client else [])
      (lan.signal (.search client session)).2.found) := by
  obtain ⟨new, hfinds, hasks⟩ := finds_signal h.keeps h.asks session
  generalize (if (lan.client client).session == session then lan.readingsOn client else []) = reads
    at hfinds ⊢
  have hlabels : labels (signsOf reads (lan.signal (.search client session)).2.found) = pairs new := by
    rw [labels_signsOf, hfinds.labels]
  have hknown : (labels (signs ++ signsOf reads (lan.signal (.search client session)).2.found)).map
      Prod.fst = (labels signs).map Prod.fst ++ new.map (·.serial) := by
    rw [labels_append, hlabels, List.map_append, pairs, List.map_map]
    rfl
  refine ⟨hknown ▸ hfinds.keeps, hknown ▸ hasks, ?_, ?_, ?_⟩
  · rw [hknown]
    exact fun asked hasked => ⟨(h.fair asked hasked).1, (h.fair asked hasked).2.mono⟩
  · rw [hfinds.listening]
    refine h.tells.append (isSwitch_signsOf _ _) (fun hlistening => ?_) (fun hsilent => ?_)
    · rw [hlabels, tidings_signsOf, hfinds.told, hlistening]
      rfl
    · rw [tidings_signsOf, hfinds.told, hsilent]
      rfl
  · intro handle result hmem
    rcases List.mem_append.mp hmem with hmem | hmem
    · exact h.answers handle result hmem
    · rcases List.mem_append.mp hmem with hmem | hmem
      · obtain ⟨read, -, hread⟩ := List.mem_map.mp hmem
        cases hread
      · obtain ⟨found, -, hfound⟩ := List.mem_map.mp hmem
        cases hfound

/-- a request is settled -/
theorem settle {older newer : List Pending} {asked : Pending}
    (h : Holds client lan (older ++ asked :: newer) signs) :
    Holds client (lan.settle client asked.handle asked.request asked.answer).1 (older ++ newer)
      (signs ++ [.answered asked.handle asked.request
        (lan.settle client asked.handle asked.request asked.answer).2.1]) := by
  obtain ⟨hrequest, hfair⟩ := h.fair asked (List.mem_append_right _ (List.mem_cons_self ..))
  obtain ⟨hkeeps, hlistening, hsearch, -, hown⟩ := keeps_settle h.keeps hrequest hfair
  generalize (lan.settle client asked.handle asked.request asked.answer).2.1 = result at hown ⊢
  have hlabels : labels (signs ++ [.answered asked.handle asked.request result]) = labels signs := by
    rw [labels_append]
    exact List.append_nil _
  refine ⟨hlabels ▸ hkeeps, ?_, ?_, ?_, ?_⟩
  · unfold AsksNew
    rw [hlabels, hsearch]
    exact h.asks
  · rw [hlabels]
    exact fun other hother => h.fair other (List.mem_append.mpr
      ((List.mem_append.mp hother).imp_right (List.mem_cons_of_mem _)))
  · rw [hlistening]
    refine h.tells.append ?_ (fun _ => rfl) (fun _ => rfl)
    intro sign hsign
    rw [List.mem_singleton.mp hsign]
    rfl
  · intro handle answer hmem
    rcases List.mem_append.mp hmem with hmem | hmem
    · exact h.answers handle answer hmem
    · obtain ⟨rfl, hread, rfl⟩ := Sign.answered.inj (List.mem_singleton.mp hmem)
      exact hown hread.symm

/-- a sign that is no label and no answer -/
lemma labels_concat {signs : List Sign} {sign : Sign} (h : sign.label? = none) :
    labels (signs ++ [sign]) = labels signs := by
  have hsign : labels [sign] = [] := List.filterMap_cons_none h
  rw [labels_append, hsign, List.append_nil]

theorem start {sighting : Sighting} (h : Holds client lan pending signs)
    (hstart : lan.start client = (later, .ok sighting)) :
    Holds client later pending (signs ++ [.started sighting.found]) := by
  obtain ⟨hkeeps, hasks, hlistening, htold⟩ := keeps_start h.keeps h.asks hstart
  have hlabels : labels (signs ++ [.started sighting.found]) = labels signs := labels_concat rfl
  refine ⟨hlabels ▸ hkeeps, hlabels ▸ hasks, hlabels ▸ h.fair, ?_, ?_⟩
  · rw [hlistening]
    exact .start signs htold
  · intro handle result hmem
    exact h.answers handle result ((List.mem_append.mp hmem).resolve_right (by simp))

theorem stop (h : Holds client lan pending signs) :
    Holds client (lan.stop client) pending (signs ++ [.stopped]) := by
  have hlabels : labels (signs ++ [.stopped]) = labels signs := labels_concat rfl
  have hkeeps : (lan.stop client).Keeps client ((labels signs).map Prod.fst) := by
    unfold Lan.stop
    exact keeps_switch h.keeps rfl rfl
  refine ⟨hlabels ▸ hkeeps, ?_, hlabels ▸ h.fair, ?_, ?_⟩
  · unfold AsksNew Lan.stop
    rw [client_modifyClient _ h.keeps.here]
    exact nofun
  · unfold Lan.stop
    rw [client_modifyClient _ h.keeps.here]
    exact h.tells.stop
  · intro handle result hmem
    exact h.answers handle result ((List.mem_append.mp hmem).resolve_right (by simp))

theorem send (h : Holds client lan pending signs) (handle : Handle) {request : Request}
    (hrequest : request ≠ .introduce) : Holds client (lan.send client handle request).1
      (pending ++ [⟨handle, request, (lan.send client handle request).2.2⟩]) signs := by
  obtain ⟨hsame, hfair⟩ := fair_send h.keeps handle hrequest
  refine ⟨h.keeps.of_same (hsame.same client), hsame.asksNew h.asks, ?_, ?_, h.answers⟩
  · intro asked hasked
    rcases List.mem_append.mp hasked with hasked | hasked
    · exact h.fair asked hasked
    · rw [List.mem_singleton.mp hasked]
      exact ⟨hrequest, hfair⟩
  · rw [(hsame.same client).listening]
    exact h.tells

/-- what others do -/
theorem elsewhere (h : Holds client lan pending signs) (hsame : later.clients[client]? = lan.clients[client]?)
    (hstay : ∀ serial ∈ lan.serials, serial ∈ later.serials) (htame : later.IsTame) :
    Holds client later pending signs := by
  have hclient : later.client client = lan.client client := by
    unfold Lan.client
    rw [hsame]
  have hget := List.getElem?_eq_getElem h.keeps.here
  rw [← hsame] at hget
  refine ⟨⟨(List.getElem?_eq_some_iff.mp hget).1, ?_, ?_, ?_, h.keeps.distinct, ?_, htame⟩, ?_, h.fair, ?_,
    h.answers⟩
  · rw [hclient]
    exact h.keeps.devices
  · rw [hclient]
    exact h.keeps.lights
  · rw [hclient]
    exact h.keeps.own
  · exact fun serial hserial => hstay serial (h.keeps.there serial hserial)
  · unfold AsksNew
    rw [hclient]
    exact h.asks
  · rw [hclient]
    exact h.tells

end Holds

/-- by induction on the course of the client -/
theorem Course.holds {pending : List Pending} {signs : List Sign} (h : Course client lan pending signs) :
    Holds client lan pending signs := by
  induction h with
  | fresh broadcast interval hnew htame =>
    obtain ⟨hkeeps, hasks, hlistening⟩ := keeps_fresh hnew htame
    refine ⟨hkeeps, hasks, fun asked hasked => absurd hasked List.not_mem_nil, ?_,
      fun handle result hmem => absurd hmem List.not_mem_nil⟩
    rw [hlistening]
    exact ⟨fun older told newer hsplit => by simp at hsplit, fun older newer hsplit => by simp at hsplit,
      fun _ => ⟨rfl, rfl⟩⟩
  | start before hstart ih => exact ih.start hstart
  | stop before ih => exact ih.stop
  | send before handle request hrequest ih => exact ih.send handle hrequest
  | settle before ih => exact ih.settle
  | signal before session ih => exact ih.signal session
  | elsewhere before hsame hstay htame ih => exact ih.elsewhere hsame hstay htame

/-- the course up to a start or a stop -/
lemma Course.upTo {pending : List Pending} {signs older newer : List Sign} {switch : Sign}
    (h : Course client lan pending signs) (hsplit : signs = older ++ switch :: newer)
    (hswitch : switch.isSwitch = true) : ∃ first asked, Course client first asked older := by
  induction h generalizing newer with
  | fresh => simp at hsplit
  | start before hstart ih =>
    obtain ⟨rfl, -, -⟩ | ⟨rest, -, hsigns⟩ := split_concat hsplit
    · exact ⟨_, _, before⟩
    · exact ih hsigns
  | stop before ih =>
    obtain ⟨rfl, -, -⟩ | ⟨rest, -, hsigns⟩ := split_concat hsplit
    · exact ⟨_, _, before⟩
    · exact ih hsigns
  | send before handle request hrequest ih => exact ih hsplit
  | settle before ih =>
    obtain ⟨-, rfl, -⟩ | ⟨rest, -, hsigns⟩ := split_concat hsplit
    · cases hswitch
    · exact ih hsigns
  | signal before session ih =>
    obtain ⟨rest, -, hsigns⟩ := split_quiet hsplit hswitch (isSwitch_signsOf _ _)
    exact ih hsigns
  | elsewhere before hsame hstay htame ih => exact ih hsplit

/-- a stretch of the signs that ends with them, or where a switch follows, is the end of some course -/
lemma Course.ending {pending : List Pending} {signs older newer : List Sign}
    (h : Course client lan pending signs) (hsplit : signs = older ++ newer)
    (hnewer : ∀ sign ∈ newer.head?, sign.isSwitch = true) :
    ∃ first asked, Course client first asked older := by
  cases newer with
  | nil =>
    rw [List.append_nil] at hsplit
    exact ⟨lan, pending, hsplit ▸ h⟩
  | cons switch newer => exact h.upTo hsplit (hnewer switch rfl)

/-- whatever becomes of a client, its two tables hold the same serials, each once and with a handle of this
serial, in the order in which the labels were given; a state that is asked for is that of the very light
that was asked, unless there is no answer or no way; from a start to the next start or stop the listener is
told of all lights known by then and of each new light when it gives its label, of none twice; and nobody
is told anything from a stop to the next start, nor before the first -/
theorem Course.kept_and_told {pending : List Pending} {signs : List Sign}
    (h : Course client lan pending signs) :
    (lan.client client).lights.map Prod.fst = (lan.client client).devices.map Prod.fst
    ∧ ((lan.client client).devices.map Prod.fst).Nodup
    ∧ (lan.client client).devices.map Prod.fst = (labels signs).map Prod.fst
    ∧ (∀ serial handle, (serial, handle) ∈ (lan.client client).devices → handle.serial = serial)
    ∧ (∀ handle result, Sign.answered handle .read result ∈ signs →
        (∃ known state, result = .ok (.state known state) ∧ known.serial = handle.serial)
          ∨ (∃ text, result = .error (.timeout text)) ∨ ∃ text, result = .error (.unreachable text))
    ∧ (∀ older told newer rest, signs = (older ++ .started told :: newer) ++ rest →
        (∀ sign ∈ newer, sign.isSwitch = false) → (∀ sign ∈ rest.head?, sign.isSwitch = true) →
        told.map (·.serial) = (labels older).map Prod.fst
          ∧ (tidings newer).map (fun handle => (handle.serial, handle.label)) = labels newer
          ∧ ((told ++ tidings newer).map (·.serial)).Nodup)
    ∧ (∀ older newer rest, signs = (older ++ .stopped :: newer) ++ rest →
        (∀ sign ∈ newer, sign.isStart = false) → (∀ sign ∈ rest.head?, sign.isStart = true) →
        tidings newer = [])
    ∧ (∀ older rest, signs = older ++ rest → (∀ sign ∈ older, sign.isStart = false) →
        (∀ sign ∈ rest.head?, sign.isStart = true) → tidings older = []) := by
  have hswitch : ∀ {rest : List Sign}, (∀ sign ∈ rest.head?, sign.isStart = true) →
      ∀ sign ∈ rest.head?, sign.isSwitch = true := by
    intro rest hrest sign hsign
    have hstart := hrest sign hsign
    cases sign with
    | started told => rfl
    | _ => cases hstart
  refine ⟨?_, ?_, h.holds.keeps.devices, fun serial handle hmem => h.holds.keeps.own _ hmem, ?_, ?_, ?_, ?_⟩
  · rw [h.holds.keeps.lights, h.holds.keeps.devices, List.map_map]
    exact List.map_id _
  · rw [h.holds.keeps.devices]
    exact h.holds.keeps.distinct
  · intro handle result hmem
    rcases h.holds.answers handle result hmem with hown | ⟨fault, rfl, hpassed⟩
    · exact .inl hown
    · cases fault with
      | timeout text => exact .inr (.inl ⟨text, rfl⟩)
      | unreachable text => exact .inr (.inr ⟨text, rfl⟩)
      | _ => cases hpassed
  · intro older told newer rest hsplit hnewer hrest
    obtain ⟨first, asked, hcourse⟩ := h.ending hsplit hrest
    obtain ⟨-, htold, hpairs⟩ := hcourse.holds.tells.started older told newer rfl hnewer
    refine ⟨htold, hpairs, ?_⟩
    have hnodup := hcourse.holds.keeps.distinct
    have hstarted : labels (.started told :: newer) = labels newer := rfl
    have hserials : (tidings newer).map (·.serial) = (labels newer).map Prod.fst := by
      rw [← hpairs, pairs, List.map_map]
      rfl
    rwa [labels_append, hstarted, List.map_append, ← htold, ← hserials, ← List.map_append] at hnodup
  · intro older newer rest hsplit hnewer hrest
    obtain ⟨first, asked, hcourse⟩ := h.ending hsplit (hswitch hrest)
    exact (hcourse.holds.tells.stopped older newer rfl hnewer).2
  · intro older rest hsplit holder hrest
    obtain ⟨first, asked, hcourse⟩ := h.ending hsplit (hswitch hrest)
    exact (hcourse.holds.tells.silent holder).2

/-- a light that loses its first answer -/
def hall : Light where
  serial := "1"
  host := "192.0.2.20"
  label := some "Hall"
  color := { hue := 120.0, saturation := 1.0, brightness := 0.5, kelvin := 3500.0 }
  power := 65535
  turns := [.disturbed .timeout]

def hallLan : Lan where
  lights := [hall]
  clients := [{}]

/-- the network of the hall, with a client that has been started -/
def hallStarted : Lan :=
  (hallLan.start 0).1

/-- two windows of the search: no label is given in the first -/
def hallFound : Lan :=
  ((hallStarted.signal (.search 0 1)).1.signal (.search 0 1)).1

def hallHandle : Handle :=
  { serial := "1", label := "Hall", host := "192.0.2.20" }

lemma isTame_hallLan : hallLan.IsTame := by
  intro light hlight
  obtain rfl := List.mem_singleton.mp hlight
  refine ⟨by rfl, fun turn hturn => ?_⟩
  obtain rfl := List.mem_singleton.mp hturn
  trivial

/-- the client is stopped and started again -/
def hallAgain : Lan :=
  ((hallFound.stop 0).start 0).1

/-- what is seen of it so far -/
def hallSigns : List Sign :=
  [.started [], .read "1" none, .read "1" (some "Hall"), .told hallHandle, .stopped, .started [hallHandle]]

lemma course_hall : Course 0 hallAgain [] hallSigns := by
  have hfresh : Course 0 hallLan [] [] := .fresh "255.255.255.255" 1.0 rfl isTame_hallLan
  have hstarted : Course 0 hallStarted [] [.started []] := hfresh.start rfl
  have hfound : Course 0 hallFound []
      [.started [], .read "1" none, .read "1" (some "Hall"), .told hallHandle] :=
    (hstarted.signal 1).signal 1
  exact hfound.stop.start rfl

/-- the light is found in the second window, told of once more at the second start, and asked for its
state -/
theorem kept_and_told_hall : ∃ lan result,
    Course 0 lan [] (hallSigns ++ [.answered hallHandle .read result])
    ∧ (lan.client 0).devices.map Prod.fst = ["1"]
    ∧ ((∃ known state, result = .ok (.state known state) ∧ known.serial = "1")
      ∨ (∃ text, result = .error (.timeout text)) ∨ ∃ text, result = .error (.unreachable text))
    ∧ (tidings [.read "1" none, .read "1" (some "Hall"), .told hallHandle]).map
        (fun handle => (handle.serial, handle.label)) = [("1", "Hall")] := by
  obtain ⟨lan, answer, hsent⟩ : ∃ lan answer,
      Course 0 lan ([] ++ (⟨hallHandle, .read, answer⟩ : Pending) :: []) hallSigns :=
    ⟨_, _, course_hall.send hallHandle .read (by decide)⟩
  obtain ⟨settled, result, hcourse⟩ : ∃ settled result,
      Course 0 settled [] (hallSigns ++ [.answered hallHandle .read result]) := ⟨_, _, hsent.settle⟩
  obtain ⟨-, -, hdevices, -, hanswers, hstarts, -⟩ := hcourse.kept_and_told
  have hanswered := hanswers hallHandle result (List.mem_append_right _ (List.mem_singleton_self _))
  obtain ⟨-, htold, -⟩ := hstarts [] [] [.read "1" none, .read "1" (some "Hall"), .told hallHandle]
    [.stopped, .started [hallHandle], .answered hallHandle .read result] rfl
    (by simp [Sign.isSwitch]) (by simp [Sign.isSwitch])
  exact ⟨settled, result, hcourse, hdevices, hanswered, htold⟩

end Lamplighter.Lan
