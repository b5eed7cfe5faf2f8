import Lamplighter.Proofs.Discovery.Entries
import Lamplighter.Proofs.Discovery.Hearing
import Lamplighter.Proofs.Discovery.Together

/-!
# Searching: what a search lists

* `Session.inquiries`       the queries of a search, one for each handle;
* `Session.askAll_together` they go on at once, when the client listens no longer;
* `Session.listAll_eq`      what is listed once all of them are over;
* `Session.askAll_ends`     they are driven until all are over, and each bulb is listed;
* `Session.discover_exact`  the listing of a search: one entry for each serial that was announced while the
                            window was open, with what the query for its bulb has come to.
-/

namespace Lamplighter

/-- only bulbs of the bench are announced -/
lemma Bench.known_announcements {bench : Bench} {client : Nat} {a : Handle × Rat}
    (h : a ∈ bench.announcements client) : (bench.find? a.1.serial).isSome = true := by
  unfold Bench.announcements at h
  split at h
  · obtain ⟨bulb, hbulb, rfl⟩ := List.mem_map.mp h
    exact List.find?_isSome.mpr ⟨bulb, hbulb, beq_self_eq_true _⟩
  · obtain ⟨⟨serial, time⟩, -, hfound⟩ := List.mem_filterMap.mp h
    obtain ⟨bulb, hbulb, rfl⟩ := Option.map_eq_some_iff.mp hfound
    show (bench.find? bulb.handle.serial).isSome = true
    rw [Bench.serial_of_find? hbulb, hbulb]
    rfl

namespace Session

variable {s done : Session Bench} {bench : Bench} {client e session : Nat} {timeout : Rat}
  {handles : List Handle} {q : Inquiry} {qs : List Inquiry} {first : Moment}

/-! ### The queries -/

/-- the queries for some bulbs, numbered from a number on -/
def inquiries (bench : Bench) (client : Nat) (timeout : Rat) : Nat → List Handle → List Inquiry
  | _, [] => []
  | e, handle :: handles =>
    ⟨e, client, handle, timeout, 1, (bench.find? handle.serial).getD default⟩
      :: inquiries bench client timeout (e + 1) handles

lemma handle_inquiries (bench : Bench) (client : Nat) (timeout : Rat) (e : Nat) (handles : List Handle) :
    (inquiries bench client timeout e handles).map (·.handle) = handles := by
  induction handles generalizing e with
  | nil => rfl
  | cons handle handles ih => rw [inquiries, List.map_cons, ih]

lemma number_inquiries (bench : Bench) (client : Nat) (timeout : Rat) (e : Nat) (handles : List Handle) :
    (inquiries bench client timeout e handles).map (·.number) = List.range' e handles.length := by
  induction handles generalizing e with
  | nil => rfl
  | cons handle handles ih => rw [inquiries, List.map_cons, ih, List.length_cons, List.range'_succ]

lemma mem_inquiries (h : q ∈ inquiries bench client timeout e handles) :
    q.client = client ∧ q.timeout = timeout ∧ q.maxRetries = 1
      ∧ q.bulb = (bench.find? q.handle.serial).getD default := by
  induction handles generalizing e with
  | nil => cases h
  | cons handle handles ih =>
    rcases List.mem_cons.mp h with rfl | h
    · exact ⟨rfl, rfl, rfl, rfl⟩
    · exact ih h

/-- the errands of the queries stand behind those that were there before -/
lemma errand_inquiries (before : List Errand)
    (h : q ∈ inquiries bench client timeout before.length handles) :
    (before ++ handles.map fun handle => Errand.query client handle (.seconds timeout) 1)[q.number]?
      = some (q.errand (.fresh (.ask q.next))) := by
  induction handles generalizing before with
  | nil => cases h
  | cons handle handles ih =>
    rcases List.mem_cons.mp h with rfl | h
    · rw [List.getElem?_append_right (le_refl _), Nat.sub_self]
      rfl
    · have hlength : before.length + 1
          = (before ++ [Errand.query client handle (.seconds timeout) 1]).length := by simp
      rw [hlength] at h
      have hrest := ih _ h
      rwa [List.append_assoc] at hrest

/-- all bulbs are asked at once -/
lemma askAll_eq (s : Session Bench) (client : Nat) (timeout : Duration) (handles : List Handle) :
    s.askAll client timeout handles
      = ({ s with
            errands := s.errands ++ handles.map fun handle => Errand.query client handle timeout 1
            agenda := { s.agenda with line := s.agenda.line
              ++ (List.range' s.errands.length handles.length).map fun e => ⟨0, .begin e⟩ } },
          List.range' s.errands.length handles.length) := by
  have hfold : ∀ (handles : List Handle) (s : Session Bench) (places : List Nat),
      handles.foldl (fun (s, places) handle =>
        let errands := s.errands ++ [Errand.query client handle timeout 1]
        (({ s with errands } : Session Bench).soon 0 (.begin s.errands.length),
          places ++ [s.errands.length])) (s, places)
      = ({ s with
            errands := s.errands ++ handles.map fun handle => Errand.query client handle timeout 1
            agenda := { s.agenda with line := s.agenda.line
              ++ (List.range' s.errands.length handles.length).map fun e => ⟨0, .begin e⟩ } },
          places ++ List.range' s.errands.length handles.length) := by
    intro handles
    induction handles with
    | nil => intro s places; simp
    | cons handle handles ih =>
      intro s places
      rw [List.foldl_cons, ih]
      simp [soon, Agenda.soon, List.range'_succ]
  exact hfold handles s []

/-- so many cues come at most, until all queries for some bulbs are over -/
def efforts (qs : List Inquiry) : Nat :=
  (qs.map fun q => q.effort 0 q.bulb.replies + 1).sum

lemma pursuesAll (h : ∀ q ∈ qs, s.Pursues q first (q.effort 0 q.bulb.replies + 1)) :
    s.PursuesAll first qs (efforts qs) := by
  induction qs with
  | nil => exact .nil
  | cons q qs ih =>
    obtain ⟨hfirst, hrest⟩ := List.forall_mem_cons.mp h
    exact .cons hfirst (ih hrest)

/-- of all that is set, a query awaits its own start only -/
lemma filter_begins {numbers : List Nat} (hnumbers : numbers.Nodup) (he : e ∈ numbers)
    (late : List (Handle × Moment)) :
    (numbers.map Cue.begin ++ late.map fun a => (announcement client session a).entry.cue).filter
      (·.isAwaitedBy e) = [.begin e] := by
  have hlate : (late.map fun a => (announcement client session a).entry.cue).filter (·.isAwaitedBy e)
      = [] := by
    rw [List.filter_eq_nil_iff, List.forall_mem_map]
    exact fun a _ => Bool.false_ne_true
  have hbegin : (fun cue : Cue => cue.isAwaitedBy e) ∘ Cue.begin = fun number => number == e := rfl
  rw [List.filter_append, hlate, List.append_nil, List.filter_map, hbegin, List.filter_beq,
    List.count_eq_one_of_mem hnumbers he]
  rfl

/-- the queries for some bulbs go on at once, when the client listens no longer -/
theorem askAll_together (timeout : Rat) {asker : BenchClient} {now : Moment} {late : List (Handle × Moment)}
    (hagenda : s.agenda = ⟨now, [], late.map (announcement client session)⟩)
    (hlate : late.Pairwise fun a b => a.2 ≤ b.2) (hclient : s.network.clients[client]? = some asker)
    (hdeaf : asker.isListening = false)
    (hknown : ∀ handle ∈ handles, (s.network.find? handle.serial).isSome = true)
    (hapart : handles.Pairwise fun a b => a.serial ≠ b.serial) :
    (s.askAll client (.seconds timeout) handles).1.Together
      (inquiries s.network client timeout s.errands.length handles) now
      (efforts (inquiries s.network client timeout s.errands.length handles) + late.length) := by
  generalize hqs : inquiries s.network client timeout s.errands.length handles = qs
  have hnumbers : qs.map (·.number) = List.range' s.errands.length handles.length :=
    hqs ▸ number_inquiries ..
  have hhandles : qs.map (·.handle) = handles := hqs ▸ handle_inquiries ..
  have hserials : qs.Pairwise fun q q' => q.handle.serial ≠ q'.handle.serial := by
    rw [← List.pairwise_map (R := fun a b : Handle => a.serial ≠ b.serial), hhandles]
    exact hapart
  have hdistinct : (qs.map (·.number)).Nodup := hnumbers ▸ List.nodup_range'
  rw [askAll_eq, ← hnumbers, hagenda, List.nil_append]
  generalize hasked : ({ s with
    errands := s.errands ++ handles.map fun handle => Errand.query client handle (.seconds timeout) 1
    agenda := ⟨now, (qs.map (·.number)).map fun e => ⟨0, .begin e⟩,
      late.map (announcement client session)⟩ } : Session Bench) = asked
  have hline : asked.agenda.line = (qs.map (·.number)).map fun e => ⟨0, .begin e⟩ := hasked ▸ rfl
  have htimers : asked.agenda.timers = late.map (announcement client session) := hasked ▸ rfl
  have hcues : asked.agenda.cues = (qs.map (·.number)).map Cue.begin
      ++ late.map fun a => (announcement client session a).entry.cue := by
    simp only [Agenda.cues, hline, htimers, List.map_map]
    rfl
  have hupcoming : asked.agenda.upcoming = asked.agenda.cues := by
    rw [Agenda.upcoming, Agenda.order_of_turns 0, Agenda.cues]
    rw [hline, List.forall_mem_map]
    exact fun _ _ => rfl
  refine ⟨?_, (List.pairwise_map.mp hdistinct).and hserials, ?_, _, pursuesAll ?_, ?_⟩
  · rw [Agenda.IsOrdered, htimers]
    exact List.pairwise_map.mpr hlate
  · rw [hcues]
    intro cue hcue
    rcases List.mem_append.mp hcue with hcue | hcue
    · obtain ⟨e, he, rfl⟩ := List.mem_map.mp hcue
      obtain ⟨q, hq, rfl⟩ := List.mem_map.mp he
      exact .inl ⟨q, hq, beq_self_eq_true _⟩
    · obtain ⟨a, -, rfl⟩ := List.mem_map.mp hcue
      refine .inr ⟨client, session, a.1, rfl, ?_⟩
      rw [← hasked, Bench.client, hclient]
      exact hdeaf
  · intro q hq
    have hmem := hqs ▸ hq
    obtain ⟨hasker, htimeout, -, hbulb⟩ := mem_inquiries hmem
    obtain ⟨bulb, hfound⟩ := Option.isSome_iff_exists.mp
      (hknown q.handle (hhandles ▸ List.mem_map_of_mem hq))
    have hfresh : asked.At q (.fresh (.ask q.next)) asked.agenda q.bulb.replies asker.calls := by
      rw [← hasked]
      refine ⟨errand_inquiries s.errands hmem, rfl, ?_, ?_⟩
      · show s.network.find? q.handle.serial = some q.bulb
        rw [hbulb, hfound]
        rfl
      · show (s.network.clients[q.client]?).map _ = _
        rw [hasker, hclient]
        rfl
    rw [show now = asked.agenda.now from hasked ▸ rfl]
    refine hfresh.pursues_fresh ?_ ?_
    · rw [hupcoming, hcues]
      exact filter_begins hdistinct (List.mem_map_of_mem hq) late
    · rw [htimers, List.forall_mem_map]
      exact fun _ _ => rfl
  · have hbegins : ((qs.map (·.number)).map Cue.begin).countP Cue.isSignal = 0 := by
      rw [List.countP_eq_zero, List.forall_mem_map]
      exact fun _ _ => Bool.false_ne_true
    have hsignals : (late.map fun a => (announcement client session a).entry.cue).countP Cue.isSignal
        = late.length := by
      rw [List.countP_map]
      exact List.countP_eq_length.mpr fun _ _ => rfl
    rw [hcues, List.countP_append, hbegins, hsignals, Nat.zero_add]

/-! ### The listing -/

/-- the state that a query returned; none if it ended with a fault -/
def stateOf : Except Fault Reply → Option BulbState
  | .ok (.state _ state) => some state
  | _ => none

/-- what is listed of the bulb of a query -/
def entryOf (done : Session Bench) (q : Inquiry) : Listed :=
  ⟨q.handle, ((done.errands[q.number]?).bind Errand.outcome?).bind stateOf⟩

/-- every bulb is listed, once its query is over -/
lemma listAll_eq (hover : Together.AllOver done qs first) (htame : ∀ q ∈ qs, q.bulb.IsTame) :
    done.listAll (qs.map (·.handle)) (qs.map (·.number)) = .ok (qs.map done.entryOf) := by
  induction qs with
  | nil => rfl
  | cons q qs ih =>
    obtain ⟨hfirst, hrest⟩ := List.forall_mem_cons.mp hover
    obtain ⟨htame, htame'⟩ := List.forall_mem_cons.mp htame
    obtain ⟨outcome, herrand, hcomes⟩ := hfirst
    have hlisted : listed q.handle outcome = .ok (done.entryOf q) := by
      rw [entryOf, herrand]
      rcases hcomes.cases htame with rfl | ⟨fault, rfl, hstateless⟩
      · rfl
      · exact if_pos hstateless
    have hothers := ih hrest htame'
    unfold listAll at hothers ⊢
    rw [List.map_cons, List.map_cons, List.zip_cons_cons, List.mapM_cons, hothers]
    dsimp only
    rw [herrand, Option.bind_some]
    show (listed q.handle outcome >>= _) = _
    rw [hlisted]
    rfl

/-- one entry for each serial that was heard of, with its first handle, in the order of lower-cased names;
those of one name in the order in which they were first heard of -/
structure IsListing (heard : List Handle) (listing : List Listed) : Prop where
  once : ∀ serial, (listing.filter fun l => l.handle.serial == serial).map (·.handle)
    = (heard.find? fun h => h.serial == serial).toList
  ordered : listing.Pairwise fun a b =>
    Text.lowerString a.handle.name < Text.lowerString b.handle.name
      ∨ Text.lowerString a.handle.name = Text.lowerString b.handle.name
        ∧ heard.findIdx (fun h => h.serial == a.handle.serial)
          < heard.findIdx fun h => h.serial == b.handle.serial

/-- the query for the bulb of an entry came to something, and the entry has the state that it returned,
or no state if it ended with a fault that only means that the bulb gives none.  What it came to is what
its own script comes to with requests at some moments, and what this script alone comes to if the clock
tells its delays and the timeout apart, whatever the scripts of the other bulbs are -/
structure Answers (s done : Session Bench) (client : Nat) (timeout : Rat) (closed : Moment) (entry : Listed)
    (q : Inquiry) (outcome : Except Fault Reply) : Prop where
  query : q.client = client ∧ q.handle = entry.handle ∧ q.timeout = timeout ∧ q.maxRetries = 1
  bulb : s.network.find? entry.handle.serial = some q.bulb
  ended : done.errands[q.number]? = some (q.errand (.over outcome))
  state : ∀ state, entry.state = some state ↔ outcome = .ok (.state entry.handle state)
  stateless : entry.state = none ↔ ∃ fault, outcome = .error fault ∧ isStateless fault = true
  comes : q.ComesTo closed done.agenda.now outcome
  own : q.IsClear closed done.agenda.now → outcome = q.answer

lemma answers {closed : Moment} {outcome : Except Fault Reply} (hquery : q.client = client
      ∧ q.timeout = timeout ∧ q.maxRetries = 1)
    (hbulb : s.network.find? q.handle.serial = some q.bulb) (htame : q.bulb.IsTame)
    (hover : done.errands[q.number]? = some (q.errand (.over outcome)))
    (hcomes : q.ComesTo closed done.agenda.now outcome) (hclosed : 0 ≤ closed) :
    Answers s done client timeout closed (done.entryOf q) q outcome := by
  have hstate : (done.entryOf q).state = stateOf outcome := by
    rw [entryOf, hover]
    rfl
  refine ⟨⟨hquery.1, rfl, hquery.2⟩, hbulb, hover, fun state => ?_, ?_, hcomes,
    hcomes.eq_answer hclosed⟩
  · rw [hstate]
    rcases hcomes.cases htame with rfl | ⟨fault, rfl, -⟩
    · simp [stateOf, entryOf]
    · simp [stateOf]
  · rw [hstate]
    rcases hcomes.cases htame with rfl | ⟨fault, rfl, hstateless⟩
    · simp [stateOf]
    · exact iff_of_true rfl ⟨fault, rfl, hstateless⟩

lemma isListing_sort {heard : List Handle} {listing : List Listed}
    (h : listing.map (·.handle) = firstHandles heard) : IsListing heard (Listed.sort listing) := by
  refine ⟨fun serial => ?_, Listed.pairwise_sort ?_⟩
  · have hfirst := filter_firstHandles heard serial
    have hperm : ((Listed.sort listing).filter fun l => l.handle.serial == serial).map (·.handle)
        |>.Perm ((firstHandles heard).filter fun h => h.serial == serial) := by
      rw [← h, List.filter_map]
      exact ((List.mergeSort_perm listing _).filter _).map _
    rw [hfirst] at hperm
    cases hfound : heard.find? fun h => h.serial == serial with
    | none => rw [hfound] at hperm; exact List.perm_nil.mp hperm
    | some handle => rw [hfound] at hperm; exact List.perm_singleton.mp hperm
  · rw [← List.pairwise_map (R := fun a b : Handle => heard.findIdx (fun h => h.serial == a.serial)
      < heard.findIdx fun h => h.serial == b.serial), h]
    exact pairwise_firstHandles heard

/-! ### A search -/

/-- a search that is given so many steps to listen, and so many for the queries -/
def discoverWithin {ν : Type} [Network ν] (s : Session ν) (fuel client : Nat)
    (timeout stateTimeout : Duration) : Session ν × Except Fault (List Listed) :=
  let i := s.lists.length
  match { s with lists := s.lists ++ [[]] }.listen client (.list i) with
  | (s, some fault) => (s, .error fault)
  | (s, none) =>
    let heard := (s.sleepWithin fuel timeout).unlisten client
    let handles := firstHandles (((heard.lists[i]?).getD []).map (·.1))
    let (asking, places) := heard.askAll client stateTimeout handles
    let done := drive (fun s => (s.searchFault? places).isSome || places.all s.isErrandOver) fuel asking
    match done.searchFault? places with
    | some fault => (done, .error fault)
    | none => (done, (done.listAll handles places).map Listed.sort)

lemma discover_eq {ν : Type} [Network ν] (s : Session ν) (client : Nat) (timeout stateTimeout : Duration) :
    s.discover client timeout stateTimeout = s.discoverWithin patience client timeout stateTimeout :=
  rfl

/-- so many steps are enough for the announcements, and for the queries to the bulbs that were heard of -/
def needed (bench : Bench) (later : List (Handle × Moment)) (heard : List Handle) : Nat :=
  later.length + 1 + ((firstHandles heard).map fun handle =>
    4 * ((bench.find? handle.serial).elim 0 fun bulb => bulb.replies.length) + 4).sum

lemma efforts_le (client : Nat) (timeout : Rat) (e : Nat)
    (hknown : ∀ handle ∈ handles, (bench.find? handle.serial).isSome = true) :
    efforts (inquiries bench client timeout e handles) ≤ (handles.map fun handle =>
      4 * ((bench.find? handle.serial).elim 0 fun bulb => bulb.replies.length) + 4).sum := by
  induction handles generalizing e with
  | nil => exact le_refl 0
  | cons handle handles ih =>
    obtain ⟨hfirst, hrest⟩ := List.forall_mem_cons.mp hknown
    obtain ⟨bulb, hbulb⟩ := Option.isSome_iff_exists.mp hfirst
    have hothers := ih (e + 1) hrest
    unfold efforts at hothers ⊢
    rw [inquiries, List.map_cons, List.sum_cons, List.map_cons, List.sum_cons, hbulb]
    have hone : (Inquiry.mk e client handle timeout 1 bulb).effort 0 bulb.replies
        ≤ 4 * bulb.replies.length + 3 := by
      unfold Inquiry.effort
      split
      · show 1 + 1 - 0 ≤ _
        omega
      · exact le_refl _
    simp only [Option.getD_some, Option.elim_some]
    omega

/-- the queries for some bulbs are driven until all of them are over, and every bulb is listed -/
theorem askAll_ends (timeout : Rat) {asker : BenchClient} {now : Moment} {late : List (Handle × Moment)}
    (hagenda : s.agenda = ⟨now, [], late.map (announcement client session)⟩)
    (hlate : late.Pairwise fun a b => a.2 ≤ b.2) (hclient : s.network.clients[client]? = some asker)
    (hdeaf : asker.isListening = false)
    (hknown : ∀ handle ∈ handles, (s.network.find? handle.serial).isSome = true)
    (hapart : handles.Pairwise fun a b => a.serial ≠ b.serial)
    (htame : ∀ bulb ∈ s.network.bulbs, bulb.IsTame) :
    ∃ asking places done qs, s.askAll client (.seconds timeout) handles = (asking, places)
      ∧ (∀ q ∈ qs, (q.client = client ∧ q.timeout = timeout ∧ q.maxRetries = 1)
        ∧ s.network.find? q.handle.serial = some q.bulb ∧ q.bulb.IsTame)
      ∧ Together.AllOver done qs now
      ∧ (∀ fuel ≥ late.length + (handles.map fun handle =>
          4 * ((s.network.find? handle.serial).elim 0 fun bulb => bulb.replies.length) + 4).sum,
        drive (fun s => (s.searchFault? places).isSome || places.all s.isErrandOver) fuel asking = done)
      ∧ done.searchFault? places = none
      ∧ qs.map (·.handle) = handles ∧ done.listAll handles places = .ok (qs.map done.entryOf) := by
  have htogether := askAll_together timeout hagenda hlate hclient hdeaf hknown hapart
  have heffort := efforts_le client timeout s.errands.length hknown
  have hhandles := handle_inquiries s.network client timeout s.errands.length handles
  have hquery : ∀ q ∈ inquiries s.network client timeout s.errands.length handles,
      (q.client = client ∧ q.timeout = timeout ∧ q.maxRetries = 1)
        ∧ s.network.find? q.handle.serial = some q.bulb ∧ q.bulb.IsTame := by
    intro q hq
    obtain ⟨hasker, htimeout, hretries, hbulb⟩ := mem_inquiries hq
    obtain ⟨bulb, hfound⟩ := Option.isSome_iff_exists.mp
      (hknown q.handle (hhandles ▸ List.mem_map_of_mem hq))
    obtain rfl : q.bulb = bulb := by
      rw [hbulb, hfound]
      rfl
    exact ⟨⟨hasker, htimeout, hretries⟩, hfound, htame q.bulb (List.mem_of_find?_eq_some hfound)⟩
  have hplaces : (s.askAll client (.seconds timeout) handles).2
      = (inquiries s.network client timeout s.errands.length handles).map (·.number) := by
    rw [number_inquiries, askAll_eq]
  revert htogether heffort hhandles hquery hplaces
  generalize inquiries s.network client timeout s.errands.length handles = qs
  intro htogether heffort hhandles hquery hplaces
  have htame' : ∀ q ∈ qs, q.bulb.IsTame := fun q hq => (hquery q hq).2.2
  obtain ⟨done, m, hdone, hover, hdrive⟩ := htogether.ends htame'
  have hlisted := listAll_eq hover htame'
  rw [hhandles] at hlisted
  exact ⟨_, qs.map (·.number), done, qs, Prod.ext rfl hplaces, hquery, hover,
    fun fuel hfuel => hdrive fuel (by omega), hdone.searchFault? htame', hhandles, hlisted⟩

/-- a client can listen, other announcements to it may be under way, and no script ends a search -/
structure IsReady (s : Session Bench) (client : Nat) (asker : BenchClient)
    (expected : List (Handle × Moment)) : Prop where
  hears : s.network.clients[client]? = some asker
  works : asker.isBroken = false
  since : 0 ≤ s.agenda.now
  agenda : s.agenda
    = { now := s.agenda.now, timers := expected.map (announcement client (asker.starts + 1)) }
  sorted : expected.Pairwise fun a b => a.2 ≤ b.2
  known : ∀ a ∈ expected, (s.network.find? a.1.serial).isSome = true
  tame : ∀ bulb ∈ s.network.bulbs, bulb.IsTame

/-- whatever a client hears of is a bulb of the bench -/
lemma known_heard {asker : BenchClient} {expected timed late : List (Handle × Moment)}
    (h : s.IsReady client asker expected)
    (hsplit : inTime (expected ++ s.network.later client s.agenda.now) = timed ++ late) {handle : Handle}
    (hhandle : handle ∈ s.network.atOnce client ++ timed.map (·.1)) :
    (s.network.find? handle.serial).isSome = true := by
  rcases List.mem_append.mp hhandle with hhandle | hhandle
  · obtain ⟨a, ha, rfl⟩ := List.mem_map.mp hhandle
    exact Bench.known_announcements (List.mem_filter.mp ha).1
  · obtain ⟨a, ha, rfl⟩ := List.mem_map.mp hhandle
    have hmem : a ∈ inTime (expected ++ s.network.later client s.agenda.now) :=
      hsplit ▸ List.mem_append_left _ ha
    rcases List.mem_append.mp ((List.mem_insertionSort _).mp hmem) with ha | ha
    · exact h.known a ha
    · obtain ⟨b, hb, rfl⟩ := List.mem_map.mp ha
      exact Bench.known_announcements (a := b) (List.mem_filter.mp hb).1

/-- the client of a search listens until the window ends, and then no longer -/
lemma IsReady.listens {asker : BenchClient} {expected : List (Handle × Moment)}
    (h : s.IsReady client asker expected) (window : Rat) :
    ∃ timed late closed opened stopped deaf,
      inTime (expected ++ s.network.later client s.agenda.now) = timed ++ late
      ∧ Splits s.agenda.now window timed late
      ∧ s.agenda.now ≤ closed ∧ closed ≤ closing s.agenda.now window
      ∧ ({ s with lists := s.lists ++ [[]] } : Session Bench).listen client (.list s.lists.length)
        = (opened, none)
      ∧ (∀ fuel ≥ (timed ++ late).length + 1,
        (opened.sleepWithin fuel (.seconds window)).unlisten client = stopped)
      ∧ ((stopped.lists[s.lists.length]?).getD []).map (·.1)
        = s.network.atOnce client ++ timed.map (·.1)
      ∧ stopped.agenda = ⟨closed, [], late.map (announcement client (asker.starts + 1))⟩
      ∧ stopped.network.bulbs = s.network.bulbs
      ∧ stopped.network.clients[client]? = some deaf ∧ deaf.isListening = false := by
  obtain ⟨opened, hlisten, hhearing, hagenda, hlists, -, hbulbs, hclients⟩ :=
    listen_list (s := { s with lists := s.lists ++ [[]] }) (i := s.lists.length) h.hears h.works h.agenda
      h.sorted (by simp)
  obtain ⟨timed, late, closed, told, hsplit, hsplits, hnow, hclosed, htold, hsleep⟩ :=
    hhearing.sleepWithin hagenda (List.pairwise_insertionSort _ _) h.since window
  obtain ⟨hearer, hhearer⟩ : ∃ hearer, opened.network.clients[client]? = some hearer := by
    rw [← Option.isSome_iff_exists, isSome_getElem?, hclients]
    exact (List.getElem?_eq_some_iff.mp h.hears).1
  refine ⟨timed, late, closed, opened, _, { hearer with stops := hearer.stops + 1, isListening := false },
    hsplit, hsplits, hnow, hclosed, hlisten, fun fuel hfuel => congrArg (·.unlisten client)
      (hsleep fuel (hsplit ▸ hfuel)), ?_, rfl, hbulbs, ?_, rfl⟩
  · show (((opened.lists.modify s.lists.length (· ++ told))[s.lists.length]?).getD []).map _ = _
    rw [List.getElem?_modify_eq, hlists]
    simp [htold, Function.comp_def]
  · show (opened.network.clients.modify client _)[client]? = _
    rw [List.getElem?_modify_eq, hhearer]
    rfl

/-- A search lists one entry for each serial that is announced while its window is open, with the first
handle that is announced for it, in the order of lower-cased names, those of one name in the order in
which they are first announced.  Each bulb is asked by a query of its own: its entry has the state that
this query returns, and none just if the query ends with a fault that only means that the bulb gives no
state.  So it is whatever the scripts of the other bulbs are. -/
theorem discover_exact {client : Nat} {asker : BenchClient} {expected : List (Handle × Moment)}
    (h : s.IsReady client asker expected) (window timeout : Rat) :
    let later := inTime (expected ++ s.network.later client s.agenda.now)
    ∃ timed late listing closed done, later = timed ++ late ∧ Splits s.agenda.now window timed late ∧
      let heard := s.network.atOnce client ++ timed.map (·.1)
      (∀ fuel ≥ needed s.network later heard,
        s.discoverWithin fuel client (.seconds window) (.seconds timeout) = (done, .ok listing)) ∧
      (needed s.network later heard ≤ patience →
        s.discover client (.seconds window) (.seconds timeout) = (done, .ok listing)) ∧
      s.agenda.now ≤ closed ∧ closed ≤ closing s.agenda.now window ∧
      IsListing heard listing ∧
      ∀ entry ∈ listing, ∃ q outcome, Answers s done client timeout closed entry q outcome := by
  intro later
  obtain ⟨timed, late, closed, opened, stopped, deaf, hsplit, hsplits, hnow, hclosed, hlisten, hsleep,
    hheard, hagenda, hbulbs, hdeaf, hdeaf'⟩ := h.listens window
  refine ⟨timed, late, ?_⟩
  have hknown : ∀ handle ∈ s.network.atOnce client ++ timed.map (·.1),
      (s.network.find? handle.serial).isSome = true := fun handle => known_heard h hsplit
  revert hheard hknown
  generalize s.network.atOnce client ++ timed.map (·.1) = heard
  intro hheard hknown
  have hfind : stopped.network.find? = s.network.find? := by
    funext serial
    exact congrArg (List.find? fun b => b.handle.serial == serial) hbulbs
  have hknown' : ∀ handle ∈ firstHandles heard, (stopped.network.find? handle.serial).isSome = true := by
    intro handle hhandle
    rw [hfind]
    exact hknown handle ((sublist_firstHandles heard).subset hhandle)
  have hsorted : (timed ++ late).Pairwise fun a b => a.2 ≤ b.2 := by
    rw [← hsplit]
    exact List.pairwise_insertionSort _ _
  have hlate := (List.pairwise_append.mp hsorted).2.1
  obtain ⟨asking, places, done, qs, hasked, hquery, hover, hdrive, hunfailed, hhandles, hlisted⟩ :=
    askAll_ends timeout hagenda hlate hdeaf hdeaf' hknown' (serials_firstHandles heard)
      (hbulbs.symm ▸ h.tame)
  rw [hfind] at hdrive
  have hwithin : ∀ fuel ≥ needed s.network later heard, s.discoverWithin fuel client (.seconds window)
      (.seconds timeout) = (done, .ok (Listed.sort (qs.map done.entryOf))) := by
    intro fuel hfuel
    rw [needed, show later = timed ++ late from hsplit, List.length_append] at hfuel
    unfold discoverWithin
    dsimp only
    rw [hlisten]
    dsimp only
    rw [hsleep fuel (by rw [List.length_append]; omega), hheard, hasked]
    dsimp only
    rw [hdrive fuel (by omega), hunfailed, hlisted]
    rfl
  refine ⟨_, closed, done, hsplit, hsplits, hwithin, fun hpatience =>
    (discover_eq ..).trans (hwithin _ hpatience), hnow, hclosed, isListing_sort ?_, fun entry hentry => ?_⟩
  · rw [List.map_map]
    exact hhandles
  · obtain ⟨q, hq, rfl⟩ := List.mem_map.mp ((List.mergeSort_perm _ _).mem_iff.mp hentry)
    obtain ⟨hquery, hbulb, htame⟩ := hquery q hq
    obtain ⟨outcome, herrand, hcomes⟩ := hover q hq
    rw [hfind] at hbulb
    exact ⟨q, outcome, answers hquery hbulb htame herrand hcomes (h.since.trans hnow)⟩

def hallway : BenchBulb :=
  { handle := { serial := "d073d5000001", label := "Hall", host := "10.0.0.1" }
    state := { label := "Hall", power := 65535, hue := 0, saturation := 0, brightness := 65535,
               kelvin := 3500 } }

/-- a bulb that never answers -/
def loft : BenchBulb :=
  { handle := { serial := "d073d5000002", label := "attic", host := "10.0.0.2" }
    state := { label := "attic", power := 0, hue := 0, saturation := 0, brightness := 65535,
               kelvin := 3500 }
    replies := [.silence, .silence] }

/-- another label of the bulb in the hall -/
def oldHallway : Handle :=
  { hallway.handle with label := "Old hall" }

/-- two bulbs, one of which is announced three times, once under another label -/
def upstairs : Session Bench :=
  { agenda := { timers := [announcement 0 1 (oldHallway, 1 / 2)] }
    network :=
      { bulbs := [hallway, loft]
        clients := [{ announced := some [("d073d5000001", 0), ("d073d5000002", 0), ("d073d5000001", 1)] }] } }

theorem discover_exact_upstairs :
    let asker : BenchClient :=
      { announced := some [("d073d5000001", 0), ("d073d5000002", 0), ("d073d5000001", 1)] }
    upstairs.IsReady 0 asker [(oldHallway, 1 / 2)] ∧
    ∃ done listing, upstairs.discover 0 (.seconds 3) (.seconds 2) = (done, .ok listing) ∧
      (listing.filter fun l => l.handle.serial == "d073d5000001").map (·.handle) = [hallway.handle] ∧
      (listing.filter fun l => l.handle.serial == "d073d5000002").map (·.handle) = [loft.handle] ∧
      ∀ entry ∈ listing, entry.handle = loft.handle → entry.state = none := by
  intro asker
  have hready : upstairs.IsReady 0 asker [(oldHallway, 1 / 2)] := by
    refine ⟨rfl, rfl, le_refl 0, rfl, List.pairwise_singleton .., by decide, ?_⟩
    intro bulb hbulb fault hfault
    have hnone : ∀ bulb ∈ upstairs.network.bulbs, ∀ fault, .fault fault ∉ bulb.replies := by
      simp [upstairs, hallway, loft]
    exact absurd hfault (hnone bulb hbulb fault)
  refine ⟨hready, ?_⟩
  obtain ⟨timed, late, listing, closed, done, hsplit, hsplits, -, hdiscover, hclosed, -, hlisting,
    hanswers⟩ := discover_exact hready 3 2
  have hlater : inTime ([(oldHallway, (1 / 2 : Moment))] ++ upstairs.network.later 0 0)
      = [(oldHallway, 1 / 2), (hallway.handle, 1)] := by decide +kernel
  have hclosing : closing 0 3 = 3 := by decide +kernel
  have hnow : upstairs.agenda.now = 0 := rfl
  rw [hnow, hlater] at hsplit hdiscover
  rw [hnow] at hsplits
  -- nothing comes too late
  have hlate : late = [] := by
    refine List.eq_nil_iff_forall_not_mem.mpr fun a ha => ?_
    have hless := hsplits.behind (by decide) a ha
    have hmem : a ∈ [(oldHallway, (1 / 2 : Moment)), (hallway.handle, 1)] :=
      hsplit ▸ List.mem_append_right _ ha
    rw [hclosing] at hless
    rcases List.mem_pair.mp hmem with rfl | rfl <;> exact absurd hless (by decide +kernel)
  rw [hlate, List.append_nil] at hsplit
  have hheard : upstairs.network.atOnce 0 ++ timed.map (·.1)
      = [hallway.handle, loft.handle, oldHallway, hallway.handle] := by
    rw [← hsplit]
    decide +kernel
  rw [hheard] at hdiscover hlisting
  refine ⟨done, listing, hdiscover (by decide +kernel), hlisting.once _, hlisting.once _, ?_⟩
  intro entry hentry hhandle
  obtain ⟨q, outcome, hanswer⟩ := hanswers entry hentry
  obtain ⟨-, -, htimeout, hretries⟩ := hanswer.query
  have hbulb : loft = q.bulb := by
    have hfound := hanswer.bulb
    rw [hhandle] at hfound
    exact Option.some.inj hfound
  have hclear : q.IsClear closed done.agenda.now := by
    intro reply hreply moment _ _
    rw [← hbulb] at hreply
    obtain rfl : reply = .silence := by simpa [loft] using hreply
    trivial
  have hanswered : q.answer = .error (.silent q.handle.name 1) := by
    rw [Inquiry.answer, ← hbulb, htimeout, if_neg (by decide)]
    simp only [loft, Inquiry.answerFrom, ScriptedReply.plainEcho, hretries]
    rfl
  exact hanswer.stateless.mpr ⟨_, (hanswer.own hclear).trans hanswered, rfl⟩

end Session

end Lamplighter
