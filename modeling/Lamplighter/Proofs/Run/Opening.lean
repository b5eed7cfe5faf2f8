import Lamplighter.Proofs.Run.Lively

/-!
# Opening: a run starts on the bench

* `Plan.opening`      what a run is about once it has got ready;
* `Opens`             a run that has listened for bulbs and is about to handle its first messages;
* `start_opens`       every run with a reliable audience, a store that serves and a client that can
                      listen opens;
* `start_broken`      where the client cannot listen, the run has ended at once;
* `Lively.start`      and is lively then.
-/

set_option linter.unusedSectionVars false

namespace Lamplighter

open Deeds

/-- the states that an effect finds in a store when it gets ready -/
def Snapshot.Store.recalled (store : Snapshot.Store) (action : Action) (hasStore : Bool) :
    Option Saved :=
  match action.effect with
  | .restore name _ =>
    if hasStore then
      match store.load (some action.key) name with
      | .ok (some states) => some (Saved.ofStates states)
      | _ => none
    else none
  | _ => none

def Plan.opening (action : Action) (settings : Settings) (client : Nat) (audience : Audience)
    (hasStore : Bool) (store : Snapshot.Store) : Plan :=
  { action, settings, client, audience, hasStore, saved := store.recalled action hasStore }

/-- the bulbs that a client hears of at once, and those that it will hear of -/
def Bench.sighting (bench : Bench) (client : Nat) : Sighting where
  found := ((bench.announcements client).filter fun a => a.2 == 0).map (·.1)
  later := ((bench.announcements client).filter fun a => a.2 != 0).map fun (handle, time) =>
    (.lasting (.seconds time), .bulb client ((bench.client client).starts + 1) handle)

namespace Session

variable {s t : Session Bench} {r : Nat} {k : Handle → Prop} {run : Run}

/-- telling the audience changes nothing but the runs and the hub -/
lemma emit_eq (s : Session Bench) (q : Nat) (kind : EventKind) (message : String)
    (device : Option String) (data : Option Json) :
    ∃ runs hub, (s.emit q kind message device data).1 = { s with runs, hub } := by
  obtain ⟨_, _, hub, -, htold⟩ := s.emit_frame q kind message device data
  exact ⟨_, hub, htold⟩

/-- a run gets ready if its audience is reliable and the store serves -/
lemma prepare_ok (run : Run) (hreliable : s.Reliable r)
    (hserves : s.store.Serves run.action run.hasStore) :
    (s.prepare r run).2 = .ok (s.store.recalled run.action run.hasStore) := by
  unfold Session.prepare Snapshot.Store.recalled
  unfold Snapshot.Store.Serves at hserves
  rw [emit_of_reliable hreliable]
  cases heffect : run.action.effect with
  | restore name speed =>
    simp only [heffect] at hserves
    cases hstore : run.hasStore with
    | false => rfl
    | true =>
      obtain ⟨saved, hload⟩ := hserves hstore
      cases saved with
      | none => simp only [if_true, hload, Except.mapError]
      | some states => simp only [if_true, hload, Except.mapError]
  | _ => rfl

/-- until it looks for bulbs, a run changes nothing but the runs and the hub -/
lemma readied_eq (s : Session Bench) (r : Nat) (run : Run) :
    ∃ runs hub, s.readied r run = { s with runs, hub } := by
  obtain ⟨runs, hub, hsaid⟩ := emit_eq (s.modifyRun r fun run => { run with started := s.agenda.now })
    r .runStarted ("Starting action " ++ run.action.verb.word) none (some (startData run.action))
  have hsaid : (s.sayStart r run).1 = { s with runs, hub } := hsaid
  rcases prepare_cases (s.sayStart r run).1 r run with heq | heq
  · exact ⟨runs, hub, heq.trans hsaid⟩
  · obtain ⟨runs', hub', htold⟩ := emit_eq (s.sayStart r run).1 r .deviceReport
      "Configuration state not found, cannot restore" none none
    refine ⟨runs', hub', heq.trans (htold.trans ?_)⟩
    rw [hsaid]

lemma stock_readied (s : Session Bench) (r : Nat) (run : Run) :
    (s.readied r run).stock r = s.stock r := by
  have hsaid : (s.sayStart r run).1.stock r = s.stock r :=
    (stock_emit _ r .runStarted _ none _).trans (stock_modifyRun s r (by intro; rfl))
  rcases prepare_cases (s.sayStart r run).1 r run with heq | heq
  · rw [readied, heq, hsaid]
  · rw [readied, heq, stock_emit, hsaid]

lemma Spares.sayStart {c e : Nat} {x : String} (s : Session Bench) (r : Nat) (run : Run) :
    Spares c r x e k s (s.sayStart r run).1 := by
  have hstarted : Spares c r x e k s
      (s.modifyRun r fun run => { run with started := s.agenda.now }) :=
    .modifyRun s r (fun _ => rfl) (fun _ => rfl) fun _ _ => .inl
  exact hstarted.trans (.emit _ r .runStarted _ none _)

lemma Spares.readied {c e : Nat} {x : String} (s : Session Bench) (r : Nat) (run : Run) :
    Spares c r x e k s (s.readied r run) := by
  rcases prepare_cases (s.sayStart r run).1 r run with heq | heq
  · rw [Session.readied, heq]
    exact .sayStart s r run
  · rw [Session.readied, heq]
    exact (Spares.sayStart s r run).trans (.emit _ r .deviceReport _ none none)

/-- a client that can listen hears of the bulbs that it announces -/
lemma listen_eq {client : Nat} (hunbroken : (s.network.client client).isBroken = false)
    (hk : ∀ a ∈ s.network.announcements client, k a.1) (listener : Listener) :
    ∃ t, s.listen client listener = (t, none) ∧ t.stock r = s.stock r ∧
      ∀ c x e, Spares c r x e k s t := by
  have hlistening : ∀ c x e (change : BenchClient → BenchClient) (listeners),
      (∀ b, (change b).calls = b.calls) →
      Spares c r x e k s { s with network := s.network.modifyClient client change, listeners } := by
    intro c x e change listeners hcalls
    have hnetwork : Spares c r x e k s { s with network := s.network.modifyClient client change } :=
      .network s rfl (Bench.callsFor_modifyClient c client fun b => by rw [hcalls])
    exact hnetwork.trans ⟨rfl, rfl, rfl, id, fun h => ⟨h.signals, h.messages⟩, fun _ _ => id, rfl⟩
  have hstart : Network.start s.network client = (s.network.modifyClient client fun c =>
      { c with starts := (s.network.client client).starts + 1, isListening := true },
      .ok (s.network.sighting client)) := if_neg (by simp [hunbroken])
  unfold Session.listen
  rw [hstart]
  refine ⟨_, rfl, stock_sight _ _ _, fun c x e => Spares.trans ?_ (.sight _ _ ?_ ?_)⟩
  · exact hlistening c x e _ _ fun _ => rfl
  · intro handle hmem
    obtain ⟨a, ha, rfl⟩ := List.mem_map.mp hmem
    exact hk a (List.mem_filter.mp ha).1
  · intro later hmem client' session handle heq
    obtain ⟨a, ha, rfl⟩ := List.mem_map.mp hmem
    obtain ⟨_, _, rfl⟩ := Signal.bulb.inj heq
    exact hk a (List.mem_filter.mp ha).1

/-- a run that looks for bulbs and is about to handle its first messages; nothing else has changed
in the session -/
structure Opens (s v : Session Bench) (r : Nat) (plan : Plan) (k : Handle → Prop) (run : Run) :
    Prop where
  here : v.runs[r]? = some run
  planned : run.plan = plan
  sole : v.IsSole r
  ready : ∃ l, v.ledger r = some l ∧ Ready l
  orderly : v.Orderly r
  corner : ∀ c x, v.corner c r x = s.corner c r x
  desk : ∀ e, v.desk e = s.desk e
  ordered : s.agenda.IsOrdered → v.agenda.IsOrdered
  known : s.Knows r k → v.Knows r k
  clock : .clock r ∈ v.agenda.cues
  stock : v.stock r = s.stock r

lemma Opens.store {v : Session Bench} {plan : Plan} (h : Opens s v r plan k run) :
    v.store = s.store :=
  congrArg Stock.store h.stock

/-- a run starts to look for bulbs -/
theorem search_opens (run : Run) (hsole : s.IsSole r)
    (hplan : s.runs[r]?.map Run.plan = some run.plan) {l : Ledger} (hl : s.ledger r = some l) (h : s.Kept r) (hp : l.phase = .idle) (hout : l.outcome = none)
    (hunbroken : (s.network.client run.client).isBroken = false)
    (hk : ∀ a ∈ s.network.announcements run.client, k a.1) :
    ∃ v run', s.search r run = v.handleAll r run' run'.inbox ∧ Opens s v r run.plan k run' := by
  obtain ⟨⟨l', hl', hready⟩, horderly⟩ := Kept.seek hl h hp hout run.client (.run r)
  have hlooking : ∀ c x e, Spares c r x e k s (s.seeking r) :=
    fun c x e => .modifyRun s r (fun _ => rfl) (fun _ => rfl) fun _ _ => .inl
  obtain ⟨t, hlisten, hstock, hspares⟩ := listen_eq (s := s.seeking r) (r := r) hunbroken hk (.run r)
  rw [seeking, stock_modifyRun s r (by intro; rfl)] at hstock
  rw [hlisten] at hl' horderly
  dsimp only at hl' horderly
  obtain ⟨run', hget', rfl⟩ := Option.map_eq_some_iff.mp hl'
  have hall : ∀ c x e, Spares c r x e k s (t.soon 0 (.clock r)) := fun c x e =>
    ((hlooking c x e).trans (hspares c x e)).trans (.soon t 0 rfl (by simp))
  have hclock := Same.soon (r := r) t 0 (.clock r) rfl (by simp)
  have hsame : run'.plan = run.plan := by
    have hsame := map_plan_of_plans (hall 0 "" 0).plans r
    rw [show (t.soon 0 (.clock r)).runs[r]? = some run' from hget', hplan] at hsame
    exact Option.some.inj hsame
  refine ⟨t.soon 0 (.clock r), run', ?_, hget', hsame, hsole.of_plans (hall 0 "" 0).plans,
    ⟨_, hclock.ledger.trans hl', hready⟩, hclock.orderly horderly, fun c x => (hall c x 0).corner,
    fun e => (hall 0 "" e).desk, (hall 0 "" 0).order, (hall 0 "" 0).known, ?_, hstock⟩
  · cases search_course s r run with
    | breaksOff listened result =>
      rw [hlisten] at listened
      cases listened
    | absent listened gone result =>
      rw [hlisten] at gone
      exact absurd (hget'.symm.trans gone) (Option.some_ne_none _)
    | looks listened here result =>
      rw [hlisten] at here result
      obtain rfl := Option.some.inj (hget'.symm.trans here)
      exact result
  · exact (t.agenda.cues_soon 0 (.clock r)).mem_iff.mpr (List.mem_cons_self ..)

/-- where nothing is under way a fault ends a run at once -/
lemma abort_eq (run : Run) (fault : Fault) (hclear : s.agenda.cues = []) (herrands : s.errands = [])
    (hturn : s.turn = none) : (s.abort r run fault).agenda.cues = [] ∧
      ∀ run', (s.abort r run fault).runs[r]? = some run' → run'.outcome = some (.error fault) := by
  have hcallOff : ∀ u : Session Bench, u.errands = [] → u.callOffAll r = u := by
    intro u hu
    unfold Session.callOffAll
    rw [hu]
    rfl
  have hstopped : ((s.note r .aborted).stopSearch r run).agenda.cues = [] := by
    refine (Agenda.cues_drop _ _).trans ?_
    show s.agenda.cues.filter _ = []
    rw [hclear]
    rfl
  unfold Session.abort
  rw [hcallOff ((s.note r .aborted).stopSearch r run) herrands]
  generalize hu : (s.note r .aborted).stopSearch r run = u at hstopped
  have hidle : u.turn = none := by
    rw [← hu]
    exact hturn
  rw [endRun_eq, Session.pass, if_neg (by rw [show (u.modifyRun r _).turn = u.turn from rfl, hidle]; simp)]
  refine ⟨hstopped, ?_⟩
  intro run' hget
  rw [runs_modifyRun_self] at hget
  obtain ⟨_, _, rfl⟩ := Option.map_eq_some_iff.mp hget
  rfl

/-- a client that cannot listen ends a run at once -/
lemma search_broken (run : Run) (hclear : s.agenda.cues = []) (herrands : s.errands = [])
    (hturn : s.turn = none) (hbroken : (s.network.client run.client).isBroken = true) :
    (s.search r run).agenda.cues = [] ∧ ∃ fault, ∀ run', (s.search r run).runs[r]? = some run' →
      run'.outcome = some (.error fault) := by
  have hlisten : ∀ u : Session Bench, u.network = s.network → ∃ network,
      u.listen run.client (.run r) = ({ u with network }, some (.unreachable "no network")) := by
    intro u hu
    have hstart : Network.start u.network run.client = (u.network.modifyClient run.client fun c =>
        { c with starts := (u.network.client run.client).starts + 1 },
        .error (.unreachable "no network")) := if_pos (by rw [hu, hbroken])
    unfold Session.listen
    rw [hstart]
    exact ⟨_, rfl⟩
  obtain ⟨network, heq⟩ := hlisten (s.seeking r) rfl
  cases search_course s r run with
  | breaksOff listened result =>
    rw [result, heq]
    obtain ⟨hcues, hout⟩ := abort_eq (s := { s.seeking r with network }) (r := r) run _ hclear
      herrands hturn
    exact ⟨hcues, _, hout⟩
  | absent listened gone result | looks listened here result =>
    rw [heq] at listened
    cases listened

/-- a run says that it starts and gets ready before it looks for bulbs -/
lemma start_eq (run : Run) (hreliable : s.Reliable r)
    (hserves : s.store.Serves run.action run.hasStore) :
    s.start r run = ((s.readied r run).modifyRun r fun run' => { run' with
      saved := s.store.recalled run.action run.hasStore }).search r { run with
        saved := s.store.recalled run.action run.hasStore } := by
  have hstarted : Spares 0 r "" 0 (fun _ => True) s
      (s.modifyRun r fun run => { run with started := s.agenda.now }) :=
    .modifyRun s r (fun _ => rfl) (fun _ => rfl) fun _ _ => .inl
  have hsaid : Spares 0 r "" 0 (fun _ => True) s (s.sayStart r run).1 := .sayStart s r run
  have hprepare := prepare_ok run (hreliable.of_plans hsaid.plans) (hsaid.store ▸ hserves)
  rw [hsaid.store] at hprepare
  cases start_course s r run with
  | mute said result =>
    rw [sayStart, emit_of_reliable (hreliable.of_plans hstarted.plans)] at said
    cases said
  | unready said prepared result =>
    rw [hprepare] at prepared
    cases prepared
  | seeks said prepared result =>
    obtain rfl := Except.ok.inj (hprepare.symm.trans prepared)
    exact result

section

variable {bench : Bench} {store : Snapshot.Store} {action : Action} {settings : Settings}
  {client : Nat} {audience : Audience} {hasStore : Bool}

/-- a run starts alone -/
theorem start_opens (settings : Settings) (hreliable : audience.isReliable = true)
    (hserves : store.Serves action hasStore) (hunbroken : (bench.client client).isBroken = false)
    (hk : ∀ a ∈ bench.announcements client, k a.1) :
    ∃ v run', (alone bench (.ofAction action settings client audience hasStore) store).start 0
        (.ofAction action settings client audience hasStore) = v.handleAll 0 run' run'.inbox ∧
      Opens (alone bench (.ofAction action settings client audience hasStore) store) v 0
        (.opening action settings client audience hasStore store) k run' := by
  have hawaits := alone_awaits bench action settings client audience hasStore store
  obtain ⟨hl, hsound, hp, hout⟩ := hawaits.ledger
  have hkept := Kept.mk ⟨_, hl, hsound⟩ hawaits.orderly
  have hrun : (alone bench (.ofAction action settings client audience hasStore) store).Reliable 0 := by
    intro run' hget
    obtain rfl := Option.some.inj hget
    exact hreliable
  have hsole : (alone bench (.ofAction action settings client audience hasStore) store).IsSole 0 := by
    intro q hq
    obtain ⟨q, rfl⟩ := Nat.exists_eq_succ_of_ne_zero hq
    rfl
  have hstart := start_eq (.ofAction action settings client audience hasStore) hrun hserves
  obtain ⟨runs, hub, hframe⟩ := readied_eq
    (alone bench (.ofAction action settings client audience hasStore) store) 0
    (.ofAction action settings client audience hasStore)
  have hsame := Same.readied 0
    (alone bench (.ofAction action settings client audience hasStore) store)
    (.ofAction action settings client audience hasStore)
  have hstock := stock_readied
    (alone bench (.ofAction action settings client audience hasStore) store) 0
    (.ofAction action settings client audience hasStore)
  have hspares := fun c x e k => Spares.readied (c := c) (x := x) (e := e) (k := k)
    (alone bench (.ofAction action settings client audience hasStore) store) 0
    (.ofAction action settings client audience hasStore)
  revert hstart hframe hsame hstock hspares
  generalize (alone bench (.ofAction action settings client audience hasStore) store).readied 0 _ = t
  intro hstart hframe hsame hstock hspares
  have hnetwork : t.network = bench := by
    rw [hframe]
    rfl
  have hplans := map_plan_of_plans (hspares 0 "" 0 fun _ => True).plans 0
  have hsole' := hsole.of_plans (hspares 0 "" 0 fun _ => True).plans
  have hready := hsame.trans (.modifyRun t 0 (fun run => { run with
    saved := store.recalled action hasStore }) fun _ => rfl)
  obtain ⟨run', hget', hplan'⟩ := Option.map_eq_some_iff.mp hplans
  have hplan : (t.modifyRun 0 fun run => { run with
      saved := store.recalled action hasStore }).runs[0]?.map Run.plan
        = some (.opening action settings client audience hasStore store) := by
    rw [runs_modifyRun_self, hget']
    exact congrArg (fun p : Plan => some { p with saved := store.recalled action hasStore }) hplan'
  have hsole'' : (t.modifyRun 0 fun run => { run with
      saved := store.recalled action hasStore }).IsSole 0 := by
    intro q hq
    rw [runs_modifyRun_ne hq.symm]
    exact hsole' q hq
  obtain ⟨v, run'', hsearch, hopens⟩ := search_opens (k := k)
    { Run.ofAction action settings client audience hasStore with
      saved := store.recalled action hasStore }
    hsole'' hplan (hready.ledger.trans hl) (hkept.same hready) hp hout
    (by rw [← hunbroken]; exact congrArg (fun b : Bench => (b.client client).isBroken) hnetwork)
    (by
      intro a ha
      refine hk a ?_
      rw [← hnetwork]
      exact ha)
  refine ⟨v, run'', hstart.trans hsearch, hopens.here, hopens.planned, hopens.sole, hopens.ready,
    hopens.orderly, ?_, ?_, ?_, ?_, hopens.clock, ?_⟩
  · intro c x
    refine (hopens.corner c x).trans (Eq.trans ?_ (hspares c x 0 fun _ => True).corner)
    exact corner_modifyRun t 0 fun _ => rfl
  · intro e
    exact (hopens.desk e).trans (hspares 0 "" e fun _ => True).desk
  · exact fun h => hopens.ordered ((hspares 0 "" 0 fun _ => True).order h)
  · exact fun h => hopens.known (((hspares 0 "" 0 k).known h).modifyRun 0 fun _ _ => .inl)
  · exact (hopens.stock.trans (stock_modifyRun t 0 fun _ => rfl)).trans hstock

/-- where the client cannot listen, a run that starts alone has ended with a fault -/
theorem start_broken (settings : Settings) (hreliable : audience.isReliable = true)
    (hserves : store.Serves action hasStore) (hbroken : (bench.client client).isBroken = true) :
    ((alone bench (.ofAction action settings client audience hasStore) store).start 0
        (.ofAction action settings client audience hasStore)).agenda.cues = [] ∧
      ∃ fault, ∀ run, ((alone bench (.ofAction action settings client audience hasStore) store).start 0
        (.ofAction action settings client audience hasStore)).runs[0]? = some run →
          run.outcome = some (.error fault) := by
  have hrun : (alone bench (.ofAction action settings client audience hasStore) store).Reliable 0 := by
    intro run' hget
    obtain rfl := Option.some.inj hget
    exact hreliable
  obtain ⟨runs, hub, hframe⟩ := readied_eq
    (alone bench (.ofAction action settings client audience hasStore) store) 0
    (.ofAction action settings client audience hasStore)
  rw [start_eq (.ofAction action settings client audience hasStore) hrun hserves, hframe]
  exact search_broken _ rfl rfl rfl hbroken

/-- where nothing was there may be a new effect, which is attended -/
lemma attended_of_admits {c e : Nat} {x : String} {plan : Plan} (h : Admits c r x e k plan s t)
    (hdesk : (s.desk e).errand = none ∧ (s.desk e).cues.cues = []) :
    (t.desk e).IsAttended plan r e := by
  unfold Desk.IsAttended
  rcases h.desk with hsame | ⟨_, handle, hnew⟩
  · rw [hsame, hdesk.1]
    exact hdesk.2
  · rw [hnew]
    refine ⟨⟨Effect.isPlain_play _ _ _ _, ?_⟩, handle, _, rfl⟩
    have hsoon := (s.desk e).cues.cues_soon 0 (.begin e)
    rwa [hdesk.2] at hsoon

/-- a run that starts alone has handled its first messages -/
theorem start_settled (settings : Settings) (hreliable : audience.isReliable = true)
    (hserves : store.Serves action hasStore) (hunbroken : (bench.client client).isBroken = false)
    (hk : ∀ a ∈ bench.announcements client, k a.1) :
    ∃ v run l l', (alone bench (.ofAction action settings client audience hasStore) store).start 0
        (.ofAction action settings client audience hasStore) = v.handleAll 0 run run.inbox ∧
      Opens (alone bench (.ofAction action settings client audience hasStore) store) v 0
        (.opening action settings client audience hasStore store) k run ∧
      Backed.Settled v (v.handleAll 0 run run.inbox) 0
        (.opening action settings client audience hasStore store) l l' := by
  obtain ⟨v, run, hstart, hopens⟩ := start_opens settings hreliable hserves hunbroken hk
  have hplanned : v.runs[0]?.map Run.plan
      = some (.opening action settings client audience hasStore store) := by
    rw [hopens.here]
    exact congrArg some hopens.planned
  have hbacked : v.Backed 0 (.opening action settings client audience hasStore store) :=
    ⟨hplanned, hreliable, hopens.store ▸ hserves⟩
  have herrands : v.errands = [] := by
    refine List.eq_nil_iff_forall_not_mem.mpr ?_
    intro errand hmem
    obtain ⟨e, he⟩ := List.getElem?_of_mem hmem
    have hnone : v.errands[e]?.map _ = none := congrArg Desk.errand (hopens.desk e)
    rw [he] at hnone
    cases hnone
  obtain ⟨l, hl, hready⟩ := hopens.ready
  obtain ⟨l', hsettled⟩ := hbacked.handleAll hl hready.phase hopens.orderly
    (by rw [herrands]; exact fun _ h => by cases h) hopens.planned run.inbox
  exact ⟨v, run, l, l', hstart, hopens, hsettled⟩

/-- a run that starts alone is lively -/
theorem Lively.start (settings : Settings) (hreliable : audience.isReliable = true)
    (hserves : store.Serves action hasStore) (hunbroken : (bench.client client).isBroken = false)
    (hk : ∀ a ∈ bench.announcements client, k a.1) :
    ∃ l, ((alone bench (.ofAction action settings client audience hasStore) store).start 0
      (.ofAction action settings client audience hasStore)).Lively 0
        (.opening action settings client audience hasStore store) k l := by
  obtain ⟨v, run, l, l', hstart, hopens, hsettled⟩ :=
    start_settled settings hreliable hserves hunbroken hk
  have hawaits := alone_awaits bench action settings client audience hasStore store
  obtain ⟨hl, hsound, hp, hout⟩ := hawaits.ledger
  have hkept := Kept.start hl (Kept.mk ⟨_, hl, hsound⟩ hawaits.orderly) hp hout
    (.ofAction action settings client audience hasStore)
  have hplanned : v.runs[0]?.map Run.plan
      = some (.opening action settings client audience hasStore store) := by
    rw [hopens.here]
    exact congrArg some hopens.planned
  have hrun : v.Reliable 0 := by
    intro run' hget
    have haudience := congrArg Plan.audience hopens.planned
    rw [hopens.here] at hget
    rw [← Option.some.inj hget]
    exact (congrArg Audience.isReliable haudience).trans hreliable
  have hadmits : ∀ c x e, Admits c 0 x e k _ v (v.handleAll 0 run run.inbox) := fun c x e =>
    .handleAll v hopens.planned hrun run.inbox
  rw [hstart] at hkept ⊢
  refine ⟨l', ⟨hkept, ?_, hopens.sole.of_plans (hadmits 0 "" 0).plans, hreliable, ?_, ?_, ?_⟩,
    hsettled.ledger, hsettled.alert, ?_, ?_⟩
  · exact (map_plan_of_plans (hadmits 0 "" 0).plans 0).trans hplanned
  · exact (hadmits 0 "" 0).order (hopens.ordered List.Pairwise.nil)
  · intro e
    refine attended_of_admits (hadmits 0 "" e) ?_
    rw [hopens.desk e]
    exact ⟨rfl, rfl⟩
  · refine (hadmits 0 "" 0).known (hopens.known ⟨fun _ _ _ h => (by cases h), ?_⟩)
    intro run hget handle hmem
    obtain rfl := Option.some.inj hget
    cases hmem
  · exact fun hd => ⟨.clock 0, by simp [Cue.isClockOf], hsettled.clocks hd _
      (by simp [Cue.isClockOf]) hopens.clock⟩
  · intro hf
    rw [hsettled.store hf, hopens.store]
    exact hserves

end

end Session

end Lamplighter
