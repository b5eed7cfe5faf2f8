import Mathlib.Data.List.Nodup
import Mathlib.Logic.Relation
import Lamplighter.Proofs.Run.Upshot

/-!
# Scenes: the lights and the snapshots between runs

* `Scene`                 how the lights stand, and what the store has, before or after a run;
* `Scene.IsOrdinary`      the names of the lights are told apart, and each light is on or off;
* `Scene.Follows`         what a scene keeps from an earlier one: the lights there are, what is saved
                          under one key and name, and that it is ordinary;
* `Scene.Passes`          a run leads from a scene to the next that nothing goes wrong in;
* `Follows.of_passes`     any number of runs that do not save under that key and name;
* `Succeeds.captures`     a save leaves the states of the lights that it acted on;
* `Upshot.light_restored`   a restore brings a light to what it finds for it, or leaves it alone.
-/

namespace Lamplighter

open Snapshot (title)

/-! ### Pairs put one after the other -/

namespace Assoc

variable {κ α : Type} [DecidableEq κ] {pairs : List (κ × α)} {k : κ} {v : α}

lemma get?_ofList_append (pairs : List (κ × α)) (pair : κ × α) (k : κ) :
    get? (ofList (pairs ++ [pair])) k = if k = pair.1 then some pair.2 else get? (ofList pairs) k := by
  have hput : ofList (pairs ++ [pair]) = put (ofList pairs) pair.1 pair.2 := by
    simp [ofList]
  rw [hput]
  split
  · rename_i h
    rw [h, get?_put_self]
  · rename_i h
    exact get?_put_of_ne _ _ h

/-- what is found was put there last: by induction on the pairs, from the last -/
lemma last_of_get?_ofList (h : get? (ofList pairs) k = some v) :
    ∃ older newer, pairs = older ++ (k, v) :: newer ∧ ∀ pair ∈ newer, pair.1 ≠ k := by
  induction pairs using List.reverseRecOn with
  | nil => cases h
  | append_singleton pairs pair ih =>
    rw [get?_ofList_append] at h
    split at h
    · rename_i hkey
      obtain rfl := Option.some.inj h
      subst hkey
      exact ⟨pairs, [], rfl, by simp⟩
    · rename_i hkey
      obtain ⟨older, newer, rfl, hnewer⟩ := ih h
      refine ⟨older, newer ++ [pair], by simp, ?_⟩
      rw [List.forall_mem_append, List.forall_mem_singleton]
      exact ⟨hnewer, Ne.symm hkey⟩

lemma mem_of_get?_ofList (h : get? (ofList pairs) k = some v) : (k, v) ∈ pairs := by
  obtain ⟨older, newer, rfl, -⟩ := last_of_get?_ofList h
  exact List.mem_append_right _ (List.mem_cons_self ..)

lemma get?_ofList_eq_none_iff : get? (ofList pairs) k = none ↔ ∀ pair ∈ pairs, pair.1 ≠ k := by
  induction pairs using List.reverseRecOn with
  | nil => simp [ofList]
  | append_singleton pairs pair ih =>
    rw [get?_ofList_append]
    split
    · rename_i hkey
      simp only [reduceCtorEq, false_iff, not_forall]
      exact ⟨pair, List.mem_append_right _ (List.mem_singleton.mpr rfl), not_not.mpr hkey.symm⟩
    · rename_i hkey
      rw [ih, List.forall_mem_append, List.forall_mem_singleton]
      exact ⟨fun h => ⟨h, Ne.symm hkey⟩, fun h => h.1⟩

end Assoc

/-! ### Scenes -/

namespace Bench

/-- the bulb of a serial, how it is addressed and in which state it is -/
def light? (bench : Bench) (serial : String) : Option (Handle × BulbState) :=
  (bench.find? serial).map fun bulb => (bulb.handle, bulb.state)

/-- the bulbs have names that are told apart, which are also in their states, and each is on or off -/
structure IsOrdinary (bench : Bench) : Prop where
  named : (bench.bulbs.map fun bulb => normalName bulb.handle.name).Nodup
  labelled : ∀ bulb ∈ bench.bulbs, bulb.state.label = bulb.handle.label
  switched : ∀ bulb ∈ bench.bulbs, bulb.state.IsSwitched

lemma isOrdinary_iff {bench : Bench} :
    bench.IsOrdinary ↔ (bench.bulbs.map fun bulb => normalName bulb.handle.name).Nodup ∧
      (∀ bulb ∈ bench.bulbs, bulb.state.label = bulb.handle.label) ∧
      ∀ bulb ∈ bench.bulbs, bulb.state.IsSwitched :=
  ⟨fun h => ⟨h.named, h.labelled, h.switched⟩, fun h => ⟨h.1, h.2.1, h.2.2⟩⟩

instance (bench : Bench) : Decidable bench.IsOrdinary :=
  decidable_of_iff' _ isOrdinary_iff

end Bench

/-- how the lights stand, and what the store has -/
structure Scene where
  light? : String → Option (Handle × BulbState)
  store : Snapshot.Store

namespace Scene

/-- the names of the lights are told apart, each light is on or off, and the store can be read -/
structure IsOrdinary (scene : Scene) : Prop where
  sound : scene.store.IsSound
  serial : ∀ {serial handle state}, scene.light? serial = some (handle, state) →
    handle.serial = serial
  labelled : ∀ {serial handle state}, scene.light? serial = some (handle, state) →
    state.label = handle.label
  switched : ∀ {serial handle state}, scene.light? serial = some (handle, state) →
    state.IsSwitched
  named : ∀ {serial other light light'}, scene.light? serial = some light →
    scene.light? other = some light' → normalName light.1.name = normalName light'.1.name →
      serial = other

/-- the states of the lights of some serials, and no others -/
structure Captures (scene : Scene) (serials : List String) (states : List BulbState) : Prop where
  taken : ∀ serial ∈ serials, ∀ handle state, scene.light? serial = some (handle, state) →
    state ∈ states
  known : ∀ state ∈ states, ∃ serial ∈ serials, ∃ handle,
    scene.light? serial = some (handle, state)

/-- a state is saved under a key and a name for the bulb -/
def HasEntry (scene : Scene) (key : String) (name : Option String) (handle : Handle) : Prop :=
  ∃ states, scene.store.held key name = some states ∧
    ∃ state ∈ states, normalName state.label = normalName handle.name

/-- the lights are still there, what was saved under a key and a name too, and the scene is ordinary -/
structure Follows (before after : Scene) (key : String) (name : Option String) : Prop where
  handle : ∀ serial, (after.light? serial).map Prod.fst = (before.light? serial).map Prod.fst
  held : after.store.held key name = before.store.held key name
  ordinary : after.IsOrdinary

namespace Follows

variable {first before after : Scene} {key : String} {name : Option String}

lemma refl (h : before.IsOrdinary) : before.Follows before key name :=
  ⟨fun _ => rfl, rfl, h⟩

lemma trans (h : first.Follows before key name) (h' : before.Follows after key name) :
    first.Follows after key name :=
  ⟨fun serial => (h'.handle serial).trans (h.handle serial), h'.held.trans h.held, h'.ordinary⟩

end Follows

variable {scene : Scene} {serials : List String} {states : List BulbState} {serial : String}
  {handle : Handle} {state : BulbState}

/-- the state of a captured light is found under its name -/
lemma Captures.get? (h : scene.Captures serials states) (hordinary : scene.IsOrdinary)
    (hserial : serial ∈ serials) (hlight : scene.light? serial = some (handle, state)) :
    Assoc.get? (Saved.ofStates states) (normalName handle.name) = some state := by
  have htaken := h.taken serial hserial handle state hlight
  cases hget : Assoc.get? (Saved.ofStates states) (normalName handle.name) with
  | none =>
    refine absurd ?_ (Assoc.get?_ofList_eq_none_iff.mp hget _ (List.mem_map_of_mem htaken))
    dsimp only
    rw [hordinary.labelled hlight]
    rfl
  | some found =>
    obtain ⟨state', hmem, heq⟩ := List.mem_map.mp (Assoc.mem_of_get?_ofList hget)
    obtain ⟨hname, rfl⟩ := Prod.mk.inj heq
    -- another state of this name would be of another light
    obtain ⟨other, _, handle', hother⟩ := h.known state' hmem
    rw [hordinary.labelled hother] at hname
    obtain rfl := hordinary.named hother hlight hname
    rw [hlight] at hother
    obtain ⟨rfl, rfl⟩ := Prod.mk.inj (Option.some.inj hother)
    rfl

/-- no state is saved for a light that was not captured -/
lemma Captures.not_hasEntry (h : scene.Captures serials states) (hordinary : scene.IsOrdinary)
    {later : Scene} {key : String} {name : Option String}
    (hheld : later.store.held key name = some states) (hserial : serial ∉ serials)
    (hlight : scene.light? serial = some (handle, state)) : ¬ later.HasEntry key name handle := by
  rintro ⟨states', hheld', found, hmem, hname⟩
  obtain rfl := Option.some.inj (hheld.symm.trans hheld')
  obtain ⟨other, hother, handle', hlight'⟩ := h.known found hmem
  rw [hordinary.labelled hlight'] at hname
  obtain rfl := hordinary.named hlight' hlight hname
  exact hserial hother

end Scene

/-! ### Runs between scenes -/

/-- an action saves under a key and a name -/
def Action.SavesTo (action : Action) (key : String) (name : Option String) : Prop :=
  ∃ given, action.effect = .save given ∧ key = action.key ∧ title name = title given

namespace Trial

open Session

variable {trial : Trial} {n : Nat} {log : List (Handle × BulbState)} {serial key : String}
  {name given : Option String} {speed : Option Int} {handle : Handle} {state : BulbState}

/-- how things stand before the run -/
def scene (trial : Trial) : Scene :=
  ⟨trial.bench.light?, trial.store⟩

/-- how things stand after the run -/
def left (trial : Trial) (n : Nat) : Scene :=
  ⟨(trial.after n).network.light?, (trial.after n).store⟩

/-- a run of another action, on what this one has left -/
def next (trial : Trial) (n : Nat) (action : Action) : Trial :=
  { trial with bench := (trial.after n).network, store := (trial.after n).store, action }

/-- the commands that a bulb is sent in the run -/
def sent (trial : Trial) (n : Nat) (serial : String) : List Call :=
  ((trial.after n).network.commandsFor trial.client serial).drop
    (trial.bench.commandsFor trial.client serial).length

lemma isOrdinary_scene (h : trial.bench.IsOrdinary) (hstore : trial.store.IsSound) :
    trial.scene.IsOrdinary := by
  have hfind : ∀ {serial handle state}, trial.scene.light? serial = some (handle, state) →
      ∃ bulb ∈ trial.bench.bulbs, bulb.handle.serial = serial ∧ bulb.handle = handle ∧
        bulb.state = state := by
    intro serial handle state hlight
    obtain ⟨bulb, hbulb, heq⟩ := Option.map_eq_some_iff.mp hlight
    obtain ⟨hhandle, hstate⟩ := Prod.mk.inj heq
    exact ⟨bulb, List.mem_of_find?_eq_some hbulb, Bench.serial_of_find? hbulb, hhandle, hstate⟩
  refine ⟨hstore, ?_, ?_, ?_, ?_⟩
  · intro serial handle state hlight
    obtain ⟨bulb, _, hserial, rfl, _⟩ := hfind hlight
    exact hserial
  · intro serial handle state hlight
    obtain ⟨bulb, hmem, _, rfl, rfl⟩ := hfind hlight
    exact h.labelled bulb hmem
  · intro serial handle state hlight
    obtain ⟨bulb, hmem, _, rfl, rfl⟩ := hfind hlight
    exact h.switched bulb hmem
  · intro serial other light light' hlight hlight' hname
    obtain ⟨bulb, hmem, hserial, hhandle, _⟩ := hfind hlight
    obtain ⟨bulb', hmem', hserial', hhandle', _⟩ := hfind hlight'
    rw [← hhandle, ← hhandle'] at hname
    rw [← hserial, ← hserial', List.inj_on_of_nodup_map h.named hmem hmem' hname]

/-! ### Lights -/

/-- the commands are those of the corner of the bulb -/
lemma sent_eq (trial : Trial) (n : Nat) (serial : String) : trial.sent n serial
    = (((trial.after n).corner trial.client 0 serial).commands.getD []).drop
      ((trial.bench.corner trial.client serial).commands.getD []).length := by
  have hcommands : ∀ bench : Bench, bench.commandsFor trial.client serial
      = ((bench.corner trial.client serial).commands).getD [] := by
    intro bench
    unfold Bench.commandsFor Corner.commands Bench.corner
    cases bench.callsFor trial.client serial <;> rfl
  rw [sent, hcommands, hcommands]
  rfl

/-- a bulb that has come to a yield is in its state -/
lemma light_of_yields {yield : Yield} (hyields : (trial.bench.corner trial.client serial).Yields
      ((trial.after n).corner trial.client 0 serial) handle yield)
    (hlight : trial.scene.light? serial = some (handle, state)) :
    (trial.left n).light? serial = some (handle, yield.state) := by
  obtain ⟨bulb, hbulb, heq⟩ := Option.map_eq_some_iff.mp hlight
  obtain ⟨rfl, rfl⟩ := Prod.mk.inj heq
  obtain ⟨bulb', hafter, hstate, hhandle⟩ := hyields.bulb
  have hsame : some bulb.handle = some bulb'.handle := by
    rw [← hhandle]
    exact congrArg (Option.map BenchBulb.handle) hbulb.symm
  refine (congrArg (Option.map fun b : BenchBulb => (b.handle, b.state)) hafter).trans ?_
  rw [Option.map_some, hstate, Option.some.inj hsame]

/-- and was sent its requests, as far as there is a record of them -/
lemma sent_of_yields {yield : Yield} (hyields : (trial.bench.corner trial.client serial).Yields
      ((trial.after n).corner trial.client 0 serial) handle yield) :
    trial.sent n serial = ((trial.bench.callsFor trial.client serial).map fun _ =>
      yield.requests.map (Call.mk handle)).getD [] := by
  have hcommands : (trial.bench.corner trial.client serial).commands
      = (trial.bench.callsFor trial.client serial).map fun calls =>
        calls.filter fun call => call.request != .read := rfl
  rw [sent_eq, hyields.commands, hcommands]
  cases trial.bench.callsFor trial.client serial with
  | none => rfl
  | some calls => simp

/-- a bulb that has come to a yield was sent no other commands -/
lemma request_of_yields {yield : Yield} (hyields : (trial.bench.corner trial.client serial).Yields
      ((trial.after n).corner trial.client 0 serial) handle yield) :
    ∀ call ∈ trial.sent n serial, call.request ∈ yield.requests := by
  intro call hcall
  rw [sent_of_yields hyields] at hcall
  cases hcalls : trial.bench.callsFor trial.client serial with
  | none =>
    rw [hcalls] at hcall
    cases hcall
  | some calls =>
    rw [hcalls] at hcall
    obtain ⟨request, hrequest, rfl⟩ := List.mem_map.mp hcall
    exact hrequest

/-- a bulb that is in the state that it was in, and was sent no command -/
lemma light_of_same {corner : Corner} (hcorner : (trial.after n).corner trial.client 0 serial = corner)
    (hlight : corner.light? = (trial.bench.corner trial.client serial).light?)
    (hcommands : corner.commands = (trial.bench.corner trial.client serial).commands) :
    (trial.left n).light? serial = trial.scene.light? serial ∧ trial.sent n serial = [] := by
  subst hcorner
  refine ⟨hlight, ?_⟩
  rw [sent_eq, hcommands, List.drop_length]

namespace Upshot

lemma light_acted (h : trial.Upshot n log) (hmatched : serial ∈ trial.matched n)
    (hlight : trial.scene.light? serial = some (handle, state)) :
    (trial.left n).light? serial = some (handle, (trial.yield handle state).state) ∧
      keptFor log serial = (trial.yield handle state).kept ∧
      ∀ call ∈ trial.sent n serial, call.request ∈ (trial.yield handle state).requests := by
  obtain ⟨bulb, hbulb, heq⟩ := Option.map_eq_some_iff.mp hlight
  obtain ⟨rfl, rfl⟩ := Prod.mk.inj heq
  obtain rfl := Bench.serial_of_find? hbulb
  obtain ⟨hkept, hyields⟩ := h.acted bulb hbulb hmatched
  exact ⟨light_of_yields hyields hlight, hkept, request_of_yields hyields⟩

lemma light_spared (h : trial.Upshot n log) (hmatched : serial ∉ trial.matched n) :
    (trial.left n).light? serial = trial.scene.light? serial ∧ keptFor log serial = [] ∧
      trial.sent n serial = [] := by
  obtain ⟨hkept, hcorner⟩ := h.spared serial hmatched
  obtain ⟨hlight, hsent⟩ := light_of_same hcorner rfl rfl
  exact ⟨hlight, hkept, hsent⟩

/-- a light that the run acted on was there -/
lemma exists_light (h : trial.Upshot n log) (hmatched : serial ∈ trial.matched n) :
    ∃ handle state, trial.scene.light? serial = some (handle, state) := by
  obtain ⟨bulb, hbulb⟩ := h.met serial hmatched
  exact ⟨bulb.handle, bulb.state,
    congrArg (Option.map fun b : BenchBulb => (b.handle, b.state)) hbulb⟩

/-- what is in the log is from the effect on a light -/
lemma mem_log (h : trial.Upshot n log) {entry : Handle × BulbState} (hmem : entry ∈ log) :
    entry.1.serial ∈ trial.matched n ∧ ∃ handle state,
      trial.scene.light? entry.1.serial = some (handle, state) ∧
      entry.2 ∈ (trial.yield handle state).kept := by
  have hkept : entry.2 ∈ keptFor log entry.1.serial :=
    List.mem_map_of_mem (List.mem_filter.mpr ⟨hmem, beq_self_eq_true _⟩)
  by_cases hmatched : entry.1.serial ∈ trial.matched n
  · obtain ⟨handle, state, hlight⟩ := h.exists_light hmatched
    rw [(h.light_acted hmatched hlight).2.1] at hkept
    exact ⟨hmatched, handle, state, hlight, hkept⟩
  · rw [(h.light_spared hmatched).2.1] at hkept
    cases hkept

/-- how a light stands after the run -/
lemma light_left (h : trial.Upshot n log)
    (hlight : (trial.left n).light? serial = some (handle, state)) :
    ∃ before, trial.scene.light? serial = some (handle, before) ∧ state.label = before.label ∧
      (before.IsSwitched → state.IsSwitched) := by
  by_cases hmatched : serial ∈ trial.matched n
  · obtain ⟨handle', before, hbefore⟩ := h.exists_light hmatched
    rw [(h.light_acted hmatched hbefore).1] at hlight
    obtain ⟨rfl, rfl⟩ := Prod.mk.inj (Option.some.inj hlight)
    exact ⟨before, hbefore, Play.yield_state _ _⟩
  · rw [(h.light_spared hmatched).1] at hlight
    exact ⟨state, hlight, rfl, id⟩

lemma handle_left (h : trial.Upshot n log) (serial : String) :
    ((trial.left n).light? serial).map Prod.fst = (trial.scene.light? serial).map Prod.fst := by
  by_cases hmatched : serial ∈ trial.matched n
  · obtain ⟨handle, before, hbefore⟩ := h.exists_light hmatched
    rw [(h.light_acted hmatched hbefore).1, hbefore]
    rfl
  · rw [(h.light_spared hmatched).1]

/-! ### The store -/

lemma short_states (h : trial.Upshot n log) : ∀ state ∈ log.map Prod.snd, state.IsShort := by
  intro state hstate
  obtain ⟨entry, hmem, rfl⟩ := List.mem_map.mp hstate
  exact h.short entry hmem

/-- only a save that has captured something changes the store -/
lemma store_left (h : trial.Upshot n log) (hstored : trial.hasStore = true) :
    (trial.left n).store = trial.store ∧
      (log = [] ∨ ∀ given, trial.action.effect ≠ .save given) ∨
    ∃ given seconds, trial.action.effect = .save given ∧ log ≠ [] ∧ (trial.left n).store
      = (trial.store.save (some trial.action.key) (log.map Prod.snd) given seconds).1 := by
  obtain ⟨seconds, hfiled⟩ := h.filed
  have hleft : (trial.left n).store = trial.plan.filed trial.store (log.map Prod.snd) seconds := hfiled
  rw [hleft, Plan.filed]
  have haction : trial.plan.action = trial.action := rfl
  have hplan : trial.plan.hasStore = true := hstored
  rw [haction, hplan]
  cases trial.action.effect with
  | save given =>
    cases log with
    | nil => exact .inl ⟨rfl, .inl rfl⟩
    | cons entry rest => exact .inr ⟨given, seconds, rfl, List.cons_ne_nil _ _, rfl⟩
  | _ => exact .inl ⟨rfl, .inr fun _ => nofun⟩

/-- what the store has after the run -/
lemma held_left (h : trial.Upshot n log) (hstored : trial.hasStore = true)
    (hsound : trial.store.IsSound) (key : String) (name : Option String) :
    (¬ trial.action.SavesTo key name →
        (trial.left n).store.held key name = trial.store.held key name) ∧
      (log ≠ [] → trial.action.SavesTo key name →
        (trial.left n).store.held key name = some (log.map Prod.snd)) := by
  rcases h.store_left hstored with ⟨hsame, hnone⟩ | ⟨given, seconds, heffect, hne, hsaved⟩
  · rw [hsame]
    refine ⟨fun _ => rfl, fun hne hsaves => ?_⟩
    obtain ⟨given, heffect, _⟩ := hsaves
    exact absurd heffect (hnone.resolve_left hne given)
  · rw [hsaved, (hsound.save trial.action.key h.short_states given seconds).2]
    refine ⟨fun hnot => if_neg fun hplace => hnot ⟨given, heffect, hplace⟩, ?_⟩
    rintro - ⟨given', heffect', hplace⟩
    obtain rfl := Effect.save.inj (heffect.symm.trans heffect')
    exact if_pos hplace

lemma isSound_left (h : trial.Upshot n log) (hstored : trial.hasStore = true)
    (hsound : trial.store.IsSound) : (trial.left n).store.IsSound := by
  rcases h.store_left hstored with ⟨hsame, -⟩ | ⟨given, seconds, -, -, hsaved⟩
  · rw [hsame]
    exact hsound
  · rw [hsaved]
    exact (hsound.save trial.action.key h.short_states given seconds).1

/-- no light is renamed, and each stays on or off -/
lemma isOrdinary_left (h : trial.Upshot n log) (hstored : trial.hasStore = true)
    (hordinary : trial.scene.IsOrdinary) : (trial.left n).IsOrdinary := by
  refine ⟨h.isSound_left hstored hordinary.sound, ?_, ?_, ?_, ?_⟩
  · intro serial handle state hlight
    obtain ⟨before, hbefore, -⟩ := h.light_left hlight
    exact hordinary.serial hbefore
  · intro serial handle state hlight
    obtain ⟨before, hbefore, hlabel, -⟩ := h.light_left hlight
    exact hlabel.trans (hordinary.labelled hbefore)
  · intro serial handle state hlight
    obtain ⟨before, hbefore, -, hswitched⟩ := h.light_left hlight
    exact hswitched (hordinary.switched hbefore)
  · rintro serial other ⟨handle, state⟩ ⟨handle', state'⟩ hlight hlight' hname
    obtain ⟨before, hbefore, -⟩ := h.light_left hlight
    obtain ⟨before', hbefore', -⟩ := h.light_left hlight'
    exact hordinary.named hbefore hbefore' hname

/-! ### Saving and restoring -/

/-- what a save keeps is the states of the lights that it acted on -/
lemma captures (h : trial.Upshot n log) (heffect : trial.action.effect = .save given) :
    trial.scene.Captures (trial.matched n) (log.map Prod.snd) := by
  have hyield : ∀ handle state, (trial.yield handle state).kept = [state] := by
    intro handle state
    rw [yield, heffect]
    rfl
  refine ⟨?_, ?_⟩
  · intro serial hmatched handle state hlight
    have hkept := (h.light_acted hmatched hlight).2.1
    rw [hyield] at hkept
    obtain ⟨entry, hentry, rfl⟩ := List.mem_map.mp
      (show state ∈ (log.filter _).map Prod.snd from hkept ▸ List.mem_singleton.mpr rfl)
    exact List.mem_map_of_mem (List.mem_filter.mp hentry).1
  · intro state hstate
    obtain ⟨entry, hmem, rfl⟩ := List.mem_map.mp hstate
    obtain ⟨hmatched, handle, before, hlight, hkept⟩ := h.mem_log hmem
    rw [hyield, List.mem_singleton] at hkept
    rw [hkept]
    exact ⟨_, hmatched, handle, hlight⟩

end Upshot

/-- the saved states that a restore knows -/
lemma saved_plan (hstored : trial.hasStore = true) (hsound : trial.store.IsSound)
    (heffect : trial.action.effect = .restore given speed) :
    trial.plan.saved = (trial.store.held trial.action.key given).map Saved.ofStates := by
  show trial.store.recalled trial.action trial.hasStore = _
  unfold Snapshot.Store.recalled
  rw [heffect]
  dsimp only
  rw [hstored, if_pos rfl, hsound.load_eq]
  cases trial.store.held trial.action.key given <;> rfl

/-- the saved state that a restore finds for a bulb -/
def found (trial : Trial) (given : Option String) (handle : Handle) : Option BulbState :=
  (trial.store.held trial.action.key given).bind fun states =>
    Assoc.get? (Saved.ofStates states) (normalName handle.name)

lemma found_eq_none_iff :
    trial.found given handle = none ↔ ¬ trial.scene.HasEntry trial.action.key given handle := by
  have hheld : trial.scene.store.held = trial.store.held := rfl
  unfold found Scene.HasEntry
  rw [hheld]
  cases trial.store.held trial.action.key given with
  | none => simp
  | some states =>
    rw [Option.bind_some, Saved.ofStates, Assoc.get?_ofList_eq_none_iff, List.forall_mem_map]
    simp

namespace Upshot

/-- a restore brings a light to the state that it finds for it, or leaves it alone -/
theorem light_restored (h : trial.Upshot n log) (hstored : trial.hasStore = true)
    (hsound : trial.store.IsSound) (heffect : trial.action.effect = .restore given speed)
    (hmatched : serial ∈ trial.matched n)
    (hlight : trial.scene.light? serial = some (handle, state)) :
    match trial.found given handle with
    | none => (trial.left n).light? serial = some (handle, state) ∧ trial.sent n serial = []
    | some kept => (trial.left n).light? serial = some (handle, kept.restored speed state) ∧
      ∀ call ∈ trial.sent n serial, call.request ∈ Play.restoring kept speed state := by
  obtain ⟨hleft, -, hsent⟩ := h.light_acted hmatched hlight
  have hplay : trial.yield handle state
      = (restorePlay trial.plan.saved speed handle).yield state := by
    rw [yield, heffect]
    rfl
  have hsaved : (trial.plan.saved.bind fun s => Assoc.get? s (normalName handle.name))
      = trial.found given handle := by
    rw [saved_plan hstored hsound heffect, Option.bind_map]
    rfl
  cases hfound : trial.found given handle with
  | none =>
    rw [hplay, Play.yield_restorePlay_none (hsaved.trans hfound)] at hleft hsent
    refine ⟨hleft, List.eq_nil_iff_forall_not_mem.mpr fun call hcall => ?_⟩
    exact absurd (hsent call hcall) List.not_mem_nil
  | some kept =>
    rw [hplay, Play.yield_restorePlay_some (hsaved.trans hfound)] at hleft hsent
    exact ⟨hleft, hsent⟩

end Upshot

/-! ### Runs that nothing goes wrong in -/

namespace Succeeds

/-- a run that does not save under a key and a name -/
theorem follows (h : trial.Succeeds n) (hordinary : trial.scene.IsOrdinary)
    (hother : ¬ trial.action.SavesTo key name) : trial.scene.Follows (trial.left n) key name := by
  obtain ⟨log, hupshot⟩ := h.upshot hordinary.sound
  obtain ⟨hheld, -⟩ := hupshot.held_left h.stored hordinary.sound key name
  exact ⟨hupshot.handle_left, hheld hother, hupshot.isOrdinary_left h.stored hordinary⟩

lemma isOrdinary_left (h : trial.Succeeds n) (hordinary : trial.scene.IsOrdinary) :
    (trial.left n).IsOrdinary := by
  obtain ⟨log, hupshot⟩ := h.upshot hordinary.sound
  exact hupshot.isOrdinary_left h.stored hordinary

lemma handle_left (h : trial.Succeeds n) (hordinary : trial.scene.IsOrdinary) (serial : String) :
    ((trial.left n).light? serial).map Prod.fst = (trial.scene.light? serial).map Prod.fst := by
  obtain ⟨log, hupshot⟩ := h.upshot hordinary.sound
  exact hupshot.handle_left serial

/-- a save leaves the states of the lights that it acted on under its key and name -/
theorem captures (h : trial.Succeeds n) (hordinary : trial.scene.IsOrdinary)
    (heffect : trial.action.effect = .save given) (hmatched : trial.matched n ≠ []) :
    ∃ states, (trial.left n).store.held trial.action.key given = some states ∧
      trial.scene.Captures (trial.matched n) states := by
  obtain ⟨log, hupshot⟩ := h.upshot hordinary.sound
  have hcaptures := hupshot.captures heffect
  obtain ⟨serial, hserial⟩ := List.exists_mem_of_ne_nil _ hmatched
  obtain ⟨handle, state, hlight⟩ := hupshot.exists_light hserial
  have hne : log ≠ [] := by
    rintro rfl
    exact absurd (hcaptures.taken serial hserial handle state hlight) List.not_mem_nil
  obtain ⟨-, hheld⟩ := hupshot.held_left h.stored hordinary.sound trial.action.key given
  exact ⟨_, hheld hne ⟨given, heffect, rfl, rfl⟩, hcaptures⟩

end Succeeds

end Trial

/-! ### Any number of runs -/

namespace Scene

/-- a run of an action that is allowed leads from one scene to the next, and nothing goes wrong in it -/
inductive Passes (allowed : Action → Prop) : Scene → Scene → Prop
  | run {trial : Trial} {n : Nat} (allows : allowed trial.action) (succeeds : trial.Succeeds n) :
    Passes allowed trial.scene (trial.left n)

/-- runs that do not save under a key and a name: by induction on their number -/
theorem Follows.of_passes {before after : Scene} {key : String} {name : Option String}
    (hordinary : before.IsOrdinary)
    (h : Relation.ReflTransGen (Passes fun action => ¬ action.SavesTo key name) before after) :
    before.Follows after key name := by
  induction h with
  | refl => exact .refl hordinary
  | tail _ hpasses ih =>
    cases hpasses with
    | run allows succeeds => exact ih.trans (succeeds.follows ih.ordinary allows)

end Scene

end Lamplighter
