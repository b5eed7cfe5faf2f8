import Lamplighter.Proofs.Run.Scene
import Lamplighter.Proofs.Run.Steady

/-!
# Again: a command that is run twice

* `Trial.IsCalm`          a run that saves nothing, on a bench of prompt bulbs;
* `IsCalm.outline_after`  two such runs of one outline go on alike;
* `Trial.again`           the same run once more, on what it has left;
* `Trial.unchanged_once_more`   the second run acts on the same bulbs as the first, and leaves every bulb as
                          it is.
-/

namespace Lamplighter

open Deeds

/-! ### Benches -/

namespace Bench

variable {bench other : Bench}

/-- to hear of a bulb changes nothing -/
lemma fst_signal (bench : Bench) (signal : Signal) : (Network.signal bench signal).1 = bench := by
  cases signal <;> rfl

lemma preserves_outline (bench : Bench) : Network.Preserves fun other : Bench =>
    other.outline = bench.outline where
  send other client handle request h := (Retains.send other client handle request).outline.trans h
  settle other _ handle request answer h := (Retains.settle other handle request answer).outline.trans h
  start other client h := (outline_start other client).trans h
  stop other client h := (outline_stop other client).trans h
  signal other signal h := by rwa [fst_signal]

lemma preserves_isPrompt : Network.Preserves Bench.IsPrompt where
  send bench client handle request := (Retains.send bench client handle request).prompt
  settle bench _ handle request answer := (Retains.settle bench handle request answer).prompt
  start bench client h := by
    show ((bench.start client).1).IsPrompt
    unfold start
    dsimp only
    split <;> exact h
  stop _ _ h := h
  signal bench signal h := by rwa [fst_signal]

lemma isDistinct_outline : bench.outline.IsDistinct ↔ bench.IsDistinct := by
  unfold IsDistinct outline
  rw [List.map_map]
  rfl

end Bench

namespace Session

variable {s t : Session Bench} {r : Nat}

lemma effects_outline (s : Session Bench) (r : Nat) : s.outline.effects r = s.effects r := by
  unfold effects
  rw [show s.outline.errands = s.errands.map Errand.outline from rfl, List.filter_map, List.map_map]
  simp only [Function.comp_def, Errand.isOver_outline]
  rfl

lemma faultsOf_outline (s : Session Bench) (r : Nat) (serial : String) :
    s.outline.faultsOf r serial = s.faultsOf r serial := by
  unfold faultsOf
  rw [get_outline, Option.map_map]
  rfl

end Session

namespace Trial

open Session

variable {trial other : Trial} {n : Nat} {run : Run} {summary : Summary} {serial : String}
  {handle : Handle} {state : BulbState}

/-! ### The bench of a trial -/

/-- what every request keeps is so after every number of steps -/
lemma network_after {p : Bench → Prop} (hp : Network.Preserves p) (h : p trial.bench) (n : Nat) :
    p (trial.after n).network := by
  induction n with
  | zero => exact (Touches.start _ trial.opening).network hp h
  | succ n ih =>
    rw [after_succ]
    cases hstep : (trial.after n).step with
    | none => exact ih
    | some t =>
      obtain ⟨cue, agenda, -, -, rfl⟩ := turn_of_step hstep
      exact (touches_perform _ cue).network hp ih

lemma outline_network_after (trial : Trial) (n : Nat) :
    (trial.after n).network.outline = trial.bench.outline :=
  network_after (Bench.preserves_outline trial.bench) rfl n

/-! ### Two trials that go on alike -/

/-- a run that saves nothing, with a client that can listen, on a bench of prompt bulbs -/
structure IsCalm (trial : Trial) : Prop where
  fit : trial.IsFit
  unbroken : (trial.bench.client trial.client).isBroken = false
  prompt : trial.bench.IsPrompt
  unsaved : ∀ name, trial.action.effect ≠ .save name

namespace IsCalm

/-- every effect stays with commands -/
theorem isSteady (h : trial.IsCalm) (n : Nat) : (trial.after n).IsSteady 0 := by
  have hhosts := h.fit.hosts h.unbroken n
  obtain ⟨log, htracks⟩ := h.fit.tracks h.unbroken n
  refine ⟨⟨hhosts.reliable_run, fun run hget name => ?_⟩, hhosts.sole, fun errand hmem => ?_⟩
  · have hplanned := hhosts.planned
    rw [hget] at hplanned
    have haction : run.action = trial.action := congrArg Plan.action (Option.some.inj hplanned)
    rw [haction]
    exact h.unsaved name
  · obtain ⟨e, he⟩ := List.getElem?_of_mem hmem
    have hknown := hhosts.kind he
    obtain ⟨bulb, hbulb, -⟩ := h.fit.exists_of_announced hknown
    have hfound : ((trial.after n).network.find? errand.handle.serial).isSome = true := by
      rw [Bench.isSome_find? (trial.outline_network_after n), hbulb]
      rfl
    refine ⟨⟨hhosts.own_of_mem errand hmem, hhosts.reliable_run,
      network_after Bench.preserves_isPrompt h.prompt n, hfound⟩, ?_⟩
    cases htracks.fares errand.handle fun other hother => h.fit.only other _ hother hknown with
    | untouched same none nothing => exact absurd rfl (none errand hmem)
    | @begun e' solo cues has comes =>
      obtain ⟨errand', he', hstage, hrun, stage, hsolo⟩ := has.errand
      have hhandle : errand.handle = errand'.handle := by
        rw [← handle_of_comes comes, hsolo]
      obtain rfl := hhosts.eq_of_serial he he' (congrArg Handle.serial hhandle)
      obtain rfl := Option.some.inj (he.symm.trans he')
      rw [hstage]
      exact comes.steady (Effect.isSteady_play h.unsaved _ _ _)

lemma isSmooth_alone (h : trial.IsCalm) :
    (Session.alone trial.bench trial.opening trial.store).IsSmooth 0 := by
  constructor <;> intro run hget <;> obtain rfl := Option.some.inj hget
  · exact h.fit.reliable
  · exact h.unsaved

lemma not_isEntryOf (h : trial.IsCalm) (n : Nat) :
    ∀ cue ∈ (trial.after n).agenda.cues, cue.isEntryOf 0 = false :=
  fun _ => (h.fit.hosts h.unbroken n).kept.not_isEntryOf

/-- with every step two trials of one outline come to sessions of one outline -/
theorem outline_after (h : trial.IsCalm) (h' : other.IsCalm) (hlike : trial.IsLike other)
    (hbench : other.bench.outline = trial.bench.outline) (n : Nat) :
    (other.after n).outline = (trial.after n).outline := by
  induction n with
  | zero =>
    have hrun : other.opening.outline = trial.opening.outline := by
      unfold opening Run.ofAction
      rw [hlike.action, hlike.settings, hlike.client, hlike.hasStore]
      rfl
    have hsession : (Session.alone other.bench other.opening other.store).outline
        = (Session.alone trial.bench trial.opening trial.store).outline := by
      have hclear : ∀ bench : Bench, ({} : Agenda Cue).map (Cue.outline bench) = {} :=
        fun bench => Agenda.map_of_clear _ _ ⟨rfl, rfl⟩
      simp only [Session.outline, Session.alone, hclear, List.map_cons, hrun, hbench, hlike.store]
    refine outline_start hsession ⟨rfl, rfl⟩ ⟨rfl, rfl⟩ h'.isSmooth_alone h.isSmooth_alone hrun
      h'.fit.serves h'.unbroken ?_
    rw [show other.opening.client = trial.opening.client from hlike.client]
    exact h.unbroken
  | succ n ih =>
    have hstep := outline_step (h.isSteady n) (h.not_isEntryOf n)
    have hstep' := outline_step (h'.isSteady n) (h'.not_isEntryOf n)
    rw [ih] at hstep'
    have hsame := hstep'.symm.trans hstep
    rw [after_succ, after_succ]
    cases hnext : (trial.after n).step with
    | none =>
      rw [hnext, Option.map_none] at hsame
      rw [Option.map_eq_none_iff.mp hsame]
      exact ih
    | some t =>
      rw [hnext, Option.map_some] at hsame
      obtain ⟨t', hnext', heq⟩ := Option.map_eq_some_iff.mp hsame
      rw [hnext']
      exact heq

end IsCalm

/-! ### A run and the same once more -/

/-- the same run once more, on what it has left -/
def again (trial : Trial) (n : Nat) : Trial :=
  trial.next n trial.action

/-- a run that saves nothing leaves the store as it is -/
lemma store_after (h : trial.IsCalm) (n : Nat) : (trial.after n).store = trial.store := by
  obtain ⟨log, htracks⟩ := h.fit.tracks h.unbroken n
  obtain ⟨l, hl, -⟩ := (h.fit.hosts h.unbroken n).kept.sound
  by_cases hp : l.phase = .finished
  · obtain ⟨seconds, hfiled⟩ := htracks.filed l hl hp
    rw [hfiled, Plan.filed]
    split
    · rename_i name heffect
      exact absurd heffect (h.unsaved name)
    · rfl
  · exact htracks.opened l hl hp

lemma isLike_again (h : trial.IsCalm) (n : Nat) : trial.IsLike (trial.again n) :=
  ⟨store_after h n, rfl, rfl, rfl, rfl⟩

lemma IsCalm.again (h : trial.IsCalm) (n : Nat) : (trial.again n).IsCalm := by
  have houtline := trial.outline_network_after n
  refine ⟨⟨h.fit.reliable, ?_, ?_⟩, ?_, network_after Bench.preserves_isPrompt h.prompt n, h.unsaved⟩
  · show (trial.after n).store.Serves trial.action trial.hasStore
    rw [store_after h n]
    exact h.fit.serves
  · show (trial.after n).network.IsDistinct
    rw [← Bench.isDistinct_outline, houtline, Bench.isDistinct_outline]
    exact h.fit.distinct
  · show ((trial.after n).network.client trial.client).isBroken = false
    rw [← Bench.isBroken_outline, houtline, Bench.isBroken_outline]
    exact h.unbroken

/-- a run once more goes on as the first -/
theorem outline_again (h : trial.IsCalm) (n m : Nat) :
    ((trial.again n).after m).outline = (trial.after m).outline :=
  h.outline_after (h.again n) (isLike_again h n) (trial.outline_network_after n) m

lemma matched_again (h : trial.IsCalm) (n m : Nat) : (trial.again n).matched m = trial.matched m := by
  unfold matched
  rw [← effects_outline, outline_again h, effects_outline]

lemma faultsOf_again (h : trial.IsCalm) (n m : Nat) (serial : String) :
    ((trial.again n).after m).faultsOf 0 serial = (trial.after m).faultsOf 0 serial := by
  rw [← faultsOf_outline, outline_again h, faultsOf_outline]

lemma Concludes.again (hends : trial.Concludes n run summary) (h : trial.IsCalm) (m : Nat) :
    ∃ run', (trial.again m).Concludes n run' summary := by
  have hget := congrArg (fun s : Session Bench => s.runs[0]?) (outline_again h m n)
  simp only [get_outline, hends.here, Option.map_some] at hget
  obtain ⟨run', hrun', heq⟩ := Option.map_eq_some_iff.mp hget
  refine ⟨run', hrun', ?_⟩
  have houtcome := congrArg Run.outcome heq
  exact Eq.trans houtcome hends.outcome

/-- a bulb that the run has acted on is there -/
lemma Concludes.exists_light (hends : trial.Concludes n run summary) (h : trial.IsCalm)
    (hmatched : serial ∈ trial.matched n) :
    ∃ handle state, trial.scene.light? serial = some (handle, state) := by
  obtain ⟨errand, hmem, rfl⟩ := (hends.mem_matched h.fit).mp hmatched
  obtain ⟨e, he⟩ := List.getElem?_of_mem hmem
  obtain ⟨bulb, hbulb, -⟩ := h.fit.exists_of_announced ((h.fit.hosts h.unbroken n).kind he)
  exact ⟨bulb.handle, bulb.state, congrArg (Option.map fun b : BenchBulb => (b.handle, b.state)) hbulb⟩

/-- a bulb that the effect has had no fault on has come to its yield -/
lemma Concludes.light_done (hends : trial.Concludes n run summary) (h : trial.IsCalm)
    (hmatched : serial ∈ trial.matched n) (hwell : (trial.after n).faultsOf 0 serial = [])
    (hlight : trial.scene.light? serial = some (handle, state)) :
    (trial.left n).light? serial = some (handle, (trial.yield handle state).state) ∧
      ∀ call ∈ trial.sent n serial, call.request ∈ (trial.yield handle state).requests := by
  obtain ⟨bulb, hbulb, heq⟩ := Option.map_eq_some_iff.mp hlight
  obtain ⟨rfl, rfl⟩ := Prod.mk.inj heq
  obtain rfl := Bench.serial_of_find? hbulb
  obtain ⟨log, htracks⟩ := h.fit.tracks h.unbroken n
  obtain ⟨-, hyields⟩ := hends.yields h.fit htracks hbulb hmatched hwell
  exact ⟨light_of_yields hyields hlight, request_of_yields hyields⟩

/-- a bulb that the run has not acted on, or that its effect has given up, is as it was -/
lemma Concludes.light_untouched (hends : trial.Concludes n run summary) (h : trial.IsCalm)
    (hnot : serial ∉ trial.matched n ∨ (trial.after n).faultsOf 0 serial ≠ []) :
    (trial.left n).light? serial = trial.scene.light? serial ∧ trial.sent n serial = [] := by
  obtain ⟨log, htracks⟩ := h.fit.tracks h.unbroken n
  by_cases hmatched : serial ∈ trial.matched n
  · have hfault := hnot.resolve_left (not_not.mpr hmatched)
    obtain ⟨handle, state, hlight⟩ := hends.exists_light h hmatched
    obtain ⟨bulb, hbulb, -⟩ := Option.map_eq_some_iff.mp hlight
    obtain rfl := Bench.serial_of_find? hbulb
    obtain ⟨solo, outcome, comes, -, hcorner⟩ := hends.acted h.fit htracks hbulb hmatched
    have hprompt := h.prompt bulb (List.mem_of_find?_eq_some hbulb)
    obtain ⟨-, hwell | hgiven⟩ :=
      comes.prompt rfl (Effect.isPlain_play _ _ _ _) hbulb hprompt rfl
    · rw [← hcorner] at hwell
      exact absurd hwell hfault
    · exact light_of_same hcorner hgiven.light hgiven.commands
  · obtain ⟨-, hcorner⟩ := hends.spared h.fit htracks hmatched
    exact light_of_same hcorner rfl rfl

lemma yield_again (h : trial.IsCalm) (n : Nat) (handle : Handle) (state : BulbState) :
    (trial.again n).yield handle state = trial.yield handle state := by
  have hplan : (trial.again n).plan = trial.plan := by
    show Plan.opening trial.action trial.settings trial.client trial.audience trial.hasStore
      (trial.after n).store = trial.plan
    rw [store_after h]
    rfl
  unfold yield
  rw [hplan]
  rfl

/-- A command that switches, paints or restores is run on prompt bulbs, and once more on what it has
left.  The second run ends with the same summary and acts on the same bulbs, and every bulb stays in the
state that it was left in; if the command paints or restores, then no bulb is switched. -/
theorem unchanged_once_more (trial : Trial) (hfit : trial.IsFit) (hprompt : trial.bench.IsPrompt)
    (hverb : trial.action.verb ∈ [.on, .off, .color, .hsb, .restore])
    (hends : trial.Concludes n run summary) :
    (∃ run', (trial.again n).Concludes n run' summary) ∧
      (trial.again n).matched n = trial.matched n ∧
      (∀ serial, ((trial.again n).left n).light? serial = (trial.left n).light? serial) ∧
      (trial.action.verb ∈ [.color, .hsb, .restore] → ∀ serial, ∀ call ∈ (trial.again n).sent n serial,
        ∀ isOn duration, call.request ≠ .power isOn duration) := by
  have hcalm : trial.IsCalm := ⟨hfit, hends.unbroken hfit, hprompt, fun name heffect => by
    simp [Action.verb, heffect, Effect.verb] at hverb⟩
  obtain ⟨run', hends'⟩ := hends.again hcalm n
  have hagain := hcalm.again n
  have hbulb : ∀ serial,
      ((trial.again n).left n).light? serial = (trial.left n).light? serial ∧
      (trial.action.verb ∈ [.color, .hsb, .restore] → ∀ call ∈ (trial.again n).sent n serial,
        ∀ isOn duration, call.request ≠ .power isOn duration) := by
    intro serial
    by_cases hdone : serial ∈ trial.matched n ∧ (trial.after n).faultsOf 0 serial = []
    · obtain ⟨hmatched, hwell⟩ := hdone
      obtain ⟨handle, state, hlight⟩ := hends.exists_light hcalm hmatched
      obtain ⟨hleft, -⟩ := hends.light_done hcalm hmatched hwell hlight
      rw [← matched_again hcalm n n] at hmatched
      rw [← faultsOf_again hcalm n n] at hwell
      obtain ⟨hleft', hsent⟩ := hends'.light_done hagain hmatched hwell hleft
      rw [yield_again hcalm] at hleft' hsent
      obtain ⟨hstill, honce⟩ := Effect.yield_again hverb trial.settings trial.plan.saved handle
      refine ⟨?_, fun hcolor call hcall isOn duration heq => ?_⟩
      · rw [hleft', hleft]
        exact congrArg (fun state => some (handle, state)) (hstill state)
      · exact honce hcolor state isOn duration (heq ▸ hsent call hcall)
    · rw [not_and_or, ← matched_again hcalm n n, ← faultsOf_again hcalm n n] at hdone
      obtain ⟨hlight, hsent⟩ := hends'.light_untouched hagain hdone
      refine ⟨hlight, fun _ call hcall => ?_⟩
      rw [hsent] at hcall
      cases hcall
  exact ⟨⟨run', hends'⟩, matched_again hcalm n n, fun serial => (hbulb serial).1,
    fun hcolor serial => (hbulb serial).2 hcolor⟩

/-- the bulb in the hall is off, and answers at once -/
def darkHall : BenchBulb :=
  { slowHall with
    replies := []
    state := { slowHall.state with power := powerOff } }

/-- both bulbs are painted, of which one is off and the other is on -/
def painting : Trial where
  bench :=
    { bulbs := [darkHall, brightAttic], clients := [{ announced := some [("1", 0), ("2", 0)] }] }
  store := {}
  action :=
    { command := "hsb 1 2 0xC000 all"
      effect := .hsb ⟨.levels ⟨1, 2, 0xC000⟩, .hued ⟨1, 2, 0xC000⟩, 0, none⟩
      targets := .all }
  settings := { turnOffLevel := 0x6000 }
  client := 0
  audience := .nobody
  hasStore := false

set_option maxRecDepth 100000 in
/-- only the first run turns the bulb in the hall on -/
theorem unchanged_once_more_painting :
    ⟨darkHall.handle, .power true 0⟩ ∈ painting.sent 14 "1" ∧
    (painting.again 14).matched 14 = ["1", "2"] ∧
    ((painting.again 14).left 14).light? "1" = some (darkHall.handle, { darkHall.state with
      power := powerOn, hue := 1, saturation := 2, brightness := 0xC000, duration := 0 }) ∧
    ∀ serial, ∀ call ∈ (painting.again 14).sent 14 serial,
      ∀ isOn duration, call.request ≠ .power isOn duration := by
  obtain ⟨run, summary, hends⟩ : ∃ run summary, painting.Concludes 14 run summary :=
    exists_concludes (by decide +kernel)
  have hfit : painting.IsFit := ⟨rfl, trivial, by decide⟩
  have hprompt : painting.bench.IsPrompt := by
    intro bulb hmem
    simp only [painting, List.mem_cons, List.not_mem_nil, or_false] at hmem
    rcases hmem with rfl | rfl <;> exact ⟨fun _ => nofun, fun _ => nofun, fun _ => nofun⟩
  obtain ⟨-, hmatched, hlight, honce⟩ :=
    unchanged_once_more painting hfit hprompt (by decide) hends
  refine ⟨by decide +kernel, hmatched.trans (by decide +kernel), (hlight "1").trans (by decide +kernel),
    honce (by decide)⟩

end Trial

end Lamplighter
