import Lamplighter.Proofs.Run.Lockstep
import Lamplighter.Proofs.Run.Upshot

/-!
# Steady effects, prompt bulbs, and effects that are done once more

* `Effect.isSteady_play`  an effect that saves nothing asks for the state at most once, to begin with;
* `Comes.steady`          and is never left with anything but commands after that;
* `Goes.prompt`           no request fails on a prompt bulb;
* `Comes.prompt`          an effect that fails on it has given up before its first command;
* `Effect.yield_again`    an effect that brings a bulb to a state changes nothing a second time.
-/

set_option linter.unusedSectionVars false

namespace Lamplighter

/-! ### Plays -/

namespace Play

variable {play : Play} {handle : Handle} {state : BulbState}

lemma IsCommand.isQuick (h : play.IsCommand) : play.IsQuick := by
  induction play with
  | done reply => trivial
  | ask next => exact h.elim
  | keep state next => exact h.elim
  | report message data next ih => exact ih h
  | send request next ih => exact ⟨h.1, fun reply => ih reply (h.2 reply)⟩

end Play

/-- only a save keeps a state -/
theorem Effect.isSteady_play {effect : Effect} (h : ∀ name, effect ≠ .save name) (settings : Settings)
    (saved : Option Saved) (handle : Handle) : (effect.play settings saved handle).IsSteady := by
  have hswitch : ∀ (isOn : Bool) (next : Play), next.IsCommand →
      (Play.switch handle isOn next).IsCommand := fun isOn next hnext => ⟨by simp, fun _ => hnext⟩
  have hcolor : ∀ (hue saturation brightness kelvin duration : Int) (message : String),
      (Play.send (.color hue saturation brightness kelvin duration) fun _ =>
        .report message none .finish).IsCommand :=
    fun _ _ _ _ _ _ => ⟨by simp, fun _ => rfl⟩
  have hswitchOn : ∀ (state : BulbState) (next : Play), next.IsCommand →
      (Play.switchOn handle state next).IsCommand := by
    intro state next hnext
    unfold Play.switchOn
    split
    · exact hnext
    · exact hswitch true next hnext
  have hpaint : ∀ tint speed, (paintPlay settings handle tint speed).IsSteady := by
    intro tint speed state
    dsimp only
    split
    · split
      · exact hswitch false _ rfl
      · rfl
    · exact hswitchOn state _ (hcolor ..)
  cases effect with
  | on => exact hswitch true _ rfl
  | off => exact hswitch false _ rfl
  | save name => exact absurd rfl (h name)
  | restore name speed =>
    show (restorePlay saved speed handle).IsSteady
    unfold restorePlay
    split
    · rfl
    · intro current
      dsimp only
      split
      · exact hcolor ..
      · exact ⟨by simp, fun _ => hcolor ..⟩
  | color paint => exact hpaint _ _
  | hsb paint => exact hpaint _ _
  | darker dimming =>
    intro state
    dsimp only
    split
    · rfl
    · split
      · exact hswitch false _ rfl
      · exact hcolor ..
  | lighter dimming =>
    intro state
    dsimp only
    split
    · rfl
    · exact hswitchOn state _ (hcolor ..)
  | status =>
    intro state
    rfl

/-! ### Errands -/

namespace Solo

variable {first solo solo' : Solo} {states more : List BulbState} {bulb : BenchBulb} {play : Play}
  {next : BulbState → Play} {retries : Nat} {state : BulbState}

lemma isSteady_ask (hnext : ∀ state, (next state).IsCommand) (retries : Nat) :
    (solo.ask next retries).errand.stage.IsSteady := by
  unfold ask
  split <;> exact hnext

lemma isSteady_follow (hplay : play.IsSteady) : (solo.follow play).errand.stage.IsSteady := by
  have hover : play.IsCommand → (solo.follow play).errand.stage.IsSteady := by
    intro hcommand
    obtain ⟨reply, hstage⟩ := solo.stage_follow hcommand.isQuick
    rw [hstage]
    trivial
  cases play with
  | ask next => exact isSteady_ask hplay 0
  | _ => exact hover hplay

/-- commands stay commands -/
theorem Goes.steady (h : solo.Goes more solo') (hsteady : solo.errand.stage.IsSteady) :
    solo'.errand.stage.IsSteady := by
  have harrive : ∀ {solo : Solo} {next : BulbState → Play} {retries : Nat} (answer : Answer),
      (∀ state, (next state).IsCommand) → (solo.arrive next retries answer).errand.stage.IsSteady := by
    intro solo next retries answer hnext
    obtain ⟨result, herrand⟩ := solo.errand_arrive next retries answer
    rw [herrand]
    exact hnext
  cases h with
  | begin stage =>
    rw [stage] at hsteady
    exact isSteady_follow hsteady
  | attempt stage =>
    have hnext := hsteady
    rw [stage] at hnext
    rw [attempt_eq]
    split
    · exact harrive _ hnext
    · rw [errand_send]
      exact hsteady
  | arrive answer stage =>
    rw [stage] at hsteady
    exact harrive answer hsteady
  | expire stage =>
    rw [stage] at hsteady
    exact hsteady
  | take stage verdict =>
    rw [stage] at hsteady
    obtain ⟨reply, hover⟩ := solo.stage_follow (hsteady _).isQuick
    rw [hover]
    trivial
  | again stage =>
    rw [stage] at hsteady
    exact isSteady_ask hsteady _
  | give fault stage => trivial
  | stay => exact hsteady

theorem Comes.steady (h : first.Comes states solo) (hsteady : first.errand.stage.IsSteady) :
    solo.errand.stage.IsSteady := by
  induction h with
  | start => exact hsteady
  | step _ goes ih => exact goes.steady ih

/-! ### Prompt bulbs -/

/-- the bulb is there, and prompt -/
def IsPrompt (solo : Solo) : Prop :=
  ∃ bulb, solo.corner.bulb = some bulb ∧ bulb.IsPrompt

lemma IsPrompt.send (h : solo.IsPrompt) (request : Request) :
    (solo.send request).1.IsPrompt ∧ (solo.send request).2 = (.atOnce, .ok) := by
  obtain ⟨bulb, hbulb, hprompt⟩ := h
  obtain ⟨hanswer, hstill⟩ := hprompt.take request
  unfold Solo.send
  simp only [hbulb]
  exact ⟨⟨_, rfl, hstill⟩, hanswer⟩

lemma IsPrompt.settle (h : solo.IsPrompt) (request : Request) (answer : Answer) :
    (solo.settle request answer).1.IsPrompt := by
  obtain ⟨bulb, hbulb, hprompt⟩ := h
  unfold Solo.settle
  split
  · exact ⟨bulb, hbulb, hprompt⟩
  · exact ⟨bulb, hbulb, hprompt⟩
  · exact ⟨bulb, hbulb, hprompt⟩
  · rename_i bulb' hbulb'
    obtain rfl := Option.some.inj (hbulb.symm.trans hbulb')
    exact ⟨_, rfl, hprompt.replies, hprompt.powerFaults, hprompt.colorFaults⟩

/-- no request fails -/
lemma IsPrompt.request (h : solo.IsPrompt) (request : Request) :
    (solo.request request).1.IsPrompt ∧ ∃ reply, (solo.request request).2 = .ok reply := by
  obtain ⟨hsent, hanswer⟩ := h.send request
  refine ⟨hsent.settle _ _, ?_⟩
  obtain ⟨bulb, hbulb, -⟩ := hsent
  unfold Solo.request Solo.settle
  rw [hanswer, hbulb]
  exact ⟨_, rfl⟩

/-- no play fails -/
theorem IsPrompt.follow (h : solo.IsPrompt) (play : Play) :
    (solo.follow play).IsPrompt ∧ (solo.follow play).corner.faults = solo.corner.faults := by
  induction play generalizing solo with
  | done reply => exact ⟨h, rfl⟩
  | ask next =>
    show (solo.ask next 0).IsPrompt ∧ (solo.ask next 0).corner.faults = _
    unfold IsPrompt
    rw [corner_ask]
    exact ⟨h, rfl⟩
  | keep state next ih => exact ih h
  | report message data next ih => exact ih h
  | send request next ih =>
    obtain ⟨hstill, reply, hreply⟩ := h.request request
    obtain ⟨hend, hfaults⟩ := ih reply hstill
    rw [follow_send, hreply]
    exact ⟨hend, hfaults.trans (faults_request solo request)⟩

/-- an effect fails on a prompt bulb only where it gives up asking for the state -/
theorem Goes.prompt (h : solo.Goes more solo') (hprompt : solo.IsPrompt) : solo'.IsPrompt ∧
    (solo'.corner.faults = solo.corner.faults ∨ more = [] ∧
      ∃ fault next retries result, solo.errand.stage = .answered next retries result ∧
        solo' = solo.fail fault) := by
  have hask : ∀ (next : BulbState → Play) retries, (solo.ask next retries).IsPrompt ∧
      (solo.ask next retries).corner.faults = solo.corner.faults := by
    intro next retries
    unfold IsPrompt
    rw [corner_ask]
    exact ⟨hprompt, rfl⟩
  cases h with
  | begin stage => exact (hprompt.follow _).imp id .inl
  | @attempt next retries stage =>
    obtain ⟨hsent, hanswer⟩ := hprompt.send .read
    have hend : (solo.attempt next retries).1
        = (solo.send .read).1.arrive next retries (solo.send .read).2.2 := by
      rw [attempt_eq, hanswer]
    rw [hend]
    exact ⟨hsent.settle _ _, .inl ((faults_settle _ _ _).trans (faults_send _ _))⟩
  | arrive answer stage => exact ⟨hprompt.settle _ _, .inl (faults_settle _ _ _)⟩
  | expire stage => exact ⟨hprompt, .inl rfl⟩
  | take stage verdict => exact (hprompt.follow _).imp id .inl
  | again stage => exact (hask _ _).imp id .inl
  | give fault stage => exact ⟨hprompt, .inr ⟨rfl, fault, _, _, _, stage, rfl⟩⟩
  | stay => exact ⟨hprompt, .inl rfl⟩

/-- an effect has ended with a fault, and the bulb was sent no command -/
structure HasGivenUp (first solo : Solo) : Prop where
  ended : ∃ outcome, solo.errand.stage = .over outcome
  light : solo.corner.light? = first.corner.light?
  commands : solo.corner.commands = first.corner.commands

/-- nothing is left to do for an effect that is over -/
lemma Goes.eq_of_over (h : solo.Goes more solo') {outcome : Except Fault Reply}
    (hover : solo.errand.stage = .over outcome) : solo' = solo := by
  cases h with
  | stay => rfl
  | _ => simp_all

/-- on a prompt bulb an effect has no fault before it has given up -/
theorem Comes.prompt (h : first.Comes states solo) (hstage : first.errand.stage = .fresh play)
    (hplain : play.IsPlain) (hbulb : first.corner.bulb = some bulb) (hprompt : bulb.IsPrompt)
    (hwell : first.corner.faults = []) :
    solo.IsPrompt ∧ (solo.corner.faults = [] ∨ first.HasGivenUp solo) := by
  induction h with
  | start => exact ⟨⟨bulb, hbulb, hprompt⟩, .inl hwell⟩
  | @step states more solo solo' comes goes ih =>
    obtain ⟨hsolo, hstood⟩ := ih
    obtain ⟨hsolo', hmoved⟩ := goes.prompt hsolo
    refine ⟨hsolo', ?_⟩
    rcases hstood with hnone | hgiven
    · rcases hmoved with hsame | ⟨-, fault, next, retries, result, hanswered, rfl⟩
      · exact .inl (hsame.trans hnone)
      · rcases comes.stands hstage hplain hbulb with hfault | hstands
        · exact absurd hnone hfault
        · simp only [hanswered] at hstands
          obtain ⟨-, -, hyields, -⟩ := hstands
          obtain ⟨hlight, hcommands⟩ := hyields.of_still hbulb
          exact .inr ⟨⟨_, rfl⟩, hlight, hcommands⟩
    · obtain ⟨outcome, hover⟩ := hgiven.ended
      obtain rfl := goes.eq_of_over hover
      exact .inr hgiven

end Solo

/-! ### Effects that are done once more -/

namespace BulbState

variable {tint : Tint} {speed : Int}

/-- what a tint makes of a state -/
def painted (tint : Tint) (speed : Int) (state : BulbState) : BulbState :=
  let (hue, saturation, brightness, kelvin) := tint.channels state
  { state with
    power := if state.isOn then state.power else powerOn
    hue, saturation, brightness, kelvin
    duration := speed }

lemma isOn_painted (tint : Tint) (speed : Int) (state : BulbState) :
    (state.painted tint speed).isOn = true := by
  show (if state.isOn then state.power else powerOn) != powerOff
  split
  · assumption
  · rfl

/-- a tint keeps only what it sets itself -/
lemma channels_painted (tint : Tint) (speed : Int) (state : BulbState) :
    tint.channels (state.painted tint speed) = tint.channels state := by
  cases tint <;> rfl

lemma painted_painted (tint : Tint) (speed : Int) (state : BulbState) :
    (state.painted tint speed).painted tint speed = state.painted tint speed := by
  conv_lhs => rw [painted, channels_painted, if_pos (isOn_painted tint speed state)]
  rfl

end BulbState

namespace Play

variable {settings : Settings} {handle : Handle} {tint : Tint} {speed : Int} {state : BulbState}

/-- the play leaves a bulb alone that it has been done to before -/
def IsIdempotent (play : Play) : Prop :=
  ∀ state, (play.yield (play.yield state).state).state = (play.yield state).state

/-- the play does not switch a bulb that it has been done to before -/
def SwitchesOnce (play : Play) : Prop :=
  ∀ state isOn duration,
    Request.power isOn duration ∉ (play.yield (play.yield state).state).requests

/-- a bulb that would be too dim is off then -/
lemma yield_paintPlay_dim (h : (tint.channels state).2.2.1 < settings.turnOffLevel) :
    (paintPlay settings handle tint speed).yield state = if state.isOn
      then ⟨{ state with power := powerOff }, [.power false 0], []⟩ else .still state := by
  unfold paintPlay
  dsimp only [yield]
  rw [if_pos h]
  split <;> rfl

lemma yield_paintPlay_bright (handle : Handle) (speed : Int)
    (h : ¬ (tint.channels state).2.2.1 < settings.turnOffLevel) :
    ((paintPlay settings handle tint speed).yield state).state = state.painted tint speed ∧
      (state.isOn = true → ∀ isOn duration, Request.power isOn duration
        ∉ ((paintPlay settings handle tint speed).yield state).requests) := by
  unfold paintPlay BulbState.painted switchOn
  dsimp only [yield]
  rw [if_neg h]
  cases hon : state.isOn
  · exact ⟨rfl, nofun⟩
  · exact ⟨rfl, fun _ _ _ => by simp [yield, finish, Yield.still]⟩

/-- a painted bulb is on already, and one that is too dim is off -/
theorem paintPlay_again (settings : Settings) (handle : Handle) (tint : Tint) (speed : Int) :
    (paintPlay settings handle tint speed).IsIdempotent ∧
      (paintPlay settings handle tint speed).SwitchesOnce := by
  rw [IsIdempotent, SwitchesOnce, ← forall_and]
  intro state
  by_cases hdim : (tint.channels state).2.2.1 < settings.turnOffLevel
  · rw [yield_paintPlay_dim hdim]
    cases hon : state.isOn with
    | false =>
      rw [if_neg Bool.false_ne_true]
      show ((paintPlay settings handle tint speed).yield state).state = state ∧ ∀ isOn duration, _ ∉
        ((paintPlay settings handle tint speed).yield state).requests
      rw [yield_paintPlay_dim hdim, hon]
      exact ⟨rfl, fun _ _ => List.not_mem_nil⟩
    | true =>
      have hdim' : (tint.channels { state with power := powerOff }).2.2.1 < settings.turnOffLevel := by
        cases tint <;> exact hdim
      rw [if_pos rfl, yield_paintPlay_dim hdim']
      exact ⟨rfl, fun _ _ => List.not_mem_nil⟩
  · rw [(yield_paintPlay_bright handle speed hdim).1]
    have hbright : ¬ (tint.channels (state.painted tint speed)).2.2.1 < settings.turnOffLevel := by
      rwa [BulbState.channels_painted]
    obtain ⟨hstate, hcalm⟩ := yield_paintPlay_bright handle speed hbright
    exact ⟨hstate.trans (BulbState.painted_painted tint speed state),
      hcalm (BulbState.isOn_painted tint speed state)⟩

/-- a restored bulb is in the state that was saved already, up to its label -/
theorem restorePlay_again (saved : Option Saved) (speed : Option Int) (handle : Handle) :
    (restorePlay saved speed handle).IsIdempotent ∧
      (restorePlay saved speed handle).SwitchesOnce := by
  rw [IsIdempotent, SwitchesOnce, ← forall_and]
  intro state
  cases hfound : saved.bind fun s => Assoc.get? s (normalName handle.name) with
  | none =>
    rw [yield_restorePlay_none hfound]
    exact ⟨rfl, fun _ _ => List.not_mem_nil⟩
  | some kept =>
    rw [yield_restorePlay_some hfound, yield_restorePlay_some hfound]
    exact ⟨kept.restored_restored speed state,
      power_not_mem_restoring (kept.isOn_restored speed state)⟩

end Play

/-- an effect that brings a bulb to a state changes nothing a second time -/
theorem Effect.yield_again {effect : Effect}
    (h : effect.verb ∈ [.on, .off, .color, .hsb, .restore]) (settings : Settings)
    (saved : Option Saved) (handle : Handle) :
    (effect.play settings saved handle).IsIdempotent ∧
      (effect.verb ∈ [.color, .hsb, .restore] → (effect.play settings saved handle).SwitchesOnce) := by
  cases effect with
  | on => exact ⟨fun _ => rfl, by simp [verb]⟩
  | off => exact ⟨fun _ => rfl, by simp [verb]⟩
  | color paint => exact (Play.paintPlay_again ..).imp id fun h _ => h
  | hsb paint => exact (Play.paintPlay_again ..).imp id fun h _ => h
  | restore name speed => exact (Play.restorePlay_again ..).imp id fun h _ => h
  | _ => simp [verb] at h

end Lamplighter
