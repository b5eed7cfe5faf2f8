import Lamplighter.Proofs.Command.Levels
import Lamplighter.Proofs.Command.Scan
import Lamplighter.Proofs.Run.Scene

/-!
# Scale: the levels that bulbs are sent

A hue and a saturation are on the 16-bit scale, and a brightness is in some range.

* `Play.IsWithin`      whatever a play sends is within the range, if every state that it learns is;
* `isWithin_darkerPlay`, ...   so it is with the effects that set levels;
* `Comes.within`       the commands of an errand are within the range, and its bulb stays there,
                       whatever goes wrong on its way;
* `Trial.sends_within` and so it is with the bulbs of a run, after every number of its steps;
* `sends_on_scale`     so a command that was compiled keeps to the scale, but for the side to which a
                       step of the wrong sign goes;
* `darker_beyond_scale`   where it leaves the scale.
-/

namespace Lamplighter

/-- the level is on the 16-bit scale -/
def IsLevel (n : Int) : Prop :=
  0 ≤ n ∧ n ≤ maxLevel

variable {range : Int → Prop}

namespace BulbState

def IsWithin (range : Int → Prop) (state : BulbState) : Prop :=
  IsLevel state.hue ∧ IsLevel state.saturation ∧ range state.brightness

end BulbState

namespace Request

def IsWithin (range : Int → Prop) : Request → Prop
  | .color hue saturation brightness _ _ => IsLevel hue ∧ IsLevel saturation ∧ range brightness
  | _ => True

end Request

/-- a request for the state sets no level -/
lemma Request.isWithin_read : Request.read.IsWithin range :=
  trivial

lemma BulbState.IsWithin.obey {state : BulbState} (h : state.IsWithin range) {request : Request}
    (hrequest : request.IsWithin range) : (BenchBulb.obey state request).IsWithin range := by
  cases request with
  | color hue saturation brightness kelvin duration => exact hrequest
  | _ => exact h

/-! ### Plays -/

namespace Play

/-- whatever is sent is within the range, if every state that is learnt on the way is -/
def IsWithin (range : Int → Prop) : Play → Prop
  | .done _ => True
  | .ask next => ∀ state, state.IsWithin range → (next state).IsWithin range
  | .send request next => request.IsWithin range ∧ ∀ reply, (next reply).IsWithin range
  | .report _ _ next => next.IsWithin range
  | .keep _ next => next.IsWithin range

lemma isWithin_switch (handle : Handle) (isOn : Bool) {next : Play} (h : next.IsWithin range) :
    (switch handle isOn next).IsWithin range :=
  ⟨trivial, fun _ => h⟩

lemma isWithin_switchOn (handle : Handle) (state : BulbState) {next : Play}
    (h : next.IsWithin range) : (switchOn handle state next).IsWithin range := by
  unfold switchOn
  split
  · exact h
  · exact isWithin_switch handle true h

lemma isWithin_color {hue saturation brightness : Int} (hhue : IsLevel hue)
    (hsaturation : IsLevel saturation) (hbrightness : range brightness) (kelvin duration : Int)
    (message : String) : (Play.send (.color hue saturation brightness kelvin duration) fun _ =>
      .report message none .finish).IsWithin range :=
  ⟨⟨hhue, hsaturation, hbrightness⟩, fun _ => trivial⟩

end Play

lemma isWithin_darkerPlay (settings : Settings) (handle : Handle) {dimming : Dimming}
    (h : ∀ brightness, range brightness → range (max 0 (brightness - dimming.step))) :
    (darkerPlay settings handle dimming).IsWithin range := by
  intro state hstate
  dsimp only
  split
  · trivial
  · split
    · exact Play.isWithin_switch handle false trivial
    · exact Play.isWithin_color hstate.1 hstate.2.1 (h _ hstate.2.2) _ _ _

lemma isWithin_lighterPlay (handle : Handle) {dimming : Dimming}
    (h : ∀ brightness, range brightness → range (min maxLevel (brightness + dimming.step))) :
    (lighterPlay handle dimming).IsWithin range := by
  intro state hstate
  dsimp only
  split
  · trivial
  · exact Play.isWithin_switchOn handle state
      (Play.isWithin_color hstate.1 hstate.2.1 (h _ hstate.2.2) _ _ _)

lemma isWithin_paintPlay (settings : Settings) (handle : Handle) {levels : Levels} (speed : Int)
    (hhue : IsLevel levels.first) (hsaturation : IsLevel levels.second) (hbrightness : range levels.third) :
    (paintPlay settings handle (.hued levels) speed).IsWithin range := by
  intro state _
  dsimp only [Tint.channels]
  split
  · split
    · exact Play.isWithin_switch handle false trivial
    · trivial
  · exact Play.isWithin_switchOn handle state (Play.isWithin_color hhue hsaturation hbrightness _ _ _)

/-! ### Errands -/

/-- what is left to do is within the range -/
def Stage.IsWithin (range : Int → Prop) : Stage → Prop
  | .fresh play => play.IsWithin range
  | .asking next _ => (Play.ask next).IsWithin range
  | .answered next _ result => (Play.ask next).IsWithin range ∧
    ∀ answering found, result = some (.ok (.state answering found)) → found.IsWithin range
  | .sending next => ∀ reply, (next reply).IsWithin range
  | .over _ => True

/-- the bulb has come into the range, and so has everything that it was sent -/
structure Corner.IsWithin (range : Int → Prop) (before after : Corner) : Prop where
  bulb : ∀ bulb, after.bulb = some bulb → bulb.state.IsWithin range
  calls : ∃ more, after.calls = before.calls.map (· ++ more) ∧
    ∀ call ∈ more, call.request.IsWithin range

namespace Solo

variable {before : Corner} {first solo solo' : Solo} {states more : List BulbState} {play : Play}
  {next : BulbState → Play} {retries : Nat}

lemma within_refl {corner : Corner}
    (h : ∀ bulb, corner.bulb = some bulb → bulb.state.IsWithin range) : corner.IsWithin range corner :=
  ⟨h, [], by simp, by simp⟩

lemma within_send (h : before.IsWithin range solo.corner) {request : Request}
    (hrequest : request.IsWithin range) :
    before.IsWithin range (solo.send request).1.corner := by
  obtain ⟨calls, hcalls, hall⟩ := h.calls
  have hmore : ∃ more, (solo.corner.calls.map fun calls => calls ++ [⟨solo.errand.handle, request⟩])
      = before.calls.map (· ++ more) ∧ ∀ call ∈ more, call.request.IsWithin range := by
    refine ⟨calls ++ [⟨solo.errand.handle, request⟩], ?_, ?_⟩
    · rw [hcalls]
      simp [Function.comp_def]
    · rw [List.forall_mem_append, List.forall_mem_singleton]
      exact ⟨hall, hrequest⟩
  unfold send
  dsimp only
  split
  · exact ⟨fun bulb hbulb => h.bulb bulb hbulb, hmore⟩
  · rename_i bulb hbulb
    refine ⟨fun taken htaken => ?_, hmore⟩
    obtain rfl := Option.some.inj htaken
    have hstate : (bulb.take request).1.state = bulb.state := by cases request <;> rfl
    rw [hstate]
    exact h.bulb bulb hbulb

/-- what is settled keeps to the range, and so does a state that comes of it -/
lemma within_settle (h : before.IsWithin range solo.corner) {request : Request}
    (hrequest : request.IsWithin range) (answer : Answer) :
    before.IsWithin range (solo.settle request answer).1.corner ∧
      ∀ answering found, (solo.settle request answer).2 = .ok (.state answering found) →
        found.IsWithin range := by
  have hreply : ∀ (handle : Handle) (bulb : BenchBulb), solo.corner.bulb = some bulb →
      ∀ answering found, Bench.replyOf handle bulb.state request = .state answering found →
        found.IsWithin range := by
    intro handle bulb hbulb answering found hfound
    cases request with
    | read => exact (Reply.state.inj hfound).2 ▸ h.bulb bulb hbulb
    | _ => cases hfound
  unfold settle
  split
  · exact ⟨h, fun _ _ hfault => by cases hfault⟩
  · exact ⟨h, fun _ _ hfault => by cases hfault⟩
  · rename_i bulb hbulb
    exact ⟨h, fun answering found hfound => hreply _ bulb hbulb answering found (Except.ok.inj hfound)⟩
  · rename_i bulb hbulb
    refine ⟨⟨fun changed hchanged => ?_, h.calls⟩,
      fun answering found hfound => hreply _ bulb hbulb answering found (Except.ok.inj hfound)⟩
    obtain rfl := Option.some.inj hchanged
    exact (h.bulb bulb hbulb).obey hrequest

lemma within_ask (h : before.IsWithin range solo.corner) (hnext : (Play.ask next).IsWithin range)
    (retries : Nat) : before.IsWithin range (solo.ask next retries).corner ∧
      (solo.ask next retries).errand.stage.IsWithin range := by
  refine ⟨(corner_ask solo next retries).symm ▸ h, ?_⟩
  unfold ask
  split
  · exact ⟨hnext, fun _ _ hnone => by cases hnone⟩
  · exact hnext

/-- an errand keeps to the range while it goes through a play: by induction on what is left of it -/
theorem within_follow (h : before.IsWithin range solo.corner) (hplay : play.IsWithin range) :
    before.IsWithin range (solo.follow play).corner ∧
      (solo.follow play).errand.stage.IsWithin range := by
  induction play generalizing solo with
  | done reply => exact ⟨h, trivial⟩
  | ask next => exact within_ask h hplay 0
  | keep state next ih => exact ih h hplay
  | report message data next ih => exact ih h hplay
  | send request next ih =>
    have hsettled := (within_settle (within_send h hplay.1) hplay.1 (solo.send request).2.2).1
    rw [follow_send]
    split
    · exact ih _ hsettled (hplay.2 _)
    · exact ⟨⟨hsettled.bulb, hsettled.calls⟩, trivial⟩

lemma within_arrive (h : before.IsWithin range solo.corner) (hnext : (Play.ask next).IsWithin range)
    (retries : Nat) (answer : Answer) :
    before.IsWithin range (solo.arrive next retries answer).corner ∧
      (solo.arrive next retries answer).errand.stage.IsWithin range := by
  obtain ⟨hcorner, hfound⟩ := within_settle h Request.isWithin_read answer
  exact ⟨hcorner, hnext, fun answering found hresult => hfound answering found (Option.some.inj hresult)⟩

/-- an errand keeps to the range with each of its steps -/
theorem Goes.within (hgoes : solo.Goes more solo') (h : before.IsWithin range solo.corner)
    (hstage : solo.errand.stage.IsWithin range) :
    before.IsWithin range solo'.corner ∧ solo'.errand.stage.IsWithin range := by
  cases hgoes with
  | begin stage =>
    rw [stage] at hstage
    exact within_follow h hstage
  | @attempt next retries stage =>
    have hsent := within_send h Request.isWithin_read
    rw [stage] at hstage
    rw [attempt_eq]
    split
    · exact within_arrive hsent hstage retries _
    · refine ⟨hsent, ?_⟩
      rw [errand_send, stage]
      exact hstage
  | arrive answer stage =>
    rw [stage] at hstage
    exact within_arrive h hstage _ answer
  | expire stage =>
    rw [stage] at hstage
    exact ⟨h, hstage, fun _ _ hnone => by cases hnone⟩
  | take stage verdict =>
    rw [stage] at hstage
    obtain ⟨answering, rfl, -⟩ := Query.judge_eq_take verdict
    exact within_follow h (hstage.1 _ (hstage.2 answering _ rfl))
  | again stage =>
    rw [stage] at hstage
    exact within_ask h hstage.1 _
  | give fault stage => exact ⟨⟨h.bulb, h.calls⟩, trivial⟩
  | stay => exact ⟨h, hstage⟩

/-- by induction on the steps of the errand -/
theorem Comes.within (h : first.Comes states solo) (hstage : first.errand.stage.IsWithin range)
    (hbulb : ∀ bulb, first.corner.bulb = some bulb → bulb.state.IsWithin range) :
    first.corner.IsWithin range solo.corner ∧ solo.errand.stage.IsWithin range := by
  induction h with
  | start => exact ⟨within_refl hbulb, hstage⟩
  | step _ goes ih => exact goes.within ih.1 ih.2

end Solo

/-! ### Runs -/

namespace Trial

variable {trial : Trial} {serial : String} {handle : Handle} {state : BulbState}

/-- whatever the run sends to a bulb that is within the range keeps to it -/
theorem sends_within (hfit : trial.IsFit) (hopen : (trial.bench.client trial.client).isBroken = false)
    (hlight : trial.scene.light? serial = some (handle, state)) (hstate : state.IsWithin range)
    (hplay : (trial.action.effect.play trial.settings trial.plan.saved handle).IsWithin range) (n : Nat) :
    ∀ call ∈ trial.sent n serial, call.request.IsWithin range := by
  obtain ⟨bulb, hbulb, heq⟩ := Option.map_eq_some_iff.mp hlight
  obtain ⟨rfl, rfl⟩ := Prod.mk.inj heq
  obtain rfl := Bench.serial_of_find? hbulb
  have hfirst : ∀ other, (trial.bench.corner trial.client bulb.handle.serial).bulb = some other →
      other.state.IsWithin range := by
    intro other hother
    obtain rfl := Option.some.inj (hbulb.symm.trans hother)
    exact hstate
  obtain ⟨log, htracks⟩ := hfit.tracks hopen n
  have hwithin : (trial.bench.corner trial.client bulb.handle.serial).IsWithin range
      ((trial.after n).corner trial.client 0 bulb.handle.serial) := by
    cases htracks.fares bulb.handle (hfit.eq_handle hbulb) with
    | untouched same none nothing =>
      rw [show (trial.after n).corner trial.client 0 bulb.handle.serial = _ from same]
      exact Solo.within_refl hfirst
    | begun has comes =>
      rw [show (trial.after n).corner trial.client 0 bulb.handle.serial = _ from
        has.corner_of_comes comes]
      exact (comes.within hplay hfirst).1
  obtain ⟨more, hcalls, hmore⟩ := hwithin.calls
  intro call hcall
  rw [sent_eq, Corner.commands, Corner.commands, hcalls] at hcall
  cases hnoted : (trial.bench.corner trial.client bulb.handle.serial).calls with
  | none =>
    rw [hnoted] at hcall
    cases hcall
  | some calls =>
    simp only [hnoted, Option.map_some, Option.getD_some, List.filter_append, List.drop_left] at hcall
    exact hmore call (List.mem_of_mem_filter hcall)

end Trial

/-! ### Compiled commands -/

lemma isLevel_of_readLevel {token : String} {n : Int} (h : readLevel token = .ok n) : IsLevel n := by
  rcases readLevel_cases token with ⟨level, hlevel, hscale⟩ | hrejected
  · rw [h] at hlevel
    obtain rfl := Except.ok.inj hlevel
    exact hscale
  · rw [h] at hrejected
    cases hrejected

/-- the levels of a clause are on the scale -/
lemma isLevel_of_readColorWords {words : List String} {levels : Levels}
    (h : readColorWords words = .ok (.levels levels)) :
    IsLevel levels.first ∧ IsLevel levels.second ∧ IsLevel levels.third := by
  rcases words with _ | ⟨a, _ | ⟨b, _ | ⟨c, rest⟩⟩⟩
  · cases h
  · cases h
  · cases h
  · simp only [readColorWords, bind, Except.bind, pure, Except.pure] at h
    split at h
    · cases hfirst : readLevel a with
      | error fault => simp [hfirst] at h
      | ok first =>
        cases hsecond : readLevel b with
        | error fault => simp [hfirst, hsecond] at h
        | ok second =>
          cases hthird : readLevel c with
          | error fault => simp [hfirst, hsecond, hthird] at h
          | ok third =>
            simp only [hfirst, hsecond, hthird] at h
            obtain rfl := ColorChoice.levels.inj (Except.ok.inj h)
            exact ⟨isLevel_of_readLevel hfirst, isLevel_of_readLevel hsecond,
              isLevel_of_readLevel hthird⟩
    · cases h

lemma isLevel_of_readColor {tokens : List String} {levels : Levels}
    (h : readColor tokens = .ok (.levels levels)) :
    IsLevel levels.first ∧ IsLevel levels.second ∧ IsLevel levels.third := by
  unfold readColor at h
  split at h
  · cases h
  · split at h
    · cases h
    · exact isLevel_of_readColorWords h

/-- what an `hsb` command with three levels sets -/
lemma tint_of_readPaint {tokens : List String} {settings : Settings} {paint : Paint} {levels : Levels}
    (h : readPaint tokens settings false = .ok paint) (hchoice : paint.choice = .levels levels) :
    paint.tint = .hued levels ∧
      IsLevel levels.first ∧ IsLevel levels.second ∧ IsLevel levels.third := by
  unfold readPaint at h
  simp only [bind, Except.bind, pure, Except.pure] at h
  cases hcolor : readColor tokens with
  | error fault => simp [hcolor] at h
  | ok choice =>
    cases choice with
    | name name =>
      cases hname : resolveName name with
      | error fault => simp [hcolor, hname] at h
      | ok rgb =>
        simp only [hcolor, hname] at h
        obtain rfl := Except.ok.inj h
        cases hchoice
    | levels read =>
      simp only [hcolor, Bool.false_eq_true, if_false] at h
      obtain rfl := Except.ok.inj h
      obtain rfl := ColorChoice.levels.inj hchoice
      exact ⟨rfl, isLevel_of_readColor hcolor⟩

/-- a step is not below zero unless the configured one is -/
lemma step_readDimming_nonneg (tokens : List String) {settings : Settings} (h : 0 ≤ settings.stepSize) :
    0 ≤ (readDimming tokens settings).step := by
  unfold readDimming stepOf
  dsimp only
  split
  · omega
  · split <;> omega

/-- the brightnesses that a verb can set with a configured step -/
def inReach (verb : Verb) (stepSize : Int) (brightness : Int) : Prop :=
  (0 ≤ brightness ∨ verb = .lighter ∧ stepSize < 0) ∧
    (brightness ≤ maxLevel ∨ verb = .darker ∧ stepSize < 0)

lemma inReach_of_isLevel {brightness : Int} (h : IsLevel brightness) (verb : Verb) (stepSize : Int) :
    inReach verb stepSize brightness :=
  ⟨.inl h.1, .inl h.2⟩

/-- an action that dims, brightens, or sets three levels -/
def Action.SetsLevels (action : Action) : Prop :=
  action.verb = .darker ∨ action.verb = .lighter ∨
    ∃ paint levels, action.effect = .hsb paint ∧ paint.choice = .levels levels

/-- the effect of a compiled command keeps a brightness in reach -/
theorem isWithin_play {tokens : List String} {settings : Settings} {action : Action}
    (hcompile : compile tokens settings = .ok action) (hsets : action.SetsLevels) (own : Settings)
    (saved : Option Saved) (handle : Handle) :
    (action.effect.play own saved handle).IsWithin (inReach action.verb settings.stepSize) := by
  obtain ⟨cursor, verb, effect, -, hread, rfl⟩ := compile_eq_ok_iff.mp hcompile
  have hverb := verb_of_read hread
  rcases hsets with hdarker | hlighter | ⟨paint, levels, hhsb, hchoice⟩
  · obtain rfl : verb = .darker := hverb.symm.trans hdarker
    obtain rfl := Except.ok.inj hread
    refine isWithin_darkerPlay own handle fun brightness ⟨_, hhigh⟩ => ⟨.inl (by omega), ?_⟩
    rcases lt_or_ge settings.stepSize 0 with hneg | hpos
    · exact .inr ⟨hdarker, hneg⟩
    · have hle := hhigh.resolve_right fun hneg => absurd hneg.2 (by omega)
      have hstep := step_readDimming_nonneg (spoken tokens) hpos
      exact .inl (max_le (by decide) (by omega))
  · obtain rfl : verb = .lighter := hverb.symm.trans hlighter
    obtain rfl := Except.ok.inj hread
    refine isWithin_lighterPlay handle fun brightness ⟨hlow, _⟩ => ⟨?_, .inl (by omega)⟩
    rcases lt_or_ge settings.stepSize 0 with hneg | hpos
    · exact .inr ⟨hlighter, hneg⟩
    · have hle := hlow.resolve_right fun hneg => absurd hneg.2 (by omega)
      have hstep := step_readDimming_nonneg (spoken tokens) hpos
      exact .inl (le_min (by decide) (by omega))
  · dsimp only at hhsb
    subst hhsb
    obtain rfl : verb = .hsb := hverb.symm
    have hpaint : readPaint (spoken tokens) settings false = .ok paint := by
      cases hpaint : readPaint (spoken tokens) settings false with
      | error fault =>
        rw [Effect.read, hpaint] at hread
        cases hread
      | ok other =>
        rw [Effect.read, hpaint] at hread
        rw [Effect.hsb.inj (Except.ok.inj hread)]
    obtain ⟨htint, hhue, hsaturation, hbrightness⟩ := tint_of_readPaint hpaint hchoice
    show (paintPlay own handle paint.tint paint.speed).IsWithin _
    rw [htint]
    exact isWithin_paintPlay own handle _ hhue hsaturation (inReach_of_isLevel hbrightness _ _)

/-! ### The run of a compiled command -/

/-- A compiled command that dims, brightens or sets three levels sends a bulb whose levels are on the
scale nothing else, whatever goes wrong on the way; only a step below zero takes the brightness beyond
the side that its verb goes away from. -/
theorem sends_on_scale {tokens : List String} {settings : Settings} {action : Action} {trial : Trial}
    {serial : String} {handle : Handle} {state : BulbState}
    (hcompile : compile tokens settings = .ok action) (hsets : action.SetsLevels)
    (haction : trial.action = action) (hfit : trial.IsFit)
    (hopen : (trial.bench.client trial.client).isBroken = false)
    (hlight : trial.scene.light? serial = some (handle, state)) (hstate : state.IsWithin IsLevel) (n : Nat) :
    ∀ call ∈ trial.sent n serial, ∀ hue saturation brightness kelvin duration,
      call.request = .color hue saturation brightness kelvin duration →
        IsLevel hue ∧ IsLevel saturation ∧
        (0 ≤ brightness ∨ action.verb = .lighter ∧ settings.stepSize < 0) ∧
        (brightness ≤ maxLevel ∨ action.verb = .darker ∧ settings.stepSize < 0) := by
  subst haction
  intro call hcall hue saturation brightness kelvin duration hrequest
  have hreach : state.IsWithin (inReach trial.action.verb settings.stepSize) :=
    ⟨hstate.1, hstate.2.1, inReach_of_isLevel hstate.2.2 _ _⟩
  have hwithin := Trial.sends_within hfit hopen hlight hreach
    (isWithin_play hcompile hsets trial.settings trial.plan.saved handle) n call hcall
  rw [hrequest] at hwithin
  exact hwithin

namespace Scale

/-- a bulb that is almost as bright as it can be -/
def brightHall : BenchBulb where
  handle := { serial := "1", label := "Hall", host := "" }
  state := { label := "Hall", power := powerOn, hue := 0, saturation := 0, brightness := 65000,
             kelvin := 3500 }

/-- what `darker Hall` compiles to with a step -/
def darkerHall (stepSize : Int) : Action where
  command := "darker Hall"
  effect := .darker ⟨none, 0x20 * stepSize, 3000⟩
  targets := .named [("hall", "Hall")]

def darkening (settings : Settings) : Trial where
  bench := { bulbs := [brightHall], clients := [{}] }
  store := {}
  action := darkerHall settings.stepSize
  settings
  client := 0
  audience := .nobody
  hasStore := false

lemma isWithin_brightHall : brightHall.state.IsWithin IsLevel := by
  unfold BulbState.IsWithin IsLevel
  decide

lemma isFit_darkening (settings : Settings) : (darkening settings).IsFit :=
  ⟨rfl, trivial, List.nodup_singleton _⟩

/-- with the step that is the default the bulb is dimmed -/
theorem sends_on_scale_brightHall :
    (darkening {}).sent 7 "1" = [⟨brightHall.handle, .color 0 0 56840 3500 3000⟩] ∧
      IsLevel 0 ∧ 56840 ≤ maxLevel := by
  have hsent : (darkening {}).sent 7 "1" = [⟨brightHall.handle, .color 0 0 56840 3500 3000⟩] := by
    decide +kernel
  have hcompile : compile ["darker", "Hall"] {} = .ok (darkerHall 255) := by
    decide +kernel
  obtain ⟨hhue, -, -, hhigh⟩ := sends_on_scale hcompile (.inl rfl) rfl (isFit_darkening {}) rfl
    (show (darkening {}).scene.light? "1" = some (brightHall.handle, brightHall.state) from rfl)
    isWithin_brightHall 7 ⟨brightHall.handle, .color 0 0 56840 3500 3000⟩
    (hsent ▸ List.mem_singleton.mpr rfl) 0 0 56840 3500 3000 rfl
  exact ⟨hsent, hhue, hhigh.resolve_right fun hneg => absurd hneg.2 (by decide)⟩

/-- a step below zero, which an environment may have, takes the brightness beyond the scale -/
theorem darker_beyond_scale : ∃ settings,
    Settings.ofEnvironment [("LIFX_ILLUMINATION_STEP_SIZE", "-255")] {} = .ok settings ∧
      compile ["darker", "Hall"] settings = .ok (darkerHall (-255)) ∧
      brightHall.state.IsWithin IsLevel ∧
      (darkening settings).sent 7 "1" = [⟨brightHall.handle, .color 0 0 73160 3500 3000⟩] ∧
      ¬ IsLevel 73160 := by
  refine ⟨_, rfl, by decide +kernel, isWithin_brightHall, by decide +kernel, fun h => ?_⟩
  exact absurd h.2 (by decide)

end Scale

end Lamplighter
