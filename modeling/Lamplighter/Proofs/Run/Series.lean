import Lamplighter.Proofs.Run.Scene

/-!
# Series: runs one after the other on one bulb

* `Trial.Fulfils`        a run has ended, and acted on a bulb without a fault there;
* `Series`               runs that do so one after the other;
* `levelAfter`           the brightness after so many steps down;
* `BulbState.IsDimmed`   a state stands there, or where the threshold was crossed on the way;
* `Play.isDimmed_darker`, `Play.isBrightened_lighter`   one step down, and one step up;
* `Series.dims_and_brightens`   so a bulb comes down step by step until it is turned off, which it then
                         stays, and comes up step by step to its full brightness.
-/

namespace Lamplighter

/-! ### One run -/

namespace Trial

variable {trial : Trial} {n : Nat} {serial : String} {handle : Handle} {state : BulbState}

/-- the run of a client of the bench has ended, and acted on the bulb of a serial without a fault
there -/
structure Fulfils (trial : Trial) (n : Nat) (serial : String) : Prop where
  fit : trial.IsFit
  known : trial.client < trial.bench.clients.length
  ends : ∃ run summary, trial.Concludes n run summary
  matched : serial ∈ trial.matched n
  well : (trial.after n).faultsOf 0 serial = []

/-- the bulb has come to the yield of the effect -/
theorem Fulfils.light_left (h : trial.Fulfils n serial)
    (hlight : trial.scene.light? serial = some (handle, state)) :
    (trial.left n).light? serial = some (handle, (trial.yield handle state).state) ∧
      trial.sent n serial = (trial.yield handle state).requests.map (Call.mk handle) := by
  obtain ⟨run, summary, hends⟩ := h.ends
  obtain ⟨log, htracks⟩ := h.fit.tracks (hends.unbroken h.fit) n
  obtain ⟨bulb, hbulb, heq⟩ := Option.map_eq_some_iff.mp hlight
  obtain ⟨rfl, rfl⟩ := Prod.mk.inj heq
  obtain rfl := Bench.serial_of_find? hbulb
  obtain ⟨-, hyields⟩ := hends.yields h.fit htracks hbulb h.matched h.well
  refine ⟨light_of_yields hyields hlight, (sent_of_yields hyields).trans ?_⟩
  rw [Bench.callsFor, List.getElem?_eq_getElem h.known]
  rfl

end Trial

/-! ### Runs one after the other -/

/-- runs that act on the bulb of a serial without a fault, each where the one before has left it -/
structure Series (trial : Nat → Trial) (length : Nat → Nat) (count : Nat) (serial : String) :
    Prop where
  fulfils : ∀ i < count, (trial i).Fulfils (length i) serial
  follows : ∀ i, i + 1 < count →
    (trial (i + 1)).scene.light? serial = ((trial i).left (length i)).light? serial

/-- What each run keeps up holds of the bulb before every run: by induction on the runs. -/
theorem Series.keeps {trial : Nat → Trial} {length : Nat → Nat} {count : Nat} {serial : String}
    (h : Series trial length count serial) {handle : Handle} {state : BulbState}
    (hlight : (trial 0).scene.light? serial = some (handle, state)) {holds : Nat → BulbState → Prop}
    (hfirst : holds 0 state) (hstep : ∀ i < count, ∀ current, holds i current →
      holds (i + 1) ((trial i).yield handle current).state) :
    ∀ i < count, ∃ before, holds i before ∧
      ((trial i).left (length i)).light? serial = some (handle, ((trial i).yield handle before).state) ∧
      (trial i).sent (length i) serial
        = ((trial i).yield handle before).requests.map (Call.mk handle) := by
  intro i
  induction i with
  | zero => exact fun hi => ⟨state, hfirst, (h.fulfils 0 hi).light_left hlight⟩
  | succ i ih =>
    intro hi
    obtain ⟨before, hbefore, hleft, -⟩ := ih (by omega)
    have hnext := (h.follows i hi).trans hleft
    exact ⟨_, hstep i (by omega) before hbefore, (h.fulfils (i + 1) hi).light_left hnext⟩

/-! ### Steps down -/

/-- the brightness after so many steps down, none of them below zero -/
def levelAfter (brightness step : Int) (count : Nat) : Int :=
  max 0 (brightness - count * step)

section
variable {step : Int}

lemma levelAfter_zero {brightness : Int} (h : 0 < brightness) :
    levelAfter brightness step 0 = brightness := by
  simp [levelAfter, h.le]

/-- one more step down -/
lemma levelAfter_succ (brightness : Int) (hstep : 0 ≤ step) (count : Nat) :
    levelAfter brightness step (count + 1) = max 0 (levelAfter brightness step count - step) := by
  unfold levelAfter
  rw [Nat.cast_succ, add_one_mul]
  omega

lemma levelAfter_succ_le (brightness : Int) (hstep : 0 ≤ step) (count : Nat) :
    levelAfter brightness step (count + 1) ≤ levelAfter brightness step count := by
  rw [levelAfter_succ brightness hstep]
  unfold levelAfter
  omega

end

namespace BulbState

/-- A state stands so many steps below another one: it is on at that level if the level is above the
threshold; else it is off, at the last level above the threshold or at the one that it started from. -/
structure IsDimmed (before after : BulbState) (step threshold : Int) (count : Nat) : Prop where
  hue : after.hue = before.hue
  saturation : after.saturation = before.saturation
  kelvin : after.kelvin = before.kelvin
  isOn_iff : after.isOn = true ↔
    count = 0 ∨ threshold < levelAfter before.brightness step count
  lit : after.isOn = true → after.brightness = levelAfter before.brightness step count
  dark : after.isOn = false → ∃ last < count,
    after.brightness = levelAfter before.brightness step last ∧
      (last = 0 ∨ threshold < levelAfter before.brightness step last) ∧
      ∀ later, last < later → later ≤ count → levelAfter before.brightness step later ≤ threshold

lemma IsDimmed.refl {state : BulbState} (step threshold : Int) (hon : state.isOn = true)
    (hbright : 0 < state.brightness) : state.IsDimmed state step threshold 0 where
  hue := rfl
  saturation := rfl
  kelvin := rfl
  isOn_iff := by simp [hon]
  lit _ := (levelAfter_zero hbright).symm
  dark hoff := absurd (hon.symm.trans hoff) (by decide)

/-- a bulb that is off stays as it is -/
lemma IsDimmed.stay {before after : BulbState} {step threshold : Int} {count : Nat}
    (h : before.IsDimmed after step threshold count) (hstep : 0 ≤ step) (hoff : after.isOn = false) :
    before.IsDimmed after step threshold (count + 1) := by
  have hbelow : levelAfter before.brightness step (count + 1) ≤ threshold := by
    have hnot := mt h.isOn_iff.mpr (by simp [hoff])
    have hle := levelAfter_succ_le before.brightness hstep count
    omega
  refine ⟨h.hue, h.saturation, h.kelvin, ?_, ?_, fun _ => ?_⟩
  · simp only [hoff, Bool.false_eq_true, false_iff]
    omega
  · exact fun hon => absurd (hon.symm.trans hoff) (by decide)
  · obtain ⟨last, hlast, hbrightness, habove, hlater⟩ := h.dark hoff
    refine ⟨last, by omega, hbrightness, habove, fun later hafter hle => ?_⟩
    rcases Nat.lt_or_eq_of_le hle with hlt | rfl
    · exact hlater later hafter (by omega)
    · exact hbelow

/-- a state stands so many steps above another one, and is on if there are any -/
structure IsBrightened (before after : BulbState) (step : Int) (count : Nat) : Prop where
  hue : after.hue = before.hue
  saturation : after.saturation = before.saturation
  kelvin : after.kelvin = before.kelvin
  lit : count ≠ 0 → after.isOn = true
  brightness : after.brightness = min maxLevel (before.brightness + count * step)

lemma IsBrightened.refl {state : BulbState} (step : Int) (h : state.brightness ≤ maxLevel) :
    state.IsBrightened state step 0 where
  hue := rfl
  saturation := rfl
  kelvin := rfl
  lit hnone := absurd rfl hnone
  brightness := by simp [h]

end BulbState

namespace Play

variable {before state : BulbState} {settings : Settings} {handle : Handle} {dimming : Dimming}
  {step : Int} {count : Nat}

/-- what a bulb comes to that is off, on without brightness, below the threshold, and above it -/
lemma yield_darker (settings : Settings) (handle : Handle) (dimming : Dimming) (state : BulbState) :
    (darkerPlay settings handle dimming).yield state
      = if state.brightness = 0 ∨ state.isOn = false then .still state
        else if max 0 (state.brightness - dimming.step) ≤ settings.turnOffLevel then
          ⟨{ state with power := powerOff }, [.power false 0], []⟩
        else
          ⟨{ state with brightness := max 0 (state.brightness - dimming.step), duration := dimming.speed },
            [.color state.hue state.saturation (max 0 (state.brightness - dimming.step)) state.kelvin
              dimming.speed], []⟩ := by
  unfold darkerPlay
  dsimp only [yield]
  by_cases hnothing : state.brightness = 0 ∨ state.isOn = false
  · rw [if_pos hnothing, if_pos (by simpa using hnothing)]
    rfl
  · rw [if_neg hnothing, if_neg (by simpa using hnothing)]
    split <;> rfl

/-- one more step down -/
theorem isDimmed_darker (hstep : 0 ≤ dimming.step) (hbright : 0 < before.brightness)
    (h : before.IsDimmed state dimming.step settings.turnOffLevel count) :
    before.IsDimmed ((darkerPlay settings handle dimming).yield state).state dimming.step
      settings.turnOffLevel (count + 1) := by
  rw [yield_darker]
  cases hpower : state.isOn with
  | false =>
    rw [if_pos (.inr rfl)]
    exact h.stay hstep hpower
  | true =>
    have hlevel := h.lit hpower
    have habove := h.isOn_iff.mp hpower
    have hnext := levelAfter_succ before.brightness hstep count
    rw [← hlevel] at hnext
    rw [← hnext]
    by_cases hzero : state.brightness = 0
    · -- a bulb that is on without brightness is above the threshold already
      have hcount : count ≠ 0 := by
        rintro rfl
        rw [levelAfter_zero hbright] at hlevel
        omega
      have hsame : levelAfter before.brightness dimming.step (count + 1) = 0 := by omega
      rw [if_pos (.inl hzero)]
      refine ⟨h.hue, h.saturation, h.kelvin, ?_, fun _ => ?_, fun hoff => ?_⟩
      · simp only [Yield.still, hpower, true_iff]
        omega
      · exact hzero.trans hsame.symm
      · exact absurd (hpower.symm.trans hoff) (by decide)
    · rw [if_neg (by simpa using hzero)]
      split
      · rename_i hbelow
        refine ⟨h.hue, h.saturation, h.kelvin, ?_, fun hlit => absurd hlit Bool.false_ne_true, fun _ => ?_⟩
        · simp only [BulbState.isOn, bne_self_eq_false, Bool.false_eq_true, false_iff]
          omega
        · refine ⟨count, Nat.lt_succ_self count, hlevel, habove, fun later hafter hle => ?_⟩
          obtain rfl : later = count + 1 := by omega
          exact hbelow
      · rename_i hnot
        have hstill : ∀ brightness duration : Int,
            ({ state with brightness, duration } : BulbState).isOn = true := fun _ _ => hpower
        refine ⟨h.hue, h.saturation, h.kelvin, ?_, fun _ => rfl, fun hoff => ?_⟩
        · simp only [hstill, true_iff]
          omega
        · exact absurd ((hstill _ _).symm.trans hoff) (by decide)

/-- What a bulb is sent on the way down: nothing any more once it was turned off, the request that turns
it off when it comes to the threshold, and none that switches it before. -/
structure TurnsOff (requests : List Request) (level : Nat → Int) (threshold : Int) (count : Nat) :
    Prop where
  silent : ¬ (count = 0 ∨ threshold < level count) → requests = []
  turned : (count = 0 ∨ threshold < level count) → level (count + 1) ≤ threshold →
    requests = [.power false 0]
  shaded : threshold < level (count + 1) → ∀ isOn duration, .power isOn duration ∉ requests

theorem turnsOff_darker (hstep : 0 ≤ dimming.step) (hbright : 0 < before.brightness)
    (h : before.IsDimmed state dimming.step settings.turnOffLevel count) :
    TurnsOff ((darkerPlay settings handle dimming).yield state).requests
      (levelAfter before.brightness dimming.step) settings.turnOffLevel count := by
  rw [yield_darker]
  have hnext := levelAfter_succ before.brightness hstep count
  refine ⟨fun hoff => ?_, fun hon hbelow => ?_, fun habove isOn duration => ?_⟩
  · rw [if_pos (.inr (Bool.eq_false_iff.mpr (mt h.isOn_iff.mp hoff)))]
    rfl
  · have hpower := h.isOn_iff.mpr hon
    have hlevel := h.lit hpower
    have hzero : state.brightness ≠ 0 := by
      intro hzero
      rcases hon with rfl | hon
      · rw [levelAfter_zero hbright] at hlevel
        omega
      · omega
    rw [if_neg (by simp [hzero, hpower]), if_pos (by rw [hlevel]; omega)]
  · split
    · simp [Yield.still]
    · rename_i hnot
      have hpower : state.isOn = true := by simpa using fun hoff => hnot (.inr hoff)
      rw [if_neg (by rw [h.lit hpower]; omega)]
      simp

/-- one more step up, whether the bulb is on or off -/
theorem isBrightened_lighter (hstep : 0 ≤ dimming.step)
    (h : before.IsBrightened state dimming.step count) :
    before.IsBrightened ((lighterPlay handle dimming).yield state).state dimming.step (count + 1) := by
  have hnext : min maxLevel (before.brightness + (count + 1 : Nat) * dimming.step)
      = min maxLevel (state.brightness + dimming.step) := by
    rw [h.brightness, Nat.cast_succ, add_one_mul]
    omega
  unfold lighterPlay switchOn
  dsimp only [yield]
  cases hpower : state.isOn with
  | false =>
    simp only [Bool.and_false, Bool.false_eq_true, if_false, switch, finish, yield, Yield.still,
      BenchBulb.obey]
    exact ⟨h.hue, h.saturation, h.kelvin, fun _ => rfl, hnext.symm⟩
  | true =>
    by_cases hfull : state.brightness = maxLevel
    · simp only [hfull, beq_self_eq_true, Bool.and_self, if_true, finish, yield, Yield.still]
      refine ⟨h.hue, h.saturation, h.kelvin, fun _ => hpower, ?_⟩
      rw [hnext]
      omega
    · simp only [beq_eq_false_iff_ne.mpr hfull, Bool.false_and, Bool.false_eq_true, if_false, if_true,
        finish, yield, Yield.still, BenchBulb.obey]
      exact ⟨h.hue, h.saturation, h.kelvin, fun _ => hpower, hnext.symm⟩

end Play

/-! ### Any number of runs -/

namespace Series

variable {trial : Nat → Trial} {length : Nat → Nat} {count : Nat} {serial : String} {handle : Handle}
  {state : BulbState} {step : Int}

/-- Runs that dim a bulb by a step bring it down step by step; the one that reaches the threshold turns
it off, where it keeps the last brightness above the threshold, and those after it send nothing.  Runs
that brighten it bring it up step by step, turned on, to its full brightness.  Its color stays. -/
theorem dims_and_brightens (h : Series trial length count serial) (hstep : 0 ≤ step)
    (hlight : (trial 0).scene.light? serial = some (handle, state)) :
    (∀ threshold, (∀ i < count, (trial i).settings.turnOffLevel = threshold ∧
          ∃ dimming, (trial i).action.effect = .darker dimming ∧ dimming.step = step) →
        state.isOn = true → 0 < state.brightness → ∀ i < count,
      (∃ after, ((trial i).left (length i)).light? serial = some (handle, after) ∧
        (after.isOn = true ↔ threshold < levelAfter state.brightness step (i + 1)) ∧
        state.IsDimmed after step threshold (i + 1) ∧
        ¬ (after.isOn = true ∧ 0 < after.brightness ∧ after.brightness ≤ threshold)) ∧
      (0 < i → levelAfter state.brightness step i ≤ threshold →
        (trial i).sent (length i) serial = []) ∧
      ((i = 0 ∨ threshold < levelAfter state.brightness step i) →
        levelAfter state.brightness step (i + 1) ≤ threshold →
          (trial i).sent (length i) serial = [⟨handle, .power false 0⟩]) ∧
      (threshold < levelAfter state.brightness step (i + 1) →
        ∀ call ∈ (trial i).sent (length i) serial, ∀ isOn duration,
          call.request ≠ .power isOn duration)) ∧
    ((∀ i < count, ∃ dimming, (trial i).action.effect = .lighter dimming ∧ dimming.step = step) →
        state.brightness ≤ maxLevel → ∀ i < count,
      ∃ after, ((trial i).left (length i)).light? serial = some (handle, after) ∧
        after.isOn = true ∧
        after.brightness = min maxLevel (state.brightness + (i + 1 : Nat) * step) ∧
        after.hue = state.hue ∧ after.saturation = state.saturation ∧ after.kelvin = state.kelvin) := by
  refine ⟨fun threshold hdarker hon hbright i hi => ?_, fun hlighter hle i hi => ?_⟩
  · have hdims : ∀ i < count, ∀ current, state.IsDimmed current step threshold i →
        state.IsDimmed ((trial i).yield handle current).state step threshold (i + 1) := by
      intro i hi current hcurrent
      obtain ⟨rfl, dimming, heffect, rfl⟩ := hdarker i hi
      rw [Trial.yield, heffect]
      exact Play.isDimmed_darker hstep hbright hcurrent
    obtain ⟨before, hbefore, hleft, hsent⟩ :=
      h.keeps hlight (.refl step threshold hon hbright) hdims i hi
    have hafter := hdims i hi before hbefore
    have hturns : Play.TurnsOff ((trial i).yield handle before).requests
        (levelAfter state.brightness step) threshold i := by
      obtain ⟨rfl, dimming, heffect, rfl⟩ := hdarker i hi
      rw [Trial.yield, heffect]
      exact Play.turnsOff_darker hstep hbright hbefore
    refine ⟨⟨_, hleft, ?_, hafter, ?_⟩, fun hi hbelow => ?_, fun habove hbelow => ?_, ?_⟩
    · exact hafter.isOn_iff.trans (by omega)
    · rintro ⟨hlit, hpositive, hdim⟩
      have habove := hafter.isOn_iff.mp hlit
      rw [hafter.lit hlit] at hdim
      omega
    · rw [hsent, hturns.silent (by omega)]
      rfl
    · rw [hsent, hturns.turned habove hbelow]
      rfl
    · intro habove call hcall isOn duration hpower
      rw [hsent] at hcall
      obtain ⟨request, hrequest, rfl⟩ := List.mem_map.mp hcall
      exact hturns.shaded habove isOn duration (hpower ▸ hrequest)
  · have hyield : ∀ i < count, ∀ current, state.IsBrightened current step i →
        state.IsBrightened ((trial i).yield handle current).state step (i + 1) := by
      intro i hi current hcurrent
      obtain ⟨dimming, heffect, rfl⟩ := hlighter i hi
      rw [Trial.yield, heffect]
      exact Play.isBrightened_lighter hstep hcurrent
    obtain ⟨before, hbefore, hleft, -⟩ := h.keeps hlight (.refl step hle) hyield i hi
    have hafter := hyield i hi before hbefore
    exact ⟨_, hleft, hafter.lit (Nat.succ_ne_zero i), hafter.brightness, hafter.hue, hafter.saturation,
      hafter.kelvin⟩

/-- the same action again and again, on what the run before has left -/
def again (first : Trial) : Nat → Trial
  | 0 => first
  | i + 1 => (again first i).next 19 first.action

/-- the bulb in the hall takes its time, and another one does not answer to the first run -/
def dimmingHall : Trial :=
  { Trial.besideSilent with settings := { queryRetries := 0, turnOffLevel := 0x6000 } }

def brighteningHall : Trial :=
  { Trial.besideSilent with
    action := { command := "lighter all", effect := .lighter ⟨none, 0x4000, 0⟩, targets := .all } }

lemma of_again {first : Trial} {count : Nat} {serial : String}
    (hserves : ∀ i < count, (again first i).store.Serves (again first i).action (again first i).hasStore)
    (h : ∀ i < count, (again first i).audience.isReliable = true ∧ (again first i).bench.IsDistinct ∧
      (again first i).client < (again first i).bench.clients.length ∧
      ((((again first i).after 19).runs[0]?.bind Run.outcome).any fun outcome => outcome.isOk) = true ∧
      serial ∈ (again first i).matched 19 ∧ ((again first i).after 19).faultsOf 0 serial = []) :
    Series (again first) (fun _ => 19) count serial := by
  refine ⟨fun i hi => ?_, fun i _ => rfl⟩
  obtain ⟨hreliable, hdistinct, hknown, hends, hmatched, hwell⟩ := h i hi
  exact ⟨⟨hreliable, hserves i hi, hdistinct⟩, hknown, Trial.exists_concludes hends, hmatched, hwell⟩

lemma again_eq (first : Trial) (i : Nat) : (again first i).action = first.action ∧
    (again first i).settings = first.settings := by
  induction i with
  | zero => exact ⟨rfl, rfl⟩
  | succ i ih => exact ⟨rfl, ih.2⟩

set_option maxRecDepth 100000 in
/-- the second run turns the bulb off, and the third leaves it alone; brightened twice it is at full
brightness -/
theorem dims_and_brightens_hall :
    (again dimmingHall 1).sent 19 "1" = [⟨Trial.slowHall.handle, .power false 0⟩] ∧
    (again dimmingHall 2).sent 19 "1" = [] ∧
    (∃ after, ((again dimmingHall 2).left 19).light? "1" = some (Trial.slowHall.handle, after) ∧
      Trial.slowHall.state.IsDimmed after 0x2000 0x6000 3) ∧
    ∃ after, ((again brighteningHall 1).left 19).light? "1" = some (Trial.slowHall.handle, after) ∧
      after.isOn = true ∧ after.brightness = maxLevel := by
  have hdims : Series (again dimmingHall) (fun _ => 19) 3 "1" := by
    refine of_again (fun i _ => ?_) (by decide +kernel)
    rw [(again_eq dimmingHall i).1]
    trivial
  have hbrightens : Series (again brighteningHall) (fun _ => 19) 2 "1" := by
    refine of_again (fun i _ => ?_) (by decide +kernel)
    rw [(again_eq brighteningHall i).1]
    trivial
  have hdark : ∀ i < 3, (again dimmingHall i).settings.turnOffLevel = 0x6000 ∧
      ∃ dimming, (again dimmingHall i).action.effect = .darker dimming ∧ dimming.step = 0x2000 := by
    intro i _
    rw [(again_eq dimmingHall i).1, (again_eq dimmingHall i).2]
    exact ⟨rfl, _, rfl, rfl⟩
  have hlight : ∀ i < 2, ∃ dimming,
      (again brighteningHall i).action.effect = .lighter dimming ∧ dimming.step = 0x4000 := by
    intro i _
    rw [(again_eq brighteningHall i).1]
    exact ⟨_, rfl, rfl⟩
  have hdarker := (hdims.dims_and_brightens (by decide) rfl).1 0x6000 hdark (by decide) (by decide)
  have hlighter := (hbrightens.dims_and_brightens (by decide) rfl).2 hlight (by decide)
  obtain ⟨after, hleft, hon, hbrightness, -⟩ := hlighter 1 (by decide)
  obtain ⟨⟨dimmed, hleft', -, hdimmed, -⟩, hsilent, -⟩ := hdarker 2 (by decide)
  exact ⟨(hdarker 1 (by decide)).2.2.1 (by decide) (by decide), hsilent (by decide) (by decide),
    ⟨dimmed, hleft', hdimmed⟩, after, hleft, hon, hbrightness.trans (by decide)⟩

end Series

end Lamplighter
