import Lamplighter.Proofs.Run.Yield
import Lamplighter.Proofs.Snapshot.Store

/-!
# Upshots: what a run comes to when nothing goes wrong in it

* `Play.yield_state`      no play renames a bulb, and a switched bulb stays switched;
* `BulbState.restored`    what a restore makes of a state, and that a second one changes nothing;
* `Trial.Succeeds`        a run has ended with a summary that names no failed bulb;
* `Trial.Upshot`          every bulb that the run acted on has come to the yield of its effect, the
                          others are as they were, and what was kept is put away;
* `Succeeds.upshot`       that is what a run comes to that succeeds.
-/

namespace Lamplighter

/-! ### Yields of the effects -/

namespace BulbState

variable {saved current : BulbState} {speed : Option Int}

/-- the power is one that a bulb can be switched to -/
def IsSwitched (state : BulbState) : Prop :=
  state.power = powerOff ∨ state.power = powerOn

instance : DecidablePred IsSwitched :=
  fun _ => inferInstanceAs (Decidable (_ ∨ _))

/-- what a restore of a saved state makes of the state of a bulb -/
def restored (saved : BulbState) (speed : Option Int) (current : BulbState) : BulbState :=
  { saved with
    label := current.label
    power := if current.isOn = saved.isOn then current.power
      else if saved.isOn then powerOn else powerOff
    duration := speed.getD saved.duration }

lemma isOn_restored (saved : BulbState) (speed : Option Int) (current : BulbState) :
    (saved.restored speed current).isOn = saved.isOn := by
  unfold restored
  by_cases h : current.isOn = saved.isOn
  · rw [if_pos h]
    exact h
  · rw [if_neg h]
    cases saved.isOn <;> rfl

/-- a second restore changes nothing -/
theorem restored_restored (saved : BulbState) (speed : Option Int) (current : BulbState) :
    saved.restored speed (saved.restored speed current) = saved.restored speed current := by
  conv_lhs => rw [restored, if_pos (isOn_restored saved speed current)]
  rfl

lemma isOn_inj {a b : BulbState} (ha : a.IsSwitched) (hb : b.IsSwitched) (h : a.isOn = b.isOn) :
    a.power = b.power := by
  unfold isOn at h
  rcases ha with ha | ha <;> rcases hb with hb | hb <;> rw [ha, hb] at h ⊢ <;> cases h

lemma IsSwitched.restored (h : current.IsSwitched) (saved : BulbState) (speed : Option Int) :
    (saved.restored speed current).IsSwitched := by
  by_cases hpower : current.isOn = saved.isOn
  · rw [BulbState.restored, if_pos hpower]
    exact h
  · rw [BulbState.restored, if_neg hpower]
    cases saved.isOn
    · exact .inl rfl
    · exact .inr rfl

/-- a switched bulb comes back to the state that it was saved in -/
theorem restored_eq (hlabel : current.label = saved.label) (hcurrent : current.IsSwitched)
    (hsaved : saved.IsSwitched) : saved.restored none current = saved := by
  have hpower := isOn_inj (hcurrent.restored saved none) hsaved (isOn_restored saved none current)
  calc saved.restored none current
    _ = { saved with label := current.label, power := (saved.restored none current).power } := rfl
    _ = saved := by rw [hlabel, hpower]

end BulbState

namespace Play

variable {saved : Option Saved} {speed : Option Int} {handle : Handle} {state : BulbState}

/-- no play renames a bulb, and a switched bulb stays switched -/
theorem yield_state (play : Play) (state : BulbState) :
    (play.yield state).state.label = state.label ∧
      (state.IsSwitched → (play.yield state).state.IsSwitched) := by
  have hobey : ∀ (state : BulbState) (request : Request),
      (BenchBulb.obey state request).label = state.label ∧
        (state.IsSwitched → (BenchBulb.obey state request).IsSwitched) := by
    intro state request
    cases request with
    | power isOn duration =>
      refine ⟨rfl, fun _ => ?_⟩
      cases isOn
      · exact .inl rfl
      · exact .inr rfl
    | _ => exact ⟨rfl, id⟩
  induction play generalizing state with
  | done reply => exact ⟨rfl, id⟩
  | ask next ih => exact ih state state
  | keep kept next ih => exact ih state
  | report message data next ih => exact ih state
  | send request next ih =>
    obtain ⟨hlabel, hswitched⟩ := ih .nothing (BenchBulb.obey state request)
    exact ⟨hlabel.trans (hobey state request).1, hswitched ∘ (hobey state request).2⟩

/-- a bulb that was not saved is left alone -/
lemma yield_restorePlay_none
    (h : saved.bind (fun s => Assoc.get? s (normalName handle.name)) = none) :
    (restorePlay saved speed handle).yield state = .still state := by
  unfold restorePlay
  rw [h]
  rfl

/-- the requests that bring a bulb back to a saved state -/
def restoring (kept : BulbState) (speed : Option Int) (state : BulbState) : List Request :=
  (if state.isOn = kept.isOn then [] else [.power kept.isOn 0])
    ++ [.color kept.hue kept.saturation kept.brightness kept.kelvin (speed.getD kept.duration)]

lemma yield_restorePlay_some {kept : BulbState}
    (h : saved.bind (fun s => Assoc.get? s (normalName handle.name)) = some kept) :
    (restorePlay saved speed handle).yield state
      = ⟨kept.restored speed state, restoring kept speed state, []⟩ := by
  unfold restorePlay restoring BulbState.restored
  rw [h]
  dsimp only [yield]
  by_cases hpower : state.isOn = kept.isOn
  · simp [hpower, yield, BenchBulb.obey, finish, Yield.still]
  · simp [hpower, yield, BenchBulb.obey, finish, Yield.still]

/-- nothing is switched once a bulb is as it is to be -/
lemma power_not_mem_restoring {kept : BulbState} (h : state.isOn = kept.isOn) (isOn : Bool)
    (duration : Int) : Request.power isOn duration ∉ restoring kept speed state := by
  rw [restoring, if_pos h]
  simp

end Play

/-! ### Runs that nothing goes wrong in -/

namespace Trial

open Session

variable {trial : Trial} {n : Nat} {log : List (Handle × BulbState)} {serial : String}

/-- what the effect of the run comes to on a bulb in a state -/
def yield (trial : Trial) (handle : Handle) (state : BulbState) : Yield :=
  (trial.action.effect.play trial.settings trial.plan.saved handle).yield state

/-- the run has a store, and has ended with a summary that names no failed bulb; what it kept can be
written -/
structure Succeeds (trial : Trial) (n : Nat) : Prop where
  reliable : trial.audience.isReliable = true
  distinct : trial.bench.IsDistinct
  stored : trial.hasStore = true
  ends : ∃ run summary, trial.Concludes n run summary ∧ summary.failed = [] ∧
    ∀ state ∈ run.kept, state.IsShort

lemma mem_bind_toOption {outcome : Option (Except Fault Summary)} {summary : Summary} :
    summary ∈ outcome.bind Except.toOption ↔ outcome = some (.ok summary) := by
  rcases outcome with _ | fault | summary' <;> simp [Except.toOption]

instance (trial : Trial) (n : Nat) : Decidable (trial.Succeeds n) :=
  decidable_of_iff (trial.audience.isReliable = true ∧ trial.bench.IsDistinct ∧ trial.hasStore = true ∧
      ∃ run ∈ (trial.after n).runs[0]?, ∃ summary ∈ run.outcome.bind Except.toOption,
        summary.failed = [] ∧ ∀ state ∈ run.kept, state.IsShort)
    ⟨fun ⟨reliable, distinct, stored, run, here, summary, outcome, well⟩ => ⟨reliable, distinct, stored,
      run, summary, ⟨here, mem_bind_toOption.mp outcome⟩, well⟩,
    fun ⟨reliable, distinct, stored, run, summary, ends, well⟩ => ⟨reliable, distinct, stored, run,
      ends.here, summary, mem_bind_toOption.mpr ends.outcome, well⟩⟩

/-- every bulb that the run acted on has come to the yield of its effect, the others are as they were,
and what was kept for them is put away -/
structure Upshot (trial : Trial) (n : Nat) (log : List (Handle × BulbState)) : Prop where
  acted : ∀ bulb, trial.bench.find? bulb.handle.serial = some bulb →
    bulb.handle.serial ∈ trial.matched n →
      keptFor log bulb.handle.serial = (trial.yield bulb.handle bulb.state).kept ∧
      (trial.bench.corner trial.client bulb.handle.serial).Yields
        ((trial.after n).corner trial.client 0 bulb.handle.serial) bulb.handle
        (trial.yield bulb.handle bulb.state)
  spared : ∀ serial, serial ∉ trial.matched n → keptFor log serial = [] ∧
    (trial.after n).corner trial.client 0 serial = trial.bench.corner trial.client serial
  met : ∀ serial ∈ trial.matched n, ∃ bulb, trial.bench.find? serial = some bulb
  known : ∀ entry ∈ log, trial.IsAnnounced entry.1
  short : ∀ entry ∈ log, entry.2.IsShort
  filed : ∃ seconds, (trial.after n).store = trial.plan.filed trial.store (log.map Prod.snd) seconds

/-- a serial stands for one handle, if the run can hear of any -/
lemma IsFit.exists_handle (h : trial.IsFit) (serial : String) : ∃ handle : Handle,
    handle.serial = serial ∧
      ∀ other, trial.IsAnnounced other → other.serial = handle.serial → other = handle := by
  cases hfind : trial.bench.find? serial with
  | some bulb =>
    obtain rfl := Bench.serial_of_find? hfind
    exact ⟨bulb.handle, rfl, h.eq_handle hfind⟩
  | none =>
    refine ⟨{ serial, label := "", host := "" }, rfl, fun other hother hserial => ?_⟩
    obtain ⟨bulb, hbulb, rfl⟩ := h.exists_of_announced hother
    rw [hserial, hfind] at hbulb
    cases hbulb

/-- where no bulb has failed there was no fault -/
lemma Concludes.faultsOf_eq_nil {run : Run} {summary : Summary} (h : trial.Concludes n run summary)
    (hfit : trial.IsFit) (hfailed : summary.failed = []) (serial : String) :
    (trial.after n).faultsOf 0 serial = [] := by
  have hnone : run.failures.map Handle.name = [] := by rw [← (h.over hfit).2, hfailed]
  have hnone := List.map_eq_nil_iff.mp (List.map_eq_nil_iff.mp hnone)
  rw [faultsOf, h.here, Option.map_some, hnone]
  rfl

namespace Concludes

variable {run : Run} {summary : Summary} {bulb : BenchBulb}

/-- the effect on a bulb that the run acted on has come to its end -/
lemma acted (h : trial.Concludes n run summary) (hfit : trial.IsFit)
    (htracks : (trial.after n).Tracks 0 trial.plan trial.IsAnnounced
      (trial.bench.corner trial.client) trial.store log)
    (hbulb : trial.bench.find? bulb.handle.serial = some bulb)
    (hmatched : bulb.handle.serial ∈ trial.matched n) : ∃ solo outcome,
      (firstOf trial.plan 0 bulb.handle (trial.bench.corner trial.client bulb.handle.serial)).Comes
        (keptFor log bulb.handle.serial) solo ∧
      solo.errand.stage = .over outcome ∧
      (trial.after n).corner trial.client 0 bulb.handle.serial = solo.corner := by
  cases htracks.fares bulb.handle (hfit.eq_handle hbulb) with
  | untouched same none nothing =>
    obtain ⟨errand, hmem, hserial⟩ := (h.mem_matched hfit).mp hmatched
    exact absurd hserial (none errand hmem)
  | begun has comes =>
    obtain ⟨⟨outcome, hended⟩, _⟩ := has.over (h.over hfit).1
    exact ⟨_, outcome, comes, hended, has.corner_of_comes comes⟩

/-- where it has had no fault, it has come to its yield -/
lemma yields (h : trial.Concludes n run summary) (hfit : trial.IsFit)
    (htracks : (trial.after n).Tracks 0 trial.plan trial.IsAnnounced
      (trial.bench.corner trial.client) trial.store log)
    (hbulb : trial.bench.find? bulb.handle.serial = some bulb)
    (hmatched : bulb.handle.serial ∈ trial.matched n)
    (hwell : (trial.after n).faultsOf 0 bulb.handle.serial = []) :
    keptFor log bulb.handle.serial = (trial.yield bulb.handle bulb.state).kept ∧
      (trial.bench.corner trial.client bulb.handle.serial).Yields
        ((trial.after n).corner trial.client 0 bulb.handle.serial) bulb.handle
        (trial.yield bulb.handle bulb.state) := by
  obtain ⟨solo, outcome, comes, hended, hcorner⟩ := h.acted hfit htracks hbulb hmatched
  have hyields := comes.yields rfl (Effect.isPlain_play _ _ _ _) hbulb hended (hcorner ▸ hwell)
  rw [← hcorner] at hyields
  exact hyields

/-- a bulb that the run did not act on is as it was -/
lemma spared (h : trial.Concludes n run summary) (hfit : trial.IsFit)
    (htracks : (trial.after n).Tracks 0 trial.plan trial.IsAnnounced
      (trial.bench.corner trial.client) trial.store log)
    (hmatched : serial ∉ trial.matched n) : keptFor log serial = [] ∧
      (trial.after n).corner trial.client 0 serial = trial.bench.corner trial.client serial := by
  obtain ⟨handle, rfl, hone⟩ := hfit.exists_handle serial
  cases htracks.fares handle hone with
  | untouched same none nothing => exact ⟨nothing, same⟩
  | begun has comes =>
    obtain ⟨_, errand, hmem, hhandle⟩ := has.over (h.over hfit).1
    rw [handle_of_comes comes] at hhandle
    exact absurd ((h.mem_matched hfit).mpr ⟨errand, hmem, by rw [hhandle]⟩) hmatched

end Concludes

namespace Succeeds

/-- with a sound store nothing stands in the way of the run -/
lemma isFit (h : trial.Succeeds n) (hstore : trial.store.IsSound) : trial.IsFit := by
  refine ⟨h.reliable, ?_, h.distinct⟩
  unfold Snapshot.Store.Serves
  split
  · rename_i name _
    exact ⟨h.stored, fun states seconds => hstore.save_fault _ states name seconds⟩
  · exact fun _ => ⟨_, hstore.load_eq _ _⟩
  · trivial

/-- what a run comes to that succeeds -/
theorem upshot (h : trial.Succeeds n) (hstore : trial.store.IsSound) :
    ∃ log, trial.Upshot n log := by
  have hfit := h.isFit hstore
  obtain ⟨run, summary, hends, hfailed, hshort⟩ := h.ends
  obtain ⟨log, htracks⟩ := hfit.tracks (hends.unbroken hfit) n
  have hkept : run.kept = log.map Prod.snd := by
    have hstock := htracks.kept
    rw [stock, hends.here] at hstock
    exact Option.some.inj hstock
  refine ⟨log, ?_, ?_, ?_, htracks.known, ?_, ?_⟩
  · exact fun bulb hbulb hmatched => hends.yields hfit htracks hbulb hmatched
      (hends.faultsOf_eq_nil hfit hfailed _)
  · exact fun serial hmatched => hends.spared hfit htracks hmatched
  · intro serial hmatched
    obtain ⟨errand, hmem, rfl⟩ := (hends.mem_matched hfit).mp hmatched
    obtain ⟨e, he⟩ := List.getElem?_of_mem hmem
    obtain ⟨bulb, hbulb, -⟩ := hfit.exists_of_announced
      ((hfit.hosts (hends.unbroken hfit) n).kind he)
    exact ⟨bulb, hbulb⟩
  · intro entry hmem
    exact hshort _ (hkept ▸ List.mem_map_of_mem hmem)
  · have hl : (trial.after n).ledger 0 = some ((trial.after n).ledgerOf 0 run) := by
      rw [ledger, hends.here]
      rfl
    exact htracks.filed _ hl (hends.finished hfit)

end Succeeds

end Trial

end Lamplighter
