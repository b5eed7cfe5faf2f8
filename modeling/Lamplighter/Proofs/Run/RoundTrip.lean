import Lamplighter.Proofs.Command.Keeping
import Lamplighter.Proofs.Run.Scene

/-!
# Round trips: a restore brings back what a save has captured

* `RoundTrip`         a save, any runs that leave alone what it saved, and a restore;
* `RoundTrip.found`   the restore finds for a captured bulb the state that it was captured in;
* `RoundTrip.brings_back`, `RoundTrip.leaves_alone`   it brings these bulbs back, and leaves those
                      alone that nothing is saved for;
* `RoundTrip.again_unchanged`   a second restore right behind it changes nothing;
* `restore_after_save`   so it is for what a save and a restore of the same names compile to.
-/

namespace Lamplighter

open Snapshot (title)

lemma Snapshot.Store.held_congr (store : Store) (key : String) {name other : Option String}
    (h : title name = title other) : store.held key name = store.held key other := by
  unfold held
  rw [h]

/-- a save, and a restore without a speed from where it saves -/
structure Action.Pairs (saved restored : Action) (name : Option String) : Prop where
  saves : ∃ given, saved.effect = .save given ∧ title given = title name
  restores : ∃ given, restored.effect = .restore given none ∧ title given = title name
  key : restored.key = saved.key

/-- A run on an ordinary bench, any runs that do not save under its key and a name, and another run.
Nothing goes wrong in any of them. -/
structure RoundTrip (name : Option String) (saving : Trial) (n : Nat) (restoring : Trial) (m : Nat) :
    Prop where
  ordinary : saving.bench.IsOrdinary
  sound : saving.store.IsSound
  saved : saving.Succeeds n
  between : Relation.ReflTransGen (Scene.Passes fun action => ¬ action.SavesTo saving.action.key name)
    (saving.left n) restoring.scene
  restored : restoring.Succeeds m

namespace RoundTrip

variable {name given : Option String} {saving restoring again : Trial} {n m o : Nat}
  {serial : String} {handle : Handle} {state : BulbState}

lemma isOrdinary_saving (h : RoundTrip name saving n restoring m) : saving.scene.IsOrdinary :=
  Trial.isOrdinary_scene h.ordinary h.sound

lemma follows (h : RoundTrip name saving n restoring m) :
    (saving.left n).Follows restoring.scene saving.action.key name :=
  .of_passes (h.saved.isOrdinary_left h.isOrdinary_saving) h.between

/-- the lights of the save are there when the restore starts -/
lemma lights (h : RoundTrip name saving n restoring m) (serial : String) :
    (restoring.scene.light? serial).map Prod.fst = (saving.scene.light? serial).map Prod.fst :=
  (h.follows.handle serial).trans (h.saved.handle_left h.isOrdinary_saving serial)

lemma exists_light (h : RoundTrip name saving n restoring m)
    (hlight : saving.scene.light? serial = some (handle, state)) :
    ∃ before, restoring.scene.light? serial = some (handle, before) := by
  have hsame := h.lights serial
  rw [hlight] at hsame
  obtain ⟨⟨_, before⟩, hbefore, rfl⟩ := Option.map_eq_some_iff.mp hsame
  exact ⟨before, hbefore⟩

/-- what the save has captured is there when the restore starts -/
lemma captures (h : RoundTrip name saving n restoring m)
    (hpair : saving.action.Pairs restoring.action name) (hmatched : saving.matched n ≠ []) :
    ∃ states, restoring.store.held restoring.action.key name = some states ∧
      saving.scene.Captures (saving.matched n) states := by
  obtain ⟨given, heffect, htitle⟩ := hpair.saves
  obtain ⟨states, hheld, hcaptures⟩ := h.saved.captures h.isOrdinary_saving heffect hmatched
  refine ⟨states, ?_, hcaptures⟩
  rw [hpair.key, ← hheld]
  exact h.follows.held.trans (Snapshot.Store.held_congr _ _ htitle.symm)

/-- the restore finds for a captured bulb the state that it was captured in -/
lemma found (h : RoundTrip name saving n restoring m)
    (hpair : saving.action.Pairs restoring.action name) (htitle : title given = title name)
    (hmatched : serial ∈ saving.matched n)
    (hlight : saving.scene.light? serial = some (handle, state)) :
    restoring.found given handle = some state := by
  obtain ⟨states, hheld, hcaptures⟩ := h.captures hpair (List.ne_nil_of_mem hmatched)
  rw [Trial.found, Snapshot.Store.held_congr _ _ htitle, hheld, Option.bind_some]
  exact hcaptures.get? h.isOrdinary_saving hmatched hlight

/-- a captured bulb is brought back to the state that it was captured in -/
theorem brings_back (h : RoundTrip name saving n restoring m)
    (hpair : saving.action.Pairs restoring.action name) (hmatched : serial ∈ saving.matched n)
    (hmatched' : serial ∈ restoring.matched m) :
    ∃ handle state, saving.scene.light? serial = some (handle, state) ∧
      (restoring.left m).light? serial = some (handle, state) := by
  obtain ⟨log, hupshot⟩ := h.saved.upshot h.sound
  obtain ⟨handle, state, hlight⟩ := hupshot.exists_light hmatched
  obtain ⟨before, hbefore⟩ := h.exists_light hlight
  obtain ⟨given, heffect, htitle⟩ := hpair.restores
  have hlater := h.follows.ordinary
  obtain ⟨log', hupshot'⟩ := h.restored.upshot hlater.sound
  have hleft := hupshot'.light_restored h.restored.stored hlater.sound heffect hmatched' hbefore
  rw [h.found hpair htitle hmatched hlight] at hleft
  refine ⟨handle, state, hlight, hleft.1.trans ?_⟩
  have hlabel : before.label = state.label :=
    (hlater.labelled hbefore).trans (h.isOrdinary_saving.labelled hlight).symm
  rw [BulbState.restored_eq hlabel (hlater.switched hbefore) (h.isOrdinary_saving.switched hlight)]

/-- a bulb that nothing is saved for is left alone -/
theorem leaves_alone (h : RoundTrip name saving n restoring m)
    (hpair : saving.action.Pairs restoring.action name)
    (hlight : restoring.scene.light? serial = some (handle, state))
    (hnone : ¬ restoring.scene.HasEntry restoring.action.key name handle) :
    (restoring.left m).light? serial = some (handle, state) ∧ restoring.sent m serial = [] := by
  obtain ⟨given, heffect, htitle⟩ := hpair.restores
  have hlater := h.follows.ordinary
  obtain ⟨log, hupshot⟩ := h.restored.upshot hlater.sound
  by_cases hmatched : serial ∈ restoring.matched m
  · have hleft := hupshot.light_restored h.restored.stored hlater.sound heffect hmatched hlight
    have hfound : restoring.found given handle = none := by
      rw [Trial.found_eq_none_iff]
      unfold Scene.HasEntry at hnone ⊢
      rwa [Snapshot.Store.held_congr _ _ htitle]
    rw [hfound] at hleft
    exact hleft
  · obtain ⟨hsame, -, hsent⟩ := hupshot.light_spared hmatched
    exact ⟨hsame.trans hlight, hsent⟩

/-- a bulb that the save did not capture is left alone, if it captured any -/
theorem leaves_uncaptured (h : RoundTrip name saving n restoring m)
    (hpair : saving.action.Pairs restoring.action name) (hmatched : saving.matched n ≠ [])
    (hserial : serial ∉ saving.matched n) :
    (restoring.left m).light? serial = restoring.scene.light? serial ∧
      restoring.sent m serial = [] := by
  obtain ⟨log, hupshot⟩ := h.restored.upshot h.follows.ordinary.sound
  by_cases hmatched' : serial ∈ restoring.matched m
  · obtain ⟨handle, before, hbefore⟩ := hupshot.exists_light hmatched'
    have hsame := h.lights serial
    rw [hbefore] at hsame
    obtain ⟨⟨_, state⟩, hlight, rfl⟩ := Option.map_eq_some_iff.mp hsame.symm
    obtain ⟨states, hheld, hcaptures⟩ := h.captures hpair hmatched
    obtain ⟨hleft, hsent⟩ := h.leaves_alone hpair hbefore
      (hcaptures.not_hasEntry h.isOrdinary_saving hheld hserial hlight)
    exact ⟨hleft.trans hbefore.symm, hsent⟩
  · obtain ⟨hsame, -, hsent⟩ := hupshot.light_spared hmatched'
    exact ⟨hsame, hsent⟩

/-- a second restore right behind the first switches no bulb, and changes none -/
theorem again_unchanged (h : RoundTrip name saving n restoring m)
    (hpair : saving.action.Pairs restoring.action name) (haction : again.action = restoring.action)
    (hscene : again.scene = restoring.left m) (hagain : again.Succeeds o)
    (hserial : serial ∈ again.matched o → serial ∈ restoring.matched m) :
    (again.left o).light? serial = again.scene.light? serial ∧
      ∀ call ∈ again.sent o serial, ∀ isOn duration, call.request ≠ .power isOn duration := by
  obtain ⟨given, heffect, htitle⟩ := hpair.restores
  have hlater := h.follows.ordinary
  have hordinary : again.scene.IsOrdinary := hscene ▸ h.restored.isOrdinary_left hlater
  obtain ⟨log, hupshot⟩ := h.restored.upshot hlater.sound
  obtain ⟨log', hupshot'⟩ := hagain.upshot hordinary.sound
  by_cases hmatched : serial ∈ again.matched o
  · obtain ⟨handle, before, hbefore⟩ := hupshot.exists_light (hserial hmatched)
    have hfirst := hupshot.light_restored h.restored.stored hlater.sound heffect (hserial hmatched)
      hbefore
    have hfound : again.found given handle = restoring.found given handle := by
      have hstore : again.store = (restoring.left m).store := congrArg Scene.store hscene
      obtain ⟨hheld, -⟩ := hupshot.held_left h.restored.stored hlater.sound
        restoring.action.key given
      rw [Trial.found, Trial.found, haction, hstore, hheld]
      rintro ⟨other, hsaves, -⟩
      rw [heffect] at hsaves
      cases hsaves
    have hsecond : ∀ state, again.scene.light? serial = some (handle, state) → _ := fun state =>
      hupshot'.light_restored hagain.stored hordinary.sound (haction ▸ heffect) hmatched
    rw [hfound] at hsecond
    rw [hscene] at hsecond ⊢
    cases hget : restoring.found given handle with
    | none =>
      rw [hget] at hfirst hsecond
      obtain ⟨hleft, hsent⟩ := hsecond _ hfirst.1
      exact ⟨hleft.trans hfirst.1.symm, by rw [hsent]; simp⟩
    | some kept =>
      rw [hget] at hfirst hsecond
      obtain ⟨hleft, hsent⟩ := hsecond _ hfirst.1
      rw [BulbState.restored_restored] at hleft
      refine ⟨hleft.trans hfirst.1.symm, fun call hcall isOn duration hpower => ?_⟩
      have hrequest := hsent call hcall
      rw [hpower] at hrequest
      exact Play.power_not_mem_restoring (BulbState.isOn_restored ..) isOn duration hrequest
  · obtain ⟨hsame, -, hsent⟩ := hupshot'.light_spared hmatched
    exact ⟨hsame, by rw [hsent]; simp⟩

end RoundTrip

/-- A sentence that saves and one that restores compile where they have the same names, none of them
a keyword, and the same name of a state, if any.  In a round trip of the two each bulb comes back to the
state that it was captured in, and a bulb that nothing was saved for is sent no command; a second
restore switches no bulb and changes none. -/
theorem restore_after_save {saveWord toWord restoreWord fromWord : String} {names : List String}
    (name : Option String) (hsave : lowerToken saveWord = "save") (hto : lowerToken toWord = "to")
    (hrestore : lowerToken restoreWord = "restore") (hfrom : lowerToken fromWord = "from")
    (hnames : ∀ n ∈ names, lowerToken n ≠ "to" ∧ lowerToken n ≠ "from")
    (hplain : readSpeed? (keeping restoreWord names fromWord name) = none)
    (settings settings' : Settings) :
    ∃ saved restored, compile (keeping saveWord names toWord name) settings = .ok saved ∧
      compile (keeping restoreWord names fromWord name) settings' = .ok restored ∧
      ∀ (saving restoring : Trial) (n m : Nat), saving.action = saved → restoring.action = restored →
        RoundTrip name saving n restoring m →
        (∀ serial ∈ saving.matched n, serial ∈ restoring.matched m →
          ∃ handle state, saving.scene.light? serial = some (handle, state) ∧
            (restoring.left m).light? serial = some (handle, state)) ∧
        (∀ serial handle state, restoring.scene.light? serial = some (handle, state) →
          ¬ restoring.scene.HasEntry restored.key name handle → restoring.sent m serial = []) ∧
        (saving.matched n ≠ [] → ∀ serial ∉ saving.matched n, restoring.sent m serial = []) ∧
        ∀ (again : Trial) (o : Nat), again.action = restored → again.scene = restoring.left m → again.Succeeds o →
          ∀ serial, (serial ∈ again.matched o → serial ∈ restoring.matched m) →
            (again.left o).light? serial = again.scene.light? serial ∧
            ∀ call ∈ again.sent o serial, ∀ isOn duration, call.request ≠ .power isOn duration := by
  obtain ⟨saved, given, hcompile, hsaves, htitle, htargets⟩ :=
    compile_save name hsave hto (fun n hn => (hnames n hn).1) settings
  obtain ⟨restored, given', hcompile', hrestores, htitle', htargets'⟩ :=
    compile_restore name hrestore hfrom (fun n hn => (hnames n hn).2) hplain settings'
  refine ⟨saved, restored, hcompile, hcompile', ?_⟩
  rintro saving restoring n m rfl rfl htrip
  have hkey : restoring.action.key = saving.action.key := by
    unfold Action.key Action.wanted
    rw [htargets, htargets']
  have hpair : saving.action.Pairs restoring.action name :=
    ⟨⟨given, hsaves, htitle⟩, ⟨given', hrestores, htitle'⟩, hkey⟩
  refine ⟨fun serial hmatched => htrip.brings_back hpair hmatched,
    fun serial handle state hlight hnone => (htrip.leaves_alone hpair hlight hnone).2,
    fun hmatched serial hserial => (htrip.leaves_uncaptured hpair hmatched hserial).2, ?_⟩
  intro again o haction hscene hagain serial hserial
  exact htrip.again_unchanged hpair haction hscene hagain hserial

namespace RoundTrip

def saveHall : Action where
  command := "Save Hall to movie"
  effect := .save (some "movie")
  targets := .named [("hall", "Hall")]

def allOff : Action where
  command := "off"
  effect := .off
  targets := .all

def restoreHall : Action where
  command := "restore Hall FROM movie"
  effect := .restore (some "movie") none
  targets := .named [("hall", "Hall")]

/-- the bulb in the hall is saved, beside a snapshot that cannot be read -/
def savingHall : Trial where
  bench := { bulbs := [Trial.slowHall, Trial.brightAttic], clients := [{}] }
  store := .connect [{ key := "all", name := "", text := "[", updated := 0 }]
  action := saveHall
  settings := {}
  client := 0
  audience := .nobody
  hasStore := true

/-- all bulbs are turned off in between -/
def darkening : Trial :=
  savingHall.next 8 allOff

def restoringHall : Trial :=
  darkening.next 10 restoreHall

def againHall : Trial :=
  restoringHall.next 7 restoreHall

set_option maxRecDepth 100000 in
lemma hall_succeeds : savingHall.Succeeds 8 ∧ darkening.Succeeds 10 ∧ restoringHall.Succeeds 7 ∧
    againHall.Succeeds 7 ∧ savingHall.matched 8 = ["1"] ∧ restoringHall.matched 7 = ["1"] ∧
    againHall.matched 7 = ["1"] := by
  decide +kernel

lemma isSound_savingHall : savingHall.store.IsSound := by
  refine (Snapshot.Store.isSound_iff rfl rfl).mpr ⟨List.pairwise_singleton _ _, [], ?_⟩
  rfl

lemma hall_roundTrip : RoundTrip (some "movie") savingHall 8 restoringHall 7 := by
  obtain ⟨hsaving, hdarkening, hrestoring, -⟩ := hall_succeeds
  refine ⟨by decide +kernel, isSound_savingHall, hsaving, ?_, hrestoring⟩
  have hpasses : Scene.Passes (fun action => ¬ action.SavesTo savingHall.action.key (some "movie"))
      darkening.scene (darkening.left 10) := by
    refine .run ?_ hdarkening
    rintro ⟨given, heffect, -⟩
    cases heffect
  exact .single hpasses

/-- the bulb in the hall is on again, and the one in the attic stays off -/
theorem restore_after_save_hall :
    (∃ handle state, savingHall.scene.light? "1" = some (handle, state) ∧
      (restoringHall.left 7).light? "1" = some (handle, state)) ∧
    restoringHall.sent 7 "2" = [] ∧
    (againHall.left 7).light? "1" = againHall.scene.light? "1" ∧
    ∀ call ∈ againHall.sent 7 "1", ∀ isOn duration, call.request ≠ .power isOn duration := by
  obtain ⟨hsaving, -, hrestoring, hagain, hsaved, hrestored, -⟩ := hall_succeeds
  have hwords : lowerToken "Save" = "save" ∧ lowerToken "to" = "to" ∧
      lowerToken "restore" = "restore" ∧ lowerToken "FROM" = "from" := by decide +kernel
  have hnames : ∀ n ∈ ["Hall"], lowerToken n ≠ "to" ∧ lowerToken n ≠ "from" := by decide +kernel
  have hplain : readSpeed? (keeping "restore" ["Hall"] "FROM" (some "movie")) = none := by
    decide +kernel
  have hsave : compile (keeping "Save" ["Hall"] "to" (some "movie")) {} = .ok saveHall := by
    decide +kernel
  have hrestore : compile (keeping "restore" ["Hall"] "FROM" (some "movie")) {} = .ok restoreHall := by
    decide +kernel
  obtain ⟨saved, restored, hcompile, hcompile', htrips⟩ := restore_after_save (some "movie")
    hwords.1 hwords.2.1 hwords.2.2.1 hwords.2.2.2 hnames hplain {} {}
  obtain rfl := Except.ok.inj (hsave.symm.trans hcompile)
  obtain rfl := Except.ok.inj (hrestore.symm.trans hcompile')
  obtain ⟨hback, -, hspared, hagain'⟩ :=
    htrips savingHall restoringHall 8 7 rfl rfl hall_roundTrip
  have hone : "1" ∈ savingHall.matched 8 := by simp [hsaved]
  have hone' : "1" ∈ restoringHall.matched 7 := by simp [hrestored]
  refine ⟨hback "1" hone hone', hspared (List.ne_nil_of_mem hone) "2" (by simp [hsaved]), ?_⟩
  exact hagain' againHall 7 rfl rfl hagain "1" fun _ => hone'

end RoundTrip

end Lamplighter
