import Lamplighter.Proofs.Run.RoundTrip

/-!
# Namesakes: a restore tells bulbs apart by their names alone

* `IsLastOf`             the state that was captured last of the bulbs of a name;
* `Trial.Captured`       the states that a save has captured, each with its bulb, in the order of the
                         captures;
* `Succeeds.captured`    what a save has captured is what it leaves under its key and name;
* `restores_last_namesake`   every command of a restore carries what was captured last of a bulb of
                         the same name, which is the same bulb unless it has a namesake;
* `restore_mixes_twins`  and so two bulbs of one name are mixed up.
-/

namespace Lamplighter

open Snapshot (title)

/-- the last entry of a log whose state has the name of a bulb, up to the normal form of names -/
def IsLastOf (log : List (Handle × BulbState)) (name : String) (entry : Handle × BulbState) : Prop :=
  ∃ older newer, log = older ++ entry :: newer ∧ normalName entry.2.label = normalName name ∧
    ∀ later ∈ newer, normalName later.2.label ≠ normalName name

variable {log : List (Handle × BulbState)} {entry : Handle × BulbState} {serial word : String}

lemma IsLastOf.mem (h : IsLastOf log word entry) : entry ∈ log := by
  obtain ⟨older, newer, rfl, -⟩ := h
  exact List.mem_append_right _ (List.mem_cons_self ..)

/-- without a namesake the last of a name is the bulb itself -/
lemma IsLastOf.serial_eq (h : IsLastOf log word entry)
    (halone : ∀ other ∈ log, normalName other.2.label = normalName word → other.1.serial = serial) :
    entry.1.serial = serial := by
  have hmem := h.mem
  obtain ⟨older, newer, -, hname, -⟩ := h
  exact halone entry hmem hname

/-- what is found for a name among saved states was captured last of that name -/
lemma isLastOf_of_get? {kept : BulbState}
    (h : Assoc.get? (Saved.ofStates (log.map Prod.snd)) (normalName word) = some kept) :
    ∃ entry, IsLastOf log word entry ∧ entry.2 = kept := by
  obtain ⟨older, newer, hpairs, hnewer⟩ := Assoc.last_of_get?_ofList h
  rw [List.map_map] at hpairs
  obtain ⟨before, rest, rfl, rfl, hrest⟩ := List.map_eq_append_iff.mp hpairs
  obtain ⟨entry, after, rfl, hentry, rfl⟩ := List.map_eq_cons_iff.mp hrest
  obtain ⟨hname, rfl⟩ := Prod.mk.inj hentry
  refine ⟨entry, ⟨before, after, rfl, hname, ?_⟩, rfl⟩
  rw [List.forall_mem_map] at hnewer
  simp only [Function.comp_apply] at hnewer
  exact hnewer

namespace Trial

open Session (keptFor)

variable {trial : Trial} {n : Nat} {given name : Option String} {speed : Option Int}

/-! ### Captures -/

/-- what a save has captured, in the order of the captures: each state is that of the bulb that it
stands with, and each bulb that the save acted on is there once -/
structure Captured (trial : Trial) (n : Nat) (name : Option String)
    (log : List (Handle × BulbState)) : Prop where
  light : ∀ entry ∈ log, trial.scene.light? entry.1.serial = some entry
  distinct : (log.map fun entry => entry.1.serial).Nodup
  serials : ∀ serial, serial ∈ trial.matched n ↔ ∃ entry ∈ log, entry.1.serial = serial
  saved : log ≠ [] →
    (trial.left n).store.held trial.action.key name = some (log.map Prod.snd)

/-- what a save has captured is what it leaves under its key and name -/
theorem Succeeds.captured (h : trial.Succeeds n) (hsound : trial.store.IsSound)
    (heffect : trial.action.effect = .save given) (htitle : title given = title name) :
    ∃ log, trial.Captured n name log := by
  obtain ⟨log, hupshot⟩ := h.upshot hsound
  have hyield : ∀ handle state, (trial.yield handle state).kept = [state] := by
    intro handle state
    rw [yield, heffect]
    rfl
  have hkept : ∀ serial, keptFor log serial = [] ∨ ∃ state, keptFor log serial = [state] := by
    intro serial
    by_cases hmatched : serial ∈ trial.matched n
    · obtain ⟨handle, state, hlight⟩ := hupshot.exists_light hmatched
      rw [(hupshot.light_acted hmatched hlight).2.1, hyield]
      exact .inr ⟨state, rfl⟩
    · exact .inl (hupshot.light_spared hmatched).2.1
  refine ⟨log, ?_, ?_, ?_, ?_⟩
  · intro entry hmem
    obtain ⟨-, handle, state, hlight, hstate⟩ := hupshot.mem_log hmem
    rw [hyield, List.mem_singleton] at hstate
    obtain ⟨bulb, hbulb, heq⟩ := Option.map_eq_some_iff.mp hlight
    obtain ⟨rfl, rfl⟩ := Prod.mk.inj heq
    have hserial := Bench.serial_of_find? hbulb
    have hhandle := (h.isFit hsound).eq_handle (hserial ▸ hbulb) entry.1 (hupshot.known entry hmem)
      hserial.symm
    rw [hlight, ← hhandle, ← hstate]
  · refine List.nodup_iff_count_le_one.mpr ?_
    intro serial
    have hcount : (log.map fun entry => entry.1.serial).count serial
        = (keptFor log serial).length := by
      rw [keptFor, List.length_map, List.count, List.countP_map, List.countP_eq_length_filter]
      rfl
    rw [hcount]
    rcases hkept serial with hnone | ⟨state, hone⟩
    · rw [hnone]
      exact Nat.zero_le 1
    · rw [hone]
      exact Nat.le_refl 1
  · intro serial
    constructor
    · intro hmatched
      obtain ⟨handle, state, hlight⟩ := hupshot.exists_light hmatched
      have hstate : state ∈ keptFor log serial := by
        rw [(hupshot.light_acted hmatched hlight).2.1, hyield]
        exact List.mem_singleton.mpr rfl
      obtain ⟨entry, hentry, -⟩ := List.mem_map.mp hstate
      obtain ⟨hmem, hserial⟩ := List.mem_filter.mp hentry
      exact ⟨entry, hmem, beq_iff_eq.mp hserial⟩
    · rintro ⟨entry, hmem, rfl⟩
      exact (hupshot.mem_log hmem).1
  · intro hne
    exact (hupshot.held_left h.stored hsound trial.action.key name).2 hne
      ⟨given, heffect, rfl, htitle.symm⟩

/-- a restore sends a bulb nothing but what brings it to the state that was captured last of its name -/
theorem Succeeds.sent_last (h : trial.Succeeds n) (hsound : trial.store.IsSound)
    (heffect : trial.action.effect = .restore given speed)
    (hheld : trial.store.held trial.action.key given = some (log.map Prod.snd))
    (hsent : trial.sent n serial ≠ []) :
    ∃ handle before entry, trial.scene.light? serial = some (handle, before) ∧
      IsLastOf log handle.name entry ∧
      ∀ call ∈ trial.sent n serial, call.request ∈ Play.restoring entry.2 speed before := by
  obtain ⟨_, hupshot⟩ := h.upshot hsound
  have hmatched : serial ∈ trial.matched n := by
    by_contra hspared
    exact hsent (hupshot.light_spared hspared).2.2
  obtain ⟨handle, before, hlight⟩ := hupshot.exists_light hmatched
  have hrestored := hupshot.light_restored h.stored hsound heffect hmatched hlight
  cases hfound : trial.found given handle with
  | none =>
    rw [hfound] at hrestored
    exact absurd hrestored.2 hsent
  | some kept =>
    rw [hfound] at hrestored
    rw [found, hheld, Option.bind_some] at hfound
    obtain ⟨entry, hlast, rfl⟩ := isLastOf_of_get? hfound
    exact ⟨handle, before, entry, hlight, hlast, hrestored.2⟩

end Trial

/-- A sentence that saves and one that restores compile where they have the same names, none of them
a keyword, and the same name of a state, if any.  Where the save has captured something and this is what
the restore finds, whatever has become of the bulbs meanwhile, every command that the restore sends to
a bulb carries the values that were captured last of the bulbs of its name; these are its own where no
other bulb of that name was captured. -/
theorem restores_last_namesake {saveWord toWord restoreWord fromWord : String} {names : List String}
    (name : Option String) (hsave : lowerToken saveWord = "save") (hto : lowerToken toWord = "to")
    (hrestore : lowerToken restoreWord = "restore") (hfrom : lowerToken fromWord = "from")
    (hnames : ∀ n ∈ names, lowerToken n ≠ "to" ∧ lowerToken n ≠ "from")
    (settings settings' : Settings) :
    ∃ saved restored, compile (keeping saveWord names toWord name) settings = .ok saved ∧
      compile (keeping restoreWord names fromWord name) settings' = .ok restored ∧
      ∀ (saving restoring : Trial) (n m : Nat), saving.action = saved → restoring.action = restored →
        saving.store.IsSound → saving.Succeeds n → saving.matched n ≠ [] →
        restoring.store.IsSound → restoring.Succeeds m →
        restoring.store.held restored.key name = (saving.left n).store.held saved.key name →
        ∃ log, saving.Captured n name log ∧ ∀ serial, restoring.sent m serial ≠ [] →
          ∃ handle before entry, restoring.scene.light? serial = some (handle, before) ∧
            IsLastOf log handle.name entry ∧
            (∀ call ∈ restoring.sent m serial, call.request ∈ Play.restoring entry.2
              (readSpeed? (spoken (keeping restoreWord names fromWord name))) before) ∧
            ((∀ other ∈ log, normalName other.2.label = normalName handle.name →
              other.1.serial = serial) → entry.1.serial = serial) := by
  obtain ⟨saved, given, hcompile, hsaves, htitle, -⟩ :=
    compile_save name hsave hto (fun n hn => (hnames n hn).1) settings
  obtain ⟨restored, given', hcompile', hrestores, htitle', -⟩ :=
    compile_restore_speed name hrestore hfrom (fun n hn => (hnames n hn).2) settings'
  refine ⟨saved, restored, hcompile, hcompile', ?_⟩
  rintro saving restoring n m rfl rfl hsound hsaving hmatched hsound' hrestoring hheld
  obtain ⟨log, hcaptured⟩ := hsaving.captured hsound hsaves htitle
  have hne : log ≠ [] := by
    rintro rfl
    obtain ⟨serial, hserial⟩ := List.exists_mem_of_ne_nil _ hmatched
    obtain ⟨entry, hmem, -⟩ := (hcaptured.serials serial).mp hserial
    cases hmem
  refine ⟨log, hcaptured, fun serial hsent => ?_⟩
  have hfinds : restoring.store.held restoring.action.key given' = some (log.map Prod.snd) := by
    rw [Snapshot.Store.held_congr _ _ htitle', hheld, hcaptured.saved hne]
  obtain ⟨handle, before, entry, hlight, hlast, hcalls⟩ :=
    hrestoring.sent_last hsound' hrestores hfinds hsent
  exact ⟨handle, before, entry, hlight, hlast, hcalls, hlast.serial_eq⟩

namespace Namesakes

def saveAll : Action where
  command := "save all"
  effect := .save none
  targets := .all

def restoreAll : Action where
  command := "restore all"
  effect := .restore none none
  targets := .all

/-- one of the bulbs that have the same label -/
def twin (serial : String) (hue : Int) : BenchBulb where
  handle := { serial, label := "Lamp", host := "" }
  state := { label := "Lamp", power := powerOn, hue, saturation := 5, brightness := 6, kelvin := 7 }

def savingTwins : Trial where
  bench := { bulbs := [twin "1" 1000, twin "2" 2000], clients := [{}] }
  store := .connect []
  action := saveAll
  settings := {}
  client := 0
  audience := .nobody
  hasStore := true

def restoringTwins : Trial :=
  savingTwins.next 14 restoreAll

set_option maxRecDepth 100000 in
lemma twins_succeed : savingTwins.Succeeds 14 ∧ savingTwins.matched 14 = ["1", "2"] ∧
    restoringTwins.Succeeds 20 ∧ restoringTwins.sent 20 "1"
      = [⟨(twin "1" 1000).handle, .color 2000 5 6 7 0⟩] := by
  decide +kernel

/-- The save captures two bulbs of the same label, each label is also in the state, and nothing goes
wrong.  The restore behind it sends the first bulb the color of the second. -/
theorem restore_mixes_twins :
    compile ["save", "all"] {} = .ok saveAll ∧ compile ["restore", "all"] {} = .ok restoreAll ∧
      savingTwins.Succeeds 14 ∧ restoringTwins.Succeeds 20 ∧
      savingTwins.scene.light? "1" = some ((twin "1" 1000).handle, (twin "1" 1000).state) ∧
      "1" ∈ savingTwins.matched 14 ∧
      ∃ call ∈ restoringTwins.sent 20 "1", ∀ before,
        call.request ∉ Play.restoring (twin "1" 1000).state none before := by
  obtain ⟨hsaves, hmatched, hrestores, hsent⟩ := twins_succeed
  refine ⟨by decide +kernel, by decide +kernel, hsaves, hrestores, rfl, by simp [hmatched], ?_⟩
  rw [hsent]
  refine ⟨_, List.mem_cons_self .., ?_⟩
  intro before
  unfold Play.restoring
  split <;> simp [twin]

/-- the last capture of the two twins is what each of them is restored to -/
theorem restores_last_namesake_twins :
    savingTwins.Succeeds 14 ∧ restoringTwins.Succeeds 20 ∧
      ∃ log, savingTwins.Captured 14 none log ∧
        ∃ handle before entry, restoringTwins.scene.light? "1" = some (handle, before) ∧
          IsLastOf log handle.name entry ∧
          ∀ call ∈ restoringTwins.sent 20 "1", call.request ∈ Play.restoring entry.2 none before := by
  obtain ⟨hsaves, hmatched, hrestores, hsent⟩ := twins_succeed
  have hwords : lowerToken "save" = "save" ∧ lowerToken "to" = "to" ∧
      lowerToken "restore" = "restore" ∧ lowerToken "from" = "from" := by decide +kernel
  have hnames : ∀ n ∈ ["all"], lowerToken n ≠ "to" ∧ lowerToken n ≠ "from" := by decide +kernel
  have hsound : savingTwins.store.IsSound :=
    (Snapshot.Store.isSound_iff rfl rfl).mpr ⟨List.Pairwise.nil, [], rfl⟩
  have hsound' : restoringTwins.store.IsSound := by
    obtain ⟨log, hupshot⟩ := hsaves.upshot hsound
    exact hupshot.isSound_left hsaves.stored hsound
  have hcompiled : compile (keeping "save" ["all"] "to" none) {} = .ok saveAll := by decide +kernel
  have hcompiled' : compile (keeping "restore" ["all"] "from" none) {} = .ok restoreAll := by
    decide +kernel
  obtain ⟨saved, restored, hcompile, hcompile', htrips⟩ := restores_last_namesake none
    hwords.1 hwords.2.1 hwords.2.2.1 hwords.2.2.2 hnames {} {}
  obtain rfl := Except.ok.inj (hcompiled.symm.trans hcompile)
  obtain rfl := Except.ok.inj (hcompiled'.symm.trans hcompile')
  obtain ⟨log, hcaptured, hserial⟩ := htrips savingTwins restoringTwins 14 20 rfl rfl hsound hsaves
    (by simp [hmatched]) hsound' hrestores rfl
  obtain ⟨handle, before, entry, hlight, hlast, hcalls, -⟩ := hserial "1" (by simp [hsent])
  exact ⟨hsaves, hrestores, log, hcaptured, handle, before, entry, hlight, hlast, hcalls⟩

end Namesakes

end Lamplighter
