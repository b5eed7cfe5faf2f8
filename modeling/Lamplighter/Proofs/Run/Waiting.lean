import Lamplighter.Proofs.Run.Queue
import Lamplighter.Proofs.Run.Touches
import Lamplighter.Proofs.Snapshot.Table

/-!
# Waiting: what others do leaves a run alone that has not begun

* `Session.Untouched`   nothing is under way for the runs from so many on, but that they ask for their
                        turn, or are about to get it;
* `Touches.untouched`   so it stays whatever is done by the runs before them, and they stay as they are;
* `Untouched.awaits`    a run that gets its turn has not started, and nothing is under way for it;
* `Touches.line`        cues about turns keep their places in the line of the agenda;
* `Touches.network`     what is true of a network whatever it is asked for stays true;
* `Touches.contacts`    what the network was asked for stays on record.
-/

set_option linter.unusedSectionVars false

namespace Lamplighter

/-- what is true of a network stays true, whatever it is asked for -/
structure Network.Preserves {ν : Type} [Network ν] (p : ν → Prop) : Prop where
  send : ∀ network client handle request, p network →
    p (Network.send network client handle request).1
  settle : ∀ network client handle request answer, p network →
    p (Network.settle network client handle request answer).1
  start : ∀ network client, p network → p (Network.start network client).1
  stop : ∀ network client, p network → p (Network.stop network client)
  signal : ∀ network signal, p network → p (Network.signal network signal).1

namespace Cue

/-- the cue is for no run from so many on, unless it is about a turn -/
def IsBefore (cue : Cue) (begun : Nat) : Prop :=
  ∀ q, cue.runOf? = some q → q < begun ∨ cue.turnOf? = some q

lemma runOf?_of_concerns {cue : Cue} {r : Nat} (h : cue.concerns r = true) :
    cue.runOf? = some r := by
  cases cue with
  | drained q fault => cases fault <;> simp_all [concerns, isWakeOf, isCalmOf, isHaltOf, isEntryOf, runOf?]
  | _ => simp_all [concerns, isWakeOf, isCalmOf, isHaltOf, isEntryOf, runOf?]

lemma turnOf?_cases {cue : Cue} {r : Nat} (h : cue.turnOf? = some r) :
    cue.enters? = some r ∨ cue.takes? = some r := by
  cases cue <;> simp_all [turnOf?, enters?, takes?]

end Cue

namespace Session

variable {ν : Type} {s t u : Session ν} {r q e begun : Nat} {who : Option Nat} {errand : Errand}
  {run : Run} {cue : Cue} {agenda : Agenda Cue}

/-! ### Runs that have not begun -/

/-- nothing is under way for the runs from so many on, but for their turns -/
structure Untouched (s : Session ν) (begun : Nat) : Prop where
  errands : ∀ errand ∈ s.errands, ∃ q < begun, errand.run = some q
  listeners : ∀ listener ∈ s.listeners, ∃ q < begun, listener.2 = .run q
  cues : ∀ cue ∈ s.agenda.cues, cue.IsBefore begun
  retired : ∀ e, .retire e ∈ s.agenda.cues → e < s.errands.length

namespace Untouched

/-- errands, listeners and cues are kept -/
lemma of_parts (h : s.Untouched begun) (herrands : t.errands = s.errands)
    (hlisteners : ∀ listener ∈ t.listeners, listener ∈ s.listeners ∨ ∃ q < begun, listener.2 = .run q)
    (hcues : ∀ cue ∈ t.agenda.cues, cue ∈ s.agenda.cues ∨
      cue.IsBefore begun ∧ ∀ e, cue = .retire e → e < s.errands.length) : t.Untouched begun := by
  refine ⟨herrands ▸ h.errands, ?_, ?_, ?_⟩
  · intro listener hmem
    exact (hlisteners listener hmem).elim (h.listeners listener) id
  · intro cue hmem
    exact (hcues cue hmem).elim (h.cues cue) And.left
  · intro e hmem
    rw [herrands]
    exact (hcues _ hmem).elim (h.retired e) fun hnew => hnew.2 e rfl

lemma of_same (h : s.Untouched begun) (herrands : t.errands = s.errands)
    (hlisteners : t.listeners = s.listeners) (hagenda : t.agenda = s.agenda) : t.Untouched begun :=
  h.of_parts herrands (fun _ hmem => .inl (hlisteners ▸ hmem)) fun _ hmem => .inl (hagenda ▸ hmem)

/-- a cue is set, or not -/
lemma set (h : s.Untouched begun)
    (hcues : agenda.cues.Perm s.agenda.cues ∨ agenda.cues.Perm (cue :: s.agenda.cues))
    (hcue : cue.IsBefore begun) (hretire : ∀ e, cue = .retire e → e < s.errands.length) :
    ({ s with agenda } : Session ν).Untouched begun := by
  refine h.of_parts rfl (fun _ => .inl) fun cue' hmem => ?_
  rcases hcues with hsame | hmore
  · exact .inl (hsame.mem_iff.mp hmem)
  · rcases List.mem_cons.mp (hmore.mem_iff.mp hmem) with rfl | hold
    · exact .inr ⟨hcue, hretire⟩
    · exact .inl hold

lemma soon (h : s.Untouched begun) (turns : Nat) (hcue : cue.IsBefore begun)
    (hretire : ∀ e, cue ≠ .retire e) : (s.soon turns cue).Untouched begun :=
  h.set (.inr (s.agenda.cues_soon turns cue)) hcue fun e he => absurd he (hretire e)

lemma drop (h : s.Untouched begun) (unwanted : Cue → Bool) :
    ({ s with agenda := s.agenda.drop unwanted } : Session ν).Untouched begun := by
  refine h.of_parts rfl (fun _ => .inl) fun cue hmem => .inl ?_
  have hmem : cue ∈ (s.agenda.drop unwanted).cues := hmem
  rw [Agenda.cues_drop] at hmem
  exact (List.mem_filter.mp hmem).1

lemma modifyErrand (h : s.Untouched begun) (e : Nat) {change : Errand → Errand}
    (hrun : ∀ errand, (change errand).run = errand.run) :
    (s.modifyErrand e change).Untouched begun := by
  refine ⟨fun errand hmem => ?_, h.listeners, h.cues, fun e' hmem => ?_⟩
  · obtain ⟨i, hi⟩ := List.getElem?_of_mem hmem
    have hi : (s.errands.modify e change)[i]? = some errand := hi
    rw [List.getElem?_modify] at hi
    obtain ⟨old, hold, rfl⟩ := Option.map_eq_some_iff.mp hi
    obtain ⟨q, hq, howner⟩ := h.errands old (List.mem_of_getElem? hold)
    refine ⟨q, hq, ?_⟩
    split
    · exact (hrun old).trans howner
    · exact howner
  · show e' < (s.errands.modify e change).length
    rw [List.length_modify]
    exact h.retired e' hmem

lemma post (h : s.Untouched begun) (hq : q < begun) (message : Message) :
    (s.post q message).Untouched begun ∧ ∀ r, begun ≤ r → (s.post q message).runs[r]? = s.runs[r]? := by
  have hposted : (s.posting q message).Untouched begun := h.of_same rfl rfl rfl
  have hruns : ∀ r, begun ≤ r → (s.posting q message).runs[r]? = s.runs[r]? :=
    fun r hr => runs_modifyRun_ne (by omega) _
  cases s.post_course q message with
  | absent _ result =>
    rw [result]
    exact ⟨h, fun _ _ => rfl⟩
  | wakes _ _ result =>
    rw [result]
    refine ⟨hposted.soon 0 (fun q' hq' => .inl ?_) (by simp), hruns⟩
    exact Option.some.inj hq' ▸ hq
  | queued _ _ result =>
    rw [result]
    exact ⟨hposted, hruns⟩

lemma hear (h : s.Untouched begun) (client : Nat) (handle : Handle) :
    (s.hear client handle).Untouched begun ∧
      ∀ r, begun ≤ r → (s.hear client handle).runs[r]? = s.runs[r]? := by
  have hlater : ∀ {q : Nat}, Assoc.get? s.listeners client = some (.run q) → q < begun := by
    intro q hlistens
    obtain ⟨q', hq, heq⟩ := h.listeners _ (Assoc.mem_of_get? hlistens)
    obtain rfl : q = q' := Listener.run.inj heq
    exact hq
  have hnoticed : ∀ (q : Nat) (control : Control), (s.noticing q handle control).Untouched begun :=
    fun _ _ => h.of_same rfl rfl rfl
  have hruns : ∀ {q : Nat} (control : Control), q < begun → ∀ r, begun ≤ r →
      (s.noticing q handle control).runs[r]? = s.runs[r]? :=
    fun _ hq r hr => runs_modifyRun_ne (by omega) _
  cases s.hear_course client handle with
  | nobody result =>
    rw [result]
    exact ⟨h, fun _ _ => rfl⟩
  | listed result =>
    rw [result]
    exact ⟨h.of_same rfl rfl rfl, fun _ _ => rfl⟩
  | known listens _ _ result =>
    rw [result]
    exact ⟨hnoticed _ _, hruns _ (hlater listens)⟩
  | first listens _ _ result =>
    rw [result]
    obtain ⟨hposted, hsame⟩ := (hnoticed _ _).post (hlater listens) (.seen handle)
    exact ⟨hposted, fun r hr => (hsame r hr).trans (hruns _ (hlater listens) r hr)⟩

end Untouched

/-- what a run tells leaves errands, listeners and cues as they are -/
lemma emit_same (s : Session ν) (q : Nat) (kind : EventKind) (message : String)
    (device : Option String) (data : Option Json) :
    let t := (s.emit q kind message device data).1
    t.errands = s.errands ∧ t.listeners = s.listeners ∧ t.agenda = s.agenda ∧ t.network = s.network ∧
      ∀ r, q ≠ r → t.runs[r]? = s.runs[r]? := by
  obtain ⟨_, _, _, -, htold⟩ := s.emit_frame q kind message device data
  rw [htold]
  exact ⟨rfl, rfl, rfl, rfl, fun _ hq => runs_modifyRun_ne hq _⟩

variable [Network ν]

/-- one thing that is done by a run that has begun -/
theorem Touch.untouched (h : Touch who s t) (hs : s.Untouched begun)
    (hwho : ∀ q, who = some q → q < begun) :
    t.Untouched begun ∧ ∀ r, begun ≤ r → t.runs[r]? = s.runs[r]? := by
  have hne : ∀ {q r : Nat}, who = some q → begun ≤ r → q ≠ r := by
    intro q r hq hr
    have := hwho q hq
    omega
  cases h with
  | change change mine told =>
    exact ⟨hs.of_same rfl rfl rfl, fun r hr => runs_modifyRun_ne (hne mine hr) _⟩
  | @emit q kind message device data mine =>
    obtain ⟨herrands, hlisteners, hagenda, -, hruns⟩ := emit_same s q kind message device data
    exact ⟨hs.of_same herrands hlisteners hagenda, fun r hr => hruns r (hne mine hr)⟩
  | @stroke _ e errand own mine stroke =>
    obtain ⟨old, he, hold⟩ := own
    have hlt := (List.getElem?_eq_some_iff.mp he).1
    have hset : ∀ {cue : Cue}, cue.isSetFor e errand →
        cue.IsBefore begun ∧ ∀ i, cue = .retire i → i < s.errands.length := by
      intro cue hcue
      rcases hcue with hawaited | rfl | ⟨q, hq, rfl | ⟨fault, rfl⟩⟩
      · cases cue <;> simp only [Cue.isAwaitedBy, Bool.false_eq_true] at hawaited
        all_goals exact ⟨fun q hq => (by cases hq), fun i hi => (by cases hi)⟩
      · refine ⟨fun q hq => (by cases hq), fun i hi => ?_⟩
        obtain rfl := Cue.retire.inj hi
        exact hlt
      · exact ⟨fun q' hq' => .inl (Option.some.inj hq' ▸ hwho q (mine.symm.trans hq)),
          fun i hi => by cases hi⟩
      · exact ⟨fun q' hq' => .inl (Option.some.inj hq' ▸ hwho q (mine.symm.trans hq)),
          fun i hi => by cases hi⟩
    cases stroke with
    | stage stage => exact ⟨hs.modifyErrand e fun _ => rfl, fun _ _ => rfl⟩
    | drop => exact ⟨hs.drop _, fun _ _ => rfl⟩
    | soon turns cue whose =>
      exact ⟨hs.set (.inr (s.agenda.cues_soon turns cue)) (hset whose).1 (hset whose).2,
        fun _ _ => rfl⟩
    | after duration turns cue whose =>
      exact ⟨hs.set (Agenda.cues_after _ duration turns cue) (hset whose).1 (hset whose).2,
        fun _ _ => rfl⟩
    | pause duration cue whose =>
      exact ⟨hs.set (Agenda.cues_pause _ duration cue) (hset whose).1 (hset whose).2, fun _ _ => rfl⟩
    | change whose change core told =>
      exact ⟨hs.of_same rfl rfl rfl, fun r hr =>
        runs_modifyRun_ne (hne (mine.symm.trans whose) hr) _⟩
    | @emit q whose kind kind_eq message data =>
      obtain ⟨herrands, hlisteners, hagenda, -, hruns⟩ :=
        emit_same s q kind message (some errand.handle.name) data
      exact ⟨hs.of_same herrands hlisteners hagenda,
        fun r hr => hruns r (hne (mine.symm.trans whose) hr)⟩
    | send | settle => exact ⟨hs.of_same rfl rfl rfl, fun _ _ => rfl⟩
    | hear handle => exact hs.hear _ handle
  | @dispatch q errand mine own =>
    refine ⟨⟨fun errand' hmem => ?_, hs.listeners, hs.cues, fun e hmem => ?_⟩, fun _ _ => rfl⟩
    · rcases List.mem_append.mp hmem with hold | hnew
      · exact hs.errands errand' hold
      · exact ⟨q, hwho q mine, List.mem_singleton.mp hnew ▸ own⟩
    · show e < (s.errands ++ [errand]).length
      rw [List.length_append]
      exact Nat.lt_add_right _ (hs.retired e hmem)
  | @soon q turns cue mine set =>
    have hq := hwho q mine
    refine ⟨hs.soon turns (fun q' hq' => ?_) (by rintro e rfl; exact set), fun _ _ => rfl⟩
    cases cue <;> cases hq'
    all_goals first
      | exact .inl (set ▸ hq)
      | exact .inr rfl
      | exact absurd set id
  | @wind q duration mine =>
    exact ⟨hs.set (Agenda.cues_pause _ duration (Cue.tick q))
      (fun q' hq' => .inl (Option.some.inj hq' ▸ hwho q mine)) (fun e he => by cases he),
      fun _ _ => rfl⟩
  | unwind mine => exact ⟨hs.drop _, fun _ _ => rfl⟩
  | start | file | wait | signal | ring => exact ⟨hs.of_same rfl rfl rfl, fun _ _ => rfl⟩
  | @listen q client mine =>
    refine ⟨hs.of_parts rfl (fun listener hmem => ?_) (fun _ => .inl), fun _ _ => rfl⟩
    rcases Assoc.mem_put hmem with rfl | hold
    · exact .inr ⟨q, hwho q mine, rfl⟩
    · exact .inl hold
  | unlisten client mine =>
    exact ⟨hs.of_parts rfl (fun _ hmem => .inl (List.mem_filter.mp hmem).1) (fun _ => .inl),
      fun _ _ => rfl⟩
  | hear client handle => exact hs.hear client handle
  | expect signal =>
    have hsignal : ∀ signal, (Cue.signal signal).IsBefore begun := fun signal q hq => by cases hq
    refine ⟨?_, fun _ _ => by unfold Session.expect; split <;> rfl⟩
    unfold Session.expect
    split
    · exact hs.soon 0 (hsignal _) (by simp)
    · exact hs.set (Agenda.cues_after ..) (hsignal _) (by simp)
    · exact hs.set (Agenda.cues_pause ..) (hsignal _) (by simp)
  | retire e => exact ⟨hs.modifyErrand e fun _ => rfl, fun _ _ => rfl⟩

/-- whatever is done by a run that has begun -/
theorem Touches.untouched (h : Touches who s t) (hs : s.Untouched begun)
    (hwho : ∀ q, who = some q → q < begun) :
    t.Untouched begun ∧ ∀ r, begun ≤ r → t.runs[r]? = s.runs[r]? := by
  induction h with
  | refl => exact ⟨hs, fun _ _ => rfl⟩
  | tail _ htouch ih =>
    obtain ⟨hstill, hruns⟩ := htouch.untouched ih.1 hwho
    exact ⟨hstill, fun r hr => (hruns r hr).trans (ih.2 r hr)⟩

/-! ### The line of the agenda -/

/-- cues about turns keep their places in the line, and what is set comes behind it -/
def KeepsLine (line line' : List (Pending Cue)) : Prop :=
  ∃ kept more, line' = line.filter kept ++ more ∧
    ∀ entry, entry.cue.turnOf?.isSome = true → kept entry = true

namespace KeepsLine

variable {line line' line'' : List (Pending Cue)}

lemma refl (line : List (Pending Cue)) : KeepsLine line line :=
  ⟨fun _ => true, [], by simp, fun _ _ => rfl⟩

lemma append (line more : List (Pending Cue)) : KeepsLine line (line ++ more) :=
  ⟨fun _ => true, more, by simp, fun _ _ => rfl⟩

lemma trans (h : KeepsLine line line') (h' : KeepsLine line' line'') : KeepsLine line line'' := by
  obtain ⟨kept, more, rfl, hkept⟩ := h
  obtain ⟨kept', more', rfl, hkept'⟩ := h'
  refine ⟨fun entry => kept' entry && kept entry, more.filter kept' ++ more', ?_, fun entry hturn => ?_⟩
  · rw [List.filter_append, List.filter_filter, List.append_assoc]
  · show (kept' entry && kept entry) = true
    rw [hkept entry hturn, hkept' entry hturn]
    rfl

lemma soon (agenda : Agenda Cue) (turns : Nat) (cue : Cue) :
    KeepsLine agenda.line (agenda.soon turns cue).line :=
  append ..

lemma after (agenda : Agenda Cue) (duration : Duration) (turns : Nat) (cue : Cue) :
    KeepsLine agenda.line (agenda.after duration turns cue).line := by
  unfold Agenda.after
  split <;> exact refl _

lemma pause (agenda : Agenda Cue) (duration : Duration) (cue : Cue) :
    KeepsLine agenda.line (agenda.pause duration cue).line := by
  unfold Agenda.pause
  split
  · exact soon ..
  · exact after ..

lemma drop (agenda : Agenda Cue) {unwanted : Cue → Bool}
    (h : ∀ cue, unwanted cue = true → cue.turnOf? = none) :
    KeepsLine agenda.line (agenda.drop unwanted).line := by
  refine ⟨fun entry => !unwanted entry.cue, [], (List.append_nil _).symm, fun entry hturn => ?_⟩
  cases hunwanted : unwanted entry.cue with
  | false => simp [hunwanted]
  | true =>
    rw [h entry.cue hunwanted] at hturn
    cases hturn

/-- a cue about a turn is still there, and comes nearer if anything -/
lemma ahead_le (h : KeepsLine line line') {wanted : Cue → Bool}
    (hturn : ∀ cue, wanted cue = true → cue.turnOf?.isSome = true)
    (hmem : ∃ entry ∈ line, wanted entry.cue = true) :
    (∃ entry ∈ line', wanted entry.cue = true) ∧
      Agenda.ahead wanted line' ≤ Agenda.ahead wanted line := by
  obtain ⟨kept, more, rfl, hkept⟩ := h
  obtain ⟨entry, hentry, hwanted⟩ := hmem
  have hthere : ∃ entry ∈ line.filter kept, wanted entry.cue = true :=
    ⟨entry, List.mem_filter.mpr ⟨hentry, hkept entry (hturn _ hwanted)⟩, hwanted⟩
  refine ⟨?_, ?_⟩
  · obtain ⟨entry, hentry, hwanted⟩ := hthere
    exact ⟨entry, List.mem_append_left _ hentry, hwanted⟩
  · unfold Agenda.ahead
    rw [List.findIdx_append, if_pos (List.findIdx_lt_length_of_exists hthere)]
    clear hthere
    induction line with
    | nil => cases hentry
    | cons first rest ih =>
      by_cases hfirst : wanted first.cue = true
      · rw [List.filter_cons_of_pos (hkept first (hturn _ hfirst))]
        simp [List.findIdx_cons, hfirst]
      · have hrest : entry ∈ rest := by
          rcases List.mem_cons.mp hentry with rfl | hrest
          · exact absurd hwanted hfirst
          · exact hrest
        have hle := ih hrest
        rw [List.filter_cons]
        split
        · simp only [List.findIdx_cons, hfirst, cond_false]
          omega
        · simp only [List.findIdx_cons, hfirst, cond_false]
          omega

end KeepsLine

lemma keepsLine_hear (s : Session ν) (client : Nat) (handle : Handle) :
    KeepsLine s.agenda.line (s.hear client handle).agenda.line := by
  refine hear_induction (p := fun t => KeepsLine s.agenda.line t.agenda.line) (.refl _)
    (fun _ => .refl _) (fun _ _ => .refl _) fun t q ht => ht.trans ?_
  cases t.post_course q (.seen handle) with
  | absent _ result =>
    rw [result]
    exact .refl _
  | wakes _ _ result =>
    rw [result]
    exact .soon ..
  | queued _ _ result =>
    rw [result]
    exact .refl _

lemma keepsLine_expect (s : Session ν) (signal : Wait × Signal) :
    KeepsLine s.agenda.line (s.expect signal).agenda.line := by
  unfold Session.expect
  split
  · exact .soon ..
  · exact .after ..
  · exact .pause ..

/-- one thing that is done -/
theorem Touch.line (h : Touch who s t) : KeepsLine s.agenda.line t.agenda.line := by
  have hemit : ∀ (s : Session ν) (q : Nat) (kind : EventKind) (message : String)
      (device : Option String) (data : Option Json),
      KeepsLine s.agenda.line (s.emit q kind message device data).1.agenda.line := by
    intro s q kind message device data
    rw [(emit_same s q kind message device data).2.2.1]
    exact .refl _
  cases h with
  | emit kind message device data mine => exact hemit ..
  | stroke own mine stroke =>
    cases stroke with
    | drop => exact .drop _ fun cue hcue => by cases cue <;> first | rfl | cases hcue
    | soon => exact .soon ..
    | after => exact .after ..
    | pause => exact .pause ..
    | emit => exact hemit ..
    | hear handle => exact keepsLine_hear ..
    | _ => exact .refl _
  | soon => exact .soon ..
  | wind => exact .pause ..
  | unwind mine => exact .drop _ fun cue hcue => by cases cue <;> first | rfl | cases hcue
  | hear client handle => exact keepsLine_hear ..
  | expect signal => exact keepsLine_expect ..
  | _ => exact .refl _

/-- whatever is done -/
theorem Touches.line (h : Touches who s t) : KeepsLine s.agenda.line t.agenda.line := by
  induction h with
  | refl => exact .refl _
  | tail _ htouch ih => exact ih.trans htouch.line

/-! ### The network -/

lemma network_hear (s : Session ν) (client : Nat) (handle : Handle) :
    (s.hear client handle).network = s.network := by
  refine hear_induction (p := fun t => t.network = s.network) rfl (fun _ => rfl) (fun _ _ => rfl)
    fun t q ht => ?_
  obtain ⟨agenda, hposted⟩ := t.post_frame q (.seen handle)
  rw [hposted]
  exact ht

lemma network_hearAll (s : Session ν) (client : Nat) (handles : List Handle) :
    (s.hearAll client handles).network = s.network :=
  hearAll_induction (p := fun t => t.network = s.network) rfl fun t handle _ =>
    (network_hear t client handle).trans

/-- what is true of a network stays true, whatever is asked of it -/
theorem Touches.network {p : ν → Prop} (hp : Network.Preserves p) (h : Touches who s t)
    (hs : p s.network) : p t.network := by
  have hsame : ∀ {s t : Session ν}, t.network = s.network → p s.network → p t.network :=
    fun heq hs => heq ▸ hs
  induction h with
  | refl => exact hs
  | tail _ htouch ih =>
    cases htouch with
    | emit kind message device data mine => exact hsame (emit_same ..).2.2.2.1 ih
    | stroke own mine stroke =>
      cases stroke with
      | emit => exact hsame (emit_same ..).2.2.2.1 ih
      | hear handle => exact hsame (network_hear ..) ih
      | send request => exact hp.send _ _ _ _ ih
      | settle request answer => exact hp.settle _ _ _ _ _ ih
      | _ => exact ih
    | start client => exact hp.start _ client ih
    | unlisten client => exact hp.stop _ client ih
    | signal signal => exact hp.signal _ signal ih
    | hear client handle => exact hsame (network_hear ..) ih
    | expect signal =>
      refine hsame ?_ ih
      unfold Session.expect
      split <;> rfl
    | _ => exact ih

end Session

namespace Session

variable {ν : Type} [Network ν] {s t : Session (Recorded ν)} {begun : Nat} {who : Option Nat}
  {run : Run}

/-! ### What is on record -/

/-- what the network was asked for stays on record -/
theorem Touches.contacts (h : Touches who s t) : s.network.contacts <+: t.network.contacts := by
  refine h.network (p := fun network => s.network.contacts <+: network.contacts) ⟨?_, ?_, ?_, ?_, ?_⟩
    List.prefix_rfl
  · exact fun network client handle request hold => hold.trans ⟨_, rfl⟩
  · exact fun network client handle request answer hold => hold
  · exact fun network client hold => hold.trans ⟨_, rfl⟩
  · exact fun network client hold => hold.trans ⟨_, rfl⟩
  · exact fun network signal hold => hold

/-! ### Getting the turn -/

/-- a run that gets its turn has not started, and nothing is under way for it -/
theorem Untouched.awaits (h : s.Untouched begun) (hqueued : s.backdrop.Queued (begun + 1))
    (hget : s.runs[begun]? = some run) (hfresh : ∃ action settings client audience hasStore,
      run = Run.ofAction action settings client audience hasStore) : s.Awaits begun run := by
  have hout : ∀ q, q ∈ s.line ++ Agenda.picks Cue.enters? s.backdrop.cues.line → q ≠ begun := by
    intro q hmem
    have hmem : q ∈ s.backdrop.line ++ Agenda.picks Cue.enters? s.backdrop.cues.line := hmem
    rw [hqueued.waiting] at hmem
    have hle := (List.mem_range'_1.mp hmem).1
    omega
  have hprompt := prompt_backdrop.mp hqueued.prompt
  refine ⟨hget, hfresh, fun errand hmem hrun => ?_, fun cue hmem => ?_, fun hmem => ?_, h.retired⟩
  · obtain ⟨q, hq, howner⟩ := h.errands errand hmem
    obtain rfl := Option.some.inj (hrun.symm.trans howner)
    exact Nat.lt_irrefl _ hq
  · refine Bool.eq_false_iff.mpr fun hconcerns => ?_
    have hturn : cue.turnOf? = some begun :=
      (h.cues cue hmem begun (Cue.runOf?_of_concerns hconcerns)).resolve_left (Nat.lt_irrefl _)
    rcases List.mem_append.mp hmem with hline | htimer
    · obtain ⟨entry, hentry, rfl⟩ := List.mem_map.mp hline
      rcases Cue.turnOf?_cases hturn with henters | htakes
      · refine hout begun (List.mem_append_right _ ?_) rfl
        rw [picks_backdrop fun cue hcue => enters?_eq_none (turnOf?_eq_none hcue)]
        exact List.mem_filterMap.mpr ⟨entry, hentry, henters⟩
      · have hmem : begun ∈ Agenda.picks Cue.takes? s.backdrop.cues.line := by
          rw [picks_backdrop fun cue hcue => takes?_eq_none (turnOf?_eq_none hcue)]
          exact List.mem_filterMap.mpr ⟨entry, hentry, htakes⟩
        rw [hqueued.taking] at hmem
        split at hmem
        · have hfirst : begun ∈ s.line.head? := Option.mem_toList.mp hmem
          exact hout begun (List.mem_append_left _ (List.mem_of_mem_head? hfirst)) rfl
        · cases hmem
    · obtain ⟨timer, hthere, rfl⟩ := List.mem_map.mp htimer
      rw [hprompt.timers timer hthere] at hturn
      cases hturn
  · exact hout begun (List.mem_append_left _ hmem) rfl

end Session

end Lamplighter
