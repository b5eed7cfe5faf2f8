import Lamplighter.Proofs.Run.Tracking

/-!
# Yields: what an effect comes to when nothing goes wrong

* `Play.yield`        what a play comes to where every request is carried out: the state of the bulb,
                      the requests that it is sent, and the states that are kept;
* `Corner.Yields`     a corner has come to such a yield, without a fault;
* `Solo.Stands`       it has had a fault, or stands where the play has got to;
* `Comes.yields`      an errand that is over has had a fault, or has come to the yield of its play.
-/

set_option linter.unusedSectionVars false

namespace Lamplighter

/-! ### Plays -/

/-- a state of a bulb, the requests that led to it, and the states that were kept on the way -/
structure Yield where
  state : BulbState
  requests : List Request
  kept : List BulbState

/-- nothing was done -/
def Yield.still (state : BulbState) : Yield :=
  ⟨state, [], []⟩

/-- what a play comes to on a bulb in a state, where every request is carried out -/
def Play.yield : Play → BulbState → Yield
  | .done _, state => .still state
  | .ask next, state => (next state).yield state
  | .send request next, state =>
    let rest := (next .nothing).yield (BenchBulb.obey state request)
    { rest with requests := request :: rest.requests }
  | .report _ _ next, state => next.yield state
  | .keep kept next, state =>
    let rest := next.yield state
    { rest with kept := kept :: rest.kept }

/-- the commands that were sent, if there is a record of them; requests for the state are none -/
def Corner.commands (corner : Corner) : Option (List Call) :=
  corner.calls.map fun calls => calls.filter fun call => call.request != .read

/-- how the bulb is addressed and in which state it is -/
def Corner.light? (corner : Corner) : Option (Handle × BulbState) :=
  corner.bulb.map fun bulb => (bulb.handle, bulb.state)

/-- a corner has come to a yield: the bulb is in its state, it was sent its requests, and there was no
fault -/
structure Corner.Yields (before after : Corner) (handle : Handle) (yield : Yield) : Prop where
  bulb : ∃ bulb, after.bulb = some bulb ∧ bulb.state = yield.state ∧
    before.bulb.map BenchBulb.handle = some bulb.handle
  commands : after.commands
    = before.commands.map fun commands => commands ++ yield.requests.map (Call.mk handle)
  faults : after.faults = before.faults

namespace Corner.Yields

variable {before middle after : Corner} {handle : Handle} {bulb : BenchBulb} {yield : Yield}

lemma still (hbulb : ∃ bulb', after.bulb = some bulb' ∧ bulb'.state = bulb.state ∧
      bulb'.handle = bulb.handle) (hbefore : before.bulb = some bulb)
    (hcommands : after.commands = before.commands) (hfaults : after.faults = before.faults) :
    before.Yields after handle (.still bulb.state) := by
  obtain ⟨bulb', hafter, hstate, hhandle⟩ := hbulb
  refine ⟨⟨bulb', hafter, hstate, by rw [hbefore, hhandle]; rfl⟩, ?_, hfaults⟩
  rw [hcommands]
  cases before.commands <;> simp [Yield.still]

lemma refl (hbulb : before.bulb = some bulb) : before.Yields before handle (.still bulb.state) :=
  still ⟨bulb, hbulb, rfl, rfl⟩ hbulb rfl rfl

/-- nothing was done -/
lemma of_still (h : before.Yields after handle (.still bulb.state)) (hbefore : before.bulb = some bulb) :
    after.light? = before.light? ∧ after.commands = before.commands := by
  constructor
  · obtain ⟨bulb', hbulb', hstate, hhandle⟩ := h.bulb
    rw [hbefore, Option.map_some] at hhandle
    rw [Corner.light?, Corner.light?, hbulb', hbefore, Option.map_some, Option.map_some, hstate,
      Option.some.inj hhandle]
    rfl
  · rw [h.commands]
    cases before.commands <;> simp [Yield.still]

/-- after nothing was done, what is done counts -/
lemma trans_still {state : BulbState} (h : before.Yields middle handle (.still state))
    (h' : middle.Yields after handle yield) : before.Yields after handle yield := by
  obtain ⟨bulb, hbulb, hstate, hhandle⟩ := h'.bulb
  obtain ⟨bulb', hbulb', hstate', hhandle'⟩ := h.bulb
  refine ⟨⟨bulb, hbulb, hstate, ?_⟩, ?_, h'.faults.trans h.faults⟩
  · rw [hhandle', ← hhandle, hbulb']
    rfl
  · rw [h'.commands, h.commands]
    cases before.commands <;> simp [Yield.still]

end Corner.Yields

namespace Solo

variable {first solo solo' : Solo} {states more : List BulbState} {bulb : BenchBulb} {play : Play}
  {next : BulbState → Play} {retries : Nat} {handle : Handle} {state : BulbState}

/-! ### Requests -/

lemma requests_ne_read {request : Request} (h : request ≠ .read) (handle : Handle)
    (calls : Option (List Call)) :
    (calls.map fun calls => calls ++ [⟨handle, request⟩]).map
        (fun calls => calls.filter fun call : Call => call.request != .read)
      = (calls.map fun calls => calls.filter fun call : Call => call.request != .read).map
        fun calls => calls ++ [⟨handle, request⟩] := by
  cases calls with
  | none => rfl
  | some calls => simp [h]

/-- a command is carried out, or there is a fault -/
lemma request_cases (solo : Solo) (hbulb : solo.corner.bulb = some bulb) {request : Request}
    (hread : request ≠ .read) : (∃ fault, (solo.request request).2 = .error fault) ∨
      (solo.request request).2 = .ok .nothing ∧ (solo.request request).1.corner.faults
        = solo.corner.faults ∧
      (solo.request request).1.corner.commands
        = solo.corner.commands.map (· ++ [⟨solo.errand.handle, request⟩]) ∧
      ∃ bulb', (solo.request request).1.corner.bulb = some bulb' ∧
        bulb'.state = BenchBulb.obey bulb.state request ∧ bulb'.handle = bulb.handle := by
  have hanswer : ∀ script : List (Option Fault), (∃ fault, (BenchBulb.nextFault script).1 = .fault fault)
      ∨ (BenchBulb.nextFault script).1 = .ok := by
    intro script
    rcases script with _ | ⟨_ | fault, rest⟩
    · exact .inr rfl
    · exact .inr rfl
    · exact .inl ⟨fault, rfl⟩
  have hcommands := requests_ne_read hread solo.errand.handle solo.corner.calls
  unfold Solo.request Solo.send
  simp only [hbulb]
  cases request with
  | read => exact absurd rfl hread
  | power isOn duration =>
    rcases hanswer bulb.powerFaults with ⟨fault, hfault⟩ | hok
    · refine .inl ⟨fault, ?_⟩
      simp only [BenchBulb.take, hfault, settle]
    · refine .inr ?_
      simp only [BenchBulb.take, hok, settle, Bench.replyOf]
      exact ⟨trivial, trivial, hcommands, _, rfl, rfl, rfl⟩
  | color hue saturation brightness kelvin duration =>
    rcases hanswer bulb.colorFaults with ⟨fault, hfault⟩ | hok
    · refine .inl ⟨fault, ?_⟩
      simp only [BenchBulb.take, hfault, settle]
    · refine .inr ?_
      simp only [BenchBulb.take, hok, settle, Bench.replyOf]
      exact ⟨trivial, trivial, hcommands, _, rfl, rfl, rfl⟩
  | introduce =>
    refine .inr ?_
    simp only [BenchBulb.take, settle, Bench.replyOf]
    exact ⟨trivial, trivial, hcommands, _, rfl, rfl, rfl⟩

/-- a play comes to its yield, or there is a fault: by induction on what is left of it -/
theorem follow_yields (solo : Solo) (hbulb : solo.corner.bulb = some bulb) (hquick : play.IsQuick) :
    (solo.follow play).corner.faults ≠ [] ∨
      solo.corner.Yields (solo.follow play).corner solo.errand.handle (play.yield bulb.state) ∧
        solo.harvest play = (play.yield bulb.state).kept := by
  induction play generalizing solo bulb with
  | done reply => exact .inr ⟨.refl hbulb, rfl⟩
  | ask next => exact hquick.elim
  | keep state next ih =>
    refine (ih solo hbulb hquick).imp id ?_
    rintro ⟨⟨hstate, hcommands, hfaults⟩, hkept⟩
    exact ⟨⟨hstate, hcommands, hfaults⟩, congrArg (state :: ·) hkept⟩
  | report message data next ih => exact ih solo hbulb hquick
  | send request next ih =>
    rw [follow_send, harvest]
    rcases solo.request_cases hbulb hquick.1 with ⟨fault, hfault⟩ | ⟨hok, hfaults, hcommands, bulb', h⟩
    · rw [hfault]
      exact .inl (by simp [fail, note, conclude, setStage])
    · obtain ⟨hbulb', hstate, hhandle⟩ := h
      rw [hok]
      refine (ih .nothing (solo.request request).1 hbulb' (hquick.2 _)).imp id ?_
      rw [errand_request, hstate]
      rintro ⟨⟨⟨last, hlast, hyield, hsame⟩, hsent, hnone⟩, hkept⟩
      refine ⟨⟨⟨last, hlast, hyield, ?_⟩, ?_, hnone.trans hfaults⟩, hkept⟩
      · rw [hbulb, Option.map_some, ← hhandle, ← Option.map_some, ← hbulb']
        exact hsame
      · rw [hsent, hcommands]
        cases solo.corner.commands <;> simp [Play.yield]

/-! ### Requests for the state -/

lemma send_read (solo : Solo) (hbulb : solo.corner.bulb = some bulb) :
    solo.corner.Yields (solo.send .read).1.corner handle (.still bulb.state) := by
  unfold send
  simp only [hbulb]
  refine .still ⟨_, rfl, rfl, rfl⟩ hbulb ?_ rfl
  unfold Corner.commands
  cases solo.corner.calls <;> simp

/-- every answer has the state that the bulb is in -/
lemma settle_read (solo : Solo) (handle : Handle) (hbulb : solo.corner.bulb = some bulb) (answer : Answer) :
    solo.corner.Yields (solo.settle .read answer).1.corner handle (.still bulb.state) ∧
      ∀ answering found, (solo.settle .read answer).2 = .ok (.state answering found) →
        found = bulb.state := by
  unfold settle
  cases answer with
  | fault fault => exact ⟨.refl hbulb, fun _ _ h => by cases h⟩
  | impostor serial =>
    simp only [hbulb]
    refine ⟨.refl hbulb, fun answering found h => ?_⟩
    exact (Reply.state.inj (Except.ok.inj h)).2.symm
  | ok =>
    simp only [hbulb]
    refine ⟨.still ⟨_, rfl, rfl, rfl⟩ hbulb rfl rfl, fun answering found h => ?_⟩
    exact (Reply.state.inj (Except.ok.inj h)).2.symm

/-! ### Where an errand stands -/

/-- an errand has had a fault, or stands where its play has got to -/
def Stands (first : Solo) (play : Play) (state : BulbState) (states : List BulbState)
    (solo : Solo) : Prop :=
  solo.corner.faults ≠ [] ∨
    match solo.errand.stage with
    | .fresh rest => rest = play ∧ states = [] ∧
      first.corner.Yields solo.corner first.errand.handle (.still state)
    | .asking next _ => play = .ask next ∧ states = [] ∧
      first.corner.Yields solo.corner first.errand.handle (.still state)
    | .answered next _ result => play = .ask next ∧ states = [] ∧
      first.corner.Yields solo.corner first.errand.handle (.still state) ∧
      ∀ answering found, result = some (.ok (.state answering found)) → found = state
    | .sending _ => False
    | .over _ => states = (play.yield state).kept ∧
      first.corner.Yields solo.corner first.errand.handle (play.yield state)

lemma faults_send (solo : Solo) (request : Request) :
    (solo.send request).1.corner.faults = solo.corner.faults := by
  unfold send
  dsimp only
  split <;> rfl

lemma faults_settle (solo : Solo) (request : Request) (answer : Answer) :
    (solo.settle request answer).1.corner.faults = solo.corner.faults := by
  unfold settle
  split <;> rfl

lemma faults_request (solo : Solo) (request : Request) :
    (solo.request request).1.corner.faults = solo.corner.faults :=
  (faults_settle _ _ _).trans (faults_send solo request)

lemma prefix_of_same {faults faults' : List (Handle × Fault)} (h : faults' = faults) : faults <+: faults' :=
  ⟨[], by rw [List.append_nil, h]⟩

/-- what has gone wrong is never forgotten -/
lemma faults_follow (solo : Solo) (play : Play) :
    solo.corner.faults <+: (solo.follow play).corner.faults := by
  induction play generalizing solo with
  | done reply => exact List.prefix_rfl
  | ask next => exact prefix_of_same (congrArg Corner.faults (corner_ask solo next 0))
  | keep state next ih => exact ih solo
  | report message data next ih => exact ih solo
  | send request next ih =>
    have hsame := faults_request solo request
    rw [follow_send, ← hsame]
    split
    · exact ih _ _
    · exact List.prefix_append _ _

lemma Goes.faults (h : solo.Goes more solo') :
    solo.corner.faults <+: solo'.corner.faults := by
  cases h with
  | begin stage => exact faults_follow solo _
  | attempt stage =>
    rw [attempt_eq]
    split
    · exact prefix_of_same ((faults_settle _ _ _).trans (faults_send _ _))
    · exact prefix_of_same (faults_send _ _)
  | arrive answer stage => exact prefix_of_same (faults_settle _ _ _)
  | expire stage => exact List.prefix_rfl
  | take stage verdict => exact faults_follow solo _
  | again stage => exact prefix_of_same (congrArg Corner.faults (corner_ask solo _ _))
  | give fault stage => exact List.prefix_append _ _
  | stay => exact List.prefix_rfl

lemma stands_ask (h : first.corner.Yields solo.corner first.errand.handle (.still state)) :
    first.Stands (.ask next) state [] (solo.ask next retries) := by
  unfold ask
  split
  · exact .inr ⟨rfl, rfl, h, fun _ _ h => by cases h⟩
  · exact .inr ⟨rfl, rfl, h⟩

lemma stands_follow (hhandle : solo.errand.handle = first.errand.handle)
    (h : first.corner.Yields solo.corner first.errand.handle (.still state)) {rest : Play}
    (hquick : rest.IsQuick) (hrest : rest.yield state = play.yield state) :
    first.Stands play state (solo.harvest rest) (solo.follow rest) := by
  obtain ⟨bulb, hbulb, rfl, _⟩ := h.bulb
  refine (solo.follow_yields hbulb hquick).imp id ?_
  rintro ⟨hyields, hkept⟩
  obtain ⟨reply, hstage⟩ := solo.stage_follow hquick
  rw [hrest] at hyields hkept
  rw [hstage]
  exact ⟨hkept, h.trans_still (hhandle ▸ hyields)⟩

lemma stands_answered (hnext : play = .ask next)
    (h : first.corner.Yields solo.corner first.errand.handle (.still state)) (answer : Answer) :
    first.Stands play state [] (solo.arrive next retries answer) := by
  obtain ⟨bulb, hbulb, rfl, _⟩ := h.bulb
  obtain ⟨hyields, hfound⟩ := solo.settle_read first.errand.handle hbulb answer
  refine .inr ⟨hnext, rfl, h.trans_still hyields, fun answering found hresult => ?_⟩
  exact hfound answering found (Option.some.inj hresult)

/-- an errand stands somewhere after each of its steps -/
theorem Stands.goes (h : first.Stands play state states solo) (hplain : play.IsPlain)
    (hhandle : solo.errand.handle = first.errand.handle) (hgoes : solo.Goes more solo') :
    first.Stands play state (states ++ more) solo' := by
  rcases h with hfault | h
  · refine .inl fun hnone => hfault ?_
    have hprefix := hgoes.faults
    rw [hnone] at hprefix
    exact List.prefix_nil.mp hprefix
  cases hgoes with
  | begin stage =>
    simp only [stage] at h
    obtain ⟨rfl, rfl, hyields⟩ := h
    rename_i play
    cases play with
    | ask next => exact stands_ask hyields
    | _ => exact stands_follow hhandle hyields hplain rfl
  | @attempt next retries stage =>
    simp only [stage] at h
    obtain ⟨hnext, rfl, hyields⟩ := h
    obtain ⟨bulb, hbulb, hstate, _⟩ := hyields.bulb
    have hsent := hyields.trans_still (hstate ▸ solo.send_read hbulb)
    rw [attempt_eq]
    split
    · exact stands_answered hnext hsent _
    · refine .inr ?_
      rw [errand_send, stage]
      exact ⟨hnext, rfl, hsent⟩
  | arrive answer stage =>
    simp only [stage] at h
    obtain ⟨hnext, rfl, hyields⟩ := h
    exact stands_answered hnext hyields answer
  | expire stage =>
    simp only [stage] at h
    obtain ⟨hnext, rfl, hyields⟩ := h
    exact .inr ⟨hnext, rfl, hyields, fun _ _ h => by cases h⟩
  | take stage verdict =>
    simp only [stage] at h
    obtain ⟨rfl, rfl, hyields, hfound⟩ := h
    obtain ⟨answering, rfl, _⟩ := Query.judge_eq_take verdict
    obtain rfl := hfound answering _ rfl
    exact stands_follow hhandle hyields (hplain _) rfl
  | again stage =>
    simp only [stage] at h
    obtain ⟨rfl, rfl, hyields, _⟩ := h
    exact stands_ask hyields
  | give fault stage =>
    exact .inl (by simp [fail, note, conclude, setStage])
  | stay =>
    rw [List.append_nil]
    exact .inr h

/-- where an errand has come to: by induction on its steps -/
theorem Comes.stands (h : first.Comes states solo) (hstage : first.errand.stage = .fresh play)
    (hplain : play.IsPlain) (hbulb : first.corner.bulb = some bulb) :
    first.Stands play bulb.state states solo := by
  induction h with
  | start =>
    refine .inr ?_
    rw [hstage]
    exact ⟨rfl, rfl, .refl hbulb⟩
  | step comes goes ih =>
    obtain ⟨stage, herrand⟩ := comes.continues
    exact ih.goes hplain (by rw [herrand]) goes

/-- an errand that is over without a fault has come to the yield of its play -/
theorem Comes.yields (h : first.Comes states solo) (hstage : first.errand.stage = .fresh play)
    (hplain : play.IsPlain) (hbulb : first.corner.bulb = some bulb)
    {outcome : Except Fault Reply} (hover : solo.errand.stage = .over outcome)
    (hwell : solo.corner.faults = []) :
    states = (play.yield bulb.state).kept ∧
      first.corner.Yields solo.corner first.errand.handle (play.yield bulb.state) := by
  rcases h.stands hstage hplain hbulb with hfault | hstands
  · exact absurd hwell hfault
  · simpa only [hover] using hstands

end Solo

end Lamplighter
