import Mathlib.Data.List.DropRight
import Mathlib.Data.List.Infix
import Mathlib.Data.List.Induction
import Mathlib.Tactic.Lemma
import Lamplighter.Event.Hub

/-!
# Windows: what waits for a subscriber

* `Hub.Op`, `Hub.after`        the operations of a hub, and the hub after some of them;
* `Hub.received`               what the drains of one subscriber hand out;
* `Hub.history`                what concerns one subscriber: events, its leaving and its drains;
* `Hub.awaited`                the events of a history that are not drained yet;
* `subscriptions_after`        the state of a subscriber as a function of its own history;
* `received_eq_parcels`        and so is all it receives;
* `window_of_history`          a queue is the window of the latest events awaited, and who drains in
                               time misses nothing.
-/

namespace Lamplighter.Hub

variable {ε : Type} {m : Int} {p : Nat}

/-! ### Operations -/

/-- what may be done with a hub -/
inductive Op (ε : Type) where
  | subscribe
  | unsubscribe (place : Nat)
  | publish (event : ε)
  | drain (place : Nat)
  deriving DecidableEq

def perform (hub : Hub ε) : Op ε → Hub ε
  | .subscribe => hub.subscribe.1
  | .unsubscribe place => hub.unsubscribe place
  | .publish event => hub.publish event
  | .drain place => (hub.drain place).1

/-- the hub after some operations -/
def after (hub : Hub ε) (ops : List (Op ε)) : Hub ε :=
  ops.foldl perform hub

/-- what an operation hands out to the subscriber at a place, which is something only if it is a drain
of this subscriber -/
def handed (hub : Hub ε) (place : Nat) : Op ε → List (List ε)
  | .drain other =>
    if other = place ∧ place < hub.subscriptions.length then [(hub.drain place).2] else []
  | _ => []

/-- what the drains of one subscriber hand out, drain by drain -/
def received (hub : Hub ε) (place : Nat) : List (Op ε) → List (List ε)
  | [] => []
  | op :: rest => hub.handed place op ++ (hub.perform op).received place rest

/-- a hub that nobody has subscribed to -/
def fresh (m : Int) : Hub ε := { limit := m }

lemma after_concat (hub : Hub ε) (ops : List (Op ε)) (op : Op ε) :
    hub.after (ops ++ [op]) = (hub.after ops).perform op :=
  List.foldl_concat ..

lemma received_concat (hub : Hub ε) (ops : List (Op ε)) (op : Op ε) :
    hub.received p (ops ++ [op]) = hub.received p ops ++ (hub.after ops).handed p op := by
  induction ops generalizing hub with
  | nil => exact List.append_nil _
  | cons first rest ih =>
    show hub.handed p first ++ (hub.perform first).received p (rest ++ [op]) = _
    rw [ih]
    exact (List.append_assoc ..).symm

/-! ### What concerns one subscriber -/

/-- what one subscriber has to do with an operation -/
inductive Share (ε : Type) where
  | event (event : ε)
  | leave
  | drain
  deriving DecidableEq

def Share.isLeave : Share ε → Bool
  | .leave => true
  | _ => false

def Share.isDrain : Share ε → Bool
  | .drain => true
  | _ => false

def Op.isSubscribe : Op ε → Bool
  | .subscribe => true
  | _ => false

/-- the share of the subscriber at a place in an operation -/
def Op.share? (place : Nat) : Op ε → Option (Share ε)
  | .subscribe => none
  | .unsubscribe other => if other = place then some .leave else none
  | .publish event => some (.event event)
  | .drain other => if other = place then some .drain else none

/-- how many subscribe -/
def arrivals (ops : List (Op ε)) : Nat :=
  ops.countP (·.isSubscribe)

/-- what is done after so many others and then one more have subscribed -/
def since : Nat → List (Op ε) → List (Op ε)
  | _, [] => []
  | 0, .subscribe :: rest => rest
  | place + 1, .subscribe :: rest => since place rest
  | place, _ :: rest => since place rest

/-- what concerns the subscriber at a place, from the time it subscribes -/
def history (place : Nat) (ops : List (Op ε)) : List (Share ε) :=
  (since place ops).filterMap (·.share? place)

/-- the events published before the subscriber leaves -/
def offered : List (Share ε) → List ε
  | [] => []
  | .event event :: rest => event :: offered rest
  | .leave :: _ => []
  | .drain :: rest => offered rest

/-- the events published before the subscriber leaves that no later drain takes -/
def awaited : List (Share ε) → List ε
  | [] => []
  | .event event :: rest => if rest.any (·.isDrain) then awaited rest else event :: awaited rest
  | .leave :: _ => []
  | .drain :: rest => awaited rest

/-- the last so many, or all if this is no positive number -/
def latest (m : Int) (events : List ε) : List ε :=
  if 0 < m then events.rtake m.toNat else events

/-! ### Histories grow at their end -/

lemma arrivals_concat (ops : List (Op ε)) (op : Op ε) :
    arrivals (ops ++ [op]) = arrivals ops + if op.isSubscribe then 1 else 0 := by
  simp [arrivals, List.countP_append, List.countP_singleton]

lemma since_eq_nil {ops : List (Op ε)} (hp : arrivals ops ≤ p) : since p ops = [] := by
  induction ops generalizing p with
  | nil => exact since.eq_1 p
  | cons op rest ih =>
    cases op with
    | subscribe =>
      have hrest : arrivals (.subscribe :: rest) = arrivals rest + 1 := List.countP_cons_of_pos rfl
      cases p with
      | zero => omega
      | succ p => exact ih (by omega)
    | unsubscribe other => cases p <;> exact ih hp
    | publish event => cases p <;> exact ih hp
    | drain other => cases p <;> exact ih hp

lemma since_append {ops : List (Op ε)} (more : List (Op ε)) (hp : p < arrivals ops) :
    since p (ops ++ more) = since p ops ++ more := by
  induction ops generalizing p with
  | nil => exact absurd hp (Nat.not_lt_zero p)
  | cons op rest ih =>
    cases op with
    | subscribe =>
      have hrest : arrivals (.subscribe :: rest) = arrivals rest + 1 := List.countP_cons_of_pos rfl
      cases p with
      | zero => rfl
      | succ p => exact ih (by omega)
    | unsubscribe other => cases p <;> exact ih hp
    | publish event => cases p <;> exact ih hp
    | drain other => cases p <;> exact ih hp

lemma history_eq_nil {ops : List (Op ε)} (hp : arrivals ops ≤ p) : history p ops = [] := by
  rw [history, since_eq_nil hp, List.filterMap_nil]

lemma history_append {ops : List (Op ε)} (more : List (Op ε)) (hp : p < arrivals ops) :
    history p (ops ++ more) = history p ops ++ more.filterMap (·.share? p) := by
  rw [history, since_append more hp, List.filterMap_append]
  rfl

lemma history_concat {ops : List (Op ε)} (op : Op ε) (hp : p < arrivals ops) :
    history p (ops ++ [op]) = history p ops ++ (op.share? p).toList := by
  rw [history_append [op] hp]
  cases hshare : op.share? p with
  | none => rw [List.filterMap_cons_none hshare]; rfl
  | some share => rw [List.filterMap_cons_some hshare]; rfl

/-- who has just subscribed has no history yet -/
lemma history_concat_of_le {ops : List (Op ε)} (op : Op ε) (hp : arrivals ops ≤ p) :
    history p (ops ++ [op]) = [] := by
  have hsince : since p (ops ++ [op]) = [] := by
    induction ops generalizing p with
    | nil => cases op <;> cases p <;> rfl
    | cons first rest ih =>
      cases first with
      | subscribe =>
        have hrest : arrivals (.subscribe :: rest) = arrivals rest + 1 := List.countP_cons_of_pos rfl
        cases p with
        | zero => omega
        | succ p => exact ih (by omega)
      | unsubscribe other => cases p <;> exact ih hp
      | publish event => cases p <;> exact ih hp
      | drain other => cases p <;> exact ih hp
  rw [history, hsince, List.filterMap_nil]

/-- what others do before it does not change who subscribes -/
lemma since_insert {older : List (Op ε)} {op : Op ε} (newer : List (Op ε))
    (hop : op.isSubscribe = false) (hp : arrivals older ≤ p) :
    since p (older ++ op :: newer) = since p (older ++ newer) := by
  induction older generalizing p with
  | nil => cases op <;> cases p <;> first | rfl | exact nomatch hop
  | cons first rest ih =>
    cases first with
    | subscribe =>
      have hrest : arrivals (.subscribe :: rest) = arrivals rest + 1 := List.countP_cons_of_pos rfl
      cases p with
      | zero => omega
      | succ p => exact ih (by omega)
    | unsubscribe other => cases p <;> exact ih hp
    | publish event => cases p <;> exact ih hp
    | drain other => cases p <;> exact ih hp

/-- an operation of another subscriber is no part of the history -/
lemma history_insert {older : List (Op ε)} {op : Op ε} (newer : List (Op ε))
    (hshare : op.share? p = none) (hop : op.isSubscribe = true → p < arrivals older) :
    history p (older ++ op :: newer) = history p (older ++ newer) := by
  by_cases hp : p < arrivals older
  · rw [history_append _ hp, history_append _ hp, List.filterMap_cons_none hshare]
  · have hother : op.isSubscribe = false := by simpa [hp] using hop
    rw [history, history, since_insert newer hother (Nat.not_lt.mp hp)]

lemma offered_concat (shares : List (Share ε)) (share : Share ε) :
    offered (shares ++ [share])
      = offered shares ++ if shares.any (·.isLeave) then [] else offered [share] := by
  induction shares with
  | nil => rfl
  | cons first rest ih =>
    cases first with
    | event event => exact congrArg (event :: ·) ih
    | leave => rfl
    | drain => exact ih

lemma awaited_concat_event (shares : List (Share ε)) (event : ε) :
    awaited (shares ++ [.event event])
      = awaited shares ++ if shares.any (·.isLeave) then [] else [event] := by
  induction shares with
  | nil => rfl
  | cons first rest ih =>
    cases first with
    | event older =>
      have hany : (rest ++ [Share.event event]).any (·.isDrain) = rest.any (·.isDrain) := by
        rw [List.any_append]
        exact Bool.or_false _
      have hleave : (Share.event older :: rest).any (·.isLeave) = rest.any (·.isLeave) := rfl
      rw [hleave]
      simp only [List.cons_append, awaited, hany, ih]
      split
      · rfl
      · rfl
    | leave => rfl
    | drain => exact ih

/-- who has left is awaited by nothing new -/
lemma awaited_leave (shares : List (Share ε)) {later : List (Share ε)}
    (hlater : later.any (·.isDrain) = false) : awaited (shares ++ .leave :: later) = awaited shares := by
  induction shares with
  | nil => rfl
  | cons first rest ih =>
    cases first with
    | event older =>
      have hany : (rest ++ Share.leave :: later).any (·.isDrain) = rest.any (·.isDrain) := by
        rw [List.any_append, List.any_cons, hlater]
        exact Bool.or_false _
      simp only [List.cons_append, awaited, hany, ih]
    | leave => rfl
    | drain => exact ih

/-- a drain takes all that waits -/
lemma awaited_concat_drain (shares : List (Share ε)) : awaited (shares ++ [.drain]) = [] := by
  induction shares with
  | nil => rfl
  | cons first rest ih =>
    cases first with
    | event older =>
      have hany : (rest ++ [Share.drain]).any (·.isDrain) = true := by
        rw [List.any_append]
        exact Bool.or_true _
      simp only [List.cons_append, awaited, hany, ↓reduceIte, ih]
    | leave => rfl
    | drain => exact ih

/-! ### Windows -/

lemma latest_nil (m : Int) : latest m ([] : List ε) = [] := by
  simp [latest]

lemma length_latest_le {m : Int} (events : List ε) (hm : 0 < m) :
    Int.ofNat (latest m events).length ≤ m := by
  simp only [latest, hm, ↓reduceIte, List.rtake, List.length_drop, Int.ofNat_eq_natCast]
  omega

/-- a window that is large enough shows everything -/
lemma latest_eq_self {m : Int} {events : List ε} (hm : m ≤ 0 ∨ Int.ofNat events.length ≤ m) :
    latest m events = events := by
  by_cases hpos : 0 < m
  · have hfits : events.length - m.toNat = 0 := by simp only [Int.ofNat_eq_natCast] at hm; omega
    simp only [latest, hpos, ↓reduceIte, List.rtake, hfits, List.drop_zero]
  · simp only [latest, hpos, ↓reduceIte]

/-- putting an event behind a window moves the window on -/
lemma push_latest (m : Int) (events : List ε) (event : ε) :
    push m (latest m events) event = latest m (events ++ [event]) := by
  by_cases hm : 0 < m
  · obtain ⟨n, hn⟩ : ∃ n, m.toNat = n + 1 := ⟨m.toNat - 1, by omega⟩
    have hnext : latest m (events ++ [event]) = events.rtake n ++ [event] := by
      rw [latest, if_pos hm, hn, List.rtake_concat_succ]
    have hnow : latest m events = events.drop (events.length - (n + 1)) := by
      rw [latest, if_pos hm, hn, List.rtake]
    rw [hnext, push, hnow]
    congr 1
    by_cases hfull : n + 1 ≤ events.length
    · have hisFull : isFull m (events.drop (events.length - (n + 1))) = true := by
        simp only [isFull, List.length_drop, Int.ofNat_eq_natCast, Bool.and_eq_true, decide_eq_true_eq]
        omega
      rw [if_pos hisFull, List.drop_drop, List.rtake]
      congr 1
      omega
    · have hisFull : ¬ isFull m (events.drop (events.length - (n + 1))) = true := by
        simp only [isFull, List.length_drop, Int.ofNat_eq_natCast, Bool.and_eq_true, decide_eq_true_eq]
        omega
      rw [if_neg hisFull, List.rtake]
      congr 1
      omega
  · simp only [latest, push, isFull, hm, decide_false, Bool.false_and, Bool.false_eq_true, ↓reduceIte]

/-! ### A subscriber and its history -/

/-- the state that a history leaves a subscriber in -/
def subscriptionOf (m : Int) (shares : List (Share ε)) : Subscription ε where
  isOpen := !shares.any (·.isLeave)
  queue := latest m (awaited shares)

lemma subscriptionOf_event (shares : List (Share ε)) (event : ε) :
    subscriptionOf m (shares ++ [.event event])
      = if (subscriptionOf m shares).isOpen
        then ⟨true, push m (subscriptionOf m shares).queue event⟩ else subscriptionOf m shares := by
  have hany : (shares ++ [Share.event event]).any (·.isLeave) = shares.any (·.isLeave) := by
    rw [List.any_append]
    exact Bool.or_false _
  unfold subscriptionOf
  rw [hany, awaited_concat_event, push_latest]
  cases shares.any (·.isLeave) with
  | true => simp
  | false => simp

lemma subscriptionOf_leave (shares : List (Share ε)) :
    subscriptionOf m (shares ++ [.leave]) = { subscriptionOf m shares with isOpen := false } := by
  have hany : (shares ++ [Share.leave]).any (·.isLeave) = true := by
    rw [List.any_append]
    exact Bool.or_true _
  unfold subscriptionOf
  rw [hany, awaited_leave shares rfl]
  rfl

lemma subscriptionOf_drain (shares : List (Share ε)) :
    subscriptionOf m (shares ++ [.drain]) = { subscriptionOf m shares with queue := [] } := by
  have hany : (shares ++ [Share.drain]).any (·.isLeave) = shares.any (·.isLeave) := by
    rw [List.any_append]
    exact Bool.or_false _
  unfold subscriptionOf
  rw [hany, awaited_concat_drain, latest_nil]

@[simp] lemma limit_perform (hub : Hub ε) (op : Op ε) : (hub.perform op).limit = hub.limit := by
  cases op <;> rfl

@[simp] lemma length_perform (hub : Hub ε) (op : Op ε) : (hub.perform op).subscriptions.length
    = hub.subscriptions.length + if op.isSubscribe then 1 else 0 := by
  cases op with
  | subscribe => exact List.length_append
  | unsubscribe other => exact List.length_modify ..
  | publish event => exact List.length_map ..
  | drain other => exact List.length_modify ..

/-- one operation: a subscriber goes on by its share in it, and by nothing else -/
lemma perform_at {hub : Hub ε} {shares : List (Share ε)} (op : Op ε)
    (hat : hub.subscriptions[p]? = some (subscriptionOf hub.limit shares)) :
    (hub.perform op).subscriptions[p]?
      = some (subscriptionOf hub.limit (shares ++ (op.share? p).toList)) := by
  cases op with
  | subscribe =>
    show (hub.subscriptions ++ [_])[p]? = some (subscriptionOf hub.limit (shares ++ []))
    obtain ⟨hp, -⟩ := List.getElem?_eq_some_iff.mp hat
    rw [List.getElem?_append_left hp, hat, List.append_nil]
  | unsubscribe other =>
    show (hub.subscriptions.modify other _)[p]? = _
    rw [List.getElem?_modify, hat]
    by_cases hother : other = p
    · simp only [Op.share?, hother, ↓reduceIte, Option.toList_some, subscriptionOf_leave]
      rfl
    · simp only [Op.share?, hother, ↓reduceIte, Option.toList_none, List.append_nil]
      rfl
  | publish event =>
    show (hub.subscriptions.map _)[p]? = _
    rw [List.getElem?_map, hat]
    simp only [Op.share?, Option.toList_some, subscriptionOf_event, Option.map_some]
    split
    · rename_i hopen
      rw [hopen]
    · rfl
  | drain other =>
    show (hub.subscriptions.modify other _)[p]? = _
    rw [List.getElem?_modify, hat]
    by_cases hother : other = p
    · simp only [Op.share?, hother, ↓reduceIte, Option.toList_some, subscriptionOf_drain]
      rfl
    · simp only [Op.share?, hother, ↓reduceIte, Option.toList_none, List.append_nil]
      rfl

lemma limit_after (ops : List (Op ε)) : ((fresh m).after ops).limit = m := by
  induction ops using List.reverseRecOn with
  | nil => rfl
  | append_singleton ops op ih => rw [after_concat, limit_perform, ih]

lemma length_after (ops : List (Op ε)) :
    ((fresh m).after ops).subscriptions.length = arrivals ops := by
  induction ops using List.reverseRecOn with
  | nil => rfl
  | append_singleton ops op ih => rw [after_concat, length_perform, ih, arrivals_concat]

/-- the state of a subscriber is a function of its own history; by induction on the operations from the
last one back -/
theorem subscriptions_after {ops : List (Op ε)} (hp : p < arrivals ops) :
    ((fresh m).after ops).subscriptions[p]? = some (subscriptionOf m (history p ops)) := by
  induction ops using List.reverseRecOn with
  | nil => exact absurd hp (Nat.not_lt_zero p)
  | append_singleton ops op ih =>
    rw [after_concat]
    by_cases hbefore : p < arrivals ops
    · have hbefore' : ((fresh m).after ops).subscriptions[p]?
          = some (subscriptionOf ((fresh m).after ops).limit (history p ops)) := by
        rw [limit_after]
        exact ih hbefore
      have hat := perform_at op hbefore'
      rw [hat, limit_after, history_concat op hbefore]
    · -- it is this operation by which the place is taken
      have hlast := arrivals_concat ops op
      cases op with
      | subscribe =>
        have hplace : p = arrivals ops := by simp only [Op.isSubscribe, ↓reduceIte] at hlast; omega
        show (((fresh m).after ops).subscriptions ++ [_])[p]? = _
        have hlength : ((fresh m).after ops).subscriptions.length = arrivals ops := length_after ops
        rw [history_concat_of_le _ (Nat.not_lt.mp hbefore), hplace, ← hlength,
          List.getElem?_concat_length]
        simp [subscriptionOf, awaited, latest_nil]
      | unsubscribe other => exact absurd (lt_of_lt_of_eq hp hlast) hbefore
      | publish event => exact absurd (lt_of_lt_of_eq hp hlast) hbefore
      | drain other => exact absurd (lt_of_lt_of_eq hp hlast) hbefore

theorem waiting_after (m : Int) (p : Nat) (ops : List (Op ε)) :
    ((fresh m).after ops).waiting p = latest m (awaited (history p ops)) := by
  by_cases hp : p < arrivals ops
  · rw [waiting, subscriptions_after hp]
    rfl
  · have hnone : ((fresh m).after ops).subscriptions[p]? = none := by
      rw [List.getElem?_eq_none_iff, length_after]
      exact Nat.not_lt.mp hp
    rw [waiting, hnone, history_eq_nil (Nat.not_lt.mp hp)]
    exact (latest_nil m).symm

/-- what the drains of a history hand out, after an older part of it -/
def parcels (m : Int) (older : List (Share ε)) : List (Share ε) → List (List ε)
  | [] => []
  | share :: rest =>
    (if share.isDrain then [latest m (awaited older)] else []) ++ parcels m (older ++ [share]) rest

lemma parcels_append (older shares more : List (Share ε)) :
    parcels m older (shares ++ more) = parcels m older shares ++ parcels m (older ++ shares) more := by
  induction shares generalizing older with
  | nil => rw [List.append_nil]; rfl
  | cons share rest ih =>
    show _ ++ parcels m (older ++ [share]) (rest ++ more) = _
    rw [ih, ← List.append_assoc, List.append_assoc older]
    rfl

lemma handed_after (op : Op ε) (ops : List (Op ε)) (hp : p < arrivals ops) :
    ((fresh m).after ops).handed p op = parcels m (history p ops) (op.share? p).toList := by
  cases op with
  | subscribe => rfl
  | unsubscribe other =>
    by_cases hother : other = p
    · simp only [Op.share?, hother, ↓reduceIte]
      rfl
    · simp only [Op.share?, hother, ↓reduceIte]
      rfl
  | publish event => rfl
  | drain other =>
    unfold handed
    rw [length_after]
    by_cases hother : other = p
    · simp only [Op.share?, hother, hp, and_self, ↓reduceIte, Option.toList_some]
      show [((fresh m).after ops).waiting p] = _
      rw [waiting_after]
      rfl
    · simp only [Op.share?, hother, false_and, ↓reduceIte]
      rfl

/-- what a subscriber receives is a function of its own history -/
theorem received_eq_parcels (m : Int) (p : Nat) (ops : List (Op ε)) :
    (fresh m).received p ops = parcels m [] (history p ops) := by
  induction ops using List.reverseRecOn with
  | nil =>
    rw [history_eq_nil (Nat.zero_le p)]
    rfl
  | append_singleton ops op ih =>
    rw [received_concat, ih]
    by_cases hp : p < arrivals ops
    · rw [handed_after op ops hp, history_concat op hp, parcels_append]
      rfl
    · have hnothing : ((fresh m).after ops).handed p op = [] := by
        cases op with
        | drain other =>
          unfold handed
          simp only [length_after, hp, and_false, ↓reduceIte]
        | _ => rfl
      rw [hnothing, history_eq_nil (Nat.not_lt.mp hp), history_concat_of_le op (Nat.not_lt.mp hp)]
      rfl

/-- if never more events are awaited than a queue holds, none is lost -/
lemma parcels_flatten {shares : List (Share ε)}
    (hfits : ∀ older, older <+: shares → m ≤ 0 ∨ Int.ofNat (awaited older).length ≤ m) :
    (parcels m [] shares).flatten ++ awaited shares = offered shares := by
  induction shares using List.reverseRecOn with
  | nil => rfl
  | append_singleton shares share ih =>
    have hbefore := ih fun older holder => hfits older (holder.trans (List.prefix_append ..))
    rw [parcels_append, List.nil_append, offered_concat, ← hbefore]
    cases share with
    | event event =>
      rw [awaited_concat_event]
      simp only [parcels, offered, Share.isDrain, Bool.false_eq_true, ↓reduceIte, List.append_nil,
        List.append_assoc]
    | leave =>
      rw [awaited_leave shares rfl]
      simp [parcels, offered, Share.isDrain]
    | drain =>
      have hall := latest_eq_self (hfits shares (List.prefix_append ..))
      rw [awaited_concat_drain]
      simp [parcels, offered, Share.isDrain, hall]

/-- whatever is done with a hub, the queue of a subscriber is the window of the latest events that were published while it was
subscribed and that it has not drained; its size stays within a positive limit; nothing but a drain
changes it once its owner has left; operations of others change nothing of what its owner receives; and
an owner who never leaves more events waiting than the limit receives each one once and in order -/
theorem window_of_history (m : Int) (p : Nat) (ops : List (Op ε)) :
    ((fresh m).after ops).waiting p = latest m (awaited (history p ops))
    ∧ (0 < m → Int.ofNat (((fresh m).after ops).waiting p).length ≤ m)
    ∧ (p < arrivals ops → ∀ later, (∀ op ∈ later, op.share? p ≠ some .drain) →
        ((fresh m).after (ops ++ .unsubscribe p :: later)).waiting p
          = ((fresh m).after ops).waiting p)
    ∧ (∀ older op newer, ops = older ++ newer → op.share? p = none →
        (op.isSubscribe = true → p < arrivals older) →
        (fresh m).received p (older ++ op :: newer) = (fresh m).received p ops
          ∧ ((fresh m).after (older ++ op :: newer)).waiting p = ((fresh m).after ops).waiting p)
    ∧ (∀ place others, history place others = history p ops →
        (fresh m).received place others = (fresh m).received p ops
          ∧ ((fresh m).after others).waiting place = ((fresh m).after ops).waiting p)
    ∧ ((∀ older, older <+: history p ops → m ≤ 0 ∨ Int.ofNat (awaited older).length ≤ m) →
        ((fresh m).received p ops).flatten ++ ((fresh m).after ops).waiting p
          = offered (history p ops)) := by
  refine ⟨waiting_after m p ops, ?_, ?_, ?_, ?_, ?_⟩
  · intro hm
    rw [waiting_after]
    exact length_latest_le _ hm
  · intro hp later hlater
    have hnone : (later.filterMap (·.share? p)).any (·.isDrain) = false := by
      rw [List.any_eq_false]
      intro share hshare
      obtain ⟨op, hop, hopshare⟩ := List.mem_filterMap.mp hshare
      cases share with
      | drain => exact absurd hopshare (hlater op hop)
      | _ => exact Bool.false_ne_true
    have hleave : (Op.unsubscribe p : Op ε).share? p = some .leave := if_pos rfl
    rw [waiting_after, waiting_after, history_append _ hp, List.filterMap_cons_some hleave,
      awaited_leave _ hnone]
  · intro older op newer hops hshare hop
    have hhistory := history_insert newer hshare hop
    rw [received_eq_parcels, received_eq_parcels, waiting_after, waiting_after, hhistory, hops]
    exact ⟨rfl, rfl⟩
  · intro place others hhistory
    rw [received_eq_parcels, received_eq_parcels, waiting_after, waiting_after, hhistory]
    exact ⟨rfl, rfl⟩
  · intro hfits
    rw [received_eq_parcels, waiting_after, latest_eq_self (hfits _ (List.prefix_refl _)),
      parcels_flatten hfits]

/-- a queue of two that its owner drains after two events, leaves after one more, and another one that
is never drained -/
theorem window_of_history_two :
    let ops : List (Op Nat) := [.subscribe, .publish 0, .subscribe, .publish 1, .drain 0, .publish 2]
    ((fresh 2).after (ops ++ .unsubscribe 0 :: [.publish 3, .drain 1])).waiting 0 = [2]
      ∧ ((fresh 2).received 0 ops).flatten ++ ((fresh 2).after ops).waiting 0 = [0, 1, 2]
      ∧ (fresh 2).received 0 ([.subscribe, .publish 0, .subscribe] ++ .unsubscribe 1
          :: [.publish 1, .drain 0, .publish 2]) = [[0, 1]]
      ∧ ((fresh 2).after ops).waiting 1 = [1, 2] := by
  intro ops
  obtain ⟨hwaiting, -, hfrozen, hinsert, -, hall⟩ := window_of_history 2 0 ops
  refine ⟨?_, ?_, ?_, ?_⟩
  · exact hfrozen (by decide) [.publish 3, .drain 1] (by simp [Op.share?])
  · refine hall fun older holder => Or.inr ?_
    have hfits : ∀ older ∈ (history 0 ops).inits, Int.ofNat (awaited older).length ≤ 2 := by decide
    exact hfits older ((List.mem_inits ..).mpr holder)
  · exact (hinsert [.subscribe, .publish 0, .subscribe] (.unsubscribe 1)
      [.publish 1, .drain 0, .publish 2] rfl rfl (by decide)).1
  · exact (window_of_history 2 1 ops).1

end Lamplighter.Hub
