import Mathlib.Data.List.Forall2
import Mathlib.Data.List.Nodup
import Lamplighter.Proofs.Command.Names

/-!
# Copies: target sets that shrink each on its own

A set of names is asked whether it names a bulb, loses names and is copied, and so are its copies, in
any order.  A copy is built anew from the spellings of its source.  That it has the same keys rests on
each spelling having its key as its normal form and on no two of them having the same, which is so of
every set that comes of some names by losing some of them.

* `Op`, `after`, `answer?`   what may be done with a family of sets, what comes of it, and what a
                      question is answered;
* `lost`              the names that each set of a family has lost;
* `after_map`         a family is as its sets are when each loses its names alone;
* `IsLeft`            a set is what is left of some names;
* `after_at`          operations change a set only if it loses a name itself;
* `shrinks_apart`     every set of a family is what is left of the first names, whatever happens to
                      the others.
-/

namespace Lamplighter.Targets.Family

/-! ### Operations -/

/-- what may be done with a family of sets, of which each is known by its place -/
inductive Op where
  | ask (place : Nat) (name : String)
  | discard (place : Nat) (name : String)
  | copy (place : Nat)
  deriving DecidableEq

/-- a name is discarded from the set at its place; a copy is a set of its own, behind the others -/
def perform (family : List Targets) : Op → List Targets
  | .ask _ _ => family
  | .discard place name => family.modify place (·.discard name)
  | .copy place => family ++ (family[place]?.map Targets.copy).toList

/-- the family after some operations -/
def after (family : List Targets) (ops : List Op) : List Targets :=
  ops.foldl perform family

/-- what an operation answers, which is something only if it asks a set that is there -/
def answer? (family : List Targets) : Op → Option Bool
  | .ask place name => family[place]?.map (·.isMatch name)
  | _ => none

/-- a copy has lost what its source has lost until then -/
def lose (lost : List (List String)) : Op → List (List String)
  | .ask _ _ => lost
  | .discard place name => lost.modify place (· ++ [name])
  | .copy place => lost ++ lost[place]?.toList

/-- the names that each set has lost, in a family that began with one set -/
def lost (ops : List Op) : List (List String) :=
  ops.foldl lose [[]]

/-! ### Each set alone -/

section

variable {names gone : List String} {family : List Targets} {ops : List Op} {place : Nat}

/-- sets that are told by what they have lost stay so -/
lemma perform_map {f : List String → Targets}
    (hdiscard : ∀ gone name, (f gone).discard name = f (gone ++ [name]))
    (hcopy : ∀ gone, (f gone).copy = f gone) (lost : List (List String)) (op : Op) :
    perform (lost.map f) op = (lose lost op).map f := by
  cases op with
  | ask place name => rfl
  | discard place name =>
    refine List.ext_getElem? fun other => ?_
    simp only [perform, lose, List.getElem?_modify, List.getElem?_map, Option.map_eq_map,
      Option.map_map]
    refine congrArg (fun change => lost[other]?.map change) (funext fun gone => ?_)
    by_cases hplace : place = other
    · simp [hplace, hdiscard]
    · simp [hplace]
  | copy place =>
    simp only [perform, lose, List.map_append, List.getElem?_map]
    cases lost[place]? with
    | none => rfl
    | some gone => simp [hcopy]

lemma after_map {f : List String → Targets}
    (hdiscard : ∀ gone name, (f gone).discard name = f (gone ++ [name]))
    (hcopy : ∀ gone, (f gone).copy = f gone) (ops : List Op) :
    after [f []] ops = (lost ops).map f := by
  have hall : ∀ lost : List (List String),
      ops.foldl perform (lost.map f) = (ops.foldl lose lost).map f := by
    induction ops with
    | nil => exact fun _ => rfl
    | cons op ops ih =>
      intro lost
      rw [List.foldl_cons, List.foldl_cons, perform_map hdiscard hcopy, ih]
  exact hall [[]]

/-! ### What is left of some names -/

/-- the names of none of the normal forms that are gone -/
def leftOver (names gone : List String) : List String :=
  names.filter fun name => normalName name ∉ gone.map normalName

lemma leftOver_nil (names : List String) : leftOver names [] = names := by
  simp [leftOver]

lemma discard_leftOver (names gone : List String) (name : String) :
    (ofNames (leftOver names gone)).discard name = ofNames (leftOver names (gone ++ [name])) := by
  rw [discard_ofNames, leftOver, leftOver, List.filter_filter]
  refine congrArg ofNames (List.filter_congr fun other _ => ?_)
  by_cases hsame : normalName other = normalName name
  · simp [hsame]
  · simp [hsame]

/-- a set is what is left of some names when others are gone: what it stores, what it is asked, and
what it is copied to -/
structure IsLeft (names gone : List String) (set : Targets) : Prop where
  isAll : set.isAll = false
  distinct : set.normalNames.Nodup
  spelled : set.normalNames = set.names.map normalName
  left : set.normalNames = ((names.map normalName).eraseDups).filter (· ∉ gone.map normalName)
  isMatch (name : String) : set.isMatch name = true ↔ normalName name ∈ set.normalNames
  copy_isSame : set.copy.isSame set = true
  copy_key : set.copy.key = set.key
  copy_names : set.copy.names = set.names

theorem isLeft_leftOver (names gone : List String) :
    IsLeft names gone (ofNames (leftOver names gone)) := by
  have hcopy := copy_ofNames (leftOver names gone)
  have hnormal := normalNames_ofNames (leftOver names gone)
  exact
    { isAll := rfl
      distinct := by
        rw [hnormal, List.Nodup, List.pairwise_map]
        exact (pairwise_distinctNames _).imp Ne.symm
      spelled := by rw [hnormal, names_ofNames]
      left := by
        have hleft := distinctNames_filter names fun normal => normal ∉ gone.map normalName
        rw [hnormal, leftOver, hleft, eraseDups_map_normalName, List.filter_map]
        rfl
      isMatch := fun name => isMatch_named
      copy_isSame := by rw [hcopy, isSame_iff]; exact ⟨rfl, rfl⟩
      copy_key := by rw [hcopy]
      copy_names := by rw [hcopy] }

/-- the family of a set of names: each set has what it has not lost -/
theorem after_ofNames (names : List String) (ops : List Op) :
    after [ofNames names] ops = (lost ops).map fun gone => ofNames (leftOver names gone) := by
  have hfamily := after_map (discard_leftOver names) (fun gone => copy_ofNames _) ops
  rwa [leftOver_nil] at hfamily

/-- the family of the set of all bulbs: each set is of all bulbs -/
theorem after_all (ops : List Op) : after [.all] ops = (lost ops).map fun _ => .all :=
  after_map (f := fun _ => .all) (fun _ _ => rfl) (fun _ => rfl) ops

/-- a name is among those that are left if it was there and is not gone -/
lemma isMatch_leftOver (names gone : List String) (name : String) :
    (ofNames (leftOver names gone)).isMatch name = true ↔
      normalName name ∈ names.map normalName ∧ normalName name ∉ gone.map normalName := by
  have hset := isLeft_leftOver names gone
  rw [hset.isMatch, hset.left, List.mem_filter, List.mem_eraseDups, decide_eq_true_iff]

/-! ### Each set apart from the others -/

lemma length_le_perform (family : List Targets) (op : Op) :
    family.length ≤ (perform family op).length := by
  cases op <;> simp [perform]

/-- an operation changes a set only if it discards a name from this very set -/
lemma perform_at {op : Op} (hop : ∀ name, op ≠ .discard place name) (hplace : place < family.length) :
    (perform family op)[place]? = family[place]? := by
  cases op with
  | ask other name => rfl
  | discard other name =>
    have hother : other ≠ place := by
      rintro rfl
      exact hop name rfl
    exact List.getElem?_modify_ne _ _ hother
  | copy other => exact List.getElem?_append_left hplace

theorem after_at (hops : ∀ name, Op.discard place name ∉ ops) (hplace : place < family.length) :
    (after family ops)[place]? = family[place]? := by
  induction ops generalizing family with
  | nil => rfl
  | cons op ops ih =>
    have hop : ∀ name, op ≠ .discard place name := by
      rintro name rfl
      exact hops name (List.mem_cons_self ..)
    have hrest : ∀ name, Op.discard place name ∉ ops := fun name hmem =>
      hops name (List.mem_cons_of_mem _ hmem)
    calc (after (perform family op) ops)[place]?
        = (perform family op)[place]? :=
          ih hrest (Nat.lt_of_lt_of_le hplace (length_le_perform family op))
      _ = family[place]? := perform_at hop hplace

/-- Target sets and their copies shrink each on its own.  After any questions, discards and copies,
each set of a family that began with a set of names is what is left of these names without those that
it has lost, or its source before it was copied, and each question is answered from that.  The sets
of a family that began with the set of all bulbs name all bulbs.  And whatever sets a family began
with, what is done later leaves a set as it is unless a name is discarded from the set itself. -/
theorem shrinks_apart (names : List String) (ops : List Op) :
    List.Forall₂ (IsLeft names) (lost ops) (after [ofNames names] ops) ∧
    (∀ place name, answer? (after [ofNames names] ops) (.ask place name)
      = (lost ops)[place]?.map fun gone => decide
          (normalName name ∈ names.map normalName ∧ normalName name ∉ gone.map normalName)) ∧
    (∀ set ∈ after [.all] ops, set = .all ∧ ∀ name, set.isMatch name = true) ∧
    ∀ (family : List Targets) (more : List Op) (place : Nat),
      (∀ name, Op.discard place name ∉ more) → place < (after family ops).length →
      (after family (ops ++ more))[place]? = (after family ops)[place]? := by
  refine ⟨?_, fun place name => ?_, fun set hset => ?_, fun family more place hmore hplace => ?_⟩
  · rw [after_ofNames, List.forall₂_map_right_iff, List.forall₂_same]
    exact fun gone _ => isLeft_leftOver names gone
  · rw [after_ofNames, answer?, List.getElem?_map, Option.map_map]
    refine congrArg (fun answer => (lost ops)[place]?.map answer) (funext fun gone => ?_)
    exact Bool.eq_iff_iff.mpr ((isMatch_leftOver names gone name).trans decide_eq_true_iff.symm)
  · rw [after_all] at hset
    obtain ⟨gone, -, rfl⟩ := List.mem_map.mp hset
    exact ⟨rfl, fun _ => rfl⟩
  · rw [show after family (ops ++ more) = after (after family ops) more from List.foldl_append]
    exact after_at hmore hplace

end

/-- four spellings of three names -/
def rooms : List String := ["A", "ΑΣ", " A ", "B  C"]

/-- a set and its copy lose different names, and then the copy is copied -/
def parting : List Op := [.copy 0, .discard 1 "a", .ask 0 "A", .discard 0 "B C", .copy 1]

/-- what the copies lose later -/
def wasting : List Op := [.discard 1 "ας", .ask 0 "A", .discard 2 "B C"]

theorem shrinks_apart_rooms :
    (after [ofNames rooms] parting).map Targets.names = [["A", "ΑΣ"], ["ΑΣ", "B  C"], ["ΑΣ", "B  C"]] ∧
    List.Forall₂ (IsLeft rooms) [["B C"], ["a"], ["a"]] (after [ofNames rooms] parting) ∧
    answer? (after [ofNames rooms] parting) (.ask 1 " A") = some false ∧
    (∀ name, Op.discard 0 name ∉ wasting) ∧ 0 < (after [ofNames rooms] parting).length ∧
    (after [ofNames rooms] (parting ++ wasting))[0]? = (after [ofNames rooms] parting)[0]? := by
  obtain ⟨hleft, hanswer, -, hapart⟩ := shrinks_apart rooms parting
  have hlost : lost parting = [["B C"], ["a"], ["a"]] := rfl
  have hwasting : ∀ name, Op.discard 0 name ∉ wasting := by simp [wasting]
  have hplace : 0 < (after [ofNames rooms] parting).length := by decide
  refine ⟨by decide +kernel, hlost ▸ hleft, ?_, hwasting, hplace, ?_⟩
  · rw [hanswer]
    decide +kernel
  · exact hapart [ofNames rooms] wasting 0 hwasting hplace

end Lamplighter.Targets.Family
