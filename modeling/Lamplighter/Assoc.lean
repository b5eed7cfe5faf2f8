/-!
# Association lists: values under keys, in the order in which the keys first came

`put` replaces the value of a key in its place, or adds the key at the end; `get?` looks a key up.
-/

namespace Lamplighter.Assoc

variable {κ α : Type} [DecidableEq κ]

def get? : List (κ × α) → κ → Option α
  | [], _ => none
  | (k, v) :: rest, key => if k = key then some v else get? rest key

def put : List (κ × α) → κ → α → List (κ × α)
  | [], key, value => [(key, value)]
  | (k, v) :: rest, key, value =>
    if k = key then (k, value) :: rest else (k, v) :: put rest key value

/-- the pairs put one after the other into an empty list -/
def ofList (pairs : List (κ × α)) : List (κ × α) :=
  pairs.foldl (fun list p => put list p.1 p.2) []

@[simp] theorem get?_nil (key : κ) : get? ([] : List (κ × α)) key = none := rfl

theorem get?_put_self (list : List (κ × α)) (key : κ) (value : α) :
    get? (put list key value) key = some value := by
  induction list with
  | nil => simp [put, get?]
  | cons p rest ih =>
    by_cases h : p.1 = key
    · simp [put, get?, h]
    · simp [put, get?, h, ih]

theorem get?_put_of_ne (list : List (κ × α)) {key other : κ} (value : α) (h : other ≠ key) :
    get? (put list key value) other = get? list other := by
  induction list with
  | nil => simp [put, get?, h.symm]
  | cons p rest ih =>
    by_cases hk : p.1 = key
    · simp [put, get?, hk, h.symm]
    · simp [put, get?, hk, ih]

end Lamplighter.Assoc
