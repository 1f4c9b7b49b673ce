/-!
# Keyed lists

A collection of values under text keys that remembers the order in which the keys came, with
look-up and the one way of writing: putting a value under a key, which keeps the place of a key
that is already there.  The lemmas say what a write does to the keys and to every look-up.
-/

namespace CourseReview

/-- Values under text keys, in the order of the keys' first appearance. -/
abbrev Keyed (α : Type) := List (String × α)

namespace Keyed

variable {α : Type}

/-- The keys, in order. -/
def keys (m : Keyed α) : List String :=
  m.map Prod.fst

/-- The values, in the order of their keys. -/
def values (m : Keyed α) : List α :=
  m.map Prod.snd

/-- The value under a key. -/
def get? (key : String) : Keyed α → Option α
  | [] => none
  | (k, v) :: rest => if k = key then some v else get? key rest

/-- Whether the key is present. -/
def has (key : String) (m : Keyed α) : Bool :=
  (get? key m).isSome

/-- Puts a value under a key: a key that is present keeps its place, a new key goes to the end. -/
def put (key : String) (value : α) : Keyed α → Keyed α
  | [] => [(key, value)]
  | (k, v) :: rest => if k = key then (key, value) :: rest else (k, v) :: put key value rest

/-- No key appears twice. -/
def Distinct (m : Keyed α) : Prop :=
  (keys m).Nodup

@[simp] theorem keys_nil : keys ([] : Keyed α) = [] := rfl

@[simp] theorem keys_cons (k : String) (v : α) (m : Keyed α) : keys ((k, v) :: m) = k :: keys m :=
  rfl

@[simp] theorem get?_nil (key : String) : get? key ([] : Keyed α) = none := rfl

/-- A key is found exactly when it is among the keys. -/
theorem get?_isSome_iff {key : String} {m : Keyed α} : (get? key m).isSome ↔ key ∈ keys m := by
  induction m with
  | nil => simp [get?]
  | cons e rest ih =>
    obtain ⟨k, v⟩ := e
    rw [get?, keys_cons, List.mem_cons]
    split
    · rename_i hk; simp [hk]
    · rename_i hk; rw [ih]; simp [Ne.symm hk]

/-- Putting a value under a present key leaves the keys as they were. -/
theorem keys_put_of_mem {key : String} {value : α} {m : Keyed α} (h : key ∈ keys m) :
    keys (put key value m) = keys m := by
  induction m with
  | nil => simp at h
  | cons e rest ih =>
    obtain ⟨k, v⟩ := e
    rw [put]
    split
    · rename_i hk; simp [hk]
    · rename_i hk
      rw [keys_cons, List.mem_cons] at h
      rw [keys_cons, keys_cons, ih (h.resolve_left fun e => hk e.symm)]

/-- Putting a value under a new key adds the key at the end. -/
theorem keys_put_of_notMem {key : String} {value : α} {m : Keyed α} (h : key ∉ keys m) :
    keys (put key value m) = keys m ++ [key] := by
  induction m with
  | nil => simp [put]
  | cons e rest ih =>
    obtain ⟨k, v⟩ := e
    rw [keys_cons, List.mem_cons, not_or] at h
    rw [put, if_neg fun e => h.1 e.symm, keys_cons, keys_cons, ih h.2, List.cons_append]

/-- A key just written holds the value written. -/
@[simp] theorem get?_put_self (key : String) (value : α) (m : Keyed α) :
    get? key (put key value m) = some value := by
  induction m with
  | nil => simp [put, get?]
  | cons e rest ih =>
    obtain ⟨k, v⟩ := e
    rw [put]
    split
    · simp [get?]
    · rename_i hk; rw [get?, if_neg hk, ih]

/-- Writing one key does not touch another. -/
theorem get?_put_of_ne {key other : String} (h : other ≠ key) (value : α) (m : Keyed α) :
    get? other (put key value m) = get? other m := by
  induction m with
  | nil => simp [put, get?, Ne.symm h]
  | cons e rest ih =>
    obtain ⟨k, v⟩ := e
    rw [put]
    split
    · rename_i hk
      simp [get?, hk, Ne.symm h]
    · rw [get?, get?, ih]

/-- Writing keeps the keys distinct. -/
theorem Distinct.put {m : Keyed α} (h : Distinct m) (key : String) (value : α) :
    Distinct (put key value m) := by
  by_cases hk : key ∈ keys m
  · rw [Distinct, keys_put_of_mem hk]; exact h
  · rw [Distinct, keys_put_of_notMem hk, List.nodup_append]
    refine ⟨h, by simp, ?_⟩
    intro a ha b hb hab
    rw [List.mem_singleton] at hb
    exact hk (hb ▸ hab ▸ ha)

end Keyed

end CourseReview
