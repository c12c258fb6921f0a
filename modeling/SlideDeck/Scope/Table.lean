/-!
# Tables of named entries

A table has at most one entry of a name. Its entries stay in the order in which their names came.

Results:
* `Table.get?_insert`: an inserted entry is found under its name, and the others as before.
* `Table.mem_of_getFrom?`, `Table.getFrom?_eq_none_iff`: what is found is there, and what is not
  found is not.
* `Table.insert_eq_self`: inserting what is there changes nothing.
-/

namespace SlideDeck

structure Table (α : Type) where
  entries : List (String × α) := []
deriving DecidableEq, Repr

namespace Table

variable {α : Type}

def getFrom? (name : String) : List (String × α) → Option α
  | [] => none
  | (other, a) :: rest => if name = other then some a else getFrom? name rest

/-- The entry of the name. -/
def get? (t : Table α) (name : String) : Option α := getFrom? name t.entries

/-- Whether there is an entry of the name. -/
def has (t : Table α) (name : String) : Bool := (t.get? name).isSome

def insertInto (name : String) (a : α) : List (String × α) → List (String × α)
  | [] => [(name, a)]
  | (other, b) :: rest =>
    if name = other then (name, a) :: rest else (other, b) :: insertInto name a rest

/-- Puts the entry in the place of the one of the same name, or behind all others. -/
def insert (t : Table α) (name : String) (a : α) : Table α := ⟨insertInto name a t.entries⟩

@[simp] theorem get?_empty (name : String) : ({} : Table α).get? name = none := rfl

theorem getFrom?_insertInto (name other : String) (a : α) (entries : List (String × α)) :
    getFrom? other (insertInto name a entries) =
      if other = name then some a else getFrom? other entries := by
  induction entries with
  | nil => simp [insertInto, getFrom?]
  | cons entry rest ih =>
    obtain ⟨key, b⟩ := entry
    by_cases hk : name = key
    · subst hk
      by_cases h : other = name <;> simp [insertInto, getFrom?, h]
    · by_cases h : other = key
      · subst h
        simp [insertInto, getFrom?, hk, Ne.symm hk]
      · simp [insertInto, getFrom?, hk, h, ih]

theorem get?_insert (t : Table α) (name other : String) (a : α) :
    (t.insert name a).get? other = if other = name then some a else t.get? other :=
  getFrom?_insertInto name other a t.entries

@[simp] theorem get?_insert_self (t : Table α) (name : String) (a : α) :
    (t.insert name a).get? name = some a := by
  simp [get?_insert]

theorem mem_of_getFrom? {name : String} {a : α} {entries : List (String × α)}
    (h : getFrom? name entries = some a) : (name, a) ∈ entries := by
  induction entries with
  | nil => cases h
  | cons entry rest ih =>
    obtain ⟨key, b⟩ := entry
    by_cases hk : name = key
    · rw [getFrom?, if_pos hk] at h
      rw [hk, Option.some.inj h]
      exact List.mem_cons_self
    · rw [getFrom?, if_neg hk] at h
      exact List.mem_cons_of_mem _ (ih h)

theorem getFrom?_map_entries {β : Type} (f : α → β) (name : String) (entries : List (String × α)) :
    getFrom? name (entries.map fun entry => (entry.1, f entry.2)) =
      (getFrom? name entries).map f := by
  induction entries with
  | nil => rfl
  | cons entry rest ih =>
    rw [List.map_cons, getFrom?, getFrom?, ih]
    split <;> rfl

theorem getFrom?_eq_none_iff {name : String} {entries : List (String × α)} :
    getFrom? name entries = none ↔ name ∉ entries.map Prod.fst := by
  induction entries with
  | nil => simp [getFrom?]
  | cons entry rest ih =>
    by_cases hk : name = entry.1 <;> simp [getFrom?, hk, ih]

theorem insertInto_eq_self {name : String} {a : α} {entries : List (String × α)}
    (h : getFrom? name entries = some a) : insertInto name a entries = entries := by
  induction entries with
  | nil => cases h
  | cons entry rest ih =>
    obtain ⟨key, b⟩ := entry
    by_cases hk : name = key
    · rw [getFrom?, if_pos hk] at h
      rw [insertInto, if_pos hk, ← hk, Option.some.inj h]
    · rw [getFrom?, if_neg hk] at h
      rw [insertInto, if_neg hk, ih h]

theorem insert_eq_self {t : Table α} {name : String} {a : α} (h : t.get? name = some a) :
    t.insert name a = t :=
  congrArg Table.mk (insertInto_eq_self h)

end Table

end SlideDeck
