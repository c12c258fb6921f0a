import SlideDeck.Toml.Tree

/-!
# What a document says of its keys

What a document has under a key at its top is what the first line that reaches the key makes of it:
a value or a table. No line changes that. A key with a value is reached by one line only, or else
there is no document.

Results:
* `Entries.sets_alter`: a change inside of tables is inside of one table at the top.
* `Line.sets_add`: what one line does to the keys at the top.
* `Entries.outline_addLines`, `Entries.pairwise_settings`: what all lines do.
-/

namespace SlideDeck.Toml

/-- What stands under a key, the inside of a table apart. -/
inductive Outline where
  | value (v : Value)
  | table
deriving DecidableEq, Repr

def Node.outline : Node → Outline
  | .value v => .value v
  | .table _ _ | .tables _ _ => .table

namespace Entries

variable {entries entries' : Entries}

/-- What stands under the key, if anything. -/
def outline (entries : Entries) (k : String) : Option Outline := (entries.get? k).map Node.outline

/-- From the first entries to the second, one key is set. It had nothing before, or was a table and
is one still; no other key is touched. -/
structure Sets (entries entries' : Entries) (k : String) (o : Outline) : Prop where
  before : outline entries k = none ∨ outline entries k = some .table ∧ o = .table
  after : ∀ other, outline entries' other = if other = k then some o else outline entries other

/-- Only a table is set where something was before, and what was there is a table too. -/
theorem Sets.eq_table {k : String} {o o' : Outline} (h : Sets entries entries' k o')
    (hk : outline entries k = some o) : o = .table ∧ o' = .table := by
  obtain hnone | ⟨htable, ho'⟩ := h.before
  · cases hk.symm.trans hnone
  · exact ⟨Option.some.inj (hk.symm.trans htable), ho'⟩

theorem outline_insert (entries : Entries) (k other : String) (node : Node) :
    outline (entries.insert k node) other =
      if other = k then some node.outline else outline entries other := by
  rw [outline, Table.get?_insert, apply_ite (Option.map Node.outline)]
  rfl

/-- To put a node under a new key sets the key. -/
theorem sets_insert {k : String} (h : entries.get? k = none) (node : Node) :
    Sets entries (entries.insert k node) k node.outline where
  before := .inl (congrArg (Option.map Node.outline) h)
  after other := outline_insert entries k other node

/-- To put a table in the place of a table leaves a table. -/
theorem sets_insert_of_table {k : String} {old new : Node} (h : entries.get? k = some old)
    (hold : old.outline = .table) (hnew : new.outline = .table) :
    Sets entries (entries.insert k new) k .table where
  before := .inr ⟨(congrArg (Option.map Node.outline) h).trans (congrArg some hold), rfl⟩
  after other := (outline_insert entries k other new).trans (by rw [hnew])

/-! ## One change -/

/-- A change inside of tables is inside of one table at the top. -/
theorem sets_alter {made : Origin} (origin : Origin) {change : Origin → Entries → Option Entries}
    {k : String} {path : List String}
    (h : alter made change (k :: path) origin entries = some entries') :
    Sets entries entries' k .table := by
  rw [alter] at h
  cases hk : entries.get? k with
  | none =>
    rw [hk] at h
    obtain ⟨inner, -, heq⟩ := Option.bind_eq_some_iff.1 h
    cases heq
    exact sets_insert hk (.table made inner)
  | some node =>
    rw [hk] at h
    cases node with
    | value v => cases h
    | tables earlier last =>
      obtain ⟨inner, -, heq⟩ := Option.bind_eq_some_iff.1 h
      cases heq
      exact sets_insert_of_table hk rfl rfl
    | table origin' inner =>
      obtain ⟨-, hsome⟩ := Option.ite_none_left_eq_some.1 h
      obtain ⟨inner', -, heq⟩ := Option.bind_eq_some_iff.1 hsome
      cases heq
      exact sets_insert_of_table hk rfl rfl

/-- The first key on a path, and what it becomes where the whole path is to become `o`. -/
def setting (o : Outline) : (path : List String) → Option (String × Outline)
  | [] => none
  | [k] => some (k, o)
  | k :: _ :: _ => some (k, .table)

/-- Only a path of one key makes a value of it. -/
theorem eq_of_setting {o : Outline} {path : List String} {k : String} {v : Value}
    (h : setting o path = some (k, .value v)) : o = .value v := by
  match path with
  | [] => cases h
  | [_] => exact (Prod.mk.inj (Option.some.inj h)).2
  | _ :: _ :: _ => cases h

/-- To change what stands under the last key of a path sets the first key on it. -/
theorem sets_atKey {made : Origin}
    {put : (way : List String) → String → Origin → Entries → Option Entries} {o : Outline}
    {path : List String}
    (hput : ∀ k entries', put [] k .header entries = some entries' → Sets entries entries' k o)
    (h : atKey made put path entries = some entries') :
    ∃ k o', setting o path = some (k, o') ∧ Sets entries entries' k o' := by
  match path with
  | [] => cases h
  | [k] => exact ⟨k, o, rfl, hput k entries' h⟩
  | k :: k' :: rest => exact ⟨k, .table, rfl, sets_alter .header h⟩

theorem sets_define {path : List String} {v : Value} (h : define path v entries = some entries') :
    ∃ k o, setting (.value v) path = some (k, o) ∧ Sets entries entries' k o := by
  refine sets_atKey (fun k inserted hput => ?_) h
  obtain ⟨hnew, heq⟩ := Option.ite_none_left_eq_some.1 hput
  cases heq
  exact sets_insert (Option.not_isSome_iff_eq_none.1 fun hhas => hnew (.inr hhas)) (.value v)

theorem sets_openTable {path : List String} (h : openTable path entries = some entries') :
    ∃ k o, setting .table path = some (k, o) ∧ Sets entries entries' k o := by
  refine sets_atKey (fun k opened hput => ?_) h
  split at hput
  · cases hput
    exact sets_insert ‹_› (.table .header {})
  · cases hput
    exact sets_insert_of_table ‹_› rfl rfl
  · cases hput

theorem sets_openArrayTable {path : List String} (h : openArrayTable path entries = some entries') :
    ∃ k o, setting .table path = some (k, o) ∧ Sets entries entries' k o := by
  refine sets_atKey (fun k opened hput => ?_) h
  split at hput
  · cases hput
    exact sets_insert ‹_› (.tables [] {})
  · cases hput
    exact sets_insert_of_table ‹_› rfl rfl
  · cases hput

end Entries

/-! ## One line -/

namespace Line

/-- The entries with the line added, which is below the header that `current` leads to. -/
def add (current : List String) : Line → Entries → Option Entries
  | .table path => Entries.openTable path
  | .arrayTable path => Entries.openArrayTable path
  | .entry path v => Entries.alter .implied (fun _ => Entries.define path v) current .header

/-- The table that the next line belongs to. -/
def next (current : List String) : Line → List String
  | .table path | .arrayTable path => path
  | .entry _ _ => current

/-- The key at the top that the line sets, and what it makes of it. -/
def setting (current : List String) : Line → Option (String × Outline)
  | .table path | .arrayTable path => Entries.setting .table path
  | .entry path v =>
    match current with
    | [] => Entries.setting (.value v) path
    | k :: _ => some (k, .table)

theorem entry_of_setting {current : List String} {line : Line} {k : String} {v : Value}
    (h : line.setting current = some (k, .value v)) : ∃ path, line = .entry path v := by
  cases line with
  | table path => cases Entries.eq_of_setting h
  | arrayTable path => cases Entries.eq_of_setting h
  | entry path w =>
    cases current with
    | nil =>
      cases Entries.eq_of_setting h
      exact ⟨path, rfl⟩
    | cons k way => cases h

theorem sets_add {current : List String} {line : Line} {entries entries' : Entries}
    (h : line.add current entries = some entries') :
    ∃ k o, line.setting current = some (k, o) ∧ Entries.Sets entries entries' k o := by
  cases line with
  | table path => exact Entries.sets_openTable h
  | arrayTable path => exact Entries.sets_openArrayTable h
  | entry path v =>
    cases current with
    | nil => exact Entries.sets_define h
    | cons k way => exact ⟨k, .table, rfl, Entries.sets_alter .header h⟩

end Line

/-! ## All lines -/

namespace Entries

/-- What the lines set at the top, in their order. -/
def settings (current : List String) : List Line → List (String × Outline)
  | [] => []
  | line :: rest => (line.setting current).toList ++ settings (line.next current) rest

theorem addLines_cons (current : List String) (line : Line) (rest : List Line) (entries : Entries) :
    addLines current (line :: rest) entries =
      (line.add current entries).bind (addLines (line.next current) rest) := by
  cases line <;> rfl

variable {current : List String} {lines : List Line} {final : Entries}

/-- The first of the lines sets one key, and the others go on from there. -/
theorem addLines_cons_eq_some {line : Line}
    (h : addLines current (line :: lines) entries = some final) :
    ∃ k o next, Sets entries next k o ∧
      settings current (line :: lines) = (k, o) :: settings (line.next current) lines ∧
      addLines (line.next current) lines next = some final := by
  rw [addLines_cons] at h
  obtain ⟨next, hadd, hrest⟩ := Option.bind_eq_some_iff.1 h
  obtain ⟨k, o, hset, hsets⟩ := line.sets_add hadd
  refine ⟨k, o, next, hsets, ?_, hrest⟩
  rw [settings, hset]
  rfl

/-- What stands under a key stays; else the first line that sets it tells. -/
theorem outline_addLines (h : addLines current lines entries = some final) (k : String) :
    outline final k = (outline entries k).or (Table.getFrom? k (settings current lines)) := by
  induction lines generalizing current entries with
  | nil =>
    cases h
    exact Option.or_none.symm
  | cons line rest ih =>
    obtain ⟨other, o, next, hsets, hsettings, hrest⟩ := addLines_cons_eq_some h
    rw [ih hrest, hsettings, Table.getFrom?, hsets.after]
    by_cases hk : k = other
    · subst hk
      rw [if_pos rfl, if_pos rfl, Option.some_or]
      cases hbefore : outline entries k with
      | none => rfl
      | some p =>
        obtain ⟨rfl, rfl⟩ := hsets.eq_table hbefore
        rfl
    · rw [if_neg hk, if_neg hk]

/-- A key that has something is set again only where both are tables. -/
theorem eq_table_of_mem_settings (h : addLines current lines entries = some final) {k : String}
    {o o' : Outline} (hk : outline entries k = some o) (hmem : (k, o') ∈ settings current lines) :
    o = .table ∧ o' = .table := by
  induction lines generalizing current entries o with
  | nil => cases hmem
  | cons line rest ih =>
    obtain ⟨other, p, next, hsets, hsettings, hrest⟩ := addLines_cons_eq_some h
    rw [hsettings] at hmem
    obtain heq | hlater := List.mem_cons.1 hmem
    · cases heq
      exact hsets.eq_table hk
    · by_cases hother : k = other
      · subst hother
        obtain ⟨rfl, rfl⟩ := hsets.eq_table hk
        exact ih hrest ((hsets.after k).trans (if_pos rfl)) hlater
      · exact ih hrest ((hsets.after k).trans ((if_neg hother).trans hk)) hlater

/-- A key is set twice only where it is a table both times. -/
theorem pairwise_settings (h : addLines current lines entries = some final) :
    (settings current lines).Pairwise fun a b => a.1 = b.1 → a.2 = .table ∧ b.2 = .table := by
  induction lines generalizing current entries with
  | nil => exact .nil
  | cons line rest ih =>
    obtain ⟨k, o, next, hsets, hsettings, hrest⟩ := addLines_cons_eq_some h
    rw [hsettings]
    refine .cons ?_ (ih hrest)
    rintro ⟨other, o'⟩ hmem rfl
    exact eq_table_of_mem_settings hrest ((hsets.after k).trans (if_pos rfl)) hmem

/-- A value that is set is found: no other line sets its key. -/
theorem getFrom?_of_pairwise {all : List (String × Outline)}
    (h : all.Pairwise fun a b => a.1 = b.1 → a.2 = .table ∧ b.2 = .table) {k : String} {v : Value}
    (hmem : (k, .value v) ∈ all) : Table.getFrom? k all = some (.value v) := by
  induction all with
  | nil => cases hmem
  | cons first rest ih =>
    obtain ⟨hfirst, hrest⟩ := List.pairwise_cons.1 h
    obtain heq | hlater := List.mem_cons.1 hmem
    · rw [← heq, Table.getFrom?, if_pos rfl]
    · have hne : k ≠ first.1 := by
        intro heq
        cases (hfirst _ hlater heq.symm).2
      rw [Table.getFrom?, if_neg hne, ih hrest hlater]

/-- A value is set by an entry. -/
theorem mem_lines_of_mem_settings {k : String} {v : Value}
    (h : (k, .value v) ∈ settings current lines) : ∃ path, .entry path v ∈ lines := by
  induction lines generalizing current with
  | nil => cases h
  | cons line rest ih =>
    obtain hfirst | hlater := List.mem_append.1 h
    · obtain ⟨path, rfl⟩ := line.entry_of_setting (Option.mem_toList.1 hfirst)
      exact ⟨path, List.mem_cons_self⟩
    · obtain ⟨path, hmem⟩ := ih hlater
      exact ⟨path, List.mem_cons_of_mem line hmem⟩

/-! ## Entries at the top -/

/-- A line for each key at the top, with its value. -/
def topLines (pairs : List (String × Value)) : List Line :=
  pairs.map fun p => .entry [p.1] p.2

theorem settings_topLines (pairs : List (String × Value)) :
    settings [] (topLines pairs) = pairs.map fun p => (p.1, .value p.2) := by
  induction pairs with
  | nil => rfl
  | cons p rest ih => exact congrArg ((p.1, Outline.value p.2) :: ·) ih

theorem define_of_get?_eq_none {k : String} (h : entries.get? k = none) (v : Value) :
    define [k] v entries = some (entries.insert k (.value v)) := by
  refine if_neg ?_
  rintro (⟨hway, -⟩ | hhas)
  · exact hway rfl
  · exact Option.not_isSome_iff_eq_none.2 h hhas

theorem isSome_addLines_topLines {pairs : List (String × Value)}
    (hnew : ∀ p ∈ pairs, entries.get? p.1 = none) (hnodup : (pairs.map Prod.fst).Nodup) :
    (addLines [] (topLines pairs) entries).isSome := by
  induction pairs generalizing entries with
  | nil => rfl
  | cons p rest ih =>
    obtain ⟨hp, hrest⟩ := List.forall_mem_cons.1 hnew
    obtain ⟨hnotin, hnodup⟩ := List.nodup_cons.1 hnodup
    have hadd : (Line.entry [p.1] p.2).add [] entries = some (entries.insert p.1 (.value p.2)) :=
      define_of_get?_eq_none hp p.2
    rw [topLines, List.map_cons, addLines_cons, hadd]
    refine ih (fun q hq => ?_) hnodup
    rw [Table.get?_insert, if_neg, hrest q hq]
    intro heq
    exact hnotin (heq ▸ List.mem_map_of_mem hq)

/-- Entries at the top make a document just if each key is given once. -/
theorem isSome_addLines_topLines_iff {pairs : List (String × Value)} :
    (addLines [] (topLines pairs) {}).isSome ↔ (pairs.map Prod.fst).Nodup := by
  constructor
  · intro h
    obtain ⟨final, hfinal⟩ := Option.isSome_iff_exists.1 h
    have hpairwise := pairwise_settings hfinal
    rw [settings_topLines, List.pairwise_map] at hpairwise
    refine List.pairwise_map.2 (hpairwise.imp fun hab heq => ?_)
    cases (hab heq).1
  · exact isSome_addLines_topLines fun _ _ => rfl

end Entries

end SlideDeck.Toml
