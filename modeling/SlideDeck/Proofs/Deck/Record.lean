import Mathlib.Data.List.Forall2
import Mathlib.Logic.Relation
import SlideDeck.Deck.Record

/-!
# Reading decks by their fields

A deck reads back from its serialized form. The form may have more fields in any of its records than
the deck has, and still is read as the same deck; it may not have fewer.

Results:
* `Datum.Extends.lookup`: a record to which fields were added still has the fields that it had.
* `Datum.Strict.list`, `Datum.Strict.record`: lists and records are read strictly if their items and
  fields are.
* `deck_reads_its_fields`: decks are read strictly.
-/

namespace SlideDeck

namespace Datum

/-! ## Changing the records of a value -/

/-- A field of a new name is added to the record. -/
inductive AddsField : Datum → Datum → Prop
  | intro (before after : List (String × Datum)) (name : String) (d : Datum) :
      name ∉ (before ++ after).map Prod.fst →
      AddsField (.record (before ++ after)) (.record (before ++ (name, d) :: after))

/-- A field is removed from the record. -/
inductive RemovesField : Datum → Datum → Prop
  | intro (before after : List (String × Datum)) (name : String) (d : Datum) :
      RemovesField (.record (before ++ (name, d) :: after)) (.record (before ++ after))

/-- One value is changed: this one, or one in a field or an item of it. -/
inductive Inside (R : Datum → Datum → Prop) : Datum → Datum → Prop
  | here {d d' : Datum} : R d d' → Inside R d d'
  | field {d d' : Datum} (before after : List (String × Datum)) (name : String) : Inside R d d' →
      Inside R (.record (before ++ (name, d) :: after)) (.record (before ++ (name, d') :: after))
  | item {d d' : Datum} (before after : List Datum) : Inside R d d' →
      Inside R (.list (before ++ d :: after)) (.list (before ++ d' :: after))

/-- Only records are changed. -/
def OnRecords (R : Datum → Datum → Prop) : Prop :=
  ∀ d d', R d d' → ∃ fields, d = .record fields

theorem onRecords_addsField : OnRecords AddsField := by
  rintro _ _ ⟨before, after, name, d, -⟩
  exact ⟨_, rfl⟩

theorem onRecords_removesField : OnRecords RemovesField := by
  rintro _ _ ⟨before, after, name, d⟩
  exact ⟨_, rfl⟩

/-- Fields are added, to the record or to records inside. -/
def Extends : Datum → Datum → Prop := Relation.ReflTransGen (Inside AddsField)

/-- One of the items is changed. -/
inductive ChangesOne (R : Datum → Datum → Prop) : List Datum → List Datum → Prop
  | head {d d' : Datum} (items : List Datum) : R d d' → ChangesOne R (d :: items) (d' :: items)
  | tail (d : Datum) {items items' : List Datum} : ChangesOne R items items' →
      ChangesOne R (d :: items) (d :: items')

/-- The value has no parts. -/
def IsLeaf : Datum → Prop
  | list _ | record _ => False
  | _ => True

section

variable {R : Datum → Datum → Prop} {d d' : Datum} {items : List Datum}
  {before after fields : List (String × Datum)} {name : String}

theorem changesOne_append (h : R d d') (before after : List Datum) :
    ChangesOne R (before ++ d :: after) (before ++ d' :: after) := by
  induction before with
  | nil => exact .head after h
  | cons b before ih => exact .tail b ih

/-- What changes in a list is an item. -/
theorem Inside.changesOne (hR : OnRecords R) (h : Inside R (.list items) d') :
    ∃ items', d' = .list items' ∧ ChangesOne (Inside R) items items' := by
  cases h with
  | here h =>
    obtain ⟨fields, hrecord⟩ := hR _ _ h
    cases hrecord
  | item before after h => exact ⟨_, rfl, changesOne_append h before after⟩

/-- Nothing changes in a leaf. -/
theorem IsLeaf.not_inside (hleaf : d.IsLeaf) (hR : OnRecords R) : ¬Inside R d d' := by
  intro h
  cases h with
  | here h =>
    obtain ⟨fields, rfl⟩ := hR _ _ h
    exact hleaf
  | field | item => exact hleaf

/-! ## Looking up fields -/

theorem lookup_eq_none (h : name ∉ fields.map Prod.fst) : fields.lookup name = none := by
  refine List.lookup_eq_none_iff.2 fun field hfield => bne_iff_ne.2 ?_
  rintro rfl
  exact h (List.mem_map_of_mem hfield)

theorem lookup_middle (h : before.lookup name = none) :
    (before ++ (name, d) :: after).lookup name = some d := by
  rw [List.lookup_append, h, List.lookup_cons_self, Option.none_or]

theorem lookup_middle_of_ne {other : String} (h : name ≠ other) :
    (before ++ (other, d) :: after).lookup name = (before ++ after).lookup name := by
  rw [List.lookup_append, List.lookup_append, List.lookup_cons, beq_false_of_ne h]

/-! ## Adding fields -/

theorem Extends.refl (d : Datum) : d.Extends d := Relation.ReflTransGen.refl

/-- Where a field is added, the other ones are found as before; where one is added inside a field,
so is this one. -/
theorem lookup_of_inside_addsField (h : Inside AddsField (.record fields) d') :
    ∃ fields', d' = .record fields' ∧ ∀ name d, fields.lookup name = some d →
      ∃ d', fields'.lookup name = some d' ∧ d.Extends d' := by
  generalize hrecord : Datum.record fields = whole at h
  cases h with
  | here h =>
    obtain ⟨before, after, added, x, hadded⟩ := h
    obtain rfl := Datum.record.inj hrecord
    refine ⟨_, rfl, fun name d hd => ⟨d, ?_, .refl d⟩⟩
    have hname : name ≠ added := by
      rintro rfl
      rw [lookup_eq_none hadded] at hd
      cases hd
    rw [lookup_middle_of_ne hname, hd]
  | @field x x' before after changed h =>
    obtain rfl := Datum.record.inj hrecord
    refine ⟨_, rfl, fun name d hd => ?_⟩
    by_cases hname : name = changed
    case neg =>
      rw [lookup_middle_of_ne hname] at hd
      exact ⟨d, by rw [lookup_middle_of_ne hname, hd], .refl d⟩
    subst hname
    cases hbefore : before.lookup name with
    | some _ =>
      rw [List.lookup_append, hbefore] at hd
      exact ⟨d, by rw [List.lookup_append, hbefore, ← hd]; rfl, .refl d⟩
    | none =>
      obtain rfl : x = d := Option.some.inj ((lookup_middle hbefore).symm.trans hd)
      exact ⟨x', lookup_middle hbefore, .single h⟩
  | item => cases hrecord

/-- A record to which fields were added still has the fields that it had. -/
theorem Extends.lookup (h : (Datum.record fields).Extends d') :
    ∃ fields', d' = .record fields' ∧ ∀ name d, fields.lookup name = some d →
      ∃ d', fields'.lookup name = some d' ∧ d.Extends d' := by
  induction h with
  | refl => exact ⟨fields, rfl, fun name d hd => ⟨d, hd, .refl d⟩⟩
  | tail _ hstep ih =>
    obtain ⟨middle, rfl, hmiddle⟩ := ih
    obtain ⟨fields', rfl, hfields'⟩ := lookup_of_inside_addsField hstep
    refine ⟨fields', rfl, fun name d hd => ?_⟩
    obtain ⟨x, hx, hdx⟩ := hmiddle name d hd
    obtain ⟨y, hy, hxy⟩ := hfields' name x hx
    exact ⟨y, hy, hdx.trans hxy⟩

theorem forall₂_extends_changesOne {items items' items'' : List Datum}
    (h : List.Forall₂ Extends items items') (h' : ChangesOne (Inside AddsField) items' items'') :
    List.Forall₂ Extends items items'' := by
  induction h' generalizing items with
  | head rest hd =>
    obtain ⟨d, items, hd', hrest, rfl⟩ := List.forall₂_cons_right_iff.1 h
    exact .cons (hd'.tail hd) hrest
  | tail d' hrest' ih =>
    obtain ⟨d, items, hd', hrest, rfl⟩ := List.forall₂_cons_right_iff.1 h
    exact .cons hd' (ih hrest)

/-- In a list, fields are added in the items. -/
theorem Extends.forall₂ (h : (Datum.list items).Extends d') :
    ∃ items', d' = .list items' ∧ List.Forall₂ Extends items items' := by
  induction h with
  | refl => exact ⟨items, rfl, List.forall₂_same.2 fun d _ => .refl d⟩
  | tail _ hstep ih =>
    obtain ⟨middle, rfl, hmiddle⟩ := ih
    obtain ⟨items', rfl, hitems'⟩ := hstep.changesOne onRecords_addsField
    exact ⟨items', rfl, forall₂_extends_changesOne hmiddle hitems'⟩

theorem IsLeaf.eq_of_extends (hleaf : d.IsLeaf) (h : d.Extends d') : d' = d := by
  induction h with
  | refl => rfl
  | tail _ hstep ih =>
    subst ih
    exact absurd hstep (hleaf.not_inside onRecords_addsField)

end

/-! ## Strict reading -/

section

variable {α β : Type} {encode : α → Datum} {decode? : Datum → Option α}

/-- What is written is read with any fields that are added, and with none that is removed. -/
structure Strict (encode : α → Datum) (decode? : Datum → Option α) : Prop where
  added : ∀ a d, (encode a).Extends d → decode? d = some a
  removed : ∀ a d, Inside RemovesField (encode a) d → decode? d = none

theorem Strict.leaf (hleaf : ∀ a, (encode a).IsLeaf) (h : ∀ a, decode? (encode a) = some a) :
    Strict encode decode? where
  added a d hd := by rw [(hleaf a).eq_of_extends hd, h]
  removed a _ hd := absurd hd ((hleaf a).not_inside onRecords_removesField)

/-- The items of a list, each of which is read. -/
def listOf? (decode? : Datum → Option α) (d : Datum) : Option (List α) :=
  d.list?.bind fun items => items.mapM decode?

theorem mapM_eq_some_of_forall₂ {items : List Datum} {as : List α}
    (h : List.Forall₂ (fun d a => decode? d = some a) items as) :
    items.mapM decode? = some as := by
  induction h with
  | nil => rfl
  | cons hd _ ih => simp [hd, ih]

theorem mapM_eq_none_of_changesOne {R : Datum → Datum → Prop} {as : List α} {items : List Datum}
    (hR : ∀ a d, R (encode a) d → decode? d = none) (h : ChangesOne R (as.map encode) items) :
    items.mapM decode? = none := by
  induction as generalizing items with
  | nil => cases h
  | cons a as ih =>
    cases h with
    | head _ hd => simp [hR a _ hd]
    | tail _ hrest => simp [ih hrest]

theorem Strict.list (h : Strict encode decode?) :
    Strict (fun as => .list (as.map encode)) (listOf? decode?) where
  added as d hd := by
    obtain ⟨items, rfl, hitems⟩ := hd.forall₂
    refine mapM_eq_some_of_forall₂ (List.Forall₂.flip ?_)
    exact (List.forall₂_map_left_iff.1 hitems).imp h.added
  removed as d hd := by
    obtain ⟨items, rfl, hitems⟩ := hd.changesOne onRecords_removesField
    exact mapM_eq_none_of_changesOne h.removed hitems

/-- A field that every record of a kind has. -/
structure Field (α : Type) where
  name : String
  encode : α → Datum
  /-- The value reads as that of the field. -/
  Reads : Datum → α → Prop
  added : ∀ a d, (encode a).Extends d → Reads d a
  removed : ∀ a a' d, Inside RemovesField (encode a) d → ¬Reads d a'

namespace Field

/-- A field whose value is strictly read. -/
def of {encode : β → Datum} {decode? : Datum → Option β} (name : String) (get : α → β)
    (h : Strict encode decode?) : Field α where
  name := name
  encode a := encode (get a)
  Reads d a := decode? d = some (get a)
  added a d hd := h.added (get a) d hd
  removed a a' d hd := by simp [h.removed (get a) d hd]

/-- The record has the field, with the value of `a`. -/
def Found (fields : List (String × Datum)) (a : α) (f : Field α) : Prop :=
  ∃ d, fields.lookup f.name = some d ∧ f.Reads d a

theorem found_of {encode : β → Datum} {decode? : Datum → Option β} {name : String} {get : α → β}
    {h : Strict encode decode?} {fields : List (String × Datum)} {a : α} :
    (of name get h).Found fields a ↔
      ∃ d, fields.lookup name = some d ∧ decode? d = some (get a) := Iff.rfl

/-- The field as it is written. -/
def entry (a : α) (f : Field α) : String × Datum := (f.name, f.encode a)

variable {schema : List (Field α)} {a : α} {name : String} {d : Datum}
  {before after : List (String × Datum)}

/-- Each entry is that of a field, and no other entry has its name. -/
theorem of_map_entry (hnames : (schema.map Field.name).Nodup)
    (h : schema.map (entry a) = before ++ (name, d) :: after) :
    (∃ f ∈ schema, f.name = name ∧ f.encode a = d) ∧
      before.lookup name = none ∧ after.lookup name = none := by
  have hmem : (name, d) ∈ schema.map (entry a) := by simp [h]
  obtain ⟨f, hf, hentry⟩ := List.mem_map.1 hmem
  have hmap : schema.map Field.name = before.map Prod.fst ++ name :: after.map Prod.fst := by
    simpa [entry, Function.comp_def] using congrArg (List.map Prod.fst) h
  rw [hmap, List.nodup_append, List.nodup_cons] at hnames
  obtain ⟨-, ⟨hafter, -⟩, hbefore⟩ := hnames
  refine ⟨⟨f, hf, congrArg Prod.fst hentry, congrArg Prod.snd hentry⟩, lookup_eq_none ?_,
    lookup_eq_none hafter⟩
  exact fun hname => hbefore name hname name List.mem_cons_self rfl

theorem lookup_entry (hnames : (schema.map Field.name).Nodup) {f : Field α} (hf : f ∈ schema)
    (a : α) : (schema.map (entry a)).lookup f.name = some (f.encode a) := by
  obtain ⟨before, after, h⟩ := List.append_of_mem (List.mem_map_of_mem (f := entry a) hf)
  rw [h]
  exact lookup_middle (of_map_entry hnames h).2.1

end Field

/-- A record is strictly read if it is read as what its fields are read as. -/
theorem Strict.record (schema : List (Field α)) (hnames : (schema.map Field.name).Nodup)
    (hencode : ∀ a, encode a = .record (schema.map (Field.entry a)))
    (hdecode : ∀ fields a, decode? (.record fields) = some a ↔ ∀ f ∈ schema, f.Found fields a) :
    Strict encode decode? where
  added a d hd := by
    rw [hencode] at hd
    obtain ⟨fields, rfl, hfields⟩ := hd.lookup
    refine (hdecode fields a).2 fun f hf => ?_
    obtain ⟨d, hlookup, hd⟩ := hfields _ _ (Field.lookup_entry hnames hf a)
    exact ⟨d, hlookup, f.added a d hd⟩
  removed a d hd := by
    rw [hencode] at hd
    generalize hwritten : schema.map (Field.entry a) = fields at hd
    refine Option.eq_none_iff_forall_ne_some.2 fun a' ha' => ?_
    -- whatever it were read as, the field that was removed or changed would have to be found
    cases hd with
    | here h =>
      obtain ⟨before, after, name, x⟩ := h
      obtain ⟨⟨f, hf, rfl, -⟩, hbefore, hafter⟩ := Field.of_map_entry hnames hwritten
      obtain ⟨d, hlookup, -⟩ := (hdecode _ a').1 ha' f hf
      rw [List.lookup_append, hbefore, hafter] at hlookup
      cases hlookup
    | field before after name h =>
      obtain ⟨⟨f, hf, rfl, rfl⟩, hbefore, -⟩ := Field.of_map_entry hnames hwritten
      obtain ⟨d, hlookup, hreads⟩ := (hdecode _ a').1 ha' f hf
      rw [lookup_middle hbefore] at hlookup
      obtain rfl := Option.some.inj hlookup
      exact f.removed a a' _ h hreads

theorem byte_strict : Strict byte byte? := .leaf (fun _ => trivial) byte?_byte

theorem text_strict : Strict text text? := .leaf (fun _ => trivial) text?_text

end

section

variable {α : Type} {fields : List (String × Datum)} {name : String} {names : List String}
  {f : List Datum → Option α}

theorem bind_fields?_nil : ((record fields).fields? []).bind f = f [] := rfl

theorem bind_fields?_cons :
    ((record fields).fields? (name :: names)).bind f =
      (fields.lookup name).bind fun d =>
        ((record fields).fields? names).bind fun ds => f (d :: ds) := by
  simp [fields?, Option.bind_assoc]

end

end Datum

/-! ## Decks -/

theorem Justification.strict : Datum.Strict encode decode? :=
  .leaf (fun _ => trivial) decode?_encode

theorem Color.strict : Datum.Strict encode decode? := by
  refine .record [.of "r" r Datum.byte_strict, .of "g" g Datum.byte_strict,
    .of "b" b Datum.byte_strict, .of "a" a Datum.byte_strict] (by decide) (fun _ => rfl)
    fun fields c => ?_
  simp only [decode?, Option.bind_eq_bind, Datum.bind_fields?_cons, Datum.bind_fields?_nil,
    Option.bind_eq_some_iff, Option.some.injEq, List.forall_mem_cons, Datum.Field.found_of]
  constructor
  · rintro ⟨r, hr, g, hg, b, hb, a, ha, _, hr', _, hg', _, hb', _, ha', rfl⟩
    exact ⟨⟨r, hr, hr'⟩, ⟨g, hg, hg'⟩, ⟨b, hb, hb'⟩, ⟨a, ha, ha'⟩, List.forall_mem_nil _⟩
  · rintro ⟨⟨r, hr, hr'⟩, ⟨g, hg, hg'⟩, ⟨b, hb, hb'⟩, ⟨a, ha, ha'⟩, -⟩
    exact ⟨r, hr, g, hg, b, hb, a, ha, _, hr', _, hg', _, hb', _, ha', rfl⟩

theorem Style.strict : Datum.Strict encode decode? := by
  refine .record [.of "font" font Datum.text_strict, .of "size" size Datum.byte_strict,
    .of "color" color Color.strict, .of "justification" justification Justification.strict]
    (by decide) (fun _ => rfl) fun fields s => ?_
  simp only [decode?, Option.bind_eq_bind, Datum.bind_fields?_cons, Datum.bind_fields?_nil,
    Option.bind_eq_some_iff, Option.some.injEq, List.forall_mem_cons, Datum.Field.found_of]
  constructor
  · rintro ⟨f, hf, s, hs, c, hc, j, hj, _, hf', _, hs', _, hc', _, hj', rfl⟩
    exact ⟨⟨f, hf, hf'⟩, ⟨s, hs, hs'⟩, ⟨c, hc, hc'⟩, ⟨j, hj, hj'⟩, List.forall_mem_nil _⟩
  · rintro ⟨⟨f, hf, hf'⟩, ⟨s, hs, hs'⟩, ⟨c, hc, hc'⟩, ⟨j, hj, hj'⟩, -⟩
    exact ⟨f, hf, s, hs, c, hc, j, hj, _, hf', _, hs', _, hc', _, hj', rfl⟩

theorem Block.strict : Datum.Strict encode decode? := by
  refine .record [.of "text" text Datum.text_strict, .of "style" style Style.strict] (by decide)
    (fun _ => rfl) fun fields b => ?_
  simp only [decode?, Option.bind_eq_bind, Datum.bind_fields?_cons, Datum.bind_fields?_nil,
    Option.bind_eq_some_iff, Option.some.injEq, List.forall_mem_cons, Datum.Field.found_of]
  constructor
  · rintro ⟨t, ht, s, hs, _, ht', _, hs', rfl⟩
    exact ⟨⟨t, ht, ht'⟩, ⟨s, hs, hs'⟩, List.forall_mem_nil _⟩
  · rintro ⟨⟨t, ht, ht'⟩, ⟨s, hs, hs'⟩, -⟩
    exact ⟨t, ht, s, hs, _, ht', _, hs', rfl⟩

theorem Slide.strict : Datum.Strict encode decode? := by
  refine .record [.of "background" background Color.strict, .of "blocks" blocks Block.strict.list]
    (by decide) (fun _ => rfl) fun fields s => ?_
  simp only [decode?, Option.bind_eq_bind, Datum.bind_fields?_cons, Datum.bind_fields?_nil,
    Option.bind_eq_some_iff, Option.some.injEq, List.forall_mem_cons, Datum.Field.found_of,
    Datum.listOf?]
  constructor
  · rintro ⟨c, hc, b, hb, _, hc', _, hb', _, hitems, rfl⟩
    exact ⟨⟨c, hc, hc'⟩, ⟨b, hb, _, hb', hitems⟩, List.forall_mem_nil _⟩
  · rintro ⟨⟨c, hc, hc'⟩, ⟨b, hb, _, hb', hitems⟩, -⟩
    exact ⟨c, hc, b, hb, _, hc', _, hb', _, hitems, rfl⟩

theorem Deck.strict : Datum.Strict encode decode? := by
  refine .record [.of "slides" slides Slide.strict.list] (by decide) (fun _ => rfl)
    fun fields d => ?_
  simp only [decode?, Option.bind_eq_bind, Datum.bind_fields?_cons, Datum.bind_fields?_nil,
    Option.bind_eq_some_iff, Option.some.injEq, List.forall_mem_cons, Datum.Field.found_of,
    Datum.listOf?]
  constructor
  · rintro ⟨s, hs, _, hs', _, hitems, rfl⟩
    exact ⟨⟨s, hs, _, hs', hitems⟩, List.forall_mem_nil _⟩
  · rintro ⟨⟨s, hs, _, hs', hitems⟩, -⟩
    exact ⟨s, hs, _, hs', _, hitems, rfl⟩

/-- A deck reads back from its serialized form. It also does if fields of other names are added to
any of the records, and does not if a field is removed from one of them. -/
theorem deck_reads_its_fields (deck : Deck) :
    Deck.decode? deck.encode = some deck ∧
    (∀ d, deck.encode.Extends d → Deck.decode? d = some deck) ∧
    ∀ d, Datum.Inside Datum.RemovesField deck.encode d → Deck.decode? d = none :=
  ⟨Deck.decode?_encode deck, Deck.strict.added deck, Deck.strict.removed deck⟩

/-- A deck of a white slide is read with a version and a color space in it, and not without how
opaque the slide is. -/
theorem deck_reads_its_fields_background :
    let deck : Deck := ⟨[{}]⟩
    let rgb : List (String × Datum) :=
      [("r", .integer 255), ("g", .integer 255), ("b", .integer 255)]
    let opacity : List (String × Datum) := [("a", .integer 255)]
    let form (more background : List (String × Datum)) : Datum :=
      .record (more ++ [("slides", .list [.record [("background", .record background),
        ("blocks", .list [])]])])
    deck.encode = form [] (rgb ++ opacity) ∧
    Deck.decode? (form [("version", .integer 1)] (rgb ++ ("space", .text "sRGB") :: opacity)) =
      some deck ∧
    Deck.decode? (form [] rgb) = none := by
  intro deck rgb opacity form
  obtain ⟨-, hadded, hremoved⟩ := deck_reads_its_fields deck
  have hform : deck.encode = form [] (rgb ++ opacity) := rfl
  have hspace : Datum.Inside Datum.AddsField (form [] (rgb ++ opacity))
      (form [] (rgb ++ ("space", .text "sRGB") :: opacity)) :=
    .field [] [] "slides" (.item [] [] (.field [] _ "background"
      (.here (.intro rgb opacity "space" _ (by decide)))))
  refine ⟨hform, hadded _ ?_, hremoved _ ?_⟩
  · rw [hform]
    exact .tail (.single hspace) (.here (.intro [] _ "version" _ (by decide)))
  · rw [hform]
    exact .field [] [] "slides" (.item [] [] (.field [] _ "background"
      (.here (.intro rgb [] "a" _))))

end SlideDeck
