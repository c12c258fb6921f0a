import SlideDeck.Config.Toml
import SlideDeck.Proofs.Toml.Reader
import SlideDeck.Proofs.Toml.Tree

/-!
# The depth that a document sets

A document that does not set the depth leaves the default, whatever else it holds. One that sets it
gives it one integer from 0 on, at the top, and the depth is that number; no document leaves replays
without a bound. A number that is written in decimal is read back.

Results:
* `Config.ofToml_eq_ok_iff`, `Config.ofToml_eq_malformed_iff`: what a text is read as.
* `Config.ofToml_written`: entries with integers, as they are written.
-/

namespace SlideDeck

open Toml

/-- The text is a document of these lines: each of them is well formed, and no key is defined
twice. -/
def Toml.IsDocument (text : List Char) (ls : List Line) : Prop :=
  Reader.lines (text.length + 1) (dropMark text) = some ls ∧
    (Entries.addLines [] ls {}).isSome

namespace Config

/-- The configuration that what stands under the key sets. -/
def ofOutline : Option Outline → Except ConfigError Config
  | none => .ok {}
  | some (.value (.integer n)) =>
    if 0 ≤ n then .ok ⟨some (UInt64.ofNat n.toNat)⟩ else .error .invalidDepth
  | some _ => .error .invalidDepth

theorem ofEntries_eq (entries : Entries) :
    ofEntries entries = ofOutline (Entries.outline entries "max_macro_depth") := by
  rw [ofEntries, Entries.outline]
  cases entries.get? "max_macro_depth" with
  | none => rfl
  | some node =>
    cases node with
    | value v => cases v <;> rfl
    | table origin inner => rfl
    | tables earlier last => rfl

theorem ofOutline_ne_malformed (o : Option Outline) : ofOutline o ≠ .error .malformed := by
  unfold ofOutline
  split
  · exact nofun
  · split <;> exact nofun
  · exact nofun

/-- An integer of 64 bits with sign is a depth as it is, if it is not negative. -/
theorem ofOutline_eq_ok_iff {o : Option Outline} {config : Config}
    (hsmall : ∀ n, o = some (.value (.integer n)) → IsInt64 n) :
    ofOutline o = .ok config ↔ config = {} ∧ o = none ∨
      ∃ depth : UInt64, config = ⟨some depth⟩ ∧ o = some (.value (.integer depth.toNat)) := by
  constructor
  · intro h
    unfold ofOutline at h
    split at h
    · cases h
      exact .inl ⟨rfl, rfl⟩
    · rename_i n
      by_cases hn : 0 ≤ n
      · rw [if_pos hn] at h
        cases h
        have hmax : Int64.maxValue.toInt < UInt64.size := by decide
        have hlt : n.toNat < UInt64.size := by
          have hle := (hsmall n rfl).2
          omega
        refine .inr ⟨UInt64.ofNat n.toNat, rfl, ?_⟩
        rw [UInt64.toNat_ofNat_of_lt' hlt, Int.toNat_of_nonneg hn]
      · rw [if_neg hn] at h
        cases h
    · cases h
  · rintro (⟨rfl, rfl⟩ | ⟨depth, rfl, rfl⟩)
    · rfl
    · rw [ofOutline, if_pos (Int.natCast_nonneg _), Int.toNat_natCast, UInt64.ofNat_toNat]

/-! ## Any text -/

/-- In a document, the line that sets the depth tells. -/
theorem ofToml_of_isDocument {text : String} {ls : List Line} (h : IsDocument text.toList ls) :
    ofToml text = ofOutline (Table.getFrom? "max_macro_depth" (Entries.settings [] ls)) := by
  obtain ⟨hlines, hsome⟩ := h
  obtain ⟨entries, hentries⟩ := Option.isSome_iff_exists.1 hsome
  have hdocument : document? text.toList = some entries :=
    Option.bind_eq_some_iff.2 ⟨ls, hlines, hentries⟩
  rw [ofToml, hdocument]
  show ofEntries entries = _
  rw [ofEntries_eq, Entries.outline_addLines hentries]
  rfl

theorem ofToml_of_not_isDocument {text : String} (h : ∀ ls, ¬ IsDocument text.toList ls) :
    ofToml text = .error .malformed := by
  cases hdocument : document? text.toList with
  | none => rw [ofToml, hdocument]
  | some entries =>
    obtain ⟨ls, hlines, hentries⟩ := Option.bind_eq_some_iff.1 hdocument
    exact absurd ⟨hlines, Option.isSome_iff_exists.2 ⟨entries, hentries⟩⟩ (h ls)

/-- Only a text that is no document is malformed. -/
theorem ofToml_eq_malformed_iff {text : String} :
    ofToml text = .error .malformed ↔ ∀ ls, ¬ IsDocument text.toList ls := by
  refine ⟨fun h ls hdocument => ?_, ofToml_of_not_isDocument⟩
  exact ofOutline_ne_malformed _ ((ofToml_of_isDocument hdocument).symm.trans h)

theorem ofToml_eq_ok_iff_of_isDocument {text : String} {config : Config} {ls : List Line}
    (h : IsDocument text.toList ls) : ofToml text = .ok config ↔
      config = {} ∧ "max_macro_depth" ∉ (Entries.settings [] ls).map Prod.fst ∨
        ∃ depth : UInt64, config = ⟨some depth⟩ ∧
          ("max_macro_depth", .value (.integer depth.toNat)) ∈ Entries.settings [] ls := by
  obtain ⟨final, hfinal⟩ := Option.isSome_iff_exists.1 h.2
  have hvalue : ∀ n, Table.getFrom? "max_macro_depth" (Entries.settings [] ls) =
      some (.value (.integer n)) ↔
        ("max_macro_depth", .value (.integer n)) ∈ Entries.settings [] ls := fun n =>
    ⟨Table.mem_of_getFrom?, Entries.getFrom?_of_pairwise (Entries.pairwise_settings hfinal)⟩
  have hsmall : ∀ n, Table.getFrom? "max_macro_depth" (Entries.settings [] ls) =
      some (.value (.integer n)) → IsInt64 n := by
    intro n hn
    obtain ⟨path, hmem⟩ := Entries.mem_lines_of_mem_settings ((hvalue n).1 hn)
    exact Reader.fits_of_mem_lines h.1 _ hmem path _ rfl n rfl
  rw [ofToml_of_isDocument h, ofOutline_eq_ok_iff hsmall, Table.getFrom?_eq_none_iff]
  simp only [hvalue]

/-- A text is a configuration if it is a document that sets the depth to a number, or does not set
it. -/
theorem ofToml_eq_ok_iff {text : String} {config : Config} :
    ofToml text = .ok config ↔ ∃ ls, IsDocument text.toList ls ∧
      (config = {} ∧ "max_macro_depth" ∉ (Entries.settings [] ls).map Prod.fst ∨
        ∃ depth : UInt64, config = ⟨some depth⟩ ∧
          ("max_macro_depth", .value (.integer depth.toNat)) ∈ Entries.settings [] ls) := by
  constructor
  · intro h
    obtain ⟨ls, hdocument⟩ : ∃ ls, IsDocument text.toList ls := by
      by_contra hnone
      cases h.symm.trans (ofToml_of_not_isDocument (not_exists.1 hnone))
    exact ⟨ls, hdocument, (ofToml_eq_ok_iff_of_isDocument hdocument).1 h⟩
  · rintro ⟨ls, hdocument, h⟩
    exact (ofToml_eq_ok_iff_of_isDocument hdocument).2 h

/-! ## Entries with integers -/

theorem dropMark_written {entries : List (String × Int)}
    (hnames : ∀ entry ∈ entries, MadeOf Reader.isBare entry.1.toList) :
    dropMark (Reader.written entries) = Reader.written entries := by
  cases entries with
  | nil => rfl
  | cons entry rest =>
    obtain ⟨k, i⟩ := entry
    obtain ⟨c, tail, hk, hc⟩ := (hnames (k, i) List.mem_cons_self).exists_cons
    have hfirst : c ≠ '\ufeff' := by
      rintro rfl
      cases hc
    rw [Reader.written, hk]
    unfold dropMark
    split
    · rename_i heq
      exact absurd (List.cons.inj heq).1 hfirst
    · rfl

/-- Entries that are written on lines of their own are a document if no key comes twice and each
integer has 64 bits. -/
theorem isDocument_written {entries : List (String × Int)}
    (hnames : ∀ entry ∈ entries, MadeOf Reader.isBare entry.1.toList) {ls : List Line} :
    IsDocument (Reader.written entries) ls ↔
      ((∀ entry ∈ entries, IsInt64 entry.2) ∧ (entries.map Prod.fst).Nodup) ∧
        ls = Entries.topLines (entries.map fun entry => (entry.1, .integer entry.2)) := by
  have hlines : entries.map (fun entry => Line.entry [entry.1] (.integer entry.2)) =
      Entries.topLines (entries.map fun entry => (entry.1, .integer entry.2)) := by
    rw [Entries.topLines, List.map_map]
    rfl
  have hkeys : (entries.map fun entry => (entry.1, Toml.Value.integer entry.2)).map Prod.fst =
      entries.map Prod.fst := by
    rw [List.map_map]
    rfl
  rw [IsDocument, dropMark_written hnames, Reader.lines_written hnames (Nat.lt_succ_self _),
    Option.ite_none_right_eq_some, Option.some.injEq, hlines]
  constructor
  · rintro ⟨⟨hsmall, rfl⟩, hsome⟩
    exact ⟨⟨hsmall, hkeys ▸ Entries.isSome_addLines_topLines_iff.1 hsome⟩, rfl⟩
  · rintro ⟨⟨hsmall, hnodup⟩, rfl⟩
    exact ⟨⟨hsmall, rfl⟩, Entries.isSome_addLines_topLines_iff.2 (hkeys ▸ hnodup)⟩

/-- Entries that are written with integers give the depth as it is written. They are malformed only
where a key comes twice or an integer has more than 64 bits. -/
theorem ofToml_written {entries : List (String × Int)}
    (hnames : ∀ entry ∈ entries, MadeOf Reader.isBare entry.1.toList) :
    ofToml (String.ofList (Reader.written entries)) =
      if (∀ entry ∈ entries, IsInt64 entry.2) ∧ (entries.map Prod.fst).Nodup then
        match Table.getFrom? "max_macro_depth" entries with
        | none => .ok {}
        | some n => if 0 ≤ n then .ok ⟨some (UInt64.ofNat n.toNat)⟩ else .error .invalidDepth
      else .error .malformed := by
  have htext : (String.ofList (Reader.written entries)).toList = Reader.written entries :=
    String.toList_ofList
  by_cases h : (∀ entry ∈ entries, IsInt64 entry.2) ∧ (entries.map Prod.fst).Nodup
  · have hdocument := (isDocument_written hnames).2 ⟨h, rfl⟩
    rw [if_pos h, ofToml_of_isDocument (htext ▸ hdocument), Entries.settings_topLines,
      Table.getFrom?_map_entries, Table.getFrom?_map_entries]
    cases Table.getFrom? "max_macro_depth" entries <;> rfl
  · rw [if_neg h]
    refine ofToml_of_not_isDocument fun ls hdocument => ?_
    rw [htext] at hdocument
    exact h ((isDocument_written hnames).1 hdocument).1

end Config

end SlideDeck
