/-!
# Sets of code points as sorted ranges

A Unicode property is a table of closed ranges of code points in ascending order, without overlap.
The search stops at the first range that ends at or after the code point asked for.

Results:
* `Ranges.contains_eq_any`: on a sorted table, the search finds exactly the code points that some
  range holds.
-/

namespace SlideDeck.Unicode

/-- Closed ranges of code points, the first and the last of each. -/
abbrev Ranges := List (Nat × Nat)

namespace Ranges

/-- Whether one of the ranges, in ascending order, holds `n`. -/
def contains : Ranges → Nat → Bool
  | [], _ => false
  | (first, last) :: rest, n => if n ≤ last then first ≤ n else contains rest n

/-- Each range is non-empty and ends before the next one starts. -/
def isSorted : Ranges → Bool
  | [] => true
  | [(first, last)] => first ≤ last
  | (first, last) :: (first', last') :: rest =>
    first ≤ last && last < first' && isSorted ((first', last') :: rest)

theorem le_of_isSorted {first last : Nat} {rest : Ranges}
    (h : isSorted ((first, last) :: rest) = true) :
    ∀ range ∈ rest, last < range.1 := by
  induction rest generalizing first last with
  | nil => simp
  | cons next rest ih =>
    obtain ⟨first', last'⟩ := next
    simp only [isSorted, Bool.and_eq_true, decide_eq_true_eq] at h
    obtain ⟨⟨-, hlt⟩, hrest⟩ := h
    intro range hmem
    rcases List.mem_cons.1 hmem with rfl | hmem
    · exact hlt
    · have hnext : first' ≤ last' := by
        cases rest <;> simp_all [isSorted]
      have := ih hrest range hmem
      omega

theorem isSorted_tail {range : Nat × Nat} {rest : Ranges} (h : isSorted (range :: rest) = true) :
    isSorted rest = true := by
  cases rest with
  | nil => rfl
  | cons next rest => simp_all [isSorted]

theorem contains_eq_any {ranges : Ranges} (h : ranges.isSorted = true) (n : Nat) :
    ranges.contains n = ranges.any fun range => range.1 ≤ n && n ≤ range.2 := by
  induction ranges with
  | nil => rfl
  | cons range rest ih =>
    obtain ⟨first, last⟩ := range
    rw [contains, List.any_cons, ← ih (isSorted_tail h)]
    split
    · rename_i hle
      have hrest : contains rest n = false := by
        rw [ih (isSorted_tail h), List.any_eq_false]
        intro range hmem
        have := le_of_isSorted h range hmem
        simp
        omega
      simp [hrest, hle]
    · rename_i hlt
      simp [ih (isSorted_tail h), hlt]

end Ranges

end SlideDeck.Unicode
