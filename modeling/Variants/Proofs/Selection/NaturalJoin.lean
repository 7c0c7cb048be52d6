import Variants.Proofs.Selection.Join

/-!
Joins row by row. Whichever way a join takes, its rows are the rows over the pivots of both sides that
restrict to a row of either side, so the order of the sides does not matter.
-/

namespace Variants.Combinations

theorem intersect_comm (left right : Combinations) : left.intersect right = right.intersect left := by
  have pivots : (left.intersect right).pivots = (right.intersect left).pivots := by
    rw [pivots_intersect, pivots_intersect, ascending_append_comm]
  apply eq_of_contains_iff pivots
  intro chosen
  rw [contains_intersect, contains_intersect, and_comm]

theorem mem_rows_intersect {left right : Combinations} {row : Row} :
    row ∈ (left.intersect right).rows ↔
      row.length = (left.intersect right).pivots.length ∧
        row.restrict (left.intersect right).pivots left.pivots ∈ left.rows ∧
        row.restrict (left.intersect right).pivots right.pivots ∈ right.rows := by
  have covers : ∀ pivot, pivot ∈ left.pivots ∨ pivot ∈ right.pivots →
      pivot ∈ (left.intersect right).pivots := by
    intro pivot either
    rw [pivots_intersect, mem_ascending, List.mem_append]
    exact either
  apply mem_rows_iff
  intro chosen
  rw [contains_intersect, Row.restrict_map fun pivot member => covers pivot (.inl member),
    Row.restrict_map fun pivot member => covers pivot (.inr member), Contains, Contains]

/-- The join of any two tables, over the pivots of both, has exactly the rows that restrict to a row of
each table. -/
theorem intersect_natural_join (left right : Combinations) :
    (left.intersect right).pivots = ascending (left.pivots ++ right.pivots) ∧
      (∀ row : Row, row ∈ (left.intersect right).rows ↔
        row.length = (ascending (left.pivots ++ right.pivots)).length ∧
          row.restrict (ascending (left.pivots ++ right.pivots)) left.pivots ∈ left.rows ∧
          row.restrict (ascending (left.pivots ++ right.pivots)) right.pivots ∈ right.rows) ∧
      left.intersect right = right.intersect left := by
  refine ⟨pivots_intersect left right, ?_, intersect_comm left right⟩
  intro row
  rw [← pivots_intersect]
  exact mem_rows_intersect

end Variants.Combinations
