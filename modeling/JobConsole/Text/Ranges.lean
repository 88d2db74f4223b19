namespace JobConsole

/-- Whether a character lies in one of some ranges, each given by its first and its last code
point. -/
def inRanges (ranges : List (Nat × Nat)) (c : Char) : Bool :=
  ranges.any fun range => range.1 ≤ c.toNat && c.toNat ≤ range.2

theorem inRanges_of_mem {ranges : List (Nat × Nat)} {range : Nat × Nat} {c : Char}
    (h : range ∈ ranges) (lo : range.1 ≤ c.toNat) (hi : c.toNat ≤ range.2) :
    inRanges ranges c = true := by
  simp only [inRanges, List.any_eq_true]
  exact ⟨range, h, by simp [lo, hi]⟩

end JobConsole
