import Mathlib.Algebra.BigOperators.Ring.Finset
import Mathlib.Algebra.Order.BigOperators.Group.Finset
import PromptLang.Strategy.ThoughtTree

/-! The size of a tree of thoughts. It is the sum of the powers of the breadth if that is a 64-bit word, and is not known otherwise. A count
that stops at the first power or sum which is no word gives the same: every power and every sum on the way is at most the whole
sum, so where the whole fits nothing on the way is too large. -/

namespace PromptLang

/-- The thoughts of a full tree, `breadth + breadth² + … + breadth ^ depth`. -/
def thoughtCount (breadth depth : Nat) : Nat := ∑ level ∈ Finset.range depth, breadth ^ (level + 1)

theorem thoughtCount_succ (breadth depth : Nat) :
    thoughtCount breadth (depth + 1) = thoughtCount breadth depth + breadth ^ (depth + 1) :=
  Finset.sum_range_succ _ _

theorem thoughtCount_mono (breadth : Nat) : Monotone (thoughtCount breadth) := by
  refine monotone_nat_of_le_succ fun depth => ?_
  rw [thoughtCount_succ]
  exact Nat.le_add_right _ _

theorem pow_le_thoughtCount (breadth : Nat) {level depth : Nat} (hpos : 1 ≤ level) (hle : level ≤ depth) :
    breadth ^ level ≤ thoughtCount breadth depth := by
  obtain ⟨above, rfl⟩ : ∃ above, level = above + 1 := ⟨level - 1, by omega⟩
  calc breadth ^ (above + 1) ≤ thoughtCount breadth (above + 1) := by
        rw [thoughtCount_succ]
        exact Nat.le_add_left _ _
    _ ≤ thoughtCount breadth depth := thoughtCount_mono breadth hle

theorem fitting?_add (m n : Nat) : (do let a ← fitting? m; let b ← fitting? n; fitting? (a + b)) = fitting? (m + n) := by
  by_cases hm : m < word64
  · by_cases hn : n < word64
    · simp [fitting?, hm, hn]
    · have hsum : ¬ m + n < word64 := by omega
      simp [fitting?, hm, hn, hsum]
  · have hsum : ¬ m + n < word64 := by omega
    simp [fitting?, hm, hsum]

theorem fitting?_eq_some {n m : Nat} : fitting? n = some m ↔ n < word64 ∧ n = m := by
  unfold fitting?
  split <;> simp_all

theorem sum_levels (breadth level levels : Nat) :
    ∑ i ∈ Finset.range (levels + 1), breadth ^ (level + i) =
      breadth ^ level + ∑ i ∈ Finset.range levels, breadth ^ (level + 1 + i) := by
  rw [Finset.sum_range_succ', Nat.add_zero, Nat.add_comm]
  simp only [Nat.add_assoc, Nat.add_comm 1]

theorem addLevels_succ (breadth levels level total : Nat) : addLevels breadth (levels + 1) level total =
    if level < word32 then do
      let power ← fitting? (breadth ^ level)
      let total ← fitting? (total + power)
      addLevels breadth levels (level + 1) total
    else none := rfl

theorem addLevels_eq_some {breadth levels level total size : Nat} (h : addLevels breadth levels level total = some size) :
    size = total + ∑ i ∈ Finset.range levels, breadth ^ (level + i) := by
  induction levels generalizing level total with
  | zero =>
    cases h
    simp
  | succ n ih =>
    rw [addLevels_succ] at h
    split at h
    · obtain ⟨power, hpower, h⟩ := Option.bind_eq_some_iff.1 h
      obtain ⟨sum, hsum, h⟩ := Option.bind_eq_some_iff.1 h
      obtain ⟨-, rfl⟩ := fitting?_eq_some.1 hpower
      obtain ⟨-, rfl⟩ := fitting?_eq_some.1 hsum
      rw [ih h, sum_levels, Nat.add_assoc]
    · cases h

/-- As long as the levels are 32-bit words, the sum is given exactly where it is a word. -/
theorem addLevels_eq (breadth : Nat) {levels level total : Nat} (hlevel : level + levels ≤ word32) (htotal : total < word64) :
    addLevels breadth levels level total = fitting? (total + ∑ i ∈ Finset.range levels, breadth ^ (level + i)) := by
  induction levels generalizing level total with
  | zero => simp [addLevels, fitting?, htotal]
  | succ n ih =>
    rw [addLevels_succ, if_pos (by omega), sum_levels, ← Nat.add_assoc]
    by_cases hfits : total + breadth ^ level < word64
    · have hpower : breadth ^ level < word64 := by omega
      simp only [fitting?, hpower, hfits, if_true, Option.bind_eq_bind, Option.bind_some]
      exact ih (by omega) hfits
    · have hlarge : ¬ total + breadth ^ level + ∑ i ∈ Finset.range n, breadth ^ (level + 1 + i) < word64 := by omega
      simp only [fitting?, hlarge, if_false]
      split
      · simp [hfits]
      · rfl

theorem treeSize?_eq (breadth : Nat) {depth : Nat} (h : depth < word32) :
    treeSize? breadth depth = fitting? (thoughtCount breadth depth) := by
  rw [treeSize?, addLevels_eq breadth (by omega) (by decide), Nat.zero_add, thoughtCount]
  simp only [Nat.add_comm 1]

theorem treeSize?_eq_some {breadth depth size : Nat} (h : treeSize? breadth depth = some size) :
    size = ∑ level ∈ Finset.range depth, breadth ^ (level + 1) := by
  rw [addLevels_eq_some h, Nat.zero_add]
  simp only [Nat.add_comm 1]

/-- The size of a tree is exact where it is a word and unknown otherwise. Each level adds its power to the size of the tree above it, and
both are words. No power and no sum on the way to a known size is too large, and a limit refuses exactly the trees that need more
calls. -/
theorem treeSize_is_exact (breadth depth : Nat) (hdepth : depth < 2 ^ 32) :
    treeSize? breadth depth = (if thoughtCount breadth depth < 2 ^ 64 then some (thoughtCount breadth depth) else none) ∧
    (treeSize? breadth 0 = some 0 ∧ ∀ levels < depth, treeSize? breadth (levels + 1) = (do
      let total ← treeSize? breadth levels
      let power ← fitting? (breadth ^ (levels + 1))
      fitting? (total + power))) ∧
    (∀ size, treeSize? breadth depth = some size →
      ∀ level, 1 ≤ level → level ≤ depth → breadth ^ level < 2 ^ 64 ∧ thoughtCount breadth level < 2 ^ 64) ∧
    ∀ limit < 2 ^ 64, ((treeSize? breadth depth).any (· ≤ limit) = true ↔ thoughtCount breadth depth ≤ limit) := by
  have hsize : treeSize? breadth depth =
      if thoughtCount breadth depth < 2 ^ 64 then some (thoughtCount breadth depth) else none := treeSize?_eq breadth hdepth
  refine ⟨hsize, ⟨rfl, fun levels hlevels => ?_⟩, ?_, ?_⟩
  · have hword : levels + 1 < word32 := Nat.lt_of_le_of_lt hlevels hdepth
    rw [treeSize?_eq breadth hword, treeSize?_eq breadth (by omega), thoughtCount_succ]
    exact (fitting?_add _ _).symm
  · intro size hsome level hpos hle
    have hfits : thoughtCount breadth depth < 2 ^ 64 := by
      by_contra hlarge
      rw [hsize, if_neg hlarge] at hsome
      cases hsome
    exact ⟨Nat.lt_of_le_of_lt (pow_le_thoughtCount breadth hpos hle) hfits,
      Nat.lt_of_le_of_lt (thoughtCount_mono breadth hle) hfits⟩
  · intro limit hlimit
    rw [hsize]
    split
    · simp
    · next hlarge =>
      have hmore : limit < thoughtCount breadth depth := Nat.lt_of_lt_of_le hlimit (Nat.le_of_not_lt hlarge)
      simpa using hmore

/-- The largest binary tree that can be counted, with its last level a word as well, the next one, the longest chain, and a tree that a
limit of 256 calls refuses. -/
theorem sizes_at_word_boundary :
    (treeSize? 2 63 = some (2 ^ 64 - 2) ∧ 2 ^ 63 < 2 ^ 64) ∧ treeSize? 2 64 = none ∧
      treeSize? 1 (2 ^ 32 - 1) = some (2 ^ 32 - 1) ∧ (treeSize? 16 2).any (· ≤ 256) = false := by
  have hlast : thoughtCount 2 63 = 2 ^ 64 - 2 := by decide
  have hnext : thoughtCount 2 64 = 2 ^ 65 - 2 := by decide
  have hchain : thoughtCount 1 (2 ^ 32 - 1) = 2 ^ 32 - 1 := by simp [thoughtCount]
  have hwide : thoughtCount 16 2 = 272 := by decide
  have hcounted : treeSize? 2 63 = some (2 ^ 64 - 2) := by
    rw [(treeSize_is_exact 2 63 (by decide)).1, hlast]
    rfl
  refine ⟨⟨hcounted, ?_⟩, ?_, ?_, ?_⟩
  · exact ((treeSize_is_exact 2 63 (by decide)).2.2.1 _ hcounted 63 (by decide) (by decide)).1
  · rw [(treeSize_is_exact 2 64 (by decide)).1, hnext]
    rfl
  · rw [(treeSize_is_exact 1 (2 ^ 32 - 1) (by decide)).1, hchain]
    rfl
  · rw [Bool.eq_false_iff, ne_eq, (treeSize_is_exact 16 2 (by decide)).2.2.2 256 (by decide), hwide]
    decide

end PromptLang
