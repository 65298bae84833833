/-
  Galoy.Lib.Keyset

  Keyset pagination over a table of distinct keys.  A query reads the keys
  above a cursor in key order, up to a limit.  A reader that asks for one key
  more than its batch learns whether another page follows
  (`take_keysAfter_succ`, `lt_length_keysAfter_succ`), and the next reader
  starts above the last key of the page.  Above that key are exactly the keys
  the page did not reach (`above_getLast_take`): a chain of such readers sees
  every key once, in order.
-/

import Mathlib.Data.Finset.Sort

namespace Keyset

variable {K : Type} [LinearOrder K]

-- ============================================================================
-- Keys above a cursor
-- ============================================================================

/-- The keys of `table` above `after`, in increasing order. -/
def above (table : Finset K) (after : K) : List K :=
  (table.filter (after < ·)).sort (· ≤ ·)

/-- `SELECT key FROM table WHERE key > after ORDER BY key LIMIT limit`. -/
def keysAfter (table : Finset K) (after : K) (limit : ℕ) : List K :=
  (above table after).take limit

variable {table : Finset K} {after : K}

@[simp] theorem mem_above {k : K} : k ∈ above table after ↔ k ∈ table ∧ after < k := by
  simp [above]

theorem pairwise_above : (above table after).Pairwise (· < ·) :=
  (Finset.sortedLT_sort _).pairwise

theorem nodup_above : (above table after).Nodup :=
  Finset.sort_nodup _ _

/-- Above a cursor below every key are all the keys. -/
theorem above_of_lt (h : ∀ k ∈ table, after < k) : above table after = table.sort (· ≤ ·) := by
  rw [above, Finset.filter_true_of_mem h]

/-- In a strictly increasing list, the elements above the `n`-th are the ones
    after it. -/
theorem filter_lt_getElem {L : List K} (hL : L.Pairwise (· < ·)) {n : ℕ} (hn : n < L.length) :
    L.filter (L[n] < ·) = L.drop (n + 1) := by
  induction L generalizing n with
  | nil => cases hn
  | cons a l ih =>
    obtain ⟨ha, hl⟩ := List.pairwise_cons.mp hL
    cases n with
    | zero =>
      -- every later element is above the head, and the head is not
      rw [List.getElem_cons_zero, List.filter_cons_of_neg (by simp), List.drop_one,
        List.tail_cons]
      exact List.filter_eq_self.mpr fun b hb => by simpa using ha b hb
    | succ m =>
      have hm : m < l.length := by simpa using hn
      have hHead : ¬ l[m] < a := not_lt.mpr (ha _ (List.getElem_mem hm)).le
      rw [List.getElem_cons_succ, List.filter_cons_of_neg (by simpa using hHead), ih hl hm]
      rfl

/-- Above a key the reader has read are the keys above it that it read. -/
theorem above_of_mem {last : K} (hLast : last ∈ above table after) :
    above table last = (above table after).filter (last < ·) := by
  have hAfter := (mem_above.mp hLast).2
  refine List.Pairwise.eq_of_mem_iff pairwise_above (pairwise_above.filter _) fun k => ?_
  simp only [mem_above, List.mem_filter, decide_eq_true_eq]
  constructor
  · rintro ⟨hk, hlt⟩
    exact ⟨⟨hk, hAfter.trans hlt⟩, hlt⟩
  · rintro ⟨⟨hk, -⟩, hlt⟩
    exact ⟨hk, hlt⟩

/-- Above the last of the first `n` keys are the keys after them. -/
theorem above_getLast_take {n : ℕ} (hn : 0 < n) (hLen : n ≤ (above table after).length) :
    ∃ last, ((above table after).take n).getLast? = some last ∧
      above table last = (above table after).drop n := by
  have hLt : n - 1 < (above table after).length := by omega
  refine ⟨(above table after)[n - 1], ?_, ?_⟩
  · rw [List.getLast?_take, if_neg (by omega), List.getElem?_eq_getElem hLt, Option.some_or]
  · have hSucc : n - 1 + 1 = n := by omega
    rw [above_of_mem (List.getElem_mem hLt), filter_lt_getElem pairwise_above hLt, hSucc]

/-- The last key of an increasing page is its largest. -/
theorem le_of_getLast?_eq_some {L : List K} (hL : L.Pairwise (· < ·)) {last k : K}
    (hLast : L.getLast? = some last) (hk : k ∈ L) : k ≤ last := by
  rw [List.getLast?_eq_some_getLast (List.ne_nil_of_mem hk)] at hLast
  obtain rfl := Option.some.inj hLast
  exact (hL.imp le_of_lt).rel_getLast hk

-- ============================================================================
-- A page read with one key more
-- ============================================================================

/-- The first `batch` keys of a read of `batch + 1`. -/
theorem take_keysAfter_succ (batch : ℕ) :
    (keysAfter table after (batch + 1)).take batch = (above table after).take batch := by
  rw [keysAfter, List.take_take, Nat.min_eq_left (Nat.le_succ batch)]

/-- A read of `batch + 1` keys holds more than `batch` exactly when more than
    `batch` keys are above the cursor. -/
theorem lt_length_keysAfter_succ (batch : ℕ) :
    batch < (keysAfter table after (batch + 1)).length ↔ batch < (above table after).length := by
  rw [keysAfter, List.length_take]
  omega

end Keyset
