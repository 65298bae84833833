/-
  Galoy.Lib.SortDesc

  Sorting newest-first by an integer key, as `Array.prototype.sort` with the
  comparator `(a, b) => key(b) - key(a)` does: a stable merge sort under
  `fun a b => key b ≤ key a`.

  The one fact the rest of the development needs: when the list is a
  permutation of a strictly key-increasing list `rows` plus rows that a filter
  `p` drops, sorting and then filtering by `p` gives `rows` reversed, whatever
  order the input came in and wherever the dropped rows fall.
-/

import Mathlib.Data.List.Pairwise
import Mathlib.Data.List.Sort

namespace SortDesc

variable {α : Type} (key : α → ℤ)

/-- The comparator of a newest-first sort. -/
def newerFirst (a b : α) : Bool := decide (key b ≤ key a)

/-- Sort newest-first (stable). -/
def sortDesc (l : List α) : List α := l.mergeSort (newerFirst key)

theorem sortDesc_perm (l : List α) : (sortDesc key l).Perm l :=
  List.mergeSort_perm l _

theorem sortDesc_pairwise (l : List α) :
    (sortDesc key l).Pairwise (fun a b => newerFirst key a b = true) := by
  apply List.pairwise_mergeSort
  · intro a b c hab hbc
    simp only [newerFirst, decide_eq_true_eq] at *
    omega
  · intro a b
    simp only [newerFirst, Bool.or_eq_true, decide_eq_true_eq]
    omega

/-- In a strictly key-increasing list, equal keys mean equal elements. -/
theorem eq_of_key_eq {rows : List α} (hsorted : rows.Pairwise (fun a b => key a < key b))
    {a b : α} (ha : a ∈ rows) (hb : b ∈ rows) (hkey : key a = key b) : a = b := by
  induction rows with
  | nil => simp at ha
  | cons x xs ih =>
    obtain ⟨hx, hxs⟩ := List.pairwise_cons.mp hsorted
    rcases List.mem_cons.mp ha with rfl | ha'
    · rcases List.mem_cons.mp hb with rfl | hb'
      · rfl
      · have := hx b hb'
        omega
    · rcases List.mem_cons.mp hb with rfl | hb'
      · have := hx a ha'
        omega
      · exact ih hxs ha' hb'

/-- Sorting newest-first and filtering out the other rows gives the strictly
    increasing `rows` in reverse. -/
theorem sortDesc_filter_eq_reverse {l rows others : List α} (p : α → Bool)
    (hperm : l.Perm (rows ++ others)) (hrows : ∀ x ∈ rows, p x = true)
    (hothers : ∀ x ∈ others, p x = false)
    (hsorted : rows.Pairwise (fun a b => key a < key b)) :
    (sortDesc key l).filter p = rows.reverse := by
  -- the filtered sort is a permutation of `rows`
  have hfilter : ((sortDesc key l).filter p).Perm rows := by
    have h1 : ((sortDesc key l).filter p).Perm ((rows ++ others).filter p) :=
      ((sortDesc_perm key l).trans hperm).filter p
    have h2 : (rows ++ others).filter p = rows := by
      rw [List.filter_append, List.filter_eq_self.mpr hrows,
        List.filter_eq_nil_iff.mpr (fun x hx => by simp [hothers x hx]), List.append_nil]
    exact h2 ▸ h1
  -- both sides are sorted newest-first
  have hleft : ((sortDesc key l).filter p).Pairwise (fun a b => newerFirst key a b = true) :=
    (sortDesc_pairwise key l).filter p
  have hright : rows.reverse.Pairwise (fun a b => newerFirst key a b = true) := by
    rw [List.pairwise_reverse]
    exact hsorted.imp fun h => by simp only [newerFirst, decide_eq_true_eq]; omega
  refine List.Perm.eq_of_pairwise ?_ hleft hright (hfilter.trans (List.reverse_perm rows).symm)
  intro a b ha hb hab hba
  simp only [newerFirst, decide_eq_true_eq] at hab hba
  have ha' : a ∈ rows := hfilter.subset ha
  have hb' : b ∈ rows := List.mem_reverse.mp hb
  exact eq_of_key_eq key hsorted ha' hb' (by omega)

end SortDesc
