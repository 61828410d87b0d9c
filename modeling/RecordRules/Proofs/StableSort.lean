import Mathlib.Data.List.Perm.Basic
import Mathlib.Data.List.Pairwise

/-!
# Stable sorting by a key

A list is the stable sort of another when its keys are in order and, for every
key, the items of that key are the same in the same order.  There is only one
such list, and sorting by merging yields it.
-/

namespace RecordRules

variable {α β κ : Type} [DecidableEq κ]

/-- For every key, the lists have the same items of that key in the same
order. -/
def SameTies (key : α → κ) (first second : List α) : Prop :=
  ∀ value,
    first.filter (fun item => decide (key item = value)) =
      second.filter (fun item => decide (key item = value))

/-- The second list has the items of the first in the order of their keys, with
ties in the order of the first. -/
structure StableSort
    (key : α → κ) (le : κ → κ → Bool) (items sorted : List α) : Prop where
  ordered : sorted.Pairwise fun a b => le (key a) (key b) = true
  ties : SameTies key sorted items

namespace SameTies

variable {key : α → κ} {first second third : List α}

theorem trans
    (hfirst : SameTies key first second) (hsecond : SameTies key second third) :
    SameTies key first third :=
  fun value => (hfirst value).trans (hsecond value)

theorem symm (h : SameTies key first second) : SameTies key second first :=
  fun value => (h value).symm

theorem perm (h : SameTies key first second) : first.Perm second := by
  classical
  rw [List.perm_iff_count]
  intro item
  calc
    first.count item =
        (first.filter fun other => decide (key other = key item)).count
          item := by
      rw [List.count_filter (by simp)]
    _ = (second.filter fun other => decide (key other = key item)).count
          item := by
      rw [h]
    _ = second.count item := by
      rw [List.count_filter (by simp)]

theorem filter (h : SameTies key first second) (keep : α → Bool) :
    SameTies key (first.filter keep) (second.filter keep) := by
  intro value
  rw [List.filter_comm, h value, List.filter_comm]

theorem append_right (h : SameTies key first second) (last : List α) :
    SameTies key (first ++ last) (second ++ last) := by
  intro value
  rw [List.filter_append, List.filter_append, h value]

theorem map
    (h : SameTies key first second) {other : β → κ} (f : α → β)
    (hkey : ∀ item, other (f item) = key item) :
    SameTies other (first.map f) (second.map f) := by
  intro value
  simp only [List.filter_map, Function.comp_def, hkey, h value]

end SameTies

namespace StableSort

variable {key : α → κ} {le : κ → κ → Bool} {items sorted : List α}

theorem unique
    (hantisymm : ∀ a b, le a b = true → le b a = true → a = b)
    {first second : List α} (hfirst : StableSort key le items first)
    (hsecond : StableSort key le items second) :
    first = second := by
  have hties : SameTies key first second :=
    hfirst.ties.trans hsecond.ties.symm
  have hordered := hfirst.ordered
  have hordered' := hsecond.ordered
  clear hfirst hsecond
  induction first generalizing second with
  | nil => exact hties.perm.nil_eq
  | cons a rest ih =>
      have hperm := hties.perm
      cases second with
      | nil => simpa using hperm.length_eq
      | cons b rest' =>
          -- each head comes first in its list, so their keys are the same
          have hsame : key a = key b := by
            rcases List.mem_cons.mp (hperm.mem_iff.mp List.mem_cons_self) with
              rfl | hafter
            · rfl
            rcases List.mem_cons.mp
                (hperm.mem_iff.mpr (List.mem_cons_self (a := b))) with
              rfl | hbehind
            · rfl
            exact hantisymm _ _ (List.rel_of_pairwise_cons hordered hbehind)
              (List.rel_of_pairwise_cons hordered' hafter)
          have hhead : a = b := by
            have htie := hties (key a)
            rw [List.filter_cons_of_pos (by simp),
              List.filter_cons_of_pos (by simp [hsame])] at htie
            exact (List.cons.inj htie).1
          subst hhead
          have hrest : rest = rest' := by
            refine ih ?_ hordered.of_cons hordered'.of_cons
            intro value
            have htie := hties value
            by_cases hvalue : key a = value
            · rw [List.filter_cons_of_pos (by simpa using hvalue),
                List.filter_cons_of_pos (by simpa using hvalue)] at htie
              exact (List.cons.inj htie).2
            · rwa [List.filter_cons_of_neg (by simpa using hvalue),
                List.filter_cons_of_neg (by simpa using hvalue)] at htie
          rw [hrest]

end StableSort

/-- Sorting by merging is stable. -/
theorem stableSort_mergeSort
    (key : α → κ) {le : κ → κ → Bool}
    (htrans : ∀ a b c, le a b = true → le b c = true → le a c = true)
    (htotal : ∀ a b, le a b = true ∨ le b a = true) (items : List α) :
    StableSort key le items
      (items.mergeSort fun a b => le (key a) (key b)) := by
  have htransKey : ∀ a b c : α, le (key a) (key b) = true →
      le (key b) (key c) = true → le (key a) (key c) = true :=
    fun a b c => htrans (key a) (key b) (key c)
  have htotalKey : ∀ a b : α,
      (le (key a) (key b) || le (key b) (key a)) = true :=
    fun a b => by simpa using htotal (key a) (key b)
  refine ⟨List.pairwise_mergeSort htransKey htotalKey items, ?_⟩
  intro value
  let tied := items.filter fun item => decide (key item = value)
  have hrefl : ∀ k, le k k = true := fun k => by simpa using htotal k k
  have hpairwise : tied.Pairwise fun a b => le (key a) (key b) = true := by
    refine List.pairwise_of_forall_mem_list fun a ha b hb => ?_
    have hleft : key a = value := by simpa [tied] using (List.mem_filter.mp ha).2
    have hright : key b = value := by
      simpa [tied] using (List.mem_filter.mp hb).2
    rw [hleft, hright]
    exact hrefl value
  have hsublist :
      tied.Sublist (items.mergeSort fun a b => le (key a) (key b)) :=
    List.sublist_mergeSort htransKey htotalKey hpairwise List.filter_sublist
  have hfiltered := hsublist.filter fun item => decide (key item = value)
  rw [List.filter_filter] at hfiltered
  simp only [Bool.and_self] at hfiltered
  refine (hfiltered.eq_of_length ?_).symm
  exact ((List.mergeSort_perm items _).filter _).length_eq.symm

end RecordRules
