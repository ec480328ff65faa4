import Mathlib.Algebra.GroupWithZero.Nat
import Mathlib.Algebra.Order.BigOperators.Group.Finset
import Mathlib.Data.Finset.Sort
import Mathlib.Data.String.Basic

/-!
# Strings joined with a separator

A joined string is read back by splitting it at the separator. Splitting undoes joining
up to separators inside the joined strings, which split further. Joining a sorted finite
set forgets no element: a set and a subset with the same join are equal, since dropping
a non-empty string makes the join shorter.

## Main results

* `mem_entries_intercalate`: the entries of a join are those of the joined strings
* `append_cons_inj`: the first part of a joined list is determined
* `append_inj_of_suffixFree`: so are beginning and ending, for endings of a suffix-free set
* `eq_of_intercalate_sort_eq`: a subset with the same join is the whole set
-/

set_option autoImplicit false

namespace Joined

variable {sep : String} {c : Char}

/-- The parts of a string between the separators. -/
def entries (c : Char) (s : String) : List String := (s.toList.splitOn c).map String.ofList

theorem entries_append (s t : String) (hsep : sep.toList = [c]) :
    entries c (s ++ sep ++ t) = entries c s ++ entries c t := by
  have hchars : (s ++ sep ++ t).toList = s.toList ++ c :: t.toList := by
    rw [String.toList_append, String.toList_append, hsep, List.append_assoc, List.singleton_append]
  rw [entries, hchars, List.splitOn_append_cons_self, List.map_append]
  rfl

/-- A string without separators is its only entry. -/
theorem entries_eq_singleton {s : String} (hs : c ∉ s.toList) : entries c s = [s] := by
  rw [entries, List.splitOn_eq_singleton hs, List.map_singleton, String.ofList_toList]

theorem entries_intercalate (hsep : sep.toList = [c]) {strings : List String}
    (hne : strings ≠ []) : entries c (sep.intercalate strings) = strings.flatMap (entries c) := by
  induction strings with
  | nil => exact absurd rfl hne
  | cons s rest ih =>
    by_cases hrest : rest = []
    · subst hrest
      simp
    · rw [String.intercalate_cons_of_ne_nil hrest, entries_append _ _ hsep, ih hrest,
        List.flatMap_cons]

/-- The entries of a join are those of the joined strings; joining nothing gives the
empty entry. -/
theorem mem_entries_intercalate (hsep : sep.toList = [c]) {strings : List String} {e : String}
    (he : e ≠ "") :
    e ∈ entries c (sep.intercalate strings) ↔ ∃ s ∈ strings, e ∈ entries c s := by
  by_cases hne : strings = []
  · subst hne
    have hempty : entries c (sep.intercalate []) = [""] := entries_eq_singleton List.not_mem_nil
    rw [hempty, List.mem_singleton]
    exact ⟨fun h => absurd h he, fun ⟨s, hs, _⟩ => absurd hs List.not_mem_nil⟩
  · rw [entries_intercalate hsep hne, List.mem_flatMap]

/-- The first separator ends the first part. -/
theorem append_cons_inj {α : Type*} {a : α} {x x' z z' : List α} (hx : a ∉ x) (hx' : a ∉ x') :
    x ++ a :: z = x' ++ a :: z' ↔ x = x' ∧ z = z' := by
  constructor
  · intro heq
    -- a longer first part would contain the separator
    rcases List.append_eq_append_iff.mp heq with
      ⟨_ | ⟨b, m⟩, hpart, hrest⟩ | ⟨_ | ⟨b, m⟩, hpart, hrest⟩
    · rw [List.append_nil] at hpart
      exact ⟨hpart.symm, (List.cons.inj hrest).2⟩
    · refine absurd ?_ hx'
      rw [hpart, (List.cons.inj hrest).1]
      exact List.mem_append_right _ List.mem_cons_self
    · rw [List.append_nil] at hpart
      exact ⟨hpart, (List.cons.inj hrest).2.symm⟩
    · refine absurd ?_ hx
      rw [hpart, (List.cons.inj hrest).1]
      exact List.mem_append_right _ List.mem_cons_self
  · rintro ⟨rfl, rfl⟩
    rfl

/-- Where neither of two endings is a proper suffix of the other, a string determines its
beginning and its ending. -/
theorem append_inj_of_suffixFree {x y s t : String} (heq : x ++ s = y ++ t)
    (hst : s.toList <:+ t.toList → s = t) (hts : t.toList <:+ s.toList → s = t) :
    x = y ∧ s = t := by
  have hchars := congrArg String.toList heq
  rw [String.toList_append, String.toList_append] at hchars
  have hending : s = t := by
    rcases List.append_eq_append_iff.mp hchars with ⟨m, -, hs⟩ | ⟨m, -, ht⟩
    · exact hts ⟨m, hs.symm⟩
    · exact hst ⟨m, ht.symm⟩
  subst hending
  exact ⟨String.toList_inj.mp (List.append_cancel_right hchars), rfl⟩

/-! ### Lengths of joins -/

theorem length_intercalate (hsep : sep.length = 1) {strings : List String} (hne : strings ≠ []) :
    (sep.intercalate strings).length + 1 = (strings.map fun s => s.length + 1).sum := by
  induction strings with
  | nil => exact absurd rfl hne
  | cons s rest ih =>
    by_cases hrest : rest = []
    · subst hrest
      simp
    · rw [String.intercalate_cons_of_ne_nil hrest, String.length_append, String.length_append,
        hsep, List.map_cons, List.sum_cons, ← ih hrest]
      omega

/-- The length of the join of a set, counting one separator for each element. -/
theorem length_intercalate_sort (hsep : sep.length = 1) {S : Finset String} (hne : S.Nonempty) :
    (sep.intercalate (S.sort (· ≤ ·))).length + 1 = ∑ s ∈ S, (s.length + 1) := by
  have hsort : S.sort (· ≤ ·) ≠ [] := fun hnil => hne.ne_empty (by
    rw [← S.sort_toFinset (· ≤ ·), hnil, List.toFinset_nil])
  have hsum : ((S.sort (· ≤ ·)).map fun s => s.length + 1).sum = ∑ s ∈ S, (s.length + 1) := by
    rw [Finset.sum, ← S.sort_eq (· ≤ ·), Multiset.map_coe, Multiset.sum_coe]
  rw [length_intercalate hsep hsort, hsum]

/-- A subset with the same join is the whole set. -/
theorem eq_of_intercalate_sort_eq (hsep : sep.length = 1) {S T : Finset String} (hsub : S ⊆ T)
    (hnonempty : ∀ s ∈ T, s ≠ "")
    (hjoin : sep.intercalate (S.sort (· ≤ ·)) = sep.intercalate (T.sort (· ≤ ·))) : S = T := by
  rcases T.eq_empty_or_nonempty with rfl | hT
  · exact Finset.subset_empty.mp hsub
  · have hlength := length_intercalate_sort hsep hT
    by_contra hne
    -- an element of the set is missing in the subset
    obtain ⟨t, ht, hmissing⟩ := Finset.exists_of_ssubset (hsub.ssubset_of_ne hne)
    rcases S.eq_empty_or_nonempty with rfl | hS
    · -- the join of the set is not empty
      have hlength0 : t.length ≠ 0 := fun hzero =>
        hnonempty t ht (String.length_eq_zero_iff.mp hzero)
      have hle : t.length + 1 ≤ ∑ s ∈ T, (s.length + 1) :=
        (Nat.le_add_right _ _).trans (T.add_sum_erase (fun s => s.length + 1) ht).le
      have hempty : (sep.intercalate ((∅ : Finset String).sort (· ≤ ·))).length = 0 := by simp
      rw [hjoin] at hempty
      omega
    · have hlt : ∑ s ∈ S, (s.length + 1) < ∑ s ∈ T, (s.length + 1) :=
        Finset.sum_lt_sum_of_subset hsub ht hmissing (Nat.succ_pos _) fun _ _ _ => Nat.zero_le _
      rw [← hlength, ← length_intercalate_sort hsep hS, hjoin] at hlt
      exact lt_irrefl _ hlt

end Joined
