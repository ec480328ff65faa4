import Mathlib.Data.Finset.Card
import Mathlib.Data.Finset.Max
import Mathlib.Data.Fintype.Card
import Mathlib.Logic.Relation
import Mathlib.Order.WellFounded

/-!
# Claiming one item each, in turns

Members want one item each, or none, and hold at most one item. When a member's turn
comes, it drops what it holds if it wants nothing; it takes the item it wants if it sees
nobody else hold it and is the first of those who want it; else it keeps what it holds.
Turns come in any order, and what a member sees of the others may be out of date.

No item gets a second holder, however old the views are. With views that are up to date a
turn that changes anything settles the member whose turn it is, and a settled member stays
settled. So a member's holding changes at most once, and once every member has had a turn
as many times over as there are unsettled members, nothing changes any more.

## Main results

* `Exclusive.step`: with a view of any age no item gets a second holder
* `run_apply_eq_or`: over any run of turns a holding is kept or is what the member wants
* `run_first`: a free item goes to its first claimant, whoever else has turns before it
* `run_of_own`: a member with an item of its own gets it at its first turn
* `run_of_waiting`: members that wait for each other wait for ever
* `quiescent_iff`: when no turn changes anything
* `quiescent_run_flatten`: one round for each unsettled member is enough to get there
* `exists_end_or_cycle`: where a chain of waiting leads
-/

set_option autoImplicit false

namespace Claims

/-- Who takes part, which item each of them wants, and who goes first. -/
@[ext] structure Setting (ι κ ρ : Type*) [LinearOrder ρ] where
  members : Finset ι
  wants : ι → Option κ
  rank : ι → ρ
  rank_injective : Function.Injective rank

namespace Setting

variable {ι κ ρ : Type*} [DecidableEq ι] [DecidableEq κ] [LinearOrder ρ]
  (S : Setting ι κ ρ) (view held : ι → Option κ)

/-- No member holds the item. -/
def Free (k : κ) : Prop := ∀ i ∈ S.members, held i ≠ some k

/-- No other member is seen to hold the item. -/
def FreeFor (i : ι) (k : κ) : Prop := ∀ j ∈ S.members, j ≠ i → view j ≠ some k

/-- The member of least rank among those who want the item. -/
def First (k : κ) (i : ι) : Prop :=
  i ∈ S.members ∧ S.wants i = some k ∧
    ∀ j ∈ S.members, S.wants j = some k → S.rank i ≤ S.rank j

instance (i : ι) (k : κ) : Decidable (S.FreeFor view i k) := Finset.decidableDforallFinset

instance (k : κ) (i : ι) : Decidable (S.First k i) := inferInstanceAs (Decidable (_ ∧ _ ∧ _))

/-- What a member holds after a turn with a view. -/
def next (i : ι) : Option κ :=
  match S.wants i with
  | none => none
  | some k => if held i = some k ∨ (S.FreeFor view i k ∧ S.First k i) then some k else held i

/-- One turn. -/
def step (i : ι) : ι → Option κ := Function.update held i (S.next view held i)

/-- Turns one after another, each with the view of its moment. -/
def run (turns : List ι) : ι → Option κ := turns.foldl (fun held i => S.step held held i) held

/-- No turn of a member changes what it holds. -/
def Quiescent : Prop := ∀ i ∈ S.members, S.next held held i = held i

/-- The members that do not hold exactly what they want. -/
def unsettled : Finset ι := S.members.filter fun i => held i ≠ S.wants i

/-- The member wants an item that nobody else wants, and that it or nobody holds. -/
def Own (i : ι) : Prop :=
  ∀ k, S.wants i = some k → (∀ j ∈ S.members, S.wants j = some k → j = i) ∧
    (held i = some k ∨ S.Free held k)

/-- A list of turns in which each member has one, and nobody else. -/
def Round (turns : List ι) : Prop := ∀ i, i ∈ turns ↔ i ∈ S.members

variable {S view held} {i j : ι} {k : κ} {turns : List ι}

@[simp] theorem run_nil : S.run held [] = held := rfl

@[simp] theorem run_cons : S.run held (i :: turns) = S.run (S.step held held i) turns :=
  rfl

theorem run_append (before after : List ι) :
    S.run held (before ++ after) = S.run (S.run held before) after := List.foldl_append

@[simp] theorem step_self : S.step view held i i = S.next view held i := Function.update_self ..

theorem step_of_ne (hne : j ≠ i) : S.step view held i j = held j := Function.update_of_ne hne ..

theorem step_eq_self_iff : S.step view held i = held ↔ S.next view held i = held i :=
  Function.update_eq_self_iff

/-! ### One turn -/

/-- A turn keeps what the member holds, or gives it what it wants. -/
theorem next_eq_or : S.next view held i = held i ∨ S.next view held i = S.wants i := by
  unfold next
  split
  · next hwants => exact Or.inr hwants.symm
  · next k hwants =>
    split_ifs
    · exact Or.inr hwants.symm
    · exact Or.inl rfl

theorem next_of_settled (hsettled : held i = S.wants i) : S.next view held i = held i := by
  obtain hkept | hwants : S.next view held i = held i ∨ S.next view held i = S.wants i :=
    next_eq_or
  · exact hkept
  · rw [hwants, hsettled]

theorem step_of_settled (hsettled : held j = S.wants j) : S.step view held i j = S.wants j := by
  by_cases hij : j = i
  · subst hij
    rw [step_self, next_of_settled hsettled, hsettled]
  · rw [step_of_ne hij, hsettled]

/-- A free item is taken by its first claimant. -/
theorem next_of_first (hfree : S.Free held k) (hfirst : S.First k i) :
    S.next held held i = some k := by
  unfold next
  rw [hfirst.2.1]
  exact if_pos (Or.inr ⟨fun j hj _ => hfree j hj, hfirst⟩)

omit [DecidableEq ι] in
/-- An item somebody wants has a first claimant. -/
theorem exists_first (hi : i ∈ S.members) (hwants : S.wants i = some k) : ∃ j, S.First k j := by
  obtain ⟨j, hj, hleast⟩ := Finset.exists_min_image
    (S.members.filter fun i => S.wants i = some k) S.rank ⟨i, Finset.mem_filter.mpr ⟨hi, hwants⟩⟩
  rw [Finset.mem_filter] at hj
  refine ⟨j, hj.1, hj.2, fun l hl hlwants => ?_⟩
  exact hleast l (Finset.mem_filter.mpr ⟨hl, hlwants⟩)

omit [DecidableEq ι] [DecidableEq κ] in
theorem First.unique (hi : S.First k i) (hj : S.First k j) : i = j :=
  S.rank_injective (le_antisymm (hi.2.2 j hj.1 hj.2.1) (hj.2.2 i hi.1 hi.2.1))

/-- Who wants an item that a member holds keeps what it holds. -/
theorem next_of_waiting (hwants : S.wants i = some k) (hj : j ∈ S.members)
    (hheld : held j = some k) : S.next held held i = held i := by
  rw [next, hwants]
  dsimp only
  split_ifs with htakes
  · by_cases hji : j = i
    · rw [← hji, hheld]
    · rcases htakes with hheldi | ⟨hfree, -⟩
      · exact hheldi.symm
      · exact absurd hheld (hfree j hj hji)
  · rfl

/-- What a member comes to hold by its turn it is the first to want, and saw free. -/
theorem of_next_eq_some (hnext : S.next view held i = some k) (hheld : held i ≠ some k) :
    S.FreeFor view i k ∧ S.First k i := by
  unfold next at hnext
  split at hnext
  · cases hnext
  · next l hwants =>
    split_ifs at hnext with htakes
    · cases hnext
      exact htakes.resolve_left hheld
    · exact absurd hnext hheld

/-- A turn of another member leaves a free item free. -/
theorem Free.step (hfree : S.Free held k) (hnot : ¬ S.First k i) :
    S.Free (S.step view held i) k := by
  intro j hj
  by_cases hij : j = i
  · subst hij
    rw [step_self]
    exact fun hnext => hnot (of_next_eq_some hnext (hfree j hj)).2
  · rw [step_of_ne hij]
    exact hfree j hj

/-! ### Views of any age -/

/-- No item has two holders. -/
def Exclusive (S : Setting ι κ ρ) (held : ι → Option κ) : Prop :=
  ∀ i ∈ S.members, ∀ j ∈ S.members, ∀ k, held i = some k → held j = some k → i = j

/-- A run of turns, and the holdings it passes through. A turn sees each other member as it
was at some earlier moment. -/
inductive Stale (S : Setting ι κ ρ) : List (ι → Option κ) → (ι → Option κ) → Prop
  | start (held : ι → Option κ) : Stale S [held] held
  | turn {past : List (ι → Option κ)} {held view : ι → Option κ} {i : ι}
      (hrun : Stale S past held) (hview : ∀ j, ∃ h ∈ past, view j = h j) :
      Stale S (S.step view held i :: past) (S.step view held i)

/-- Who holds an item held it at every earlier moment, or is the first to want it. -/
theorem Stale.held_before {past : List (ι → Option κ)} (hrun : Stale S past held) :
    ∀ h ∈ past, ∀ j k, held j = some k → h j = some k ∨ S.First k j := by
  induction hrun with
  | start held =>
    intro h hh j k hheld
    rw [List.mem_singleton.mp hh]
    exact Or.inl hheld
  | @turn past held view i _ _ ih =>
    intro h hh j k hheld
    rcases List.mem_cons.mp hh with rfl | hpast
    · exact Or.inl hheld
    by_cases hji : j = i
    · subst hji
      rw [step_self] at hheld
      by_cases hbefore : held j = some k
      · exact ih h hpast j k hbefore
      · exact Or.inr (of_next_eq_some hheld hbefore).2
    · rw [step_of_ne hji] at hheld
      exact ih h hpast j k hheld

/-- A turn with a view of any age gives no item a second holder. -/
theorem Exclusive.step {past : List (ι → Option κ)} (hrun : Stale S past held)
    (hheld : S.Exclusive held) (hview : ∀ j, ∃ h ∈ past, view j = h j) (hi : i ∈ S.members) :
    S.Exclusive (S.step view held i) := by
  -- the one whose turn it is against another holder
  have hother : ∀ j ∈ S.members, j ≠ i → ∀ k, S.next view held i = some k → held j ≠ some k := by
    intro j hj hji k hnext hheldj
    by_cases hheldi : held i = some k
    · exact hji (hheld j hj i hi k hheldj hheldi)
    obtain ⟨hfree, hfirst⟩ := of_next_eq_some hnext hheldi
    obtain ⟨h, hh, hseen⟩ := hview j
    rcases hrun.held_before h hh j k hheldj with hheldh | hfirstj
    · exact hfree j hj hji (hseen.trans hheldh)
    · exact hji (hfirstj.unique hfirst)
  intro a ha b hb k hheldsa hheldsb
  by_cases hai : a = i
  · by_cases hbi : b = i
    · rw [hai, hbi]
    · rw [hai, step_self] at hheldsa
      rw [step_of_ne hbi] at hheldsb
      exact absurd hheldsb (hother b hb hbi k hheldsa)
  · rw [step_of_ne hai] at hheldsa
    by_cases hbi : b = i
    · rw [hbi, step_self] at hheldsb
      exact absurd hheldsa (hother a ha hai k hheldsb)
    · rw [step_of_ne hbi] at hheldsb
      exact hheld a ha b hb k hheldsa hheldsb

/-! ### Runs -/

theorem run_of_settled (hsettled : held i = S.wants i) : S.run held turns i = S.wants i := by
  induction turns generalizing held with
  | nil => exact hsettled
  | cons j turns ih => exact ih (step_of_settled hsettled)

/-- Over any run a member keeps what it holds or comes to hold what it wants. -/
theorem run_apply_eq_or : S.run held turns i = held i ∨ S.run held turns i = S.wants i := by
  induction turns generalizing held with
  | nil => exact Or.inl rfl
  | cons j turns ih =>
    by_cases hij : i = j
    · subst hij
      obtain hkept | hwants : S.next held held i = held i ∨ S.next held held i = S.wants i :=
        next_eq_or
      · rw [run_cons, step_eq_self_iff.mpr hkept]
        exact ih
      · refine Or.inr ?_
        rw [run_cons, run_of_settled]
        rw [step_self, hwants]
    · have hstep := @ih (S.step held held j)
      rwa [step_of_ne hij] at hstep

/-- The first claimant of a free item holds it from its first turn on. -/
theorem run_first (hfree : S.Free held k) (hfirst : S.First k i) (hturn : i ∈ turns) :
    S.run held turns i = some k := by
  induction turns generalizing held with
  | nil => cases hturn
  | cons j turns ih =>
    rw [run_cons]
    by_cases hji : j = i
    · subst hji
      rw [run_of_settled, hfirst.2.1]
      rw [step_self, next_of_first hfree hfirst, hfirst.2.1]
    · have hrest : i ∈ turns := by
        rcases List.mem_cons.mp hturn with rfl | hrest
        · exact absurd rfl hji
        · exact hrest
      exact ih (hfree.step fun hj => hji (hj.unique hfirst)) hrest

/-- Members that wait for each other's items keep what they hold over any run. -/
theorem run_of_waiting {W : Set ι}
    (hwait : ∀ i ∈ W, ∃ k, S.wants i = some k ∧ ∃ j ∈ W, j ∈ S.members ∧ held j = some k)
    (hi : i ∈ W) : S.run held turns i = held i := by
  induction turns generalizing held with
  | nil => rfl
  | cons l turns ih =>
    have hkept : ∀ j ∈ W, S.step held held l j = held j := by
      intro j hj
      by_cases hjl : j = l
      · subst hjl
        obtain ⟨k, hwants, o, -, ho, hheld⟩ := hwait j hj
        rw [step_self, next_of_waiting hwants ho hheld]
      · exact step_of_ne hjl
    rw [run_cons, ih, hkept i hi]
    intro j hj
    obtain ⟨k, hwants, o, hoW, ho, hheld⟩ := hwait j hj
    exact ⟨k, hwants, o, hoW, ho, (hkept o hoW).trans hheld⟩

/-- Who wants nothing holds nothing from its first turn on. -/
theorem run_of_wants_eq_none (hwants : S.wants i = none) (hturn : i ∈ turns) :
    S.run held turns i = none := by
  induction turns generalizing held with
  | nil => cases hturn
  | cons j turns ih =>
    rw [run_cons]
    by_cases hji : j = i
    · subst hji
      rw [run_of_settled, hwants]
      rw [step_self, next, hwants]
    · exact ih ((List.mem_cons.mp hturn).resolve_left (Ne.symm hji))

/-- A member with an item of its own holds it from its first turn on. -/
theorem run_of_own (hi : i ∈ S.members) (hown : S.Own held i) (hturn : i ∈ turns) :
    S.run held turns i = S.wants i := by
  cases hwants : S.wants i with
  | none => exact run_of_wants_eq_none hwants hturn
  | some k =>
    obtain ⟨honly, hheld | hfree⟩ := hown k hwants
    · rw [run_of_settled (hheld.trans hwants.symm), hwants]
    · refine run_first hfree ⟨hi, hwants, fun j hj hj' => ?_⟩ hturn
      rw [honly j hj hj']

/-! ### Quiescence -/

theorem Quiescent.run (hquiet : S.Quiescent held) (hturns : ∀ i ∈ turns, i ∈ S.members) :
    S.run held turns = held := by
  induction turns with
  | nil => rfl
  | cons i turns ih =>
    rw [run_cons, step_eq_self_iff.mpr (hquiet i (hturns i List.mem_cons_self))]
    exact ih fun j hj => hturns j (List.mem_cons_of_mem i hj)

/-- Nothing changes any more exactly when every member holds what it wants or waits for
an item another member holds. -/
theorem quiescent_iff : S.Quiescent held ↔
    ∀ i ∈ S.members, held i = S.wants i ∨
      ∃ k, S.wants i = some k ∧ ∃ j ∈ S.members, j ≠ i ∧ held j = some k := by
  constructor
  · intro hquiet i hi
    rw [or_iff_not_imp_left]
    intro hunsettled
    cases hwants : S.wants i with
    | none =>
      have hnext := hquiet i hi
      rw [next, hwants] at hnext
      exact absurd (hnext.symm.trans hwants.symm) hunsettled
    | some k =>
      refine ⟨k, rfl, ?_⟩
      by_cases hfree : S.Free held k
      · -- the first claimant would take a free item at its turn
        obtain ⟨j, hfirst⟩ := exists_first hi hwants
        have hnext := hquiet j hfirst.1
        rw [next_of_first hfree hfirst] at hnext
        exact absurd hnext.symm (hfree j hfirst.1)
      · simp only [Free, not_forall, not_not] at hfree
        obtain ⟨j, hj, hheld⟩ := hfree
        refine ⟨j, hj, ?_, hheld⟩
        rintro rfl
        exact hunsettled (hheld.trans hwants.symm)
  · intro hwaits i hi
    rcases hwaits i hi with hsettled | ⟨k, hwants, j, hj, -, hheld⟩
    · exact next_of_settled hsettled
    · exact next_of_waiting hwants hj hheld

omit [DecidableEq ι] in
theorem mem_unsettled : i ∈ S.unsettled held ↔ i ∈ S.members ∧ held i ≠ S.wants i :=
  Finset.mem_filter

theorem unsettled_step_subset : S.unsettled (S.step view held i) ⊆ S.unsettled held := by
  intro j hj
  rw [mem_unsettled] at hj ⊢
  exact ⟨hj.1, fun hsettled => hj.2 (step_of_settled hsettled)⟩

theorem unsettled_run_subset : S.unsettled (S.run held turns) ⊆ S.unsettled held := by
  intro j hj
  rw [mem_unsettled] at hj ⊢
  exact ⟨hj.1, fun hsettled => hj.2 (run_of_settled hsettled)⟩

/-- A turn that changes something settles a member. -/
theorem unsettled_step_ssubset (hi : i ∈ S.members) (hchange : S.next view held i ≠ held i) :
    S.unsettled (S.step view held i) ⊂ S.unsettled held := by
  refine Finset.ssubset_iff_of_subset unsettled_step_subset |>.mpr ⟨i, ?_, ?_⟩
  · rw [mem_unsettled]
    exact ⟨hi, mt next_of_settled hchange⟩
  · rw [mem_unsettled, step_self]
    rintro ⟨-, hunsettled⟩
    exact next_eq_or.elim hchange hunsettled

/-- Either no turn of the list would change anything at the start, or the list settles
somebody. -/
theorem forall_next_or_card_lt (hturns : ∀ i ∈ turns, i ∈ S.members) :
    (∀ i ∈ turns, S.next held held i = held i) ∨
      (S.unsettled (S.run held turns)).card < (S.unsettled held).card := by
  induction turns with
  | nil => exact Or.inl (by simp)
  | cons i turns ih =>
    have hrest := ih fun j hj => hturns j (List.mem_cons_of_mem i hj)
    rw [run_cons]
    by_cases hchange : S.next held held i = held i
    · rw [step_eq_self_iff.mpr hchange, List.forall_mem_cons]
      exact hrest.imp_left fun hkept => ⟨hchange, hkept⟩
    · refine Or.inr (Finset.card_lt_card ?_)
      exact unsettled_run_subset.trans_ssubset
        (unsettled_step_ssubset (hturns i List.mem_cons_self) hchange)

theorem quiescent_of_unsettled_eq_empty (hempty : S.unsettled held = ∅) : S.Quiescent held := by
  intro i hi
  refine next_of_settled ?_
  by_contra hunsettled
  have hmem := mem_unsettled.mpr ⟨hi, hunsettled⟩
  rw [hempty] at hmem
  cases hmem

/-- After as many rounds as there are unsettled members nothing changes any more. -/
theorem quiescent_run_flatten {rounds : List (List ι)} (hrounds : ∀ turns ∈ rounds, S.Round turns)
    (hcard : (S.unsettled held).card ≤ rounds.length) :
    S.Quiescent (S.run held rounds.flatten) := by
  induction rounds generalizing held with
  | nil => exact quiescent_of_unsettled_eq_empty (Finset.card_eq_zero.mp (Nat.le_zero.mp hcard))
  | cons turns rounds ih =>
    have hround := hrounds turns List.mem_cons_self
    have hrest := fun l hl => hrounds l (List.mem_cons_of_mem turns hl)
    obtain hkept | hlt : (∀ i ∈ turns, S.next held held i = held i) ∨
        (S.unsettled (S.run held turns)).card < (S.unsettled held).card :=
      forall_next_or_card_lt fun i hi => (hround i).mp hi
    · -- a round without a change: nothing changes from the start on
      have hquiet : S.Quiescent held := fun i hi => hkept i ((hround i).mpr hi)
      rwa [hquiet.run]
      intro i hi
      obtain ⟨l, hl, hil⟩ := List.mem_flatten.mp hi
      exact (hrounds l hl i).mp hil
    · rw [List.flatten_cons, run_append]
      refine ih hrest ?_
      rw [List.length_cons] at hcard
      omega

end Setting

/-! ### Chains of waiting -/

/-- Who waits for whom, followed as far as it goes among finitely many, comes to one that
waits for nobody, or to a cycle. -/
theorem exists_end_or_cycle {α : Type*} {waits : α → α → Prop} {x : α}
    (hfinite : {y | Relation.ReflTransGen waits x y}.Finite) :
    ∃ y, Relation.ReflTransGen waits x y ∧
      ((∀ z, ¬ waits y z) ∨ Relation.TransGen waits y y) := by
  by_contra hnone
  push Not at hnone
  have hreachable := hfinite.to_subtype
  -- without a cycle, being further along is well-founded on what the chains reach
  let further : {y | Relation.ReflTransGen waits x y} →
      {y | Relation.ReflTransGen waits x y} → Prop :=
    fun a b => Relation.TransGen waits b.1 a.1
  have htrans : IsTrans _ further := ⟨fun _ _ _ hab hbc => hbc.trans hab⟩
  have hirrefl : Std.Irrefl further := ⟨fun a ha => (hnone a.1 a.2).2 ha⟩
  obtain ⟨y, -, hlast⟩ := (Finite.wellFounded_of_trans_of_irrefl further).has_min Set.univ
    ⟨⟨x, Relation.ReflTransGen.refl⟩, trivial⟩
  obtain ⟨z, hz⟩ := (hnone y.1 y.2).1
  exact hlast ⟨z, y.2.tail hz⟩ trivial (Relation.TransGen.single hz)

end Claims
