import Mathlib.Data.Set.Finite.Basic
import Mathlib.Logic.Relation
import Mathlib.Order.WellFounded

/-!
# Removal under guards

A set of items is taken apart one by one. An item can be removed while no item that
is left guards it, and only if it is deletable. `Order` are the finite runs. When
guards have smaller rank than what they guard, nothing is ever stuck, and an item can
be removed in some run exactly when it and everything that guards it, transitively,
is deletable.

Whoever asks for a removal need not know the order. `Run` are the histories of requests in
which a removal that comes too early is refused and replayed once the item is free.

## Main results

* `Order.guard_before`: a guard is removed before what it guards
* `exists_free`: some item that is left is unguarded
* `removable_iff`: what some run removes
* `Run.guard_gone`: at any time what guards an item that is gone is gone
* `Run.left_eq_empty`: asking once for everything removes everything
-/

set_option autoImplicit false

namespace Removal

variable {α : Type*} {guards : α → α → Prop} {deletable : α → Prop}

/-- The item is left and nothing that is left guards it. -/
def Free (guards : α → α → Prop) (S : Set α) (x : α) : Prop := x ∈ S ∧ ∀ g ∈ S, ¬ guards g x

/-- Removing the listed items from `S`, in order, leaves `T`. -/
inductive Order (guards : α → α → Prop) (deletable : α → Prop) : Set α → List α → Set α → Prop
  | nil (S : Set α) : Order guards deletable S [] S
  | cons {S T : Set α} {x : α} {order : List α} (hdeletable : deletable x)
      (hfree : Free guards S x) (hrest : Order guards deletable (S \ {x}) order T) :
      Order guards deletable S (x :: order) T

namespace Order

variable {S T U : Set α} {order : List α} {x g : α}

theorem deletable_of_mem (h : Order guards deletable S order T) (hx : x ∈ order) :
    deletable x := by
  induction h with
  | nil => cases hx
  | cons hdeletable _ _ ih =>
    rcases List.mem_cons.mp hx with rfl | hrest
    · exact hdeletable
    · exact ih hrest

theorem mem_of_mem (h : Order guards deletable S order T) (hx : x ∈ order) : x ∈ S := by
  induction h with
  | nil => cases hx
  | cons _ hfree _ ih =>
    rcases List.mem_cons.mp hx with rfl | hrest
    · exact hfree.1
    · exact (ih hrest).1

/-- What is left is what was not removed. -/
theorem left_eq (h : Order guards deletable S order T) : T = {x ∈ S | x ∉ order} := by
  induction h with
  | nil => simp
  | cons _ _ _ ih =>
    rw [ih]
    ext y
    simp only [Set.mem_ofPred_eq, Set.mem_sdiff, Set.mem_singleton_iff, List.mem_cons, not_or]
    tauto

/-- A guard is removed before what it guards. -/
theorem guard_before {before after : List α}
    (h : Order guards deletable S (before ++ x :: after) T) (hg : g ∈ S) (hguard : guards g x) :
    g ∈ before := by
  induction before generalizing S with
  | nil =>
    cases h with
    | cons _ hfree _ => exact absurd hguard (hfree.2 g hg)
  | cons y rest ih =>
    cases h with
    | cons _ _ hrest =>
      by_cases hgy : g = y
      · exact List.mem_cons.mpr (Or.inl hgy)
      · exact List.mem_cons_of_mem y (ih hrest ⟨hg, hgy⟩)

/-- What guards a removed item, transitively, was removed. -/
theorem ancestor_mem (h : Order guards deletable S order T) (hx : x ∈ order)
    (hchain : Relation.ReflTransGen (fun a b => a ∈ S ∧ guards a b) g x) : g ∈ order := by
  induction hchain using Relation.ReflTransGen.head_induction_on with
  | refl => exact hx
  | head hguard _ ih =>
    obtain ⟨before, after, rfl⟩ := List.append_of_mem ih
    exact List.mem_append_left _ (h.guard_before hguard.1 hguard.2)

end Order

section Ranked

variable {rank : α → ℕ}

/-- Some item that is left is unguarded. -/
theorem exists_free {S : Set α} (hrank : ∀ g ∈ S, ∀ x ∈ S, guards g x → rank g < rank x)
    (hne : S.Nonempty) : ∃ x, Free guards S x := by
  obtain ⟨x, hx, hmin⟩ := WellFounded.has_min (measure rank).wf S hne
  exact ⟨x, hx, fun g hg hguard => hmin g hg (hrank g hg x hx hguard)⟩

/-- A finite deletable set that contains the guards of its members can be removed. -/
theorem exists_order_of_closed [DecidableEq α] (D : Finset α) : ∀ {S : Set α},
    (∀ g ∈ S, ∀ x ∈ S, guards g x → rank g < rank x) → (∀ x ∈ D, x ∈ S) →
    (∀ x ∈ D, ∀ g ∈ S, guards g x → g ∈ D) → (∀ x ∈ D, deletable x) →
      ∃ order T, Order guards deletable S order T ∧ ∀ x, x ∈ order ↔ x ∈ D := by
  induction D using Finset.strongInduction with
  | H D ih =>
    intro S hrank hsub hclosed hdeletable
    by_cases hempty : D = ∅
    · subst hempty
      exact ⟨[], S, Order.nil S, by simp⟩
    -- the member of least rank is free, because its guards would be members
    obtain ⟨x, hx, hmin⟩ : ∃ x, Free guards (↑D : Set α) x :=
      exists_free (fun g hg x hx => hrank g (hsub g hg) x (hsub x hx))
        (Finset.nonempty_iff_ne_empty.mpr hempty)
    have hfree : Free guards S x :=
      ⟨hsub x hx, fun g hg hguard => hmin g (hclosed x hx g hg hguard) hguard⟩
    have hsub' : ∀ y ∈ D.erase x, y ∈ S \ {x} := fun y hy =>
      ⟨hsub y (Finset.mem_of_mem_erase hy), Finset.ne_of_mem_erase hy⟩
    have hclosed' : ∀ y ∈ D.erase x, ∀ g ∈ S \ {x}, guards g y → g ∈ D.erase x :=
      fun y hy g hg hguard => Finset.mem_erase.mpr
        ⟨hg.2, hclosed y (Finset.mem_of_mem_erase hy) g hg.1 hguard⟩
    obtain ⟨order, T, horder, hmem⟩ := ih (D.erase x) (Finset.erase_ssubset hx)
      (fun g hg y hy => hrank g hg.1 y hy.1) hsub' hclosed'
      fun y hy => hdeletable y (Finset.mem_of_mem_erase hy)
    refine ⟨x :: order, T, Order.cons (hdeletable x hx) hfree horder, fun y => ?_⟩
    rw [List.mem_cons, hmem, Finset.mem_erase]
    by_cases hyx : y = x
    · simp only [hyx, true_or, true_iff]
      exact hx
    · simp only [hyx, false_or, ne_eq, not_false_eq_true, true_and]

/-- An item is removed by some run exactly when it and everything that guards it,
transitively, is deletable. -/
theorem removable_iff {S : Set α} (hfinite : S.Finite)
    (hrank : ∀ g ∈ S, ∀ x ∈ S, guards g x → rank g < rank x) {x : α} (hx : x ∈ S) :
    (∃ order T, Order guards deletable S order T ∧ x ∈ order) ↔
      ∀ g, Relation.ReflTransGen (fun a b => a ∈ S ∧ guards a b) g x → deletable g := by
  classical
  constructor
  · rintro ⟨order, T, horder, hmem⟩ g hchain
    exact horder.deletable_of_mem (horder.ancestor_mem hmem hchain)
  · intro hdeletable
    -- removing `x` and its transitive guards, which contain their own guards, is enough
    obtain ⟨D, hD⟩ : ∃ D : Finset α, ∀ y, y ∈ D ↔
        y ∈ S ∧ Relation.ReflTransGen (fun a b => a ∈ S ∧ guards a b) y x :=
      ⟨hfinite.toFinset.filter fun y =>
        Relation.ReflTransGen (fun a b => a ∈ S ∧ guards a b) y x, by simp⟩
    have hclosed : ∀ y ∈ D, ∀ g ∈ S, guards g y → g ∈ D := fun y hy g hg hguard =>
      (hD g).mpr ⟨hg, Relation.ReflTransGen.head ⟨hg, hguard⟩ ((hD y).mp hy).2⟩
    obtain ⟨order, T, horder, hmem⟩ := exists_order_of_closed D hrank
      (fun y hy => ((hD y).mp hy).1) hclosed fun y hy => hdeletable y ((hD y).mp hy).2
    exact ⟨order, T, horder, (hmem x).mpr ((hD x).mpr ⟨hx, Relation.ReflTransGen.refl⟩)⟩

/-- When everything is deletable some run removes everything. -/
theorem exists_complete_order {S : Set α} (hfinite : S.Finite)
    (hrank : ∀ g ∈ S, ∀ x ∈ S, guards g x → rank g < rank x) (hdeletable : ∀ x ∈ S, deletable x) :
    ∃ order, Order guards deletable S order ∅ ∧ ∀ x, x ∈ order ↔ x ∈ S := by
  classical
  obtain ⟨order, T, horder, hmem⟩ := exists_order_of_closed hfinite.toFinset hrank
    (fun y hy => hfinite.mem_toFinset.mp hy) (fun _ _ g hg _ => hfinite.mem_toFinset.mpr hg)
    fun y hy => hdeletable y (hfinite.mem_toFinset.mp hy)
  have hall : ∀ x, x ∈ order ↔ x ∈ S := fun x => (hmem x).trans hfinite.mem_toFinset
  have hleft : T = ∅ := by
    rw [horder.left_eq, Set.eq_empty_iff_forall_notMem]
    exact fun y hy => hy.2 ((hall y).mpr hy.1)
  exact ⟨order, hleft ▸ horder, hall⟩

end Ranked

/-! ### Requests and replays -/

/-- What is left, and the items whose removal was refused and is to be replayed. -/
structure Progress (α : Type*) where
  left : Set α
  refused : Set α

/-- Somebody asks for the removal of an item, or a refused removal is replayed. -/
inductive Event (α : Type*) where
  | ask (x : α)
  | replay (x : α)

/-- One event. A removal is refused while something that is left guards the item, and it is
noted when one of these guards replays. -/
inductive Step (guards replays : α → α → Prop) :
    Progress α → Event α → Progress α → Prop
  | remove {s : Progress α} {x : α} (hfree : Free guards s.left x) :
      Step guards replays s (.ask x) { s with left := s.left \ {x} }
  | refuse {s : Progress α} {x : α} (hx : x ∈ s.left) (hguarded : ¬ Free guards s.left x) :
      Step guards replays s (.ask x)
        { s with refused := {y | y ∈ s.refused ∨ y = x ∧ ∃ g ∈ s.left, replays g x} }
  | gone {s : Progress α} {x : α} (hx : x ∉ s.left) : Step guards replays s (.ask x) s
  | replay {s : Progress α} {x : α} (hx : x ∈ s.refused) (hfree : Free guards s.left x) :
      Step guards replays s (.replay x) { s with left := s.left \ {x} }

/-- A run of events, from all of `S` and nothing refused. -/
inductive Run (guards replays : α → α → Prop) (S : Set α) : List (Event α) → Progress α → Prop
  | nil : Run guards replays S [] ⟨S, ∅⟩
  | snoc {events : List (Event α)} {e : Event α} {s t : Progress α}
      (hrun : Run guards replays S events s) (hstep : Step guards replays s e t) :
      Run guards replays S (events ++ [e]) t

/-- No refused removal can be replayed. -/
def Settled (guards : α → α → Prop) (s : Progress α) : Prop :=
  ∀ x ∈ s.refused, ¬ Free guards s.left x

variable {replays : α → α → Prop} {S : Set α} {s t : Progress α} {e : Event α}
  {events : List (Event α)} {x g : α}

theorem Order.snoc {order : List α} {T : Set α} (h : Order guards deletable S order T)
    (hdeletable : deletable x) (hfree : Free guards T x) :
    Order guards deletable S (order ++ [x]) (T \ {x}) := by
  induction h with
  | nil => exact Order.cons hdeletable hfree (Order.nil _)
  | cons hdeletable' hfree' _ ih => exact Order.cons hdeletable' hfree' (ih hfree)

/-- An event removes a free item, or nothing. -/
theorem Step.left_cases (h : Step guards replays s e t) :
    t.left = s.left ∨ ∃ x, Free guards s.left x ∧ t.left = s.left \ {x} := by
  cases h with
  | remove hfree => exact Or.inr ⟨_, hfree, rfl⟩
  | refuse => exact Or.inl rfl
  | gone => exact Or.inl rfl
  | replay _ hfree => exact Or.inr ⟨_, hfree, rfl⟩

theorem Step.left_subset (h : Step guards replays s e t) : t.left ⊆ s.left := by
  rcases h.left_cases with heq | ⟨x, -, heq⟩
  · exact heq.subset
  · exact heq ▸ Set.sdiff_subset

theorem Step.refused_subset (h : Step guards replays s e t) : s.refused ⊆ t.refused := by
  cases h with
  | refuse => exact fun y hy => Or.inl hy
  | remove | gone | replay => exact subset_rfl

/-- Who was asked for is gone, or refused for as long as its guards replay. -/
theorem Step.asked (hreplays : ∀ g x, guards g x → replays g x)
    (h : Step guards replays s (.ask x) t) : x ∉ t.left ∨ x ∈ t.refused := by
  cases h with
  | remove => exact Or.inl fun hx => hx.2 rfl
  | gone hx => exact Or.inl hx
  | refuse hx hguarded =>
    simp only [Free, not_and, not_forall, not_not] at hguarded
    obtain ⟨g, hg, hguards⟩ := hguarded hx
    exact Or.inr (Or.inr ⟨rfl, g, hg, hreplays g x hguards⟩)

namespace Run

/-- A run removes in an order that the guards permit. -/
theorem exists_order (h : Run guards replays S events s) :
    ∃ order, Order guards (fun _ => True) S order s.left := by
  induction h with
  | nil => exact ⟨[], Order.nil S⟩
  | snoc _ hstep ih =>
    obtain ⟨order, horder⟩ := ih
    rcases hstep.left_cases with heq | ⟨x, hfree, heq⟩
    · exact ⟨order, heq ▸ horder⟩
    · exact ⟨order ++ [x], heq ▸ horder.snoc trivial hfree⟩

theorem left_subset (h : Run guards replays S events s) : s.left ⊆ S := by
  obtain ⟨order, horder⟩ := h.exists_order
  rw [horder.left_eq]
  exact fun x hx => hx.1

/-- What guards an item that is gone, transitively, is gone. -/
theorem guard_gone (h : Run guards replays S events s) (hx : x ∈ S) (hgone : x ∉ s.left)
    (hchain : Relation.ReflTransGen (fun a b => a ∈ S ∧ guards a b) g x) : g ∉ s.left := by
  obtain ⟨order, horder⟩ := h.exists_order
  rw [horder.left_eq] at hgone ⊢
  have hmem : x ∈ order := by
    by_contra hnot
    exact hgone ⟨hx, hnot⟩
  exact fun hg => hg.2 (horder.ancestor_mem hmem hchain)

/-- Who was asked for is gone, or refused and to be replayed. -/
theorem asked (hreplays : ∀ g x, guards g x → replays g x) (h : Run guards replays S events s)
    (hasked : Event.ask x ∈ events) : x ∉ s.left ∨ x ∈ s.refused := by
  induction h with
  | nil => cases hasked
  | snoc _ hstep ih =>
    rcases List.mem_append.mp hasked with hbefore | hlast
    · -- what is gone stays gone, and what is noted stays noted
      exact (ih hbefore).imp (mt (hstep.left_subset ·)) (hstep.refused_subset ·)
    · obtain rfl := List.mem_singleton.mp hlast
      exact hstep.asked hreplays

/-- When every item was asked for once and no refused removal can be replayed, nothing is
left: the least item that is left would be free. -/
theorem left_eq_empty {rank : α → ℕ} (hrank : ∀ g ∈ S, ∀ x ∈ S, guards g x → rank g < rank x)
    (hreplays : ∀ g x, guards g x → replays g x) (h : Run guards replays S events s)
    (hasked : ∀ x ∈ S, Event.ask x ∈ events) (hsettled : Settled guards s) : s.left = ∅ := by
  by_contra hne
  obtain ⟨x, hfree⟩ := exists_free
    (fun g hg x hx => hrank g (h.left_subset hg) x (h.left_subset hx))
    (Set.nonempty_iff_ne_empty.mpr hne)
  have hrefused := (h.asked hreplays (hasked x (h.left_subset hfree.1))).resolve_left
    (not_not_intro hfree.1)
  exact hsettled x hrefused hfree

/-- Asking in an order that the guards permit removes without a refusal. -/
theorem append_order {order : List α} {T U : Set α}
    (horder : Order guards deletable T order U) :
    ∀ {events : List (Event α)} {s : Progress α}, Run guards replays S events s → s.left = T →
      Run guards replays S (events ++ order.map Event.ask) ⟨U, s.refused⟩ := by
  induction horder with
  | nil T =>
    rintro events s h rfl
    rwa [List.map_nil, List.append_nil]
  | cons _ hfree _ ih =>
    rintro events s h rfl
    have hrest := ih (h.snoc (Step.remove hfree)) rfl
    rwa [List.append_assoc] at hrest

/-- Every run can be continued until nothing is left. -/
theorem exists_complete {rank : α → ℕ} (hfinite : S.Finite)
    (hrank : ∀ g ∈ S, ∀ x ∈ S, guards g x → rank g < rank x) (h : Run guards replays S events s) :
    ∃ more t, Run guards replays S (events ++ more) t ∧ t.left = ∅ := by
  obtain ⟨order, horder, -⟩ := @exists_complete_order α guards (fun _ => True) rank s.left
    (hfinite.subset h.left_subset)
    (fun g hg x hx => hrank g (h.left_subset hg) x (h.left_subset hx)) fun _ _ => trivial
  exact ⟨_, _, append_order horder h rfl, rfl⟩

end Run

end Removal
