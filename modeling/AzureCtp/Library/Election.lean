import Mathlib.Data.List.MinMax

/-!
# Electing the least participant by local views

Every participant of a list looks at the others alone: it keeps those with a
smaller key than its own and names the least of them, or nobody when there is
none. When keys tell participants apart, all these separate views agree on one
elected member, the participant of least key, and only that member names nobody.
-/

set_option autoImplicit false

namespace Election

variable {α κ : Type*} [LinearOrder κ]

/-- `x` is elected: a participant of the list whose key no other undercuts. -/
def Elected (participates : α → Bool) (key : α → κ) (members : List α) (x : α) : Prop :=
  x ∈ members ∧ participates x = true ∧
    ∀ y ∈ members, participates y = true → key x ≤ key y

/-- The participants with a smaller key than `x`. -/
def ahead (participates : α → Bool) (key : α → κ) (members : List α) (x : α) : List α :=
  members.filter fun y => participates y && decide (key y < key x)

/-- Whom `x` names: the least participant ahead of it. -/
def view (participates : α → Bool) (key : α → κ) (members : List α) (x : α) : Option α :=
  (ahead participates key members x).argmin key

variable {participates : α → Bool} {key : α → κ} {members : List α} {x y : α}

theorem mem_ahead : y ∈ ahead participates key members x ↔
    y ∈ members ∧ participates y = true ∧ key y < key x := by
  simp [ahead]

/-- Whoever is named is elected, also when the one who looks does not participate. -/
theorem elected_of_view_eq_some (hview : view participates key members x = some y) :
    Elected participates key members y := by
  have hargmin : y ∈ (ahead participates key members x).argmin key := hview
  obtain ⟨hmem, hpart, hlt⟩ := mem_ahead.mp (List.argmin_mem hargmin)
  refine ⟨hmem, hpart, fun z hz hzpart => ?_⟩
  -- those not ahead of `x` are beaten by `x`, and so by whom `x` names
  rcases lt_or_ge (key z) (key x) with hzx | hxz
  · exact List.le_of_mem_argmin (mem_ahead.mpr ⟨hz, hzpart, hzx⟩) hargmin
  · exact hlt.le.trans hxz

/-- A participant names nobody exactly when it is elected itself. -/
theorem view_eq_none_iff (hmem : x ∈ members) (hpart : participates x = true) :
    view participates key members x = none ↔ Elected participates key members x := by
  rw [view, List.argmin_eq_none, List.eq_nil_iff_forall_not_mem]
  constructor
  · intro hempty
    refine ⟨hmem, hpart, fun y hy hypart => ?_⟩
    by_contra hlt
    exact hempty y (mem_ahead.mpr ⟨hy, hypart, not_le.mp hlt⟩)
  · rintro ⟨-, -, hleast⟩ y hy
    obtain ⟨hymem, hypart, hlt⟩ := mem_ahead.mp hy
    exact absurd hlt (not_lt.mpr (hleast y hymem hypart))

/-- Keys that tell members apart elect at most one of them. -/
theorem Elected.unique (hinj : ∀ a ∈ members, ∀ b ∈ members, key a = key b → a = b)
    (hx : Elected participates key members x) (hy : Elected participates key members y) :
    x = y :=
  hinj x hx.1 y hy.1 (le_antisymm (hx.2.2 y hy.1 hy.2.1) (hy.2.2 x hx.1 hx.2.1))

/-- Somebody is elected as soon as somebody participates. -/
theorem exists_elected (hmem : x ∈ members) (hpart : participates x = true) :
    ∃ y, Elected participates key members y := by
  cases hview : view participates key members x with
  | none => exact ⟨x, (view_eq_none_iff hmem hpart).mp hview⟩
  | some y => exact ⟨y, elected_of_view_eq_some hview⟩

/-- The least key depends on the members only, not on how they are listed. -/
theorem argmin_map_key_congr {members' : List α} (hmem : ∀ x, x ∈ members ↔ x ∈ members') :
    (members.argmin key).map key = (members'.argmin key).map key := by
  cases h : members.argmin key with
  | none =>
    have hempty : members' = [] := List.eq_nil_iff_forall_not_mem.mpr fun x hx => by
      rw [← hmem, List.argmin_eq_none.mp h] at hx
      cases hx
    rw [hempty]
    rfl
  | some x =>
    cases h' : members'.argmin key with
    | none =>
      have hx := (hmem x).mp (List.argmin_mem h)
      rw [List.argmin_eq_none.mp h'] at hx
      cases hx
    | some y =>
      have hxy := List.le_of_mem_argmin ((hmem y).mpr (List.argmin_mem h')) h
      have hyx := List.le_of_mem_argmin ((hmem x).mp (List.argmin_mem h)) h'
      exact congrArg some (le_antisymm hxy hyx)

/-- Members rewritten by a function are ranked as what they were rewritten from. -/
theorem argmin_map {β : Type*} (f : β → α) (members' : List β) :
    (members'.map f).argmin key = (members'.argmin (key ∘ f)).map f := by
  induction members' with
  | nil => rfl
  | cons x rest ih =>
    rw [List.map_cons, List.argmin_cons, List.argmin_cons, ih]
    cases rest.argmin (key ∘ f) with
    | none => rfl
    | some y =>
      simp only [Option.map_some, Function.comp_apply]
      split_ifs <;> rfl

/-- The least key depends on the keys only. -/
theorem argmin_map_key_eq_of_keys {members' : List α}
    (hkeys : ∀ k, k ∈ members.map key ↔ k ∈ members'.map key) :
    (members.argmin key).map key = (members'.argmin key).map key := by
  have hleast : ∀ l : List α, (l.argmin key).map key = (l.map key).argmin id :=
    fun l => (@argmin_map κ κ _ id α key l).symm
  have hcongr : ((members.map key).argmin id).map id = ((members'.map key).argmin id).map id :=
    argmin_map_key_congr hkeys
  rw [hleast, hleast]
  simpa only [Option.map_id, id_eq] using hcongr

end Election
