import Mathlib.Data.Finset.Card
import Mathlib.Data.List.AList
import Mathlib.Data.List.Basic

/-!
# Documents and string-keyed maps

The values a configuration program assembles: scalars, lists and string-keyed
dictionaries. A dictionary keeps its fields in insertion order, and assigning a
key replaces the value in place or appends a field. `updateFields` assigns all
fields of another dictionary.

Finite maps whose keys must stay distinct are Mathlib's `AList`. `writeAll`
writes a list of entries into such a map, later entries winning, and `mapValues`
rewrites every value. A list of entries with distinct keys, written into the
empty map, can be read back entry by entry. `updateAll` writes each entry into
what the map has under its key. `keysWith` are the keys whose value
satisfies a predicate, as many as there are entries that do.
-/

set_option autoImplicit false

namespace Document

section Fields

variable {α : Type*}

/-- Assign a key: the first field under it is replaced, a new key goes last. -/
def setField : List (String × α) → String → α → List (String × α)
  | [], key, value => [(key, value)]
  | (k, v) :: rest, key, value =>
    if k = key then (key, value) :: rest else (k, v) :: setField rest key value

/-- Drop a key. -/
def eraseField (fields : List (String × α)) (key : String) : List (String × α) :=
  fields.filter fun field => field.1 ≠ key

/-- What was assigned to a key is dropped with it. -/
theorem eraseField_setField (fields : List (String × α)) (key : String) (value : α) :
    eraseField (setField fields key value) key = eraseField fields key := by
  induction fields with
  | nil => simp [setField, eraseField]
  | cons field rest ih =>
    obtain ⟨k, v⟩ := field
    unfold setField
    split_ifs with hk
    · subst hk
      simp [eraseField]
    · simpa [eraseField, hk] using ih

/-- Assigning a key leaves what is found under the others. -/
theorem lookup_setField_of_ne {key key' : String} (hne : key' ≠ key)
    (fields : List (String × α)) (value : α) :
    (setField fields key value).lookup key' = fields.lookup key' := by
  induction fields with
  | nil => simp [setField, List.lookup_cons, beq_eq_false_iff_ne.mpr hne]
  | cons field rest ih =>
    obtain ⟨k, v⟩ := field
    unfold setField
    split_ifs with hk
    · subst hk
      simp [List.lookup_cons, beq_eq_false_iff_ne.mpr hne]
    · simp only [List.lookup_cons, ih]

theorem lookup_setField_self (fields : List (String × α)) (key : String) (value : α) :
    (setField fields key value).lookup key = some value := by
  induction fields with
  | nil => simp [setField]
  | cons field rest ih =>
    obtain ⟨k, v⟩ := field
    unfold setField
    split_ifs with hk
    · simp
    · simp only [List.lookup_cons, beq_eq_false_iff_ne.mpr (Ne.symm hk), ih]

/-- A key that is not there is assigned at the end. -/
theorem setField_of_lookup_eq_none {fields : List (String × α)} {key : String}
    (hnone : fields.lookup key = none) (value : α) :
    setField fields key value = fields ++ [(key, value)] := by
  induction fields with
  | nil => rfl
  | cons field rest ih =>
    obtain ⟨k, v⟩ := field
    by_cases hk : key = k
    · simp [hk] at hnone
    · rw [List.lookup_cons, beq_eq_false_iff_ne.mpr hk] at hnone
      rw [setField, if_neg (Ne.symm hk), ih hnone, List.cons_append]

/-- Assign all fields of a source, as a dictionary's `update` does. -/
def updateFields (fields source : List (String × α)) : List (String × α) :=
  source.foldl (fun fields field => setField fields field.1 field.2) fields

/-- What the source has overwrites, and what it has not is kept. -/
theorem lookup_updateFields {source : List (String × α)} (hnodup : (source.map Prod.fst).Nodup)
    (fields : List (String × α)) (key : String) :
    (updateFields fields source).lookup key = (source.lookup key).or (fields.lookup key) := by
  induction source generalizing fields with
  | nil => rfl
  | cons field rest ih =>
    obtain ⟨k, v⟩ := field
    simp only [List.map_cons, List.nodup_cons] at hnodup
    change (updateFields (setField fields k v) rest).lookup key = _
    rw [ih hnodup.2]
    by_cases hk : key = k
    · -- the rest does not assign the first key again
      subst hk
      have hrest : rest.lookup key = none := by
        rw [List.lookup_eq_none_iff]
        intro field hfield
        rw [bne_iff_ne]
        rintro rfl
        exact hnodup.1 (List.mem_map_of_mem hfield)
      rw [hrest, Option.none_or, lookup_setField_self, List.lookup_cons_self, Option.some_or]
    · rw [lookup_setField_of_ne hk, List.lookup_cons, beq_eq_false_iff_ne.mpr hk]

end Fields

/-- A document value. -/
inductive Value where
  | bool (b : Bool)
  | num (n : Int)
  | str (s : String)
  | list (items : List Value)
  | dict (fields : List (String × Value))

namespace Value

instance : Coe String Value := ⟨str⟩
instance : Coe Bool Value := ⟨bool⟩

/-- The list value of a list of strings. -/
def strings (items : List String) : Value := .list (items.map str)

/-- Read a dictionary field. A value that is not a dictionary has no fields. -/
def get? : Value → String → Option Value
  | dict fields, key => fields.lookup key
  | _, _ => none

/-- Read along a path of dictionary keys. -/
def at? : Value → List String → Option Value
  | v, [] => some v
  | v, key :: path => (v.get? key).bind fun child => child.at? path

/-- Assign a dictionary field. -/
def set : Value → String → Value → Value
  | dict fields, key, value => dict (setField fields key value)
  | v, _, _ => v

/-- Drop a dictionary field. -/
def erase : Value → String → Value
  | dict fields, key => dict (eraseField fields key)
  | v, _ => v

/-- Rewrite a dictionary field, where there is one. -/
def modify : Value → String → (Value → Value) → Value
  | dict fields, key, f =>
    dict (fields.map fun field => if field.1 = key then (field.1, f field.2) else field)
  | v, _, _ => v

/-- Drop the field at a path of dictionary keys. -/
def eraseAt : Value → List String → Value
  | v, [] => v
  | v, [key] => v.erase key
  | v, key :: path => v.modify key fun child => child.eraseAt path

/-- A step into a value: to a dictionary field, or to all items of a list. -/
inductive Step where
  | field (key : String)
  | items

/-- The items of a list value. -/
def items : Value → List Value
  | list items => items
  | _ => []

mutual

/-- Equality of values is decided branch by branch; an instance cannot be derived through the
nested lists. -/
def decEq : (a b : Value) → Decidable (a = b)
  | .bool a, .bool b => decidable_of_iff (a = b) (by rw [bool.injEq])
  | .num a, .num b => decidable_of_iff (a = b) (by rw [num.injEq])
  | .str a, .str b => decidable_of_iff (a = b) (by rw [str.injEq])
  | .list a, .list b => @decidable_of_iff _ (a = b) (by rw [list.injEq]) (decEqItems a b)
  | .dict a, .dict b => @decidable_of_iff _ (a = b) (by rw [dict.injEq]) (decEqFields a b)
  | .bool _, .num _ | .bool _, .str _ | .bool _, .list _ | .bool _, .dict _
  | .num _, .bool _ | .num _, .str _ | .num _, .list _ | .num _, .dict _
  | .str _, .bool _ | .str _, .num _ | .str _, .list _ | .str _, .dict _
  | .list _, .bool _ | .list _, .num _ | .list _, .str _ | .list _, .dict _
  | .dict _, .bool _ | .dict _, .num _ | .dict _, .str _ | .dict _, .list _ => isFalse nofun

def decEqItems : (a b : List Value) → Decidable (a = b)
  | [], [] => isTrue rfl
  | [], _ :: _ | _ :: _, [] => isFalse nofun
  | v :: a, w :: b =>
    @decidable_of_iff _ (v = w ∧ a = b) (by rw [List.cons.injEq])
      (@instDecidableAnd _ _ (decEq v w) (decEqItems a b))

def decEqFields : (a b : List (String × Value)) → Decidable (a = b)
  | [], [] => isTrue rfl
  | [], _ :: _ | _ :: _, [] => isFalse nofun
  | (k, v) :: a, (l, w) :: b =>
    @decidable_of_iff _ (k = l ∧ v = w ∧ a = b)
      (by rw [List.cons.injEq, Prod.mk.injEq, and_assoc])
      (@instDecidableAnd _ _ _ (@instDecidableAnd _ _ (decEq v w) (decEqFields a b)))

end

instance : DecidableEq Value := decEq

/-- All values along a path. -/
def select : Value → List Step → List Value
  | v, [] => [v]
  | v, .field key :: path => (v.get? key).toList.flatMap fun child => child.select path
  | v, .items :: path => v.items.flatMap fun item => item.select path

/-- The strings of a list value. -/
def toStrings : Value → List String
  | list items => items.filterMap fun
    | str s => some s
    | _ => none
  | _ => []

@[simp] theorem at?_nil (v : Value) : v.at? [] = some v := by
  cases v <;> rfl

@[simp] theorem at?_cons (v : Value) (key : String) (path : List String) :
    v.at? (key :: path) = (v.get? key).bind fun child => child.at? path := by
  cases v <;> rfl

@[simp] theorem get?_dict (fields : List (String × Value)) (key : String) :
    (dict fields).get? key = fields.lookup key := rfl

theorem erase_set (v : Value) (key : String) (value : Value) :
    (v.set key value).erase key = v.erase key := by
  cases v with
  | dict fields => exact congrArg dict (eraseField_setField fields key value)
  | _ => rfl

theorem modify_set (v : Value) (key : String) (value : Value) (f : Value → Value) :
    (v.set key value).modify key f = (v.modify key f).set key (f value) := by
  cases v with
  | dict fields =>
    refine congrArg dict ?_
    induction fields with
    | nil => simp [setField]
    | cons field rest ih =>
      obtain ⟨k, w⟩ := field
      by_cases hk : k = key
      · subst hk
        simp [setField]
      · simp [setField, hk, ih]
  | _ => rfl

theorem get?_modify_of_ne {key key' : String} (hne : key' ≠ key) (v : Value)
    (f : Value → Value) : (v.modify key f).get? key' = v.get? key' := by
  cases v with
  | dict fields =>
    simp only [modify, get?_dict]
    induction fields with
    | nil => rfl
    | cons field rest ih =>
      obtain ⟨k, w⟩ := field
      by_cases hk : k = key
      · subst hk
        simp [List.lookup_cons, beq_eq_false_iff_ne.mpr hne, ih]
      · by_cases hk' : key' = k
        · subst hk'
          simp [hk]
        · simp [List.lookup_cons, hk, beq_eq_false_iff_ne.mpr hk', ih]
  | _ => rfl

@[simp] theorem toStrings_strings (items : List String) : (strings items).toStrings = items := by
  simp [strings, toStrings, List.filterMap_map]

end Value

section Maps

variable {α : Type*}

/-- A finite map with string keys. -/
abbrev Map (α : Type*) := AList fun _ : String => α

/-- One entry of such a map. -/
abbrev Entry (α : Type*) := (_ : String) × α

/-- Write a list of entries, in order. -/
def writeAll (m : Map α) (entries : List (Entry α)) : Map α :=
  entries.foldl (fun m e => m.insert e.1 e.2) m

/-- Rewrite every value. -/
def mapValues {β : Type*} (f : α → β) (m : Map α) : Map β where
  entries := m.entries.map fun e => ⟨e.1, f e.2⟩
  nodupKeys := by
    have hkeys : (m.entries.map fun e => (⟨e.1, f e.2⟩ : Entry β)).keys = m.entries.keys := by
      simp [List.keys, Function.comp_def]
    rw [List.NodupKeys, hkeys]
    exact m.nodupKeys

theorem lookup_mapValues {β : Type*} (f : α → β) (m : Map α) (key : String) :
    (mapValues f m).lookup key = (m.lookup key).map f := by
  have hlist : ∀ entries : List (Entry α),
      List.dlookup key (entries.map fun e => (⟨e.1, f e.2⟩ : Entry β)) =
        Option.map f (List.dlookup key entries) := by
    intro entries
    induction entries with
    | nil => rfl
    | cons e rest ih =>
      obtain ⟨k, v⟩ := e
      by_cases hk : key = k
      · subst hk
        simp
      · simp [List.dlookup_cons_ne, hk, ih]
  exact hlist m.entries

theorem lookup_writeAll_of_notMem {key : String} (m : Map α) {entries : List (Entry α)}
    (hkey : key ∉ entries.map Sigma.fst) :
    (writeAll m entries).lookup key = m.lookup key := by
  induction entries generalizing m with
  | nil => rfl
  | cons e rest ih =>
    simp only [List.map_cons, List.mem_cons, not_or] at hkey
    change (writeAll (m.insert e.1 e.2) rest).lookup key = m.lookup key
    rw [ih _ hkey.2, AList.lookup_insert_ne hkey.1]

/-- Entries with distinct keys are all found again after writing them. -/
theorem lookup_writeAll_of_mem {key : String} {value : α} (m : Map α)
    {entries : List (Entry α)} (hnodup : (entries.map Sigma.fst).Nodup)
    (hmem : (⟨key, value⟩ : Entry α) ∈ entries) :
    (writeAll m entries).lookup key = some value := by
  induction entries generalizing m with
  | nil => cases hmem
  | cons e rest ih =>
    simp only [List.map_cons, List.nodup_cons] at hnodup
    change (writeAll (m.insert e.1 e.2) rest).lookup key = some value
    rcases List.mem_cons.mp hmem with rfl | hrest
    · rw [lookup_writeAll_of_notMem _ hnodup.1, AList.lookup_insert]
    · exact ih _ hnodup.2 hrest

/-- Writing entries with distinct keys into the empty map stores exactly these
entries. -/
theorem lookup_writeAll_empty_iff {key : String} {value : α} {entries : List (Entry α)}
    (hnodup : (entries.map Sigma.fst).Nodup) :
    (writeAll ∅ entries).lookup key = some value ↔ (⟨key, value⟩ : Entry α) ∈ entries := by
  constructor
  · intro hlookup
    by_cases hkey : key ∈ entries.map Sigma.fst
    · obtain ⟨⟨k, v⟩, hmem, rfl⟩ := List.mem_map.mp hkey
      rw [lookup_writeAll_of_mem ∅ hnodup hmem] at hlookup
      cases hlookup
      exact hmem
    · rw [lookup_writeAll_of_notMem ∅ hkey, AList.lookup_empty] at hlookup
      cases hlookup
  · exact lookup_writeAll_of_mem ∅ hnodup

/-- Entries with distinct keys hide what the map had under them, and nothing else. -/
theorem lookup_writeAll_eq_or {key : String} (m : Map α) {entries : List (Entry α)}
    (hnodup : (entries.map Sigma.fst).Nodup) :
    (writeAll m entries).lookup key = ((writeAll ∅ entries).lookup key).or (m.lookup key) := by
  by_cases hkey : key ∈ entries.map Sigma.fst
  · obtain ⟨⟨k, value⟩, hmem, rfl⟩ := List.mem_map.mp hkey
    rw [lookup_writeAll_of_mem m hnodup hmem, lookup_writeAll_of_mem ∅ hnodup hmem,
      Option.some_or]
  · rw [lookup_writeAll_of_notMem m hkey, lookup_writeAll_of_notMem ∅ hkey, AList.lookup_empty,
      Option.none_or]

/-- Write a list of entries, in order, each into what the map has under its key so far. -/
def updateAll {β : Type*} (f : Option α → β → α) (m : Map α) (entries : List (Entry β)) : Map α :=
  entries.foldl (fun m e => m.insert e.1 (f (m.lookup e.1) e.2)) m

/-- Entries with distinct keys are each written into what the map had at first. -/
theorem lookup_updateAll {β : Type*} (f : Option α → β → α) (m : Map α) {entries : List (Entry β)}
    (hnodup : (entries.map Sigma.fst).Nodup) (key : String) :
    (updateAll f m entries).lookup key =
      (((writeAll ∅ entries).lookup key).map (f (m.lookup key))).or (m.lookup key) := by
  induction entries generalizing m with
  | nil => rfl
  | cons e rest ih =>
    have hnodup' := List.nodup_cons.mp hnodup
    change (updateAll f (m.insert e.1 (f (m.lookup e.1) e.2)) rest).lookup key = _
    rw [ih _ hnodup'.2]
    by_cases hkey : key = e.1
    · subst hkey
      have hfirst : (writeAll ∅ (e :: rest)).lookup e.1 = some e.2 :=
        lookup_writeAll_of_mem ∅ hnodup List.mem_cons_self
      rw [lookup_writeAll_of_notMem ∅ hnodup'.1, hfirst, AList.lookup_empty, AList.lookup_insert]
      rfl
    · have hrest : (writeAll ∅ (e :: rest)).lookup key = (writeAll ∅ rest).lookup key := by
        change (writeAll ((∅ : Map β).insert e.1 e.2) rest).lookup key = _
        rw [lookup_writeAll_eq_or _ hnodup'.2, AList.lookup_insert_ne hkey, AList.lookup_empty,
          Option.or_none]
      rw [hrest, AList.lookup_insert_ne hkey]

/-- The keys whose value satisfies a predicate. -/
def keysWith (m : Map α) (p : α → Bool) : Finset String :=
  m.keys.toFinset.filter fun key => (m.lookup key).any p

theorem mem_keysWith {m : Map α} {p : α → Bool} {key : String} :
    key ∈ keysWith m p ↔ ∃ value, m.lookup key = some value ∧ p value = true := by
  rw [keysWith, Finset.mem_filter, List.mem_toFinset, Option.any_eq_true]
  refine and_iff_right_of_imp ?_
  rintro ⟨value, hvalue, -⟩
  exact AList.mem_keys.mp (AList.lookup_isSome.mp (Option.isSome_of_eq_some hvalue))

/-- There are as many such keys as entries. -/
theorem card_keysWith (m : Map α) (p : α → Bool) :
    (keysWith m p).card = m.entries.countP fun e => p e.2 := by
  have hkeys : keysWith m p = ((m.entries.filter fun e => p e.2).map Sigma.fst).toFinset := by
    ext key
    simp only [mem_keysWith, List.mem_toFinset, List.mem_map, List.mem_filter]
    constructor
    · rintro ⟨value, hvalue, hp⟩
      exact ⟨⟨key, value⟩, ⟨AList.mem_lookup_iff.mp hvalue, hp⟩, rfl⟩
    · rintro ⟨⟨_, value⟩, ⟨hmem, hp⟩, rfl⟩
      exact ⟨value, AList.mem_lookup_iff.mpr hmem, hp⟩
  have hnodup : ((m.entries.filter fun e => p e.2).map Sigma.fst).Nodup :=
    List.NodupKeys.sublist List.filter_sublist m.nodupKeys
  rw [hkeys, List.toFinset_card_of_nodup hnodup, List.length_map, List.countP_eq_length_filter]

end Maps

end Document
