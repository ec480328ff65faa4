import AzureCtp.Library.Joined

/-!
# Texts of resource records

A text of records has one record a line, and a line has the five fields of a record with
white space between them. Records whose fields are words are read back from their text,
and whatever is read from a text has words for its fields.

## Main results

* `words_intercalate`: words are read back from the line they are joined to
* `records?_text`: records are read back from their text
* `clean_of_records?`: only records of words are read
-/

set_option autoImplicit false

namespace Records

open Joined

/-- Without white space. -/
def Unbroken (s : String) : Prop := ∀ c ∈ s.toList, c.isWhitespace = false

/-- A word: not empty and without white space. -/
def IsWord (s : String) : Prop := s ≠ "" ∧ Unbroken s

instance (s : String) : Decidable (Unbroken s) :=
  (List.decidableBAll _ _ : Decidable (∀ c ∈ s.toList, c.isWhitespace = false))

instance (s : String) : Decidable (IsWord s) := inferInstanceAs (Decidable (_ ∧ _))

/-- The parts of a string between white space. -/
def words (s : String) : List String :=
  ((s.toList.splitOnP Char.isWhitespace).filter (· ≠ [])).map String.ofList

/-! ### Words -/

theorem unbroken_append {s t : String} : Unbroken (s ++ t) ↔ Unbroken s ∧ Unbroken t := by
  simp only [Unbroken, String.toList_append, List.forall_mem_append]

theorem words_append {c : Char} {sep : String} (hsep : sep.toList = [c])
    (hc : c.isWhitespace = true) (s t : String) : words (s ++ sep ++ t) = words s ++ words t := by
  have hchars : (s ++ sep ++ t).toList = s.toList ++ c :: t.toList := by
    rw [String.toList_append, String.toList_append, hsep, List.append_assoc, List.singleton_append]
  rw [words, hchars, List.splitOnP_append_cons _ _ hc, List.filter_append, List.map_append]
  rfl

theorem words_eq_singleton {s : String} (hs : IsWord s) : words s = [s] := by
  have hne : s.toList ≠ [] := fun hnil => hs.1 (String.toList_inj.mp hnil)
  rw [words, List.splitOnP_eq_singleton hs.2, List.filter_singleton]
  simp [hne]

/-- Words are read back from the line they are joined to. -/
theorem words_intercalate {ws : List String} (hws : ∀ w ∈ ws, IsWord w) :
    words (" ".intercalate ws) = ws := by
  induction ws with
  | nil => rfl
  | cons w rest ih =>
    obtain ⟨hw, hrest⟩ := List.forall_mem_cons.mp hws
    by_cases hnil : rest = []
    · subst hnil
      exact words_eq_singleton hw
    · rw [String.intercalate_cons_of_ne_nil hnil, words_append rfl rfl, words_eq_singleton hw,
        ih hrest, List.singleton_append]

theorem forall_mem_splitOnP {α : Type*} (p : α → Bool) (xs : List α) :
    ∀ part ∈ xs.splitOnP p, ∀ x ∈ part, p x = false := by
  induction xs with
  | nil => simp
  | cons x rest ih =>
    rw [List.splitOnP_cons_eq_if_modifyHead]
    split_ifs with hx
    · exact List.forall_mem_cons.mpr ⟨by simp, ih⟩
    · -- the first part grows by an element that is no separator
      cases hparts : rest.splitOnP p with
      | nil => exact absurd hparts (List.splitOnP_ne_nil p rest)
      | cons part parts =>
        rw [hparts] at ih
        obtain ⟨hpart, hparts⟩ := List.forall_mem_cons.mp ih
        rw [List.modifyHead_cons]
        refine List.forall_mem_cons.mpr ⟨List.forall_mem_cons.mpr ⟨?_, hpart⟩, hparts⟩
        exact Bool.not_eq_true _ ▸ hx

/-- What is read are words. -/
theorem isWord_of_mem_words {s w : String} (hw : w ∈ words s) : IsWord w := by
  obtain ⟨part, hpart, rfl⟩ := List.mem_map.mp hw
  obtain ⟨hmem, hne⟩ := List.mem_filter.mp hpart
  constructor
  · intro hempty
    rw [String.ofList_eq_empty_iff] at hempty
    exact absurd hempty (by simpa using hne)
  · rw [Unbroken, String.toList_ofList]
    exact forall_mem_splitOnP _ _ part hmem

theorem newline_notMem_intercalate {ws : List String} (hws : ∀ w ∈ ws, IsWord w) :
    '\n' ∉ (" ".intercalate ws).toList := by
  induction ws with
  | nil => simp
  | cons w rest ih =>
    obtain ⟨hw, hrest⟩ := List.forall_mem_cons.mp hws
    have hnewline : '\n' ∉ w.toList := fun hmem => absurd (hw.2 '\n' hmem) (by decide)
    by_cases hnil : rest = []
    · subst hnil
      simpa using hnewline
    · rw [String.intercalate_cons_of_ne_nil hnil, String.toList_append, String.toList_append,
        List.mem_append, List.mem_append]
      exact fun hmem => hmem.elim (fun h => h.elim hnewline (by decide)) (ih hrest)

/-! ### Records -/

/-- A resource record, by its fields. -/
structure Record where
  owner : String
  ttl : String
  recordClass : String
  type : String
  data : String
  deriving DecidableEq, Repr

namespace Record

/-- The fields, in the order of the line. -/
def fields (r : Record) : List String := [r.owner, r.ttl, r.recordClass, r.type, r.data]

/-- The line of a record. -/
def line (r : Record) : String := " ".intercalate r.fields

/-- The record with the listed fields. -/
def ofFields? : List String → Option Record
  | [owner, ttl, recordClass, type, data] => some ⟨owner, ttl, recordClass, type, data⟩
  | _ => none

theorem fields_of_ofFields? {fs : List String} {r : Record} (hr : ofFields? fs = some r) :
    r.fields = fs := by
  unfold ofFields? at hr
  split at hr
  · cases hr
    rfl
  · cases hr

/-- Every field is a word. -/
def Clean (r : Record) : Prop := ∀ w ∈ r.fields, IsWord w

/-- Read a line. -/
def ofLine? (s : String) : Option Record := ofFields? (words s)

theorem ofLine?_line {r : Record} (hr : r.Clean) : ofLine? r.line = some r := by
  rw [ofLine?, line, words_intercalate hr]
  rfl

theorem clean_of_ofLine? {s : String} {r : Record} (hr : ofLine? s = some r) : r.Clean := by
  intro w hw
  rw [fields_of_ofFields? hr] at hw
  exact isWord_of_mem_words hw

end Record

/-- Read a text, every line a record. -/
def records? (text : String) : Option (List Record) := (entries '\n' text).mapM Record.ofLine?

/-- Reading a list that may fail reads every element. -/
theorem mapM_eq_some_iff {α β : Type} {f : α → Option β} {l : List α} {l' : List β} :
    l.mapM f = some l' ↔ List.Forall₂ (fun a b => f a = some b) l l' := by
  induction l generalizing l' with
  | nil => simp [eq_comm]
  | cons a rest ih =>
    rw [List.mapM_cons, List.forall₂_cons_left_iff]
    constructor
    · intro hmap
      obtain ⟨b, hb, hmap⟩ := Option.bind_eq_some_iff.mp hmap
      obtain ⟨bs, hbs, hl'⟩ := Option.bind_eq_some_iff.mp hmap
      exact ⟨b, bs, hb, ih.mp hbs, (Option.some.inj hl').symm⟩
    · rintro ⟨b, bs, hb, hbs, rfl⟩
      rw [hb, ih.mpr hbs]
      rfl

/-- Records are read back from their text. -/
theorem records?_text {rs : List Record} (hne : rs ≠ []) (hclean : ∀ r ∈ rs, r.Clean) :
    records? ("\n".intercalate (rs.map Record.line)) = some rs := by
  -- no line is broken by its own fields
  have hlines : (rs.map Record.line).flatMap (entries '\n') = rs.map Record.line := by
    rw [List.flatMap_map, List.map_eq_flatMap]
    refine List.flatMap_congr fun r hr => ?_
    exact entries_eq_singleton (newline_notMem_intercalate (hclean r hr))
  have hparts : rs.map Record.line ≠ [] := by simpa using hne
  rw [records?, entries_intercalate rfl hparts, hlines, mapM_eq_some_iff,
    List.forall₂_map_left_iff, List.forall₂_same]
  exact fun r hr => Record.ofLine?_line (hclean r hr)

/-- Only records of words are read. -/
theorem clean_of_records? {text : String} {rs : List Record} (hrs : records? text = some rs) :
    ∀ r ∈ rs, r.Clean := by
  rw [records?, mapM_eq_some_iff] at hrs
  generalize entries '\n' text = lines at hrs
  induction hrs with
  | nil => simp
  | cons hline _ ih => exact List.forall_mem_cons.mpr ⟨Record.clean_of_ofLine? hline, ih⟩

end Records
