import Mathlib.Data.List.Basic

/-!
# Regular expressions with anchors and groups

The fragment of regular expressions that input checks are written in: anchors,
characters, repeated character classes, groups and sequencing. A pattern matches a middle
part of a text, and the anchors look at what is left and right of it.

The engines differ in `$`. Python's `re` lets it match before a newline that ends the
text as well, RE2 and the JSON Schema engines at the end of the text only.
-/

set_option autoImplicit false

namespace Regex

/-- The engines, as far as they differ. -/
inductive Dialect where
  | python
  | re2
  deriving DecidableEq, Repr

/-- Where `$` matches: what is left of the text. -/
def Dialect.AtEnd : Dialect → List Char → Prop
  | python, rest => rest = [] ∨ rest = ['\n']
  | re2, rest => rest = []

/-- A pattern. -/
inductive Pattern where
  /-- `^` -/
  | start
  /-- `$` -/
  | stop
  | char (c : Char)
  /-- One or more characters of a class. -/
  | many (cls : Char → Bool)
  | group (p : Pattern)
  | seq (p q : Pattern)

namespace Pattern

/-- The pattern matches `mid` between `before` and `after`, its groups capturing the
listed parts. -/
def Matches (d : Dialect) : Pattern → List Char → List Char → List Char →
    List (List Char) → Prop
  | start, before, mid, _, groups => before = [] ∧ mid = [] ∧ groups = []
  | stop, _, mid, after, groups => mid = [] ∧ d.AtEnd after ∧ groups = []
  | char c, _, mid, _, groups => mid = [c] ∧ groups = []
  | many cls, _, mid, _, groups => mid ≠ [] ∧ (∀ c ∈ mid, cls c = true) ∧ groups = []
  | group p, before, mid, after, groups =>
      ∃ inner, groups = mid :: inner ∧ p.Matches d before mid after inner
  | seq p q, before, mid, after, groups =>
      ∃ left right leftGroups rightGroups, mid = left ++ right ∧
        groups = leftGroups ++ rightGroups ∧
        p.Matches d before left (right ++ after) leftGroups ∧
        q.Matches d (before ++ left) right after rightGroups

/-- The pattern matches a beginning of `text`, which `before` precedes. -/
def MatchesAt (d : Dialect) (p : Pattern) (before text : List Char)
    (groups : List (List Char)) : Prop :=
  ∃ mid after, text = mid ++ after ∧ p.Matches d before mid after groups

/-- The pattern matches somewhere in the text. -/
def Search (d : Dialect) (p : Pattern) (text : List Char) : Prop :=
  ∃ before rest groups, text = before ++ rest ∧ p.MatchesAt d before rest groups

variable {d : Dialect} {p q : Pattern} {before text : List Char} {groups : List (List Char)}
  {cls : Char → Bool} {c : Char}

/-! Reading a sequence from the left. -/

theorem matchesAt_seq :
    (seq p q).MatchesAt d before text groups ↔ ∃ left rest leftGroups rightGroups,
      text = left ++ rest ∧ groups = leftGroups ++ rightGroups ∧
        ∃ right after, rest = right ++ after ∧ p.Matches d before left rest leftGroups ∧
          q.Matches d (before ++ left) right after rightGroups := by
  constructor
  · rintro ⟨_, after, rfl, left, right, leftGroups, rightGroups, rfl, rfl, hleft, hright⟩
    exact ⟨left, right ++ after, leftGroups, rightGroups, List.append_assoc _ _ _, rfl, right,
      after, rfl, hleft, hright⟩
  · rintro ⟨left, _, leftGroups, rightGroups, rfl, rfl, right, after, rfl, hleft, hright⟩
    exact ⟨left ++ right, after, (List.append_assoc _ _ _).symm, left, right, leftGroups,
      rightGroups, rfl, rfl, hleft, hright⟩

theorem matchesAt_start_seq :
    (seq start q).MatchesAt d before text groups ↔
      before = [] ∧ q.MatchesAt d before text groups := by
  rw [matchesAt_seq]
  constructor
  · rintro ⟨_, rest, _, rightGroups, rfl, rfl, right, after, rfl, ⟨rfl, rfl, rfl⟩, hright⟩
    exact ⟨rfl, right, after, rfl, hright⟩
  · rintro ⟨rfl, right, after, rfl, hright⟩
    exact ⟨[], right ++ after, [], groups, rfl, rfl, right, after, rfl, ⟨rfl, rfl, rfl⟩, hright⟩

theorem matchesAt_char_seq :
    (seq (char c) q).MatchesAt d before text groups ↔
      ∃ rest, text = c :: rest ∧ q.MatchesAt d (before ++ [c]) rest groups := by
  rw [matchesAt_seq]
  constructor
  · rintro ⟨_, rest, _, rightGroups, rfl, rfl, right, after, rfl, ⟨rfl, rfl⟩, hright⟩
    exact ⟨right ++ after, rfl, right, after, rfl, hright⟩
  · rintro ⟨_, rfl, right, after, rfl, hright⟩
    exact ⟨[c], right ++ after, [], groups, rfl, rfl, right, after, rfl, ⟨rfl, rfl⟩, hright⟩

theorem matchesAt_many_seq :
    (seq (many cls) q).MatchesAt d before text groups ↔
      ∃ run rest, run ≠ [] ∧ (∀ c ∈ run, cls c = true) ∧ text = run ++ rest ∧
        q.MatchesAt d (before ++ run) rest groups := by
  rw [matchesAt_seq]
  constructor
  · rintro ⟨run, rest, _, rightGroups, rfl, rfl, right, after, rfl, ⟨hne, hall, rfl⟩, hright⟩
    exact ⟨run, right ++ after, hne, hall, rfl, right, after, rfl, hright⟩
  · rintro ⟨run, _, hne, hall, rfl, right, after, rfl, hright⟩
    exact ⟨run, right ++ after, [], groups, rfl, rfl, right, after, rfl, ⟨hne, hall, rfl⟩, hright⟩

theorem matchesAt_group_many_seq :
    (seq (group (many cls)) q).MatchesAt d before text groups ↔
      ∃ run rest rightGroups, run ≠ [] ∧ (∀ c ∈ run, cls c = true) ∧ text = run ++ rest ∧
        groups = run :: rightGroups ∧ q.MatchesAt d (before ++ run) rest rightGroups := by
  rw [matchesAt_seq]
  constructor
  · rintro ⟨run, rest, _, rightGroups, rfl, rfl, right, after, rfl, ⟨_, rfl, hne, hall, rfl⟩,
      hright⟩
    exact ⟨run, right ++ after, rightGroups, hne, hall, rfl, rfl, right, after, rfl, hright⟩
  · rintro ⟨run, _, rightGroups, hne, hall, rfl, rfl, right, after, rfl, hright⟩
    exact ⟨run, right ++ after, [run], rightGroups, rfl, rfl, right, after, rfl,
      ⟨[], rfl, hne, hall, rfl⟩, hright⟩

theorem matchesAt_stop :
    stop.MatchesAt d before text groups ↔ d.AtEnd text ∧ groups = [] := by
  constructor
  · rintro ⟨_, after, rfl, rfl, hend, rfl⟩
    exact ⟨hend, rfl⟩
  · rintro ⟨hend, rfl⟩
    exact ⟨[], text, rfl, rfl, hend, rfl⟩

/-- Behind a start anchor a search is a match at the beginning. -/
theorem search_start_seq :
    (seq start q).Search d text ↔ ∃ groups, q.MatchesAt d [] text groups := by
  constructor
  · rintro ⟨before, rest, groups, rfl, hmatch⟩
    obtain ⟨rfl, hright⟩ := matchesAt_start_seq.mp hmatch
    exact ⟨groups, hright⟩
  · rintro ⟨groups, hright⟩
    exact ⟨[], text, groups, rfl, matchesAt_start_seq.mpr ⟨rfl, hright⟩⟩

end Pattern

end Regex
