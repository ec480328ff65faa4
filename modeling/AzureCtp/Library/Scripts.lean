import Mathlib.Data.List.DropRight
import Mathlib.Data.String.Basic

/-!
# Scripts over YAML documents

What shell and Python scripts share when both read the same documents. `Node` is a
YAML value. A path of keys leads to a value in it, and only mappings have keys. A
shell takes what a command prints by `commandSubstitution`. Both languages loop over
a list: `foldlM_map_iff` is a loop that sets a flag and gives up when an item cannot be
read, `collect_eq_ok_iff` one that collects what the items yield and stops at the first
error. `countInARow` is a loop that waits for a number of hits in a row:
`le_countInARow_iff` says when it sees them.
-/

set_option autoImplicit false

universe u v

namespace Scripts

/-! ### Documents -/

/-- A YAML value. -/
inductive Node where
  | null
  | bool (b : Bool)
  | str (s : String)
  /-- A value of another scalar type, such as an integer or a date. -/
  | scalar (typeName text : String)
  | list (items : List Node)
  | map (fields : List (Node × Node))

namespace Node

/-- The node is this string. -/
def isStr (s : String) : Node → Bool
  | .str s' => s' == s
  | _ => false

/-- The node is a sequence. -/
def isList : Node → Bool
  | .list _ => true
  | _ => false

/-- The node is a mapping. -/
def isMap : Node → Bool
  | .map _ => true
  | _ => false

/-- Python's name of the node's type. -/
def typeName : Node → String
  | .null => "NoneType"
  | .bool _ => "bool"
  | .str _ => "str"
  | .scalar typeName _ => typeName
  | .list _ => "list"
  | .map _ => "dict"

/-- What a mapping has under a key. -/
def get? (node : Node) (key : String) : Option Node :=
  match node with
  | .map fields => (fields.find? fun field => field.1.isStr key).map Prod.snd
  | _ => none

/-- The value at a path of keys. -/
def at? : List String → Node → Option Node
  | [], node => some node
  | key :: path, node => (node.get? key).bind (at? path)

/-- Some value on the way of the path is a sequence, which no key leads into. -/
def meetsList : List String → Node → Bool
  | [], _ => false
  | key :: path, node => node.isList || (node.get? key).any (meetsList path)

/-- Every value on the way of the path, where it is given, is a mapping. -/
def mapsAlong : List String → Node → Bool
  | [], _ => true
  | key :: path, node => node.isMap && (node.get? key).all (mapsAlong path)

/-- Python's `node.get(key, default)`. -/
def getOr (node : Node) (key : String) (default : Node) : Except String Node :=
  match node with
  | .map fields => .ok ((get? (.map fields) key).getD default)
  | _ => .error ("AttributeError: '" ++ node.typeName ++ "' object has no attribute 'get'")

variable {node value : Node} {key : String} {path : List String}

theorem isStr_iff {s : String} : node.isStr s = true ↔ node = .str s := by
  cases node with
  | str s' => simp [isStr]
  | _ => simp [isStr]

/-- Only a mapping can be asked for a key. -/
theorem getOr_eq_ok_iff {default : Node} :
    node.getOr key default = .ok value ↔
      node.isMap = true ∧ value = (node.get? key).getD default := by
  cases node with
  | map fields => simp [getOr, isMap, eq_comm]
  | _ => simp [getOr, isMap]

/-- Only a mapping has something under a key. -/
theorem isMap_of_get? (hvalue : node.get? key = some value) : node.isMap = true := by
  cases node with
  | map fields => rfl
  | _ => cases hvalue

/-- A value is reached through mappings only. -/
theorem mapsAlong_of_at? (hvalue : node.at? path = some value) : node.mapsAlong path = true := by
  induction path generalizing node with
  | nil => rfl
  | cons key path ih =>
    rw [at?, Option.bind_eq_some_iff] at hvalue
    obtain ⟨child, hchild, hrest⟩ := hvalue
    rw [mapsAlong, isMap_of_get? hchild, hchild, Option.all_some, Bool.true_and]
    exact ih hrest

/-- Where there are only mappings, there is no sequence. -/
theorem meetsList_of_mapsAlong (hmaps : node.mapsAlong path = true) :
    node.meetsList path = false := by
  induction path generalizing node with
  | nil => rfl
  | cons key path ih =>
    rw [mapsAlong, Bool.and_eq_true] at hmaps
    obtain ⟨hmap, hchild⟩ := hmaps
    have hlist : node.isList = false := by
      cases node with
      | list items => cases hmap
      | _ => rfl
    rw [meetsList, hlist, Bool.false_or]
    cases hget : node.get? key with
    | none => rfl
    | some child =>
      rw [hget, Option.all_some] at hchild
      exact ih hchild

end Node

/-! ### The shell -/

/-- A shell's `$(…)`: null characters are dropped, and newlines at the end. -/
def commandSubstitution (printed : String) : String :=
  String.ofList ((printed.toList.filter (· ≠ '\x00')).rdropWhile (· = '\n'))

/-- The newline that ends a command's last line is not seen. -/
theorem commandSubstitution_newline (s : String) :
    commandSubstitution (s ++ "\n") = commandSubstitution s := by
  have hnewline : "\n".toList.filter (· ≠ '\x00') = ['\n'] := by decide
  unfold commandSubstitution
  rw [String.toList_append, List.filter_append, hnewline,
    List.rdropWhile_concat_pos (fun c : Char => decide (c = '\n')) _ _ (decide_eq_true rfl)]

/-! ### Loops -/

section Loops

/-- A sequence of two computations succeeds exactly when each does in turn. -/
theorem bind_eq_ok_iff {ε : Type v} {α β : Type u} {x : Except ε α} {f : α → Except ε β} {b : β} :
    (x >>= f) = .ok b ↔ ∃ a, x = .ok a ∧ f a = .ok b := by
  cases x with
  | error e => exact iff_of_false (fun h => by cases h) (by simp)
  | ok a => exact ⟨fun h => ⟨a, rfl, h⟩, fun ⟨_, ha, h⟩ => Except.ok.inj ha ▸ h⟩

variable {α β σ ε : Type*} {xs : List α}

/-- A loop that reads every item, and whose state has the flag set by some of what is
read: it ends with the flag set if every item can be read and one of them sets it. -/
theorem foldlM_map_iff {read : α → Option β} {act : σ → β → σ} {flag : σ → Prop}
    {sets : β → Prop} (hact : ∀ s b, flag (act s b) ↔ flag s ∨ sets b) (s : σ) :
    (∃ s', xs.foldlM (fun s x => (read x).map (act s)) s = some s' ∧ flag s') ↔
      (∀ x ∈ xs, read x ≠ none) ∧ (flag s ∨ ∃ x ∈ xs, ∃ b, read x = some b ∧ sets b) := by
  induction xs generalizing s with
  | nil => simp
  | cons x xs ih =>
    rw [List.foldlM_cons]
    cases hread : read x with
    | none => simp [hread]
    | some b =>
      have hrest := ih (act s b)
      rw [hact] at hrest
      simp only [Option.map_some, Option.bind_eq_bind, Option.bind_some, hrest,
        List.forall_mem_cons, List.exists_mem_cons_iff, hread, ne_eq, reduceCtorEq,
        not_false_eq_true, true_and, Option.some.injEq, exists_eq_left']
      exact and_congr_right fun _ => or_assoc

/-- Collect what the items yield, up to the first error. -/
def collect (f : α → Except ε (Option β)) : List α → Except ε (List β)
  | [] => .ok []
  | x :: xs => do
    let item ← f x
    let rest ← collect f xs
    .ok (item.toList ++ rest)

/-- The collection succeeds exactly when every item does. -/
theorem collect_eq_ok_iff {f : α → Except ε (Option β)} {good : α → Prop} {g : α → Option β}
    (hf : ∀ x item, f x = .ok item ↔ good x ∧ item = g x) {ys : List β} :
    collect f xs = .ok ys ↔ (∀ x ∈ xs, good x) ∧ ys = xs.filterMap g := by
  induction xs generalizing ys with
  | nil => simp [collect, eq_comm]
  | cons x xs ih =>
    have hcons : List.filterMap g (x :: xs) = (g x).toList ++ xs.filterMap g := by
      cases hgx : g x with
      | none => simp [hgx]
      | some y => simp [hgx]
    rw [collect, bind_eq_ok_iff, List.forall_mem_cons, hcons]
    simp only [bind_eq_ok_iff, hf, ih]
    constructor
    · rintro ⟨_, ⟨hgood, rfl⟩, _, ⟨hall, rfl⟩, hys⟩
      exact ⟨⟨hgood, hall⟩, (Except.ok.inj hys).symm⟩
    · rintro ⟨⟨hgood, hall⟩, rfl⟩
      exact ⟨_, ⟨hgood, rfl⟩, _, ⟨hall, rfl⟩, rfl⟩

/-- Count the hits in a row, starting with `count` of them, until there are `goal`. -/
def countInARow (hit : α → Bool) (goal : ℕ) : List α → ℕ → ℕ
  | [], count => count
  | x :: xs, count =>
    if hit x then
      if goal ≤ count + 1 then count + 1 else countInARow hit goal xs (count + 1)
    else countInARow hit goal xs 0

/-- The loop reaches the goal when hits at the front complete the count, or when there are
enough of them in a row. -/
theorem le_countInARow_iff_of_lt {hit : α → Bool} {goal count : ℕ} (hcount : count < goal) :
    goal ≤ countInARow hit goal xs count ↔
      (∃ row, row <+: xs ∧ row.length = goal - count ∧ ∀ x ∈ row, hit x = true) ∨
        ∃ row, row <:+: xs ∧ row.length = goal ∧ ∀ x ∈ row, hit x = true := by
  induction xs generalizing count with
  | nil =>
    refine iff_of_false (not_le.mpr hcount) ?_
    simp only [List.prefix_nil, List.infix_nil]
    rintro (⟨row, rfl, hlength, -⟩ | ⟨row, rfl, hlength, -⟩)
    · rw [List.length_nil] at hlength
      omega
    · rw [List.length_nil] at hlength
      omega
  | cons x xs ih =>
    have hcons : ∀ {n} {row : List α}, row <+: x :: xs → row.length = n + 1 →
        ∃ rest, row = x :: rest ∧ rest <+: xs ∧ rest.length = n := by
      intro n row hprefix hlength
      cases row with
      | nil => cases hlength
      | cons y rest =>
        obtain ⟨rfl, hrest⟩ := List.cons_prefix_cons.mp hprefix
        exact ⟨rest, rfl, hrest, Nat.succ.inj hlength⟩
    rw [countInARow]
    split_ifs with hhit hgoal
    · -- the last hit that is missing
      refine iff_of_true hgoal (Or.inl ⟨[x], ⟨xs, rfl⟩, ?_, by simpa using hhit⟩)
      rw [List.length_singleton]
      omega
    · rw [ih (by omega)]
      constructor
      · rintro (⟨row, hprefix, hlength, hall⟩ | ⟨row, hinfix, hlength, hall⟩)
        · refine Or.inl ⟨x :: row, List.cons_prefix_cons.mpr ⟨rfl, hprefix⟩, ?_, ?_⟩
          · rw [List.length_cons, hlength]
            omega
          · exact List.forall_mem_cons.mpr ⟨hhit, hall⟩
        · exact Or.inr ⟨row, List.infix_cons hinfix, hlength, hall⟩
      · rintro (⟨row, hprefix, hlength, hall⟩ | ⟨row, hinfix, hlength, hall⟩)
        · obtain ⟨rest, rfl, hrest, hrestlength⟩ :=
            hcons hprefix (show row.length = goal - (count + 1) + 1 by omega)
          exact Or.inl ⟨rest, hrest, hrestlength, (List.forall_mem_cons.mp hall).2⟩
        · rcases List.infix_cons_iff.mp hinfix with hprefix | hinfix
          · -- more hits at the front than are missing
            obtain ⟨rest, rfl, hrest, hrestlength⟩ :=
              hcons hprefix (show row.length = goal - 1 + 1 by omega)
            refine Or.inl ⟨rest.take (goal - (count + 1)), (List.take_prefix _ _).trans hrest, ?_,
              fun y hy => (List.forall_mem_cons.mp hall).2 y (List.mem_of_mem_take hy)⟩
            rw [List.length_take, hrestlength]
            omega
          · exact Or.inr ⟨row, hinfix, hlength, hall⟩
    · rw [ih (by omega)]
      have hnone : ∀ {row : List α}, row <+: x :: xs → 0 < row.length →
          ¬ ∀ y ∈ row, hit y = true := by
        intro row hprefix hpos hall
        obtain ⟨rest, rfl, -, -⟩ := hcons hprefix (show row.length = row.length - 1 + 1 by omega)
        exact hhit (List.forall_mem_cons.mp hall).1
      constructor
      · rintro (⟨row, hprefix, hlength, hall⟩ | ⟨row, hinfix, hlength, hall⟩)
        · exact Or.inr ⟨row, List.infix_cons hprefix.isInfix, hlength, hall⟩
        · exact Or.inr ⟨row, List.infix_cons hinfix, hlength, hall⟩
      · rintro (⟨row, hprefix, hlength, hall⟩ | ⟨row, hinfix, hlength, hall⟩)
        · exact absurd hall (hnone hprefix (by omega))
        · rcases List.infix_cons_iff.mp hinfix with hprefix | hinfix
          · exact absurd hall (hnone hprefix (by omega))
          · exact Or.inr ⟨row, hinfix, hlength, hall⟩

/-- From no hits on, the loop reaches the goal exactly when there are enough hits in a
row. -/
theorem le_countInARow_iff {hit : α → Bool} {goal : ℕ} (hgoal : 0 < goal) :
    goal ≤ countInARow hit goal xs 0 ↔
      ∃ row, row <:+: xs ∧ row.length = goal ∧ ∀ x ∈ row, hit x = true := by
  rw [le_countInARow_iff_of_lt hgoal]
  refine or_iff_right_of_imp ?_
  rintro ⟨row, hprefix, hlength, hall⟩
  exact ⟨row, hprefix.isInfix, hlength, hall⟩

/-- Two hits in a row, by position. -/
theorem two_le_countInARow_iff {hit : α → Bool} :
    2 ≤ countInARow hit 2 xs 0 ↔
      ∃ i x y, xs[i]? = some x ∧ xs[i + 1]? = some y ∧ hit x = true ∧ hit y = true := by
  rw [le_countInARow_iff Nat.two_pos]
  constructor
  · rintro ⟨row, ⟨before, after, rfl⟩, hlength, hall⟩
    obtain ⟨x, y, rfl⟩ := List.length_eq_two.mp hlength
    refine ⟨before.length, x, y, ?_, ?_, hall x (by simp), hall y (by simp)⟩
    · simp
    · simp
  · rintro ⟨i, x, y, hx, hy, hhitx, hhity⟩
    obtain ⟨hi, rfl⟩ := List.getElem?_eq_some_iff.mp hx
    obtain ⟨hi', rfl⟩ := List.getElem?_eq_some_iff.mp hy
    refine ⟨[xs[i], xs[i + 1]], ⟨xs.take i, xs.drop (i + 2), ?_⟩, rfl, by simp [hhitx, hhity]⟩
    rw [List.append_assoc, List.cons_append, List.cons_append, List.nil_append,
      ← List.drop_eq_getElem_cons hi', ← List.drop_eq_getElem_cons hi, List.take_append_drop]

end Loops

end Scripts
