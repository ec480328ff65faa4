import AzureCtp.Library.Regex
import AzureCtp.Model.Definition

/-!
# Backup locations

`parseBlobLocation` matches `^([a-z0-9]+)/([a-z0-9-]+)$` with Python's `re`, and the schema
admits what the same expression matches in an engine whose `$` is the end of the text. The
two languages differ in one kind of string: a location that a newline follows is
malformed, and is parsed all the same.

## Main results

* `parseBlobLocation_of_matches`: the parse is the match of the regular expression
* `blobPattern_search_iff`: the schema admits exactly the grammar
* `parsesExactly_iff`: where the parse accepts exactly the grammar
-/

set_option autoImplicit false

namespace AzureCtp

open Regex Pattern

/-- `^([a-z0-9]+)/([a-z0-9-]+)$`, of the source. -/
def blobRegex : Pattern :=
  seq start (seq (group (many isAccountChar)) (seq (char '/')
    (seq (group (many isContainerChar)) stop)))

/-- `^[a-z0-9]+/[a-z0-9-]+$`, of the schema. -/
def blobPattern : Pattern :=
  seq start (seq (many isAccountChar) (seq (char '/') (seq (many isContainerChar) stop)))

/-- One or more account characters and one or more container characters. -/
structure BlobParts (account container : List Char) : Prop where
  account_ne : account ≠ []
  account_all : ∀ c ∈ account, isAccountChar c = true
  container_ne : container ≠ []
  container_all : ∀ c ∈ container, isContainerChar c = true

/-- The grammar of a location: the parts with one slash between them, and nothing else. -/
def BlobLocation (s : String) : Prop :=
  ∃ account container, BlobParts account container ∧ s.toList = account ++ '/' :: container

variable {account container tail text : List Char} {s : String} {d : Dialect}

/-! ### Matches of the two expressions -/

/-- The expression of the source captures the two parts. -/
theorem blobRegex_matchesAt_iff {groups : List (List Char)} :
    blobRegex.MatchesAt d [] text groups ↔ ∃ account container tail,
      BlobParts account container ∧ groups = [account, container] ∧
        text = account ++ '/' :: (container ++ tail) ∧ d.AtEnd tail := by
  simp only [blobRegex, matchesAt_start_seq, matchesAt_group_many_seq, matchesAt_char_seq,
    matchesAt_stop, true_and]
  constructor
  · rintro ⟨account, _, _, hne, hall, rfl, rfl, _, rfl, container, tail, _, hne', hall', rfl, rfl,
      hend, rfl⟩
    exact ⟨account, container, tail, ⟨hne, hall, hne', hall'⟩, rfl, rfl, hend⟩
  · rintro ⟨account, container, tail, ⟨hne, hall, hne', hall'⟩, rfl, rfl, hend⟩
    exact ⟨account, _, _, hne, hall, rfl, rfl, _, rfl, container, tail, _, hne', hall', rfl, rfl,
      hend, rfl⟩

/-- What the schema's expression finds is the grammar. -/
theorem blobPattern_search_iff : blobPattern.Search .re2 s.toList ↔ BlobLocation s := by
  simp only [blobPattern, search_start_seq, matchesAt_many_seq, matchesAt_char_seq,
    matchesAt_stop, Dialect.AtEnd, BlobLocation]
  constructor
  · rintro ⟨_, account, _, hne, hall, htext, _, rfl, container, _, hne', hall', rfl, rfl, rfl⟩
    rw [List.append_nil] at htext
    exact ⟨account, container, ⟨hne, hall, hne', hall'⟩, htext⟩
  · rintro ⟨account, container, ⟨hne, hall, hne', hall'⟩, htext⟩
    exact ⟨[], account, _, hne, hall, htext, container, rfl, container, [], hne', hall',
      (List.append_nil container).symm, rfl, rfl⟩

/-! ### The parse -/

theorem takeWhile_append_stop {p : Char → Bool} {xs ys : List Char}
    (hall : ∀ c ∈ xs, p c = true) (hstop : ∀ c ∈ ys.head?, p c = false) :
    (xs ++ ys).takeWhile p = xs ∧ (xs ++ ys).dropWhile p = ys := by
  rw [List.takeWhile_append_of_pos hall, List.dropWhile_append_of_pos hall]
  cases ys with
  | nil => simp
  | cons y ys => simp [hstop y rfl]

/-- A text that splits into the parts is parsed into them. -/
theorem parseBlobLocation_of_parts (hparts : BlobParts account container)
    (htext : s.toList = account ++ '/' :: (container ++ tail))
    (htail : Dialect.python.AtEnd tail) :
    parseBlobLocation s = (String.ofList account, String.ofList container) := by
  have hne : s ≠ "" := by
    rintro rfl
    exact absurd htext.symm (by simp)
  have hslash : ∀ c ∈ ('/' :: (container ++ tail)).head?, isAccountChar c = false := by
    rintro c ⟨⟩
    rfl
  -- behind the container stands nothing, or a newline
  have hend : ∀ c ∈ tail.head?, isContainerChar c = false := by
    rcases htail with rfl | rfl
    · exact fun c hc => nomatch hc
    · rintro c ⟨⟩
      rfl
  obtain ⟨htake, hdrop⟩ := takeWhile_append_stop hparts.account_all hslash
  obtain ⟨htake', hdrop'⟩ := takeWhile_append_stop hparts.container_all hend
  rw [parseBlobLocation, if_neg hne, htext, htake, hdrop]
  simp only [htake', hdrop']
  exact if_pos ⟨hparts.account_ne, hparts.container_ne, htail⟩

/-- Any other text is parsed into empty strings. -/
theorem parseBlobLocation_eq_empty
    (hnone : ∀ account container tail, BlobParts account container →
      s.toList = account ++ '/' :: (container ++ tail) → ¬ Dialect.python.AtEnd tail) :
    parseBlobLocation s = ("", "") := by
  unfold parseBlobLocation
  split_ifs with hempty
  · rfl
  · dsimp only
    split
    · rename_i rest hrest
      split_ifs with hmatch
      · obtain ⟨haccount, hcontainer, htail⟩ := hmatch
        refine absurd htail (hnone _ _ _ ⟨haccount, fun c => List.mem_takeWhile_imp,
          hcontainer, fun c => List.mem_takeWhile_imp⟩ ?_)
        rw [List.takeWhile_append_dropWhile, ← hrest, List.takeWhile_append_dropWhile]
      · rfl
    · rfl

/-- The parse is the match of the regular expression: its two groups. -/
theorem parseBlobLocation_of_matches
    (hmatch : blobRegex.MatchesAt .python [] s.toList [account, container]) :
    parseBlobLocation s = (String.ofList account, String.ofList container) := by
  obtain ⟨_, _, tail, hparts, hgroups, htext, hend⟩ := blobRegex_matchesAt_iff.mp hmatch
  cases hgroups
  exact parseBlobLocation_of_parts hparts htext hend

theorem parseBlobLocation_of_not_matches
    (hnone : ∀ groups, ¬ blobRegex.MatchesAt .python [] s.toList groups) :
    parseBlobLocation s = ("", "") :=
  parseBlobLocation_eq_empty fun account container tail hparts htext hend =>
    hnone _ (blobRegex_matchesAt_iff.mpr ⟨account, container, tail, hparts, rfl, htext, hend⟩)

/-- The schema's check accepts what its regular expression finds. -/
theorem matchesBlobPattern_iff (s : String) : matchesBlobPattern s = true ↔ BlobLocation s := by
  constructor
  · intro hmatch
    unfold matchesBlobPattern at hmatch
    dsimp only at hmatch
    split at hmatch
    · rename_i container hrest
      simp only [Bool.and_eq_true, Bool.not_eq_true', List.isEmpty_eq_false_iff,
        List.all_eq_true] at hmatch
      obtain ⟨⟨haccount, hcontainer⟩, hall⟩ := hmatch
      refine ⟨_, container, ⟨haccount, fun c => List.mem_takeWhile_imp, hcontainer, hall⟩, ?_⟩
      rw [← hrest, List.takeWhile_append_dropWhile]
    · cases hmatch
  · rintro ⟨account, container, hparts, htext⟩
    have hslash : ∀ c ∈ ('/' :: container).head?, isAccountChar c = false := by
      rintro c ⟨⟩
      rfl
    obtain ⟨htake, hdrop⟩ := takeWhile_append_stop hparts.account_all hslash
    have hall : container.all isContainerChar = true := List.all_eq_true.mpr hparts.container_all
    rw [matchesBlobPattern, htext, htake, hdrop]
    simp [hparts.account_ne, hparts.container_ne, hall]

/-! ### The language -/

/-- A location is parsed into its parts. -/
theorem BlobLocation.parse (hlocation : BlobLocation s) : ∃ account container,
    BlobParts account container ∧ s.toList = account ++ '/' :: container ∧
      parseBlobLocation s = (String.ofList account, String.ofList container) := by
  obtain ⟨account, container, hparts, htext⟩ := hlocation
  refine ⟨account, container, hparts, htext, ?_⟩
  refine parseBlobLocation_of_parts hparts ?_ (Or.inl rfl)
  rw [List.append_nil, htext]

/-- The parts of a location are not empty. -/
theorem BlobLocation.parse_ne (hlocation : BlobLocation s) :
    (parseBlobLocation s).1 ≠ "" ∧ (parseBlobLocation s).2 ≠ "" := by
  obtain ⟨account, container, hparts, -, hparse⟩ := hlocation.parse
  rw [hparse]
  constructor
  · exact fun hempty => hparts.account_ne (by simpa using congrArg String.toList hempty)
  · exact fun hempty => hparts.container_ne (by simpa using congrArg String.toList hempty)

/-- Joining the parts of a location gives it back. -/
theorem BlobLocation.join_parse (hlocation : BlobLocation s) :
    (parseBlobLocation s).1 ++ "/" ++ (parseBlobLocation s).2 = s := by
  obtain ⟨account, container, -, htext, hparse⟩ := hlocation.parse
  have hslash : "/".toList = ['/'] := rfl
  apply String.toList_injective
  rw [hparse, htext]
  simp only [String.toList_append, String.toList_ofList, hslash, List.append_assoc,
    List.singleton_append]

/-- No newline is in a location. -/
theorem BlobLocation.newline_notMem (hlocation : BlobLocation s) : '\n' ∉ s.toList := by
  obtain ⟨account, container, hparts, htext⟩ := hlocation
  rw [htext, List.mem_append, List.mem_cons, not_or, not_or]
  exact ⟨fun hmem => absurd (hparts.account_all _ hmem) (by decide), by decide,
    fun hmem => absurd (hparts.container_all _ hmem) (by decide)⟩

/-- The parse accepts exactly the grammar, and loses nothing. -/
structure ParsesExactly (s : String) : Prop where
  accepts : (parseBlobLocation s).1 ≠ "" ∧ (parseBlobLocation s).2 ≠ "" ↔ BlobLocation s
  joins : BlobLocation s → (parseBlobLocation s).1 ++ "/" ++ (parseBlobLocation s).2 = s
  rejects : ¬ BlobLocation s → parseBlobLocation s = ("", "")

/-- A newline behind a location is not seen. -/
theorem parse_append_newline {location : String} (hlocation : BlobLocation location) :
    parseBlobLocation (location ++ "\n") = parseBlobLocation location := by
  obtain ⟨account, container, hparts, htext, hparse⟩ := hlocation.parse
  rw [hparse]
  refine parseBlobLocation_of_parts hparts ?_ (Or.inr rfl)
  have hnewline : "\n".toList = ['\n'] := rfl
  rw [String.toList_append, htext, hnewline, List.append_assoc, List.cons_append]

/-- **The parse of a location** accepts exactly the grammar on every string but those
that add a newline to a location. -/
theorem parsesExactly_iff (s : String) :
    ParsesExactly s ↔ ¬ ∃ location, BlobLocation location ∧ s = location ++ "\n" := by
  constructor
  · rintro hexact ⟨location, hlocation, rfl⟩
    have hgrammar : BlobLocation (location ++ "\n") := by
      rw [← hexact.accepts, parse_append_newline hlocation]
      exact hlocation.parse_ne
    refine hgrammar.newline_notMem ?_
    rw [String.toList_append]
    exact List.mem_append_right _ List.mem_cons_self
  · intro hnewline
    have hrejects : ¬ BlobLocation s → parseBlobLocation s = ("", "") := by
      intro hnot
      refine parseBlobLocation_eq_empty fun account container tail hparts htext hend => ?_
      -- the match ends at the end of the text, or before a last newline
      rcases hend with rfl | rfl
      · exact hnot ⟨account, container, hparts, by rw [htext, List.append_nil]⟩
      · refine hnewline ⟨String.ofList (account ++ '/' :: container),
          ⟨account, container, hparts, String.toList_ofList⟩, String.toList_injective ?_⟩
        have hlast : "\n".toList = ['\n'] := rfl
        rw [htext, String.toList_append, String.toList_ofList, hlast, List.append_assoc,
          List.cons_append]
    refine ⟨⟨fun hne => ?_, BlobLocation.parse_ne⟩, BlobLocation.join_parse, hrejects⟩
    by_contra hnot
    rw [hrejects hnot] at hne
    exact hne.1 rfl

/-- A location with a newline behind it is malformed, and is parsed. -/
theorem not_parsesExactly_newline :
    parseBlobLocation "acct/backups\n" = ("acct", "backups") ∧
      ¬ BlobLocation "acct/backups\n" ∧ ¬ ParsesExactly "acct/backups\n" := by
  have hparse : parseBlobLocation "acct/backups\n" = ("acct", "backups") := by decide
  have hgrammar : ¬ BlobLocation "acct/backups\n" := fun hlocation =>
    hlocation.newline_notMem (by decide)
  refine ⟨hparse, hgrammar, fun hexact => hgrammar (hexact.accepts.mp ?_)⟩
  rw [hparse]
  decide

end AzureCtp
