import Excerpt.Proofs.Paths
import Excerpt.Scan.Collect
import Mathlib.Data.List.MinMax
import Mathlib.Data.List.Nodup

/-!
# Which files are scanned

Below a directory, the files to scan are found by a walk that leaves out some directories, and are
then sorted by their paths. This module says which files these are, for any file system and any
patterns.

A file system holds entries at places, and nothing in its type says that the directory of an entry
is there. `FileSystem.IsTree` says so. In a tree, the walk comes to the files with nothing but
entered directories on the way to them (`FileSystem.IsTree.mem_walk_iff`). It is bounded by the
height of the file system, which is no restriction, because no place is longer than that
(`FileSystem.length_le_height`).

The walk comes to each file once (`FileSystem.nodup_walk`). Different ways lead to paths with
different components, whatever the path of the root looks like, so the sorted paths ascend
strictly.

What patterns mean is left open: a pattern is a text that may or may not be valid, and a valid one
covers some paths (`PathPatterns`). Patterns that are not valid exclude nothing.

## Main results

* `FileSystem.IsTree.mem_walk_iff`: the files that the walk comes to.
* `FileSystem.nodup_walk`: it comes to none of them twice.
* `isWanted_iff`: which of them are wanted.
* `collect_exact`: the files to scan, in strictly ascending order.
-/

namespace Excerpt

namespace FileSystem

variable {s : FileSystem} {l : Location} {n : String} {names : List String} {e : Entry}
  {enters : String → Bool}
  {depth : Nat}

/-! ### Directory trees -/

/-- Everything below the root is in a directory and has a name. -/
def IsTree (s : FileSystem) : Prop :=
  ∀ l n e, s.entry? (l ++ [n]) = some e → s.entry? l = some .directory ∧ Path.IsName n

private theorem exists_entry?_concat_iff :
    (∃ e, s.entry? (l ++ [n]) = some e) ↔ l ++ [n] ∈ s.entries.map (·.1) := by
  rw [← Option.isSome_iff_exists, entry?, if_neg (by simp), List.lookup_isSome_iff, List.mem_map]
  refine exists_congr fun entry => and_congr_right fun _ => ?_
  rw [beq_iff_eq, eq_comm]

/-- What is checked at every entry holds of the tree. -/
theorem isTree_of_forall_entries
    (h : ∀ k ∈ s.entries.map (·.1), s.entry? k.dropLast = some .directory ∧
      ∀ n ∈ k.getLast?, Path.IsName n) :
    s.IsTree := by
  intro l n e he
  have hchecked := h (l ++ [n]) (exists_entry?_concat_iff.1 ⟨e, he⟩)
  rw [List.dropLast_concat, List.getLast?_concat] at hchecked
  exact ⟨hchecked.1, hchecked.2 n rfl⟩

/-- On the way to an entry there are directories, and all its names are names. -/
theorem IsTree.way (h : s.IsTree) (he : s.entry? (l ++ names) = some e) (hne : names ≠ []) :
    s.entry? l = some .directory ∧ ∀ n ∈ names, Path.IsName n := by
  induction names using List.reverseRecOn generalizing e with
  | nil => exact absurd rfl hne
  | append_singleton names n ih =>
    rw [← List.append_assoc] at he
    obtain ⟨hparent, hn⟩ := h _ n e he
    rcases List.eq_nil_or_concat' names with rfl | ⟨_, _, hnames⟩
    · rw [List.append_nil] at hparent
      exact ⟨hparent, by simpa using hn⟩
    · obtain ⟨hl, hall⟩ := ih hparent (by simp [hnames])
      exact ⟨hl, List.forall_mem_append.2 ⟨hall, by simpa using hn⟩⟩

private theorem length_le_height (he : s.entry? (l ++ names) = some e) (hne : names ≠ []) :
    names.length ≤ s.height := by
  obtain ⟨init, n, rfl⟩ := (List.eq_nil_or_concat' names).resolve_left hne
  rw [← List.append_assoc] at he
  obtain ⟨entry, hentry, hkey⟩ := List.mem_map.1 (exists_entry?_concat_iff.1 ⟨e, he⟩)
  refine List.le_max_of_le' 0 (List.mem_map_of_mem hentry) ?_
  simp only [hkey, List.length_append]
  omega

/-- No file is at the place of a directory. -/
theorem ne_nil_of_file {content : ByteArray} (hl : s.entry? l = some .directory)
    (hfile : s.entry? (l ++ names) = some (.file content)) : names ≠ [] := by
  rintro rfl
  rw [List.append_nil, hl] at hfile
  cases hfile

/-! ### The walk -/

/-- The last name of a place in the directory `l`. -/
theorem filter_getLast?_eq_some_iff {k : Location} :
    (k.getLast?.filter fun _ => k.dropLast = l) = some n ↔ k = l ++ [n] := by
  rw [Option.filter_eq_some_iff, decide_eq_true_iff]
  constructor
  · rintro ⟨hlast, rfl⟩
    exact (List.dropLast_append_getLast? n hlast).symm
  · rintro rfl
    exact ⟨List.getLast?_concat, List.dropLast_concat⟩

private theorem mem_namesIn_iff : n ∈ s.namesIn l ↔ ∃ e, s.entry? (l ++ [n]) = some e := by
  rw [exists_entry?_concat_iff, namesIn, List.mem_mergeSort, List.mem_filterMap, List.mem_map]
  simp only [filter_getLast?_eq_some_iff]

private theorem nodup_namesIn (s : FileSystem) (l : Location) : (s.namesIn l).Nodup := by
  rw [namesIn, (List.mergeSort_perm _ _).nodup_iff]
  have hkeys := List.Nodup.filterMap (f := fun k : Location => k.getLast?.filter fun _ =>
    k.dropLast = l) ?_ s.distinct
  · rwa [List.filterMap_map] at hkeys
  · intro k k' n hk hk'
    rw [filter_getLast?_eq_some_iff.1 hk, filter_getLast?_eq_some_iff.1 hk']

/-- One step of the walk: a file is come to, and a directory is entered. -/
theorem mem_walk_succ_iff : names ∈ s.walk enters (depth + 1) l ↔
    ∃ n, (names = [n] ∧ ∃ content, s.entry? (l ++ [n]) = some (.file content)) ∨
      (s.entry? (l ++ [n]) = some .directory ∧ enters n = true ∧
        ∃ rest ∈ s.walk enters depth (l ++ [n]), names = n :: rest) := by
  rw [walk, List.mem_flatMap]
  refine exists_congr fun n => ?_
  rw [mem_namesIn_iff]
  cases hn : s.entry? (l ++ [n]) with
  | none => simp
  | some e =>
    cases e with
    | file content => simp
    | directory => by_cases henters : enters n = true <;> simp [henters, eq_comm]

/-- **The walk comes to the files below a directory** that are reached through directories that
are entered. -/
theorem IsTree.mem_walk_iff (h : s.IsTree) (hl : s.entry? l = some .directory) :
    names ∈ s.walk enters depth l ↔ names.length ≤ depth ∧ (∀ n ∈ names.dropLast, enters n = true) ∧
      ∃ content, s.entry? (l ++ names) = some (.file content) := by
  induction depth generalizing l names with
  | zero =>
    refine iff_of_false List.not_mem_nil ?_
    rintro ⟨hlength, -, content, hfile⟩
    exact ne_nil_of_file hl hfile (List.eq_nil_of_length_eq_zero (Nat.le_zero.1 hlength))
  | succ depth ih =>
    rw [mem_walk_succ_iff]
    constructor
    · rintro ⟨n, ⟨rfl, hfile⟩ | ⟨hn, henters, rest, hrest, rfl⟩⟩
      · exact ⟨by simp, by simp, hfile⟩
      · obtain ⟨hlength, hall, content, hfile⟩ := (ih hn).1 hrest
        have hne : rest ≠ [] := ne_nil_of_file hn hfile
        rw [List.append_assoc, List.singleton_append] at hfile
        refine ⟨by simpa using hlength, ?_, content, hfile⟩
        rw [List.dropLast_cons_of_ne_nil hne]
        exact List.forall_mem_cons.2 ⟨henters, hall⟩
    · rintro ⟨hlength, hall, content, hfile⟩
      obtain ⟨n, rest, rfl⟩ := List.exists_cons_of_ne_nil (ne_nil_of_file hl hfile)
      by_cases hne : rest = []
      · subst hne
        exact ⟨n, .inl ⟨rfl, content, hfile⟩⟩
      · -- the file is below the directory of the first name
        rw [List.append_cons] at hfile
        rw [List.dropLast_cons_of_ne_nil hne] at hall
        obtain ⟨henters, hall⟩ := List.forall_mem_cons.1 hall
        have hn := (h.way hfile hne).1
        exact ⟨n, .inr ⟨hn, henters, rest,
          (ih hn).2 ⟨by simpa using hlength, hall, content, hfile⟩, rfl⟩⟩

/-- The walk comes to no file twice. -/
theorem nodup_walk (s : FileSystem) (enters : String → Bool) (depth : Nat) (l : Location) :
    (s.walk enters depth l).Nodup := by
  induction depth generalizing l with
  | zero => exact List.nodup_nil
  | succ depth ih =>
    have hcons : ∀ n : String, Function.Injective (n :: · : List String → List String) :=
      fun n _ _ h => (List.cons.inj h).2
    rw [walk, List.nodup_flatMap]
    refine ⟨fun n _ => List.Nodup.map (hcons n) ?_, (s.nodup_namesIn l).imp fun {n n'} hne => ?_⟩
    · split
      · exact List.nodup_singleton []
      · split
        · exact ih (l ++ [n])
        · exact List.nodup_nil
      · exact List.nodup_nil
    · -- ways through different directories begin with different names
      refine List.disjoint_left.2 fun names hnames hnames' => hne ?_
      obtain ⟨rest, -, rfl⟩ := List.mem_map.1 hnames
      obtain ⟨rest', -, heq⟩ := List.mem_map.1 hnames'
      exact (List.cons.inj heq).1.symm

end FileSystem

/-! ### The files to scan -/

variable {files : FileSystem} {settings : Settings} {root : String} {l : Location}
  {names : List String}

/-- Sorted paths to different files ascend strictly. -/
theorem pairwise_precedes_mergeSort {found : List (List String)} (hnodup : found.Nodup)
    (hnames : ∀ names ∈ found, ∀ n ∈ names, Path.IsName n) (root : String) :
    ((found.map (Path.joinAll root)).mergeSort Path.le).Pairwise Path.Precedes := by
  have hranks : ((found.map (Path.joinAll root)).map Path.ranks).Nodup := by
    rw [List.map_map]
    refine hnodup.map_on fun names h names' h' heq => ?_
    exact Path.joinAll_ranks_injective (hnames names h) (hnames names' h') heq
  have hsorted :=
    ((List.mergeSort_perm (found.map (Path.joinAll root)) Path.le).map Path.ranks).nodup_iff.2
      hranks
  rw [List.Nodup, List.pairwise_map] at hsorted
  exact ((Path.pairwise_mergeSort_le _).and hsorted).imp fun h => lt_of_le_of_ne h.1 h.2

private theorem isEntered_iff {n : String} :
    isEntered n = true ↔ n.toList.head? ≠ some '.' ∧ n ∉ passedDirectories := by
  simp [isEntered]

private theorem Java.frontend_handles_iff {tolerant : Bool} {path : String} :
    (Java.frontend tolerant).handles path = true ↔
      Path.extension? path = some Java.fileExtension := by
  simp [Java.frontend, Java.frontendWith, Frontend.handles, Option.any_eq_true]

section Patterns

variable [PathPatterns]

private theorem Settings.excludes_eq_false_iff {path : String} : settings.excludes path = false ↔
    ∀ pattern ∈ settings.excludedPaths, ∀ covers, PathPatterns.compile pattern = .ok covers →
      covers path = false := by
  rw [Settings.excludes, List.any_eq_false]
  refine forall₂_congr fun pattern _ => ?_
  cases PathPatterns.compile pattern <;> simp

/-- The names lead from the directory at `l`, which is that of the path `root`, to a file that is
scanned: a Java source below directories that are entered, of which no pattern matches the names
or the path. -/
structure IsScanned (files : FileSystem) (settings : Settings) (root : String) (l : Location)
    (names : List String) :
    Prop where
  file : ∃ content, files.entry? (l ++ names) = some (.file content)
  source : ∃ stem, stem ≠ "" ∧ names.getLast? = some (stem ++ ".java")
  entered : ∀ n ∈ names.dropLast, n.toList.head? ≠ some '.' ∧ n ∉ passedDirectories
  kept : ∀ pattern ∈ settings.excludedPaths, ∀ covers, PathPatterns.compile pattern = .ok covers →
    covers (Path.ofNames names) = false ∧ covers (Path.joinAll root names) = false

private theorem isWanted_iff (hnames : ∀ n ∈ names, Path.IsName n) (hne : names ≠ []) :
    (Java.frontend false).isWanted settings root names = true ↔
      (∃ stem, stem ≠ "" ∧ names.getLast? = some (stem ++ ".java")) ∧
      ∀ pattern ∈ settings.excludedPaths, ∀ covers, PathPatterns.compile pattern = .ok covers →
        covers (Path.ofNames names) = false ∧ covers (Path.joinAll root names) = false := by
  have hsource : (Java.frontend false).handles (Path.joinAll root names) = true ↔
      ∃ stem, stem ≠ "" ∧ names.getLast? = some (stem ++ ".java") := by
    rw [Java.frontend_handles_iff, Path.extension?_eq_some_iff (by decide),
      Path.fileName?_joinAll hnames hne]
    simp only [Java.fileExtension, String.append_assoc]
    rfl
  rw [Frontend.isWanted, Bool.and_eq_true, hsource, Bool.not_eq_true', Bool.or_eq_false_iff,
    Settings.excludes_eq_false_iff, Settings.excludes_eq_false_iff]
  simp only [forall_and]

/-- The wanted files that the walk comes to are those that are scanned. -/
theorem mem_filter_walk_iff (hfiles : files.IsTree) (hl : files.entry? l = some .directory) :
    names ∈ (files.walk isEntered files.height l).filter
      ((Java.frontend false).isWanted settings root) ↔
      IsScanned files settings root l names := by
  rw [List.mem_filter, hfiles.mem_walk_iff hl]
  simp only [isEntered_iff]
  constructor
  · rintro ⟨⟨-, hentered, content, hfile⟩, hwanted⟩
    have hne := FileSystem.ne_nil_of_file hl hfile
    obtain ⟨hsource, hkept⟩ := (isWanted_iff (hfiles.way hfile hne).2 hne).1 hwanted
    exact ⟨⟨content, hfile⟩, hsource, hentered, hkept⟩
  · rintro ⟨⟨content, hfile⟩, hsource, hentered, hkept⟩
    have hne := FileSystem.ne_nil_of_file hl hfile
    exact ⟨⟨FileSystem.length_le_height hfile hne, hentered, content, hfile⟩,
      (isWanted_iff (hfiles.way hfile hne).2 hne).2 ⟨hsource, hkept⟩⟩

/-- **Which files are scanned.** In a directory tree, the files to scan below a directory are all
Java sources that are reached through directories that are entered and that no valid pattern
excludes, by their names below the directory or by their whole path. Their paths are given in
strictly ascending order. A root that is a file is scanned whatever its name is, and a root that
is not there is an error. -/
theorem collect_exact (hfiles : files.IsTree) (settings : Settings) (root : String) :
    (∀ e, files.resolve root = .error e → collect files settings root = .error ⟨root⟩) ∧
    ∀ l, files.resolve root = .ok l →
      (∀ content, files.entry? l = some (.file content) →
        collect files settings root = .ok [root]) ∧
      (files.entry? l = some .directory → ∃ paths, collect files settings root = .ok paths ∧
        paths.Pairwise Path.Precedes ∧
        ∀ path, path ∈ paths ↔ ∃ names, IsScanned files settings root l names ∧
          path = Path.joinAll root names) := by
  refine ⟨fun e he => by rw [collect, Frontend.collect, he],
    fun l hl => ⟨fun content hfile => ?_, fun hdir => ?_⟩⟩
  · have hnot : files.isDirectoryAt l = false := by simp [FileSystem.isDirectoryAt, hfile]
    rw [collect, Frontend.collect, hl]
    simp [hnot]
  · have hin : files.isDirectoryAt l = true := by simp [FileSystem.isDirectoryAt, hdir]
    refine ⟨_, by rw [collect, Frontend.collect, hl]; exact if_pos hin,
      pairwise_precedes_mergeSort ?_ ?_ root, fun path => ?_⟩
    · exact (files.nodup_walk isEntered files.height l).filter _
    · intro names hnames
      obtain ⟨content, hfile⟩ := ((mem_filter_walk_iff hfiles hdir).1 hnames).file
      -- the names of a file that is there are names, which joining does not confuse
      intro n hn
      exact (hfiles.way hfile (List.ne_nil_of_mem hn)).2 n hn
    · rw [List.mem_mergeSort, List.mem_map]
      simp only [mem_filter_walk_iff hfiles hdir, eq_comm]

end Patterns

/-- Java sources in a directory that is entered and in one that is not, and a file that is named
like an ending. -/
def sourceTree : FileSystem where
  entries := [(["p"], .directory), (["p", ".java"], .file ⟨#[]⟩), (["p", "build"], .directory),
    (["p", "build", "B.java"], .file ⟨#[]⟩), (["p", "q"], .directory),
    (["p", "q", ".C.java"], .file ⟨#[]⟩), (["p", "q", "D.java"], .file ⟨#[]⟩)]
  distinct := by decide

/-- One source is scanned, although its name begins with a dot and one of the patterns is not
valid; the others are not. The file that is named like an ending is scanned only if it is the
root. -/
theorem collect_sourceTree :
    let settings : Settings := { excludedPaths := ["q/D*", "["] }
    sourceTree.IsTree ∧ collect sourceTree settings "r" = .error ⟨"r"⟩ ∧
    collect sourceTree settings "p/.java" = .ok ["p/.java"] ∧
    ∃ paths, collect sourceTree settings "p" = .ok paths ∧ paths.Pairwise Path.Precedes ∧
      "p/q/.C.java" ∈ paths ∧ "p/build/B.java" ∉ paths := by
  intro settings
  have htree : sourceTree.IsTree := FileSystem.isTree_of_forall_entries (by decide)
  have hmissing := (collect_exact htree settings "r").1
  have hfile := ((collect_exact htree settings "p/.java").2 ["p", ".java"] (by decide)).1
  obtain ⟨paths, hcollect, hsorted, hmem⟩ :=
    ((collect_exact htree settings "p").2 ["p"] (by decide)).2 (by decide)
  refine ⟨htree, hmissing .notFound (by decide), hfile _ rfl, paths, hcollect, hsorted, ?_, ?_⟩
  · have hwanted : (Java.frontend false).isWanted settings "p" ["q", ".C.java"] = true := by
      decide +kernel
    obtain ⟨hsource, hkept⟩ := (isWanted_iff (by decide) (by decide)).1 hwanted
    exact (hmem _).2 ⟨["q", ".C.java"], ⟨⟨_, rfl⟩, hsource, by decide, hkept⟩, by decide⟩
  · intro hbuild
    obtain ⟨names, hscanned, hpath⟩ := (hmem _).1 hbuild
    obtain ⟨content, hcontent⟩ := hscanned.file
    have hjoin : "p/build/B.java" = Path.joinAll "p" ["build", "B.java"] := by decide
    -- the names can be read off the joined path, so there is no other way to this file
    have hnames : names = ["build", "B.java"] := by
      refine Path.joinAll_ranks_injective (fun n hn => ?_) (by decide)
        (congrArg Path.ranks (hpath.symm.trans hjoin))
      exact (htree.way hcontent (List.ne_nil_of_mem hn)).2 n hn
    have hentered := hscanned.entered "build" (by simp [hnames])
    exact hentered.2 (by decide)

end Excerpt
