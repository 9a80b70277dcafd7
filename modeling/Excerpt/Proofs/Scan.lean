import Excerpt.Proofs.Extraction
import Excerpt.Proofs.Lines
import Excerpt.Report.Pretty
import Excerpt.Scan.Run

/-!
# Scans

A scan looks at files and collects what is found in a report. What a file adds to a report does
not depend on the files before it, so the report of several lists of files is put together from
those of the lists (`Scanner.scan_append`). Nor does it matter when the files are looked at:
outcomes are kept at the places of their files until all of them are known (`Scanner.Underway`),
and then the report is that of the files in their order.

The front end of a scanner is arbitrary. It decides which files are looked at and what unit is
made of a content, and it may fail. Nothing is asked of it as long as reports are put together.

Only where snippets are told apart by their paths it matters that a unit has the path of its file,
which is a property of the front end (`Frontend.KeepsPath`); a front end for Java has it, whatever
it reads sources with (`Java.frontendWith_keepsPath`). If no path occurs twice, the snippets of a
path stand together, and the report for the terminal shows each file once, under one header
(`Report.snippetsFrom_flatMap`).

## Main results

* `Scanner.scan_append`: reports one after the other.
* `Scanner.Underway.outcome_eq`: files in any order.
* `Report.snippetsFrom_flatMap`: each file has one header.
* `Scanner.scan_merges_files`: scans with any front end.
-/

namespace Excerpt

/-- A Java front end keeps paths, whatever it reads sources with. -/
theorem Java.frontendWith_keepsPath (read : List Char → Concrete) (tolerant : Bool) :
    (Java.frontendWith read tolerant).KeepsPath := by
  intro path source u hparse
  simp only [Java.frontendWith, Java.parseWith] at hparse
  split at hparse
  · cases hparse
  · cases hparse
    rfl

/-! ### Reports one after the other -/

namespace Report

/-- Reports can be put together in any grouping. -/
theorem append_assoc (r s t : Report) : (r.append s).append t = r.append (s.append t) := by
  simp [append, Nat.add_assoc]

end Report

namespace Scanner

variable (scanner : Scanner) (files : FileSystem)

/-- What the outcome of a file adds to a report. -/
def addOutcome (r : Report) (path : String) : Except Obstacle (List Snippet) → Report
  | .ok snippets => r.addFile snippets
  | .error o => r.addSkipped path o.message

/-- A file is added to a report by its outcome. -/
private theorem addTo_eq_addOutcome (r : Report) (path : String) :
    scanner.addTo files r path = addOutcome r path (scanner.scanFile files path) := by
  rw [addTo]
  cases scanner.scanFile files path <;> rfl

/-- Adding an outcome to a report is putting the report of one file after it. -/
private theorem addOutcome_eq_append (r : Report) (path : String)
    (o : Except Obstacle (List Snippet)) :
    addOutcome r path o = r.append (addOutcome {} path o) := by
  cases o <;> simp [addOutcome, Report.append, Report.addFile, Report.addSkipped]

/-- A scan that goes on from a report puts its own report after it. -/
private theorem foldl_addTo (r : Report) (paths : List String) :
    paths.foldl (scanner.addTo files) r = r.append (scanner.scan files paths) := by
  induction paths generalizing r with
  | nil => simp [scan, Report.append]
  | cons path paths ih =>
    rw [scan, List.foldl_cons, List.foldl_cons, ih, ih (scanner.addTo files {} path),
      addTo_eq_addOutcome, addTo_eq_addOutcome, addOutcome_eq_append, Report.append_assoc]

/-- The report of two lists of files is that of the first, then that of the second. -/
theorem scan_append (ps qs : List String) :
    scanner.scan files (ps ++ qs) = (scanner.scan files ps).append (scanner.scan files qs) := by
  rw [scan, List.foldl_append, foldl_addTo]
  rfl

/-- The report of the first file comes first. -/
private theorem scan_cons (path : String) (paths : List String) :
    scanner.scan files (path :: paths) =
      (addOutcome {} path (scanner.scanFile files path)).append (scanner.scan files paths) := by
  rw [← List.singleton_append, scan_append, scan, List.foldl_cons, List.foldl_nil,
    addTo_eq_addOutcome]

/-! ### Files in any order -/

/-- What is known while files are looked at: each look gives the outcome of some file, which is
kept at its place. -/
inductive Underway (paths : List String) : List (Option (Except Obstacle (List Snippet))) → Prop
  | start : Underway paths (paths.map fun _ => none)
  | look {known : List (Option (Except Obstacle (List Snippet)))} {k : Nat} {path : String}
      (h : Underway paths known) (hpath : paths[k]? = some path) :
      Underway paths (known.set k (some (scanner.scanFile files path)))

/-- The report of outcomes, in the order of the files. -/
def merge (paths : List String) (outcomes : List (Except Obstacle (List Snippet))) : Report :=
  (paths.zip outcomes).foldl (fun r p => addOutcome r p.1 p.2) {}

variable {scanner files} {paths : List String}
  {known : List (Option (Except Obstacle (List Snippet)))}

private theorem Underway.length_eq (h : Underway scanner files paths known) :
    known.length = paths.length := by
  induction h with
  | start => exact List.length_map _
  | look _ _ ih => rw [List.length_set, ih]

/-- An outcome that is known is that of the file at its place. -/
theorem Underway.outcome_eq (h : Underway scanner files paths known) {k : Nat}
    {o : Except Obstacle (List Snippet)} (ho : known[k]? = some (some o)) :
    ∃ path, paths[k]? = some path ∧ o = scanner.scanFile files path := by
  induction h generalizing o with
  | start =>
    rw [List.getElem?_map] at ho
    obtain ⟨_, -, ho⟩ := Option.map_eq_some_iff.mp ho
    cases ho
  | @look known j path _ hpath ih =>
    -- either the place was filled just now, or it was filled before
    rw [List.getElem?_set] at ho
    split at ho
    · next hjk =>
      split at ho
      · exact ⟨path, hjk ▸ hpath, (Option.some.inj (Option.some.inj ho)).symm⟩
      · cases ho
    · exact ih ho

/-- When all outcomes are known, they are those of the files in their order. -/
private theorem Underway.outcomes_eq {outcomes : List (Except Obstacle (List Snippet))}
    (h : Underway scanner files paths (outcomes.map some)) :
    outcomes = paths.map (scanner.scanFile files) := by
  have hlength : outcomes.length = paths.length := by simpa using h.length_eq
  refine List.ext_getElem? fun k => ?_
  by_cases hk : k < outcomes.length
  · have ho : (outcomes.map some)[k]? = some (some outcomes[k]) := by simp [hk]
    obtain ⟨path, hpath, heq⟩ := h.outcome_eq ho
    rw [List.getElem?_eq_getElem hk, List.getElem?_map, hpath, Option.map_some, heq]
  · rw [List.getElem?_eq_none (by omega), List.getElem?_eq_none (by rw [List.length_map]; omega)]

/-- The outcomes of files, put together in the order of the files, make the report of a scan. -/
private theorem merge_map_scanFile (scanner : Scanner) (files : FileSystem) (paths : List String) :
    merge paths (paths.map (scanner.scanFile files)) = scanner.scan files paths := by
  have hzip : paths.zip (paths.map (scanner.scanFile files)) =
      paths.map fun path => (path, scanner.scanFile files path) :=
    List.map_prod_left_eq_zip.symm
  rw [merge, hzip, List.foldl_map, scan]
  exact List.foldl_ext _ _ _ fun r path _ => (scanner.addTo_eq_addOutcome files r path).symm

/-! ### What a file contributes -/

/-- The snippets of a file; a file that is left out has none. -/
def snippetsOf (scanner : Scanner) (files : FileSystem) (path : String) : List Snippet :=
  (scanner.scanFile files path).toOption.getD []

private theorem snippets_addOutcome (path : String) (o : Except Obstacle (List Snippet)) :
    (addOutcome {} path o).snippets = o.toOption.getD [] := by
  cases o <;> rfl

/-- The snippets of a scan are those of its files, one file after the other. -/
private theorem snippets_scan (paths : List String) :
    (scanner.scan files paths).snippets = paths.flatMap (scanner.snippetsOf files) := by
  induction paths with
  | nil => rfl
  | cons path paths ih =>
    rw [scan_cons, Report.append, List.flatMap_cons, ih, snippets_addOutcome, snippetsOf]

/-- Every file is either scanned or left out. -/
private theorem scanned_add_length_skipped (paths : List String) :
    (scanner.scan files paths).scanned + (scanner.scan files paths).skipped.length =
      paths.length := by
  induction paths with
  | nil => rfl
  | cons path paths ih =>
    rw [scan_cons, Report.append, List.length_cons, ← ih]
    cases scanner.scanFile files path <;>
      simp [addOutcome, Report.addFile, Report.addSkipped] <;> omega

private theorem exists_scanFile_eq_error {paths : List String} {k : Skipped}
    (hk : k ∈ (scanner.scan files paths).skipped) :
    ∃ o, scanner.scanFile files k.path = .error o := by
  induction paths with
  | nil => cases hk
  | cons path paths ih =>
    rw [scan_cons, Report.append] at hk
    rcases List.mem_append.mp hk with hk | hk
    · cases hfile : scanner.scanFile files path with
      | ok snippets => simp [hfile, addOutcome, Report.addFile] at hk
      | error o =>
        rw [hfile] at hk
        cases List.mem_singleton.mp hk
        exact ⟨o, hfile⟩
    · exact ih hk

/-- The snippets of a file are those of the unit that the front end makes of its content. -/
theorem exists_parse_of_scanFile {path : String} {snippets : List Snippet}
    (h : scanner.scanFile files path = .ok snippets) :
    ∃ source u, scanner.frontend.parse path source = .ok u ∧
      snippets = scanner.engine.extract u := by
  rw [scanFile] at h
  split at h
  · cases h
  · split at h
    · cases h
    · next source hread _ u hparse =>
      cases h
      exact ⟨source, u, hparse, rfl⟩

/-- A snippet has the path of its file, if the units of the front end have it. -/
theorem path_of_mem_snippetsOf (hkeeps : scanner.frontend.KeepsPath) {path : String} {s : Snippet}
    (hs : s ∈ scanner.snippetsOf files path) : s.path = path := by
  rw [snippetsOf] at hs
  cases hfile : scanner.scanFile files path with
  | error o =>
    rw [hfile] at hs
    cases hs
  | ok snippets =>
    rw [hfile] at hs
    obtain ⟨source, u, hparse, rfl⟩ := exists_parse_of_scanFile hfile
    exact (Engine.path_of_mem_extract _ _ hs).trans (hkeeps path source u hparse)

/-- No snippet has the path of a file that is left out, because the outcome of a path is the same
each time it is looked at. -/
private theorem path_ne_of_mem_skipped (hkeeps : scanner.frontend.KeepsPath) {paths : List String}
    {k : Skipped} {s : Snippet} (hk : k ∈ (scanner.scan files paths).skipped)
    (hs : s ∈ (scanner.scan files paths).snippets) :
    s.path ≠ k.path := by
  obtain ⟨o, ho⟩ := exists_scanFile_eq_error hk
  rw [snippets_scan] at hs
  obtain ⟨path, -, hs⟩ := List.mem_flatMap.mp hs
  intro hpath
  rw [← path_of_mem_snippetsOf hkeeps hs, hpath, snippetsOf, ho] at hs
  cases hs

/-! ### Snippets of a path -/

/-- Of the snippets of a file, all or none have a given path. -/
private theorem filter_path_snippetsOf (hkeeps : scanner.frontend.KeepsPath) (path path' : String) :
    ((scanner.snippetsOf files path').filter fun s => s.path = path) =
      if path' = path then scanner.snippetsOf files path' else [] := by
  split
  · next heq =>
    refine List.filter_eq_self.mpr fun s hs => decide_eq_true ?_
    rw [path_of_mem_snippetsOf hkeeps hs, heq]
  · next hne =>
    refine List.filter_eq_nil_iff.mpr fun s hs => ?_
    rw [path_of_mem_snippetsOf hkeeps hs]
    simpa using hne

private theorem filter_path_flatMap_of_notMem (hkeeps : scanner.frontend.KeepsPath) {path : String}
    {paths : List String} (h : path ∉ paths) :
    ((paths.flatMap (scanner.snippetsOf files)).filter fun s => s.path = path) = [] := by
  rw [List.filter_flatMap]
  refine List.flatMap_eq_nil_iff.mpr fun path' hpath' => ?_
  rw [filter_path_snippetsOf hkeeps, if_neg]
  rintro rfl
  exact h hpath'

/-- If no path occurs twice, the snippets of a path stand together. -/
theorem isInfix_filter_path (hkeeps : scanner.frontend.KeepsPath) {paths : List String}
    (h : paths.Nodup) (path : String) :
    ((scanner.scan files paths).snippets.filter fun s => s.path = path) <:+:
      (scanner.scan files paths).snippets := by
  rw [snippets_scan]
  by_cases hpath : path ∈ paths
  · obtain ⟨before, after, rfl⟩ := List.append_of_mem hpath
    obtain ⟨-, hafter, hbefore⟩ := List.nodup_append.mp h
    have hbefore : path ∉ before := fun hmem => hbefore path hmem path List.mem_cons_self rfl
    have hafter : path ∉ after := (List.nodup_cons.mp hafter).1
    rw [List.flatMap_append, List.flatMap_cons, List.filter_append, List.filter_append,
      filter_path_flatMap_of_notMem hkeeps hbefore, filter_path_flatMap_of_notMem hkeeps hafter,
      filter_path_snippetsOf hkeeps, if_pos rfl, List.nil_append, List.append_nil]
    exact ⟨_, _, List.append_assoc _ _ _⟩
  · rw [filter_path_flatMap_of_notMem hkeeps hpath]
    exact List.nil_infix

end Scanner

/-! ### Headers -/

namespace Report

open Style

/-- A file with its snippets: its header, then theirs. -/
def fileLines (color : Bool) (path : String) (snippets : List Snippet) : List String :=
  ("  " ++ boldBlue.paint color path) :: snippets.flatMap (snippetLines color)

variable {color : Bool} {path : String} {snippets : List Snippet}
  {groups : List (String × List Snippet)}

/-- Snippets of the file that is shown at present need no header. -/
private theorem snippetsFrom_append_of_path (h : ∀ s ∈ snippets, s.path = path)
    (rest : List Snippet) :
    snippetsFrom color (some path) (snippets ++ rest) =
      snippets.flatMap (snippetLines color) ++ snippetsFrom color (some path) rest := by
  induction snippets with
  | nil => rfl
  | cons s snippets ih =>
    obtain ⟨hs, hsnippets⟩ := List.forall_mem_cons.mp h
    rw [List.cons_append, snippetsFrom, hs, if_pos rfl, List.nil_append, ih hsnippets,
      List.flatMap_cons, List.append_assoc]

/-- The snippets of another file than the last one are shown under a header of their own. -/
theorem snippetsFrom_append_of_ne {current : Option String} (hcurrent : current ≠ some path)
    (hne : snippets ≠ []) (h : ∀ s ∈ snippets, s.path = path) (rest : List Snippet) :
    snippetsFrom color current (snippets ++ rest) =
      (if current.isSome then [""] else []) ++ fileLines color path snippets ++
        snippetsFrom color (some path) rest := by
  cases snippets with
  | nil => exact absurd rfl hne
  | cons s snippets =>
    obtain ⟨hs, hsnippets⟩ := List.forall_mem_cons.mp h
    rw [List.cons_append, snippetsFrom, hs, if_neg hcurrent,
      snippetsFrom_append_of_path hsnippets, fileLines, List.flatMap_cons]
    simp only [List.append_assoc, List.cons_append, List.nil_append]

/-- Snippets by file: no file is without snippets, and they all have its path. -/
def Grouped (groups : List (String × List Snippet)) : Prop :=
  ∀ g ∈ groups, g.2 ≠ [] ∧ ∀ s ∈ g.2, s.path = g.1

/-- After a file, each of the others has a header with an empty line before it. -/
private theorem snippetsFrom_flatMap_some (hgroups : Grouped groups)
    (hnodup : (path :: groups.map Prod.fst).Nodup) :
    snippetsFrom color (some path) (groups.flatMap Prod.snd) =
      groups.flatMap fun g => "" :: fileLines color g.1 g.2 := by
  induction groups generalizing path with
  | nil => rfl
  | cons g groups ih =>
    obtain ⟨⟨hne, hpath⟩, hrest⟩ := List.forall_mem_cons.mp hgroups
    obtain ⟨hnew, hnodup⟩ := List.nodup_cons.mp hnodup
    have hcurrent : some path ≠ some g.1 :=
      fun heq => hnew (Option.some.inj heq ▸ List.mem_cons_self)
    rw [List.flatMap_cons, snippetsFrom_append_of_ne hcurrent hne hpath, ih hrest hnodup,
      List.flatMap_cons]
    rfl

/-- If no file occurs twice, each one has one header, and there is an empty line between files. -/
theorem snippetsFrom_flatMap (hgroups : Grouped groups) (hnodup : (groups.map Prod.fst).Nodup)
    (color : Bool) :
    snippetsFrom color none (groups.flatMap Prod.snd) =
      [""].intercalate (groups.map fun g => fileLines color g.1 g.2) := by
  cases groups with
  | nil => rfl
  | cons g groups =>
    obtain ⟨⟨hne, hpath⟩, hrest⟩ := List.forall_mem_cons.mp hgroups
    have hcurrent : none ≠ some g.1 := nofun
    rw [List.flatMap_cons, snippetsFrom_append_of_ne hcurrent hne hpath,
      snippetsFrom_flatMap_some hrest hnodup, List.map_cons, Text.intercalate_cons,
      List.flatMap_map]
    rfl

end Report

namespace Scanner

/-- The files that have snippets, with these. -/
def groups (scanner : Scanner) (files : FileSystem) (paths : List String) :
    List (String × List Snippet) :=
  (paths.filter fun path => scanner.snippetsOf files path ≠ []).map fun path =>
    (path, scanner.snippetsOf files path)

variable {scanner : Scanner} {files : FileSystem}

/-- The snippets of each file are a group. -/
private theorem grouped_groups (hkeeps : scanner.frontend.KeepsPath) (paths : List String) :
    Report.Grouped (scanner.groups files paths) := by
  intro g hg
  obtain ⟨path, hpath, rfl⟩ := List.mem_map.mp hg
  exact ⟨of_decide_eq_true (List.mem_filter.mp hpath).2,
    fun s hs => path_of_mem_snippetsOf hkeeps hs⟩

/-- The groups make up all snippets; files without a snippet are no groups. -/
private theorem flatMap_groups (paths : List String) :
    (scanner.groups files paths).flatMap Prod.snd = (scanner.scan files paths).snippets := by
  rw [snippets_scan, groups, List.flatMap_map]
  induction paths with
  | nil => rfl
  | cons path paths ih =>
    by_cases hempty : scanner.snippetsOf files path = []
    · rw [List.filter_cons_of_neg (by simpa using hempty), ih, List.flatMap_cons, hempty,
        List.nil_append]
    · rw [List.filter_cons_of_pos (by simpa using hempty), List.flatMap_cons, List.flatMap_cons, ih]

private theorem nodup_groups {paths : List String} (h : paths.Nodup) :
    ((scanner.groups files paths).map Prod.fst).Nodup := by
  rw [groups, List.map_map]
  exact (List.map_id _).symm ▸ h.filter _

/-- **Scans with any front end.** The outcomes of files, found in any order, make the report of
the files in their order. It is put together from the reports of parts of the list. A file adds
its snippets, or the reason why it is left out, so every file is counted once.

If the front end keeps paths, a file that is left out has no snippet, whatever else was scanned.
If moreover no path occurs twice, the snippets of a path stand together, and the report for the
terminal shows each file at most once, under its header. -/
theorem scan_merges_files (scanner : Scanner) (files : FileSystem) :
    (∀ paths outcomes, Underway scanner files paths (outcomes.map some) →
      merge paths outcomes = scanner.scan files paths) ∧
    (∀ ps qs, scanner.scan files (ps ++ qs) =
      (scanner.scan files ps).append (scanner.scan files qs)) ∧
    (∀ path snippets, scanner.scanFile files path = .ok snippets →
      scanner.scan files [path] = { snippets := snippets, scanned := 1 }) ∧
    (∀ path o, scanner.scanFile files path = .error o →
      scanner.scan files [path] = { skipped := [⟨path, o.message⟩] }) ∧
    ∀ paths, let r := scanner.scan files paths
      r.scanned + r.skipped.length = paths.length ∧
      (scanner.frontend.KeepsPath → ∀ k ∈ r.skipped, ∀ s ∈ r.snippets, s.path ≠ k.path) ∧
      (scanner.frontend.KeepsPath → paths.Nodup →
        (∀ path, (r.snippets.filter fun s => s.path = path) <:+: r.snippets) ∧
        ∃ groups : List (String × List Snippet),
          (groups.map Prod.fst).Nodup ∧ (∀ g ∈ groups, g.2 ≠ [] ∧ ∀ s ∈ g.2, s.path = g.1) ∧
          groups.flatMap Prod.snd = r.snippets ∧
          ∀ color, Report.snippetsFrom color none r.snippets =
            [""].intercalate (groups.map fun g => Report.fileLines color g.1 g.2)) := by
  refine ⟨?_, scanner.scan_append files, ?_, ?_,
    fun paths => ⟨scanned_add_length_skipped paths, ?_, ?_⟩⟩
  · intro paths outcomes h
    rw [h.outcomes_eq, merge_map_scanFile]
  · intro path snippets h
    rw [scan, List.foldl_cons, List.foldl_nil, addTo_eq_addOutcome, h]
    rfl
  · intro path o h
    rw [scan, List.foldl_cons, List.foldl_nil, addTo_eq_addOutcome, h]
    rfl
  · exact fun hkeeps k hk s hs => path_ne_of_mem_skipped hkeeps hk hs
  · intro hkeeps h
    have hgrouped : Report.Grouped (scanner.groups files paths) := grouped_groups hkeeps paths
    refine ⟨isInfix_filter_path hkeeps h, scanner.groups files paths, nodup_groups h, hgrouped,
      flatMap_groups paths, fun color => ?_⟩
    rw [← flatMap_groups]
    exact Report.snippetsFrom_flatMap hgrouped (nodup_groups h) color

/-- Two files with a class, and one that is no text. -/
def classFiles : FileSystem where
  entries := [(["A.java"], .file "class A {}".toUTF8), (["B.java"], .file ⟨#[255]⟩),
    (["C.java"], .file "class C {}".toUTF8)]
  distinct := by decide

/-- A scanner that reports every type. -/
def typeScanner : Scanner where
  engine := ⟨[{ id := "A", scope := "CLASS_DECLARATION" }], Engine.reportingAll⟩

/-- Four files are looked at out of order; the last one is missing. -/
theorem scan_classFiles :
    let paths := ["A.java", "B.java", "C.java", "D.java"]
    let r := typeScanner.scan classFiles paths
    (r.snippets.map Snippet.path, r.scanned, r.skipped.map Skipped.path) =
      (["A.java", "C.java"], 2, ["B.java", "D.java"]) ∧
    merge paths (paths.map (typeScanner.scanFile classFiles)) = r ∧
    (r.snippets.filter fun s => s.path = "C.java") <:+: r.snippets ∧
    ∃ groups : List (String × List Snippet), (groups.map Prod.fst).Nodup ∧
      groups.flatMap Prod.snd = r.snippets ∧
      ∀ color, Report.snippetsFrom color none r.snippets =
        [""].intercalate (groups.map fun g => Report.fileLines color g.1 g.2) := by
  intro paths r
  obtain ⟨hmerge, -, -, -, hreport⟩ := scan_merges_files typeScanner classFiles
  obtain ⟨-, -, hdistinct⟩ := hreport paths
  have hkeeps : typeScanner.frontend.KeepsPath := Java.frontendWith_keepsPath _ _
  obtain ⟨htogether, groups, hnodup, -, hsnippets, hlines⟩ := hdistinct hkeeps (by decide)
  have hknown : Underway typeScanner classFiles paths
      ((paths.map (typeScanner.scanFile classFiles)).map some) :=
    ((((Underway.start.look (k := 3) rfl).look (k := 1) rfl).look (k := 0) rfl).look (k := 2) rfl)
  exact ⟨by decide +kernel, hmerge paths _ hknown, htogether "C.java", groups, hnodup,
    hsnippets, hlines⟩

end Scanner

end Excerpt
