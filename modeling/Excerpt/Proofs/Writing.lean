import Excerpt.Files.Write
import Excerpt.Proofs.Collection

/-!
# What writing changes

Directories are made one at a time, at places where nothing was (`FileSystem.Gains`). So a path
that can be followed before can be followed after, to the same place, but not the other way round:
if a path leads to something in the end that was there from the beginning, then either it led
there from the beginning, or on the way a step to the parent leaves a directory that was not there
(`FileSystem.Gains.follow_or_leavesMissing`). A file is written over only in the second case, if
it was checked before that the path leads nowhere.

A file system is only ever changed by putting an entry at a place (`entry?_put`). The two
operations that do so are described by what they gain: a directory is made where nothing was
(`gains_of_makeDirectory`), and a file is written into a directory, under a name that is not that
of a directory (`exists_of_write`). Making the directories of a path may stop in the middle, and
then those that were made are still there.

Paths are followed component by component, and a component may lead back to the parent or to the
root. The proofs are by induction on the components, with the place that has been reached.

## Main results

* `FileSystem.Gains.follow_or_leavesMissing`: paths with more directories.
* `FileSystem.gains_afterMaking`: what making directories changes.
* `FileSystem.exists_of_write`: what writing changes.
* `FileSystem.Gains.write_checked`: what is written over after a check.
-/

namespace Excerpt

/-- A result comes from a result of the first part. -/
theorem Except.bind_eq_ok_iff {ε α β : Type} {x : Except ε α} {f : α → Except ε β} {b : β} :
    x >>= f = .ok b ↔ ∃ a, x = .ok a ∧ f a = .ok b := by
  cases x <;> simp [Bind.bind, Except.bind]

namespace FileSystem

variable {s t u : FileSystem} {p l k d : Location} {e : Entry} {cs ds : List Path.Component}
  {c : Path.Component}

/-! ### Entries -/

private theorem lookup_putEntry (l : Location) (e : Entry) (es : List (Location × Entry))
    (k : Location) :
    (putEntry l e es).lookup k = if k = l then some e else es.lookup k := by
  induction es with
  | nil => by_cases h : k = l <;> simp [putEntry, h]
  | cons a es ih =>
    obtain ⟨j, d⟩ := a
    rw [putEntry]
    by_cases hk : k = j
    · subst hk
      by_cases hl : k = l <;> simp [hl]
    · have hkj : (k == j) = false := beq_false_of_ne hk
      by_cases hj : j = l
      · subst hj
        simp [List.lookup_cons, hkj, hk]
      · simp only [if_neg hj, List.lookup_cons, hkj, ih]

/-- An entry is put at a place below the root. -/
theorem entry?_put {n : String} :
    entry? (s.put (l ++ [n]) e) k = if k = l ++ [n] then some e else s.entry? k := by
  unfold entry? put
  rw [lookup_putEntry]
  by_cases hk : k = []
  · subst hk
    rw [if_pos rfl, if_pos rfl, if_neg (by simp)]
  · rw [if_neg hk, if_neg hk]

private theorem isDirectoryAt_iff : s.isDirectoryAt l = true ↔ s.entry? l = some .directory :=
  beq_iff_eq

/-! ### Following paths -/

/-- The place that a component leads to. -/
def next (l : Location) : Path.Component → Location
  | .root => []
  | .current => l
  | .parent => l.dropLast
  | .name n => l ++ [n]

private theorem follow_of_none (h : s.entry? l = none) (cs : List Path.Component) :
    s.follow l cs = .error .notFound := by
  cases cs <;> simp [follow, h]

private theorem follow_cons (h : s.entry? l = some .directory) (c : Path.Component)
    (cs : List Path.Component) :
    s.follow l (c :: cs) = s.follow (next l c) cs := by
  cases c <;> simp [follow, h, next]

private theorem follow_nil_eq_ok_iff : s.follow l [] = .ok k ↔ (s.entry? l).isSome ∧ l = k := by
  rw [follow]
  by_cases h : (s.entry? l).isSome <;> simp [h]

private theorem entry?_of_follow_cons (h : s.follow l (c :: cs) = .ok k) :
    s.entry? l = some .directory := by
  cases hl : s.entry? l with
  | none =>
    rw [follow_of_none hl] at h
    cases h
  | some e =>
    cases e with
    | directory => rfl
    | file content => cases c <;> simp [follow, hl] at h

private theorem isSome_entry?_of_follow (h : s.follow l cs = .ok k) : (s.entry? l).isSome := by
  cases cs with
  | nil => exact (follow_nil_eq_ok_iff.1 h).1
  | cons c cs => simp [entry?_of_follow_cons h]

private theorem follow_append (h : s.follow l cs = .ok k) (ds : List Path.Component) :
    s.follow l (cs ++ ds) = s.follow k ds := by
  induction cs generalizing l with
  | nil =>
    obtain ⟨-, rfl⟩ := follow_nil_eq_ok_iff.1 h
    rfl
  | cons c cs ih =>
    have hl := entry?_of_follow_cons h
    rw [follow_cons hl] at h
    rw [List.cons_append, follow_cons hl, ih h]

/-- Where the directories stay, a path to a directory leads to the same one. -/
theorem follow_of_directories
    (hkept : ∀ l, s.entry? l = some .directory → t.entry? l = some .directory)
    (hd : s.entry? d = some .directory) (h : s.follow l cs = .ok d) : t.follow l cs = .ok d := by
  induction cs generalizing l with
  | nil =>
    obtain ⟨-, rfl⟩ := follow_nil_eq_ok_iff.1 h
    exact follow_nil_eq_ok_iff.2 ⟨by simp [hkept _ hd], rfl⟩
  | cons c cs ih =>
    have hl := entry?_of_follow_cons h
    rw [follow_cons hl] at h
    rw [follow_cons (hkept l hl)]
    exact ih h

/-- Without a step to the parent or to the root, a path leads downwards. -/
theorem exists_append_of_follow (h : s.follow l cs = .ok k) (hparent : .parent ∉ cs)
    (hroot : .root ∉ cs) :
    ∃ names, k = l ++ names := by
  induction cs generalizing l with
  | nil => exact ⟨[], by rw [List.append_nil, (follow_nil_eq_ok_iff.1 h).2]⟩
  | cons c cs ih =>
    rw [follow_cons (entry?_of_follow_cons h)] at h
    rw [List.mem_cons, not_or] at hparent hroot
    obtain ⟨names, rfl⟩ := ih h hparent.2 hroot.2
    cases c with
    | root => exact absurd rfl hroot.1
    | current => exact ⟨names, rfl⟩
    | parent => exact absurd rfl hparent.1
    | name n => exact ⟨n :: names, by simp [next]⟩

/-! ### More directories -/

/-- The first file system is the second one with more directories, none of them at the working
directory. -/
structure Gains (t s : FileSystem) : Prop where
  home_eq : t.home = s.home
  atHome : t.entry? s.home = s.entry? s.home
  entry : ∀ l, t.entry? l = s.entry? l ∨ s.entry? l = none ∧ t.entry? l = some .directory

/-- A file system gains nothing by itself. -/
theorem Gains.refl (s : FileSystem) : s.Gains s :=
  ⟨rfl, rfl, fun _ => .inl rfl⟩

/-- What is gained in two steps is gained. -/
theorem Gains.trans (h : u.Gains t) (h' : t.Gains s) : u.Gains s where
  home_eq := h.home_eq.trans h'.home_eq
  atHome := by rw [← h'.atHome, ← h'.home_eq, h.atHome]
  entry l := by
    rcases h.entry l with hu | ⟨ht, hu⟩ <;> rcases h'.entry l with hs | ⟨hs, hl⟩
    · exact .inl (hu.trans hs)
    · exact .inr ⟨hs, hu.trans hl⟩
    · exact .inr ⟨hs ▸ ht, hu⟩
    · exact .inr ⟨hs, hu⟩

/-- What is there stays there. -/
theorem Gains.entry?_eq (h : t.Gains s) (hl : s.entry? l = some e) : t.entry? l = some e := by
  rcases h.entry l with ht | ⟨hs, -⟩
  · exact ht.trans hl
  · rw [hs] at hl
    cases hl

/-- A step to the parent leaves a place that the path does not lead to because nothing is there. -/
def LeavesMissing (s : FileSystem) (l : Location) (cs : List Path.Component) : Prop :=
  ∃ before after, cs = before ++ .parent :: after ∧ s.follow l before = .error .notFound

/-- A path that leaves a missing directory does so after a step through one that is there. -/
theorem LeavesMissing.cons (h : s.LeavesMissing (next l c) cs) (hl : s.entry? l = some .directory) :
    s.LeavesMissing l (c :: cs) := by
  obtain ⟨before, after, rfl, hbefore⟩ := h
  exact ⟨c :: before, after, rfl, by rw [follow_cons hl, hbefore]⟩

/-- A path that leaves a missing directory does so whatever follows. -/
theorem LeavesMissing.append (h : s.LeavesMissing l cs) (ds : List Path.Component) :
    s.LeavesMissing l (cs ++ ds) := by
  obtain ⟨before, after, rfl, hbefore⟩ := h
  exact ⟨before, after ++ ds, by simp, hbefore⟩

namespace Gains

/-- From a place where nothing is, a path that leads to something of the tree has to go back. -/
theorem leavesMissing_of_none (h : t.follow l cs = .ok k) (hs : s.IsTree) (hk : s.entry? k = some e)
    (hl : s.entry? l = none) (hroot : .root ∉ cs) : s.LeavesMissing l cs := by
  by_cases hparent : .parent ∈ cs
  · obtain ⟨before, after, rfl⟩ := List.append_of_mem hparent
    exact ⟨before, after, rfl, follow_of_none hl before⟩
  · -- below such a place there is nothing
    obtain ⟨names, rfl⟩ := exists_append_of_follow h hparent hroot
    cases names with
    | nil =>
      rw [List.append_nil, hl] at hk
      cases hk
    | cons n names =>
      rw [(hs.way hk (List.cons_ne_nil n names)).1] at hl
      cases hl

/-- A path leads to an entry of the tree as it did before, or it leaves a directory that was not
there. -/
theorem follow_or_leavesMissing (h : t.Gains s) (hs : s.IsTree) (hfollow : t.follow l cs = .ok k)
    (hk : s.entry? k = some e) (hroot : .root ∉ cs) :
    s.follow l cs = .ok k ∨ s.LeavesMissing l cs := by
  induction cs generalizing l with
  | nil =>
    obtain ⟨-, rfl⟩ := follow_nil_eq_ok_iff.1 hfollow
    exact .inl (follow_nil_eq_ok_iff.2 ⟨by simp [hk], rfl⟩)
  | cons c cs ih =>
    have ht := entry?_of_follow_cons hfollow
    rcases h.entry l with hl | ⟨hl, -⟩
    · have hl : s.entry? l = some .directory := hl.symm.trans ht
      rw [follow_cons ht] at hfollow
      rw [follow_cons hl]
      exact (ih hfollow fun hmem => hroot (List.mem_cons_of_mem c hmem)).imp_right fun hmissing =>
        hmissing.cons hl
    · exact .inr (leavesMissing_of_none hfollow hs hk hl hroot)

/-- From the working directory, a path may begin at the root. -/
theorem locate_or_leavesMissing (h : t.Gains s) (hs : s.IsTree) (hlocate : t.locate cs = .ok k)
    (hk : s.entry? k = some e) (hroot : .root ∉ cs.tail) :
    s.locate cs = .ok k ∨ s.LeavesMissing s.home cs := by
  rw [locate, h.home_eq] at hlocate
  cases cs with
  | nil => exact h.follow_or_leavesMissing hs hlocate hk List.not_mem_nil
  | cons c cs =>
    have ht := entry?_of_follow_cons hlocate
    have hhome : s.entry? s.home = some .directory := h.atHome.symm.trans ht
    rw [follow_cons ht] at hlocate
    rw [locate, follow_cons hhome]
    exact (h.follow_or_leavesMissing hs hlocate hk hroot).imp_right fun hmissing =>
      hmissing.cons hhome

end Gains

/-! ### Making directories -/

private theorem locateDirectory_eq_ok_iff : s.locateDirectory cs = .ok l ↔
    s.locate cs = .ok l ∧ s.entry? l = some .directory := by
  rw [locateDirectory, Except.bind_eq_ok_iff]
  constructor
  · rintro ⟨k, hk, hdir⟩
    split at hdir
    · next hkdir =>
      cases hdir
      exact ⟨hk, isDirectoryAt_iff.1 hkdir⟩
    · cases hdir
  · rintro ⟨hl, hdir⟩
    exact ⟨l, hl, if_pos (isDirectoryAt_iff.2 hdir)⟩

/-- A directory is made where nothing was. -/
theorem gains_of_makeDirectory (h : s.makeDirectory cs = .ok t) : t.Gains s := by
  rw [makeDirectory, Except.bind_eq_ok_iff] at h
  obtain ⟨l, hl, h⟩ := h
  split at h
  · next n _ =>
    split at h
    · cases h
    · next hnone =>
      obtain rfl := Except.ok.inj h
      have hnone : s.entry? (l ++ [n]) = none := by simpa using hnone
      refine ⟨rfl, ?_, fun k => ?_⟩
      · -- the working directory is there, or no path would lead anywhere
        have hhome := isSome_entry?_of_follow (locateDirectory_eq_ok_iff.1 hl).1
        rw [entry?_put, if_neg]
        intro heq
        rw [heq, hnone] at hhome
        cases hhome
      · rw [entry?_put]
        split
        · next heq => exact .inr ⟨heq ▸ hnone, rfl⟩
        · exact .inl rfl
  · cases h

private theorem gains_of_ensureDirectory (h : s.ensureDirectory cs = .ok t) : t.Gains s := by
  rw [ensureDirectory] at h
  split at h
  · next u hmake =>
    obtain rfl := Except.ok.inj h
    exact gains_of_makeDirectory hmake
  · split at h
    · obtain rfl := Except.ok.inj h
      exact .refl s
    · cases h

/-- The files after directories were made, all of them or only some. -/
def afterMaking : Except Incomplete FileSystem → FileSystem
  | .ok t => t
  | .error e => e.files

/-- Whether or not all directories can be made, nothing else changes. -/
theorem gains_afterMaking (s : FileSystem) (cs : List Path.Component) :
    (afterMaking (s.makeDirectories cs)).Gains s := by
  fun_induction makeDirectories s cs with
  | case1 => exact .refl s
  | case2 cs _ t ht => exact gains_of_ensureDirectory ht
  | case3 cs _ _ _ t ht ih =>
    have ih : t.Gains s := by rwa [ht] at ih
    cases hcs : t.ensureDirectory cs with
    | ok u => exact (gains_of_ensureDirectory hcs).trans ih
    | error e => exact ih
  | case4 cs _ _ _ e he ih => rwa [he] at ih
  | case5 => exact .refl s

/-! ### Writing files -/

variable {path : String} {content : ByteArray} {n : String}

/-- A path is there just if it leads to something. -/
theorem isThere_eq_true_iff : s.isThere path = true ↔ ∃ l, s.resolve path = .ok l := by
  rw [isThere]
  cases s.resolve path <;> simp

private theorem resolve_eq_locate (h : path ≠ "") : s.resolve path = s.locate (Path.steps path) :=
  if_neg (by simpa using h)

/-- A file is written into a directory, under a name that is not that of a directory. -/
theorem exists_of_write (h : s.write path content = .ok t) :
    path ≠ "" ∧ ∃ cs n d, Path.steps path = cs ++ [.name n] ∧
    s.locateDirectory cs = .ok d ∧ s.entry? (d ++ [n]) ≠ some .directory ∧
    t = s.put (d ++ [n]) (.file content) := by
  rw [write] at h
  split at h
  · cases h
  · next hempty =>
    refine ⟨by simpa using hempty, ?_⟩
    split at h
    · split at h <;> cases h
    · rw [writeAt, Except.bind_eq_ok_iff] at h
      obtain ⟨d, hd, h⟩ := h
      split at h
      · next n hlast =>
        split at h
        · cases h
        · next hdir =>
          rw [isDirectoryAt_iff] at hdir
          exact ⟨_, n, d, (List.dropLast_append_getLast? _ hlast).symm, hd, hdir,
            (Except.ok.inj h).symm⟩
      · cases h

/-- Only the beginning of a path leads to the root. -/
theorem root_notMem_tail_steps (path : String) : .root ∉ (Path.steps path).tail := by
  have hpieces : .root ∉ (Text.pieces (· == '/') path.toList).map fun p =>
      (Path.componentOf? p).getD .current := by
    rw [List.mem_map]
    rintro ⟨piece, -, hpiece⟩
    rw [Path.componentOf?] at hpiece
    split at hpiece
    · cases hpiece
    · split at hpiece <;> cases hpiece
  rw [Path.steps]
  split
  · exact hpieces
  · exact fun hmem => hpieces (List.mem_of_mem_tail hmem)

/-- The path of a file that is written leads to it. -/
theorem locate_put (hd : s.locateDirectory cs = .ok d)
    (hn : s.entry? (d ++ [n]) ≠ some .directory) :
    (s.put (d ++ [n]) (.file content)).locate (cs ++ [.name n]) = .ok (d ++ [n]) := by
  obtain ⟨hlocate, hdir⟩ := locateDirectory_eq_ok_iff.1 hd
  -- a file is put where no directory was, so every directory is still there
  have hkept : ∀ l, s.entry? l = some .directory →
      entry? (s.put (d ++ [n]) (.file content)) l = some .directory := by
    intro l hl
    rw [entry?_put, if_neg, hl]
    rintro rfl
    exact hn hl
  have hcs : (s.put (d ++ [n]) (.file content)).follow s.home cs = .ok d :=
    follow_of_directories hkept hdir hlocate
  have hwritten : entry? (s.put (d ++ [n]) (.file content)) (d ++ [n]) = some (.file content) := by
    rw [entry?_put, if_pos rfl]
  calc (s.put (d ++ [n]) (.file content)).follow s.home (cs ++ [.name n])
      = (s.put (d ++ [n]) (.file content)).follow d [.name n] := follow_append hcs _
    _ = (s.put (d ++ [n]) (.file content)).follow (d ++ [n]) [] := follow_cons (hkept d hdir) _ _
    _ = .ok (d ++ [n]) := follow_nil_eq_ok_iff.2 ⟨by rw [hwritten]; rfl, rfl⟩

/-- **Writing after a check.** If a path leads nowhere in a tree, and after some directories are
made a file is written to it, then either nothing was at the place of the file, or the path leaves
a directory that was not there. -/
theorem Gains.write_checked (h : t.Gains s) (hs : s.IsTree) (hcheck : s.isThere path = false)
    (hwrite : t.write path content = .ok u) :
    ∃ l, u.resolve path = .ok l ∧ u.entry? l = some (.file content) ∧ t.entry? l ≠ some .directory ∧
      (∀ k, k ≠ l → u.entry? k = t.entry? k) ∧
        (s.entry? l = none ∨ s.LeavesMissing s.home (Path.steps path)) := by
  obtain ⟨hpath, cs, n, d, hsteps, hd, hn, rfl⟩ := exists_of_write hwrite
  refine ⟨d ++ [n], ?_, by rw [entry?_put, if_pos rfl], hn,
    fun k hk => by rw [entry?_put, if_neg hk], ?_⟩
  · rw [resolve_eq_locate hpath, hsteps, locate_put hd hn]
  · refine or_iff_not_imp_left.2 fun hsome => ?_
    obtain ⟨e, he⟩ := Option.ne_none_iff_exists'.1 hsome
    have hdir : s.entry? d = some .directory := (hs d n e he).1
    have hroot : .root ∉ cs.tail := fun hmem => root_notMem_tail_steps path <| by
      rw [hsteps, List.tail_append_of_ne_nil (List.ne_nil_of_mem (List.mem_of_mem_tail hmem))]
      exact List.mem_append_left _ hmem
    rcases h.locate_or_leavesMissing hs (locateDirectory_eq_ok_iff.1 hd).1 hdir hroot with
      hlocate | hmissing
    · -- the directory was there, so the path led to the entry from the beginning
      have hfollow : s.locate (cs ++ [.name n]) = .ok (d ++ [n]) := by
        rw [locate, follow_append hlocate, follow_cons hdir]
        exact follow_nil_eq_ok_iff.2 ⟨by simp [next, he], rfl⟩
      have hthere :=
        isThere_eq_true_iff.2 ⟨d ++ [n], by rw [resolve_eq_locate hpath, hsteps, hfollow]⟩
      rw [hcheck] at hthere
      cases hthere
    · rw [hsteps]
      exact hmissing.append _

end FileSystem

end Excerpt
