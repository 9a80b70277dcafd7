import Excerpt.Words
import Mathlib.Data.List.Basic
import Mathlib.Data.List.Induction
import Mathlib.Data.List.TakeWhile

/-!
# Where the words of an identifier begin

The letters of an identifier, in their order, are split into words (`IsSplit`). A word begins at
the first letter of a run, at an upper-case letter after a lower-case one, and at an upper-case
letter between an upper-case and a lower-case one (`BeginsWord`), and nowhere else. These
conditions leave no choice (`IsSplit.unique`).

The conditions are about places in the identifier and say nothing about how it is cut. The program
cuts it into runs of letters and each run into words, letter by letter. A letter before another
one is a word of its own, or it belongs to the word of the other one (`allWords_cons_cons`); both
times the words begin where they should (`cons_word`, `cons_attach`). By induction on the
identifier, the words of the program are the split.

The words of an identifier are those of its split, less the last one if it marks a version
(`EndsInMark`): the rule looks at everything that follows a run, so it concerns only the last run
(`exists_last_run`).

## Main results

* `IsSplit.unique`: there is one split.
* `endsInMark_iff`: when the last word is a version mark.
* `written_eq`: the words that are kept.
* `exists_split_tokenize_eq`: the words of an identifier.
-/

namespace Excerpt.Words

open Text

/-! ### Runs -/

/-- No character is a letter. -/
def IsGap (cs : List Char) : Prop :=
  ∀ c ∈ cs, isAlphabetic c = false

/-- All characters are letters, and there are some. -/
structure IsRun (cs : List Char) : Prop where
  ne_nil : cs ≠ []
  letters : ∀ c ∈ cs, isAlphabetic c = true

/-- A run that stands before the text ends there. -/
def EndsRun (rest : List Char) : Prop :=
  ∀ d ∈ rest.head?, isAlphabetic d = false

section Runs

variable {c : Char} {cs gap run rest : List Char}

/-- A run ends where a gap begins. -/
theorem IsGap.endsRun (h : IsGap gap) : EndsRun gap := fun d hd =>
  h d (List.mem_of_head? hd)

/-- A run ends where the identifier does. -/
theorem endsRun_nil : EndsRun [] := by
  simp [EndsRun]

private theorem isRun_singleton (hc : isAlphabetic c = true) : IsRun [c] :=
  ⟨List.cons_ne_nil _ _, by simpa using hc⟩

/-- A letter before a run belongs to it. -/
theorem IsRun.cons (h : IsRun run) (hc : isAlphabetic c = true) : IsRun (c :: run) :=
  ⟨List.cons_ne_nil _ _, List.forall_mem_cons.mpr ⟨hc, h.letters⟩⟩

private theorem isRun_cons_takeWhile (hc : isAlphabetic c = true) (cs : List Char) :
    IsRun (c :: cs.takeWhile isAlphabetic) :=
  ⟨List.cons_ne_nil _ _, List.forall_mem_cons.mpr ⟨hc, fun _ hx => List.mem_takeWhile_imp hx⟩⟩

private theorem endsRun_dropWhile (cs : List Char) : EndsRun (cs.dropWhile isAlphabetic) := by
  intro d hd
  have hnot := List.head?_dropWhile_not isAlphabetic cs
  rw [Option.mem_def.mp hd] at hnot
  simpa using hnot

private theorem runs_cons_of_gap (hc : isAlphabetic c = false) : runs (c :: cs) = runs cs :=
  if_neg (by simp [hc])

private theorem runs_gap_append (hgap : IsGap gap) : runs (gap ++ cs) = runs cs := by
  induction gap with
  | nil => rfl
  | cons c gap ih =>
    obtain ⟨hc, hgap⟩ := List.forall_mem_cons.mp hgap
    rw [List.cons_append, runs_cons_of_gap hc, ih hgap]

/-- There are no runs in a gap. -/
theorem runs_eq_nil_of_gap (hgap : IsGap gap) : runs gap = [] := by
  have happend : runs (gap ++ []) = runs [] := runs_gap_append hgap
  rwa [List.append_nil] at happend

private theorem runs_cons_of_last (hc : isAlphabetic c = true) (hcs : EndsRun cs) :
    runs (c :: cs) = ([c], cs) :: runs cs := by
  refine (if_pos hc).trans ?_
  cases cs with
  | nil => rfl
  | cons d cs =>
    have hd : isAlphabetic d = false := hcs d rfl
    cases hruns : runs (d :: cs) with
    | nil => rfl
    | cons r more => simp [hd]

private theorem runs_cons_cons {d : Char} {more : List (List Char × List Char)}
    (hc : isAlphabetic c = true) (hd : isAlphabetic d = true)
    (hruns : runs (d :: cs) = (run, rest) :: more) :
    runs (c :: d :: cs) = (c :: run, rest) :: more := by
  refine (if_pos hc).trans ?_
  simp [hruns, hd]

/-- Letters up to a character that is none are one run. -/
theorem runs_run_append (hrun : IsRun run) (hrest : EndsRun rest) :
    runs (run ++ rest) = (run, rest) :: runs rest := by
  obtain ⟨hne, hletters⟩ := hrun
  induction run with
  | nil => exact absurd rfl hne
  | cons c run ih =>
    obtain ⟨hc, hletters⟩ := List.forall_mem_cons.mp hletters
    cases run with
    | nil => exact runs_cons_of_last hc hrest
    | cons d run =>
      exact runs_cons_cons hc (hletters d (.head _)) (ih (List.cons_ne_nil _ _) hletters)

/-- An identifier is a sequence of runs, with gaps around them. -/
theorem runs_induction {P : List Char → Prop} (gap : ∀ cs, IsGap cs → P cs)
    (run : ∀ lead run rest, IsGap lead → IsRun run → EndsRun rest → P rest →
      P (lead ++ (run ++ rest)))
    (name : List Char) : P name := by
  -- On the length: what follows the first run is shorter than the whole.
  induction h : name.length using Nat.strongRecOn generalizing name with
  | ind n ih =>
    subst h
    have hlead : IsGap (name.takeWhile (!isAlphabetic ·)) := by
      intro c hc
      simpa using List.mem_takeWhile_imp hc
    cases hletters : name.dropWhile (!isAlphabetic ·) with
    | nil =>
      rw [List.takeWhile_eq_self_iff.mpr (List.dropWhile_eq_nil_iff.mp hletters)] at hlead
      exact gap name hlead
    | cons d more =>
      have hd : isAlphabetic d = true := by
        simpa [hletters] using List.head?_dropWhile_not (!isAlphabetic ·) name
      have hname : name.takeWhile (!isAlphabetic ·) ++ d :: more = name := by
        rw [← hletters, List.takeWhile_append_dropWhile]
      have hlength : (more.dropWhile isAlphabetic).length < name.length := by
        have hle : (more.dropWhile isAlphabetic).length ≤ more.length :=
          (List.dropWhile_sublist _).length_le
        rw [← hname, List.length_append, List.length_cons]
        omega
      have hstep :=
        run _ _ _ hlead (isRun_cons_takeWhile hd more) (endsRun_dropWhile more) (ih _ hlength _ rfl)
      rwa [List.cons_append, List.takeWhile_append_dropWhile, hname] at hstep

end Runs

/-! ### Words of a run -/

/-- Put a letter before the first word. -/
def attach (c : Char) : List (List Char) → List (List Char)
  | [] => [[c]]
  | word :: words => (c :: word) :: words

/-- A run has a word. -/
theorem camelWords_cons_ne_nil (c : Char) (run : List Char) : camelWords (c :: run) ≠ [] := by
  cases run with
  | nil => simp [camelWords]
  | cons d rest =>
    rw [camelWords]
    split
    · simp
    · split <;> simp

/-- The words of a run, letter by letter. -/
theorem camelWords_cons_cons (c d : Char) (rest : List Char) :
    camelWords (c :: d :: rest) =
      if startsWord c d rest.head? then [c] :: camelWords (d :: rest)
        else attach c (camelWords (d :: rest)) := by
  have hne := camelWords_cons_ne_nil d rest
  rw [camelWords]
  cases hwords : camelWords (d :: rest) with
  | nil => exact absurd hwords hne
  | cons word words => rfl

/-! ### Words of all runs -/

/-- The words of an identifier, a version mark included. -/
def allWords (name : List Char) : List (List Char) :=
  (runs name).flatMap fun (run, _) => camelWords run

section AllWords

variable {c d : Char} {cs rest : List Char}

private theorem allWords_cons_of_gap (hc : isAlphabetic c = false) :
    allWords (c :: cs) = allWords cs := by
  rw [allWords, runs_cons_of_gap hc, allWords]

private theorem allWords_gap_append {gap : List Char} (hgap : IsGap gap) :
    allWords (gap ++ cs) = allWords cs := by
  rw [allWords, runs_gap_append hgap, allWords]

private theorem allWords_run_append {run : List Char} (hrun : IsRun run) (hrest : EndsRun rest) :
    allWords (run ++ rest) = camelWords run ++ allWords rest := by
  rw [allWords, runs_run_append hrun hrest, List.flatMap_cons, allWords]

private theorem allWords_cons_of_last (hc : isAlphabetic c = true) (hcs : EndsRun cs) :
    allWords (c :: cs) = [c] :: allWords cs :=
  allWords_run_append (isRun_singleton hc) hcs

/-- A letter before another one is a word, or belongs to the word of the other one. -/
theorem allWords_cons_cons (hc : isAlphabetic c = true) (hd : isAlphabetic d = true) :
    allWords (c :: d :: rest) =
      if startsWord c d (rest.head?.filter isAlphabetic) then [c] :: allWords (d :: rest)
      else attach c (allWords (d :: rest)) := by
  -- Both letters are in the same run, whose words are known without and with `c`.
  have hrun := isRun_cons_takeWhile hd rest
  have hshort := allWords_run_append hrun (endsRun_dropWhile rest)
  have hlong := allWords_run_append (hrun.cons hc) (endsRun_dropWhile rest)
  rw [List.cons_append, List.takeWhile_append_dropWhile] at hshort
  rw [List.cons_append, List.cons_append, List.takeWhile_append_dropWhile, camelWords_cons_cons,
    List.head?_takeWhile] at hlong
  rw [hlong, hshort]
  split
  · rfl
  · cases hwords : camelWords (d :: rest.takeWhile isAlphabetic) with
    | nil => exact absurd hwords (camelWords_cons_ne_nil _ _)
    | cons word words => rfl

end AllWords

/-! ### Splits -/

/-- A word begins at the letter `c`, which stands between `before` and `after`. -/
inductive BeginsWord (before : Option Char) (c : Char) (after : Option Char) : Prop
  | first (hbefore : ∀ p ∈ before, isAlphabetic p = false)
  | afterLower (p : Char) (hp : p ∈ before) (hletter : isAlphabetic p = true)
      (hlower : isLower p = true)
    (hupper : isUpper c = true)
  | beforeLower (p n : Char) (hp : p ∈ before) (hletter : isAlphabetic p = true)
      (hupper : isUpper p = true)
    (hupper' : isUpper c = true) (hn : n ∈ after) (hletter' : isAlphabetic n = true)
      (hlower : isLower n = true)

/-- One of the words begins right after the given letters. -/
def BeginsAfter (words : List (List Char)) (letters : List Char) : Prop :=
  ∃ us vs, words = us ++ vs ∧ vs ≠ [] ∧ us.flatten = letters

/-- The words have all letters of an identifier, and they begin where words do. -/
structure IsSplit (name : List Char) (words : List (List Char)) : Prop where
  ne_nil : ∀ word ∈ words, word ≠ []
  flatten : words.flatten = name.filter isAlphabetic
  begins : ∀ before c after, name = before ++ c :: after → isAlphabetic c = true →
    (BeginsAfter words (before.filter isAlphabetic) ↔ BeginsWord before.getLast? c after.head?)

section Splits

variable {c d p : Char} {cs rest word letters name : List Char} {words : List (List Char)}

private theorem beginsAfter_nil (h : words ≠ []) : BeginsAfter words [] :=
  ⟨[], words, rfl, h, rfl⟩

private theorem beginsAfter_singleton_cons :
    BeginsAfter ([c] :: words) (c :: letters) ↔ BeginsAfter words letters := by
  constructor
  · rintro ⟨us, vs, hsplit, hvs, hletters⟩
    cases us with
    | nil => cases hletters
    | cons u us =>
      obtain ⟨rfl, rfl⟩ := List.cons.inj hsplit
      exact ⟨us, vs, rfl, hvs, (List.cons.inj hletters).2⟩
  · rintro ⟨us, vs, rfl, hvs, rfl⟩
    exact ⟨[c] :: us, vs, rfl, hvs, rfl⟩

/-- A letter put before the first word moves all other words, but no word begins after this letter
alone. -/
theorem beginsAfter_cons_cons (hword : word ≠ []) :
    BeginsAfter ((c :: word) :: words) (c :: letters) ↔
      letters ≠ [] ∧ BeginsAfter (word :: words) letters := by
  constructor
  · rintro ⟨us, vs, hsplit, hvs, hletters⟩
    cases us with
    | nil => cases hletters
    | cons u us =>
      obtain ⟨rfl, rfl⟩ := List.cons.inj hsplit
      obtain rfl : word ++ us.flatten = letters := (List.cons.inj hletters).2
      exact ⟨List.append_ne_nil_of_left_ne_nil hword _, word :: us, vs, rfl, hvs, rfl⟩
  · rintro ⟨hne, us, vs, hsplit, hvs, rfl⟩
    cases us with
    | nil => exact absurd rfl hne
    | cons u us =>
      obtain ⟨rfl, rfl⟩ := List.cons.inj hsplit
      exact ⟨(c :: word) :: us, vs, rfl, hvs, rfl⟩

/-- Between letters of a run, words begin where the rule says so. -/
theorem beginsWord_some_iff (hp : isAlphabetic p = true) (after : Option Char) :
    BeginsWord (some p) c after ↔ startsWord p c (after.filter isAlphabetic) = true := by
  simp only [startsWord, Bool.and_eq_true, Bool.or_eq_true, Option.any_eq_true,
    Option.filter_eq_some_iff]
  constructor
  · rintro (hgap | ⟨q, hq, -, hlower, hupper⟩ | ⟨q, n, hq, -, hupper, hupper', hn, hletter, hlower⟩)
    · exact absurd hp (by simp [hgap p rfl])
    · obtain rfl : p = q := Option.some.inj hq
      exact ⟨hupper, .inl hlower⟩
    · obtain rfl : p = q := Option.some.inj hq
      exact ⟨hupper', .inr ⟨hupper, n, ⟨hn, hletter⟩, hlower⟩⟩
  · rintro ⟨hupper, hlower | ⟨hupper', n, ⟨hn, hletter⟩, hlower⟩⟩
    · exact .afterLower p rfl hp hlower hupper
    · exact .beforeLower p n rfl hp hupper' hupper hn hletter hlower

private theorem isSplit_nil : IsSplit [] [] where
  ne_nil := by simp
  flatten := rfl
  begins before c after h := by simp at h

namespace IsSplit

private theorem cons_of_gap (h : IsSplit cs words) (hc : isAlphabetic c = false) :
    IsSplit (c :: cs) words where
  ne_nil := h.ne_nil
  flatten := by simp [h.flatten, hc]
  begins before x after hname hx := by
    cases before with
    | nil =>
      obtain ⟨rfl, -⟩ := List.cons.inj hname
      exact absurd hx (by simp [hc])
    | cons b before =>
      obtain ⟨rfl, rfl⟩ := List.cons.inj hname
      rw [List.filter_cons_of_neg (by simp [hc]), h.begins before x after rfl hx]
      cases before with
      | nil => exact iff_of_true (.first (by simp)) (.first (by simpa using hc))
      | cons b' before => rfl

/-- A letter is a word if the next one, should there be any, begins a word. -/
theorem cons_word (h : IsSplit cs words) (hc : isAlphabetic c = true)
    (hnext : ∀ d rest, cs = d :: rest → isAlphabetic d = true → BeginsWord (some c) d rest.head?) :
    IsSplit (c :: cs) ([c] :: words) where
  ne_nil := List.forall_mem_cons.mpr ⟨List.cons_ne_nil _ _, h.ne_nil⟩
  flatten := by simp [h.flatten, hc]
  begins before x after hname hx := by
    cases before with
    | nil => exact iff_of_true (beginsAfter_nil (List.cons_ne_nil _ _)) (.first (by simp))
    | cons b before =>
      obtain ⟨rfl, rfl⟩ := List.cons.inj hname
      rw [List.filter_cons_of_pos hc, beginsAfter_singleton_cons, h.begins before x after rfl hx]
      cases before with
      | nil => exact iff_of_true (.first (by simp)) (hnext x after rfl hx)
      | cons b' before => rfl

/-- A letter belongs to the word of the next one if that does not begin a word. -/
theorem cons_attach (h : IsSplit (d :: rest) words) (hc : isAlphabetic c = true)
    (hd : isAlphabetic d = true) (hnext : ¬ BeginsWord (some c) d rest.head?) :
    IsSplit (c :: d :: rest) (attach c words) := by
  cases words with
  | nil =>
    have hnil := h.flatten
    rw [List.filter_cons_of_pos hd] at hnil
    cases hnil
  | cons word words =>
    have hword : word ≠ [] := h.ne_nil word (.head _)
    refine ⟨?_, ?_, ?_⟩
    · exact List.forall_mem_cons.mpr ⟨List.cons_ne_nil _ _, fun w hw => h.ne_nil w (.tail _ hw)⟩
    · rw [List.filter_cons_of_pos hc, ← h.flatten]
      rfl
    · intro before x after hname hx
      cases before with
      | nil => exact iff_of_true (beginsAfter_nil (List.cons_ne_nil _ _)) (.first (by simp))
      | cons b before =>
        obtain ⟨rfl, hrest⟩ := List.cons.inj hname
        rw [List.filter_cons_of_pos hc, attach, beginsAfter_cons_cons hword]
        cases before with
        | nil =>
          -- the second letter does not begin a word, for the first one is attached to it
          obtain ⟨rfl, rfl⟩ := List.cons.inj hrest
          exact iff_of_false (fun hne => hne.1 rfl) hnext
        | cons b' before =>
          obtain ⟨rfl, rfl⟩ := List.cons.inj hrest
          have hne : (d :: before).filter isAlphabetic ≠ [] := by simp [hd]
          rw [h.begins (d :: before) x after rfl hx, and_iff_right hne]
          rfl

end IsSplit

private theorem isSplit_allWords (name : List Char) : IsSplit name (allWords name) := by
  induction name with
  | nil => exact isSplit_nil
  | cons c cs ih =>
    -- as in the recursion: a gap, the last letter of a run, or a letter before another one
    cases hc : isAlphabetic c with
    | false =>
      rw [allWords_cons_of_gap hc]
      exact ih.cons_of_gap hc
    | true =>
      cases cs with
      | nil =>
        rw [allWords_cons_of_last hc endsRun_nil]
        exact ih.cons_word hc (by simp)
      | cons d rest =>
        cases hd : isAlphabetic d with
        | false =>
          rw [allWords_cons_of_last hc (by simpa [EndsRun] using hd)]
          refine ih.cons_word hc fun x xs hx hletter => ?_
          obtain ⟨rfl, -⟩ := List.cons.inj hx
          exact absurd hletter (by simp [hd])
        | true =>
          rw [allWords_cons_cons hc hd]
          split
          · next hstarts =>
            refine ih.cons_word hc fun x xs hx _ => ?_
            obtain ⟨rfl, rfl⟩ := List.cons.inj hx
            exact (beginsWord_some_iff hc _).mpr hstarts
          · next hstarts =>
            exact ih.cons_attach hc hd fun hbegins =>
              hstarts ((beginsWord_some_iff hc _).mp hbegins)

/-! ### Splits are unique -/

private theorem beginsAfter_append_cons (hword : word ≠ []) :
    BeginsAfter (word :: words) (word ++ letters) ↔ BeginsAfter words letters := by
  constructor
  · rintro ⟨us, vs, hsplit, hvs, hletters⟩
    cases us with
    | nil => exact absurd (List.append_eq_nil_iff.mp hletters.symm).1 hword
    | cons u us =>
      obtain ⟨rfl, rfl⟩ := List.cons.inj hsplit
      exact ⟨us, vs, rfl, hvs, List.append_cancel_left hletters⟩
  · rintro ⟨us, vs, rfl, hvs, rfl⟩
    exact ⟨word :: us, vs, rfl, hvs, rfl⟩

/-- The first word is not longer than another first word, since it ends where the second word
begins. -/
theorem length_le_of_beginsAfter {word' : List Char} {words' : List (List Char)}
    (hword' : word' ≠ []) (hflatten : (word :: words).flatten = (word' :: words').flatten)
    (hbegins : ∀ letters, BeginsAfter (word' :: words') letters →
      BeginsAfter (word :: words) letters) :
    word.length ≤ word'.length := by
  by_cases hwords' : words' = []
  · subst hwords'
    rw [List.flatten_cons, List.flatten_singleton] at hflatten
    rw [← hflatten, List.length_append]
    omega
  · obtain ⟨us, vs, hsplit, -, hletters⟩ :=
      hbegins word' ⟨[word'], words', rfl, hwords', List.flatten_singleton⟩
    cases us with
    | nil => exact absurd hletters.symm hword'
    | cons u us =>
      obtain ⟨rfl, -⟩ := List.cons.inj hsplit
      rw [← hletters, List.flatten_cons, List.length_append]
      omega

private theorem not_beginsAfter_nil : ¬ BeginsAfter [] letters := by
  rintro ⟨us, vs, hsplit, hvs, -⟩
  exact hvs (List.append_eq_nil_iff.mp hsplit.symm).2

/-- Words that are not empty are known from their letters and from where they begin. -/
theorem eq_of_beginsAfter_iff {words' : List (List Char)} (hne : ∀ w ∈ words, w ≠ [])
    (hne' : ∀ w ∈ words', w ≠ []) (hflatten : words.flatten = words'.flatten)
    (hbegins : ∀ letters, BeginsAfter words letters ↔ BeginsAfter words' letters) :
    words = words' := by
  induction words generalizing words' with
  | nil =>
    cases words' with
    | nil => rfl
    | cons word' words' =>
      exact absurd ((hbegins []).mpr (beginsAfter_nil (List.cons_ne_nil _ _))) not_beginsAfter_nil
  | cons word words ih =>
    cases words' with
    | nil =>
      exact absurd ((hbegins []).mp (beginsAfter_nil (List.cons_ne_nil _ _))) not_beginsAfter_nil
    | cons word' words' =>
      -- The first words begin the same letters, so it is enough that they are equally long.
      obtain ⟨hword, hmore⟩ := List.forall_mem_cons.mp hne
      obtain ⟨hword', hmore'⟩ := List.forall_mem_cons.mp hne'
      have hlength : word.length = word'.length := Nat.le_antisymm
        (length_le_of_beginsAfter hword' hflatten fun letters => (hbegins letters).mpr)
        (length_le_of_beginsAfter hword hflatten.symm fun letters => (hbegins letters).mp)
      obtain ⟨rfl, hrest⟩ := List.append_inj hflatten hlength
      refine congrArg (word :: ·) (ih hmore hmore' hrest fun letters => ?_)
      rw [← beginsAfter_append_cons hword, hbegins, beginsAfter_append_cons hword]

/-- Each letter of an identifier has a place in it. -/
theorem exists_of_filter_eq {more : List Char}
    (h : name.filter isAlphabetic = letters ++ c :: more) :
    ∃ before after, name = before ++ c :: after ∧ isAlphabetic c = true ∧
      before.filter isAlphabetic = letters := by
  obtain ⟨before, rest, rfl, hbefore, hrest⟩ := List.filter_eq_append_iff.mp h
  obtain ⟨gap, after, rfl, hgap, hc, -⟩ := List.filter_eq_cons_iff.mp hrest
  refine ⟨before ++ gap, after, by simp, hc, ?_⟩
  rw [List.filter_append, hbefore, List.filter_eq_nil_iff.mpr hgap, List.append_nil]

private theorem IsSplit.beginsAfter_of (h : IsSplit name words) {words' : List (List Char)}
    (h' : IsSplit name words') (hbegins : BeginsAfter words letters) :
    BeginsAfter words' letters := by
  obtain ⟨us, vs, rfl, hvs, rfl⟩ := id hbegins
  cases vs with
  | nil => exact absurd rfl hvs
  | cons v vs =>
    cases v with
    | nil => exact absurd rfl (h.ne_nil [] (by simp))
    | cons c v =>
      have hletters := h.flatten.symm
      rw [List.flatten_append, List.flatten_cons, List.cons_append] at hletters
      obtain ⟨before, after, hname, hc, hbefore⟩ := exists_of_filter_eq hletters
      rw [← hbefore] at hbegins ⊢
      exact (h'.begins before c after hname hc).mpr ((h.begins before c after hname hc).mp hbegins)

/-- An identifier has at most one split. -/
theorem IsSplit.unique (h : IsSplit name words) {words' : List (List Char)}
    (h' : IsSplit name words') :
    words = words' :=
  eq_of_beginsAfter_iff h.ne_nil h'.ne_nil (h.flatten.trans h'.flatten.symm) fun _ =>
    ⟨h.beginsAfter_of h', h'.beginsAfter_of h⟩

end Splits

/-! ### Version marks -/

/-- The last word is a single upper-case letter inside a run, and what follows it are digits and
underscores, first a digit. -/
def EndsInMark (name : List Char) (words : List (List Char)) : Prop :=
  ∃ before p c after, name = before ++ p :: c :: after ∧ isAlphabetic p = true ∧
    [c] ∈ words.getLast? ∧
    isUpper c = true ∧ (∃ d ∈ after.head?, d.isDigit = true) ∧
      ∀ d ∈ after, d.isDigit = true ∨ d = '_'

/-- The run is the last one of an identifier. -/
structure IsLastRun (name before run rest : List Char) : Prop where
  name_eq : name = before ++ (run ++ rest)
  gap_before : ∀ p ∈ before.getLast?, isAlphabetic p = false
  isRun : IsRun run
  gap_after : IsGap rest

section Marks

variable {c : Char} {name before run rest : List Char}

private theorem not_isAlphabetic_of_digit (h : c.isDigit = true ∨ c = '_') :
    isAlphabetic c = false := by
  rcases h with h | rfl
  · have hascii : c.toNat < 128 := Nat.lt_of_le_of_lt (Char.isDigit_iff_toNat.mp h).2 (by decide)
    rw [isAlphabetic, if_pos hascii]
    unfold Char.isAlpha Char.isUpper Char.isLower
    unfold Char.isDigit at h
    grind
  · decide

/-- Digits and underscores follow up to the end, and a digit comes first. -/
theorem endsInDigits_iff :
    endsInDigits rest = true ↔ (∃ d ∈ rest.head?, d.isDigit = true) ∧ ∀ d ∈ rest, d.isDigit = true ∨
      d = '_' := by
  simp only [endsInDigits, Bool.and_eq_true, Option.any_eq_true, List.all_eq_true,
    Bool.or_eq_true, beq_iff_eq, Option.mem_def]

/-- No letter is among the digits at the end. -/
theorem isGap_of_endsInDigits (h : endsInDigits rest = true) : IsGap rest := fun d hd =>
  not_isAlphabetic_of_digit ((endsInDigits_iff.mp h).2 d hd)

/-- The rule for version marks says nothing about a run that is not the last one. -/
theorem runWords_of_letter (hc : c ∈ rest) (hletter : isAlphabetic c = true) :
    runWords run rest = camelWords run := by
  have hdigits : endsInDigits rest = false := by
    refine Bool.eq_false_iff.mpr fun h => ?_
    exact absurd hletter (by simp [isGap_of_endsInDigits h c hc])
  rw [runWords, hdigits]
  rfl

/-- A gap before an identifier does not matter. -/
theorem written_gap_append {gap : List Char} (hgap : IsGap gap) :
    written (gap ++ rest) = written rest := by
  rw [written, runs_gap_append hgap, written]

/-- The first run of an identifier has its words, and the rest has its own. -/
theorem written_run_append (hrun : IsRun run) (hrest : EndsRun rest) :
    written (run ++ rest) = runWords run rest ++ written rest := by
  rw [written, runs_run_append hrun hrest, List.flatMap_cons, written]

/-- All runs but the last one have their words, whatever the rule for version marks does at
the end. -/
theorem exists_last_run (hname : ∃ c ∈ name, isAlphabetic c = true) :
    ∃ words before run rest, IsLastRun name before run rest ∧
      allWords name = words ++ camelWords run ∧
      written name = words ++ runWords run rest := by
  induction name using runs_induction with
  | gap cs hgap =>
    obtain ⟨c, hc, hletter⟩ := hname
    exact absurd hletter (by simp [hgap c hc])
  | run lead run rest hlead hrun hrest ih =>
    rw [allWords_gap_append hlead, allWords_run_append hrun hrest, written_gap_append hlead,
      written_run_append hrun hrest]
    by_cases hmore : ∃ c ∈ rest, isAlphabetic c = true
    · obtain ⟨words, before, run', rest', hlast, hall, hwritten⟩ := ih hmore
      obtain ⟨c, hc, hletter⟩ := hmore
      -- The last run does not follow directly on this one.
      have hbefore : before ≠ [] := by
        rintro rfl
        obtain ⟨d, more, rfl⟩ := List.exists_cons_of_ne_nil hlast.isRun.ne_nil
        have hd : isAlphabetic d = false := hrest d (by rw [hlast.name_eq]; rfl)
        exact absurd (hlast.isRun.letters d (.head _)) (by simp [hd])
      refine ⟨camelWords run ++ words, lead ++ (run ++ before), run', rest',
        ⟨?_, ?_, hlast.isRun, hlast.gap_after⟩, ?_, ?_⟩
      · rw [List.append_assoc, List.append_assoc, ← hlast.name_eq]
      · rw [← List.append_assoc, List.getLast?_append_of_ne_nil _ hbefore]
        exact hlast.gap_before
      · rw [hall, List.append_assoc]
      · rw [runWords_of_letter hc hletter, hwritten, List.append_assoc]
    · have hgap : IsGap rest := by
        simpa [IsGap] using hmore
      have hruns : runs rest = [] := runs_eq_nil_of_gap hgap
      refine ⟨[], lead, run, rest, ⟨rfl, ?_, hrun, hgap⟩, ?_, ?_⟩
      · exact fun p hp => hlead p (List.mem_of_getLast? hp)
      · simp [allWords, hruns]
      · simp [written, hruns]

/-- An identifier has only one last letter. -/
theorem append_cons_inj_of_gap {xs ys xs' ys' : List Char} {c' : Char}
    (h : xs ++ c :: ys = xs' ++ c' :: ys') (hc : isAlphabetic c = true)
    (hc' : isAlphabetic c' = true) (hys : IsGap ys) (hys' : IsGap ys') :
    xs = xs' ∧ ys = ys' := by
  rcases List.append_eq_append_iff.mp h with ⟨as, rfl, has⟩ | ⟨bs, rfl, hbs⟩
  · cases as with
    | nil => exact ⟨(List.append_nil _).symm, (List.cons.inj has).2⟩
    | cons a as =>
      obtain ⟨-, rfl⟩ := List.cons.inj has
      exact absurd hc' (by simp [hys c' (by simp)])
  · cases bs with
    | nil => exact ⟨List.append_nil _, (List.cons.inj hbs).2.symm⟩
    | cons b bs =>
      obtain ⟨-, rfl⟩ := List.cons.inj hbs
      exact absurd hc (by simp [hys' c (by simp)])

private theorem IsRun.isSplit_camelWords (h : IsRun run) : IsSplit run (camelWords run) := by
  have hwords : allWords run = camelWords run := by
    have happend : allWords (run ++ []) = camelWords run ++ allWords [] :=
      allWords_run_append h endsRun_nil
    simpa [allWords, runs] using happend
  exact hwords ▸ isSplit_allWords run

private theorem IsRun.flatten_camelWords (h : IsRun run) : (camelWords run).flatten = run := by
  rw [h.isSplit_camelWords.flatten, List.filter_eq_self.mpr h.letters]

private theorem IsRun.camelWords_ne_nil (h : IsRun run) : camelWords run ≠ [] := by
  obtain ⟨c, cs, rfl⟩ := List.exists_cons_of_ne_nil h.ne_nil
  exact camelWords_cons_ne_nil c cs

private theorem isVersionMark_iff {word : List Char} :
    isVersionMark word = true ↔ ∃ c, word = [c] ∧ isUpper c = true := by
  cases word with
  | nil => simp [isVersionMark]
  | cons c cs => cases cs <;> simp [isVersionMark]

namespace IsLastRun

variable {us : List (List Char)}

/-- The place of a last word of one letter. -/
theorem name_eq_of_camelWords (h : IsLastRun name before run rest)
    (hus : camelWords run = us ++ [[c]]) :
    name = before ++ us.flatten ++ c :: rest ∧ isAlphabetic c = true := by
  have hrun : us.flatten ++ [c] = run := by
    rw [← h.isRun.flatten_camelWords, hus, List.flatten_append, List.flatten_singleton]
  refine ⟨?_, h.isRun.letters c (by simp [← hrun])⟩
  rw [h.name_eq, ← hrun]
  simp

/-- A last word is not the first one of its run exactly if there is a letter before it. -/
theorem ne_nil_iff (h : IsLastRun name before run rest) (hus : camelWords run = us ++ [[c]]) :
    us ≠ [] ↔ ∃ init p, before ++ us.flatten = init ++ [p] ∧ isAlphabetic p = true := by
  constructor
  · intro hne
    obtain ⟨u, hu⟩ := List.exists_mem_of_ne_nil us hne
    have hfirst : us.flatten ≠ [] :=
      List.flatten_ne_nil_iff.mpr ⟨u, hu, h.isRun.isSplit_camelWords.ne_nil u (by simp [hus, hu])⟩
    have hletter : isAlphabetic (us.flatten.getLast hfirst) = true := by
      refine h.isRun.letters _ ?_
      rw [← h.isRun.flatten_camelWords, hus, List.flatten_append]
      exact List.mem_append_left _ (List.getLast_mem hfirst)
    refine ⟨before ++ us.flatten.dropLast, us.flatten.getLast hfirst, ?_, hletter⟩
    rw [List.append_assoc, List.dropLast_concat_getLast]
  · rintro ⟨init, p, hinit, hp⟩ rfl
    rw [List.flatten_nil, List.append_nil] at hinit
    exact absurd hp (by simp [h.gap_before p (by simp [hinit])])

/-- The rule looks at the last run and at what follows it. -/
theorem endsInMark_iff (h : IsLastRun name before run rest) (words : List (List Char)) :
    EndsInMark name (words ++ camelWords run) ↔
      (endsInDigits rest && decide (1 < (camelWords run).length) &&
        (camelWords run).getLast?.any isVersionMark) =
        true := by
  rw [EndsInMark, List.getLast?_append_of_ne_nil _ h.isRun.camelWords_ne_nil]
  simp only [Bool.and_eq_true, decide_eq_true_eq, Option.any_eq_true, isVersionMark_iff]
  constructor
  · rintro ⟨init, p, c, after, hname, hp, hlast, hupper, hdigit, hdigits⟩
    obtain ⟨us, hus⟩ := List.getLast?_eq_some_iff.mp hlast
    obtain ⟨hplace, hc⟩ := h.name_eq_of_camelWords hus
    have hrest : endsInDigits after = true := endsInDigits_iff.mpr ⟨hdigit, hdigits⟩
    have hplaces : before ++ us.flatten ++ c :: rest = (init ++ [p]) ++ c :: after := by
      rw [← hplace, hname, List.append_assoc, List.singleton_append]
    obtain ⟨hinit, rfl⟩ :=
      append_cons_inj_of_gap hplaces hc hc h.gap_after (isGap_of_endsInDigits hrest)
    have hlength : 0 < us.length :=
      List.length_pos_iff.mpr ((h.ne_nil_iff hus).mpr ⟨init, p, hinit, hp⟩)
    refine ⟨⟨hrest, ?_⟩, [c], hlast, c, rfl, hupper⟩
    rw [hus, List.length_append, List.length_singleton]
    omega
  · rintro ⟨⟨hrest, hlength⟩, _, hlast, c, rfl, hupper⟩
    obtain ⟨us, hus⟩ := List.getLast?_eq_some_iff.mp hlast
    obtain ⟨hplace, -⟩ := h.name_eq_of_camelWords hus
    have hne : us ≠ [] := by
      rintro rfl
      simp [hus] at hlength
    obtain ⟨init, p, hinit, hp⟩ := (h.ne_nil_iff hus).mp hne
    obtain ⟨hdigit, hdigits⟩ := endsInDigits_iff.mp hrest
    refine ⟨init, p, c, rest, ?_, hp, hlast, hupper, hdigit, hdigits⟩
    rw [hplace, hinit, List.append_assoc, List.singleton_append]

end IsLastRun

/-- The words that are kept are all words of the identifier, or all but a version mark. -/
theorem written_eq (name : List Char) :
    EndsInMark name (allWords name) ∧ written name = (allWords name).dropLast ∨
      ¬ EndsInMark name (allWords name) ∧ written name = allWords name := by
  by_cases hname : ∃ c ∈ name, isAlphabetic c = true
  · obtain ⟨words, before, run, rest, hlast, hall, hwritten⟩ := exists_last_run hname
    rw [hall, hwritten, hlast.endsInMark_iff, runWords]
    split
    · next hmark => exact .inl ⟨hmark,
        (List.dropLast_append_of_ne_nil hlast.isRun.camelWords_ne_nil).symm⟩
    · next hmark => exact .inr ⟨hmark, rfl⟩
  · have hruns : runs name = [] := runs_eq_nil_of_gap (by simpa [IsGap] using hname)
    refine .inr ⟨?_, by simp [written, allWords, hruns]⟩
    rintro ⟨-, -, c, -, -, -, hlast, -⟩
    simp [allWords, hruns] at hlast

end Marks

/-- **Words of an identifier.** An identifier has exactly one split into words. Its words in lower
case are those of the split, less the last one exactly if it is a version mark. -/
theorem exists_split_tokenize_eq (name : String) :
    ∃ words kept, (∀ words', IsSplit name.toList words' ↔ words' = words) ∧
      (EndsInMark name.toList words ∧ kept = words.dropLast ∨ ¬ EndsInMark name.toList words ∧
        kept = words) ∧
      tokenize name = kept.map fun word => String.ofList (lowercase word) := by
  have hsplit := isSplit_allWords name.toList
  refine ⟨allWords name.toList, written name.toList, fun words' => ⟨fun h => h.unique hsplit, ?_⟩,
    written_eq name.toList, ?_⟩
  · rintro rfl
    exact hsplit
  · rw [tokenize, words, List.map_map]
    rfl

end Excerpt.Words
