import Excerpt.Proofs.Lines
import Excerpt.Proofs.WordStarts

/-!
# Spellings of a list of words

The same words can be spelled in many ways: with characters between them that are no letters, in
lower case or in capitals, or one right after the other with a capital at the beginning of each
word but perhaps the first. Words are read back from each of these spellings, also with a version
mark at the end (`tokenize_of_isSpelling`).

Where capitals alone separate words, all words but the first need two letters: `aBC` is `a`, `bc`.
With gaps between them, words of one letter are no problem.

An identifier is cut into runs of letters, and each run into words where a capital begins one. So
the proof has two halves. Words with gaps between them are runs, each a single word in one case
(`written_of_joined`). Words without gaps are a single run, which is cut exactly at their
beginnings (`written_append_capitalized`), since a capital that a small letter follows begins a
word after any letter. In both cases the version mark at the end is dropped, unless it is the only
word.

## Main results

* `camelWords_append`: a run of letters is cut where a word begins.
* `written_of_joined`, `written_append_capitalized`: words with and without gaps.
* `tokenize_of_isSpelling`: words are read back from their spellings.
-/

namespace Excerpt.Words

open Text

/-! ### Words in lower case -/

/-- A word of lower-case ASCII letters. -/
structure LowerWord where
  letters : List Char
  ne_nil : letters ≠ []
  lower : ∀ c ∈ letters, c.isLower = true

namespace LowerWord

/-- The word as a string. -/
def word (w : LowerWord) : String :=
  String.ofList w.letters

/-- The word in capitals. -/
def capitals (w : LowerWord) : List Char :=
  w.letters.map Char.toUpper

/-- The word with a capital at its beginning. -/
def capitalized (w : LowerWord) : List Char :=
  w.letters.modifyHead Char.toUpper

end LowerWord

/-! ### ASCII letters -/

section Ascii

variable {c : Char}

/-- Small letters of ASCII have codes below 128, for which the tables of Unicode are not asked. -/
private theorem toNat_lt_of_isLower (h : c.isLower = true) : c.toNat < 128 := by
  rw [isLower_iff] at h
  omega

private theorem toNat_lt_of_isUpper (h : c.isUpper = true) : c.toNat < 128 := by
  rw [isUpper_iff] at h
  omega

private theorem isAlphabetic_of_isLower (h : c.isLower = true) : isAlphabetic c = true := by
  rw [isAlphabetic, if_pos (toNat_lt_of_isLower h)]
  unfold Char.isAlpha
  rw [h, Bool.or_true]

private theorem isAlphabetic_of_isUpper (h : c.isUpper = true) : isAlphabetic c = true := by
  rw [isAlphabetic, if_pos (toNat_lt_of_isUpper h)]
  unfold Char.isAlpha
  rw [h, Bool.true_or]

private theorem isLower_of_isLower (h : c.isLower = true) : isLower c = true := by
  rw [isLower, if_pos (toNat_lt_of_isLower h), h]

private theorem isUpper_of_isUpper (h : c.isUpper = true) : isUpper c = true := by
  rw [isUpper, if_pos (toNat_lt_of_isUpper h), h]

private theorem not_isUpper_of_isLower (h : c.isLower = true) : isUpper c = false := by
  rw [isUpper, if_pos (toNat_lt_of_isLower h), Bool.eq_false_iff, ne_eq, isUpper_iff]
  rw [isLower_iff] at h
  omega

private theorem not_isLower_of_isUpper (h : c.isUpper = true) : isLower c = false := by
  rw [isLower, if_pos (toNat_lt_of_isUpper h), Bool.eq_false_iff, ne_eq, isLower_iff]
  rw [isUpper_iff] at h
  omega

private theorem isUpper_toUpper (h : c.isLower = true) : c.toUpper.isUpper = true := by
  rw [isLower_iff] at h
  rw [isUpper_iff, toNat_toUpper, if_pos h]
  omega

private theorem toLower_of_isLower (h : c.isLower = true) : c.toLower = c := by
  rw [isLower_iff] at h
  rw [← Char.toNat_inj, toNat_toLower, if_neg (by omega)]

/-- Capital letters are turned back into small ones. -/
theorem toLower_toUpper (c : Char) : c.toUpper.toLower = c.toLower := by
  rw [← Char.toNat_inj, toNat_toLower, toNat_toUpper, toNat_toLower]
  by_cases hlower : 97 ≤ c.toNat ∧ c.toNat ≤ 122
  · rw [if_pos hlower, if_pos (by omega), if_neg (by omega)]
    omega
  · rw [if_neg hlower]

/-- In ASCII, lower case is taken character by character: only a sigma asks for what is around
it. -/
private theorem lowercaseAfter_of_ascii (before : List Char) {cs : List Char}
    (h : ∀ c ∈ cs, c.toNat < 128) :
    lowercaseAfter before cs = cs.map Char.toLower := by
  induction cs generalizing before with
  | nil => rfl
  | cons c cs ih =>
    obtain ⟨hc, hcs⟩ := List.forall_mem_cons.mp h
    have hsigma : c ≠ 'Σ' := by
      rintro rfl
      exact absurd hc (by decide)
    rw [lowercaseAfter, if_neg hsigma, lowerChar, if_pos hc, ih (c :: before) hcs, List.map_cons,
      List.singleton_append]

end Ascii

/-! ### One word -/

namespace LowerWord

/-- The word in lower case, in capitals, or with a capital at its beginning. -/
inductive IsCasing (w : LowerWord) : List Char → Prop
  | lower : IsCasing w w.letters
  | capitals : IsCasing w w.capitals
  | capitalized : IsCasing w w.capitalized

variable {w : LowerWord} {u : List Char}

/-- A spelling of a word is not empty. -/
theorem IsCasing.ne_nil (h : w.IsCasing u) : u ≠ [] := by
  have := w.ne_nil
  cases h <;> simpa [LowerWord.capitals, LowerWord.capitalized]

/-- A word has a first letter, which is the one that a capital is made of. -/
private theorem exists_cons (w : LowerWord) :
    ∃ c cs, w.letters = c :: cs ∧ w.capitalized = c.toUpper :: cs := by
  obtain ⟨c, cs, hw⟩ := List.exists_cons_of_ne_nil w.ne_nil
  exact ⟨c, cs, hw, by rw [LowerWord.capitalized, hw, List.modifyHead_cons]⟩

/-- All letters of a spelling are ASCII letters. -/
theorem IsCasing.isLower_or_isUpper (h : w.IsCasing u) {c : Char} (hc : c ∈ u) :
    c.isLower = true ∨ c.isUpper = true := by
  cases h with
  | lower => exact .inl (w.lower c hc)
  | capitals =>
    obtain ⟨d, hd, rfl⟩ := List.mem_map.mp hc
    exact .inr (isUpper_toUpper (w.lower d hd))
  | capitalized =>
    obtain ⟨d, cs, hw, hcap⟩ := w.exists_cons
    rw [hcap] at hc
    rcases List.mem_cons.mp hc with rfl | hc
    · exact .inr (isUpper_toUpper (w.lower d (by simp [hw])))
    · exact .inl (w.lower c (by simp [hw, hc]))

/-- A spelling of a word is a run of letters. -/
theorem IsCasing.isRun (h : w.IsCasing u) : IsRun u :=
  ⟨h.ne_nil, fun _ hc =>
    (h.isLower_or_isUpper hc).elim isAlphabetic_of_isLower isAlphabetic_of_isUpper⟩

/-- In lower case, all spellings of a word are the word. -/
private theorem IsCasing.lowercase_eq (h : w.IsCasing u) : lowercase u = w.letters := by
  have hascii : ∀ c ∈ u, c.toNat < 128 := fun _ hc =>
    (h.isLower_or_isUpper hc).elim toNat_lt_of_isLower toNat_lt_of_isUpper
  have hlower : w.letters.map Char.toLower = w.letters :=
    (List.map_congr_left fun c hc => toLower_of_isLower (w.lower c hc)).trans (List.map_id _)
  rw [lowercase, lowercaseAfter_of_ascii [] hascii]
  cases h with
  | lower => exact hlower
  | capitals =>
    have hcomp : Char.toLower ∘ Char.toUpper = Char.toLower := funext toLower_toUpper
    rw [LowerWord.capitals, List.map_map, hcomp, hlower]
  | capitalized =>
    obtain ⟨d, cs, hw, hcap⟩ := w.exists_cons
    rw [hcap, List.map_cons, toLower_toUpper, ← List.map_cons, ← hw, hlower]

end LowerWord

/-- Without a capital after its first letter, a run is one word. -/
private theorem camelWords_eq_singleton_of_not_isUpper (c : Char) {cs : List Char}
    (h : ∀ d ∈ cs, isUpper d = false) :
    camelWords (c :: cs) = [c :: cs] := by
  induction cs generalizing c with
  | nil => rfl
  | cons d cs ih =>
    obtain ⟨hd, hcs⟩ := List.forall_mem_cons.mp h
    rw [camelWords_cons_cons, ih d hcs, startsWord, hd]
    rfl

/-- Without a small letter, a run is one word: no capital begins a word among capitals. -/
private theorem camelWords_eq_singleton_of_not_isLower (c : Char) {cs : List Char}
    (hc : isLower c = false) (h : ∀ d ∈ cs, isLower d = false) :
    camelWords (c :: cs) = [c :: cs] := by
  induction cs generalizing c with
  | nil => rfl
  | cons d cs ih =>
    obtain ⟨hd, hcs⟩ := List.forall_mem_cons.mp h
    have hafter : cs.head?.any isLower = false := by
      cases cs with
      | nil => rfl
      | cons e cs => exact hcs e (.head _)
    rw [camelWords_cons_cons, ih d hd hcs, startsWord, hc, hafter]
    simp [attach]

/-- A spelling of one word is one word, in whichever case it is spelled. -/
private theorem LowerWord.IsCasing.camelWords_eq {w : LowerWord} {u : List Char}
    (h : w.IsCasing u) : camelWords u = [u] := by
  obtain ⟨c, cs, hw, hcap⟩ := w.exists_cons
  have hlower : ∀ d ∈ c :: cs, d.isLower = true := hw ▸ w.lower
  -- a word begins at a capital, and there is none behind the first letter
  have htail : ∀ d ∈ cs, isUpper d = false :=
    fun d hd => not_isUpper_of_isLower (hlower d (.tail _ hd))
  cases h with
  | lower =>
    rw [hw]
    exact camelWords_eq_singleton_of_not_isUpper c htail
  | capitals =>
    have hcapital : ∀ d ∈ c :: cs, isLower d.toUpper = false := fun d hd =>
      not_isLower_of_isUpper (isUpper_toUpper (hlower d hd))
    rw [LowerWord.capitals, hw, List.map_cons]
    refine camelWords_eq_singleton_of_not_isLower _ (hcapital c (.head _)) fun d hd => ?_
    obtain ⟨e, he, rfl⟩ := List.mem_map.mp hd
    exact hcapital e (.tail _ he)
  | capitalized =>
    rw [hcap]
    exact camelWords_eq_singleton_of_not_isUpper c.toUpper htail

/-! ### Words with gaps between them -/

/-- The text consists of the words, with a gap between any two of them. -/
inductive Joined : List (List Char) → List Char → Prop
  | single (word : List Char) : Joined [word] word
  | cons (word gap : List Char) {words : List (List Char)} {text : List Char} (hne : gap ≠ [])
      (hgap : IsGap gap)
    (h : Joined words text) : Joined (word :: words) (word ++ (gap ++ text))

/-- Nothing is written in a gap. -/
private theorem written_eq_nil_of_gap {gap : List Char} (h : IsGap gap) : written gap = [] := by
  rw [written, runs_eq_nil_of_gap h, List.flatMap_nil]

/-- A single word is not taken for a version mark. -/
theorem runWords_of_singleton {run : List Char} (h : camelWords run = [run]) (rest : List Char) :
    runWords run rest = [run] := by
  simp [runWords, h]

/-- A version mark after other words is dropped. -/
theorem runWords_of_mark {run rest : List Char} {words : List (List Char)} {mark : Char}
    (hrest : endsInDigits rest = true) (hwords : camelWords run = words ++ [[mark]])
    (hne : words ≠ []) (hmark : isUpper mark = true) : runWords run rest = words := by
  have hlength : 0 < words.length := List.length_pos_iff.mpr hne
  simp [runWords, hwords, hrest, hlength, isVersionMark, hmark]

/-- Words with gaps around them are read as they are written. -/
theorem written_of_joined {words : List (List Char)} {text trail : List Char}
    (h : Joined words text) (htrail : IsGap trail)
    (hwords : ∀ u ∈ words, ∃ w : LowerWord, w.IsCasing u) :
    written (text ++ trail) = words := by
  induction h with
  | single word =>
    obtain ⟨w, hw⟩ := hwords word (.head _)
    rw [written_run_append hw.isRun htrail.endsRun, runWords_of_singleton hw.camelWords_eq,
      written_eq_nil_of_gap htrail, List.append_nil]
  | @cons word gap words text hne hgap h ih =>
    obtain ⟨⟨w, hw⟩, hmore⟩ := List.forall_mem_cons.mp hwords
    have hends : EndsRun (gap ++ (text ++ trail)) := by
      rw [EndsRun, List.head?_append_of_ne_nil _ hne]
      exact hgap.endsRun
    rw [List.append_assoc, List.append_assoc, written_run_append hw.isRun hends,
      runWords_of_singleton hw.camelWords_eq, written_gap_append hgap, ih hmore,
      List.singleton_append]

/-! ### Words with capitals at their beginnings -/

private theorem attach_append {c : Char} {us vs : List (List Char)} (h : us ≠ []) :
    attach c (us ++ vs) = attach c us ++ vs := by
  obtain ⟨u, us, rfl⟩ := List.exists_cons_of_ne_nil h
  rfl

/-- A letter that is no small one decides as little about the letter before it as the end of the
run does. -/
private theorem startsWord_some_of_not_isLower {b c d : Char} (hd : isLower d = false) :
    startsWord b c (some d) = startsWord b c none := by
  simp [startsWord, hd]

/-- Letters are split where a word begins. A capital there makes no difference to the words before
it. -/
theorem camelWords_append {p d : Char} {v : List Char} (hd : isLower d = false)
    (hstarts : startsWord p d v.head? = true) (u : List Char) :
    camelWords (u ++ p :: d :: v) = camelWords (u ++ [p]) ++ camelWords (d :: v) := by
  induction u with
  | nil =>
    rw [List.nil_append, camelWords_cons_cons, if_pos hstarts]
    rfl
  | cons c u ih =>
    -- Whether a word begins at the letter after `c` depends on `d` only if that letter is `p`.
    cases u with
    | nil =>
      rw [List.nil_append, List.nil_append] at ih
      simp only [List.cons_append, List.nil_append]
      rw [camelWords_cons_cons c p (d :: v), camelWords_cons_cons c p [], ih, List.head?_cons,
        List.head?_nil, startsWord_some_of_not_isLower hd]
      split
      · rfl
      · exact attach_append (camelWords_cons_ne_nil p [])
    | cons e u =>
      have hhead : (u ++ p :: d :: v).head? = (u ++ [p]).head? := by
        cases u <;> rfl
      simp only [List.cons_append] at ih ⊢
      rw [camelWords_cons_cons, camelWords_cons_cons c e (u ++ [p]), ih, hhead]
      split
      · rfl
      · exact attach_append (camelWords_cons_ne_nil e _)

/-- The words one after the other, each but the first with a capital at its beginning. -/
def camelCase (w : LowerWord) (ws : List LowerWord) : List Char :=
  w.letters ++ ws.flatMap LowerWord.capitalized

/-- The words one after the other, each with a capital at its beginning. -/
def pascalCase (w : LowerWord) (ws : List LowerWord) : List Char :=
  w.capitalized ++ ws.flatMap LowerWord.capitalized

namespace LowerWord

variable {w : LowerWord} {ws : List LowerWord} {u : List Char}

/-- The last letter of a word is a small one. -/
private theorem exists_last (w : LowerWord) :
    ∃ init p, w.letters = init ++ [p] ∧ p.isLower = true := by
  have hlast := List.dropLast_concat_getLast w.ne_nil
  exact ⟨_, _, hlast.symm, w.lower _ (List.getLast_mem w.ne_nil)⟩

/-- A word of two letters ends in a small one, also if it begins with a capital. -/
private theorem exists_last_capitalized (h : 2 ≤ w.letters.length) :
    ∃ init p, w.capitalized = init ++ [p] ∧ p.isLower = true := by
  obtain ⟨c, cs, hw, hcap⟩ := w.exists_cons
  have hcs : cs ≠ [] := by
    rintro rfl
    simp [hw] at h
  refine ⟨c.toUpper :: cs.dropLast, cs.getLast hcs, ?_, w.lower _ (by simp [hw])⟩
  rw [hcap, List.cons_append, List.dropLast_concat_getLast]

/-- A capital begins a word after any letter, since a lower-case letter follows it. -/
theorem camelWords_append_capitalized (hws : ∀ v ∈ ws, 2 ≤ v.letters.length) (hu : w.IsCasing u) :
    camelWords (u ++ ws.flatMap capitalized) = u :: ws.map capitalized := by
  induction ws generalizing w u with
  | nil => rw [List.flatMap_nil, List.append_nil, hu.camelWords_eq, List.map_nil]
  | cons v ws ih =>
    obtain ⟨hv, hmore⟩ := List.forall_mem_cons.mp hws
    obtain ⟨init, p, hlast⟩ : ∃ init p, u = init ++ [p] :=
      ⟨_, _, (List.dropLast_concat_getLast hu.ne_nil).symm⟩
    obtain ⟨c, cs, hletters, hcap⟩ := v.exists_cons
    obtain ⟨d, cs, rfl⟩ : ∃ d ds, cs = d :: ds := by
      refine List.exists_cons_of_ne_nil ?_
      rintro rfl
      simp [hletters] at hv
    have hp : p.isLower = true ∨ p.isUpper = true := hu.isLower_or_isUpper (by simp [hlast])
    have hc : c.toUpper.isUpper = true := isUpper_toUpper (v.lower c (by simp [hletters]))
    have hd : isLower d = true := isLower_of_isLower (v.lower d (by simp [hletters]))
    -- the next capital begins a word because a small letter follows, whatever is before it
    have hstarts : startsWord p c.toUpper (d :: cs ++ ws.flatMap capitalized).head? = true := by
      rw [startsWord, isUpper_of_isUpper hc, List.cons_append, List.head?_cons, Option.any_some, hd]
      rcases hp with hp | hp
      · simp [isLower_of_isLower hp]
      · simp [isUpper_of_isUpper hp]
    calc camelWords (u ++ (v :: ws).flatMap capitalized)
        = camelWords (init ++ p :: c.toUpper :: (d :: cs ++ ws.flatMap capitalized)) := by
          rw [List.flatMap_cons, hlast, hcap]
          simp
      _ = camelWords (init ++ [p]) ++
          camelWords (c.toUpper :: (d :: cs ++ ws.flatMap capitalized)) :=
          camelWords_append (not_isLower_of_isUpper hc) hstarts init
      _ = u :: camelWords (v.capitalized ++ ws.flatMap capitalized) := by
          rw [← hlast, hu.camelWords_eq, hcap]
          rfl
      _ = u :: (v :: ws).map capitalized := by
          rw [ih hmore .capitalized, List.map_cons]

/-- Words without gaps between them are one run of letters. -/
private theorem isRun_append_capitalized (hu : w.IsCasing u) :
    IsRun (u ++ ws.flatMap capitalized) := by
  refine ⟨List.append_ne_nil_of_left_ne_nil hu.ne_nil _, fun c hc => ?_⟩
  rcases List.mem_append.mp hc with hc | hc
  · exact hu.isRun.letters c hc
  · obtain ⟨v, -, hv⟩ := List.mem_flatMap.mp hc
    exact IsCasing.capitalized.isRun.letters c hv

/-- Words without gaps between them are a single run. -/
theorem written_append_capitalized (hws : ∀ v ∈ ws, 2 ≤ v.letters.length) (hu : w.IsCasing u) :
    written (u ++ ws.flatMap capitalized) = u :: ws.map capitalized := by
  have hwritten : written (u ++ ws.flatMap capitalized ++ []) =
      runWords (u ++ ws.flatMap capitalized) [] ++ written [] :=
    written_run_append (isRun_append_capitalized hu) endsRun_nil
  rw [List.append_nil, runWords, camelWords_append_capitalized hws hu] at hwritten
  simpa [endsInDigits, written, runs] using hwritten

/-- Words without gaps between them end in a small letter, so a capital behind them begins a
word. -/
private theorem exists_last_camelCase (hws : ∀ v ∈ ws, 2 ≤ v.letters.length) :
    ∃ init p, camelCase w ws = init ++ [p] ∧ p.isLower = true := by
  rcases ws.eq_nil_or_concat with rfl | ⟨us, v, rfl⟩
  · obtain ⟨init, p, hlast, hp⟩ := w.exists_last
    exact ⟨init, p, by rw [camelCase, List.flatMap_nil, List.append_nil, hlast], hp⟩
  · obtain ⟨init, p, hlast, hp⟩ := exists_last_capitalized (hws v (by simp))
    refine ⟨w.letters ++ us.flatMap capitalized ++ init, p, ?_, hp⟩
    simp [camelCase, hlast]

/-- A capital before the digits at the end is a word, which is dropped. -/
theorem written_camelCase_append (hws : ∀ v ∈ ws, 2 ≤ v.letters.length) {mark : Char}
    {rest : List Char} (hmark : mark.isUpper = true) (hrest : endsInDigits rest = true) :
    written (camelCase w ws ++ mark :: rest) = w.letters :: ws.map capitalized := by
  obtain ⟨init, p, hlast, hp⟩ := exists_last_camelCase (w := w) hws
  have hstarts : startsWord p mark none = true := by
    simp [startsWord, isUpper_of_isUpper hmark, isLower_of_isLower hp]
  -- the mark alone would be a word, and the digits after it are why it is dropped
  have hwords : camelWords (camelCase w ws ++ [mark]) = (w.letters :: ws.map capitalized) ++
      [[mark]] := by
    calc camelWords (camelCase w ws ++ [mark])
        = camelWords (init ++ p :: mark :: []) := by
          rw [hlast, List.append_assoc, List.singleton_append]
      _ = camelWords (init ++ [p]) ++ camelWords [mark] :=
          camelWords_append (not_isLower_of_isUpper hmark) hstarts init
      _ = (w.letters :: ws.map capitalized) ++ [[mark]] := by
          rw [← hlast, camelCase, camelWords_append_capitalized hws .lower]
          rfl
  have hrun : IsRun (camelCase w ws ++ [mark]) := by
    refine ⟨by simp, fun c hc => ?_⟩
    rcases List.mem_append.mp hc with hc | hc
    · exact (isRun_append_capitalized .lower).letters c hc
    · obtain rfl := List.mem_singleton.mp hc
      exact isAlphabetic_of_isUpper hmark
  have hgap : IsGap rest := isGap_of_endsInDigits hrest
  have hmarked : runWords (camelCase w ws ++ [mark]) rest = w.letters :: ws.map capitalized :=
    runWords_of_mark hrest hwords (List.cons_ne_nil _ _) (isUpper_of_isUpper hmark)
  rw [← List.singleton_append, ← List.append_assoc, written_run_append hrun hgap.endsRun, hmarked,
    written_eq_nil_of_gap hgap, List.append_nil]

end LowerWord

/-! ### Spellings -/

/-- The text spells the words. Where capitals separate them, all words but the first have at least
two letters. -/
inductive IsSpelling (w : LowerWord) (ws : List LowerWord) : List Char → Prop
  | separated (lead trail : List Char) {text : List Char} (hlead : IsGap lead)
      (htrail : IsGap trail)
    (h : Joined ((w :: ws).map LowerWord.letters) text) : IsSpelling w ws (lead ++ (text ++ trail))
  | capitals (lead trail : List Char) {text : List Char} (hlead : IsGap lead) (htrail : IsGap trail)
    (h : Joined ((w :: ws).map LowerWord.capitals) text) : IsSpelling w ws (lead ++ (text ++ trail))
  | camel (hws : ∀ v ∈ ws, 2 ≤ v.letters.length) : IsSpelling w ws (camelCase w ws)
  | pascal (hws : ∀ v ∈ ws, 2 ≤ v.letters.length) : IsSpelling w ws (pascalCase w ws)
  | version (hws : ∀ v ∈ ws, 2 ≤ v.letters.length) (mark : Char) (digits : List Char)
      (underscores : Nat)
    (hmark : mark.isUpper = true) (hne : digits ≠ []) (hdigits : ∀ d ∈ digits, d.isDigit = true) :
    IsSpelling w ws (camelCase w ws ++ mark :: (digits ++ List.replicate underscores '_'))

/-- Digits, with or without underscores behind them, make a version mark of the letter before
them. -/
private theorem endsInDigits_append_replicate {digits : List Char} (hne : digits ≠ [])
    (hdigits : ∀ d ∈ digits, d.isDigit = true) (n : Nat) :
    endsInDigits (digits ++ List.replicate n '_') = true := by
  obtain ⟨d, digits, rfl⟩ := List.exists_cons_of_ne_nil hne
  refine endsInDigits_iff.mpr ⟨⟨d, rfl, hdigits d (.head _)⟩, fun c hc => ?_⟩
  rcases List.mem_append.mp hc with hc | hc
  · exact .inl (hdigits c hc)
  · exact .inr (List.eq_of_mem_replicate hc)

private theorem map_lowercase {spell : LowerWord → List Char}
    (hspell : ∀ w : LowerWord, w.IsCasing (spell w)) (ws : List LowerWord) :
    (ws.map spell).map lowercase = ws.map LowerWord.letters := by
  rw [List.map_map]
  exact List.map_congr_left fun w _ => (hspell w).lowercase_eq

/-- The words of an identifier are those that are written, in lower case. -/
private theorem tokenize_of_written {text : List Char} {ws : List LowerWord}
    (h : (written text).map lowercase = ws.map LowerWord.letters) :
    tokenize (String.ofList text) = ws.map LowerWord.word := by
  rw [tokenize, String.toList_ofList, words, h, List.map_map]
  rfl

/-- Words with gaps between them are read back, also with gaps around all of them. -/
private theorem tokenize_of_joined {spell : LowerWord → List Char}
    (hspell : ∀ w : LowerWord, w.IsCasing (spell w)) {ws : List LowerWord}
    {lead text trail : List Char} (hlead : IsGap lead) (htrail : IsGap trail)
    (h : Joined (ws.map spell) text) :
    tokenize (String.ofList (lead ++ (text ++ trail))) = ws.map LowerWord.word := by
  have hcasing : ∀ u ∈ ws.map spell, ∃ w : LowerWord, w.IsCasing u := by
    intro u hu
    obtain ⟨w, -, rfl⟩ := List.mem_map.mp hu
    exact ⟨w, hspell w⟩
  refine tokenize_of_written ?_
  rw [written_gap_append hlead, written_of_joined h htrail hcasing, map_lowercase hspell]

/-- Words with capitals at their beginnings are read back. -/
private theorem tokenize_of_capitalized {w : LowerWord} {ws : List LowerWord} {u text : List Char}
    (hu : w.IsCasing u) (h : written text = u :: ws.map LowerWord.capitalized) :
    tokenize (String.ofList text) = (w :: ws).map LowerWord.word := by
  refine tokenize_of_written ?_
  rw [h, List.map_cons, hu.lowercase_eq, map_lowercase fun _ => .capitalized, List.map_cons]

/-- **Words are read back.** Words are read back from each of their spellings. -/
theorem tokenize_of_isSpelling {w : LowerWord} {ws : List LowerWord} {text : List Char}
    (h : IsSpelling w ws text) :
    tokenize (String.ofList text) = (w :: ws).map LowerWord.word := by
  cases h with
  | separated lead trail hlead htrail h => exact tokenize_of_joined (fun _ => .lower) hlead htrail h
  | capitals lead trail hlead htrail h =>
    exact tokenize_of_joined (fun _ => .capitals) hlead htrail h
  | camel hws =>
    exact tokenize_of_capitalized .lower (LowerWord.written_append_capitalized hws .lower)
  | pascal hws =>
    exact tokenize_of_capitalized .capitalized
      (LowerWord.written_append_capitalized hws .capitalized)
  | version hws mark digits n hmark hne hdigits =>
    have hrest := endsInDigits_append_replicate hne hdigits n
    exact tokenize_of_capitalized .lower (LowerWord.written_camelCase_append hws hmark hrest)

/-- The word `get`. -/
def getWord : LowerWord :=
  ⟨['g', 'e', 't'], by simp, List.all_eq_true.mp rfl⟩

/-- The words `http` and `status`. -/
def httpStatusWords : List LowerWord :=
  [⟨['h', 't', 't', 'p'], by simp, List.all_eq_true.mp rfl⟩,
    ⟨['s', 't', 'a', 't', 'u', 's'], by simp, List.all_eq_true.mp rfl⟩]

/-- The same words with capitals at their beginnings and with gaps between them. -/
theorem tokenize_getHttpStatus :
    tokenize "getHttpStatusV2_" = ["get", "http", "status"] ∧
      tokenize "__GET-HTTP2STATUS" = ["get", "http", "status"] := by
  have hversion : IsSpelling getWord httpStatusWords "getHttpStatusV2_".toList :=
    .version (by simp [httpStatusWords]) 'V' ['2'] 1 rfl (by simp) (List.all_eq_true.mp rfl)
  have hgap : isAlphabetic '_' = false ∧ isAlphabetic '-' = false ∧ isAlphabetic '2' = false := by
    decide
  have hjoined : Joined ((getWord :: httpStatusWords).map LowerWord.capitals)
      "GET-HTTP2STATUS".toList :=
    .cons _ ['-'] (by simp) (by simp [IsGap, hgap])
      (.cons _ ['2'] (by simp) (by simp [IsGap, hgap]) (.single _))
  have hcapitals : IsSpelling getWord httpStatusWords "__GET-HTTP2STATUS".toList :=
    .capitals ['_', '_'] [] (by simp [IsGap, hgap]) (by simp [IsGap]) hjoined
  exact ⟨tokenize_of_isSpelling hversion, tokenize_of_isSpelling hcapitals⟩

end Excerpt.Words
