import Mathlib.Data.List.DropRight
import Excerpt.Java.StringValue
import Excerpt.Proofs.Lines

/-!
# Indentation of text blocks

The value of a text block keeps how far its lines are indented against each other and forgets how
far all of them are indented. Each line that is not blank loses as many blanks at its beginning as
the least indented one has (`stripLine_eq`), so blanks put before all lines are lost again
(`stripIndent_indented`), and of a stripped text block nothing more is stripped.

Blank lines do not count for the indentation that lines share, except for the last one: the line
of the closing delimiter may be the least indented one, and so decide about all others. This makes
the last step less obvious than the others. A blank line at the end is made empty, so that
stripped lines may share less than what was left (`commonIndent_map_stripLine_le`).

Lines are stripped one by one (`splitOn_stripIndent`), hence what is proved of one line is at hand
for all of them, and what is left to prove is about the number of blanks that the lines share.

## Main results

* `stripLine_eq`: what is left of one line.
* `splitOn_stripIndent`: lines are stripped one by one.
* `stripIndent_indented`: blanks before all lines are lost again.
* `stripIndent_relative`: only relative indentation counts.
-/

namespace Excerpt.Java

open Text

variable {w cs line : List Char} {ls : List (List Char)} {n : Nat}

/-! ### One line -/

/-- A line without `n` blanks at its beginning and without blanks at its end. -/
def stripLine (n : Nat) (line : List Char) : List Char :=
  if isBlankText line then [] else trimEnd (line.drop n)

private theorem stripLine_of_blank (h : isBlankText line = true) (n : Nat) :
    stripLine n line = [] :=
  if_pos h

/-- A line that is not blank keeps its text, behind what is left of its indentation. -/
theorem stripLine_eq (h : isBlankText line = false) (hn : n ≤ indentOf line) :
    stripLine n line = (line.takeWhile isBlank).drop n ++ trim line := by
  have hsplit : line = line.takeWhile isBlank ++ trimStart line :=
    List.takeWhile_append_dropWhile.symm
  have hdrop : line.drop n = (line.takeWhile isBlank).drop n ++ trimStart line := by
    conv_lhs => rw [hsplit]
    exact List.drop_append_of_le_length hn
  have hstart : isBlankText (trimStart line) = false := isBlankText_trimStart.trans h
  rw [stripLine, if_neg (by simp [h]), hdrop, trimEnd_append_of_not_blank hstart, trim]

/-- Blanks before a line are added to its indentation. -/
private theorem indentOf_blank_append (hw : isBlankText w = true) (cs : List Char) :
    indentOf (w ++ cs) = w.length + indentOf cs := by
  rw [indentOf, List.takeWhile_append_of_pos (isBlankText_iff.1 hw), List.length_append, indentOf]

private theorem indentOf_trim (cs : List Char) : indentOf (trim cs) = 0 := by
  have hstart := trimStart_trim cs
  have hsplit : trim cs = (trim cs).takeWhile isBlank ++ trimStart (trim cs) :=
    List.takeWhile_append_dropWhile.symm
  have hnil : (trim cs).takeWhile isBlank = [] := by
    rw [hstart] at hsplit
    exact List.self_eq_append_left.1 hsplit
  rw [indentOf, hnil, List.length_nil]

/-- A line that loses no more than its indentation stays blank, or not blank. -/
private theorem isBlankText_stripLine (hn : isBlankText line = false → n ≤ indentOf line) :
    isBlankText (stripLine n line) = isBlankText line := by
  cases h : isBlankText line with
  | true => rw [stripLine_of_blank h, isBlankText, List.all_nil]
  | false => rw [stripLine_eq h (hn h), isBlankText_append, isBlankText_trim, h, Bool.and_false]

/-- A line is indented less by what it loses. -/
private theorem indentOf_stripLine (h : isBlankText line = false) (hn : n ≤ indentOf line) :
    indentOf (stripLine n line) = indentOf line - n := by
  have hblank : isBlankText ((line.takeWhile isBlank).drop n) = true :=
    isBlankText_iff.2 fun c hc => List.mem_takeWhile_imp (List.mem_of_mem_drop hc)
  rw [stripLine_eq h hn, indentOf_blank_append hblank, indentOf_trim, List.length_drop, indentOf,
    Nat.add_zero]

private theorem trimEnd_stripLine (n : Nat) (line : List Char) :
    trimEnd (stripLine n line) = stripLine n line := by
  rw [stripLine]
  split
  · rfl
  · exact List.rdropWhile_idempotent isBlank _

private theorem stripLine_zero (line : List Char) : stripLine 0 line = trimEnd line := by
  rw [stripLine, List.drop_zero]
  split
  · next h => exact (trimEnd_eq_nil_iff.2 h).symm
  · rfl

/-- Blanks before a line are lost again, if as many more are taken off. -/
private theorem stripLine_blank_append (hw : isBlankText w = true) (n : Nat) (line : List Char) :
    stripLine (w.length + n) (w ++ line) = stripLine n line := by
  rw [stripLine, isBlankText_append, hw, Bool.true_and, List.drop_length_add_append, stripLine]

/-! ### The indentation that lines share -/

/-- A line before others counts for what they share unless it is blank. -/
private theorem commonIndent_cons (hne : ls ≠ []) (line : List Char) : commonIndent (line :: ls) =
    if isBlankText line then commonIndent ls else min (indentOf line) (commonIndent ls) := by
  cases ls with
  | nil => exact absurd rfl hne
  | cons l ls => rfl

/-- No line that is not blank is indented less than what the lines share. -/
private theorem commonIndent_le_of_mem (hmem : line ∈ ls) (h : isBlankText line = false) :
    commonIndent ls ≤ indentOf line := by
  fun_induction commonIndent ls with
  | case1 => exact absurd hmem List.not_mem_nil
  | case2 last => rw [List.mem_singleton.1 hmem]
  | case3 l ls _ hblank ih =>
    have hne : line ≠ l := by
      rintro rfl
      simp [h] at hblank
    exact ih ((List.mem_cons.1 hmem).resolve_left hne)
  | case4 l ls _ _ ih =>
    rcases List.mem_cons.1 hmem with rfl | hmem
    · exact Nat.min_le_left _ _
    · exact (Nat.min_le_right _ _).trans (ih hmem)

/-- Blanks put before all lines are shared by them. -/
theorem commonIndent_map_append (hw : isBlankText w = true) (hne : ls ≠ []) :
    commonIndent (ls.map (w ++ ·)) = w.length + commonIndent ls := by
  induction ls with
  | nil => exact absurd rfl hne
  | cons l ls ih =>
    by_cases hls : ls = []
    · rw [hls]
      exact indentOf_blank_append hw l
    · have hmap : ls.map (w ++ ·) ≠ [] := by simpa using hls
      rw [List.map_cons, commonIndent_cons hmap, commonIndent_cons hls, ih hls, isBlankText_append,
        hw, Bool.true_and, indentOf_blank_append hw]
      split
      · rfl
      · omega

/-- Lines that lose some of what they share share no more than the rest. They may share less: a
blank line at the end is made empty. -/
theorem commonIndent_map_stripLine_le (hn : n ≤ commonIndent ls) :
    commonIndent (ls.map (stripLine n)) ≤ commonIndent ls - n := by
  induction ls with
  | nil => exact Nat.zero_le _
  | cons l ls ih =>
    have hline : isBlankText l = false → n ≤ indentOf l := fun h =>
      hn.trans (commonIndent_le_of_mem List.mem_cons_self h)
    -- the last line counts even if it is blank, so it is a case of its own
    by_cases hls : ls = []
    · subst hls
      change indentOf (stripLine n l) ≤ indentOf l - n
      cases h : isBlankText l with
      | true =>
        rw [stripLine_of_blank h]
        exact Nat.zero_le _
      | false => rw [indentOf_stripLine h (hline h)]
    · have hmap : ls.map (stripLine n) ≠ [] := by simpa using hls
      rw [commonIndent_cons hls] at hn
      rw [List.map_cons, commonIndent_cons hmap, commonIndent_cons hls, isBlankText_stripLine hline]
      split at hn
      · next h => rw [if_pos h, if_pos h]; exact ih hn
      · next h =>
        have hrest := ih (hn.trans (Nat.min_le_right _ _))
        have hfirst := indentOf_stripLine (Bool.eq_false_iff.2 h) (hline (Bool.eq_false_iff.2 h))
        rw [if_neg h, if_neg h, hfirst]
        omega

/-! ### Text blocks -/

/-- The text with `w` before each of its lines. -/
def indented (w body : List Char) : List Char :=
  w ++ body.flatMap fun c => if c = '\n' then '\n' :: w else [c]

/-- A text block is stripped line by line, of what its lines share. -/
private theorem stripIndent_eq (body : List Char) : stripIndent body = ['\n'].intercalate
    ((body.splitOn '\n').map (stripLine (commonIndent (body.splitOn '\n')))) := by
  rw [← pieces_eq_splitOn]
  rfl

private theorem newline_not_mem_stripLine (h : '\n' ∉ line) (n : Nat) :
    '\n' ∉ stripLine n line := by
  rw [stripLine]
  split
  · exact List.not_mem_nil
  · intro hmem
    have hdrop := (List.rdropWhile_prefix isBlank (line.drop n)).mem hmem
    exact h (List.mem_of_mem_drop hdrop)

/-- **Lines are stripped one by one**, of what they share. -/
theorem splitOn_stripIndent (body : List Char) : (stripIndent body).splitOn '\n' =
    (body.splitOn '\n').map (stripLine (commonIndent (body.splitOn '\n'))) := by
  rw [stripIndent_eq, List.splitOn_intercalate]
  · exact List.forall_mem_map.2 fun line hline =>
      newline_not_mem_stripLine (sep_not_mem_of_mem_splitOn hline) _
  · rw [Ne, List.map_eq_nil_iff]
    exact List.splitOn_ne_nil '\n' body

/-- Behind each line feed stands `w`, so every line but the first one has it. -/
theorem splitOn_flatMap_indent (hw : '\n' ∉ w) (h : cs.splitOn '\n' = line :: ls) :
    (cs.flatMap fun c => if c = '\n' then '\n' :: w else [c]).splitOn '\n' =
      line :: ls.map (w ++ ·) := by
  induction cs generalizing line ls with
  | nil =>
    rw [List.splitOn_nil, List.cons_eq_cons] at h
    rw [← h.1, ← h.2]
    rfl
  | cons c cs ih =>
    -- the first line is left as it is: blanks are put behind line feeds
    obtain ⟨l, rest, hcs⟩ := List.exists_cons_of_ne_nil (List.splitOn_ne_nil '\n' cs)
    have hrest := ih hcs
    rw [List.splitOn_cons_eq_if_modifyHead, hcs] at h
    rw [List.flatMap_cons]
    by_cases hc : c = '\n'
    · rw [if_pos (by simpa using hc), List.cons_eq_cons] at h
      rw [if_pos hc, List.cons_append, List.splitOn_cons_eq_if_modifyHead, if_pos (by rfl),
        splitOn_append_of_not_mem hw, hrest, ← h.1, ← h.2]
      rfl
    · rw [if_neg (by simpa using hc), List.modifyHead_cons, List.cons_eq_cons] at h
      rw [if_neg hc, List.singleton_append, List.splitOn_cons_eq_if_modifyHead,
        if_neg (by simpa using hc), hrest, ← h.1, ← h.2]
      rfl

private theorem splitOn_indented (hw : '\n' ∉ w) (body : List Char) :
    (indented w body).splitOn '\n' = (body.splitOn '\n').map (w ++ ·) := by
  obtain ⟨line, ls, hbody⟩ := List.exists_cons_of_ne_nil (List.splitOn_ne_nil '\n' body)
  rw [indented, splitOn_append_of_not_mem hw, splitOn_flatMap_indent hw hbody, hbody]
  rfl

/-- Blanks put before every line are lost again. -/
theorem stripIndent_indented (hw : isBlankText w = true) (hline : '\n' ∉ w) (body : List Char) :
    stripIndent (indented w body) = stripIndent body := by
  have hne := List.splitOn_ne_nil '\n' body
  rw [stripIndent_eq, stripIndent_eq, splitOn_indented hline, commonIndent_map_append hw hne,
    List.map_map]
  congr 2
  funext line
  exact stripLine_blank_append hw _ line

/-- Stripped lines share no indentation. If some line is not blank, the least indented one has
none left; otherwise the last line is empty. -/
private theorem commonIndent_stripIndent (body : List Char) :
    commonIndent ((stripIndent body).splitOn '\n') = 0 := by
  have hle := commonIndent_map_stripLine_le (Nat.le_refl (commonIndent (body.splitOn '\n')))
  rw [Nat.sub_self] at hle
  rw [splitOn_stripIndent]
  exact Nat.le_zero.1 hle

/-- Of a stripped text block nothing more is stripped. -/
private theorem stripIndent_stripIndent (body : List Char) :
    stripIndent (stripIndent body) = stripIndent body := by
  rw [stripIndent_eq (stripIndent body), commonIndent_stripIndent, splitOn_stripIndent,
    List.map_map, stripIndent_eq body]
  congr 2
  funext line
  rw [Function.comp_apply, stripLine_zero, trimEnd_stripLine]

/-- What a line that is not blank loses at its beginning does not depend on the line. -/
theorem exists_getElem?_stripIndent {body : List Char} {i : Nat}
    (hi : (body.splitOn '\n')[i]? = some line) (h : isBlankText line = false) :
    ∃ stripped, ((stripIndent body).splitOn '\n')[i]? = some stripped ∧
      isBlankText stripped = false ∧
      indentOf stripped + commonIndent (body.splitOn '\n') = indentOf line := by
  have hle : commonIndent (body.splitOn '\n') ≤ indentOf line :=
    commonIndent_le_of_mem (List.mem_of_getElem? hi) h
  refine ⟨_, by rw [splitOn_stripIndent, List.getElem?_map, hi, Option.map_some], ?_, ?_⟩
  · rw [isBlankText_stripLine fun _ => hle, h]
  · rw [indentOf_stripLine h hle, Nat.sub_add_cancel hle]

/-- **Only relative indentation counts in a text block.** Blanks put before every line, blank
lines and the last one among them, do not change what is left of it; what is left has no
indentation to lose; it has as many lines; and the lines that are not blank are indented against
each other as before. -/
theorem stripIndent_relative (body : List Char) :
    (∀ w, isBlankText w = true → '\n' ∉ w → stripIndent (indented w body) = stripIndent body) ∧
    stripIndent (stripIndent body) = stripIndent body ∧
    ((stripIndent body).splitOn '\n').length = (body.splitOn '\n').length ∧
    ∀ (i j : Nat) (a b : List Char), (body.splitOn '\n')[i]? = some a →
      (body.splitOn '\n')[j]? = some b →
      isBlankText a = false → isBlankText b = false →
      ∃ a' b', ((stripIndent body).splitOn '\n')[i]? = some a' ∧
        ((stripIndent body).splitOn '\n')[j]? = some b' ∧
        isBlankText a' = false ∧ isBlankText b' = false ∧
        (indentOf a' : Int) - indentOf b' = indentOf a - indentOf b := by
  refine ⟨fun w hw hline => stripIndent_indented hw hline body,
    stripIndent_stripIndent body, ?_, ?_⟩
  · rw [splitOn_stripIndent, List.length_map]
  · intro i j a b hi hj ha hb
    obtain ⟨a', hi', ha', hdiff⟩ := exists_getElem?_stripIndent hi ha
    obtain ⟨b', hj', hb', hdiff'⟩ := exists_getElem?_stripIndent hj hb
    exact ⟨a', b', hi', hj', ha', hb', by omega⟩

/-- The last line is blank and the least indented one; a blank line in the middle does not count. -/
theorem stripIndent_closedBelow :
    let body := "    one  \n\n      two\n  ".toList
    stripIndent (indented ['\t', ' '] body) = stripIndent body ∧
    stripIndent body = "  one\n\n    two\n".toList ∧
    ∃ a b, ((stripIndent body).splitOn '\n')[0]? = some a ∧
      ((stripIndent body).splitOn '\n')[2]? = some b ∧
      (indentOf a : Int) - indentOf b = -2 := by
  intro body
  obtain ⟨hindented, -, -, hrelative⟩ := stripIndent_relative body
  obtain ⟨a, b, ha, hb, -, -, hdiff⟩ :=
    hrelative 0 2 "    one  ".toList "      two".toList (by decide) (by decide)
    (by decide) (by decide)
  exact ⟨hindented _ (by decide) (by decide), by decide, a, b, ha, hb, hdiff⟩

end Excerpt.Java
