import Excerpt.Javadoc
import Excerpt.Proofs.Lines

/-!
# The line of a description

The description of a comment is made of its cleaned lines, and nothing in it says where in the
comment it begins. The line that it is reported at is found again, by looking for the first line
of the description in the lines of the comment.

This may go wrong only where an earlier line holds the text that is looked for. Every line before
the one that the description was taken from comes out empty, hence it is blank or a lone star
(`cleanLine_eq_nil_iff`), and all that can be found in it is a lone star. So what is found is the
line that the description was taken from, unless the description itself begins with a line that is
a lone star (`descriptionLine_description`).

The proof looks at one line first, and says which lines come out empty and what is left of the
others (`cleanLine_cases`). The rest is a search for the first line with text, which is the same
in the lines of the comment and in those of the description.

## Main results

* `cleanLine_eq_nil_iff`: the lines that come out empty.
* `descriptionLine_description`: the line that a description is reported at.
-/

namespace Excerpt.Javadoc

open Text

/-! ### One line -/

/-- What follows a star, without one blank after it. -/
def afterStar : List Char → List Char
  | ' ' :: rest => rest
  | '\t' :: rest => rest
  | row => row

/-- A line that is not blank; a blank one is empty. -/
def emptied (line : List Char) : List Char :=
  if isBlankText line then [] else line

variable {raw row line : List Char}

/-- What is left of a line that begins with a star. -/
theorem cleanLine_of_star (h : trimStart (dropCarriage raw) = '*' :: row) :
    cleanLine raw = emptied (afterStar row) := by
  rw [cleanLine, emptied]
  simp only [h]
  split <;> simp_all [afterStar]

private theorem cleanLine_of_no_star (h : (trimStart (dropCarriage raw)).head? ≠ some '*') :
    cleanLine raw = emptied (dropCarriage raw) := by
  rw [cleanLine, emptied]
  split <;> simp_all

private theorem emptied_eq_nil_iff : emptied line = [] ↔ isBlankText line = true := by
  rw [emptied]
  split
  · simp_all
  · next h =>
    refine iff_of_false ?_ h
    rintro rfl
    exact h rfl

/-- A line with text is not emptied. -/
theorem emptied_of_not_blank (h : isBlankText line = false) : emptied line = line := by
  simp [emptied, h]

private theorem isBlankText_emptied_iff :
    isBlankText (emptied line) = true ↔ emptied line = [] := by
  by_cases h : isBlankText line = true
  · rw [emptied_eq_nil_iff.2 h]
    exact iff_of_true rfl rfl
  · rw [emptied_of_not_blank (Bool.eq_false_iff.2 h)]
    exact iff_of_false h (by rintro rfl; exact h rfl)

private theorem emptied_isInfix : emptied line <:+: line := by
  rw [emptied]
  split
  · exact List.nil_infix
  · exact List.infix_refl line

/-- Behind a star, at most one blank is dropped. -/
private theorem afterStar_suffix (row : List Char) : afterStar row <:+ row := by
  rw [afterStar.eq_def]
  split
  · exact List.suffix_cons ' ' _
  · exact List.suffix_cons '\t' _
  · exact List.suffix_refl _

private theorem isBlankText_afterStar (row : List Char) :
    isBlankText (afterStar row) = isBlankText row := by
  rw [afterStar.eq_def]
  split <;> rfl

/-- Either the first character of a line that is no blank is a star, or the line is kept as
it is. -/
theorem cleanLine_cases (raw : List Char) :
    (∃ row, trimStart (dropCarriage raw) = '*' :: row ∧ cleanLine raw = emptied (afterStar row)) ∨
      ((trimStart (dropCarriage raw)).head? ≠ some '*' ∧
        cleanLine raw = emptied (dropCarriage raw)) := by
  by_cases h : (trimStart (dropCarriage raw)).head? = some '*'
  · obtain ⟨row, hrow⟩ := List.head?_eq_some_iff.1 h
    exact .inl ⟨row, hrow, cleanLine_of_star hrow⟩
  · exact .inr ⟨h, cleanLine_of_no_star h⟩

/-- What is left of a line is a part of it, so it can be found there. -/
private theorem cleanLine_isInfix (raw : List Char) : cleanLine raw <:+: raw := by
  have hline : trimStart (dropCarriage raw) <:+: raw :=
    (List.dropWhile_suffix isBlank).isInfix.trans (dropCarriage_isPrefix raw).isInfix
  obtain ⟨row, hrow, hclean⟩ | ⟨-, hclean⟩ := cleanLine_cases raw
  · have hstar : afterStar row <:+: trimStart (dropCarriage raw) := by
      rw [hrow]
      exact ((afterStar_suffix row).trans (List.suffix_cons '*' row)).isInfix
    rw [hclean]
    exact emptied_isInfix.trans (hstar.trans hline)
  · rw [hclean]
    exact emptied_isInfix.trans (dropCarriage_isPrefix raw).isInfix

/-- A line that comes out blank comes out empty. -/
private theorem isBlankText_cleanLine_iff :
    isBlankText (cleanLine raw) = true ↔ cleanLine raw = [] := by
  obtain ⟨row, -, hclean⟩ | ⟨-, hclean⟩ :=
    cleanLine_cases raw <;> rw [hclean] <;> exact isBlankText_emptied_iff

/-- A star stands alone if nothing but blanks follows it. -/
theorem trimEnd_star_cons_eq_iff : trimEnd ('*' :: row) = ['*'] ↔ isBlankText row = true := by
  rw [show '*' :: row = ['*'] ++ row from rfl]
  by_cases hrow : isBlankText row = true
  · rw [trimEnd_append_of_blank hrow]
    exact iff_of_true rfl hrow
  · rw [trimEnd_append_of_not_blank (Bool.eq_false_iff.2 hrow)]
    simp [trimEnd_eq_nil_iff]

/-- **What comes out empty**: a blank line, or a star with nothing but blanks around it. -/
theorem cleanLine_eq_nil_iff : cleanLine raw = [] ↔ trim raw = [] ∨ trim raw = ['*'] := by
  rw [← trim_dropCarriage raw]
  obtain ⟨row, hrow, hclean⟩ | ⟨hhead, hclean⟩ := cleanLine_cases raw
  · have hne : trim (dropCarriage raw) ≠ [] := by
      rw [Ne, trim_eq_nil_iff, ← trimStart_eq_nil_iff, hrow]
      exact List.cons_ne_nil _ _
    rw [hclean, emptied_eq_nil_iff, isBlankText_afterStar, or_iff_right hne, trim, hrow,
      trimEnd_star_cons_eq_iff]
  · have hne : trim (dropCarriage raw) ≠ ['*'] := by
      intro hstar
      obtain ⟨ds, -, hstart⟩ := exists_eq_trimEnd_append (trimStart (dropCarriage raw))
      rw [← trim, hstar] at hstart
      exact hhead (by rw [hstart]; rfl)
    rw [hclean, emptied_eq_nil_iff, or_iff_left hne, trim_eq_nil_iff]

/-! ### Where a description begins -/

/-- The position of the first line of the comment that holds text. -/
def firstTextLine (c : Comment) : Nat :=
  (rawLines c).findIdx (fun raw => !(cleanLine raw).isEmpty)

/-- The first line of a description may lose one space, and nothing else changes. -/
private theorem dropLeadingSpace_cases (ls : List (List Char)) :
    dropLeadingSpace ls = ls ∨
      ∃ line rest, ls = (' ' :: line) :: rest ∧ dropLeadingSpace ls = line :: rest := by
  rw [dropLeadingSpace.eq_def]
  split
  · exact .inr ⟨_, _, rfl, rfl⟩
  · exact .inl rfl

/-- The first line that is not empty, with or without the blank at its beginning. -/
theorem exists_of_dropWhile_dropLeadingSpace {ls rest : List (List Char)} {first : List Char}
    (hls : ∀ l ∈ ls, isBlankText l = true → l = [])
    (h : (dropLeadingSpace ls).dropWhile List.isEmpty = first :: rest) :
    ∃ line, ls[ls.findIdx (!·.isEmpty)]? = some line ∧ line ≠ [] ∧ first <:+ line ∧
      trim first = trim line := by
  obtain hsame | ⟨line, others, rfl, hdrop⟩ := dropLeadingSpace_cases ls
  · rw [hsame] at h
    have hne : first ≠ [] := by
      have hhead := List.head_dropWhile_not List.isEmpty (l := ls) (by simp [h])
      simpa [h] using hhead
    rw [List.dropWhile_eq_drop_findIdx_not] at h
    have hat := congrArg List.head? h
    rw [List.head?_drop, List.head?_cons] at hat
    exact ⟨first, hat, hne, List.suffix_refl first, rfl⟩
  · -- A blank is dropped only from a line with text, so this line stays the first one that is
    -- not empty.
    have htext : isBlankText line = false := by
      rw [Bool.eq_false_iff]
      intro hblank
      exact List.cons_ne_nil _ _ (hls (' ' :: line) List.mem_cons_self hblank)
    have hne : line ≠ [] := by
      rintro rfl
      exact Bool.noConfusion htext
    rw [hdrop, List.dropWhile_cons_of_neg (by simpa using hne)] at h
    obtain ⟨rfl, -⟩ := List.cons.inj h
    have htrim : trim ([' '] ++ line) = trim line := trim_blank_append rfl
    exact ⟨' ' :: line, rfl, List.cons_ne_nil _ _, List.suffix_cons ' ' line, htrim.symm⟩

/-- The first line of a description is what is left of the first line with text, up to blanks at
its beginning. -/
private theorem exists_first_of_description {c : Comment} (h : description c ≠ []) :
    ∃ raw first rest, (rawLines c)[firstTextLine c]? = some raw ∧ cleanLine raw ≠ [] ∧
      descriptionLines c = first :: rest ∧ first <:+ cleanLine raw ∧
      trim first = trim (cleanLine raw) := by
  have hlines : descriptionLines c ≠ [] := by
    intro hnil
    simp [description, hnil, trimEnd] at h
  obtain ⟨first, rest, hfirst⟩ := List.exists_cons_of_ne_nil hlines
  -- tags and blank lines are taken off the end only, so the first line is not touched
  have hstart : ∃ others, (dropLeadingSpace ((rawLines c).map cleanLine)).dropWhile List.isEmpty =
      first :: others := by
    have hprefix : first :: rest <+:
        (dropLeadingSpace ((rawLines c).map cleanLine)).dropWhile List.isEmpty := by
      rw [← hfirst]
      exact (List.takeWhile_prefix _).trans (List.rdropWhile_prefix List.isEmpty _)
    obtain ⟨others, hothers⟩ := hprefix
    exact ⟨rest ++ others, hothers.symm⟩
  obtain ⟨others, hothers⟩ := hstart
  have hempty : ∀ l ∈ (rawLines c).map cleanLine, isBlankText l = true → l = [] := by
    intro l hl hblank
    obtain ⟨raw, -, rfl⟩ := List.mem_map.1 hl
    exact isBlankText_cleanLine_iff.1 hblank
  obtain ⟨line, hline, hne, hsuffix, htrim⟩ := exists_of_dropWhile_dropLeadingSpace hempty hothers
  rw [List.findIdx_map, List.getElem?_map, Option.map_eq_some_iff] at hline
  obtain ⟨raw, hraw, rfl⟩ := hline
  exact ⟨raw, first, rest, hraw, hne, hfirst, hsuffix, htrim⟩

/-- The first line with text of joined lines is the first of them, if it has text. -/
theorem find?_lines_trimEnd {first : List Char} (rest : List (List Char)) (hline : '\n' ∉ first)
    (htext : isBlankText first = false) :
    ((lines (trimEnd (['\n'].intercalate (first :: rest)))).map trim).find? (!·.isEmpty) =
      some (trim first) := by
  have hne : trim first ≠ [] := by
    rw [Ne, trim_eq_nil_iff, htext]
    exact Bool.false_ne_true
  have halone : ((lines (trimEnd first)).map trim).find? (!·.isEmpty) = some (trim first) := by
    have hend : trimEnd first ≠ [] := by
      rw [Ne, trimEnd_eq_nil_iff, htext]
      exact Bool.false_ne_true
    have hno : '\n' ∉ trimEnd first := fun h => hline ((List.rdropWhile_prefix isBlank first).mem h)
    rw [lines_of_newline_free hend hno]
    simp [trim_trimEnd, hne]
  cases rest with
  | nil => rwa [List.intercalate_singleton]
  | cons l ls =>
    rw [List.intercalate_cons_cons, List.append_assoc]
    have hnewline : isBlankText (['\n'] ++ ['\n'].intercalate (l :: ls)) =
        isBlankText (['\n'].intercalate (l :: ls)) := rfl
    -- The other lines are trimmed away, or a line feed remains behind the first one.
    by_cases hblank : isBlankText (['\n'].intercalate (l :: ls)) = true
    · rwa [trimEnd_append_of_blank (hnewline.trans hblank)]
    · have hrest := Bool.eq_false_iff.2 hblank
      rw [trimEnd_append_of_not_blank (hnewline.trans hrest), trimEnd_append_of_not_blank hrest,
        List.singleton_append, lines_append_newline hline]
      simp [trim_dropCarriage, hne]

/-- The text that is looked for is what is left of the first line with text, without the blanks
around it. -/
private theorem exists_needle_of_description {c : Comment} (h : description c ≠ []) :
    ∃ raw, (rawLines c)[firstTextLine c]? = some raw ∧ cleanLine raw ≠ [] ∧
      ((lines (description c)).map trim).find? (!·.isEmpty) = some (trim (cleanLine raw)) := by
  obtain ⟨raw, first, rest, hraw, htext, hlines, hsuffix, htrim⟩ := exists_first_of_description h
  have hjavadoc : c.isJavadoc = true := by
    by_contra hno
    simp [description, hno] at h
  have hline : '\n' ∉ first := fun hmem =>
    newline_not_mem_of_mem_pieces (List.mem_of_getElem? hraw)
      ((cleanLine_isInfix raw).mem (hsuffix.mem hmem))
  have hblank : isBlankText first = false := by
    rw [Bool.eq_false_iff, Ne, ← trim_eq_nil_iff, htrim, trim_eq_nil_iff, isBlankText_cleanLine_iff]
    exact htext
  refine ⟨raw, hraw, htext, ?_⟩
  rw [description, if_pos hjavadoc, hlines, find?_lines_trimEnd rest hline hblank, htrim]

/-- Before the first line with text there is nothing to be found but a lone star. -/
theorem not_occursIn_of_cleanLine_eq_nil {raw text : List Char} (hraw : cleanLine raw = [])
    (htext : trim text ≠ []) (hstar : trim text ≠ ['*']) : occursIn (trim text) raw = false := by
  rw [Bool.eq_false_iff, Ne, occursIn_iff_isInfix]
  intro hinfix
  have hkept : trim text <:+: trim raw := trim_infix_trim hinfix
  rcases cleanLine_eq_nil_iff.1 hraw with hnil | hlone
  · rw [hnil, List.infix_nil] at hkept
    exact htext hkept
  · rw [hlone, List.infix_singleton_iff] at hkept
    exact hkept.elim htext hstar

/-- The search for the text ends at the line that it was taken from, unless it is a lone star:
every line before this one comes out empty. -/
private theorem findIdx?_occursIn {c : Comment} {raw : List Char}
    (hraw : (rawLines c)[firstTextLine c]? = some raw) (htext : cleanLine raw ≠ [])
    (hstar : trim (cleanLine raw) ≠ ['*']) :
    (rawLines c).findIdx? (occursIn (trim (cleanLine raw))) = some (firstTextLine c) := by
  have hne : trim (cleanLine raw) ≠ [] := by
    rw [Ne, trim_eq_nil_iff, isBlankText_cleanLine_iff]
    exact htext
  obtain ⟨hlt, hat⟩ := List.getElem?_eq_some_iff.1 hraw
  refine List.findIdx?_eq_some_iff_getElem.2 ⟨hlt, ?_, ?_⟩
  · rw [hat, occursIn_iff_isInfix]
    exact (trim_isInfix _).trans (cleanLine_isInfix raw)
  · intro j hj
    have hempty : cleanLine (rawLines c)[j] = [] := by
      have hno := List.not_of_lt_findIdx hj
      simpa using hno
    rw [not_occursIn_of_cleanLine_eq_nil hempty hne hstar]
    exact Bool.false_ne_true

/-- A line of which a lone star is left holds a star. -/
private theorem star_mem_of_trim (h : trim (cleanLine raw) = ['*']) : '*' ∈ raw :=
  (cleanLine_isInfix raw).mem ((trim_isInfix (cleanLine raw)).mem (by simp [h]))

/-- A line with a star is the first one exactly if no earlier line has one. -/
theorem findIdx_star_eq_iff {rows : List (List Char)} {k : Nat} (hrow : rows[k]? = some row)
    (hstar : '*' ∈ row) :
    rows.findIdx (fun row => '*' ∈ row) = k ↔ ∀ earlier ∈ rows.take k, '*' ∉ earlier := by
  obtain ⟨hlt, hat⟩ := List.getElem?_eq_some_iff.1 hrow
  rw [List.findIdx_eq hlt, hat]
  constructor
  · rintro ⟨-, hbefore⟩ earlier hearlier
    obtain ⟨j, hj, rfl⟩ := List.mem_take_iff_getElem.1 hearlier
    exact of_decide_eq_false (hbefore j (by omega))
  · intro hbefore
    refine ⟨decide_eq_true hstar, fun j hj => decide_eq_false ?_⟩
    exact hbefore _ (List.mem_take_iff_getElem.2 ⟨j, by omega, rfl⟩)

/-- **The line a description is reported at.** The first line of a description that is not empty
comes from the first line of the comment that holds text. That is the line reported, unless this
text is a lone star: then it is the first line with a star, and so an earlier one whenever a line
of decoration goes before. -/
theorem descriptionLine_description (c : Comment) (h : description c ≠ []) :
    ∃ raw, (rawLines c)[firstTextLine c]? = some raw ∧
      (trim (cleanLine raw) ≠ ['*'] →
        descriptionLine c (description c) = c.line + firstTextLine c) ∧
      (trim (cleanLine raw) = ['*'] →
        descriptionLine c (description c) = c.line + (rawLines c).findIdx (fun raw => '*' ∈ raw)) ∧
      (descriptionLine c (description c) = c.line + firstTextLine c ↔
        (trim (cleanLine raw) = ['*'] →
          ∀ earlier ∈ (rawLines c).take (firstTextLine c), '*' ∉ earlier)) := by
  obtain ⟨raw, hraw, htext, hneedle⟩ := exists_needle_of_description h
  have hline : ∀ k, (rawLines c).findIdx? (occursIn (trim (cleanLine raw))) = some k →
      descriptionLine c (description c) = c.line + k := by
    intro k hk
    simp only [descriptionLine, hneedle, hk]
  have hfound : trim (cleanLine raw) ≠ ['*'] →
      descriptionLine c (description c) = c.line + firstTextLine c := fun hstar =>
    hline _ (findIdx?_occursIn hraw htext hstar)
  have hstar : trim (cleanLine raw) = ['*'] →
      descriptionLine c (description c) = c.line + (rawLines c).findIdx (fun raw => '*' ∈ raw) := by
    intro hlone
    refine hline _ ?_
    -- a lone star is found in the decoration of earlier lines as well
    have hsearch : occursIn (trim (cleanLine raw)) = fun raw => decide ('*' ∈ raw) := by
      funext other
      rw [hlone, Bool.eq_iff_iff, occursIn_iff_isInfix, List.singleton_infix_iff,
        decide_eq_true_iff]
    rw [hsearch]
    exact List.findIdx?_eq_some_of_exists ⟨raw, List.mem_of_getElem? hraw,
      decide_eq_true (star_mem_of_trim hlone)⟩
  refine ⟨raw, hraw, hfound, hstar, ?_⟩
  by_cases hlone : trim (cleanLine raw) = ['*']
  · rw [hstar hlone, Nat.add_left_cancel_iff, findIdx_star_eq_iff hraw (star_mem_of_trim hlone)]
    exact ⟨fun hearlier _ => hearlier, fun hearlier => hearlier hlone⟩
  · exact iff_of_true (hfound hlone) fun hstar => absurd hstar hlone

/-- A comment with a line of decoration before the text, which is a lone star. -/
def loneStar : Comment :=
  ⟨"/**\n *\n * *\n */", 1⟩

/-- The text of the comment stands in its third line, and the second line is reported. -/
theorem descriptionLine_loneStar :
    description loneStar = ['*'] ∧ firstTextLine loneStar = 2 ∧
      descriptionLine loneStar (description loneStar) = 2 ∧
      descriptionLine loneStar (description loneStar) ≠ loneStar.line + firstTextLine loneStar := by
  have hdescription : description loneStar = ['*'] := by decide
  obtain ⟨raw, hraw, -, hstar, -⟩ :=
    descriptionLine_description loneStar (by rw [hdescription]; decide)
  obtain rfl : " * *".toList = raw := by
    have hline : (rawLines loneStar)[firstTextLine loneStar]? = some " * *".toList := by decide
    exact Option.some.inj (hline.symm.trans hraw)
  have hline : descriptionLine loneStar (description loneStar) = 2 := hstar (by decide)
  have hfirst : firstTextLine loneStar = 2 := by decide
  refine ⟨hdescription, hfirst, hline, ?_⟩
  rw [hline, hfirst]
  decide

end Excerpt.Javadoc
