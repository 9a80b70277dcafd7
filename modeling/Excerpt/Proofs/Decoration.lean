import Excerpt.Proofs.Javadoc

/-!
# Decorated comments

A javadoc comment is set out with a star before each of its lines. Its description is what was set
out: the lines up to the first block tag, without the stars and without blank lines at the ends
(`description_comment`). Inside the description blank lines are kept, and so is what stands in a
line behind the one space after the star.

How a comment is set out is described by `Row` and `SetsOut`: indentation, a star, one space
before the text of a line that is not blank, and carriage returns at the end. What follows the
description is a list of blank rows, and then nothing or a row with a block tag and whatever
follows it.

A description is read in two steps. Each line is cleaned of its decoration (`cleanLine_textRow`),
and then the lines up to the first tag are taken, without the empty ones at both ends. The second
step is about lists of lines and does not depend on how the first one is done
(`dropEmptyEnds_append`, `eq_nil_of_mem_takeWhile_following`).

## Main results

* `cleanLine_textRow`: one line is cleaned of its decoration.
* `exists_descriptionLines_eq`: the lines that are read from a comment.
* `description_comment`: a description undoes the decoration of its comment.
-/

namespace Excerpt.Javadoc

open Text

variable {row line indent : List Char} {rows ls : List (List Char)}

/-! ### Setting out a comment -/

/-- How a comment is set out: what stands before the star of each line, and how lines end. -/
structure Setting where
  indent : List Char
  crlf : Bool
  /-- Lines are indented by spaces and tabs. -/
  indent_blank : ∀ c ∈ indent, c = ' ' ∨ c = '\t'

namespace Setting

variable (s : Setting)

/-- What stands before a line feed. -/
def carriage : List Char :=
  if s.crlf then ['\r'] else []

/-- A line with `row` behind the star. -/
def decorated (row : List Char) : List Char :=
  s.indent ++ '*' :: row ++ s.carriage

/-- The comment that opens and closes on lines of their own, with the rows between. -/
def comment (rows : List (List Char)) : List Char :=
  ['/', '*', '*'] ++ ((s.carriage :: rows.map s.decorated).flatMap (· ++ ['\n']) ++ s.indent) ++
    ['*', '/']

private theorem isBlankText_indent : isBlankText s.indent = true := by
  rw [isBlankText_iff]
  intro c hc
  rcases s.indent_blank c hc with rfl | rfl <;> rfl

private theorem isBlankText_carriage : isBlankText s.carriage = true := by
  rw [carriage]
  split <;> rfl

private theorem newline_not_mem_indent : '\n' ∉ s.indent := by
  intro h
  rcases s.indent_blank _ h with h | h <;> exact absurd h (by decide)

private theorem newline_not_mem_carriage : '\n' ∉ s.carriage := by
  rw [carriage]
  split <;> decide

private theorem newline_not_mem_decorated (h : '\n' ∉ row) : '\n' ∉ s.decorated row := by
  simp [decorated, newline_not_mem_indent, newline_not_mem_carriage, h]

/-- The carriage return of the setting is dropped, and no other one, if the line has none of its
own at its end. -/
private theorem dropCarriage_append_carriage (h : line.getLast? ≠ some '\r') :
    dropCarriage (line ++ s.carriage) = line := by
  rw [carriage]
  split
  · exact dropCarriage_concat line
  · rw [List.append_nil, dropCarriage_of_getLast? h]

/-- A comment that is set out over lines is javadoc, since it begins with two stars and a line
end. -/
private theorem isJavadoc_comment (rows : List (List Char)) (n : Nat) :
    (Comment.mk (String.ofList (s.comment rows)) n).isJavadoc = true := by
  have hopen : ['/', '*', '*'].isPrefixOf (s.comment rows) = true := by
    rw [List.isPrefixOf_iff_prefix, comment, List.append_assoc]
    exact List.prefix_append _ _
  have hlong : String.ofList (s.comment rows) ≠ "/**/" := by
    intro heq
    have hmem : '\n' ∈ "/**/".toList := by
      rw [← heq, String.toList_ofList]
      simp [comment]
    exact absurd hmem (by decide)
  simpa [Comment.isJavadoc, hlong] using hopen

/-- The content of a comment that is set out: the rest of the first line, the decorated rows, and
the indentation of the last line. -/
private theorem content_comment (rows : List (List Char)) (n : Nat) :
    (Comment.mk (String.ofList (s.comment rows)) n).content =
      (s.carriage :: rows.map s.decorated).flatMap (· ++ ['\n']) ++ s.indent := by
  have hnote : dropStart? ['/', '/'] (s.comment rows) = none := rfl
  have hopen : dropStart? ['/', '*', '*'] (s.comment rows) =
      some ((s.carriage :: rows.map s.decorated).flatMap (· ++ ['\n']) ++ s.indent ++ ['*', '/']) :=
    dropStart?_eq_some_iff.2 (List.append_assoc _ _ _)
  rw [Comment.content, String.toList_ofList, Comment.contentOf, hnote, hopen]
  simp only [Option.some_or, dropEnd?_eq_some_iff.2 rfl, Option.getD_some]

/-- The lines of a comment that is set out. The first and the last one are blank. -/
private theorem rawLines_comment (hrows : ∀ row ∈ rows, '\n' ∉ row) (n : Nat) :
    rawLines ⟨String.ofList (s.comment rows), n⟩ = s.carriage :: rows.map s.decorated ++
      [s.indent] := by
  have hlines : ∀ l ∈ s.carriage :: rows.map s.decorated, '\n' ∉ l :=
    List.forall_mem_cons.2 ⟨s.newline_not_mem_carriage,
      List.forall_mem_map.2 fun row hrow => s.newline_not_mem_decorated (hrows row hrow)⟩
  rw [rawLines, content_comment, pieces_flatMap_newline hlines s.newline_not_mem_indent]

end Setting

/-- The first character of the line that is no blank begins a block tag. -/
def BeginsTag (line : List Char) : Prop :=
  line.find? (!isBlank ·) = some '@'

instance : DecidablePred BeginsTag := fun line =>
  inferInstanceAs (Decidable (line.find? (!isBlank ·) = some '@'))

/-- A row with nothing but blanks. -/
def IsBlankRow (row : List Char) : Prop :=
  isBlankText row = true ∧ '\n' ∉ row

instance : DecidablePred IsBlankRow := fun row =>
  inferInstanceAs (Decidable (isBlankText row = true ∧ '\n' ∉ row))

/-- What stands behind the star of a line: one space and the text, or any blanks if there is no
text. -/
def SetsOut (row text : List Char) : Prop :=
  row = ' ' :: text ∨ text = [] ∧ IsBlankRow row

/-- Lines that a description can consist of. -/
structure IsDescription (d : List (List Char)) : Prop where
  ne_nil : d ≠ []
  no_newline : ∀ l ∈ d, '\n' ∉ l
  no_carriage : ∀ l ∈ d, l.getLast? ≠ some '\r'
  no_tag : ∀ l ∈ d, ¬ BeginsTag l
  blank_empty : ∀ l ∈ d, isBlankText l = true → l = []
  first_text : ∀ l ∈ d.head?, isBlankText l = false
  last_text : ∀ l ∈ d.getLast?, isBlankText l = false ∧ ∀ c ∈ l.getLast?, isBlank c = false

/-- Lines that begin with a block tag, if there are any. -/
structure IsTagBlock (tags : List (List Char)) : Prop where
  no_newline : ∀ l ∈ tags, '\n' ∉ l
  first_tag : ∀ l ∈ tags.head?, BeginsTag l

/-- Rows that set out a description and block tags, with any number of blank rows before, between
and after. -/
def SetOutAs (rows d tags : List (List Char)) : Prop :=
  ∃ before textRows between tagRows after, rows = before ++ textRows ++ between ++
    tagRows ++ after ∧
    (∀ row ∈ before ++ between ++ after, IsBlankRow row) ∧
    List.Forall₂ SetsOut textRows d ∧ List.Forall₂ SetsOut tagRows tags

/-! ### One line -/

section Row

variable {s : Setting}

/-- What is left of a line in which one blank stands between the star and the text. -/
theorem cleanLine_textRow (text : List Char) :
    cleanLine (s.decorated (' ' :: text)) = emptied (dropCarriage (text ++ s.carriage)) := by
  have hraw : s.decorated (' ' :: text) = (s.indent ++ ['*']) ++ ' ' :: (text ++ s.carriage) := by
    simp [Setting.decorated]
  have hstart : trimStart (dropCarriage (s.decorated (' ' :: text))) =
      '*' :: ' ' :: dropCarriage (text ++ s.carriage) := by
    rw [hraw, dropCarriage_append_cons (by decide), List.append_assoc,
      trimStart_append_of_blank s.isBlankText_indent]
    exact trimStart_cons_of_not_blank rfl
  exact cleanLine_of_star hstart

private theorem cleanLine_of_blank (h : isBlankText line = true) : cleanLine line = [] :=
  cleanLine_eq_nil_iff.2 (.inl (trim_eq_nil_iff.2 h))

/-- Nothing is left of a row that is blank behind its star. -/
private theorem cleanLine_blankRow (hrow : IsBlankRow row) : cleanLine (s.decorated row) = [] := by
  have hstar : trim ('*' :: row) = ['*'] := by
    rw [trim, trimStart_cons_of_not_blank rfl, trimEnd_star_cons_eq_iff]
    exact hrow.1
  refine cleanLine_eq_nil_iff.2 (.inr ?_)
  rw [Setting.decorated, trim_append_blank s.isBlankText_carriage,
    trim_blank_append s.isBlankText_indent, hstar]

/-- A row gives back the line that it sets out, without the carriage return at its end. A line of
blanks would not be given back, hence there must be none. -/
private theorem cleanLine_of_setsOut (hcarriage : line.getLast? ≠ some '\r')
    (hblank : isBlankText line = true → line = []) (h : SetsOut row line) :
    cleanLine (s.decorated row) = line := by
  rcases h with rfl | ⟨rfl, hrow⟩
  · rw [cleanLine_textRow, s.dropCarriage_append_carriage hcarriage, emptied]
    split
    · next hline => exact (hblank hline).symm
    · rfl
  · exact cleanLine_blankRow hrow

/-- A block tag is told by the first character of a line that is no blank. -/
private theorem isTagLine_iff : isTagLine line = true ↔ BeginsTag line := by
  rw [isTagLine, BeginsTag, beq_iff_eq, List.find?_eq_head?_dropWhile_not, trimStart]
  simp

private theorem BeginsTag.not_blank (h : BeginsTag line) : isBlankText line = false := by
  rw [Bool.eq_false_iff]
  intro hblank
  simp [BeginsTag, find?_of_blank hblank] at h

/-- A block tag is seen behind the decoration, also if its line ends in carriage returns of its
own. -/
theorem isTagLine_of_setsOut (htag : BeginsTag line) (h : SetsOut row line) :
    isTagLine (cleanLine (s.decorated row)) = true := by
  rcases h with rfl | ⟨rfl, -⟩
  · have hkept : BeginsTag (dropCarriage (line ++ s.carriage)) := by
      obtain ⟨tail, htail, heq⟩ := exists_eq_dropCarriage_append (line ++ s.carriage)
      rw [BeginsTag, ← find?_append_blank htail, ← heq, find?_append_blank s.isBlankText_carriage]
      exact htag
    rw [cleanLine_textRow, emptied_of_not_blank hkept.not_blank, isTagLine_iff]
    exact hkept
  · exact absurd htag (by simp [BeginsTag])

end Row

/-! ### All lines -/

private theorem newline_not_mem_of_setsOut (h : List.Forall₂ SetsOut rows ls)
    (hls : ∀ l ∈ ls, '\n' ∉ l) :
    ∀ row ∈ rows, '\n' ∉ row := by
  induction h with
  | nil => exact List.forall_mem_nil _
  | cons hrow _ ih =>
    obtain ⟨hline, hls⟩ := List.forall_mem_cons.1 hls
    refine List.forall_mem_cons.2 ⟨?_, ih hls⟩
    rcases hrow with rfl | ⟨-, hblank⟩
    · simp [hline]
    · exact hblank.2

private theorem map_cleanLine_of_setsOut {s : Setting} (h : List.Forall₂ SetsOut rows ls)
    (hcarriage : ∀ l ∈ ls, l.getLast? ≠ some '\r')
    (hblank : ∀ l ∈ ls, isBlankText l = true → l = []) :
    rows.map (fun row => cleanLine (s.decorated row)) = ls := by
  induction h with
  | nil => rfl
  | cons hrow _ ih =>
    obtain ⟨hc, hcarriage⟩ := List.forall_mem_cons.1 hcarriage
    obtain ⟨hb, hblank⟩ := List.forall_mem_cons.1 hblank
    rw [List.map_cons, cleanLine_of_setsOut hc hb hrow, ih hcarriage hblank]

private theorem map_cleanLine_of_blank {s : Setting} (h : ∀ row ∈ rows, IsBlankRow row) :
    ∀ l ∈ rows.map (fun row => cleanLine (s.decorated row)), l = [] :=
  List.forall_mem_map.2 fun row hrow => cleanLine_blankRow (h row hrow)

/-- Lines that begin and end with text are kept, with what follows them up to its last line with
text. -/
theorem dropEmptyEnds_append {before d after : List (List Char)} (hbefore : ∀ l ∈ before, l = [])
    (hne : d ≠ []) (hfirst : ∀ l ∈ d.head?, l ≠ []) (hlast : ∀ l ∈ d.getLast?, l ≠ []) :
    dropEmptyEnds (before ++ d ++ after) = d ++ after.rdropWhile List.isEmpty := by
  have hstart : (before ++ d ++ after).dropWhile List.isEmpty = d ++ after := by
    rw [List.append_assoc, List.dropWhile_append_of_pos fun l hl => by simp [hbefore l hl]]
    obtain ⟨first, rest, rfl⟩ := List.exists_cons_of_ne_nil hne
    exact List.dropWhile_cons_of_neg (by simpa using hfirst first rfl)
  have hend : d.reverse.dropWhile List.isEmpty = d.reverse := by
    obtain ⟨last, init, hd⟩ := List.exists_cons_of_ne_nil (List.reverse_ne_nil_iff.2 hne)
    rw [hd]
    exact List.dropWhile_cons_of_neg
      (by simpa using hlast last (by simpa using congrArg List.head? hd))
  rw [dropEmptyEnds, hstart, List.reverse_append, List.dropWhile_append, hend, List.rdropWhile]
  split
  · next hnil => rw [List.isEmpty_iff.1 hnil, List.reverse_reverse, List.reverse_nil,
      List.append_nil]
  · rw [List.reverse_append, List.reverse_reverse]

/-- Where only empty lines go before the first block tag, this is still so without the empty lines
at the end. -/
theorem eq_nil_of_mem_takeWhile_rdropWhile (h : ∀ l ∈ ls.takeWhile (!isTagLine ·), l = []) :
    ∀ l ∈ (ls.rdropWhile List.isEmpty).takeWhile (!isTagLine ·), l = [] := by
  intro l hl
  obtain ⟨tail, htail⟩ := List.rdropWhile_prefix List.isEmpty ls
  refine h l ?_
  rw [← htail, List.takeWhile_append]
  split
  · exact List.mem_append_left _ ((List.takeWhile_prefix _).mem hl)
  · exact hl

/-- Behind a description there are only empty lines before the first block tag. -/
theorem eq_nil_of_mem_takeWhile_following {s : Setting}
    {between tagRows after tags : List (List Char)} (hbetween : ∀ row ∈ between, IsBlankRow row)
    (hafter : ∀ row ∈ after, IsBlankRow row) (htags : IsTagBlock tags)
    (htagRows : List.Forall₂ SetsOut tagRows tags) :
    ∀ l ∈ ((between ++ tagRows ++ after).map (fun row => cleanLine (s.decorated row)) ++
      [[]]).takeWhile
      (!isTagLine ·), l = [] := by
  have hskip : ∀ l ∈ between.map (fun row => cleanLine (s.decorated row)),
      (!isTagLine l) = true := by
    intro l hl
    rw [map_cleanLine_of_blank hbetween l hl]
    rfl
  rw [List.append_assoc, List.map_append, List.append_assoc, List.takeWhile_append_of_pos hskip]
  refine List.forall_mem_append.2 ⟨map_cleanLine_of_blank hbetween, ?_⟩
  -- Without tags there are only blank rows; otherwise the first of them ends what is taken.
  cases htagRows with
  | nil =>
    intro l hl
    have hmem := (List.takeWhile_prefix _).mem hl
    exact List.forall_mem_append.2 ⟨map_cleanLine_of_blank hafter,
      List.forall_mem_singleton.2 rfl⟩ l hmem
  | cons hrow _ => simp [isTagLine_of_setsOut (htags.first_tag _ rfl) hrow]

/-- The lines read from a comment that is set out around a description: the description, and then
empty lines. -/
theorem exists_descriptionLines_eq (s : Setting) {d tags : List (List Char)} (n : Nat)
    (hd : IsDescription d) (htags : IsTagBlock tags) (hrows : SetOutAs rows d tags) :
    ∃ empty, (∀ l ∈ empty, l = []) ∧
      descriptionLines ⟨String.ofList (s.comment rows), n⟩ = d ++ empty := by
  obtain ⟨before, textRows, between, tagRows, after, rfl, hblank, htext, htagRows⟩ := hrows
  simp only [List.forall_mem_append, and_assoc] at hblank
  obtain ⟨hbefore, hbetween, hafter⟩ := hblank
  have hnewline : ∀ row ∈ before ++ textRows ++ between ++ tagRows ++ after, '\n' ∉ row := by
    simp only [List.forall_mem_append, and_assoc]
    exact ⟨fun row h => (hbefore row h).2, newline_not_mem_of_setsOut htext hd.no_newline,
      fun row h => (hbetween row h).2, newline_not_mem_of_setsOut htagRows htags.no_newline,
      fun row h => (hafter row h).2⟩
  have hlines : (rawLines
      ⟨String.ofList (s.comment (before ++ textRows ++ between ++ tagRows ++ after)), n⟩).map
      cleanLine = ([] :: before.map (fun row => cleanLine (s.decorated row))) ++ d ++
        ((between ++ tagRows ++ after).map (fun row => cleanLine (s.decorated row)) ++ [[]]) := by
    rw [s.rawLines_comment hnewline]
    simp [cleanLine_of_blank s.isBlankText_carriage, cleanLine_of_blank s.isBlankText_indent,
      Function.comp_def, map_cleanLine_of_setsOut htext hd.no_carriage hd.blank_empty]
  have hfirst : ∀ l ∈ d.head?, l ≠ [] := by
    rintro l hl rfl
    exact Bool.noConfusion (hd.first_text [] hl)
  have hlast : ∀ l ∈ d.getLast?, l ≠ [] := by
    rintro l hl rfl
    exact Bool.noConfusion (hd.last_text [] hl).1
  have huntagged : ∀ l ∈ d, (!isTagLine l) = true := by
    intro l hl
    rw [Bool.not_eq_true', Bool.eq_false_iff, Ne, isTagLine_iff]
    exact hd.no_tag l hl
  have hfollowing := eq_nil_of_mem_takeWhile_following (s := s) hbetween hafter htags htagRows
  refine ⟨_, eq_nil_of_mem_takeWhile_rdropWhile hfollowing, ?_⟩
  -- The opening line holds nothing, so there is no blank to drop from it.
  have hopening : ∀ others, dropLeadingSpace ([] :: others) = [] :: others := fun _ => rfl
  have hempty : ∀ l ∈ [] :: before.map (fun row => cleanLine (s.decorated row)), l = [] :=
    List.forall_mem_cons.2 ⟨rfl, map_cleanLine_of_blank hbefore⟩
  rw [descriptionLines, hlines, List.cons_append, List.cons_append, hopening, ← List.cons_append,
    ← List.cons_append, dropEmptyEnds_append hempty hd.ne_nil hfirst hlast,
    List.takeWhile_append_of_pos huntagged]

/-- The last line of a description ends it, so nothing is trimmed. -/
theorem IsDescription.trimEnd_intercalate {d : List (List Char)} (hd : IsDescription d) :
    trimEnd (['\n'].intercalate d) = ['\n'].intercalate d := by
  obtain ⟨init, last, rfl⟩ : ∃ init last, d = init ++ [last] :=
    ⟨d.dropLast, d.getLast hd.ne_nil, (List.dropLast_append_getLast hd.ne_nil).symm⟩
  obtain ⟨htext, hchar⟩ := hd.last_text last (by simp)
  have hlast : trimEnd last = last := trimEnd_of_getLast? ((Option.any_eq_false _ _).2 hchar)
  by_cases hinit : init = []
  · rw [hinit, List.nil_append, List.intercalate_singleton, hlast]
  · rw [intercalate_append _ hinit, List.flatMap_singleton, ← List.append_assoc,
      trimEnd_append_of_not_blank htext, hlast]

/-- **A description undoes the decoration of its comment.** Whatever the indentation and the line
ends, and however many blank lines are set out before the description, between it and the block
tags and at the end, the description is read back as it was. -/
theorem description_comment (s : Setting) {d tags : List (List Char)} (n : Nat)
    (hd : IsDescription d) (htags : IsTagBlock tags) (hrows : SetOutAs rows d tags) :
    description ⟨String.ofList (s.comment rows), n⟩ = ['\n'].intercalate d := by
  obtain ⟨empty, hempty, hlines⟩ := exists_descriptionLines_eq s n hd htags hrows
  have hblank : isBlankText (empty.flatMap (['\n'] ++ ·)) = true := by
    rw [isBlankText_iff]
    intro c hc
    obtain ⟨l, hl, hcl⟩ := List.mem_flatMap.1 hc
    rw [hempty l hl, List.append_nil, List.mem_singleton] at hcl
    rw [hcl]
    rfl
  rw [description, if_pos (s.isJavadoc_comment rows n), hlines, intercalate_append _ hd.ne_nil,
    trimEnd_append_of_blank hblank, hd.trimEnd_intercalate]

/-- A comment with lines that end in a carriage return and a line feed. -/
def windows : Setting :=
  ⟨[' ', '\t'], true, by simp⟩

/-- A description with an empty line, a line of its own stars and deeper indentation, and a tag
after it. -/
theorem description_windows :
    let d := ["Reads.".toList, [], "* all".toList, "  but the last".toList]
    let rows := [[], " Reads.".toList, [], " * all".toList, "   but the last".toList, [' '],
      " @return x".toList, []]
    IsDescription d ∧ IsTagBlock ["@return x".toList] ∧ SetOutAs rows d ["@return x".toList] ∧
      description ⟨String.ofList (windows.comment rows), 7⟩ =
        "Reads.\n\n* all\n  but the last".toList := by
  intro d rows
  have hd : IsDescription d := by
    refine ⟨by decide, by decide, by decide, by decide, by decide, by decide, ?_⟩
    rintro l ⟨⟩
    refine ⟨by decide, ?_⟩
    rintro c ⟨⟩
    rfl
  have htags : IsTagBlock ["@return x".toList] := by
    constructor <;> decide
  have hrows : SetOutAs rows d ["@return x".toList] := by
    refine ⟨[[]], [" Reads.".toList, [], " * all".toList, "   but the last".toList], [[' ']],
      [" @return x".toList], [[]], rfl, by decide, ?_, ?_⟩
    · exact .cons (.inl rfl)
        (.cons (.inr ⟨rfl, by decide⟩) (.cons (.inl rfl) (.cons (.inl rfl) .nil)))
    · exact .cons (.inl rfl) .nil
  refine ⟨hd, htags, hrows, ?_⟩
  rw [description_comment windows 7 hd htags hrows]
  decide

end Excerpt.Javadoc
