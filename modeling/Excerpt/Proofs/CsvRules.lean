import Excerpt.Proofs.ScopeTags
import Excerpt.Rule.File

/-!
# Rules as comma-separated values

Rules are written below a header, one on a line, and read back as they were (`ofCsv_written`). A
row is cut at its first four commas, so the last field keeps its own. Blanks around a field, blank
lines, lines with too few fields and the way in which lines end make no difference.

What may stand in a text besides its rules is described by a relation between lines and rules
(`HoldRules`): a line holds a rule, or it is blank or too short and holds none. The theorem is
about all texts that are made up in this way, and not only about those that a certain printer
writes.

The proof goes from a line to all lines. A row that is written from a rule gives this rule back
(`ruleOfLine?_row`), and carriage returns at the ends of lines are taken off by the trimming of
the fields, so it does not matter that lines keep them (`read_dropCarriage`, `readings_lines`).

## Main results

* `ruleOfLine?_row`: one rule is read back.
* `ruleOfLine?_of_count_lt`: a short line holds no rule.
* `ofCsv_written`: all rules of a text are read back.
-/

namespace Excerpt.Csv

open Text

/-! ### Written rules -/

/-- Blanks before and after a field, on the same line. -/
structure Padding where
  before : List Char
  after : List Char
  before_blank : isBlankText before = true
  after_blank : isBlankText after = true
  before_line : '\n' ∉ before
  after_line : '\n' ∉ after

/-- The field with blanks around it. -/
def Padding.around (p : Padding) (field : String) : List Char :=
  p.before ++ field.toList ++ p.after

/-- The fields of a rule, in the order of the columns. -/
def fields (r : Rule) : List String :=
  [r.id, r.scope, r.description, r.criteria, r.context]

/-- The rule on a line, with blanks around its fields. -/
def row (r : Rule) (pads : Fin 5 → Padding) : List Char :=
  (pads 0).around r.id ++ ',' ::
    ((pads 1).around r.scope ++ ',' :: ((pads 2).around r.description ++
    ',' :: ((pads 3).around r.criteria ++ ',' :: (pads 4).around r.context)))

/-- A rule that can be written on a line: its fields are single lines without blanks at their
ends, and only the last one may hold commas. -/
structure IsWritable (r : Rule) : Prop where
  no_newline : ∀ f ∈ fields r, '\n' ∉ f.toList
  no_leading_blank : ∀ f ∈ fields r, f.toList.head?.any isBlank = false
  no_trailing_blank : ∀ f ∈ fields r, f.toList.getLast?.any isBlank = false
  no_comma : ∀ f ∈ (fields r).take 4, ',' ∉ f.toList

/-- The lines below a header hold the rules, in this order, and besides blank lines and lines with
fewer than four commas. -/
inductive HoldRules : List (List Char) → List Rule → Prop
  | nil : HoldRules [] []
  | rule {r : Rule} {rs : List Rule} {ls : List (List Char)} (hr : IsWritable r)
      (pads : Fin 5 → Padding) (rest : HoldRules ls rs) :
    HoldRules (row r pads :: ls) (r :: rs)
  | blank {line rs ls} (hblank : isBlankText line = true) (hline : '\n' ∉ line)
      (rest : HoldRules ls rs) :
    HoldRules (line :: ls) rs
  | short {line rs ls} (hcommas : line.count ',' < 4) (hline : '\n' ∉ line)
      (rest : HoldRules ls rs) :
    HoldRules (line :: ls) rs

/-- The text consists of the lines: each ends in a line feed, perhaps with a carriage return
before it, and the last one may end with the text. -/
inductive ConsistsOf : List Char → List (List Char) → Prop
  | nil : ConsistsOf [] []
  | last (line : List Char) : ConsistsOf line [line]
  | feed {text ls} (line : List Char) (rest : ConsistsOf text ls) :
      ConsistsOf (line ++ '\n' :: text) (line :: ls)
  | carriage {text ls} (line : List Char) (rest : ConsistsOf text ls) :
    ConsistsOf (line ++ '\r' :: '\n' :: text) (line :: ls)

/-! ### One line -/

variable {text cs line header : List Char} {ls : List (List Char)} {field : String} {r : Rule}
  {rs : List Rule}

/-- A comma is no blank, so padding around a field does not cut a row. -/
private theorem comma_not_mem_of_blank (h : isBlankText cs = true) : ',' ∉ cs :=
  fun hmem => absurd (isBlankText_iff.1 h _ hmem) (by decide)

/-- Padding is taken off again, if the field itself neither begins nor ends with a blank. -/
private theorem trim_around (p : Padding) (hstart : field.toList.head?.any isBlank = false)
    (hend : field.toList.getLast?.any isBlank = false) : trim (p.around field) = field.toList := by
  rw [Padding.around, trim_append_blank p.after_blank, trim_blank_append p.before_blank,
    trim_of_no_outer_blank hstart hend]

private theorem comma_not_mem_around (p : Padding) (h : ',' ∉ field.toList) :
    ',' ∉ p.around field := by
  simp [Padding.around, comma_not_mem_of_blank p.before_blank,
    comma_not_mem_of_blank p.after_blank, h]

private theorem newline_not_mem_around (p : Padding) (h : '\n' ∉ field.toList) :
    '\n' ∉ p.around field := by
  simp [Padding.around, p.before_line, p.after_line, h]

/-- **A written rule is read back**, with the commas of its last field. -/
theorem ruleOfLine?_row (hr : IsWritable r) (pads : Fin 5 → Padding) :
    ruleOfLine? (row r pads) = some r := by
  have hcomma : ∀ f ∈ (fields r).take 4, ∀ p : Padding, ',' ∉ p.around f := fun f hf p =>
    comma_not_mem_around p (hr.no_comma f hf)
  -- only the first four fields must be free of commas: the rest of the line is the fifth
  have hpieces : piecesUpTo ',' 4 (row r pads) = [(pads 0).around r.id, (pads 1).around r.scope,
      (pads 2).around r.description, (pads 3).around r.criteria, (pads 4).around r.context] := by
    rw [row, piecesUpTo_append_cons (hcomma r.id (by simp [fields]) _),
      piecesUpTo_append_cons (hcomma r.scope (by simp [fields]) _),
      piecesUpTo_append_cons (hcomma r.description (by simp [fields]) _),
      piecesUpTo_append_cons (hcomma r.criteria (by simp [fields]) _), piecesUpTo]
  have htrim : ∀ f ∈ fields r, ∀ p : Padding, String.ofList (trim (p.around f)) = f := by
    intro f hf p
    rw [trim_around p (hr.no_leading_blank f hf) (hr.no_trailing_blank f hf), String.ofList_toList]
  have hfields : (piecesUpTo ',' 4 (row r pads)).map (fun field => String.ofList (trim field)) =
      fields r := by
    simp only [fields, List.forall_mem_cons] at htrim
    obtain ⟨hid, hscope, hdescription, hcriteria, hcontext, -⟩ := htrim
    simp only [hpieces, List.map_cons, List.map_nil, hid, hscope, hdescription, hcriteria,
      hcontext, fields]
  rw [ruleOfLine?, hfields]
  rfl

/-- A line with fewer than four commas has fewer than five fields. -/
theorem ruleOfLine?_of_count_lt (h : line.count ',' < 4) : ruleOfLine? line = none := by
  have hlength := length_piecesUpTo_le ',' 4 line
  rw [ruleOfLine?]
  split
  · next heq =>
    have hfive := congrArg List.length heq
    rw [List.length_map] at hfive
    simp only [List.length_cons, List.length_nil] at hfive
    omega
  · rfl

/-- Blanks at the end of a line belong to the last field, which is trimmed. This is what makes a
carriage return harmless. -/
private theorem ruleOfLine?_append_blank (h : isBlankText cs = true) :
    ruleOfLine? (line ++ cs) = ruleOfLine? line := by
  have hfields : ∀ l, (piecesUpTo ',' 4 l).map (fun field => String.ofList (trim field)) =
      ((piecesUpTo ',' 4 l).map trim).map String.ofList := fun l => by rw [List.map_map]; rfl
  rw [ruleOfLine?, hfields, map_trim_piecesUpTo_append h (comma_not_mem_of_blank h), ← hfields,
    ruleOfLine?]

/-- A row has commas, so it is never taken for a blank line, even if all its fields are empty. -/
private theorem isBlankText_row (r : Rule) (pads : Fin 5 → Padding) :
    isBlankText (row r pads) = false := by
  rw [Bool.eq_false_iff]
  intro h
  exact comma_not_mem_of_blank h (by simp [row])

private theorem newline_not_mem_row (hr : IsWritable r) (pads : Fin 5 → Padding) :
    '\n' ∉ row r pads := by
  have hnewline : ∀ f ∈ fields r, ∀ p : Padding, '\n' ∉ p.around f := fun f hf p =>
    newline_not_mem_around p (hr.no_newline f hf)
  simp only [fields, List.forall_mem_cons] at hnewline
  obtain ⟨hid, hscope, hdescription, hcriteria, hcontext, -⟩ := hnewline
  simp [row, hid, hscope, hdescription, hcriteria, hcontext]

/-! ### All lines -/

/-- A line that loses a carriage return is read as the line itself, and is blank if that is. -/
theorem read_dropCarriage (line : List Char) : isBlankText (dropCarriage line) = isBlankText line ∧
    ruleOfLine? (dropCarriage line) = ruleOfLine? line := by
  obtain ⟨tail, htail, hline⟩ := exists_eq_dropCarriage_append line
  have hblank : isBlankText line = isBlankText (dropCarriage line) := by
    conv_lhs => rw [hline, isBlankText_append, htail, Bool.and_true]
  have hrule : ruleOfLine? line = ruleOfLine? (dropCarriage line) := by
    conv_lhs => rw [hline, ruleOfLine?_append_blank htail]
  exact ⟨hblank.symm, hrule.symm⟩

/-- What the lines of a text that are not blank are read as, one after the other. -/
def readings (ls : List (List Char)) : List (Option Rule) :=
  (ls.filter (!isBlankText ·)).map ruleOfLine?

private theorem readings_append (ls ms : List (List Char)) :
    readings (ls ++ ms) = readings ls ++ readings ms := by
  rw [readings, List.filter_append, List.map_append, readings, readings]

private theorem readings_cons (line : List Char) (ls : List (List Char)) :
    readings (line :: ls) = readings [line] ++ readings ls :=
  readings_append [line] ls

private theorem readings_of_blank (h : ∀ l ∈ ls, isBlankText l = true) : readings ls = [] := by
  have hnone : ls.filter (!isBlankText ·) = [] := by simpa using h
  rw [readings, hnone, List.map_nil]

private theorem readings_singleton (h : isBlankText line = false) :
    readings [line] = [ruleOfLine? line] := by
  simp [readings, h]

/-- A line reads the same with and without its carriage return. -/
private theorem readings_dropCarriage (line : List Char) :
    readings [dropCarriage line] = readings [line] := by
  obtain ⟨hblank, hrule⟩ := read_dropCarriage line
  cases h : isBlankText line with
  | true =>
    rw [readings_of_blank (List.forall_mem_singleton.2 (hblank.trans h)),
      readings_of_blank (List.forall_mem_singleton.2 h)]
  | false => rw [readings_singleton h, readings_singleton (hblank.trans h), hrule]

/-- The rules of a text are those of the readings of its lines, without the first, which is the
header. Blank lines leave no reading, so they may stand before the header. -/
private theorem rulesOfCsv_eq (text : List Char) :
    rulesOfCsv text = ((readings (lines text)).drop 1).filterMap id := by
  rw [rulesOfCsv, readings, ← List.map_drop, List.filterMap_map, Function.id_comp]

/-- **Line ends make no difference.** -/
theorem readings_lines (h : ConsistsOf text ls) (hls : ∀ l ∈ ls, '\n' ∉ l) :
    readings (lines text) = readings ls := by
  induction h with
  | nil => rfl
  | last line =>
    by_cases hne : line = []
    · rw [hne]
      rfl
    · rw [lines_of_newline_free hne (hls line List.mem_cons_self)]
  | feed line _ ih =>
    obtain ⟨hline, hls⟩ := List.forall_mem_cons.1 hls
    rw [lines_append_newline hline, readings_cons, readings_dropCarriage, ih hls, ← readings_cons]
  | @carriage text ls line _ ih =>
    obtain ⟨hline, hls⟩ := List.forall_mem_cons.1 hls
    have hends : line ++ '\r' :: '\n' :: text = (line ++ ['\r']) ++ '\n' :: text := by simp
    have hcarriage : '\n' ∉ line ++ ['\r'] := by simp [hline]
    rw [hends, lines_append_newline hcarriage, dropCarriage_concat, readings_cons, ih hls,
      ← readings_cons]

private theorem HoldRules.newline_not_mem (h : HoldRules ls rs) : ∀ l ∈ ls, '\n' ∉ l := by
  induction h with
  | nil => exact List.forall_mem_nil _
  | rule hr pads _ ih => exact List.forall_mem_cons.2 ⟨newline_not_mem_row hr pads, ih⟩
  | blank _ hline _ ih => exact List.forall_mem_cons.2 ⟨hline, ih⟩
  | short _ hline _ ih => exact List.forall_mem_cons.2 ⟨hline, ih⟩

/-- Of the lines below a header those that hold a rule are read as one. -/
theorem HoldRules.filterMap_readings (h : HoldRules ls rs) : (readings ls).filterMap id = rs := by
  induction h with
  | nil => rfl
  | @rule r rs ls hr pads _ ih =>
    rw [readings_cons, readings_singleton (isBlankText_row r pads), ruleOfLine?_row hr pads,
      List.filterMap_append, ih]
    rfl
  | blank hblank _ _ ih =>
    rw [readings_cons, readings_of_blank (List.forall_mem_singleton.2 hblank), List.nil_append, ih]
  | @short line rs ls hcommas _ _ ih =>
    -- The line may be blank as well, and is then not even looked at.
    have hnone : (readings [line]).filterMap id = [] := by
      cases h : isBlankText line with
      | true => rw [readings_of_blank (List.forall_mem_singleton.2 h), List.filterMap_nil]
      | false => rw [readings_singleton h, ruleOfLine?_of_count_lt hcommas]; rfl
    rw [readings_cons, List.filterMap_append, hnone, List.nil_append, ih]

/-- **Written rules are read back.** A text that consists of blank lines, a header and lines that
hold rules has exactly these rules, in their order and with their tags, and the settings of a rule
set without any. -/
theorem ofCsv_written {text : String} {before rows : List (List Char)} {header : List Char}
    {rs : List Rule} (hbefore : ∀ l ∈ before, isBlankText l = true ∧ '\n' ∉ l)
    (hheader : isBlankText header = false) (hline : '\n' ∉ header) (hrows : HoldRules rows rs)
    (htext : ConsistsOf text.toList (before ++ header :: rows)) :
    RuleSet.ofCsv text = { rules := rs } ∧
      (RuleSet.ofCsv text).rules.map Rule.tags = rs.map fun r => scopeTags r.scope.toList := by
  have hnewline : ∀ l ∈ before ++ header :: rows, '\n' ∉ l :=
    List.forall_mem_append.2 ⟨fun l hl => (hbefore l hl).2,
      List.forall_mem_cons.2 ⟨hline, hrows.newline_not_mem⟩⟩
  have hread : readings (lines text.toList) = ruleOfLine? header :: readings rows := by
    rw [readings_lines htext hnewline, readings_append,
      readings_of_blank fun l hl => (hbefore l hl).1, List.nil_append, readings_cons,
      readings_singleton hheader, List.singleton_append]
  have hrules : rulesOfCsv text.toList = rs := by
    rw [rulesOfCsv_eq, hread, List.drop_succ_cons, List.drop_zero, hrows.filterMap_readings]
  have hset : RuleSet.ofCsv text = { rules := rs } := by
    rw [RuleSet.ofCsv, hrules]
  refine ⟨hset, ?_⟩
  rw [hset]
  exact List.map_congr_left fun r _ => r.tags_eq_scopeTags

/-- One blank on each side of a field. -/
def spaced : Padding :=
  ⟨[' '], [' '], rfl, rfl, by decide, by decide⟩

/-- No blanks around a field. -/
def unspaced : Padding :=
  ⟨[], [], rfl, rfl, by decide, by decide⟩

/-- A rule with commas in its last field, a line with too few fields, and a rule without any
text. -/
theorem ofCsv_guide :
    let guide : Rule := ⟨"R-1", "JAVADOC", "", "a b", "see p. 3, 4"⟩
    let text := "\n \nid,scope\r\n R-1 , JAVADOC ,  , a b , see p. 3, 4 \r\nR-2,too few\n\t\n,,,,"
    IsWritable guide ∧ RuleSet.ofCsv text = { rules := [guide, ⟨"", "", "", "", ""⟩] } ∧
      (RuleSet.ofCsv text).rules.map Rule.tags = [[.javadoc], []] := by
  intro guide text
  have hguide : IsWritable guide := ⟨by decide, by decide, by decide, by decide⟩
  have hempty : IsWritable ⟨"", "", "", "", ""⟩ := ⟨by decide, by decide, by decide, by decide⟩
  have hrows : HoldRules [row guide fun _ => spaced, "R-2,too few".toList, ['\t'],
      row _ fun _ => unspaced]
      [guide, ⟨"", "", "", "", ""⟩] :=
    .rule hguide _ (.short (by decide) (by decide) (.blank rfl (by decide) (.rule hempty _ .nil)))
  have hlines : text.toList = [] ++ '\n' :: ([' '] ++ '\n' :: ("id,scope".toList ++ '\r' :: '\n' ::
      (row guide (fun _ => spaced) ++ '\r' :: '\n' ::
        ("R-2,too few".toList ++ '\n' :: (['\t'] ++ '\n' ::
        row ⟨"", "", "", "", ""⟩ fun _ => unspaced))))) := by
    decide
  have htext : ConsistsOf text.toList
      ([[], [' ']] ++ "id,scope".toList :: [row guide fun _ => spaced,
      "R-2,too few".toList, ['\t'], row ⟨"", "", "", "", ""⟩ fun _ => unspaced]) :=
    hlines ▸ .feed _ (.feed _ (.carriage _ (.carriage _ (.feed _ (.feed _ (.last _))))))
  obtain ⟨hset, htags⟩ := ofCsv_written (by decide) (by decide) (by decide) hrows htext
  exact ⟨hguide, hset, htags.trans (by decide)⟩

end Excerpt.Csv
