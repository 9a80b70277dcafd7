import Mathlib.Data.List.DropRight
import Mathlib.Data.List.Infix
import Excerpt.Text.Basic

/-!
# Blanks and lines of a text

What the cuts of a text keep. Nearly every reader of the project cuts texts: rules are cut into
lines and fields, comments into lines, paths into components, identifiers into words. This module
collects what they need to know about the cuts.

* **Letters.** Capital and small letters are told apart by their codes.
* **Beginnings and ends.** Taking a text off the beginning or the end of another one is putting it
  there, read backwards (`dropStart?_eq_some_iff`, `dropEnd?_eq_some_iff`).
* **Blanks.** Trimming takes blanks off the ends and nothing else, so a text that neither begins
  nor ends with a blank occurs in a text exactly if it occurs in the trimmed one
  (`trim_infix_trim`).
* **Pieces.** The pieces of a text are those the library's `List.splitOnP` gives, so its lemmas
  are at hand (`pieces_eq_splitOnP`). Where the number of pieces is limited, there is a separator
  between any two of them (`length_piecesUpTo_le`).
* **Lines.** A line may lose a carriage return, which is a blank at its end. Hence lines that are
  trimmed anyway are the same whatever ends them (`trim_dropCarriage`).
* **Joined lines.** Lines that are joined again, with their separator between them.
-/

namespace Excerpt.Text

variable {p cs ds rest : List Char} {c : Char}

/-! ### Capital and small letters

The case of an ASCII letter is a matter of arithmetic on character codes, so these lemmas leave
goals about cases to `omega`. -/

/-- The codes of capital letters. -/
theorem isUpper_iff : c.isUpper = true ↔ 65 ≤ c.toNat ∧ c.toNat ≤ 90 := by
  unfold Char.isUpper
  simp [UInt32.le_iff_toNat_le]

/-- The codes of small letters. -/
theorem isLower_iff : c.isLower = true ↔ 97 ≤ c.toNat ∧ c.toNat ≤ 122 := by
  unfold Char.isLower
  simp [UInt32.le_iff_toNat_le]

/-- The small letter that belongs to a capital one comes 32 places after it. -/
theorem toNat_toLower (c : Char) :
    c.toLower.toNat = if 65 ≤ c.toNat ∧ c.toNat ≤ 90 then c.toNat + 32 else c.toNat := by
  have hupper : c.val ≥ 'A'.val ∧ c.val ≤ 'Z'.val ↔ 65 ≤ c.toNat ∧ c.toNat ≤ 90 := Iff.rfl
  unfold Char.toLower
  split
  · next h =>
    have hbound : 65 ≤ c.val.toNat ∧ c.val.toNat ≤ 90 := hupper.mp h
    rw [if_pos (hupper.mp h)]
    change (c.val + 32).toNat = c.val.toNat + 32
    rw [UInt32.toNat_add]
    change (c.val.toNat + 32) % 2 ^ 32 = c.val.toNat + 32
    omega
  · next h => rw [if_neg (mt hupper.mpr h)]

/-- The capital letter that belongs to a small one comes 32 places before it. The code is
subtracted in machine words, where 4294967264 stands for -32. -/
theorem toNat_toUpper (c : Char) :
    c.toUpper.toNat = if 97 ≤ c.toNat ∧ c.toNat ≤ 122 then c.toNat - 32 else c.toNat := by
  have hlower : c.val ≥ 'a'.val ∧ c.val ≤ 'z'.val ↔ 97 ≤ c.toNat ∧ c.toNat ≤ 122 := Iff.rfl
  unfold Char.toUpper
  split
  · next h =>
    have hbound : 97 ≤ c.val.toNat ∧ c.val.toNat ≤ 122 := hlower.mp h
    rw [if_pos (hlower.mp h)]
    change (c.val + 4294967264).toNat = c.val.toNat - 32
    rw [UInt32.toNat_add]
    change (c.val.toNat + 4294967264) % 2 ^ 32 = c.val.toNat - 32
    omega
  · next h => rw [if_neg (mt hlower.mpr h)]

/-! ### Beginnings and ends -/

/-- A text is taken off the beginning of the texts that begin with it. -/
theorem dropStart?_eq_some_iff : dropStart? p cs = some rest ↔ cs = p ++ rest := by
  fun_induction dropStart? p cs with
  | case1 cs => simp
  | case2 a p => simp
  | case3 p a cs ih => simpa using ih
  | case4 a p c cs hne => simp [Ne.symm hne]

/-- A text is taken off the end of the texts that end with it. -/
theorem dropEnd?_eq_some_iff : dropEnd? p cs = some rest ↔ cs = rest ++ p := by
  rw [dropEnd?, Option.map_eq_some_iff]
  constructor
  · rintro ⟨back, hback, rfl⟩
    rw [dropStart?_eq_some_iff] at hback
    simpa using congrArg List.reverse hback
  · rintro rfl
    exact ⟨rest.reverse, dropStart?_eq_some_iff.2 (by simp), List.reverse_reverse rest⟩

/-- A character at the end is taken off. -/
theorem getD_dropEnd?_concat (c : Char) (cs : List Char) :
    (dropEnd? [c] (cs ++ [c])).getD (cs ++ [c]) = cs := by
  rw [dropEnd?_eq_some_iff.2 rfl, Option.getD_some]

/-- Nothing is taken off a text that ends in another character. -/
theorem getD_dropEnd?_of_getLast? (h : cs.getLast? ≠ some c) : (dropEnd? [c] cs).getD cs = cs := by
  cases hdrop : dropEnd? [c] cs with
  | none => rw [Option.getD_none]
  | some rest =>
    rw [dropEnd?_eq_some_iff] at hdrop
    exact absurd (by simp [hdrop]) h

/-- A text occurs in another one if it is a part of it without gaps. -/
theorem occursIn_iff_isInfix : occursIn p cs = true ↔ p <:+: cs := by
  induction cs with
  | nil => simp [occursIn]
  | cons c cs ih =>
    rw [occursIn, Bool.or_eq_true, ih, List.isPrefixOf_iff_prefix, List.infix_cons_iff]

/-! ### Blanks -/

/-- A text is blank if all its characters are blanks. -/
theorem isBlankText_iff : isBlankText cs = true ↔ ∀ c ∈ cs, isBlank c = true :=
  List.all_eq_true

/-- A text is blank if both its parts are. -/
@[simp]
theorem isBlankText_append : isBlankText (cs ++ ds) = (isBlankText cs && isBlankText ds) :=
  List.all_append

private theorem trimEnd_eq_rdropWhile (cs : List Char) : trimEnd cs = cs.rdropWhile isBlank := rfl

/-- The empty text is blank. -/
theorem isBlankText_nil : isBlankText [] = true :=
  rfl

/-- What begins a blank text is blank. -/
theorem isBlankText_takeWhile (p : Char → Bool) (hcs : isBlankText cs = true) :
    isBlankText (cs.takeWhile p) = true :=
  isBlankText_iff.2 fun c hc => isBlankText_iff.1 hcs c ((List.takeWhile_prefix p).mem hc)

/-- Blanks at the beginning are taken off, with all that is taken off behind them. -/
theorem trimStart_append_of_blank (hcs : isBlankText cs = true) :
    trimStart (cs ++ ds) = trimStart ds :=
  List.dropWhile_append_of_pos (isBlankText_iff.1 hcs)

/-- Blanks at the end are taken off, with all that is taken off before them. -/
theorem trimEnd_append_of_blank (hds : isBlankText ds = true) :
    trimEnd (cs ++ ds) = trimEnd cs := by
  have hback : ∀ c ∈ ds.reverse, isBlank c = true :=
    fun c hc => isBlankText_iff.1 hds c (List.mem_reverse.1 hc)
  rw [trimEnd, trimEnd, List.reverse_append, List.dropWhile_append_of_pos hback]

/-- Nothing is left of blank texts, and only of these. -/
theorem trimStart_eq_nil_iff : trimStart cs = [] ↔ isBlankText cs = true :=
  List.dropWhile_eq_nil_iff.trans isBlankText_iff.symm

/-- Nothing is left of blank texts, and only of these, read backwards. -/
theorem trimEnd_eq_nil_iff : trimEnd cs = [] ↔ isBlankText cs = true :=
  List.rdropWhile_eq_nil_iff.trans isBlankText_iff.symm

/-- Nothing is taken off a text that begins with no blank. -/
theorem trimStart_cons_of_not_blank (hc : isBlank c = false) : trimStart (c :: cs) = c :: cs :=
  List.dropWhile_cons_of_neg (by simp [hc])

/-- What ends in a text that is not blank keeps all before it. -/
theorem trimEnd_append_of_not_blank (hds : isBlankText ds = false) :
    trimEnd (cs ++ ds) = cs ++ trimEnd ds := by
  have hback : ds.reverse.dropWhile isBlank ≠ [] := by
    intro hnil
    rw [List.dropWhile_eq_nil_iff] at hnil
    have hblank : isBlankText ds = true :=
      isBlankText_iff.2 fun c hc => hnil c (List.mem_reverse.2 hc)
    simp [hds] at hblank
  simp [trimEnd, List.dropWhile_append, hback]

/-- What is taken off the beginning is blank. -/
theorem exists_eq_append_trimStart (cs : List Char) :
    ∃ ds, isBlankText ds = true ∧ cs = ds ++ trimStart cs :=
  ⟨cs.takeWhile isBlank, isBlankText_iff.2 fun _ hc => List.mem_takeWhile_imp hc,
    List.takeWhile_append_dropWhile.symm⟩

/-- What is taken off the end is blank. -/
theorem exists_eq_trimEnd_append (cs : List Char) :
    ∃ ds, isBlankText ds = true ∧ cs = trimEnd cs ++ ds :=
  ⟨cs.rtakeWhile isBlank, isBlankText_iff.2 fun _ hc => List.mem_rtakeWhile_imp hc,
    List.rdropWhile_append_rtakeWhile.symm⟩

/-- A text is blank just if it is without its leading blanks. -/
theorem isBlankText_trimStart : isBlankText (trimStart cs) = isBlankText cs := by
  obtain ⟨ds, hds, hcs⟩ := exists_eq_append_trimStart cs
  conv_rhs => rw [hcs, isBlankText_append, hds, Bool.true_and]

/-- Nothing is left of blank texts, and only of these, at both ends. -/
theorem trim_eq_nil_iff : trim cs = [] ↔ isBlankText cs = true := by
  rw [trim, trimEnd_eq_nil_iff, isBlankText_trimStart]

/-- Blanks before a text do not matter where it is trimmed. -/
theorem trim_blank_append (hcs : isBlankText cs = true) : trim (cs ++ ds) = trim ds := by
  rw [trim, trimStart_append_of_blank hcs, trim]

/-- Blanks behind a text do not matter where it is trimmed. -/
theorem trim_append_blank (hds : isBlankText ds = true) : trim (cs ++ ds) = trim cs := by
  by_cases hblank : isBlankText cs = true
  · rw [trim_eq_nil_iff.2 hblank, trim_eq_nil_iff, isBlankText_append, hblank, hds, Bool.true_and]
  · have hne : trimStart cs ≠ [] := mt trimStart_eq_nil_iff.1 hblank
    have hstart : trimStart (cs ++ ds) = trimStart cs ++ ds := by
      rw [trimStart] at hne
      simp [trimStart, List.dropWhile_append, hne]
    rw [trim, hstart, trimEnd_append_of_blank hds, trim]

/-- Nothing is taken off a text that ends in no blank. -/
theorem trimEnd_of_getLast? (h : cs.getLast?.any isBlank = false) : trimEnd cs = cs := by
  rw [trimEnd_eq_rdropWhile, List.rdropWhile_eq_self_iff]
  intro hne
  rw [List.getLast?_eq_some_getLast hne] at h
  simpa using h

/-- Nothing is taken off a text that neither begins nor ends with a blank. -/
theorem trim_of_no_outer_blank (hstart : cs.head?.any isBlank = false)
    (hend : cs.getLast?.any isBlank = false) :
    trim cs = cs := by
  have hkept : trimStart cs = cs := by
    cases cs with
    | nil => rfl
    | cons c cs => exact trimStart_cons_of_not_blank hstart
  rw [trim, hkept, trimEnd_of_getLast? hend]

/-- Nothing is taken off a text without blanks. -/
theorem trim_of_forall_not_blank (hcs : ∀ c ∈ cs, isBlank c = false) : trim cs = cs := by
  refine trim_of_no_outer_blank ?_ ?_
  · cases cs with
    | nil => rfl
    | cons c cs => exact hcs c List.mem_cons_self
  · cases hlast : cs.getLast? with
    | none => rfl
    | some c => exact hcs c (List.mem_of_getLast? hlast)

/-- Trimming the end twice is trimming it once. -/
theorem trim_trimEnd (cs : List Char) : trim (trimEnd cs) = trim cs := by
  obtain ⟨ds, hds, hcs⟩ := exists_eq_trimEnd_append cs
  conv_rhs => rw [hcs, trim_append_blank hds]

/-- What is left of a text is a part of it. -/
theorem trim_isInfix (cs : List Char) : trim cs <:+: cs :=
  (List.rdropWhile_prefix isBlank (trimStart cs)).isInfix.trans
    (List.dropWhile_suffix isBlank).isInfix

/-- A text that begins with no blank occurs in what is left of a text without its leading blanks. -/
theorem infix_trimStart (hp : trimStart p = p) (h : p <:+: cs) : p <:+: trimStart cs := by
  obtain ⟨before, after, rfl⟩ := h
  -- The leading blanks end in what goes before `p`, or they end where `p` begins.
  by_cases hblank : isBlankText before = true
  · rw [List.append_assoc, trimStart_append_of_blank hblank, trimStart, List.dropWhile_append]
    rw [trimStart] at hp
    rw [hp]
    split
    · next hnil => simp [List.isEmpty_iff.1 hnil]
    · exact (List.prefix_append p after).isInfix
  · have hne : before.dropWhile isBlank ≠ [] := mt trimStart_eq_nil_iff.1 hblank
    rw [List.append_assoc, trimStart, List.dropWhile_append, if_neg (by simpa using hne)]
    exact ⟨_, after, List.append_assoc _ _ _⟩

/-- The same at the other end, read backwards. -/
theorem infix_trimEnd (hp : trimEnd p = p) (h : p <:+: cs) : p <:+: trimEnd cs := by
  have hback : trimStart p.reverse = p.reverse := by
    rw [← List.reverse_inj, List.reverse_reverse]
    exact hp
  have hinfix := infix_trimStart hback (List.reverse_infix.2 h)
  rw [← List.reverse_infix, trimEnd, List.reverse_reverse]
  exact hinfix

/-- A trimmed text begins with no blank. -/
theorem trimStart_trim (cs : List Char) : trimStart (trim cs) = trim cs := by
  by_cases hnil : trimStart cs = []
  · rw [trim, hnil]
    rfl
  · obtain ⟨c, rest, hstart⟩ := List.exists_cons_of_ne_nil hnil
    have hc : isBlank c = false := by
      have hhead := List.head_dropWhile_not isBlank hnil
      simpa [show cs.dropWhile isBlank = c :: rest from hstart] using hhead
    -- Trimming the end does not reach the first character.
    have hkept : trim cs = c :: trimEnd rest ∨ trim cs = [c] := by
      by_cases hrest : isBlankText rest = true
      · refine .inr ?_
        rw [trim, hstart, show c :: rest = [c] ++ rest from rfl, trimEnd_append_of_blank hrest]
        simp [trimEnd, hc]
      · refine .inl ?_
        rw [trim, hstart, show c :: rest = [c] ++ rest from rfl,
          trimEnd_append_of_not_blank (Bool.eq_false_iff.2 hrest), List.singleton_append]
    rcases hkept with h | h <;> rw [h, trimStart_cons_of_not_blank hc]

/-- A text is blank just if it is when trimmed. -/
theorem isBlankText_trim (cs : List Char) : isBlankText (trim cs) = isBlankText cs := by
  rw [Bool.eq_iff_iff, ← @trim_eq_nil_iff cs, ← trimStart_eq_nil_iff, trimStart_trim]

/-- **Trimming loses nothing but blanks at the ends**: a trimmed text that occurs in a text occurs
in the trimmed one. -/
theorem trim_infix_trim (h : trim p <:+: cs) : trim p <:+: trim cs := by
  have hend : trimEnd (trim p) = trim p := List.rdropWhile_idempotent isBlank (trimStart p)
  exact infix_trimEnd hend (infix_trimStart (trimStart_trim p) h)

/-- A blank text has no other character. -/
theorem find?_of_blank (hcs : isBlankText cs = true) : cs.find? (!isBlank ·) = none := by
  simpa using isBlankText_iff.1 hcs

/-- The first character that is no blank is not affected by blanks at the end. -/
theorem find?_append_blank (hds : isBlankText ds = true) :
    (cs ++ ds).find? (!isBlank ·) = cs.find? (!isBlank ·) := by
  rw [List.find?_append, find?_of_blank hds, Option.or_none]

/-! ### Pieces -/

/-- The pieces of a text are those of the library. -/
theorem pieces_eq_splitOnP (sep : Char → Bool) (cs : List Char) :
    pieces sep cs = cs.splitOnP sep := by
  induction cs with
  | nil => rfl
  | cons c cs ih =>
    rw [pieces, List.splitOnP_cons_eq_if_modifyHead, ih]
    split
    · rfl
    · cases hsplit : cs.splitOnP sep with
      | nil => exact absurd hsplit (List.splitOnP_ne_nil sep cs)
      | cons w ws => rfl

private theorem pieces_append_newline (hcs : '\n' ∉ cs) (ds : List Char) :
    pieces (· == '\n') (cs ++ '\n' :: ds) = cs :: pieces (· == '\n') ds := by
  have hno : ∀ c ∈ cs, (c == '\n') = false := fun c hc => beq_false_of_ne fun h => hcs (h ▸ hc)
  simp only [pieces_eq_splitOnP]
  exact List.splitOnP_append_cons_of_forall_mem hno '\n' (by rfl) ds

private theorem pieces_of_newline_free (hcs : '\n' ∉ cs) : pieces (· == '\n') cs = [cs] := by
  have hno : ∀ c ∈ cs, (c == '\n') = false := fun c hc => beq_false_of_ne fun h => hcs (h ▸ hc)
  rw [pieces_eq_splitOnP, List.splitOnP_eq_singleton hno]

/-- Lines with a line feed after each of them, and what follows the last one. -/
theorem pieces_flatMap_newline {ls : List (List Char)} (hls : ∀ l ∈ ls, '\n' ∉ l)
    (hcs : '\n' ∉ cs) :
    pieces (· == '\n') (ls.flatMap (· ++ ['\n']) ++ cs) = ls ++ [cs] := by
  induction ls with
  | nil => exact pieces_of_newline_free hcs
  | cons l ls ih =>
    obtain ⟨hl, hrest⟩ := List.forall_mem_cons.1 hls
    rw [List.flatMap_cons, List.append_assoc, List.append_assoc, List.singleton_append,
      pieces_append_newline hl, ih hrest, List.cons_append]

private theorem not_sep_of_mem_pieces {sep : Char → Bool} {w : List Char} (hw : w ∈ pieces sep cs) :
    ∀ c ∈ w, sep c = false := by
  induction cs generalizing w with
  | nil =>
    rw [pieces, List.mem_singleton] at hw
    simp [hw]
  | cons d cs ih =>
    rw [pieces] at hw
    split at hw
    · rcases List.mem_cons.1 hw with rfl | hw
      · exact List.forall_mem_nil _
      · exact ih hw
    · next hd =>
      have hd : sep d = false := Bool.eq_false_iff.2 hd
      split at hw
      · rw [List.mem_singleton.1 hw]
        exact List.forall_mem_singleton.2 hd
      · next v vs hpieces =>
        rcases List.mem_cons.1 hw with rfl | hw
        · exact List.forall_mem_cons.2 ⟨hd, ih (by simp [hpieces])⟩
        · exact ih (by simp [hpieces, hw])

/-- The pieces at one character are those of the library. -/
theorem pieces_eq_splitOn (sep : Char) (cs : List Char) :
    pieces (· == sep) cs = cs.splitOn sep := by
  rw [pieces_eq_splitOnP, List.splitOn_eq_splitOnP]

/-- No piece holds the separator. -/
theorem sep_not_mem_of_mem_splitOn {sep : Char} {w : List Char} (hw : w ∈ cs.splitOn sep) :
    sep ∉ w := by
  rw [← pieces_eq_splitOn] at hw
  intro hmem
  simpa using not_sep_of_mem_pieces hw sep hmem

/-- No line holds a line feed. -/
theorem newline_not_mem_of_mem_pieces {w : List Char} (hw : w ∈ pieces (· == '\n') cs) : '\n' ∉ w :=
  sep_not_mem_of_mem_splitOn (pieces_eq_splitOn '\n' cs ▸ hw)

/-- What stands before a text and holds no separator goes to its first piece. -/
theorem splitOn_append_of_not_mem {sep : Char} (hcs : sep ∉ cs) (ds : List Char) :
    (cs ++ ds).splitOn sep = (ds.splitOn sep).modifyHead (cs ++ ·) := by
  obtain ⟨w, ws, hds⟩ := List.exists_cons_of_ne_nil (List.splitOn_ne_nil sep ds)
  induction cs with
  | nil => simp [hds]
  | cons c cs ih =>
    have hc : (c == sep) = false := beq_false_of_ne fun heq => hcs (heq ▸ List.mem_cons_self)
    have hrest := ih fun hmem => hcs (List.mem_cons_of_mem _ hmem)
    rw [List.cons_append, List.splitOn_cons_eq_if_modifyHead, hc, hrest, hds]
    rfl

/-- The first piece ends at the first separator. -/
theorem cutAt_append_cons {sep : Char} (hcs : sep ∉ cs) (ds : List Char) :
    cutAt sep (cs ++ sep :: ds) = (cs, some ds) := by
  induction cs with
  | nil => rw [List.nil_append, cutAt, if_pos rfl]
  | cons c cs ih =>
    have hc : c ≠ sep := fun heq => hcs (heq ▸ List.mem_cons_self)
    have hrest := ih fun hmem => hcs (List.mem_cons_of_mem _ hmem)
    rw [List.cons_append, cutAt, if_neg hc, hrest]

private theorem cutAt_of_not_mem {sep : Char} (hcs : sep ∉ cs) : cutAt sep cs = (cs, none) := by
  induction cs with
  | nil => rfl
  | cons c cs ih =>
    have hc : c ≠ sep := fun heq => hcs (heq ▸ List.mem_cons_self)
    have hrest := ih fun hmem => hcs (List.mem_cons_of_mem _ hmem)
    rw [cutAt, if_neg hc, hrest]

/-- Before what follows the last separator stands the separator, or nothing. -/
theorem exists_eq_append_afterLast (sep : Char) (cs : List Char) :
    ∃ before, cs = before ++ afterLast sep cs ∧ (before = [] ∨ ∃ stem, before = stem ++ [sep]) := by
  refine ⟨(cs.reverse.dropWhile (· != sep)).reverse, ?_, ?_⟩
  · rw [afterLast, ← List.reverse_append, List.takeWhile_append_dropWhile, List.reverse_reverse]
  · cases hrest : cs.reverse.dropWhile (· != sep) with
    | nil => exact .inl rfl
    | cons c rest =>
      have hc : c = sep := by
        have hhead := List.head_dropWhile_not (· != sep) (l := cs.reverse) (by simp [hrest])
        simpa [hrest] using hhead
      exact .inr ⟨rest.reverse, by rw [hc, List.reverse_cons]⟩

private theorem bne_of_mem_reverse {sep : Char} (hcs : sep ∉ cs) :
    ∀ c ∈ cs.reverse, (c != sep) = true := by
  intro c hc
  simpa using fun heq : c = sep => hcs (heq ▸ List.mem_reverse.1 hc)

/-- What follows the last separator begins behind it. -/
theorem afterLast_append_cons {sep : Char} {ext : List Char} (hext : sep ∉ ext) (stem : List Char) :
    afterLast sep (stem ++ sep :: ext) = ext := by
  rw [afterLast, List.reverse_append, List.reverse_cons, List.append_assoc,
    List.takeWhile_append_of_pos (bne_of_mem_reverse hext)]
  simp

/-- Without a separator, the whole text follows the last one. -/
theorem afterLast_of_not_mem {sep : Char} (hcs : sep ∉ cs) : afterLast sep cs = cs := by
  rw [afterLast, List.takeWhile_eq_self_iff.2 (bne_of_mem_reverse hcs), List.reverse_reverse]

/-- The first of a number of pieces ends at the first separator. -/
theorem piecesUpTo_append_cons {sep : Char} (hcs : sep ∉ cs) (n : Nat) (ds : List Char) :
    piecesUpTo sep (n + 1) (cs ++ sep :: ds) = cs :: piecesUpTo sep n ds := by
  rw [piecesUpTo, cutAt_append_cons hcs]

private theorem piecesUpTo_of_not_mem {sep : Char} (hcs : sep ∉ cs) (n : Nat) :
    piecesUpTo sep n cs = [cs] := by
  cases n with
  | zero => rfl
  | succ n => rw [piecesUpTo, cutAt_of_not_mem hcs]

/-- There is a separator between any two pieces. -/
theorem length_piecesUpTo_le (sep : Char) (n : Nat) (cs : List Char) :
    (piecesUpTo sep n cs).length ≤ cs.count sep + 1 := by
  induction n generalizing cs with
  | zero => exact Nat.le_add_left _ _
  | succ n ih =>
    by_cases hmem : sep ∈ cs
    · obtain ⟨w, rest, rfl, hw⟩ := List.eq_append_cons_of_mem hmem
      have hrest := ih rest
      rw [piecesUpTo_append_cons hw, List.length_cons, List.count_append, List.count_cons_self]
      omega
    · rw [piecesUpTo_of_not_mem hmem]
      exact Nat.le_add_left _ _

/-- Blanks at the end of a text are blanks at the end of its last piece. -/
theorem map_trim_piecesUpTo_append {sep : Char} (hds : isBlankText ds = true)
    (hsep : sep ∉ ds) (n : Nat) (cs : List Char) :
    (piecesUpTo sep n (cs ++ ds)).map trim = (piecesUpTo sep n cs).map trim := by
  induction n generalizing cs with
  | zero => simp [piecesUpTo, trim_append_blank hds]
  | succ n ih =>
    by_cases hmem : sep ∈ cs
    · obtain ⟨w, rest, rfl, hw⟩ := List.eq_append_cons_of_mem hmem
      rw [List.append_assoc, List.cons_append, piecesUpTo_append_cons hw, piecesUpTo_append_cons hw,
        List.map_cons, List.map_cons, ih]
    · have hboth : sep ∉ cs ++ ds := by simp [hmem, hsep]
      rw [piecesUpTo_of_not_mem hboth, piecesUpTo_of_not_mem hmem, List.map_singleton,
        List.map_singleton, trim_append_blank hds]

/-! ### Lines -/

/-- A carriage return at the end of a line is taken off. -/
theorem dropCarriage_concat (cs : List Char) : dropCarriage (cs ++ ['\r']) = cs :=
  getD_dropEnd?_concat '\r' cs

/-- A line that ends in another character is kept. -/
theorem dropCarriage_of_getLast? (h : cs.getLast? ≠ some '\r') : dropCarriage cs = cs :=
  getD_dropEnd?_of_getLast? h

private theorem dropCarriage_cases (cs : List Char) :
    (∃ init, cs = init ++ ['\r'] ∧ dropCarriage cs = init) ∨
      (cs.getLast? ≠ some '\r' ∧ dropCarriage cs = cs) := by
  by_cases hlast : cs.getLast? = some '\r'
  · have hcs : cs = cs.dropLast ++ ['\r'] := (List.dropLast_append_getLast? '\r' hlast).symm
    exact .inl ⟨cs.dropLast, hcs, by rw [hcs, dropCarriage_concat, List.dropLast_concat]⟩
  · exact .inr ⟨hlast, dropCarriage_of_getLast? hlast⟩

/-- Only what follows another character can lose its last one. -/
theorem dropCarriage_append_cons (hc : c ≠ '\r') (cs ds : List Char) :
    dropCarriage (cs ++ c :: ds) = cs ++ c :: dropCarriage ds := by
  obtain ⟨init, rfl, hdrop⟩ | ⟨hlast, hdrop⟩ := dropCarriage_cases ds
  · rw [hdrop, ← List.cons_append, ← List.append_assoc, dropCarriage_concat]
  · rw [hdrop, dropCarriage_of_getLast?]
    cases ds with
    | nil => simpa using hc
    | cons d ds => simpa [List.getLast?_append, List.getLast?_cons_cons] using hlast

/-- What a line loses at its end is blank. -/
theorem exists_eq_dropCarriage_append (cs : List Char) :
    ∃ ds, isBlankText ds = true ∧ cs = dropCarriage cs ++ ds := by
  obtain ⟨init, hcs, hdrop⟩ | ⟨-, hdrop⟩ := dropCarriage_cases cs
  · exact ⟨['\r'], rfl, by rw [hdrop, ← hcs]⟩
  · exact ⟨[], rfl, by rw [hdrop, List.append_nil]⟩

/-- A carriage return at the end does not matter where a line is trimmed. -/
theorem trim_dropCarriage (cs : List Char) : trim (dropCarriage cs) = trim cs := by
  obtain ⟨ds, hds, hcs⟩ := exists_eq_dropCarriage_append cs
  conv_rhs => rw [hcs, trim_append_blank hds]

/-- A line keeps what it begins with. -/
theorem dropCarriage_isPrefix (cs : List Char) : dropCarriage cs <+: cs := by
  obtain ⟨ds, -, hcs⟩ := exists_eq_dropCarriage_append cs
  exact ⟨ds, hcs.symm⟩

/-- The first line of a text ends at the first line feed. -/
theorem lines_append_newline (hcs : '\n' ∉ cs) (ds : List Char) :
    lines (cs ++ '\n' :: ds) = dropCarriage cs :: lines ds := by
  have hne : pieces (· == '\n') ds ≠ [] := by
    rw [pieces_eq_splitOnP]
    exact List.splitOnP_ne_nil _ ds
  obtain ⟨w, ws, hw⟩ := List.exists_cons_of_ne_nil hne
  simp [lines, pieces_append_newline hcs, hw]

/-- A text without line feeds is one line. -/
theorem lines_of_newline_free (hne : cs ≠ []) (hcs : '\n' ∉ cs) : lines cs = [cs] := by
  simp [lines, pieces_of_newline_free hcs, hne]

/-! ### Joined lines -/

/-- The first of joined texts is followed by each of the others with a separator before it. -/
theorem intercalate_cons {α : Type} (sep x : List α) (xs : List (List α)) :
    sep.intercalate (x :: xs) = x ++ xs.flatMap (sep ++ ·) := by
  induction xs generalizing x with
  | nil => simp
  | cons y xs ih =>
    rw [List.intercalate_cons_cons, ih, List.flatMap_cons, List.append_assoc, List.append_assoc]

/-- Joined texts are followed by further ones with a separator before each. -/
theorem intercalate_append {α : Type} (sep : List α) {xs : List (List α)} (hne : xs ≠ [])
    (ys : List (List α)) :
    sep.intercalate (xs ++ ys) = sep.intercalate xs ++ ys.flatMap (sep ++ ·) := by
  obtain ⟨x, xs, rfl⟩ := List.exists_cons_of_ne_nil hne
  rw [List.cons_append, intercalate_cons, intercalate_cons, List.flatMap_append, List.append_assoc]

end Excerpt.Text
