import Excerpt.Detect.Concurrency
import Excerpt.Java.Cursor
import Excerpt.Proofs.Lines
import Excerpt.Proofs.OwningStatements

/-!
# Qualified types

A class type is a list of segments between dots, each a name that may have type arguments. Its
simple name ought to be that of the last segment. The text is cut at its first angle bracket, so
that the name is that of the first segment with type arguments, and the last segment counts only
if no segment before it has any.

Detectors that ask for the type of a lock, of a thread or of a list go by this name
(`recognised_by_reached`). The theorem says for each of them what is reported, in terms of the
segment that is reached and not of the text.

The proof is about the text up to this segment (`exists_split_reached`): it has no type arguments,
and what follows the name of the segment is nothing or begins with an angle bracket, blanks apart.
That the cuts leave the name is then a matter of characters, as names hold neither brackets nor
dots (`ne_of_isNameChar`).

## Main results

* `exists_split_reached`: the text of a class type around the segment that is reached.
* `simpleTypeChars_append`: what the cuts leave.
* `recognised_by_reached`: by which name a class type is recognised.
-/

namespace Excerpt

open Text

/-! ### Names -/

namespace Text

variable {c : Char}

/-- The code points of blanks. -/
def blankCodes : List Nat :=
  [9, 10, 11, 12, 13, 0x20, 0x85, 0xA0, 0x1680, 0x2000, 0x2001, 0x2002, 0x2003, 0x2004, 0x2005,
    0x2006, 0x2007, 0x2008, 0x2009, 0x200A, 0x2028, 0x2029, 0x202F, 0x205F, 0x3000]

private theorem toNat_mem_blankCodes (hc : isBlank c = true) : c.toNat ∈ blankCodes := by
  simp only [isBlank, Bool.or_eq_true, Bool.and_eq_true, decide_eq_true_eq, beq_iff_eq] at hc
  simp only [blankCodes, List.mem_cons, List.not_mem_nil, or_false]
  omega

/-- The character may stand in a name. -/
def isNameChar (c : Char) : Bool :=
  isNameStart c || isNamePart c

/-- No blank is a character of a name. There are few blanks, so each of them is looked up in the
tables for names. -/
private theorem isNameChar_of_mem_blankCodes :
    ∀ n ∈ blankCodes, isNameChar (Char.ofNat n) = false := by
  decide +kernel

/-- Names hold no blanks. -/
private theorem isBlank_of_isNameChar (hc : isNameChar c = true) : isBlank c = false := by
  rw [Bool.eq_false_iff]
  intro hblank
  have hno := isNameChar_of_mem_blankCodes c.toNat (toNat_mem_blankCodes hblank)
  rw [Char.ofNat_toNat, hc] at hno
  cases hno

/-- Names hold no brackets and no dots. -/
theorem ne_of_isNameChar (hc : isNameChar c = true) : c ≠ '<' ∧ c ≠ '[' ∧ c ≠ '.' := by
  refine ⟨?_, ?_, ?_⟩ <;> (rintro rfl; revert hc; decide)

end Text

private theorem Java.isNameChar_of_mem_name {name : List Char} (hname : nameAt? name = some name) :
    ∀ c ∈ name, isNameChar c = true := by
  cases name with
  | nil => simp
  | cons c rest =>
    rw [nameAt?, Option.ite_none_right_eq_some, Option.some.injEq, List.cons.injEq,
      List.takeWhile_eq_self_iff] at hname
    obtain ⟨hstart, -, hrest⟩ := hname
    refine List.forall_mem_cons.2 ⟨?_, fun d hd => ?_⟩
    · rw [isNameChar, hstart, Bool.true_or]
    · rw [isNameChar, hrest d hd, Bool.or_true]

/-! ### Class types -/

/-- Each angle bracket of the text closes or is closed. -/
inductive Balanced : List Char → Prop
  | nil : Balanced []
  | plain {c : Char} {cs : List Char} (hopen : c ≠ '<') (hclose : c ≠ '>') (hcs : Balanced cs) :
      Balanced (c :: cs)
  | nested {inner cs : List Char} (hinner : Balanced inner) (hcs : Balanced cs) :
      Balanced ('<' :: inner ++ '>' :: cs)

/-- A segment of a class type: a name, and the text between the angle brackets if it has type
arguments. -/
structure TypeSegment where
  name : String
  args : Option (List Char) := none
  isName : Java.nameAt? name.toList = some name.toList
  balanced : ∀ text ∈ args, Balanced text

/-- A class type as it is written, perhaps with blanks around it. -/
structure ClassType where
  before : List Char := []
  /-- The segments before the last one. -/
  qualifiers : List TypeSegment
  last : TypeSegment
  /-- Number of array brackets. -/
  dimensions : Nat := 0
  after : List Char := []
  before_blank : isBlankText before = true := by rfl
  after_blank : isBlankText after = true := by rfl

/-- The type arguments in their brackets. -/
def TypeSegment.brackets (s : TypeSegment) : List Char :=
  match s.args with
  | some text => '<' :: text ++ ['>']
  | none => []

/-- The name of the segment and its type arguments. -/
def TypeSegment.chars (s : TypeSegment) : List Char :=
  s.name.toList ++ s.brackets

namespace ClassType

variable (c : ClassType)

/-- The array brackets and the blanks behind them. -/
def ending : List Char :=
  (List.replicate c.dimensions ['[', ']']).flatten ++ c.after

/-- The segments with dots between them, and what stands around the type. -/
def chars : List Char :=
  c.before ++ (c.qualifiers.flatMap (·.chars ++ ['.']) ++ c.last.chars) ++ c.ending

/-- The type as it is written. -/
def text : String :=
  String.ofList c.chars

/-- The first segment with type arguments, or the last segment if none has any. -/
def reached : TypeSegment :=
  (c.qualifiers.find? (·.args.isSome)).getD c.last

end ClassType

/-- Names with a dot behind each of them. -/
structure IsQualifier (cs : List Char) : Prop where
  chars : ∀ c ∈ cs, isNameChar c = true ∨ c = '.'
  dotted : cs = [] ∨ ∃ stem, cs = stem ++ ['.']

/-- Nothing may stand before a name. -/
theorem IsQualifier.nil : IsQualifier [] :=
  ⟨nofun, .inl rfl⟩

/-- A name and a dot may stand before what else stands before a name. -/
theorem IsQualifier.append {name cs : List Char} (hname : ∀ c ∈ name, isNameChar c = true)
    (hcs : IsQualifier cs) :
    IsQualifier (name ++ '.' :: cs) := by
  refine ⟨?_, .inr ?_⟩
  · intro c hc
    rcases List.mem_append.1 hc with hc | hc
    · exact .inl (hname c hc)
    · rcases List.mem_cons.1 hc with rfl | hc
      · exact .inr rfl
      · exact hcs.chars c hc
  · rcases hcs.dotted with rfl | ⟨stem, rfl⟩
    · exact ⟨name, rfl⟩
    · exact ⟨name ++ '.' :: stem, by simp⟩

/-- The text up to the segment that is reached has no type arguments, and what follows the name of
this segment is nothing or begins with an angle bracket. -/
theorem exists_split_reached (qualifiers : List TypeSegment) (last : TypeSegment) :
    ∃ before after, IsQualifier before ∧ (after = [] ∨ ∃ rest, after = '<' :: rest) ∧
      qualifiers.flatMap (·.chars ++ ['.']) ++ last.chars =
        before ++ ((qualifiers.find? (·.args.isSome)).getD last).name.toList ++ after := by
  induction qualifiers with
  | nil =>
    refine ⟨[], last.brackets, .nil, ?_, rfl⟩
    rw [TypeSegment.brackets]
    split
    · exact .inr ⟨_, rfl⟩
    · exact .inl rfl
  | cons s qualifiers ih =>
    cases hargs : s.args with
    | some text =>
      refine ⟨[], '<' :: (text ++ ['>'] ++ ['.'] ++ qualifiers.flatMap (·.chars ++ ['.']) ++
        last.chars), .nil,
        .inr ⟨_, rfl⟩, ?_⟩
      simp [TypeSegment.chars, TypeSegment.brackets, hargs]
    | none =>
      -- a segment without arguments is passed: it becomes part of the qualifier
      obtain ⟨before, after, hbefore, hafter, hsplit⟩ := ih
      refine ⟨s.name.toList ++ '.' :: before, after,
        hbefore.append (Java.isNameChar_of_mem_name s.isName), hafter, ?_⟩
      have hs : s.chars = s.name.toList := by simp [TypeSegment.chars, TypeSegment.brackets, hargs]
      rw [List.flatMap_cons, List.append_assoc, hsplit, hs]
      simp [hargs]

/-! ### Simple names -/

namespace IsQualifier

variable {before name : List Char}

/-- There are no blanks in qualifiers without type arguments, nor in the name behind them. -/
private theorem isBlank_eq_false (hbefore : IsQualifier before)
    (hname : ∀ c ∈ name, isNameChar c = true) :
    ∀ c ∈ before ++ name, isBlank c = false := by
  intro c hc
  rcases List.mem_append.1 hc with hc | hc
  · rcases hbefore.chars c hc with hc | rfl
    · exact isBlank_of_isNameChar hc
    · rfl
  · exact isBlank_of_isNameChar (hname c hc)

private theorem ne_bracket (hbefore : IsQualifier before)
    (hname : ∀ c ∈ name, isNameChar c = true) :
    ∀ c ∈ before ++ name, c ≠ '<' ∧ c ≠ '[' := by
  intro c hc
  rcases List.mem_append.1 hc with hc | hc
  · rcases hbefore.chars c hc with hc | rfl
    · exact ⟨(ne_of_isNameChar hc).1, (ne_of_isNameChar hc).2.1⟩
    · decide
  · exact ⟨(ne_of_isNameChar (hname c hc)).1, (ne_of_isNameChar (hname c hc)).2.1⟩

/-- What follows the last dot is the name, which holds none. -/
private theorem afterLast_eq (hbefore : IsQualifier before)
    (hname : ∀ c ∈ name, isNameChar c = true) :
    afterLast '.' (before ++ name) = name := by
  have hdot : '.' ∉ name := fun hmem => (ne_of_isNameChar (hname '.' hmem)).2.2 rfl
  rcases hbefore.dotted with rfl | ⟨stem, rfl⟩
  · exact afterLast_of_not_mem hdot
  · rw [List.append_assoc, List.singleton_append, afterLast_append_cons hdot]

end IsQualifier

/-- The cuts leave the name that ends before a bracket, before blanks or at the end of the text. -/
theorem simpleTypeChars_append {blanks before name after : List Char}
    (hblanks : isBlankText blanks = true) (hbefore : IsQualifier before)
    (hname : ∀ c ∈ name, isNameChar c = true)
    (hafter : isBlankText ((after.takeWhile (· != '<')).takeWhile (· != '[')) = true) :
    simpleTypeChars (blanks ++ (before ++ name) ++ after) = name := by
  -- neither cut can fall before the end of the name
  have hplain : ∀ c ∈ blanks ++ (before ++ name), c ≠ '<' ∧ c ≠ '[' := by
    intro c hc
    rcases List.mem_append.1 hc with hc | hc
    · refine ⟨?_, ?_⟩ <;> (rintro rfl; cases isBlankText_iff.1 hblanks _ hc)
    · exact hbefore.ne_bracket hname c hc
  have hangle : (blanks ++ (before ++ name) ++ after).takeWhile (· != '<') =
      blanks ++ (before ++ name) ++ after.takeWhile (· != '<') :=
    List.takeWhile_append_of_pos fun c hc => bne_iff_ne.2 (hplain c hc).1
  have hsquare : (blanks ++ (before ++ name) ++ after.takeWhile (· != '<')).takeWhile (· != '[') =
      blanks ++ (before ++ name) ++ (after.takeWhile (· != '<')).takeWhile (· != '[') :=
    List.takeWhile_append_of_pos fun c hc => bne_iff_ne.2 (hplain c hc).2
  have hwhole : trim (before ++ name) = before ++ name :=
    trim_of_forall_not_blank (hbefore.isBlank_eq_false hname)
  have hlast : trim name = name :=
    trim_of_forall_not_blank fun c hc => isBlank_of_isNameChar (hname c hc)
  rw [simpleTypeChars, hangle, hsquare, trim_append_blank hafter, trim_blank_append hblanks, hwhole,
    hbefore.afterLast_eq hname, hlast]

namespace ClassType

variable (c : ClassType)

/-- Behind the last segment stand only blanks before the first bracket. -/
theorem isBlankText_ending :
    isBlankText ((c.ending.takeWhile (· != '<')).takeWhile (· != '[')) = true := by
  rw [ending]
  cases c.dimensions with
  | zero => exact isBlankText_takeWhile _ (isBlankText_takeWhile _ c.after_blank)
  | succ n => rfl

/-- **The simple name of a class type** is the name of the segment that is reached: the cut at the
first bracket ends behind this name, and the cut at the last dot begins before it. -/
private theorem simpleTypeName_text : simpleTypeName c.text = c.reached.name := by
  obtain ⟨before, after, hbefore, hafter, hsplit⟩ := exists_split_reached c.qualifiers c.last
  have hname : ∀ d ∈ c.reached.name.toList, isNameChar d = true :=
    Java.isNameChar_of_mem_name c.reached.isName
  have hblank : isBlankText (((after ++ c.ending).takeWhile (· != '<')).takeWhile (· != '[')) =
      true := by
    rcases hafter with rfl | ⟨rest, rfl⟩
    · exact c.isBlankText_ending
    · rfl
  have hchars : c.chars = c.before ++ (before ++ c.reached.name.toList) ++ (after ++ c.ending) := by
    rw [chars, hsplit, reached]
    simp only [List.append_assoc]
  rw [simpleTypeName, text, String.toList_ofList, hchars,
    simpleTypeChars_append c.before_blank hbefore hname hblank, String.ofList_toList]

/-- Where no qualifier has type arguments, the last segment is reached. -/
private theorem reached_eq_last (h : ∀ s ∈ c.qualifiers, s.args = none) : c.reached = c.last := by
  have hnone : c.qualifiers.find? (·.args.isSome) = none := by
    rw [List.find?_eq_none]
    intro s hs
    simp [h s hs]
  rw [reached, hnone, Option.getD_none]

end ClassType

/-! ### Types that are asked for -/

namespace Detect

variable {t : SyntaxTree} {i : NodeId} {args : List NodeId} {value : Option NodeId}
  {types : List String}
  {type setter name path : String} {rule : Rule} {fs : List Finding}

/-- The construction of a lock is reported by its type alone. -/
theorem lock_ne_nil_iff (hkind : t.kind i = .expr (.creation type args))
    (hfs : (lock types).detect ⟨t, i, rule, path⟩ = .completed fs) :
    fs ≠ [] ↔ simpleTypeName type ∈ types := by
  rw [lock, Detector.searching, Outcome.ofSearch_eq_completed_iff] at hfs
  simp only [Context.kind, hkind, List.contains_iff_mem] at hfs
  split at hfs
  · next hmem =>
    obtain ⟨code, -, hfs⟩ := Option.bind_eq_some_iff.1 hfs
    cases hfs
    simp [hmem]
  · next hmem =>
    cases hfs
    simp [hmem]

private theorem nameFinding_ne_nil {cx : Context} {arg : NodeId}
    (h : nameFinding cx arg = some fs) : fs ≠ [] := by
  obtain ⟨found, rfl, -⟩ := exists_of_nameFinding h
  exact List.cons_ne_nil found []

/-- The construction of a thread is reported if an argument may be its name. -/
theorem threadName_ne_nil_iff (hkind : t.kind i = .expr (.creation type args))
    (hfs : (threadName types setter).detect ⟨t, i, rule, path⟩ = .completed fs) :
    fs ≠ [] ↔ simpleTypeName type ∈ types ∧ ∃ arg ∈ args, isNameArgument (t.kind arg) = true := by
  rw [threadName, Detector.searching, Outcome.ofSearch_eq_completed_iff] at hfs
  simp only [Context.kind, hkind, List.contains_iff_mem] at hfs
  split at hfs
  · next hmem =>
    obtain ⟨hsome, rfl⟩ := gather_eq_some_iff.1 hfs
    rw [and_iff_right hmem, ne_eq, List.flatMap_eq_nil_iff, not_forall]
    refine exists_congr fun arg => ?_
    rw [Classical.not_imp]
    refine and_congr_right fun harg => ?_
    -- the call has completed, so the search has at each of the arguments
    obtain ⟨here, hhere⟩ := Option.isSome_iff_exists.1 (hsome arg harg)
    rw [hhere, Option.getD_some]
    obtain ⟨j, hj, hhere⟩ := Option.bind_eq_some_iff.1 hhere
    obtain ⟨-, rfl⟩ := SyntaxTree.follow_eq_some_iff.1 hj
    split at hhere
    · next hargument => exact iff_of_true (nameFinding_ne_nil hhere) hargument
    · next hargument =>
      cases hhere
      exact iff_of_false (fun h => h rfl) hargument
  · next hmem =>
    cases hfs
    simp [hmem]

/-- A variable is recognised by its name and by the simple name of its type. -/
private theorem declares_iff (hkind : t.kind i = .declarator type value) :
    Declares t types name i ↔ (t.node i).nameText = name ∧ simpleTypeName type ∈ types := by
  rw [Declares]
  constructor
  · rintro ⟨type', value', hkind', hdeclares⟩
    obtain ⟨rfl, -⟩ := Kind.declarator.inj (hkind.symm.trans hkind')
    exact hdeclares
  · intro hdeclares
    exact ⟨type, value, hkind, hdeclares⟩

/-- **By which name a class type is recognised.** The simple name of a class type is the name of
its first segment with type arguments, or of the last segment if no other has any. By this name
the construction of a lock and of a thread and the declaration of a list are recognised. -/
theorem recognised_by_reached (c : ClassType) (types : List String) (t : SyntaxTree) (i : NodeId) :
    simpleTypeName c.text = c.reached.name ∧
    ((∀ s ∈ c.qualifiers, s.args = none) → c.reached = c.last) ∧
      (∀ args rule path fs, t.kind i = .expr (.creation c.text args) →
        (lock types).detect ⟨t, i, rule, path⟩ = .completed fs →
        (fs ≠ [] ↔ c.reached.name ∈ types)) ∧
      (∀ args setter rule path fs, t.kind i = .expr (.creation c.text args) →
        (threadName types setter).detect ⟨t, i, rule, path⟩ = .completed fs →
          (fs ≠ [] ↔ c.reached.name ∈ types ∧ ∃ arg ∈ args, isNameArgument (t.kind arg) = true)) ∧
      ∀ value name, t.kind i = .declarator c.text value →
        (Declares t types name i ↔ (t.node i).nameText = name ∧ c.reached.name ∈ types) := by
  refine ⟨c.simpleTypeName_text, c.reached_eq_last, ?_, ?_, ?_⟩
  · intro args rule path fs hkind hfs
    rw [lock_ne_nil_iff hkind hfs, c.simpleTypeName_text]
  · intro args setter rule path fs hkind hfs
    rw [threadName_ne_nil_iff hkind hfs, c.simpleTypeName_text]
  · intro value name hkind
    rw [declares_iff hkind, c.simpleTypeName_text]

private theorem balanced_singleton {c : Char} (hopen : c ≠ '<') (hclose : c ≠ '>') :
    ∀ text ∈ some [c], Balanced text := by
  rintro text ⟨⟩
  exact .plain hopen hclose .nil

/-- A lock that is a member of a class with type arguments. -/
def memberLock : ClassType where
  qualifiers := [⟨"Pool", some ['A'], by decide, balanced_singleton (by decide) (by decide)⟩]
  last := ⟨"ReentrantLock", none, by decide,
    fun text htext => absurd htext (Option.not_mem_none text)⟩
  before_blank := isBlankText_nil
  after_blank := isBlankText_nil

/-- The lock is taken for a pool, and its construction is not reported. -/
theorem recognised_memberLock :
    let t := (SyntaxTree.ofSource "").push 0 { kind := .expr (.creation memberLock.text []) }
    let rule : Rule := { id := "RULE-030", scope := "LOCK_DECLARATION" }
    memberLock.text = "Pool<A>.ReentrantLock" ∧ simpleTypeName memberLock.text = "Pool" ∧
      (lock ["ReentrantLock"]).detect ⟨t, 1, rule, "A.java"⟩ = .completed [] ∧
      memberLock.reached.name ∉ ["ReentrantLock"] := by
  intro t rule
  have hdetect : (lock ["ReentrantLock"]).detect ⟨t, 1, rule, "A.java"⟩ = .completed [] := by
    decide +kernel
  obtain ⟨hname, -, hlock, -⟩ := recognised_by_reached memberLock ["ReentrantLock"] t 1
  exact ⟨by decide +kernel, hname, hdetect,
    fun hmem => (hlock [] rule "A.java" [] rfl hdetect).2 hmem rfl⟩

end Detect

end Excerpt
