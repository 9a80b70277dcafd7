import Excerpt.Detect.Members
import Mathlib.Data.List.Induction
import Mathlib.Data.List.Pairwise
import Mathlib.Data.List.TakeWhile

/-!
# Members that stand together

The detector for continuity goes through the members of a type once. It looks for the first
constructor after the run of constructors, and for methods it keeps the name of the run that
is open and the names of those that are over. This module says what it finds without reference
to a pass: a member is reported if among the members before it one of its group is followed by
one that is not (`Interrupted`).

The invariant of the pass is `Pass`. A name is finished if and only if its group is interrupted in
what the pass has seen, and the open run is that of the last member. A member keeps it, whether it
ends the open run (`Pass.closes`) or goes on with it (`Pass.continues`). So the pass reports the
members whose group is interrupted before them (`strayMethods_eq`, `strayConstructor?_eq`).

Nothing is reported if and only if each group forms one run (`isContiguous_iff`,
`filter_resumes_eq_nil_iff`).

## Main results

* `strayConstructor?_eq`: the constructor that is reported.
* `strayMethods_eq`: the methods that are reported.
* `continuity_detect_eq`: what is reported on a type.
-/

namespace Excerpt.Detect

section Groups

variable {α β : Type} {p : α → Bool} {xs before : List α} {x y : α}

/-! ### Interrupted groups -/

/-- An element that satisfies `p` is followed, at once or later, by one that does not. -/
def Interrupted (p : α → Bool) (xs : List α) : Prop :=
  ∃ (i j : Nat) (x y : α), i < j ∧ xs[i]? = some x ∧ xs[j]? = some y ∧ p x = true ∧ p y = false

/-- The elements that satisfy `p` form one run. -/
def IsContiguous (p : α → Bool) (xs : List α) : Prop :=
  ∃ before run after, xs = before ++ run ++ after ∧
    (∀ x ∈ before, p x = false) ∧ (∀ x ∈ run, p x = true) ∧ ∀ x ∈ after, p x = false

/-- A group is interrupted if one of its elements has an element after it that does not belong to
it. -/
private theorem interrupted_iff_not_pairwise :
    Interrupted p xs ↔ ¬ xs.Pairwise fun x y => p x = true → p y = true := by
  simp only [Interrupted, List.pairwise_iff_getElem, List.getElem?_eq_some_iff, not_forall,
    Bool.not_eq_true]
  constructor
  · rintro ⟨i, j, _, _, hij, ⟨hi, rfl⟩, ⟨hj, rfl⟩, hx, hy⟩
    exact ⟨i, j, hi, hj, hij, hx, hy⟩
  · rintro ⟨i, j, hi, hj, hij, hx, hy⟩
    exact ⟨i, j, _, _, hij, ⟨hi, rfl⟩, ⟨hj, rfl⟩, hx, hy⟩

instance (p : α → Bool) (xs : List α) : Decidable (Interrupted p xs) :=
  decidable_of_iff _ interrupted_iff_not_pairwise.symm

/-- A group that has not begun is not interrupted. -/
@[simp]
theorem not_interrupted_nil : ¬ Interrupted p [] := by
  simp [interrupted_iff_not_pairwise]

/-- An interruption among some elements is one among all. -/
private theorem Interrupted.of_sublist {ys : List α} (h : Interrupted p ys) (hsub : ys.Sublist xs) :
    Interrupted p xs := by
  rw [interrupted_iff_not_pairwise] at h ⊢
  exact fun hxs => h (hxs.sublist hsub)

/-- One more element interrupts a group that has begun and that it does not belong to. -/
theorem interrupted_concat :
    Interrupted p (xs ++ [y]) ↔ Interrupted p xs ∨ (∃ x ∈ xs, p x = true) ∧ p y = false := by
  rw [interrupted_iff_not_pairwise, interrupted_iff_not_pairwise, List.pairwise_append, not_and_or]
  refine or_congr_right ?_
  simp only [List.pairwise_singleton, List.mem_singleton, true_and, forall_eq, not_forall,
    Bool.not_eq_true]
  exact ⟨fun ⟨x, hx, hp, hy⟩ => ⟨⟨x, hx, hp⟩, hy⟩, fun ⟨⟨x, hx, hp⟩, hy⟩ => ⟨x, hx, hp, hy⟩⟩

private theorem interrupted_map {f : β → α} {ys : List β} :
    Interrupted p (ys.map f) ↔ Interrupted (fun y => p (f y)) ys := by
  simp only [interrupted_iff_not_pairwise, List.pairwise_map]

/-- A group that has begun is interrupted, or the last element belongs to it. -/
theorem interrupted_or_getLast? (hx : x ∈ xs) (hp : p x = true) :
    Interrupted p xs ∨ ∃ y, xs.getLast? = some y ∧ p y = true := by
  induction xs using List.reverseRecOn with
  | nil => cases hx
  | append_singleton xs y ih =>
    cases hy : p y with
    | true => exact Or.inr ⟨y, by simp, hy⟩
    | false =>
      have hmem : x ∈ xs := by
        refine (List.mem_append.mp hx).resolve_right fun h => ?_
        rw [List.mem_singleton.mp h, hy] at hp
        cases hp
      exact Or.inl (interrupted_concat.mpr (Or.inr ⟨⟨x, hmem, hp⟩, hy⟩))

/-- The element `m.1`, at place `m.2`, belongs to the group `p`, and among the elements before it
the group is interrupted. -/
def resumes (p : α → Bool) (xs : List α) (m : α × Nat) : Bool :=
  p m.1 && decide (Interrupted p (xs.take m.2))

/-- At the end of what has been seen, an element resumes a group if it belongs to it and the group
is interrupted in what has been seen. -/
private theorem resumes_append (before xs : List α) (x : α) :
    resumes p (before ++ xs) (x, before.length) = (p x && decide (Interrupted p before)) := by
  rw [resumes, List.take_left]

private theorem resumes_map {f : β → α} {ys : List β} {y : β} {k : Nat} :
    resumes p (ys.map f) (f y, k) = resumes (fun z => p (f z)) ys (y, k) := by
  simp only [resumes, ← List.map_take, interrupted_map]

/-! ### The first element after a run

Three lemmas for what has been seen of a list: the run is over, it has begun, or it has not
begun. -/

/-- After an interruption, the first element of the group resumes it. -/
private theorem find?_of_interrupted (xs : List α) (hbefore : Interrupted p before) :
    ((xs.zipIdx before.length).find? (resumes p (before ++ xs))).map Prod.fst = xs.find? p := by
  induction xs generalizing before with
  | nil => rfl
  | cons x xs ih =>
    have hrest := ih (interrupted_concat.mpr (Or.inl hbefore) : Interrupted p (before ++ [x]))
    rw [List.zipIdx_cons, List.find?_cons, List.find?_cons, resumes_append]
    cases hx : p x with
    | true => simp [hbefore]
    | false => simpa using hrest

/-- While the group goes on, its elements are passed over up to the first one that interrupts it. -/
private theorem find?_of_begun (xs : List α) (hbegun : ∃ x ∈ before, p x = true)
    (hbefore : ¬ Interrupted p before) :
    ((xs.zipIdx before.length).find? (resumes p (before ++ xs))).map Prod.fst =
      (xs.dropWhile p).find? p := by
  induction xs generalizing before with
  | nil => rfl
  | cons x xs ih =>
    rw [List.zipIdx_cons, List.find?_cons, List.dropWhile_cons, resumes_append]
    cases hx : p x with
    | true =>
      have hbegun' : ∃ y ∈ before ++ [x], p y = true := ⟨x, by simp, hx⟩
      have hbefore' : ¬ Interrupted p (before ++ [x]) := by simp [interrupted_concat, hbefore, hx]
      simpa [hbefore] using ih hbegun' hbefore'
    | false =>
      have hover : Interrupted p (before ++ [x]) := interrupted_concat.mpr (Or.inr ⟨hbegun, hx⟩)
      simpa [hx] using find?_of_interrupted xs hover

private theorem not_interrupted_of_forall (h : ∀ x ∈ xs, p x = false) : ¬ Interrupted p xs := by
  rintro ⟨i, j, x, y, -, hi, -, hx, -⟩
  rw [h x (List.mem_of_getElem? hi)] at hx
  cases hx

/-- Before the group begins, all elements are passed over. -/
private theorem find?_of_not_begun (xs : List α) (hbefore : ∀ x ∈ before, p x = false) :
    ((xs.zipIdx before.length).find? (resumes p (before ++ xs))).map Prod.fst =
      ((xs.dropWhile (!p ·)).dropWhile p).find? p := by
  induction xs generalizing before with
  | nil => rfl
  | cons x xs ih =>
    have hnot := not_interrupted_of_forall hbefore
    rw [List.zipIdx_cons, List.find?_cons, List.dropWhile_cons, resumes_append]
    cases hx : p x with
    | true =>
      -- the group begins here, and its first run goes on from here
      have hbegun : ∃ y ∈ before ++ [x], p y = true := ⟨x, by simp, hx⟩
      have hnot' : ¬ Interrupted p (before ++ [x]) := by simp [interrupted_concat, hnot, hx]
      simpa [hnot, hx] using find?_of_begun xs hbegun hnot'
    | false =>
      have hbefore' : ∀ y ∈ before ++ [x], p y = false := by
        intro y hy
        rcases List.mem_append.mp hy with hy | hy
        · exact hbefore y hy
        · rwa [List.mem_singleton.mp hy]
      simpa using ih hbefore'

/-- The first element that resumes a group comes after what precedes the group and after its first
run. -/
private theorem find?_resumes (p : α → Bool) (xs : List α) :
    (xs.zipIdx.find? (resumes p xs)).map Prod.fst =
      ((xs.dropWhile (!p ·)).dropWhile p).find? p := by
  have hnone : ∀ x ∈ ([] : List α), p x = false := by simp
  exact find?_of_not_begun xs hnone

/-! ### Contiguous groups -/

/-- A group that begins and then does not end is not interrupted. -/
theorem not_interrupted_append {run : List α} (hbefore : ∀ x ∈ before, p x = false)
    (hrun : ∀ x ∈ run, p x = true) :
    ¬ Interrupted p (before ++ run) := by
  rw [interrupted_iff_not_pairwise, not_not, List.pairwise_append]
  refine ⟨?_, ?_, fun _ _ y hy _ => hrun y hy⟩
  · exact not_not.mp (interrupted_iff_not_pairwise.not.mp (not_interrupted_of_forall hbefore))
  · exact List.pairwise_of_forall_mem_list fun _ _ y hy _ => hrun y hy

/-- Nothing resumes a group that forms one run. -/
private theorem IsContiguous.resumes_eq_false {m : α × Nat} (h : IsContiguous p xs)
    (hm : m ∈ xs.zipIdx) :
    resumes p xs m = false := by
  obtain ⟨before, run, after, rfl, hbefore, hrun, hafter⟩ := h
  rw [List.mem_zipIdx_iff_getElem?] at hm
  refine Bool.eq_false_iff.mpr fun hresumes => ?_
  rw [resumes, Bool.and_eq_true, decide_eq_true_eq] at hresumes
  obtain ⟨hx, hinterrupted⟩ := hresumes
  -- the element is not after the run, so what is before it is part of `before ++ run`
  have hlt : m.2 < (before ++ run).length := by
    by_contra hle
    rw [List.getElem?_append_right (Nat.le_of_not_lt hle)] at hm
    rw [hafter m.1 (List.mem_of_getElem? hm)] at hx
    cases hx
  rw [List.take_append_of_le_length hlt.le] at hinterrupted
  exact not_interrupted_append hbefore hrun (hinterrupted.of_sublist (List.take_sublist _ _))

/-- A group is one run if and only if no element of it comes after an interruption. -/
theorem isContiguous_iff : IsContiguous p xs ↔ ∀ m ∈ xs.zipIdx, resumes p xs m = false := by
  constructor
  · exact fun h m hm => h.resumes_eq_false hm
  · intro h
    have hfind : ((xs.dropWhile (!p ·)).dropWhile p).find? p = none := by
      rw [← find?_resumes]
      simpa [List.find?_eq_none] using h
    refine ⟨xs.takeWhile (!p ·), (xs.dropWhile (!p ·)).takeWhile p,
      (xs.dropWhile (!p ·)).dropWhile p, ?_, ?_, ?_, ?_⟩
    · rw [List.append_assoc, List.takeWhile_append_dropWhile, List.takeWhile_append_dropWhile]
    · intro x hx
      simpa using List.mem_takeWhile_imp hx
    · intro x hx
      exact List.mem_takeWhile_imp hx
    · simpa [List.find?_eq_none] using hfind

end Groups

/-! ### The pass over the methods -/

/-- The member is a method of this name. -/
def Member.isNamed (name : String) (m : Member) : Bool :=
  m.method? == some name

variable {before ms : List Member} {m : Member} {name : String} {current : Option String}
  {finished : List String}

private theorem Member.isNamed_iff : m.isNamed name = true ↔ m.method? = some name := by
  rw [isNamed, beq_iff_eq]

/-- What the pass knows of the members that it has seen: whether the last one is a method, and of
which name, and the names whose methods are interrupted. -/
structure Pass (before : List Member) (current : Option String)
    (finished : List String) : Prop where
  current_eq : current = before.getLast?.bind Member.method?
  mem_finished_iff : ∀ name, name ∈ finished ↔ Interrupted (Member.isNamed name) before

/-- Before the pass, no run is open and none is over. -/
private theorem pass_nil : Pass [] none [] where
  current_eq := rfl
  mem_finished_iff name := by simp

/-- The open run is that of the last member. -/
theorem Pass.current_eq_some_iff (h : Pass before current finished) :
    current = some name ↔ ∃ m, before.getLast? = some m ∧ m.isNamed name = true := by
  simp only [h.current_eq, Option.bind_eq_some_iff, Member.isNamed_iff]

/-- A member that does not continue the open run closes it. -/
theorem Pass.closes (h : Pass before current finished)
    (hm : ∀ name, current = some name → m.isNamed name = false) :
    Pass (before ++ [m]) m.method? (current.toList ++ finished) where
  current_eq := by simp
  mem_finished_iff name := by
    rw [List.mem_append, Option.mem_toList, h.mem_finished_iff, interrupted_concat]
    constructor
    · rintro (hcurrent | hover)
      · obtain ⟨last, hlast, hnamed⟩ := h.current_eq_some_iff.mp hcurrent
        exact Or.inr ⟨⟨last, List.mem_of_getLast? hlast, hnamed⟩, hm name hcurrent⟩
      · exact Or.inl hover
    · rintro (hover | ⟨⟨x, hx, hnamed⟩, -⟩)
      · exact Or.inr hover
      · exact (interrupted_or_getLast? hx hnamed).symm.imp_left h.current_eq_some_iff.mpr

/-- A member that continues the open run changes nothing: the methods of another name are
interrupted by the last member already. -/
theorem Pass.continues (h : Pass before current finished) (hcurrent : current = some name)
    (hm : m.method? = some name) : Pass (before ++ [m]) current finished where
  current_eq := by simp [hm, hcurrent]
  mem_finished_iff other := by
    rw [h.mem_finished_iff, interrupted_concat]
    refine ⟨Or.inl, fun hover => hover.elim id ?_⟩
    rintro ⟨⟨x, hx, hnamed⟩, hnot⟩
    refine (interrupted_or_getLast? hx hnamed).resolve_right fun hlast => ?_
    have hother : current = some other := h.current_eq_some_iff.mpr hlast
    rw [Member.isNamed, hm, ← hcurrent, hother, beq_self_eq_true] at hnot
    cases hnot

/-- The member, with its place, is a method of a name that is interrupted before it. -/
def isStray (seen : List Member) (m : Member × Nat) : Bool :=
  m.1.method?.any fun name => resumes (Member.isNamed name) seen m

/-- The pass reports the methods whose name is interrupted before them. -/
theorem strayMethods_eq (h : Pass before current finished) :
    strayMethods current finished ms =
      ((ms.zipIdx before.length).filter (isStray (before ++ ms))).map fun m => m.1.node := by
  induction ms generalizing before current finished with
  | nil => rfl
  | cons m ms ih =>
    rw [strayMethods, List.zipIdx_cons, List.filter_cons]
    cases hm : m.method? with
    | none =>
      have hnext : Pass (before ++ [m]) none (current.toList ++ finished) :=
        hm ▸ h.closes fun name _ => by simp [Member.isNamed, hm]
      simpa [isStray, hm] using ih hnext
    | some name =>
      -- whether or not the method continues the open run, the pass knows what it has to know of
      -- it
      have hrest : (if current = some name then strayMethods current finished ms
          else strayMethods (some name) (current.toList ++ finished) ms) =
          ((ms.zipIdx (before ++ [m]).length).filter (isStray (before ++ [m] ++ ms))).map fun m =>
            m.1.node := by
        by_cases hcurrent : current = some name
        · rw [if_pos hcurrent]
          exact ih (h.continues hcurrent hm)
        · rw [if_neg hcurrent]
          refine ih (hm ▸ h.closes fun other hother => ?_)
          rw [Member.isNamed, hm, beq_eq_false_iff_ne]
          exact fun heq => hcurrent (hother.trans heq.symm)
      have hstray : isStray (before ++ m :: ms) (m, before.length) = decide (name ∈ finished) := by
        rw [isStray, hm, Option.any_some, resumes_append, Member.isNamed_iff.mpr hm, Bool.true_and,
          decide_eq_decide, h.mem_finished_iff]
      simp only [hrest, hstray, decide_eq_true_eq, List.length_append, List.length_singleton,
        List.append_assoc, List.singleton_append]
      split <;> rfl

/-! ### Members of a type -/

variable {t : SyntaxTree} {i : NodeId}

/-- The member is a method of this name. -/
def isMethodNamed (t : SyntaxTree) (name : String) (m : NodeId) : Bool :=
  (t.kind m).isMethod && (t.node m).nameText == name

/-- The constructor that is reported is the first one after an interruption. -/
theorem strayConstructor?_eq (t : SyntaxTree) (ms : List NodeId) :
    strayConstructor? t ms =
      (ms.zipIdx.find? (resumes (fun m => isConstructor (t.kind m)) ms)).map Prod.fst :=
  (find?_resumes _ ms).symm

/-- A node as a member. -/
def memberAt (t : SyntaxTree) (m : NodeId) : Member :=
  ⟨m, if (t.kind m).isMethod then some (t.node m).nameText else none⟩

private theorem isNamed_memberAt (t : SyntaxTree) (name : String) (m : NodeId) :
    (memberAt t m).isNamed name = isMethodNamed t name m := by
  cases hm : (t.kind m).isMethod <;> simp [memberAt, Member.isNamed, isMethodNamed, hm]

/-- What the pass reports of a member, said of the node of the member. -/
private theorem isStray_memberAt (t : SyntaxTree) (ms : List NodeId) (m : NodeId) (k : Nat) :
    isStray (ms.map (memberAt t)) (memberAt t m, k) =
      resumes (isMethodNamed t (t.node m).nameText) ms (m, k) := by
  cases hm : (t.kind m).isMethod with
  | false => simp [isStray, memberAt, resumes, isMethodNamed, hm]
  | true =>
    have hname : (memberAt t m).method? = some (t.node m).nameText := by simp [memberAt, hm]
    rw [isStray, hname, Option.any_some, resumes_map]
    simp only [isNamed_memberAt]

/-- Among the members of a type, the pass reports the methods whose name is interrupted before
them. -/
theorem strayMethods_membersOf (t : SyntaxTree) (i : NodeId) :
    strayMethods none [] (membersOf t i) = ((t.members i).zipIdx.filter fun m =>
      resumes (isMethodNamed t (t.node m.1).nameText) (t.members i) m).map Prod.fst := by
  have hmembers : membersOf t i = (t.members i).map (memberAt t) := rfl
  rw [strayMethods_eq pass_nil, List.nil_append, List.length_nil, hmembers, List.zipIdx_map,
    List.filter_map, List.map_map]
  exact congrArg (List.map Prod.fst) (List.filter_congr fun m _ => isStray_memberAt t _ m.1 m.2)

/-- No method is reported if and only if the methods of each name form one run. -/
theorem filter_resumes_eq_nil_iff {ms : List NodeId} :
    ms.zipIdx.filter (fun m => resumes (isMethodNamed t (t.node m.1).nameText) ms m) = [] ↔
      ∀ name, IsContiguous (isMethodNamed t name) ms := by
  simp only [isContiguous_iff, List.filter_eq_nil_iff, Bool.not_eq_true]
  refine ⟨fun h name m hm => ?_, fun h m hm => h _ m hm⟩
  -- a method that resumes the methods of some name has this name
  refine Bool.eq_false_iff.mpr fun hresumes => ?_
  have hnamed : isMethodNamed t name m.1 = true := (Bool.and_eq_true_iff.mp hresumes).1
  have hname : (t.node m.1).nameText = name := by simpa using (Bool.and_eq_true_iff.mp hnamed).2
  rw [← hname, h m hm] at hresumes
  cases hresumes

/-- **Members that are separated from their group.** What the detector finds among the members of
a class or interface. A constructor is reported if, among the members before it, a constructor is
followed by something else, but only the first of them. Then each method is reported for which,
among the members before it, a method of its name is followed by something else.

Nothing is found if and only if the constructors form one run, and so do the methods of each
name. -/
theorem continuity_detect_eq (hi : isClassOrInterface (t.kind i) = true) (rule : Rule)
    (path : String) :
    let ms := t.members i
    let type := (t.node i).nameText
    continuity.detect ⟨t, i, rule, path⟩ = .completed
      ((ms.zipIdx.find? (resumes (fun m => isConstructor (t.kind m)) ms)).toList.map (fun m =>
        ⟨t.line m.1, t.trimmedText m.1,
          "constructors of class " ++ type ++ " are not contiguous"⟩) ++
      (ms.zipIdx.filter fun m => resumes (isMethodNamed t (t.node m.1).nameText) ms m).map fun m =>
        ⟨t.line m.1, t.trimmedText m.1,
          "overloads of " ++ (t.node m.1).nameText ++ " in class " ++ type ++
            " are not contiguous"⟩) ∧
    (continuity.detect ⟨t, i, rule, path⟩ = .completed [] ↔
      IsContiguous (fun m => isConstructor (t.kind m)) ms ∧
      ∀ name, IsContiguous (isMethodNamed t name) ms) := by
  intro ms type
  have hkind : isClassOrInterface (Context.mk t i rule path).kind = true := hi
  simp only [continuity, Detector.searching, if_pos hkind, strayConstructor?_eq,
    strayMethods_membersOf, List.map_map, Option.toList_map, Outcome.ofSearch]
  refine ⟨rfl, ?_⟩
  rw [Outcome.completed.injEq, List.append_eq_nil_iff, List.map_eq_nil_iff, List.map_eq_nil_iff,
    filter_resumes_eq_nil_iff, isContiguous_iff, Option.toList_eq_nil_iff, List.find?_eq_none]
  simp only [Bool.not_eq_true]
  rfl

/-- A class with a field between its constructors and a method between two others of one name. -/
def scattered : SyntaxTree :=
  SyntaxTree.ofSource ""
    |>.push 0 { kind := .typeDecl { kind := .classType }, name := some ⟨"A", none⟩ }
    |>.push 1 { kind := .constructorDecl {} }
    |>.push 1 { kind := .fieldDecl "int" }
    |>.push 1 { kind := .constructorDecl {}, span := some ⟨4, 4, 0, 0⟩ }
    |>.push 1 { kind := .constructorDecl {} }
    |>.push 1 { kind := .methodDecl {}, name := some ⟨"f", none⟩ }
    |>.push 1 { kind := .methodDecl {}, name := some ⟨"g", none⟩ }
    |>.push 1 { kind := .methodDecl {}, name := some ⟨"f", none⟩, span := some ⟨8, 8, 0, 0⟩ }

/-- A field between constructors and a method between two others of one name. The third
constructor is not reported. -/
theorem continuity_scattered :
    let rule : Rule := { id := "RULE-012", scope := "CLASS" }
    isClassOrInterface (scattered.kind 1) = true ∧
    continuity.detect ⟨scattered, 1, rule, "A.java"⟩ = .completed
      [⟨4, "", "constructors of class A are not contiguous"⟩,
        ⟨8, "", "overloads of f in class A are not contiguous"⟩] ∧
    ¬ (IsContiguous (fun m => isConstructor (scattered.kind m)) (scattered.members 1) ∧
      ∀ name, IsContiguous (isMethodNamed scattered name) (scattered.members 1)) := by
  intro rule
  have hkind : isClassOrInterface (scattered.kind 1) = true := rfl
  obtain ⟨hfound, hsilent⟩ := continuity_detect_eq hkind rule "A.java"
  have hevaluated : continuity.detect ⟨scattered, 1, rule, "A.java"⟩ = .completed
      [⟨4, "", "constructors of class A are not contiguous"⟩,
        ⟨8, "", "overloads of f in class A are not contiguous"⟩] := by
    rw [hfound]
    decide +kernel
  refine ⟨hkind, hevaluated, fun hcontiguous => ?_⟩
  rw [hsilent.mpr hcontiguous] at hevaluated
  cases hevaluated

end Excerpt.Detect
