import Excerpt.Proofs.Loops
import Excerpt.Rule.Settings

/-!
# The variables that are searched

A call of `contains` in a loop is reported under the method that it belongs to if a variable of
the name that it is called on has one of the types that search all their elements. The variable is
looked for below the method, where also the methods and constructors of nested classes are. So it
belongs to the method itself or to a callable inside it, and a call may be reported for a variable
that it cannot see (`mem_findings_loopContains_iff`).

Whether the variable is visible at the call is not asked. A variable of the same name in a method
of a local class is enough, and this is the difference between what is reported and what ought to
be (`mem_findings_hiddenVariable`).

The proof connects what lies below a method with what belongs to it. A callable is around a node
just if it is the nearest one around it or is around the nearest one (`mem_ancestors_iff_owner`),
so to lie below a method is to belong to it or to a callable inside it (`declaresAs_iff`).

## Main results

* `mem_ancestors_iff_owner`: the callables around a node.
* `declaresAs_iff`: to which callables the variable may belong.
* `mem_findings_loopContains_iff`: for which variables a search is reported.
-/

namespace Excerpt

private theorem Kind.isCallable_of_isMethod {k : Kind} (h : k.isMethod = true) :
    k.isCallable = true := by
  cases k with
  | methodDecl _ => rfl
  | _ => cases h

namespace SyntaxTree.WellFormed

variable {t : SyntaxTree} {d m p : NodeId}

/-- The nearest callable around a node is its parent, or the nearest one around the parent. -/
theorem enclosingCallable?_of_parent? (h : WellFormed t) (hd : t.parent? d = some p) :
    t.enclosingCallable? d = if (t.kind p).isCallable then some p else t.enclosingCallable? p := by
  rw [enclosingCallable?, findAncestor?, h.ancestors_of_parent? hd, List.find?_cons]
  cases (t.kind p).isCallable <;> rfl

/-- A callable is around a node just if it is the nearest one around it, or is around the nearest
one. -/
theorem mem_ancestors_iff_owner (h : WellFormed t) (hm : (t.kind m).isCallable = true) :
    m ∈ t.ancestors d ↔ ∃ owner, t.enclosingCallable? d = some owner ∧
      (owner = m ∨ m ∈ t.ancestors owner) := by
  induction d using Nat.strongRecOn with
  | ind d ih =>
    cases hd : t.parent? d with
    | none =>
      have hnone : t.ancestors d = [] := ancestors_of_parent?_eq_none hd
      simp [enclosingCallable?, findAncestor?, hnone]
    | some p =>
      rw [h.ancestors_of_parent? hd, List.mem_cons, h.enclosingCallable?_of_parent? hd]
      -- the search for the owner ends at the first callable, the way up goes on
      cases hp : (t.kind p).isCallable with
      | true => simp [eq_comm]
      | false =>
        have hne : m ≠ p := by
          rintro rfl
          rw [hm] at hp
          cases hp
        rw [or_iff_right hne, ih p (h.lt_of_parent? hd), if_neg Bool.false_ne_true]

end SyntaxTree.WellFormed

namespace Detect

variable {t : SyntaxTree} {c m : NodeId} {types : List String} {name : String} {rule : Rule}
  {path : String}
  {f : Finding} {fs : List Finding}

open SyntaxTree (WellFormed)

/-- The node declares a variable of the name, with one of the types. -/
def Declares (t : SyntaxTree) (types : List String) (name : String) (d : NodeId) : Prop :=
  ∃ type value, t.kind d = .declarator type value ∧ (t.node d).nameText = name ∧
    simpleTypeName type ∈ types

/-- In a loop of the method `m`, the call `c` of `contains` on the simple name `name` belongs to
the method, and `f` reports it with the nearest loop around it. -/
structure IsContainsCall (t : SyntaxTree) (m c : NodeId) (name : String) (f : Finding) : Prop where
  method : (t.kind m).isMethod = true
  callable : t.enclosingCallable? c = some m
  called : (t.node c).nameText = "contains"
  receiver : ∃ r args, t.kind c = .expr (.call (some r) args) ∧ t.kind r = .expr .name ∧
    (t.node r).nameText = name
  finding : ∃ loop, IsNearestLoop t c loop ∧ f = ⟨t.line c, t.trimmedText loop, t.trimmedText c⟩

private theorem isSearch_iff : IsSearch t types c (m, f) ↔
    ∃ name, IsContainsCall t m c name f ∧ declaresAs t types m name = true := by
  constructor
  · intro h
    obtain ⟨r, args, hkind, hr, hdeclares⟩ := h.receiver
    exact ⟨_, ⟨h.method, h.callable, h.name, ⟨r, args, hkind, hr, rfl⟩, h.finding⟩, hdeclares⟩
  · rintro ⟨name, h, hdeclares⟩
    obtain ⟨r, args, hkind, hr, rfl⟩ := h.receiver
    exact ⟨⟨r, args, hkind, hr, hdeclares⟩, h.called, h.callable, h.method, h.finding⟩

/-- The variable belongs to the callable that it is looked for below, or to a callable inside it. -/
theorem declaresAs_iff (h : t.WellFormed) (hm : (t.kind m).isCallable = true) :
    declaresAs t types m name = true ↔ ∃ d owner, Declares t types name d ∧
      t.enclosingCallable? d = some owner ∧
      (owner = m ∨ m ∈ t.ancestors owner) := by
  rw [declaresAs, List.any_eq_true]
  refine exists_congr fun d => ?_
  rw [h.mem_descendants_iff, h.mem_ancestors_iff_owner hm, exists_and_left, and_comm]
  refine and_congr_left fun _ => ?_
  rw [Declares]
  split
  · next type value hkind => simp [hkind]
  · next hkind =>
    refine iff_of_false Bool.false_ne_true ?_
    rintro ⟨type, value, hd, -⟩
    exact hkind type value hd

/-- A search that comes to an end has followed the receiver of the call into the tree. -/
theorem IsSearch.lt_size_of_isSome {found : NodeId × Finding} (h : IsSearch t types c found)
    (hsome : (scanFindings t types m c).isSome) (r : NodeId) (args : List NodeId)
    (hkind : t.kind c = .expr (.call (some r) args)) : r < t.size := by
  by_contra hout
  have hfollow : t.follow r = none := if_neg hout
  simp [scanFindings, hkind, h.name, hfollow] at hsome

private theorem mem_scanFindings_iff (hsome : (scanFindings t types m c).isSome)
    (hc : t.enclosingCallable? c = some m) (hm : (t.kind m).isMethod = true) :
    f ∈ (scanFindings t types m c).getD [] ↔ IsSearch t types c (m, f) := by
  constructor
  · intro hf
    obtain ⟨fs, hfs⟩ := Option.isSome_iff_exists.1 hsome
    rw [hfs, Option.getD_some] at hf
    rcases scanFindings_eq_some hfs hc hm with rfl | ⟨g, rfl, hsearch⟩
    · cases hf
    · rw [List.mem_singleton.1 hf]
      exact hsearch
  · intro h
    rw [h.scanFindings_eq (h.lt_size_of_isSome hsome), Option.getD_some]
    exact List.mem_singleton_self f

/-- **For which variables a search is reported.** If the call of the detector completes, it
reports just the calls of `contains` that belong to the method, are made on a simple name and are
in a loop, for which a variable of this name is declared with one of the types, in the method
itself or in a callable inside it. -/
theorem mem_findings_loopContains_iff (ht : t.Reachable) (settings : Settings)
    (hfs : (loopContains settings.linearScanTypes).detect ⟨t, m, rule, path⟩ = .completed fs)
    (f : Finding) :
    f ∈ fs ↔ ∃ c name, IsContainsCall t m c name f ∧
      ∃ d owner, Declares t settings.linearScanTypes name d ∧
      t.enclosingCallable? d = some owner ∧ (owner = m ∨ m ∈ t.ancestors owner) := by
  have h := ht.wellFormed
  have hfound := congrArg Outcome.findings? hfs
  rw [loopContains, Detector.searching, Outcome.findings?_ofSearch, Outcome.findings?] at hfound
  cases hm : (t.kind m).isMethod with
  | false =>
    -- nothing is reported under a node that is no method
    have hnil : fs = [] := by simpa [Context.kind, hm] using hfound.symm
    subst hnil
    refine iff_of_false List.not_mem_nil ?_
    rintro ⟨c, name, hcall, -⟩
    have hmethod := hcall.method
    rw [hm] at hmethod
    cases hmethod
  | true =>
    rw [Context.kind, hm, if_pos rfl] at hfound
    obtain ⟨hsome, rfl⟩ := gather_eq_some_iff.1 hfound
    have hcalls : ∀ c, (c ∈ ownNodes t m ∧
        f ∈ (scanFindings t settings.linearScanTypes m c).getD []) ↔
        IsSearch t settings.linearScanTypes c (m, f) := by
      intro c
      constructor
      · rintro ⟨hc, hf⟩
        exact (mem_scanFindings_iff (hsome c hc) ((mem_ownNodes_iff h).1 hc) hm).1 hf
      · intro hsearch
        have hc : c ∈ ownNodes t m := (mem_ownNodes_iff h).2 hsearch.callable
        exact ⟨hc, (mem_scanFindings_iff (hsome c hc) hsearch.callable hm).2 hsearch⟩
    rw [List.mem_flatMap]
    simp only [hcalls, isSearch_iff, declaresAs_iff h (Kind.isCallable_of_isMethod hm)]

/-- A method that searches in a loop. In the loop stands a class with a method that declares a
list of the same name. -/
def hiddenVariable : SyntaxTree :=
  SyntaxTree.ofSource "while(xs.contains(y))"
    |>.push 0 { kind := .methodDecl {}, name := some ⟨"f", none⟩ }
    |>.push 1 { kind := .stmt .whileLoop, span := some ⟨2, 4, 0, 21⟩ }
    |>.push 2
      { kind := .expr (.call (some 4) []), name := some ⟨"contains", none⟩,
        span := some ⟨2, 2, 6, 20⟩ }
    |>.push 3 { kind := .expr .name, name := some ⟨"xs", none⟩ }
    |>.push 2 { kind := .typeDecl { kind := .classType } }
    |>.push 5 { kind := .methodDecl {}, name := some ⟨"g", none⟩ }
    |>.push 6 { kind := .declarator "List<A>" none, name := some ⟨"xs", none⟩ }

/-- The search is reported for the list of the inner method, which alone declares the name. -/
theorem mem_findings_hiddenVariable :
    let settings : Settings := {}
    let rule : Rule := { id := "RULE-023", scope := "METHOD_DECLARATION" }
    let found : Finding := ⟨2, "while(xs.contains(y))", "xs.contains(y)"⟩
    hiddenVariable.Reachable ∧
    (loopContains settings.linearScanTypes).detect ⟨hiddenVariable, 1, rule, "A.java"⟩ =
      .completed [found] ∧
    (∃ c name, IsContainsCall hiddenVariable 1 c name found ∧ ∃ d owner,
      Declares hiddenVariable settings.linearScanTypes name d ∧
      hiddenVariable.enclosingCallable? d = some owner ∧
      (owner = 1 ∨ 1 ∈ hiddenVariable.ancestors owner)) ∧
    ∀ d name, Declares hiddenVariable settings.linearScanTypes name d →
      hiddenVariable.enclosingCallable? d ≠ some 1 := by
  intro settings rule found
  have hreachable : hiddenVariable.Reachable := by
    iterate 7 refine .push ?_ (by decide) rfl
    exact .ofSource _
  have hdetect : (loopContains settings.linearScanTypes).detect ⟨hiddenVariable, 1,
      rule, "A.java"⟩ =
      .completed [found] := by
    decide +kernel
  have hown : ownNodes hiddenVariable 1 = [2, 3, 4, 5, 6] := by decide +kernel
  refine ⟨hreachable, hdetect, ?_, ?_⟩
  · exact (mem_findings_loopContains_iff hreachable settings hdetect found).1
      (List.mem_singleton_self found)
  · rintro d name ⟨type, value, hkind, -⟩ howner
    rw [← mem_ownNodes_iff hreachable.wellFormed, hown] at howner
    simp only [List.mem_cons, List.not_mem_nil, or_false] at howner
    rcases howner with rfl | rfl | rfl | rfl | rfl <;> cases hkind

end Detect

end Excerpt
