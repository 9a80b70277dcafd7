import Excerpt.Proofs.Bindings
import Excerpt.Proofs.FieldSlots
import Excerpt.Proofs.NameSearch
import Excerpt.Proofs.OnlyChild

/-!
# Built-in detectors keep to one top-level declaration

A built-in detector looks at the ancestors of a node, at what lies below a declaration, and at
nodes that payloads refer to. None of this leads past the root, provided that no method names the
root as its body: away from the root, the outcome does not depend on the children of the root
(`Detector.IsLocal`). There is one lemma for each detector, which says that it comes to the same
in the tree with one top-level declaration left (`SyntaxTree.onlyChild`).

No rule is about the root itself. Hence the snippets of a tree are those of its top-level
declarations, one after the other.

A search for a name goes through operands and may go in circles, where the program would not come
to an end and its bounded description gives up. So the theorem is about trees in which every call
ends (`Detect.CallsEnd`). That every call ends does not depend on the children of the root either,
so it need be asked of the whole tree only (`CallsEnd.onlyChild`).

The condition on methods is needed: a method with the root as its body reaches into the other
top-level declarations, although every call ends (`extract_rootBodied_ne`).

## Main results

* `CallsEnd.onlyChild`: calls that end do so with one top-level declaration left.
* `isLocal_of_mem_builtin`: no built-in detector looks past the root.
* `Engine.extract_eq_flatMap_onlyChild`: extractions go declaration by declaration.
-/

namespace Excerpt

/-- A tree with a compilation unit as its root, which is no method's body. -/
structure SyntaxTree.Rooted (t : SyntaxTree) : Prop where
  wellFormed : t.WellFormed
  root : t.kind 0 = .compilationUnit
  body : ∀ i d, t.kind i = .methodDecl d → d.body ≠ some 0

/-- What is known of the kind of a node tells it from the root. -/
theorem SyntaxTree.Rooted.ne_zero {t : SyntaxTree} (ht : t.Rooted) {i : Nat} {p : Kind → Bool}
    (hroot : p .compilationUnit = false) (hi : p (t.kind i) = true) : i ≠ 0 := by
  rintro rfl
  rw [ht.root, hroot] at hi
  cases hi

/-- What a search on the way up ends at is of the kind that was sought. -/
private theorem SyntaxTree.of_findAncestor? {t : SyntaxTree} {i a : NodeId} {p : Kind → Bool}
    (ha : t.findAncestor? i p = some a) : p (t.kind a) = true :=
  List.find?_some (p := fun b => p (t.kind b)) ha

private theorem gather_congr {α β : Type} {xs : List α} {f g : α → Option (List β)}
    (h : ∀ x ∈ xs, f x = g x) :
    gather xs f = gather xs g := by
  induction xs with
  | nil => rfl
  | cons x xs ih =>
    rw [gather, gather, h x List.mem_cons_self, ih fun y hy => h y (List.mem_cons_of_mem _ hy)]

/-- Away from the root, the detector does not notice which children the root has. -/
def Detector.IsLocal (d : Detector) : Prop :=
  ∀ cx : Context, cx.tree.Rooted → cx.node ≠ 0 → ∀ c, d.detect (cx.onlyChild c) = d.detect cx

namespace Detect

/-- Names are judged by what a declaration says about itself and by the value of a variable. -/
private theorem isLocal_naming : naming.IsLocal := by
  intro cx _ _ c
  simp [naming, Detector.searching, namedDeclaration]

/-- A description is taken from the comment of the node. -/
private theorem isLocal_javadoc : javadoc.IsLocal := by
  intro cx _ _ c
  simp [javadoc, Detector.searching, isDocumented, isVisible, ownerKind?, Node.javadoc?]

private theorem isLocal_methodDoc : methodDoc.IsLocal := by
  intro cx _ _ c
  simp [methodDoc, Detector.searching]

/-- A class or interface is not the root, so it keeps its members. -/
private theorem isLocal_continuity : continuity.IsLocal := by
  intro cx _ hnode c
  simp [continuity, Detector.searching, strayConstructor?, membersOf,
    SyntaxTree.members_onlyChild hnode]

/-- The outline of a node is its own. -/
@[simp]
theorem outlineLine_onlyChild {t : SyntaxTree} {c : Nat} :
    outlineLine (t.onlyChild c) = outlineLine t := by
  funext m
  simp [outlineLine]

private theorem isLocal_classOutline : classOutline.IsLocal := by
  intro cx _ hnode c
  simp [classOutline, Detector.searching, SyntaxTree.members_onlyChild hnode]

/-- Whether a variable has a literal value is told by the variable. -/
@[simp]
theorem hasLiteralValue_onlyChild {t : SyntaxTree} {c : Nat} :
    hasLiteralValue (t.onlyChild c) = hasLiteralValue t := by
  funext var
  simp [hasLiteralValue]

/-- An interface is not the root, so it keeps its members; these are not the root either, so they
keep their variables. -/
private theorem isLocal_interfaceConstants : interfaceConstants.IsLocal := by
  intro cx ht hnode c
  simp only [interfaceConstants, Detector.searching, Context.tree_onlyChild, Context.node_onlyChild,
    Context.kind_onlyChild, SyntaxTree.members_onlyChild hnode, SyntaxTree.kind_onlyChild]
  refine congrArg Outcome.ofSearch ?_
  split
  · refine gather_congr fun (field : Nat) hfield => ?_
    have hne : field ≠ 0 := ht.ne_zero (p := isField) rfl (List.mem_filter.mp hfield).2
    simp [SyntaxTree.declarators_onlyChild hne]
  · rfl

/-- The text of a value is that of the node that the variable refers to. -/
@[simp]
theorem valueText_onlyChild {t : SyntaxTree} {c : Nat} :
    valueText (t.onlyChild c) = valueText t := by
  funext value
  cases value with
  | none => rfl
  | some value => simp [valueText]

/-- A declaration of fields is not the root, so it keeps its variables. -/
private theorem isLocal_constants : constants.IsLocal := by
  intro cx _ hnode c
  simp [constants, Detector.searching, Signature.access, SyntaxTree.declarators_onlyChild hnode]

/-- A node other than the root keeps its annotations. -/
private theorem annotationsOf_onlyChild {t : SyntaxTree} {c i : Nat} (hi : i ≠ 0) :
    annotationsOf (t.onlyChild c) i = annotationsOf t i := by
  simp [annotationsOf, SyntaxTree.children_onlyChild hi]

/-- An argument that is a list of values is not the root, so it keeps them. -/
private theorem argumentValues_onlyChild {t : SyntaxTree} (ht : t.Rooted) {c : Nat} :
    argumentValues (t.onlyChild c) = argumentValues t := by
  funext value
  simp only [argumentValues, SyntaxTree.follow_onlyChild, SyntaxTree.kind_onlyChild,
    SyntaxTree.valueOrText_onlyChild]
  congr 1
  funext v
  split
  · next hv =>
    have hne : v ≠ 0 := by
      rintro rfl
      rw [ht.root] at hv
      cases hv
    rw [SyntaxTree.children_onlyChild hne]
  · rfl

/-- The paths of an annotation are given by its arguments, to which it refers. -/
private theorem mappedPaths_onlyChild {t : SyntaxTree} (ht : t.Rooted) {c : Nat} :
    mappedPaths (t.onlyChild c) = mappedPaths t := by
  funext use
  simp [mappedPaths, argumentValues_onlyChild ht]

/-- A type is not the root, nor are its methods, so all of them keep their annotations. -/
private theorem isLocal_requestPath (base suffix : String) : (requestPath base suffix).IsLocal := by
  intro cx ht hnode c
  have hbases : basePaths (cx.tree.onlyChild c) cx.node base = basePaths cx.tree cx.node base := by
    simp [basePaths, annotationsOf_onlyChild hnode, mappedPaths_onlyChild ht]
  simp only [requestPath, Detector.searching, Context.tree_onlyChild, Context.node_onlyChild,
    Context.kind_onlyChild, hbases, SyntaxTree.members_onlyChild hnode, SyntaxTree.kind_onlyChild]
  refine congrArg Outcome.ofSearch ?_
  split
  · refine congrArg (Option.bind _)
      (funext fun bases => gather_congr fun (method : Nat) hmethod => ?_)
    have hne : method ≠ 0 := ht.ne_zero (p := Kind.isMethod) rfl (List.mem_filter.mp hmethod).2
    simp [annotationsOf_onlyChild hne, mappedPaths_onlyChild ht]
  · rfl

/-- Calls that write to a log are told by their names. -/
private theorem isLocal_logMessage (methods : List String) : (logMessage methods).IsLocal := by
  intro cx _ _ c
  simp [logMessage, Detector.searching]

namespace LongStatement

/-- Whether a node is too long is told by its own text. -/
@[simp]
theorem isTooLong_onlyChild (d : LongStatement) {t : SyntaxTree} {c : Nat} :
    d.isTooLong (t.onlyChild c) = d.isTooLong t := by
  funext i
  simp [isTooLong]

/-- Whether the length of a node counts is told by its kind and text. -/
@[simp]
theorem isLongCandidate_onlyChild (d : LongStatement) {t : SyntaxTree} {c : Nat} :
    d.isLongCandidate (t.onlyChild c) = d.isLongCandidate t := by
  funext i
  simp [isLongCandidate]

/-- A node is reported for its length by itself and the nodes around it. -/
@[simp]
theorem lengthFindings_onlyChild (d : LongStatement) {cx : Context} {c : Nat} :
    d.lengthFindings (cx.onlyChild c) = d.lengthFindings cx := by
  funext signature
  simp [lengthFindings, hasLongAncestor]

/-- Arguments are reached by references. -/
@[simp]
theorem argumentFindings_onlyChild (d : LongStatement) {cx : Context} {c : Nat} :
    d.argumentFindings (cx.onlyChild c) = d.argumentFindings cx := by
  funext signature arg
  simp [argumentFindings]

end LongStatement

/-- A node is judged by its text and by the nodes around it, an argument by its text and its left
operand. None of these depends on children. -/
private theorem isLocal_longStatement (d : LongStatement) : d.detector.IsLocal := by
  intro cx _ _ c
  simp [LongStatement.detector, Detector.searching, SyntaxTree.enclosingCallable?]

/-- Names are searched for by references, within any number of levels. -/
@[simp]
theorem nameWithin_onlyChild {t : SyntaxTree} {c : Nat} (fuel i : Nat) :
    nameWithin (t.onlyChild c) fuel i = nameWithin t fuel i := by
  induction fuel generalizing i with
  | zero => rfl
  | succ fuel ih => simp [nameWithin, ih]

/-- What owns a construction is around it. -/
@[simp]
theorem ownerText_onlyChild {t : SyntaxTree} {c i : Nat} :
    ownerText (t.onlyChild c) i = ownerText t i := by
  simp [ownerText]

/-- The finding on the name of a thread is made of the name and of what is around it. -/
@[simp]
theorem nameFinding_onlyChild {cx : Context} {c : Nat} :
    nameFinding (cx.onlyChild c) = nameFinding cx := by
  funext arg
  simp [nameFinding, resolveName]

/-- An argument gives the same finding, or none. -/
@[simp]
theorem argumentFinding_onlyChild {cx : Context} {c : Nat} :
    argumentFinding (cx.onlyChild c) = argumentFinding cx := by
  funext arg
  simp [argumentFinding]

/-- The name of a thread is searched for by references, and its code is around it. -/
private theorem isLocal_threadName (types : List String) (setter : String) :
    (threadName types setter).IsLocal := by
  intro cx _ _ c
  simp [threadName, Detector.searching]

/-- The search for a name does not look at the children of the root. -/
theorem NameEnds.onlyChild {t : SyntaxTree} {e : NodeId} {result : Option String}
    (h : NameEnds t e result) (c : Nat) :
    NameEnds (t.onlyChild c) e result := by
  induction h with
  | outside h => exact .outside (by simpa using h)
  | @leaf e he h =>
    have hname : leafName (t.onlyChild c) e = leafName t e := by simp [leafName]
    exact hname ▸ .leaf (by simpa using he) (by simpa using h)
  | sum he h _ _ ihl ihr => exact .sum (by simpa using he) (by simpa using h) ihl ihr
  | stuck he h _ ihl => exact .stuck (by simpa using he) (by simpa using h) ihl
  | group he h _ ih => exact .group (by simpa using he) (by simpa using h) ih

/-- The search for a name that is reported ends as before. -/
theorem NameFindingEnds.onlyChild {cx : Context} {arg : NodeId}
    (h : NameFindingEnds cx arg) (c : Nat) :
    NameFindingEnds (cx.onlyChild c) arg := by
  rcases h with howner | ⟨result, hresult⟩
  · exact .inl (by simpa using howner)
  · exact .inr ⟨result, hresult.onlyChild c⟩

/-- A call of the detector for names of threads ends as before. -/
theorem ThreadNameEnds.onlyChild {types : List String} {setter : String} {cx : Context}
    (h : ThreadNameEnds types setter cx) (c : Nat) :
    ThreadNameEnds types setter (cx.onlyChild c) := by
  rw [ThreadNameEnds] at h ⊢
  rw [Context.kind_onlyChild]
  split at h
  · next type args _ =>
    intro htype
    have hargument : ∀ arg, ArgumentFindingEnds cx arg →
        ArgumentFindingEnds (cx.onlyChild c) arg := by
      intro arg harg hsize hname
      exact (harg (by simpa using hsize) (by simpa using hname)).onlyChild c
    rw [argumentFinding_onlyChild]
    exact (h htype).imp hargument
  · exact fun hname => (h (by simpa using hname)).onlyChild c
  · trivial

/-- If every call ends, then so it does with one top-level declaration left. -/
theorem CallsEnd.onlyChild {s : Settings} {t : SyntaxTree} (h : CallsEnd s t) (c : Nat) :
    CallsEnd s (t.onlyChild c) := by
  intro i hi rule path
  rw [SyntaxTree.size_onlyChild] at hi
  exact (h i hi rule path).onlyChild c

/-- The body of a method is reached by a reference, and so is what a statement locks. -/
private theorem isLocal_lock (types : List String) : (lock types).IsLocal := by
  intro cx _ _ c
  simp [lock, Detector.searching, guardedCode, callableSubject, SyntaxTree.enclosingCallable?]

/-- The name of a field is found by references. -/
@[simp]
theorem fieldName_onlyChild {t : SyntaxTree} {c : Nat} :
    fieldName (t.onlyChild c) = fieldName t := by
  funext expr
  simp [fieldName]

/-- The body of a method is not the root, so what lies below it stays. -/
theorem methodAccess_onlyChild {t : SyntaxTree} (ht : t.Rooted) {c method : Nat}
    (hmethod : (t.kind method).isMethod = true) :
    methodAccess (t.onlyChild c) method = methodAccess t method := by
  obtain ⟨d, hd⟩ : ∃ d, t.kind method = .methodDecl d := by
    cases hkind : t.kind method <;> simp_all [Kind.isMethod]
  have hwritten : writtenAt (t.onlyChild c) = writtenAt t := by
    funext i
    simp [writtenAt]
  have hreturned : returnedAt (t.onlyChild c) = returnedAt t := by
    funext i
    simp [returnedAt]
  cases hbody : d.body with
  | none => simp [methodAccess, hd, Kind.callable?, hbody]
  | some body =>
    -- a body may be of any kind, so it is only the assumption that tells it from the root
    have hne : body ≠ 0 := by
      rintro rfl
      exact ht.body method d hd hbody
    have hbelow := ht.wellFormed.descendants_onlyChild (c := c) hne
    by_cases hsize : body < t.size <;>
      simp [methodAccess, hd, Kind.callable?, hbody, SyntaxTree.follow, hsize, hwritten,
        hreturned, hbelow]

/-- The methods around a declaration of fields are members of a type, which is not the root, and
what lies below their bodies stays because no body is the root. -/
private theorem isLocal_accessors : accessors.IsLocal := by
  intro cx ht hnode c
  have haccesses : typeAccesses (cx.tree.onlyChild c) cx.node = typeAccesses cx.tree cx.node := by
    have hmethods : methodsAround (cx.tree.onlyChild c) cx.node =
        methodsAround cx.tree cx.node := by
      rw [methodsAround, methodsAround, SyntaxTree.enclosingType?, SyntaxTree.enclosingType?,
        SyntaxTree.findAncestor?_onlyChild]
      cases howner : cx.tree.findAncestor? cx.node Kind.isType with
      | none => rfl
      | some owner =>
        -- the owner is a type, and the root is none
        have hne : owner ≠ 0 :=
          ht.ne_zero (p := Kind.isType) rfl (SyntaxTree.of_findAncestor? howner)
        simp [SyntaxTree.members_onlyChild hne]
    rw [typeAccesses, hmethods, typeAccesses]
    exact gather_congr fun method hmethod =>
      methodAccess_onlyChild ht (isMethod_of_mem_methodsAround hmethod)
  have hfindings : accessorFindings (cx.onlyChild c) = accessorFindings cx := by
    funext accesses
    simp [accessorFindings, SyntaxTree.declarators_onlyChild hnode]
  simp [accessors_eq, Detector.searching, haccesses, hfindings]

/-- The nearest block around a statement is not the root, so what lies below it stays. -/
private theorem priorDeclaration?_onlyChild {t : SyntaxTree} (ht : t.Rooted) {c : Nat} :
    priorDeclaration? (t.onlyChild c) = priorDeclaration? t := by
  funext stmt name
  simp only [priorDeclaration?, SyntaxTree.findAncestor?_onlyChild, SyntaxTree.span_onlyChild,
    SyntaxTree.kind_onlyChild, SyntaxTree.nameText_onlyChild]
  split
  · next block limit hblock hlimit =>
    have hne : block ≠ 0 := ht.ne_zero (p := Kind.isBlock) rfl (SyntaxTree.of_findAncestor? hblock)
    rw [ht.wellFormed.descendants_onlyChild hne]
  · rfl

/-- A variable that is thrown is looked up below a block. -/
private theorem isLocal_throwMessage : throwMessage.IsLocal := by
  intro cx ht _ c
  simp [throwMessage, Detector.searching, thrownVariable, priorDeclaration?_onlyChild ht]

/-- What belongs to a method other than the root stays. -/
private theorem ownNodes_onlyChild {t : SyntaxTree} (ht : t.Rooted) {c method : Nat}
    (hmethod : method ≠ 0) :
    ownNodes (t.onlyChild c) method = ownNodes t method := by
  simp [ownNodes, SyntaxTree.enclosingCallable?, ht.wellFormed.descendants_onlyChild hmethod]

/-- What a call is made on is reached by a reference, and the variables below the method stay. -/
private theorem scanFindings_onlyChild {t : SyntaxTree} (ht : t.Rooted) (types : List String)
    {c method : Nat} (hmethod : method ≠ 0) :
    scanFindings (t.onlyChild c) types method = scanFindings t types method := by
  funext call
  simp [scanFindings, enclosingLoop?, declaresAs, ht.wellFormed.descendants_onlyChild hmethod]

/-- A method is not the root, so what belongs to it stays. -/
private theorem isLocal_loopContains (types : List String) : (loopContains types).IsLocal := by
  intro cx ht hnode c
  simp [loopContains, Detector.searching, ownNodes_onlyChild ht hnode,
    scanFindings_onlyChild ht types hnode]

private theorem isLocal_loopBody : loopBody.IsLocal := by
  intro cx ht hnode c
  simp [loopBody, Detector.searching, ownNodes_onlyChild ht hnode]

/-- No built-in detector looks past the root. -/
theorem isLocal_of_mem_builtin {s : Settings} {d : Detector} (hd : d ∈ builtin s) : d.IsLocal := by
  simp only [builtin, List.mem_cons, List.not_mem_nil, or_false] at hd
  rcases hd with rfl | rfl | rfl | rfl | rfl | rfl | rfl | rfl | rfl | rfl | rfl | rfl | rfl
    | rfl | rfl | rfl
  · exact isLocal_naming
  · exact isLocal_javadoc
  · exact isLocal_methodDoc
  · exact isLocal_requestPath _ _
  · exact isLocal_continuity
  · exact isLocal_interfaceConstants
  · exact isLocal_accessors
  · exact isLocal_classOutline
  · exact isLocal_longStatement _
  · exact isLocal_throwMessage
  · exact isLocal_constants
  · exact isLocal_loopContains _
  · exact isLocal_loopBody
  · exact isLocal_threadName _ _
  · exact isLocal_lock _
  · exact isLocal_logMessage _

end Detect

/-! ### Extraction -/

namespace Engine

/-- The detectors of an engine that is made from a rule set are the built-in ones, under its
settings. -/
private theorem isLocal_of_ofRuleSet {set : RuleSet} {e : Engine} (he : ofRuleSet set = .ok e) :
    ∀ d ∈ e.registry.detectors, d.IsLocal := by
  intro d hd
  rw [Registry.detectors_withDefaults (ofRuleSet_eq_ok_iff.mp he).1] at hd
  exact Detect.isLocal_of_mem_builtin hd

/-- No rule is about a compilation unit. -/
theorem extractAt_compilationUnit (e : Engine) {u : SourceUnit} {i : NodeId}
    (hi : u.tree.kind i = .compilationUnit) : e.extractAt u i = [] := by
  have hcovers : ∀ tag : ScopeTag, tag.covers .compilationUnit = false := by
    intro tag
    cases tag <;> rfl
  simp [extractAt, Rule.applies, hi, hcovers]

variable {e : Engine} {t : SyntaxTree} {path : String} {c i : Nat}

/-- What is extracted at a node other than the root does not depend on the children of the root. -/
private theorem extractAt_onlyChild (he : ∀ d ∈ e.registry.detectors, d.IsLocal) (ht : t.Rooted)
    (hi : i ≠ 0) :
    e.extractAt ⟨path, t.onlyChild c⟩ i = e.extractAt ⟨path, t⟩ i := by
  have hinvoke : ∀ rule, e.extractFor ⟨path, t.onlyChild c⟩ i rule =
      e.extractFor ⟨path, t⟩ i rule := by
    intro rule
    refine List.flatMap_congr fun d hd => ?_
    have hlocal := he d (Registry.mem_of_mem_detectorsFor hd) ⟨t, i, rule, path⟩ ht hi c
    simp only [invoke]
    exact congrArg (fun o : Outcome => (o.findings?.getD []).map fun f =>
      Snippet.mk rule path f) hlocal
  rw [extractAt, extractAt, SyntaxTree.kind_onlyChild]
  exact List.flatMap_congr fun rule _ => hinvoke rule

/-- With one top-level declaration left, the snippets are those of its segment. -/
theorem extract_onlyChild (he : ∀ d ∈ e.registry.detectors, d.IsLocal) (ht : t.Rooted)
    (hc : c ∈ t.children 0) :
    e.extract ⟨path, t.onlyChild c⟩ = (t.segment c).flatMap (e.extractAt ⟨path, t⟩) := by
  have h := ht.wellFormed
  have hpos : 0 < c := h.lt_of_parent? (h.mem_children.mp hc)
  have hbelow : (t.onlyChild c).descendants 0 = t.segment c := by
    rw [SyntaxTree.descendants, SyntaxTree.children_onlyChild_root h.size_pos,
      List.flatMap_singleton, SyntaxTree.size_onlyChild, h.subtree_onlyChild (Nat.ne_of_gt hpos),
      h.subtree_eq (by omega)]
  have hroot : e.extractAt ⟨path, t.onlyChild c⟩ 0 = [] :=
    extractAt_compilationUnit e (by simpa using ht.root)
  rw [extract, SyntaxTree.preorder, List.flatMap_cons, hroot, List.nil_append, hbelow]
  refine List.flatMap_congr fun (i : Nat) hi => extractAt_onlyChild he ht ?_
  rcases List.mem_cons.mp hi with rfl | hi
  · exact Nat.ne_of_gt hpos
  · exact Nat.ne_zero_of_lt (h.lt_of_mem_descendants hi)

/-- **Top-level declarations one by one.** Let every call of a built-in detector end, and let no
method name the root as its body. Then the built-in detectors make the snippets of a tree out of
each top-level declaration alone, and with one declaration left every call ends as well. -/
theorem extract_eq_flatMap_onlyChild {set : RuleSet} (he : ofRuleSet set = .ok e) (ht : t.Reachable)
    (hroot : t.kind 0 = .compilationUnit)
    (hbody : ∀ i d, t.kind i = .methodDecl d → d.body ≠ some 0)
    (hends : Detect.CallsEnd set.settings t) (path : String) :
    e.extract ⟨path, t⟩ = ((t.children 0).flatMap fun c => e.extract ⟨path, t.onlyChild c⟩) ∧
    ∀ c ∈ t.children 0, Detect.CallsEnd set.settings (t.onlyChild c) := by
  have hrooted : t.Rooted := ⟨ht.wellFormed, hroot, hbody⟩
  have hlocal := isLocal_of_ofRuleSet he
  have hunit : e.extractAt ⟨path, t⟩ 0 = [] := extractAt_compilationUnit e hroot
  refine ⟨?_, fun c _ => hends.onlyChild c⟩
  rw [extract, SyntaxTree.preorder, List.flatMap_cons, hunit, List.nil_append,
    ht.wellFormed.descendants_eq, List.flatMap_assoc]
  exact List.flatMap_congr fun c hc => (extract_onlyChild hlocal hrooted hc).symm

/-- One rule about fields, to which the detector of accessors is bound. -/
def fieldRules : RuleSet where
  rules := [{ id := "RULE-018", scope := "FIELD_DECLARATION" }]

/-- Two types with a field `x` each; a method of the first one assigns to it. -/
def twoTypes : SyntaxTree :=
  SyntaxTree.ofSource ""
    |>.push 0 { kind := .typeDecl { kind := .classType } }
    |>.push 1 { kind := .fieldDecl "int" }
    |>.push 2 { kind := .declarator "int" none, name := some ⟨"x", none⟩ }
    |>.push 1 { kind := .methodDecl { body := some 5 }, name := some ⟨"set", none⟩ }
    |>.push 4 { kind := .block }
    |>.push 5 { kind := .expr (.assignment "=" 7 7) }
    |>.push 6 { kind := .expr .name, name := some ⟨"x", none⟩ }
    |>.push 0 { kind := .typeDecl { kind := .classType } }
    |>.push 8 { kind := .fieldDecl "int" }
    |>.push 9 { kind := .declarator "int" none, name := some ⟨"x", none⟩ }

/-- The tree has grown node by node. -/
private theorem twoTypes_reachable : twoTypes.Reachable := by
  iterate 10 refine .push ?_ (by decide) rfl
  exact .ofSource ""

/-- Where nothing refers to the root, no method names it as its body. -/
theorem body_ne_root {t : SyntaxTree} (h : ∀ n ∈ t.nodes.toList, 0 ∉ n.kind.references) {i : NodeId}
    {d : CallableDecl} (hd : t.kind i = .methodDecl d) : d.body ≠ some 0 := by
  intro hbody
  cases hn : t.node? i with
  | none => simp [SyntaxTree.kind, SyntaxTree.node, hn] at hd
  | some n =>
    simp only [SyntaxTree.kind, SyntaxTree.node, hn, Option.getD_some] at hd
    refine h n (Array.mem_toList_iff.mpr (Array.mem_of_getElem? hn)) ?_
    simp [hd, Kind.references, hbody]

/-- Each of the two fields is reported with the methods of its own type. -/
theorem extract_twoTypes :
    ∃ e, ofRuleSet fieldRules = .ok e ∧ Detect.CallsEnd fieldRules.settings twoTypes ∧
      e.extract ⟨"A.java", twoTypes⟩ =
        (twoTypes.children 0).flatMap (fun c => e.extract ⟨"A.java", twoTypes.onlyChild c⟩) ∧
      (e.extract ⟨"A.java", twoTypes⟩).map (fun s => s.finding.subject) =
        ["field x, setter set(), getter none", "field x, setter none, getter none"] := by
  have hrun : (ofRuleSet fieldRules).map (fun e =>
      (e.extract ⟨"A.java", twoTypes⟩).map fun s => s.finding.subject) =
        .ok ["field x, setter set(), getter none", "field x, setter none, getter none"] := by
    decide +kernel
  cases he : ofRuleSet fieldRules with
  | error err =>
    rw [he] at hrun
    cases hrun
  | ok e =>
    rw [he] at hrun
    have hbody : ∀ n ∈ twoTypes.nodes.toList, 0 ∉ n.kind.references := by decide
    have hbelow : Detect.OperandsBelow twoTypes := by decide
    have hends : Detect.CallsEnd fieldRules.settings twoTypes :=
      hbelow.callsEnd twoTypes_reachable.wellFormed _
    obtain ⟨hextract, -⟩ :=
      extract_eq_flatMap_onlyChild he twoTypes_reachable rfl
        (fun _ _ => body_ne_root hbody) hends "A.java"
    exact ⟨e, rfl, hends, hextract, Except.ok.inj hrun⟩

/-- A type with a field `x` and a method that names the root as its body, followed by an
assignment to `x` outside of the type. -/
def rootBodied : SyntaxTree :=
  SyntaxTree.ofSource ""
    |>.push 0 { kind := .typeDecl { kind := .classType } }
    |>.push 1 { kind := .fieldDecl "int" }
    |>.push 2 { kind := .declarator "int" none, name := some ⟨"x", none⟩ }
    |>.push 1 { kind := .methodDecl { body := some 0 }, name := some ⟨"set", none⟩ }
    |>.push 0 { kind := .expr (.assignment "=" 6 6) }
    |>.push 5 { kind := .expr .name, name := some ⟨"x", none⟩ }

/-- The tree has grown node by node, although a method in it refers to the root. -/
private theorem rootBodied_reachable : rootBodied.Reachable := by
  iterate 6 refine .push ?_ (by decide) rfl
  exact .ofSource ""

/-- With the root as its body, a method reaches into the other top-level declarations, although
every call of a detector ends, and completes. -/
theorem extract_rootBodied_ne :
    rootBodied.Reachable ∧ rootBodied.kind 0 = .compilationUnit ∧
    Detect.CallsEnd fieldRules.settings rootBodied ∧
    (∀ d ∈ Detect.builtin fieldRules.settings, ∀ i ∈ List.range rootBodied.size,
      ∀ rule ∈ fieldRules.rules,
      (d.detect ⟨rootBodied, i, rule, "A.java"⟩).findings?.isSome) ∧
    ∃ e, ofRuleSet fieldRules = .ok e ∧
      e.extract ⟨"A.java", rootBodied⟩ ≠
        (rootBodied.children 0).flatMap fun c => e.extract ⟨"A.java", rootBodied.onlyChild c⟩ := by
  have hrun : (ofRuleSet fieldRules).map (fun e => decide (e.extract ⟨"A.java", rootBodied⟩ =
      (rootBodied.children 0).flatMap fun c => e.extract ⟨"A.java", rootBodied.onlyChild c⟩)) =
        .ok false := by
    decide +kernel
  have hbelow : Detect.OperandsBelow rootBodied := by decide
  refine ⟨rootBodied_reachable, rfl, hbelow.callsEnd rootBodied_reachable.wellFormed _,
    by decide +kernel, ?_⟩
  cases he : ofRuleSet fieldRules with
  | error err =>
    rw [he] at hrun
    cases hrun
  | ok e =>
    rw [he] at hrun
    exact ⟨e, rfl, of_decide_eq_false (Except.ok.inj hrun)⟩

end Engine

end Excerpt
