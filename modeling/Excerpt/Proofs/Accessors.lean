import Excerpt.Proofs.Confinement
import Excerpt.Proofs.FieldSlots
import Excerpt.Proofs.Loops

/-!
# Setters and getters of fields

The setter of a field is the last method of the type around it whose body assigns to something
that may be the field, at whatever depth; the getter is the last one whose body returns such a
thing. Only the first of several fields of one name has a setter and a getter.

The detector itself is a loop with a state. That it can be described without one is proved
elsewhere (`accessors_eq`), and this module starts from the description: what each method
assigns to and returns is collected, and the last method is looked up field by field. What the
records of methods mean is said in terms of the nodes of their bodies (`IsAccessOf`), so that
the main theorem does not mention them.

A detector may get stuck at a reference that leads out of the tree. It does not if references stay
in the tree, and whenever it completes, the findings are as described.

What is said about the other fields of a declaration is of no account. Trees that differ in their
variables only (`SyntaxTree.SameApartFromVariables`) have the same methods, which do the same with
fields of any name, so the finding on a field is the same in both, as long as the field has the
same name and is the first of this name.

## Main results

* `methodAccess_eq_some`: what the record of a method says about its body.
* `namesLast_lastMethod?`: the last record is that of the last method.
* `typeAccesses_same`: other variables do not matter.
* `accessors_detect_fields`: what is reported on a declaration of fields.
-/

namespace Excerpt

namespace Detect

variable {t : SyntaxTree} {i m n : NodeId} {v : String}

/-! ### What methods do with fields -/

/-- The expression is a simple name or a field access with the given name. -/
def MayBeField (t : SyntaxTree) (v : String) (e : NodeId) : Prop :=
  (t.kind e = .expr .name ∨ ∃ object, t.kind e = .expr (.fieldAccess object)) ∧
    (t.node e).nameText = v

/-- The node assigns to what may be the field. -/
def AssignsAt (t : SyntaxTree) (v : String) (n : NodeId) : Prop :=
  ∃ op target value, t.kind n = .expr (.assignment op target value) ∧ MayBeField t v target

/-- The node returns what may be the field. -/
def ReturnsAt (t : SyntaxTree) (v : String) (n : NodeId) : Prop :=
  ∃ e, t.kind n = .stmt (.returnStmt (some e)) ∧ MayBeField t v e

/-- The method has a body, and somewhere in it is a node with the property. -/
def InBody (t : SyntaxTree) (m : NodeId) (P : NodeId → Prop) : Prop :=
  ∃ body, (t.kind m).callable?.bind CallableDecl.body = some body ∧ ∃ n ∈ t.descendants body, P n

/-- The name that an expression gives is that of the field that it may be. -/
private theorem mem_of_fieldName {e : NodeId} {names : List String}
    (h : fieldName t e = some names) :
    v ∈ names ↔ MayBeField t v e := by
  obtain ⟨e', he, rfl⟩ := Option.map_eq_some_iff.mp h
  obtain ⟨-, rfl⟩ := SyntaxTree.follow_eq_some_iff.mp he
  rw [MayBeField]
  split
  · next hkind => simp [hkind, eq_comm]
  · next object hkind => simp [hkind, eq_comm]
  · next hname haccess =>
    refine iff_of_false List.not_mem_nil ?_
    rintro ⟨hkind | ⟨object, hkind⟩, -⟩
    · exact hname hkind
    · exact haccess object hkind

/-- The names that a node assigns to are those of the fields that its left operand may be. -/
private theorem mem_of_writtenAt {names : List String} (h : writtenAt t n = some names) :
    v ∈ names ↔ AssignsAt t v n := by
  rw [writtenAt] at h
  rw [AssignsAt]
  split at h
  · next op target value hkind => simp [hkind, mem_of_fieldName h]
  · next hkind =>
    obtain rfl := Option.some.inj h
    simpa using fun op target value heq => absurd heq (hkind op target value)

/-- The names that a node returns are those of the fields that its operand may be. -/
private theorem mem_of_returnedAt {names : List String} (h : returnedAt t n = some names) :
    v ∈ names ↔ ReturnsAt t v n := by
  rw [returnedAt] at h
  rw [ReturnsAt]
  split at h
  · next e hkind => simp [hkind, mem_of_fieldName h]
  · next hkind =>
    obtain rfl := Option.some.inj h
    simpa using fun e heq => absurd heq (hkind e)

/-- What is gathered from nodes comes from one of them. -/
theorem mem_of_gather {P : NodeId → Prop} {nodes : List NodeId} {f : NodeId → Option (List String)}
    {names : List String} (hf : ∀ n ∈ nodes, ∀ names, f n = some names → (v ∈ names ↔ P n))
    (h : gather nodes f = some names) : v ∈ names ↔ ∃ n ∈ nodes, P n := by
  obtain ⟨hsome, rfl⟩ := gather_eq_some_iff.mp h
  rw [List.mem_flatMap]
  refine exists_congr fun n => and_congr_right fun hn => ?_
  obtain ⟨here, hhere⟩ := Option.isSome_iff_exists.mp (hsome n hn)
  rw [hhere, Option.getD_some]
  exact hf n hn here hhere

/-- The record says what the method does with fields of whatever name. -/
structure IsAccessOf (t : SyntaxTree) (m : NodeId) (a : MethodAccess) : Prop where
  method : a.method = (t.node m).nameText
  writes : ∀ v, v ∈ a.writes ↔ InBody t m (AssignsAt t v)
  reads : ∀ v, v ∈ a.reads ↔ InBody t m (ReturnsAt t v)

/-- A method without a body leaves no record, and then nothing is in its body. Otherwise the
record says what its body does. -/
theorem methodAccess_eq_some {accesses : List MethodAccess} (h : methodAccess t m = some accesses) :
    (accesses = [] ∧ ∀ P, ¬ InBody t m P) ∨ ∃ a, accesses = [a] ∧ IsAccessOf t m a := by
  rw [methodAccess] at h
  split at h
  · next body hbody =>
    obtain ⟨body', hfollow, h⟩ := Option.bind_eq_some_iff.mp h
    obtain ⟨-, rfl⟩ := SyntaxTree.follow_eq_some_iff.mp hfollow
    obtain ⟨writes, hwrites, h⟩ := Option.bind_eq_some_iff.mp h
    obtain ⟨reads, hreads, h⟩ := Option.bind_eq_some_iff.mp h
    obtain rfl := Option.some.inj h
    -- both searches go through what lies below the body
    have hin : ∀ P, InBody t m P ↔ ∃ n ∈ t.descendants body, P n := fun P => by simp [InBody, hbody]
    refine Or.inr ⟨_, rfl, rfl, fun v => ?_, fun v => ?_⟩
    · rw [hin]
      exact mem_of_gather (fun n _ names => mem_of_writtenAt) hwrites
    · rw [hin]
      exact mem_of_gather (fun n _ names => mem_of_returnedAt) hreads
  · next hbody =>
    refine Or.inl ⟨(Option.some.inj h).symm, ?_⟩
    rintro P ⟨body, hsome, -⟩
    rw [hbody] at hsome
    cases hsome

/-! ### Searches that come to an end -/

private theorem isSome_fieldName {e : NodeId} (he : e < t.size) : (fieldName t e).isSome := by
  rw [fieldName, SyntaxTree.follow, if_pos he]
  rfl

section

variable (hin : t.ReferencesWithin)

include hin

private theorem isSome_writtenAt : (writtenAt t n).isSome := by
  rw [writtenAt]
  split
  · next op target value hkind =>
    have htarget : target < t.size := hin n target (by simp [hkind, Kind.references])
    exact isSome_fieldName htarget
  · rfl

private theorem isSome_returnedAt : (returnedAt t n).isSome := by
  rw [returnedAt]
  split
  · next e hkind =>
    have he : e < t.size := hin n e (by simp [hkind, Kind.references])
    exact isSome_fieldName he
  · rfl

/-- A method can be searched for what it does with fields, if references stay in the tree. -/
private theorem isSome_methodAccess : (methodAccess t m).isSome := by
  rw [methodAccess]
  split
  · next body hbody =>
    have hfollow : t.follow body = some body := if_pos (hin m body (mem_references_of_body hbody))
    have hwrites := gather_eq_some_iff.mpr ⟨fun n (_ : n ∈ t.descendants body) =>
      isSome_writtenAt hin (n := n), rfl⟩
    have hreads := gather_eq_some_iff.mpr ⟨fun n (_ : n ∈ t.descendants body) =>
      isSome_returnedAt hin (n := n), rfl⟩
    simp only [hfollow, hwrites, hreads, Option.bind_eq_bind, Option.bind_some]
    rfl
  · rfl

end

/-! ### The last method -/

/-- The text names the last of the methods with a property as a call, or says that there is none. -/
def NamesLast (t : SyntaxTree) (methods : List NodeId) (P : NodeId → Prop) (text : String) : Prop :=
  (∃ before m after, methods = before ++ m :: after ∧ P m ∧ (∀ m' ∈ after, ¬ P m') ∧
    text = (t.node m).nameText ++ "()") ∨
  ((∀ m ∈ methods, ¬ P m) ∧ text = "none")

/-- The record of a method, if it has a body. -/
def access? (t : SyntaxTree) (m : NodeId) : Option MethodAccess :=
  ((methodAccess t m).getD []).head?

/-- The records of methods, one after the other. A method without a record has nothing in its
body. -/
private theorem gather_methodAccess {methods : List NodeId} {accesses : List MethodAccess}
    (h : gather methods (methodAccess t) = some accesses) :
    accesses = methods.filterMap (access? t) ∧
      ∀ m ∈ methods, (access? t m = none ∧ ∀ P, ¬ InBody t m P) ∨ ∃ a, access? t m = some a ∧
        IsAccessOf t m a := by
  obtain ⟨hsome, rfl⟩ := gather_eq_some_iff.mp h
  -- a search that has come to an end has done so at each method
  have hcases : ∀ m ∈ methods, ((methodAccess t m).getD [] = [] ∧ ∀ P, ¬ InBody t m P) ∨
      ∃ a, (methodAccess t m).getD [] = [a] ∧ IsAccessOf t m a := by
    intro m hm
    obtain ⟨here, hhere⟩ := Option.isSome_iff_exists.mp (hsome m hm)
    rw [hhere]
    exact methodAccess_eq_some hhere
  constructor
  · rw [List.filterMap_eq_flatMap_toList]
    refine List.flatMap_congr fun m hm => ?_
    rcases hcases m hm with ⟨hnil, -⟩ | ⟨a, ha, -⟩
    · simp [access?, hnil]
    · simp [access?, ha]
  · intro m hm
    rcases hcases m hm with ⟨hnil, hbody⟩ | ⟨a, ha, haccess⟩
    · exact Or.inl ⟨by simp [access?, hnil], hbody⟩
    · exact Or.inr ⟨a, by simp [access?, ha], haccess⟩

/-- Looking for the last record is looking for the last method. -/
theorem namesLast_lastMethod? {methods : List NodeId} {accesses : List MethodAccess}
    {P : NodeId → Prop} {does : MethodAccess → Bool}
    (hdoes : ∀ m a, IsAccessOf t m a → (does a = true ↔ InBody t m P))
    (h : gather methods (methodAccess t) = some accesses) :
    NamesLast t methods (InBody t · P) (FieldSlot.callText (lastMethod? accesses does)) := by
  obtain ⟨rfl, hcases⟩ := gather_methodAccess h
  -- a method that leaves no record under the test does nothing of the kind
  have hnone : ∀ m ∈ methods, (access? t m).filter does = none → ¬ InBody t m P := by
    intro m hm hfilter hbody
    rcases hcases m hm with ⟨-, hnot⟩ | ⟨a, ha, haccess⟩
    · exact hnot P hbody
    · rw [ha, Option.filter_some, if_pos ((hdoes m a haccess).mpr hbody)] at hfilter
      cases hfilter
  rw [lastMethod?, List.filter_filterMap, List.getLast?_filterMap]
  cases hlast : methods.reverse.findSome? fun m => (access? t m).filter does with
  | none =>
    refine Or.inr ⟨fun m hm => hnone m hm ?_, rfl⟩
    exact List.findSome?_eq_none_iff.mp hlast m (List.mem_reverse.mpr hm)
  | some a =>
    -- the last method from the front is the first one from the end
    obtain ⟨after, m, before, hsplit, hm, hafter⟩ := List.findSome?_eq_some_iff.mp hlast
    have hmethods : methods = before.reverse ++ m :: after.reverse := by
      rw [← List.reverse_reverse methods, hsplit]
      simp
    have hmem : ∀ m' ∈ m :: after.reverse, m' ∈ methods :=
      fun m' hm' => hmethods ▸ List.mem_append_right _ hm'
    obtain ⟨ha, htest⟩ := Option.filter_eq_some_iff.mp hm
    rcases hcases m (hmem m List.mem_cons_self) with ⟨hnil, -⟩ | ⟨a', ha', haccess⟩
    · rw [hnil] at ha
      cases ha
    · obtain rfl : a = a' := Option.some.inj (ha.symm.trans ha')
      refine Or.inl ⟨_, m, _, hmethods, (hdoes m a haccess).mp htest, fun m' hm' => ?_, ?_⟩
      · exact hnone m' (hmem m' (List.mem_cons_of_mem m hm')) (hafter m' (List.mem_reverse.mp hm'))
      · rw [Option.map_some, FieldSlot.callText, haccess.method]

/-! ### Several fields of one declaration -/

/-- What is reported on a field of the given name, if the methods do what is recorded. -/
def accessorSubject (accesses : List MethodAccess) (v : String) : String :=
  "field " ++ v ++ ", setter " ++
    FieldSlot.callText (lastMethod? accesses fun a => a.writes.contains v) ++
    ", getter " ++ FieldSlot.callText (lastMethod? accesses fun a => a.reads.contains v)

/-- A field is reported on by its name, unless another one of this name comes before it. -/
theorem getElem?_filled (accesses : List MethodAccess) (before names : List String) (k : Nat) :
    (filled accesses before names)[k]?.map FieldSlot.subject =
      names[k]?.map fun v => accessorSubject (if v ∈ before ∨ v ∈ names.take k then []
        else accesses) v := by
  induction names generalizing before k with
  | nil => simp [filled]
  | cons name names ih =>
    cases k with
    | zero => simp [filled, accessorSubject, FieldSlot.subject]
    | succ k =>
      rw [filled, List.getElem?_cons_succ, List.getElem?_cons_succ, ih]
      refine Option.map_congr fun v _ => ?_
      simp only [List.take_succ_cons, List.mem_cons, or_assoc, or_left_comm]

private theorem length_filled (accesses : List MethodAccess) (before names : List String) :
    (filled accesses before names).length = names.length := by
  induction names generalizing before with
  | nil => rfl
  | cons name names ih => rw [filled, List.length_cons, ih, List.length_cons]

/-- No variable that a node declares before its variable `v`, at position `k`, has the name of
`v`. -/
def IsFirstOfName (t : SyntaxTree) (i : NodeId) (k : Nat) (v : NodeId) : Prop :=
  ∀ u ∈ (t.declarators i).take k, (t.node u).nameText ≠ (t.node v).nameText

instance (t : SyntaxTree) (i : NodeId) (k : Nat) (v : NodeId) : Decidable (IsFirstOfName t i k v) :=
  inferInstanceAs (Decidable (∀ u ∈ _, _))

section

variable {cx : Context} (hfield : isField cx.kind = true)

include hfield

/-- The detector at a declaration of fields: methods are searched first, and then the fields are
looked up in the records. -/
private theorem accessors_detect_eq :
    accessors.detect cx = .ofSearch ((typeAccesses cx.tree cx.node).map (accessorFindings cx)) := by
  rw [accessors_eq, Detector.searching]
  exact congrArg Outcome.ofSearch (if_pos hfield)

/-- If the methods can be searched, the call completes, with a finding for each field. A field
behind another one of its name is looked up among no records. -/
private theorem exists_detect_eq_completed {accesses : List MethodAccess}
    (haccesses : typeAccesses cx.tree cx.node = some accesses) :
    ∃ findings : List Finding, accessors.detect cx = .completed findings ∧
      findings.length = (cx.tree.declarators cx.node).length ∧
      ∀ k v, (cx.tree.declarators cx.node)[k]? = some v → findings[k]? =
        some (Finding.mk cx.line cx.trimmedText
          (accessorSubject (if IsFirstOfName cx.tree cx.node k v then accesses
            else []) (cx.tree.node v).nameText)) := by
  refine ⟨accessorFindings cx accesses, by rw [accessors_detect_eq hfield, haccesses]; rfl,
    by simp [accessorFindings, length_filled], fun k v hv => ?_⟩
  have hbefore : (cx.tree.node v).nameText ∈
      ((cx.tree.declarators cx.node).map fun v => (cx.tree.node v).nameText).take k ↔
      ¬ IsFirstOfName cx.tree cx.node k v := by
    simp [← List.map_take, IsFirstOfName]
  have hsubject := getElem?_filled accesses [] ((cx.tree.declarators cx.node).map fun v =>
    (cx.tree.node v).nameText) k
  rw [List.getElem?_map, hv, Option.map_some, Option.map_some, Option.map_eq_some_iff] at hsubject
  obtain ⟨slot, hslot, hsubject⟩ := hsubject
  rw [accessorFindings, List.getElem?_map, hslot, Option.map_some, hsubject]
  simp only [List.not_mem_nil, false_or, hbefore, ite_not]

/-- If the call completes, the methods could be searched. -/
private theorem exists_accesses_of_completed {findings : List Finding}
    (h : accessors.detect cx = .completed findings) :
    ∃ accesses, typeAccesses cx.tree cx.node = some accesses := by
  cases haccesses : typeAccesses cx.tree cx.node with
  | some accesses => exact ⟨accesses, rfl⟩
  | none =>
    rw [accessors_detect_eq hfield, haccesses] at h
    cases h

end

end Detect

/-! ### Trees that differ in their variables -/

namespace SyntaxTree

/-- The trees have one shape, and a node that is not the same in both is a variable in both. -/
structure SameApartFromVariables (t t' : SyntaxTree) : Prop where
  source : t'.source = t.source
  size : t'.size = t.size
  parent? : ∀ i, t'.parent? i = t.parent? i
  children : ∀ i, t'.children i = t.children i
  node : ∀ i, t'.node i = t.node i ∨
    (∃ type value, t.kind i = .declarator type value) ∧
      ∃ type value, t'.kind i = .declarator type value

/-- Rewriting a variable changes nothing else. -/
theorem sameApartFromVariables_edit {t : SyntaxTree} {c : NodeId} {n : Node}
    (hc : ∃ type value, t.kind c = .declarator type value)
    (hn : ∃ type value, n.kind = .declarator type value) :
    t.SameApartFromVariables (t.edit c n) where
  source := rfl
  size := size_edit t c n
  parent? _ := parent?_edit
  children _ := children_edit
  node i := by
    by_cases hi : i = c
    · subst hi
      cases hnode : t.node? i with
      | none => exact Or.inl (by simp [node, node?_edit, hnode])
      | some m => exact Or.inr ⟨hc, by simpa [kind, node, node?_edit, hnode] using hn⟩
    · exact Or.inl (by simp [node, node?_edit, hi])

namespace SameApartFromVariables

variable {t t' : SyntaxTree} {i : Nat} (h : t.SameApartFromVariables t')

include h

/-- A function of kinds that does not look into variables. -/
theorem apply_kind {β : Type} (f : Kind → β) (b : β)
    (hf : ∀ type value, f (.declarator type value) = b) (i : NodeId) :
    f (t'.kind i) = f (t.kind i) := by
  rcases h.node i with hnode | ⟨⟨type, value, hkind⟩, type', value', hkind'⟩
  · rw [kind, hnode, kind]
  · rw [hkind, hkind', hf, hf]

/-- A node that is no variable is the same in both trees. -/
private theorem node_of_kind_ne (hi : ∀ type value, t.kind i ≠ .declarator type value) :
    t'.node i = t.node i := by
  rcases h.node i with hnode | ⟨⟨type, value, hkind⟩, -⟩
  · exact hnode
  · exact absurd hkind (hi type value)

/-- The way up from a node is the same in both trees. -/
theorem ancestors_eq : t'.ancestors i = t.ancestors i := by
  induction i using Nat.strongRecOn with
  | ind i ih =>
    rw [ancestors, h.parent? i, ancestors]
    cases t.parent? i with
    | none => rfl
    | some p =>
      dsimp only
      split
      · next hlt => rw [ih p hlt]
      · rfl

private theorem enclosingType?_eq : t'.enclosingType? i = t.enclosingType? i := by
  rw [enclosingType?, findAncestor?, h.ancestors_eq, enclosingType?, findAncestor?]
  exact congrArg (List.find? · (t.ancestors i))
    (funext fun a => h.apply_kind Kind.isType false (fun _ _ => rfl) a)

/-- The nodes down to some depth are the same in both trees. -/
theorem subtree_eq (depth : Nat) : t'.subtree depth i = t.subtree depth i := by
  induction depth generalizing i with
  | zero => rfl
  | succ depth ih =>
    rw [subtree, subtree, h.children]
    exact congrArg (i :: ·) (List.flatMap_congr fun j _ => ih)

/-- The nodes below a node are the same in both trees. -/
theorem descendants_eq : t'.descendants i = t.descendants i := by
  rw [descendants, h.children, h.size, descendants]
  exact List.flatMap_congr fun j _ => h.subtree_eq t.size

/-- A reference can be followed in both trees or in neither. -/
theorem follow_eq : t'.follow i = t.follow i := by
  rw [follow, h.size, follow]

/-- The same nodes are the variables of a declaration, whatever they say about themselves. -/
theorem declarators_eq : t'.declarators i = t.declarators i := by
  rw [declarators, h.children, declarators]
  refine List.filter_congr fun c _ => ?_
  rcases h.node c with hnode | ⟨⟨type, value, hkind⟩, type', value', hkind'⟩
  · rw [kind, hnode, kind]
  · rw [hkind, hkind']

end SameApartFromVariables

end SyntaxTree

namespace Detect

section

variable {t t' : SyntaxTree} {i : NodeId} (h : t.SameApartFromVariables t')

include h

/-- Types and methods are no variables, so the methods around a node are the same. -/
private theorem methodsAround_same : methodsAround t' i = methodsAround t i := by
  rw [methodsAround, h.enclosingType?_eq, methodsAround]
  refine congrArg (Option.elim _ _) (funext fun owner => ?_)
  rw [SyntaxTree.members, h.children, SyntaxTree.members, List.filter_filter, List.filter_filter]
  refine List.filter_congr fun m _ => ?_
  exact h.apply_kind (fun k => k.isMethod && k.isMember) false (fun _ _ => rfl) m

/-- The expressions that may be fields are names and field accesses, which are no variables. -/
private theorem fieldName_same : fieldName t' i = fieldName t i := by
  rw [fieldName, h.follow_eq, fieldName]
  refine Option.map_congr fun e _ => ?_
  rcases h.node e with hnode | ⟨⟨type, value, hkind⟩, type', value', hkind'⟩
  · rw [SyntaxTree.kind, hnode, SyntaxTree.kind]
  · rw [hkind, hkind']

private theorem writtenAt_same : writtenAt t' = writtenAt t := by
  funext i
  rw [writtenAt, writtenAt]
  rcases h.node i with hnode | ⟨⟨type, value, hkind⟩, type', value', hkind'⟩
  · rw [SyntaxTree.kind, hnode, SyntaxTree.kind]
    split
    · exact fieldName_same h
    · rfl
  · rw [hkind, hkind']

private theorem returnedAt_same : returnedAt t' = returnedAt t := by
  funext i
  rw [returnedAt, returnedAt]
  rcases h.node i with hnode | ⟨⟨type, value, hkind⟩, type', value', hkind'⟩
  · rw [SyntaxTree.kind, hnode, SyntaxTree.kind]
    split
    · exact fieldName_same h
    · rfl
  · rw [hkind, hkind']

/-- The body of a method and what lies below it are found in the same way, and what is found there
is no variable. -/
private theorem methodAccess_same : methodAccess t' = methodAccess t := by
  funext i
  rw [methodAccess, methodAccess]
  rcases h.node i with hnode | ⟨⟨type, value, hkind⟩, type', value', hkind'⟩
  · rw [SyntaxTree.kind, hnode, SyntaxTree.kind]
    split
    · simp only [h.follow_eq, h.descendants_eq, writtenAt_same h, returnedAt_same h]
    · rfl
  · rw [hkind, hkind']
    rfl

/-- The methods around a node do the same with fields, for what they assign to and return is
no variable but an expression. -/
theorem typeAccesses_same : typeAccesses t' i = typeAccesses t i := by
  rw [typeAccesses, typeAccesses, methodsAround_same h, methodAccess_same h]

end

/-- **Setters and getters of all fields of a declaration.** There is one finding for each field,
in their order. The first field of each name is reported with the last method of the nearest type
around the declaration whose body assigns to what may be the field, and with the last one whose
body returns what may be the field; other fields have neither. The call completes if references
stay in the tree.

The finding on a field stays the same if any variables are rewritten, as long as the field keeps
its name and remains the first one of this name. -/
theorem accessors_detect_fields (cx : Context) (hfield : isField cx.kind = true) :
    (cx.tree.ReferencesWithin → ∃ findings, accessors.detect cx = .completed findings) ∧
    (∀ findings, accessors.detect cx = .completed findings →
      findings.length = (cx.tree.declarators cx.node).length ∧
      ∀ k v, (cx.tree.declarators cx.node)[k]? = some v → ∃ setter getter,
        findings[k]? = some (Finding.mk cx.line cx.trimmedText
          ("field " ++ (cx.tree.node v).nameText ++ ", setter " ++ setter ++
            ", getter " ++ getter)) ∧
        (IsFirstOfName cx.tree cx.node k v →
          NamesLast cx.tree (methodsAround cx.tree cx.node)
            (InBody cx.tree · (AssignsAt cx.tree (cx.tree.node v).nameText)) setter ∧
          NamesLast cx.tree (methodsAround cx.tree cx.node)
            (InBody cx.tree · (ReturnsAt cx.tree (cx.tree.node v).nameText)) getter) ∧
        (¬ IsFirstOfName cx.tree cx.node k v → setter = "none" ∧ getter = "none")) ∧
    ∀ t', cx.tree.SameApartFromVariables t' →
      ∀ findings, accessors.detect cx = .completed findings →
      ∃ findings', accessors.detect { cx with tree := t' } = .completed findings' ∧
        ∀ k v, (cx.tree.declarators cx.node)[k]? = some v →
          (t'.node v).nameText = (cx.tree.node v).nameText →
          IsFirstOfName cx.tree cx.node k v → IsFirstOfName t' cx.node k v →
          findings'[k]? = findings[k]? := by
  refine ⟨fun hin => ?_, fun findings hfindings => ?_, fun t' hsame findings hfindings => ?_⟩
  · have hgather := gather_eq_some_iff.mpr
      ⟨fun m (_ : m ∈ methodsAround cx.tree cx.node) => isSome_methodAccess hin (m := m), rfl⟩
    obtain ⟨findings, hfindings, -⟩ := exists_detect_eq_completed hfield hgather
    exact ⟨findings, hfindings⟩
  · obtain ⟨accesses, haccesses⟩ := exists_accesses_of_completed hfield hfindings
    obtain ⟨_, heq, hlength, hreport⟩ := exists_detect_eq_completed hfield haccesses
    obtain rfl := Outcome.completed.inj (hfindings.symm.trans heq)
    refine ⟨hlength, fun k v hv => ⟨_, _, hreport k v hv, fun hfirst => ?_, fun hfirst => ?_⟩⟩
    · rw [if_pos hfirst]
      constructor
      · refine namesLast_lastMethod? (fun m a ha => ?_) haccesses
        rw [List.contains_iff_mem, ha.writes]
      · refine namesLast_lastMethod? (fun m a ha => ?_) haccesses
        rw [List.contains_iff_mem, ha.reads]
    · rw [if_neg hfirst]
      exact ⟨rfl, rfl⟩
  · obtain ⟨accesses, haccesses⟩ := exists_accesses_of_completed hfield hfindings
    obtain ⟨_, heq, -, hreport⟩ := exists_detect_eq_completed hfield haccesses
    obtain rfl := Outcome.completed.inj (hfindings.symm.trans heq)
    -- the declaration itself is no variable, so it is the same in both trees
    have hnode : t'.node cx.node = cx.tree.node cx.node := by
      refine hsame.node_of_kind_ne fun type value hkind => ?_
      rw [Context.kind, hkind] at hfield
      cases hfield
    have hfield' : isField (Context.kind { cx with tree := t' }) = true := by
      rw [Context.kind, SyntaxTree.kind, hnode]
      exact hfield
    obtain ⟨findings', hfindings', -, hreport'⟩ :=
      exists_detect_eq_completed hfield' ((typeAccesses_same hsame).trans haccesses)
    refine ⟨findings', hfindings', fun k v hv hname hfirst hfirst' => ?_⟩
    have hv' : (t'.declarators cx.node)[k]? = some v := by rw [hsame.declarators_eq, hv]
    rw [hreport k v hv, hreport' k v hv', if_pos hfirst, if_pos hfirst']
    simp only [Context.line, Context.trimmedText, SyntaxTree.line, SyntaxTree.trimmedText,
      SyntaxTree.textChars, hnode, hname, hsame.source]

/-- A class with two fields. Two methods assign to the first of them, the second one as part of
another statement, and a third method returns it. -/
def twoFields : SyntaxTree :=
  SyntaxTree.ofSource "int a, b;"
    |>.push 0 { kind := .typeDecl { kind := .classType } }
    |>.push 1 { kind := .fieldDecl "int", span := some ⟨1, 1, 0, 9⟩ }
    |>.push 2 { kind := .declarator "int" none, name := some ⟨"a", none⟩ }
    |>.push 2 { kind := .declarator "int" none, name := some ⟨"b", none⟩ }
    |>.push 1 { kind := .methodDecl { body := some 6 }, name := some ⟨"init", none⟩ }
    |>.push 5 { kind := .block }
    |>.push 6 { kind := .expr (.assignment "=" 8 8) }
    |>.push 7 { kind := .expr .name, name := some ⟨"a", none⟩ }
    |>.push 1 { kind := .methodDecl { body := some 10 }, name := some ⟨"reset", none⟩ }
    |>.push 9 { kind := .block }
    |>.push 10 { kind := .stmt .conditional }
    |>.push 11 { kind := .expr (.assignment "=" 13 14) }
    |>.push 12 { kind := .expr (.fieldAccess none), name := some ⟨"a", none⟩ }
    |>.push 12 { kind := .expr .literal }
    |>.push 1 { kind := .methodDecl { body := some 16 }, name := some ⟨"get", none⟩ }
    |>.push 15 { kind := .block }
    |>.push 16 { kind := .stmt (.returnStmt (some 18)) }
    |>.push 17 { kind := .expr .name, name := some ⟨"a", none⟩ }

/-- The second of two methods that assign to a field is its setter, and renaming the other field
does not matter. -/
theorem accessors_detect_twoFields :
    let rule : Rule := { id := "RULE-018", scope := "FIELD_DECLARATION" }
    let renamed := twoFields.edit 4 { kind := .declarator "int" none, name := some ⟨"c", none⟩ }
    isField (twoFields.kind 2) = true ∧ twoFields.ReferencesWithin ∧
    accessors.detect ⟨twoFields, 2, rule, "A.java"⟩ =
      .completed [⟨1, "int a, b;", "field a, setter reset(), getter get()"⟩,
        ⟨1, "int a, b;", "field b, setter none, getter none"⟩] ∧
    (∃ setter getter,
      "field a, setter reset(), getter get()" = "field " ++ "a" ++ ", setter " ++ setter ++
        ", getter " ++ getter ∧
      NamesLast twoFields [5, 9, 15] (InBody twoFields · (AssignsAt twoFields "a")) setter ∧
      NamesLast twoFields [5, 9, 15] (InBody twoFields · (ReturnsAt twoFields "a")) getter) ∧
    twoFields.SameApartFromVariables renamed ∧
    ∃ findings, accessors.detect ⟨renamed, 2, rule, "A.java"⟩ = .completed findings ∧
      findings[0]? = some (Finding.mk 1 "int a, b;" "field a, setter reset(), getter get()") := by
  intro rule renamed
  have hwithin : twoFields.ReferencesWithin := SyntaxTree.referencesWithin_iff.mpr (by decide)
  have hdetect : accessors.detect ⟨twoFields, 2, rule, "A.java"⟩ =
      .completed [⟨1, "int a, b;", "field a, setter reset(), getter get()"⟩,
        ⟨1, "int a, b;", "field b, setter none, getter none"⟩] := by
    decide +kernel
  have hmethods : methodsAround twoFields 2 = [5, 9, 15] := by decide +kernel
  have hvariable : (twoFields.declarators 2)[0]? = some 3 := by decide +kernel
  have hsame : twoFields.SameApartFromVariables renamed :=
    SyntaxTree.sameApartFromVariables_edit ⟨"int", none, rfl⟩ ⟨"int", none, rfl⟩
  obtain ⟨-, hreport, hrenamed⟩ := accessors_detect_fields ⟨twoFields, 2, rule, "A.java"⟩ rfl
  obtain ⟨-, hfields⟩ := hreport _ hdetect
  obtain ⟨setter, getter, hfinding, hnames, -⟩ := hfields 0 3 hvariable
  obtain ⟨hsetter, hgetter⟩ := hnames (by decide +kernel)
  have hname : (twoFields.node 3).nameText = "a" := by decide +kernel
  rw [hname] at hfinding hsetter hgetter
  rw [hmethods] at hsetter hgetter
  obtain ⟨findings, hfindings, hkept⟩ := hrenamed renamed hsame _ hdetect
  refine ⟨rfl, hwithin, hdetect, ⟨setter, getter, ?_, hsetter, hgetter⟩, hsame, findings,
    hfindings, ?_⟩
  · exact (Finding.mk.inj (Option.some.inj hfinding)).2.2
  · exact hkept 0 3 hvariable (by decide +kernel) (by decide +kernel) (by decide +kernel)

end Detect

end Excerpt
