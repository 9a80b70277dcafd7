import Excerpt.Detect.Accessors
import Mathlib.Data.List.Induction

/-!
# What the scan of methods for accessors computes

The detector of accessors goes through the methods of a type and, while it does so, changes a list
of slots, one for each field of the declaration. Whether a change has an effect, and on which
slot, depends on all slots before it, which makes the loop hard to reason about. This module puts
in its place a description without any state: what each method assigns to and returns is collected
first (`typeAccesses`), and then the last method is looked up field by field (`accessorSubjects`).

The two are the same (`accessors_eq`). Everything else about this detector is proved of the
description.

The argument has two halves. A loop that may get stuck and that changes a state by what it finds
is the same as finding everything first and changing the state afterwards
(`foldlM_eq_map_gather`). It is used twice, for the nodes of a body and for the methods of a type.
The other half is about the slots alone: a change by several names changes a slot just if its
field is among them, and of these names only the others reach the slots after it
(`FieldSlot.changeAll_cons`). So a slot ends up with the last method that names its field, unless
a slot before it has the same field.

## Main results

* `foldlM_eq_map_gather`: a loop with a state is a search and a change of the state.
* `MethodAccess.record_filled`: what one more method does to the slots.
* `accessors_eq`: the detector of accessors without a loop.
-/

namespace Excerpt

/-- A loop that changes a state by what it finds, and gets stuck where the search does, is the
search through the whole list and then all changes of the state. -/
theorem foldlM_eq_map_gather {α β σ : Type} {find : α → Option (List β)} {change : σ → β → σ}
    {step : σ → α → Option σ} (hstep : ∀ s x, step s x = (find x).map fun ys => ys.foldl change s)
    (xs : List α) (s : σ) :
    xs.foldlM step s = (gather xs find).map fun ys => ys.foldl change s := by
  induction xs generalizing s with
  | nil => rfl
  | cons x xs ih =>
    rw [List.foldlM_cons, hstep, gather]
    cases find x with
    | none => rfl
    | some here =>
      simp only [Option.map_some, Option.bind_eq_bind, Option.bind_some, ih]
      cases gather xs find with
      | none => rfl
      | some more => simp [List.foldl_append]

namespace Detect

/-! ### The description -/

/-- What a method does with fields: the names that it assigns to, and the names that it returns. -/
structure MethodAccess where
  method : String
  writes : List String
  reads : List String
  deriving DecidableEq, Repr

/-- What a method does with fields. -/
def methodAccess (t : SyntaxTree) (method : NodeId) : Option (List MethodAccess) :=
  match (t.kind method).callable?.bind CallableDecl.body with
  | some body => do
    let nodes := t.descendants (← t.follow body)
    let writes ← gather nodes (writtenAt t)
    let reads ← gather nodes (returnedAt t)
    return [⟨(t.node method).nameText, writes, reads⟩]
  | none => some []

/-- What the methods of the type around a node do with fields. -/
def typeAccesses (t : SyntaxTree) (i : NodeId) : Option (List MethodAccess) :=
  gather (methodsAround t i) (methodAccess t)

/-- The methods around a node are methods, and not constructors. -/
theorem isMethod_of_mem_methodsAround {t : SyntaxTree} {i m : NodeId} (h : m ∈ methodsAround t i) :
    (t.kind m).isMethod = true := by
  rw [methodsAround] at h
  cases howner : t.enclosingType? i with
  | none =>
    rw [howner] at h
    cases h
  | some owner =>
    rw [howner] at h
    exact (List.mem_filter.mp h).2

/-- The name of the last method that does something. -/
def lastMethod? (accesses : List MethodAccess) (does : MethodAccess → Bool) : Option String :=
  (accesses.filter does).getLast?.map MethodAccess.method

/-- The slots of the fields of a declaration, after methods are gone through. A field that has the
name of one before it stays without a setter and a getter. -/
def filled (accesses : List MethodAccess) (before : List String) : List String → List FieldSlot
  | [] => []
  | name :: names =>
    let known := if name ∈ before then [] else accesses
    ⟨name, lastMethod? known fun a => a.writes.contains name,
      lastMethod? known fun a => a.reads.contains name⟩ ::
      filled accesses (name :: before) names

/-! ### Changes of slots -/

namespace FieldSlot

variable {f : FieldSlot → FieldSlot} (hfield : ∀ s, (f s).field = s.field)
  (htwice : ∀ s, f (f s) = f s)

include hfield htwice

/-- Names change the first slot if its field is among them, and the other slots by the other
names. -/
theorem changeAll_cons (s : FieldSlot) (slots : List FieldSlot) (names : List String) :
    changeAll f (s :: slots) names =
      (if s.field ∈ names then f s else s) :: changeAll f slots (names.filter (· ≠ s.field)) := by
  induction names generalizing s slots with
  | nil => rfl
  | cons name names ih =>
    rw [changeAll, List.foldl_cons, ← changeAll, change]
    by_cases hname : s.field = name
    · -- the slot is changed now, and once more by each further occurrence of the name
      rw [if_pos hname, ih, hfield, htwice, List.filter_cons_of_neg (by simp [hname])]
      simp [hname]
    · rw [if_neg hname, ih, List.filter_cons_of_pos (by simpa using Ne.symm hname)]
      simp [hname, changeAll]

end FieldSlot

namespace MethodAccess

/-- What one more method does to the slots: first by what it assigns to, then by what it returns. -/
def record (slots : List FieldSlot) (a : MethodAccess) : List FieldSlot :=
  FieldSlot.changeAll (.returnedBy a.method)
    (FieldSlot.changeAll (.setBy a.method) slots a.writes) a.reads

/-- What one more method does to a slot that it finds. -/
private def mark (s : FieldSlot) (a : MethodAccess) : FieldSlot where
  field := s.field
  setter := if s.field ∈ a.writes then some a.method else s.setter
  getter := if s.field ∈ a.reads then some a.method else s.getter

/-- The method with some names left out. -/
private def besides (a : MethodAccess) (names : List String) : MethodAccess :=
  ⟨a.method, a.writes.filter (· ∉ names), a.reads.filter (· ∉ names)⟩

private theorem besides_besides (a : MethodAccess) (name : String) (names : List String) :
    (a.besides names).besides [name] = a.besides (name :: names) := by
  simp only [besides, List.filter_filter, List.mem_cons, List.not_mem_nil, or_false, not_or,
    Bool.decide_and]

/-- A method finds the first slot by its field, and the others by the other names. -/
private theorem record_cons (s : FieldSlot) (slots : List FieldSlot) (a : MethodAccess) :
    record (s :: slots) a = mark s a :: record slots (a.besides [s.field]) := by
  have hset : ∀ s : FieldSlot, (s.setBy a.method).field = s.field := fun _ => rfl
  have hreturned : ∀ s : FieldSlot, (s.returnedBy a.method).field = s.field := fun _ => rfl
  rw [record, FieldSlot.changeAll_cons hset fun _ => rfl,
    FieldSlot.changeAll_cons hreturned fun _ => rfl]
  have hfield : (if s.field ∈ a.writes then s.setBy a.method else s).field = s.field := by
    split <;> rfl
  rw [hfield]
  congr 1
  · rw [mark]
    split <;> split <;> rfl
  · simp [record, besides]

private theorem lastMethod?_concat {accesses : List MethodAccess} {a : MethodAccess}
    {does : MethodAccess → Bool} :
    lastMethod? (accesses ++ [a]) does = if does a = true then some a.method
      else lastMethod? accesses does := by
  rw [lastMethod?, List.filter_append]
  by_cases ha : does a = true
  · simp [ha]
  · simp [ha, lastMethod?]

/-- One more method at the slots behind some fields: what it does to the first of them is settled
by the name of the field, and the slots after it are those behind one more field. -/
private theorem record_filled_behind (a : MethodAccess) (accesses : List MethodAccess)
    (before names : List String) :
    record (filled accesses before names) (a.besides before) =
      filled (accesses ++ [a]) before names := by
  induction names generalizing before with
  | nil =>
    have hnil : ∀ (f : FieldSlot → FieldSlot) (names : List String),
        FieldSlot.changeAll f [] names = [] := by
      intro f names
      induction names with
      | nil => rfl
      | cons name names ih => exact ih
    rw [filled, record, hnil, hnil, filled]
  | cons name names ih =>
    rw [filled, record_cons, besides_besides, ih (name :: before), filled]
    congr 1
    by_cases hname : name ∈ before
    · simp [mark, besides, hname]
    · simp [mark, besides, hname, lastMethod?_concat]

/-- **One more method** turns the slots that some methods fill into those that are filled by one
more. -/
theorem record_filled (a : MethodAccess) (accesses : List MethodAccess) (names : List String) :
    record (filled accesses [] names) a = filled (accesses ++ [a]) [] names := by
  have hall : a.besides [] = a := by
    rw [besides, List.filter_eq_self.mpr (by simp), List.filter_eq_self.mpr (by simp)]
  have hfilled := record_filled_behind a accesses [] names
  rwa [hall] at hfilled

/-- All methods, one after the other, fill the slots of a declaration. -/
theorem foldl_record (accesses : List MethodAccess) (names : List String) :
    accesses.foldl record (names.map fun name => { field := name }) = filled accesses [] names := by
  induction accesses using List.reverseRecOn with
  | nil =>
    have hempty : ∀ before : List String, filled [] before names = names.map fun name =>
        { field := name } := by
      induction names with
      | nil => exact fun _ => rfl
      | cons name names ih =>
        intro before
        rw [filled, ih, List.map_cons, ite_self]
        rfl
    exact (hempty []).symm
  | append_singleton accesses a ih =>
    rw [List.foldl_append, ih, List.foldl_cons, List.foldl_nil, record_filled]

end MethodAccess

/-! ### The loop -/

/-- A loop over nodes is a search for all names, and then the changes by them. -/
theorem changeAt_eq (find : NodeId → Option (List String)) (f : FieldSlot → FieldSlot)
    (nodes : List NodeId) (slots : List FieldSlot) :
    changeAt find f nodes slots = (gather nodes find).map (FieldSlot.changeAll f slots) :=
  foldlM_eq_map_gather (fun _ _ => rfl) nodes slots

private theorem scanMethod_eq (t : SyntaxTree) (slots : List FieldSlot) (method : NodeId) :
    scanMethod t slots method =
      (methodAccess t method).map fun accesses => accesses.foldl MethodAccess.record slots := by
  rw [scanMethod, methodAccess]
  -- both get stuck at the same references, in the same order
  cases (t.kind method).callable?.bind CallableDecl.body with
  | none => rfl
  | some body =>
    simp only [changeAt_eq, Option.bind_eq_bind]
    cases t.follow body with
    | none => rfl
    | some body =>
      simp only [Option.bind_some]
      cases gather (t.descendants body) (writtenAt t) with
      | none => rfl
      | some writes =>
        simp only [Option.map_some, Option.bind_some]
        cases gather (t.descendants body) (returnedAt t) with
        | none => rfl
        | some reads => rfl

/-- What is found on a declaration of fields, by what the methods around it do with fields. -/
def accessorFindings (cx : Context) (accesses : List MethodAccess) : List Finding :=
  (filled accesses [] ((cx.tree.declarators cx.node).map fun v => (cx.tree.node v).nameText)).map
    fun s => ⟨cx.line, cx.trimmedText, s.subject⟩

/-- **The detector of accessors without a loop**: what all methods do with fields is collected,
and then the setter and the getter of each field are looked up. -/
theorem accessors_eq : accessors = .searching "accessors" fun cx =>
    if isField cx.kind then (typeAccesses cx.tree cx.node).map (accessorFindings cx)
    else some [] := by
  refine congrArg (Detector.searching "accessors") (funext fun cx => ?_)
  split
  · have hfields : ((cx.tree.declarators cx.node).map fun v =>
        ({ field := (cx.tree.node v).nameText } : FieldSlot)) =
        ((cx.tree.declarators cx.node).map fun v => (cx.tree.node v).nameText).map fun name =>
          { field := name } := by
      rw [List.map_map]
      rfl
    simp only [foldlM_eq_map_gather (scanMethod_eq cx.tree), hfields, typeAccesses]
    cases gather (methodsAround cx.tree cx.node) (methodAccess cx.tree) with
    | none => rfl
    | some accesses =>
      simp only [Option.map_some, Option.bind_eq_bind, Option.bind_some, MethodAccess.foldl_record]
      rfl
  · rfl

end Detect

end Excerpt
