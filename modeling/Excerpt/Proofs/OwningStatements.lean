import Excerpt.Detect.Concurrency
import Excerpt.Proofs.SearchedVariables

/-!
# The statements around names of threads

The code of a finding about the name of a thread is taken from what is around the expression. At
first an expression, declaration or return statement is sought up to the root; only if there is
none, the nearest variable, assignment or other statement counts. Neither search ends at the
callable around the expression.

So the code need not belong to the callable of the expression. It is a statement of the callable
itself exactly if this callable has some of what is sought around the expression, and else a
statement around the callable (`Detect.code_of_owningStatement`). Where a class is inside a
statement, the latter happens: the whole statement is then the code of a name that is given in a
method of that class (`Detect.code_of_nestedRunner`).

The proof is about the way from the expression to the root. It splits at the node that is found,
and what stands behind this node on the way are its own ancestors (`ancestors_of_split`). So two
nodes on the way belong to the same callable just if no callable lies between them
(`enclosingCallable?_eq_iff`).

## Main results

* `enclosingCallable?_nearest_iff`: when the nearest node of a kind belongs to the same callable.
* `Detect.ownerText_of_mem_findings`: where the code of a finding is taken from.
* `Detect.code_of_owningStatement`: to which callable the code of a finding belongs.
-/

namespace Excerpt

namespace SyntaxTree

variable {t : SyntaxTree} {a c e s : Nat} {p : Kind → Bool}

/-- The nearest node around a node whose kind satisfies `p`. -/
def IsNearest (t : SyntaxTree) (p : Kind → Bool) (e s : NodeId) : Prop :=
  ∃ below above, t.ancestors e = below ++ s :: above ∧ p (t.kind s) = true ∧
    ∀ a ∈ below, p (t.kind a) = false

private theorem mem_ancestors_of_enclosingCallable? (he : t.enclosingCallable? e = some c) :
    c ∈ t.ancestors e :=
  List.mem_of_find?_eq_some he

private theorem isSome_findAncestor? :
    (t.findAncestor? e p).isSome = (t.ancestors e).any fun a => p (t.kind a) :=
  List.isSome_find?

namespace WellFormed

private theorem ancestors_of_cons (h : WellFormed t) {above : List NodeId}
    (he : t.ancestors e = s :: above) :
    t.ancestors s = above := by
  cases hparent : t.parent? e with
  | none =>
    rw [ancestors_of_parent?_eq_none hparent] at he
    cases he
  | some p =>
    rw [h.ancestors_of_parent? hparent] at he
    obtain ⟨rfl, habove⟩ := List.cons.inj he
    exact habove

/-- What stands behind a node on the way to the root are its own ancestors. -/
theorem ancestors_of_split (h : WellFormed t) {below above : List NodeId}
    (hsplit : t.ancestors e = below ++ s :: above) : t.ancestors s = above := by
  induction below generalizing e with
  | nil => exact h.ancestors_of_cons hsplit
  | cons b below ih => exact ih (h.ancestors_of_cons hsplit)

private theorem mem_ancestors_trans (h : WellFormed t) (ha : a ∈ t.ancestors s)
    (hs : s ∈ t.ancestors e) :
    a ∈ t.ancestors e := by
  obtain ⟨below, above, hsplit⟩ := List.append_of_mem hs
  rw [h.ancestors_of_split hsplit] at ha
  rw [hsplit]
  exact List.mem_append_right below (List.mem_cons_of_mem s ha)

/-- A node belongs to the same callable as a node inside it just if the callable of the inner node
is around the outer one as well. -/
theorem enclosingCallable?_eq_iff (h : WellFormed t) (hs : s ∈ t.ancestors e) :
    t.enclosingCallable? s = t.enclosingCallable? e ↔ ∀ c, t.enclosingCallable? e = some c →
      c ∈ t.ancestors s := by
  constructor
  · intro hsame c hc
    exact mem_ancestors_of_enclosingCallable? (hsame.trans hc)
  · intro haround
    induction e using Nat.strongRecOn with
    | ind e ih =>
      obtain ⟨p, hp, hsp⟩ := h.mem_ancestors_iff.1 hs
      rw [h.enclosingCallable?_of_parent? hp] at haround ⊢
      cases hcallable : (t.kind p).isCallable with
      | true =>
        -- the callable would be around a node that is not inside it
        rw [hcallable] at haround
        have hps : p < s := h.lt_of_mem_ancestors (haround p rfl)
        have hle : s ≤ p := hsp.elim Nat.le_of_eq fun hmem =>
          Nat.le_of_lt (h.lt_of_mem_ancestors hmem)
        exact absurd hps (Nat.not_lt.2 hle)
      | false =>
        rw [hcallable] at haround
        rcases hsp with rfl | hsp
        · rfl
        · exact ih p (h.lt_of_parent? hp) hsp haround

/-- If any node of a kind around an expression belongs to the callable of the expression, then the
nearest one does. -/
theorem enclosingCallable?_nearest_iff (h : WellFormed t) (hs : t.IsNearest p e s) :
    t.enclosingCallable? s = t.enclosingCallable? e ↔
      ∃ a ∈ t.ancestors e, p (t.kind a) = true ∧
        t.enclosingCallable? a = t.enclosingCallable? e := by
  obtain ⟨below, above, hsplit, hps, hbelow⟩ := hs
  have hse : s ∈ t.ancestors e := by simp [hsplit]
  constructor
  · intro hsame
    exact ⟨s, hse, hps, hsame⟩
  · rintro ⟨a, ha, hpa, hsame⟩
    have haround : a = s ∨ a ∈ t.ancestors s := by
      rw [hsplit, List.mem_append, List.mem_cons, ← h.ancestors_of_split hsplit] at ha
      refine ha.resolve_left fun hmem => ?_
      rw [hbelow a hmem] at hpa
      cases hpa
    rcases haround with rfl | has
    · exact hsame
    · refine (h.enclosingCallable?_eq_iff hse).2 fun c hc => ?_
      exact h.mem_ancestors_trans ((h.enclosingCallable?_eq_iff ha).1 hsame c hc) has

end WellFormed

end SyntaxTree

namespace Detect

variable {t : SyntaxTree} {e s : NodeId} {types : List String} {setter : String} {rule : Rule}
  {path : String}
  {f : Finding} {fs : List Finding}

/-- What is sought around an expression: expression, declaration and return statements if one is
around it, and else variables, assignments and statements of all kinds. -/
def sought (t : SyntaxTree) (e : NodeId) : Kind → Bool :=
  if (t.ancestors e).any fun a => isWholeStatement (t.kind a) then isWholeStatement else isOwner

/-- The nearest node that is sought around an expression is a statement. -/
structure IsOwningStatement (t : SyntaxTree) (e s : NodeId) : Prop where
  nearest : t.IsNearest (sought t e) e s
  isStatement : (t.kind s).isStatement = true

private theorem IsOwningStatement.ownerText_eq (h : IsOwningStatement t e s) :
    ownerText t e = some (t.trimmedText s) := by
  have hfind := SyntaxTree.findAncestor?_eq_some_iff.2 h.nearest
  rw [sought, ← SyntaxTree.isSome_findAncestor?] at hfind
  cases hwhole : t.findAncestor? e isWholeStatement with
  | some w =>
    rw [hwhole, Option.isSome_some, if_pos rfl, hwhole, Option.some.injEq] at hfind
    rw [ownerText, hwhole, hfind]
  | none =>
    rw [hwhole, Option.isSome_none, if_neg Bool.false_ne_true] at hfind
    have hstmt := h.isStatement
    simp only [ownerText, hwhole, hfind]
    cases hkind : t.kind s with
    | declarator _ _ =>
      rw [hkind] at hstmt
      cases hstmt
    | _ => rfl

/-- A name gives one finding, whose code is taken from what is around the expression. -/
theorem exists_of_nameFinding {cx : Context} {arg : NodeId} (hfs : nameFinding cx arg = some fs) :
    ∃ found, fs = [found] ∧ ownerText cx.tree cx.node = some found.code := by
  rw [nameFinding] at hfs
  obtain ⟨owner, howner, hfs⟩ := Option.bind_eq_some_iff.1 hfs
  obtain ⟨name, -, hfs⟩ := Option.bind_eq_some_iff.1 hfs
  cases hfs
  exact ⟨_, rfl, howner⟩

private theorem ownerText_of_mem_nameFinding {cx : Context} {arg : NodeId}
    (hfs : nameFinding cx arg = some fs) (hf : f ∈ fs) :
    ownerText cx.tree cx.node = some f.code := by
  obtain ⟨found, rfl, howner⟩ := exists_of_nameFinding hfs
  rw [howner, List.mem_singleton.1 hf]

/-- The code of what the detector reports at an expression. -/
theorem ownerText_of_mem_findings
    (hfs : (threadName types setter).detect ⟨t, e, rule, path⟩ = .completed fs)
    (hf : f ∈ fs) : ownerText t e = some f.code := by
  rw [threadName, Detector.searching, Outcome.ofSearch_eq_completed_iff] at hfs
  -- a construction, a call with one argument, or nothing to report
  split at hfs
  · split at hfs
    · refine forall_mem_of_gather (P := fun f => ownerText t e = some f.code) hfs ?_ f hf
      intro arg _ here hhere f hf
      obtain ⟨i, -, hhere⟩ := Option.bind_eq_some_iff.1 hhere
      split at hhere
      · exact ownerText_of_mem_nameFinding hhere hf
      · cases hhere
        cases hf
    · cases hfs
      cases hf
  · split at hfs
    · exact ownerText_of_mem_nameFinding hfs hf
    · cases hfs
      cases hf
  · cases hfs
    cases hf

/-- **To which callable the code of a thread name belongs.** If the nearest node that is sought
around an expression is a statement, this statement is the code of what is reported at the
expression. It belongs to the same callable as the expression just if some node that is sought
does. -/
theorem code_of_owningStatement (ht : t.Reachable)
    (hfs : (threadName types setter).detect ⟨t, e, rule, path⟩ = .completed fs) (hf : f ∈ fs)
    (hs : IsOwningStatement t e s) :
    f.code = t.trimmedText s ∧
      (t.enclosingCallable? s = t.enclosingCallable? e ↔
        ∃ a ∈ t.ancestors e, sought t e (t.kind a) = true ∧
          t.enclosingCallable? a = t.enclosingCallable? e) := by
  have hcode : some (t.trimmedText s) = some f.code :=
    hs.ownerText_eq.symm.trans (ownerText_of_mem_findings hfs hf)
  exact ⟨(Option.some.inj hcode).symm, ht.wellFormed.enclosingCallable?_nearest_iff hs.nearest⟩

/-- In a call stands a class with a method, and in the condition of a statement of this method a
thread gets its name. -/
def nestedRunner : SyntaxTree :=
  SyntaxTree.ofSource "run(new R()\x7bvoid run()\x7bif(new Thread(\"a\"))\x7b\x7d\x7d\x7d);"
    |>.push 0 { kind := .methodDecl {}, name := some ⟨"f", none⟩ }
    |>.push 1 { kind := .stmt .expression, span := some ⟨1, 1, 0, 48⟩ }
    |>.push 2 { kind := .expr (.creation "R" []) }
    |>.push 3 { kind := .methodDecl {}, name := some ⟨"run", none⟩ }
    |>.push 4 { kind := .stmt .conditional, span := some ⟨1, 1, 23, 44⟩ }
    |>.push 5 { kind := .expr (.creation "Thread" [7]), span := some ⟨1, 1, 26, 41⟩ }
    |>.push 6 { kind := .expr (.stringLiteral "a") }

/-- The code is the call, which belongs to the outer method, and not the statement of the inner
one. -/
theorem code_of_nestedRunner :
    let rule : Rule := { id := "RULE-029", scope := "THREAD_DECLARATION" }
    let found : Finding := ⟨1, nestedRunner.source, "a"⟩
    nestedRunner.Reachable ∧
    (threadName ["Thread"] "setName").detect ⟨nestedRunner, 6, rule, "A.java"⟩ =
      .completed [found] ∧
    IsOwningStatement nestedRunner 6 2 ∧ found.code = nestedRunner.trimmedText 2 ∧
    ¬ ∃ a ∈ nestedRunner.ancestors 6, sought nestedRunner 6 (nestedRunner.kind a) = true ∧
      nestedRunner.enclosingCallable? a = nestedRunner.enclosingCallable? 6 := by
  intro rule found
  have hreachable : nestedRunner.Reachable := by
    iterate 7 refine .push ?_ (by decide) rfl
    exact .ofSource _
  have hdetect : (threadName ["Thread"] "setName").detect ⟨nestedRunner, 6, rule, "A.java"⟩ =
      .completed [found] := by
    decide +kernel
  have hancestors : nestedRunner.ancestors 6 = [5, 4, 3, 2, 1, 0] := by decide +kernel
  have hsought : sought nestedRunner 6 = isWholeStatement := by
    rw [sought, hancestors]
    rfl
  have howning : IsOwningStatement nestedRunner 6 2 := by
    refine ⟨⟨[5, 4, 3], [1, 0], hancestors, ?_, ?_⟩, by decide⟩ <;> rw [hsought] <;> decide
  obtain ⟨hcode, hcallable⟩ :=
    code_of_owningStatement hreachable hdetect (List.mem_singleton_self found) howning
  refine ⟨hreachable, hdetect, howning, hcode, ?_⟩
  rw [← hcallable]
  decide +kernel

end Detect

end Excerpt
