import Excerpt.Proofs.Completion
import Excerpt.Proofs.Spans

/-!
# Exceptions that are thrown through variables

A statement that throws a variable is reported with the declaration of the variable. The
declaration is looked up by its name in the nearest block around the statement, nested blocks
included: of the variables with this name that begin before the statement, the one counts that
begins last (`Detect.IsLatest`). So a variable that is no longer visible may count, if its block
is over.

The detector takes the last such variable in pre-order. In a tree whose nodes begin in pre-order
this is the variable that begins last (`Detect.priorDeclaration?_eq_some_iff`), and the tree of
well-placed syntax is such a tree.

Places are compared by lines and then by bytes, and variables may begin at the same place. Of
those, none begins before the other, and the order of the list decides; the definition of the
latest variable therefore asks for the place first and for the order in the tree second, and so
leaves at most one (`Detect.IsLatest.unique`).

## Main results

* `Detect.priorDeclaration?_eq_some_iff`: which variable is looked up.
* `Detect.throwMessage_detect_of_name`: what is reported on a statement that throws a name.
* `Detect.throwMessage_of_thrown_name`: the same for trees of sources.
-/

namespace Excerpt

namespace SyntaxTree

variable {t : SyntaxTree} {u v : Nat}

/-! ### Where nodes begin -/

/-- Both nodes have a range, and that of `u` begins before that of `v`. -/
def BeginsBefore (t : SyntaxTree) (u v : NodeId) : Prop :=
  ∃ s s', (t.node u).span = some s ∧ (t.node v).span = some s' ∧ s.startByte < s'.startByte

/-- Both nodes have a range, and the ranges begin at the same place. -/
def BeginsWith (t : SyntaxTree) (u v : NodeId) : Prop :=
  ∃ s s', (t.node u).span = some s ∧ (t.node v).span = some s' ∧ s.startByte = s'.startByte

/-- What begins before a node does not begin with it or after it. -/
theorem BeginsBefore.not_le (h : t.BeginsBefore u v) :
    ¬ t.BeginsBefore v u ∧ ¬ t.BeginsWith v u := by
  obtain ⟨s, s', hs, hs', hlt⟩ := h
  constructor
  · rintro ⟨r, r', hr, hr', hlt'⟩
    obtain rfl : s' = r := Option.some.inj (hs'.symm.trans hr)
    obtain rfl : s = r' := Option.some.inj (hs.symm.trans hr')
    omega
  · rintro ⟨r, r', hr, hr', heq⟩
    obtain rfl : s' = r := Option.some.inj (hs'.symm.trans hr)
    obtain rfl : s = r' := Option.some.inj (hs.symm.trans hr')
    omega

/-- In pre-order, no node begins before another that precedes it. -/
def InSourceOrder (t : SyntaxTree) : Prop :=
  t.preorder.Pairwise fun i j => (t.node i).StartsBefore (t.node j)

private theorem InSourceOrder.beginsBefore_or_beginsWith (h : t.InSourceOrder)
    (huv : [u, v].Sublist t.preorder) :
    t.BeginsBefore u v ∨ t.BeginsWith u v := by
  have hpair : [u, v].Pairwise fun i j => (t.node i).StartsBefore (t.node j) := h.sublist huv
  obtain ⟨s, s', hs, hs', hle⟩ := List.pairwise_pair.mp hpair
  rcases Nat.lt_or_eq_of_le hle with hlt | heq
  · exact Or.inl ⟨s, s', hs, hs', hlt⟩
  · exact Or.inr ⟨s, s', hs, hs', heq⟩

end SyntaxTree

namespace Detect

open SyntaxTree (WellFormed)

variable {t : SyntaxTree} {stmt u v : Nat} {name : String}

/-! ### The latest declaration before a statement -/

/-- The nearest block around a node. -/
def IsNearestBlock (t : SyntaxTree) (i block : NodeId) : Prop :=
  ∃ below above, t.ancestors i = below ++ block :: above ∧ (t.kind block).isBlock = true ∧
    ∀ a ∈ below, (t.kind a).isBlock = false

/-- A variable of the given name that begins before the statement and lies in the nearest block
around it, at whatever depth. -/
structure IsPrior (t : SyntaxTree) (stmt : NodeId) (name : String) (v : NodeId) : Prop where
  declarator : ∃ type value, t.kind v = .declarator type value
  name : (t.node v).nameText = name
  block : ∃ block, IsNearestBlock t stmt block ∧ v ∈ t.descendants block
  before : t.BeginsBefore v stmt

/-- Of the variables of the given name before a statement, the one that begins last. Of several
that begin together, it is the last one in pre-order. -/
structure IsLatest (t : SyntaxTree) (stmt : NodeId) (name : String) (v : NodeId) : Prop where
  prior : IsPrior t stmt name v
  latest : ∀ u, IsPrior t stmt name u →
    u = v ∨ t.BeginsBefore u v ∨ (t.BeginsWith u v ∧ [u, v].Sublist t.preorder)

/-- In a list without repetitions, of two elements only one comes before the other. -/
theorem not_pair_sublist_of_nodup {α : Type} {l : List α} {x y : α} (hl : l.Nodup)
    (hxy : [x, y].Sublist l) :
    ¬ [y, x].Sublist l := by
  intro hyx
  obtain ⟨front, rest, rfl, hx, hy⟩ := List.cons_sublist_iff.mp hxy
  have hdisjoint : List.Disjoint front rest := List.disjoint_of_nodup_append hl
  have hy : y ∈ rest := List.singleton_sublist.mp hy
  obtain ⟨as, bs, hsplit, has, hbs⟩ := List.sublist_append_iff.mp hyx
  cases as with
  | nil =>
    obtain rfl : [y, x] = bs := hsplit
    exact hdisjoint hx (hbs.subset (List.mem_cons_of_mem y List.mem_cons_self))
  | cons a as =>
    obtain ⟨rfl, -⟩ := List.cons.inj hsplit
    exact hdisjoint (has.subset List.mem_cons_self) hy

/-- There is at most one latest variable. -/
theorem IsLatest.unique (h : t.WellFormed) (hu : IsLatest t stmt name u)
    (hv : IsLatest t stmt name v) : u = v := by
  rcases hv.latest u hu.prior with huv | huv | ⟨hwith, huv⟩
  · exact huv
  · rcases hu.latest v hv.prior with hvu | hvu | ⟨hvu, -⟩
    · exact hvu.symm
    · exact absurd hvu huv.not_le.1
    · exact absurd hvu huv.not_le.2
  · rcases hu.latest v hv.prior with hvu | hvu | ⟨-, hvu⟩
    · exact hvu.symm
    · exact absurd hwith hvu.not_le.2
    · -- each of the two would come before the other
      exact absurd hvu (not_pair_sublist_of_nodup (h.nodup_segment 0) huv)

/-! ### What the detector looks up -/

/-- The detector takes the last one of the variables before a statement, which it lists in
pre-order. -/
theorem exists_priorDeclaration?_eq_getLast? (t : SyntaxTree) (stmt : NodeId) (name : String) :
    ∃ vs : List NodeId, priorDeclaration? t stmt name = vs.getLast? ∧
      (∀ v, v ∈ vs ↔ IsPrior t stmt name v) ∧
      (t.WellFormed → vs.Sublist t.preorder) := by
  rw [priorDeclaration?]
  split
  · next block limit hblock hlimit =>
    have hnearest : IsNearestBlock t stmt block := SyntaxTree.findAncestor?_eq_some_iff.mp hblock
    refine ⟨_, rfl, fun v => ?_, fun h => ?_⟩
    · rw [List.mem_filter]
      constructor
      · rintro ⟨hv, htest⟩
        split at htest
        · next type value hkind =>
          obtain ⟨hname, hspan⟩ := Bool.and_eq_true_iff.mp htest
          obtain ⟨s, hs, hlt⟩ := (Option.any_eq_true _ _).mp hspan
          exact ⟨⟨type, value, hkind⟩, beq_iff_eq.mp hname, ⟨block, hnearest, hv⟩, s,
            limit, hs, hlimit, of_decide_eq_true hlt⟩
        · cases htest
      · intro hv
        obtain ⟨type, value, hkind⟩ := hv.declarator
        obtain ⟨block', hnearest', hmem⟩ := hv.block
        obtain ⟨s, s', hs, hs', hlt⟩ := hv.before
        obtain rfl : block = block' :=
          Option.some.inj (hblock.symm.trans (SyntaxTree.findAncestor?_eq_some_iff.mpr hnearest'))
        obtain rfl : limit = s' := Option.some.inj (hlimit.symm.trans hs')
        exact ⟨hmem, by simp [hkind, hv.name, hs, hlt]⟩
    · have hancestor : block ∈ t.ancestors stmt := List.mem_of_find?_eq_some hblock
      have hsize : block < t.size :=
        Nat.lt_trans (h.lt_of_mem_ancestors hancestor) (h.lt_size_of_mem_ancestors hancestor)
      -- what lies below a node stands together in pre-order
      have hbelow : (t.descendants block).Sublist (t.segment block) :=
        List.sublist_cons_self block _
      exact List.filter_sublist.trans (hbelow.trans (h.segment_infix_preorder hsize).sublist)
  · next hnone =>
    refine ⟨[], rfl, fun v => ⟨fun hv => absurd hv (List.not_mem_nil), fun hv => ?_⟩,
      fun _ => List.nil_sublist _⟩
    obtain ⟨block, hnearest, -⟩ := hv.block
    obtain ⟨-, limit, -, hlimit, -⟩ := hv.before
    exact absurd hlimit (hnone block limit (SyntaxTree.findAncestor?_eq_some_iff.mpr hnearest))

private theorem priorDeclaration?_eq_none_iff :
    priorDeclaration? t stmt name = none ↔ ∀ v, ¬ IsPrior t stmt name v := by
  obtain ⟨vs, hlast, hmem, -⟩ := exists_priorDeclaration?_eq_getLast? t stmt name
  rw [hlast, List.getLast?_eq_none_iff, List.eq_nil_iff_forall_not_mem]
  exact forall_congr' fun v => not_congr (hmem v)

/-- If nodes begin in pre-order, the last variable in pre-order is the one that begins last. -/
theorem isLatest_of_priorDeclaration? (h : t.WellFormed) (horder : t.InSourceOrder)
    (hv : priorDeclaration? t stmt name = some v) : IsLatest t stmt name v := by
  obtain ⟨vs, hlast, hmem, hsublist⟩ := exists_priorDeclaration?_eq_getLast? t stmt name
  obtain ⟨us, rfl⟩ := List.getLast?_eq_some_iff.mp (hlast.symm.trans hv)
  refine ⟨(hmem v).mp (List.mem_append_right us List.mem_cons_self), fun u hu => ?_⟩
  rcases List.mem_append.mp ((hmem u).mpr hu) with hu | hu
  · have hpair : [u, v].Sublist t.preorder :=
      ((List.singleton_sublist.mpr hu).append (List.Sublist.refl [v])).trans (hsublist h)
    exact Or.inr ((horder.beginsBefore_or_beginsWith hpair).imp_right fun hwith => ⟨hwith, hpair⟩)
  · exact Or.inl (List.mem_singleton.mp hu)

/-- The variable that is looked up is the latest one. -/
theorem priorDeclaration?_eq_some_iff (h : t.WellFormed) (horder : t.InSourceOrder) :
    priorDeclaration? t stmt name = some v ↔ IsLatest t stmt name v := by
  refine ⟨isLatest_of_priorDeclaration? h horder, fun hv => ?_⟩
  cases hw : priorDeclaration? t stmt name with
  | none => exact absurd hv.prior (priorDeclaration?_eq_none_iff.mp hw v)
  | some w => rw [(isLatest_of_priorDeclaration? h horder hw).unique h hv]

/-! ### What is reported -/

/-- The variable begins with a construction whose first argument is `first`. -/
def IsConstructedFrom (t : SyntaxTree) (v first : NodeId) : Prop :=
  ∃ type value created more, t.kind v = .declarator type (some value) ∧
    t.kind value = .expr (.creation created (first :: more))

section

variable (ht : t.SelfContained) (rule : Rule) (path : String)

include ht

private theorem thrownVariable_of_constructed {first : NodeId} (hv : IsConstructedFrom t v first) :
    thrownVariable ⟨t, stmt, rule, path⟩ v =
      some [⟨t.line stmt, Signature.ofVariable t v, t.valueOrText first⟩] := by
  obtain ⟨type, value, created, more, hkind, hcreation⟩ := hv
  have hvalue : t.follow value = some value := if_pos (ht.lt_size hkind (by simp [Kind.references]))
  have hfirst : t.follow first = some first :=
    if_pos (ht.lt_size hcreation (by simp [Kind.references]))
  simp [thrownVariable, hkind, hvalue, hcreation, hfirst, Context.line]

private theorem thrownVariable_of_not_constructed (hv : ∀ first, ¬ IsConstructedFrom t v first) :
    thrownVariable ⟨t, stmt, rule, path⟩ v = some [] := by
  rw [thrownVariable]
  dsimp only
  split
  · next type value hkind =>
    have hvalue : t.follow value = some value :=
      if_pos (ht.lt_size hkind (by simp [Kind.references]))
    rw [hvalue, Option.bind_eq_bind, Option.bind_some]
    split
    · next created first more hcreation =>
      exact absurd ⟨type, value, created, more, hkind, hcreation⟩ (hv first)
    · rfl
  · rfl

/-- What is reported on a statement that throws a name. -/
theorem throwMessage_detect_of_name {e : NodeId}
    (hthrow : t.kind stmt = .stmt (.throwStmt (some e))) (hname : t.kind e = .expr .name) :
    throwMessage.detect ⟨t, stmt, rule, path⟩ =
      .ofSearch ((priorDeclaration? t stmt (t.node e).nameText).elim (some [])
        (thrownVariable ⟨t, stmt, rule, path⟩)) := by
  have he : t.follow e = some e := if_pos (ht.lt_size hthrow (by simp [Kind.references]))
  rw [throwMessage, Detector.searching]
  simp only [Context.kind, hthrow, he, Option.bind_eq_bind, Option.bind_some, hname]
  cases priorDeclaration? t stmt (t.node e).nameText <;> rfl

end

end Detect

namespace Java

open Detect

private theorem inSourceOrder_treeOf {source : String} {concrete : Concrete}
    (h : concrete.WellPlaced source.toList) :
    (treeOf source concrete).InSourceOrder :=
  SyntaxTree.pairwise_startsBefore_graftAll ((lower_sound source.toList concrete.depth).each _)
    (placedAll_namedParts h concrete.depth)

/-- **Which declaration a thrown name is reported with.** In the tree of well-placed syntax,
consider the variables of a thrown name before the statement that throws it, in the nearest
block around the statement. If there are any, one of them is the latest. If it begins with a
construction that has arguments, the statement is reported once, with the declaration of
this variable and its first argument; otherwise nothing is reported. -/
theorem throwMessage_of_thrown_name (source : String) (concrete : Concrete)
    (h : concrete.WellPlaced source.toList) {stmt e : NodeId}
    (hthrow : (treeOf source concrete).kind stmt = .stmt (.throwStmt (some e)))
    (hname : (treeOf source concrete).kind e = .expr .name) (rule : Rule) (path : String) :
    let t := treeOf source concrete
    let x := (t.node e).nameText
    ((∃ v, IsPrior t stmt x v) → ∃ v, IsLatest t stmt x v) ∧
    ((∀ v first, IsLatest t stmt x v → ¬ IsConstructedFrom t v first) →
      throwMessage.detect ⟨t, stmt, rule, path⟩ = .completed []) ∧
    ∀ v first, IsLatest t stmt x v → IsConstructedFrom t v first →
      throwMessage.detect ⟨t, stmt, rule, path⟩ =
        .completed [⟨t.line stmt, Signature.ofVariable t v, t.valueOrText first⟩] := by
  have ht := selfContained_treeOf source concrete
  have horder := inSourceOrder_treeOf h
  have hdetect := throwMessage_detect_of_name ht rule path hthrow hname
  -- only these facts about the tree of a source are needed
  generalize treeOf source concrete = t at ht horder hdetect
  intro t' x
  have hlatest : ∀ {v}, priorDeclaration? t stmt x = some v ↔ IsLatest t stmt x v :=
    priorDeclaration?_eq_some_iff ht.wellFormed horder
  rw [hdetect]
  refine ⟨?_, ?_, ?_⟩
  · rintro ⟨v, hv⟩
    cases hw : priorDeclaration? t stmt x with
    | none => exact absurd hv (priorDeclaration?_eq_none_iff.mp hw v)
    | some w => exact ⟨w, hlatest.mp hw⟩
  · intro hnone
    cases hw : priorDeclaration? t stmt x with
    | none => rfl
    | some w =>
      rw [Option.elim_some, thrownVariable_of_not_constructed ht rule path fun first =>
        hnone w first (hlatest.mp hw)]
      rfl
  · intro v first hv hfirst
    rw [hlatest.mpr hv, Option.elim_some, thrownVariable_of_constructed ht rule path hfirst]
    rfl

/-- A block that declares a name twice, the second time in a block of its own, and throws it. -/
def thrownName : String :=
  "\x7bE e=new E(\"a\");\x7bE e=new E(b,c);\x7dthrow e;\x7d"

/-- The variable of the inner block is the latest one, although it is not visible where the name
is thrown. -/
theorem throwMessage_thrownName :
    let rule : Rule := { id := "RULE-025", scope := "THROW_DECLARATION" }
    ∃ concrete, Concrete.ofSource thrownName.toList = .ok concrete ∧
      concrete.WellPlaced thrownName.toList ∧
      (treeOf thrownName concrete).kind 12 = .stmt (.throwStmt (some 13)) ∧
      (treeOf thrownName concrete).kind 13 = .expr .name ∧
      IsLatest (treeOf thrownName concrete) 12 "e" 8 ∧
      IsConstructedFrom (treeOf thrownName concrete) 8 10 ∧
      throwMessage.detect ⟨treeOf thrownName concrete, 12, rule, "A.java"⟩ =
        .completed [⟨1, "E e = new E(b,c)", "b"⟩] := by
  intro rule
  have hevaluated : (Concrete.ofSource thrownName.toList).toOption.any (fun concrete =>
      decide (concrete.WellPlaced thrownName.toList ∧
        (treeOf thrownName concrete).kind 12 = .stmt (.throwStmt (some 13)) ∧
        (treeOf thrownName concrete).kind 13 = .expr .name ∧
        ((treeOf thrownName concrete).node 13).nameText = "e" ∧
        priorDeclaration? (treeOf thrownName concrete) 12 "e" = some 8 ∧
        (treeOf thrownName concrete).kind 8 = .declarator "E" (some 9) ∧
        (treeOf thrownName concrete).kind 9 = .expr (.creation "E" [10, 11]) ∧
        (treeOf thrownName concrete).line 12 = 1 ∧
        Signature.ofVariable (treeOf thrownName concrete) 8 = "E e = new E(b,c)" ∧
        (treeOf thrownName concrete).valueOrText 10 = "b")) = true := by
    decide +kernel
  cases hconcrete : Concrete.ofSource thrownName.toList with
  | error row =>
    rw [hconcrete] at hevaluated
    cases hevaluated
  | ok concrete =>
    rw [hconcrete] at hevaluated
    obtain ⟨hplaced, hthrow, hname, hx, hprior, hvariable, hcreation, hline, hcode, hsubject⟩ :=
      of_decide_eq_true hevaluated
    have hlatest : IsLatest (treeOf thrownName concrete) 12 "e" 8 :=
      isLatest_of_priorDeclaration? (selfContained_treeOf thrownName concrete).wellFormed
        (inSourceOrder_treeOf hplaced) hprior
    have hconstructed : IsConstructedFrom (treeOf thrownName concrete) 8 10 :=
      ⟨_, _, _, _, hvariable, hcreation⟩
    obtain ⟨-, -, hreported⟩ :=
      throwMessage_of_thrown_name thrownName concrete hplaced hthrow hname rule "A.java"
    have hdetect := hreported 8 10 (hx ▸ hlatest) hconstructed
    rw [hline, hcode, hsubject] at hdetect
    exact ⟨concrete, rfl, hplaced, hthrow, hname, hlatest, hconstructed, hdetect⟩

end Java

end Excerpt
