import Excerpt.Detect.Engine
import Mathlib.Data.List.Basic

/-!
# Calls of detectors

An extraction is a sequence of calls: a node is shown to a detector under a rule. Three numbers
tell which call it is, the position of the node in pre-order, the index of the rule among the
rules of the engine, and the place of the detector among those that are bound to the rule.
`Engine.Completes` says that a call completes and which snippets its findings make; a call that
fails or crashes makes none, whatever it had found until then.

The snippets of an extraction are the blocks of the calls that complete, in the order of the
calls. Hence a failure has the same effect as a call that completes without a finding, and no
effect on any other call. The latter is said by comparing with an engine whose detectors are
silenced: where a detector fails, the silenced one completes without a finding.

Detectors are arbitrary here. That the built-in ones do not fail on trees of sources is a
different matter, and none of the results depends on it.

## Main results

* `Engine.extract_eq_flatMap_blocks`: an extraction is made up of blocks.
* `Engine.pairwise_blocks`: the blocks come in the order of the calls.
* `Engine.mem_blocks_iff`: there is a block for each call that completes.
* `Engine.extract_isolates_failures`: failures do not affect other calls.
-/

namespace Excerpt

/-! ### Silenced failures -/

/-- The outcome of a call, where a failure becomes a call that completes without a finding. -/
def Outcome.silenced : Outcome → Outcome
  | completed findings => completed findings
  | failed _ | crashed _ => completed []

/-- The detector that finds the same and never fails. -/
def Detector.silenced (d : Detector) : Detector where
  name := d.name
  detect cx := (d.detect cx).silenced

/-- The registry with the same bindings whose detectors never fail. -/
def Registry.silenced (r : Registry) : Registry :=
  { r with detectors := r.detectors.map Detector.silenced }

/-- A silenced call completes, with what it had found if it completed before, and with nothing
otherwise. -/
private theorem Outcome.findings?_silenced (o : Outcome) :
    o.silenced.findings? = some (o.findings?.getD []) := by
  cases o <;> rfl

/-- Bindings are places of detectors, so they lead to the silenced detectors. -/
theorem Registry.detectorsFor_silenced (r : Registry) (rule : String) :
    r.silenced.detectorsFor rule = (r.detectorsFor rule).map Detector.silenced := by
  rw [detectorsFor, detectorsFor, List.map_filterMap]
  refine List.filterMap_congr fun i _ => ?_
  exact List.getElem?_map

namespace Engine

variable (e : Engine) (u : SourceUnit)

/-- A silenced call makes the same snippets: a call that fails makes none in either case. -/
private theorem invoke_silenced (cx : Context) (d : Detector) :
    invoke cx d.silenced = invoke cx d := by
  have hfindings : (d.silenced.detect cx).findings? = some ((d.detect cx).findings?.getD []) :=
    Outcome.findings?_silenced _
  rw [invoke, hfindings, Option.getD_some, invoke]

private theorem extractFor_silenced (i : NodeId) (rule : Rule) :
    extractFor { e with registry := e.registry.silenced } u i rule = e.extractFor u i rule := by
  rw [extractFor, Registry.detectorsFor_silenced, List.flatMap_map, extractFor]
  exact List.flatMap_congr fun d _ => invoke_silenced _ d

/-! ### Calls and their blocks -/

/-- A call of a detector: the position of the node in pre-order, the index of the rule, and the
place of the detector among those that are bound to the rule. -/
structure Call where
  node : Nat
  rule : Nat
  detector : Nat
  deriving DecidableEq, Repr

/-- The order of calls: by nodes, for one node by rules, and for one rule by bindings. -/
inductive Call.Before (c d : Call) : Prop
  | node (hnode : c.node < d.node)
  | rule (hnode : c.node = d.node) (hrule : c.rule < d.rule)
  | detector (hnode : c.node = d.node) (hrule : c.rule = d.rule)
      (hdetector : c.detector < d.detector)

/-- The call is made, it completes, and its findings make the given snippets. -/
inductive Completes : Call → List Snippet → Prop
  | intro {n r k : Nat} {i : NodeId} {rule : Rule} {d : Detector} {findings : List Finding}
      (hnode : u.tree.preorder[n]? = some i)
      (hrule : e.rules[r]? = some rule) (happlies : rule.applies (u.tree.kind i) = true)
      (hdetector : (e.registry.detectorsFor rule.id)[k]? = some d)
      (hcompleted : d.detect ⟨u.tree, i, rule, u.path⟩ = .completed findings) :
      Completes ⟨n, r, k⟩ (findings.map fun f => ⟨rule, u.path, f⟩)

/-- The block of a call that completes. -/
def block? (cx : Context) (c : Call) (d : Detector) : Option (Call × List Snippet) :=
  (d.detect cx).findings?.map fun findings => (c, findings.map fun f => ⟨cx.rule, cx.path, f⟩)

/-- The blocks for rule number `r` at the node `i`, which is number `n` in pre-order. -/
def blocksFor (n : Nat) (i : NodeId) (r : Nat) (rule : Rule) : List (Call × List Snippet) :=
  (e.registry.detectorsFor rule.id).zipIdx.filterMap fun (d, k) =>
    block? ⟨u.tree, i, rule, u.path⟩ ⟨n, r, k⟩ d

/-- The blocks at the node `i`, which is number `n` in pre-order. -/
def blocksAt (n : Nat) (i : NodeId) : List (Call × List Snippet) :=
  (e.rules.zipIdx.filter fun (rule, _) => rule.applies (u.tree.kind i)).flatMap fun (rule, r) =>
    e.blocksFor u n i r rule

/-- The blocks of an extraction. -/
def blocks : List (Call × List Snippet) :=
  u.tree.preorder.zipIdx.flatMap fun (i, n) => e.blocksAt u n i

/-! ### Blocks make up the extraction -/

/-- The block of a call holds the snippets that the call makes. Where there is no block, the call
makes none. -/
private theorem flatMap_toList_block? (cx : Context) (c : Call) (d : Detector) :
    (block? cx c d).toList.flatMap Prod.snd = invoke cx d := by
  rw [block?, invoke]
  cases (d.detect cx).findings? <;> simp

private theorem flatMap_fst_zipIdx {α β : Type} (f : α → List β) (l : List α) :
    (l.zipIdx.flatMap fun p => f p.1) = l.flatMap f := by
  rw [← List.flatMap_map, List.zipIdx_map_fst]

/-- The blocks for a rule at a node make up what is extracted for it. -/
private theorem flatMap_blocksFor (n : Nat) (i : NodeId) (r : Nat) (rule : Rule) :
    (e.blocksFor u n i r rule).flatMap Prod.snd = e.extractFor u i rule := by
  rw [blocksFor, List.filterMap_eq_flatMap_toList, List.flatMap_assoc]
  simp only [flatMap_toList_block?]
  exact flatMap_fst_zipIdx _ _

/-- The blocks at a node make up what is extracted there. -/
private theorem flatMap_blocksAt (n : Nat) (i : NodeId) :
    (e.blocksAt u n i).flatMap Prod.snd = e.extractAt u i := by
  -- the filter only looks at the rules, so it may as well come before they are numbered
  have hrules : e.rules.filter (fun rule => rule.applies (u.tree.kind i)) =
      (e.rules.zipIdx.filter fun p => p.1.applies (u.tree.kind i)).map Prod.fst := by
    conv_lhs => rw [← List.zipIdx_map_fst 0 e.rules]
    exact List.filter_map
  rw [blocksAt, List.flatMap_assoc, extractAt, hrules, List.flatMap_map]
  exact List.flatMap_congr fun p _ => e.flatMap_blocksFor u n i p.2 p.1

/-- The snippets of an extraction are those of its blocks. -/
theorem extract_eq_flatMap_blocks : e.extract u = (e.blocks u).flatMap Prod.snd := by
  rw [blocks, List.flatMap_assoc, extract, ← flatMap_fst_zipIdx]
  exact List.flatMap_congr fun p _ => (e.flatMap_blocksAt u p.2 p.1).symm

/-! ### The order of blocks -/

private theorem pairwise_snd_zipIdx {α : Type} (l : List α) :
    l.zipIdx.Pairwise fun p q => p.2 < q.2 := by
  have hrange : (l.zipIdx.map Prod.snd).Pairwise (· < ·) := by
    rw [List.zipIdx_map_snd]
    exact List.pairwise_lt_range' 1
  exact List.pairwise_map.mp hrange

variable {e u} {n r : Nat} {i : NodeId} {rule : Rule} {c : Call} {snippets : List Snippet}

/-- What is known of a block for a rule at a node: which call it belongs to, and that this call
completes with the findings that make its snippets. -/
private theorem mem_blocksFor (h : (c, snippets) ∈ e.blocksFor u n i r rule) :
    c.node = n ∧ c.rule = r ∧
    ∃ d findings, (e.registry.detectorsFor rule.id)[c.detector]? = some d ∧
      d.detect ⟨u.tree, i, rule, u.path⟩ = .completed findings ∧
      snippets = findings.map fun f => ⟨rule, u.path, f⟩ := by
  obtain ⟨⟨d, k⟩, hd, hblock⟩ := List.mem_filterMap.mp h
  obtain ⟨findings, hfindings, heq⟩ := Option.map_eq_some_iff.mp hblock
  cases heq
  refine ⟨rfl, rfl, d, findings, List.mem_zipIdx_iff_getElem?.mp hd, ?_, rfl⟩
  cases houtcome : d.detect ⟨u.tree, i, rule, u.path⟩ <;> simp_all [Outcome.findings?]

/-- What is known of a block at a node: the rule is about the node. -/
private theorem mem_blocksAt (h : (c, snippets) ∈ e.blocksAt u n i) :
    c.node = n ∧ ∃ rule, e.rules[c.rule]? = some rule ∧ rule.applies (u.tree.kind i) = true ∧
      (c, snippets) ∈ e.blocksFor u n i c.rule rule := by
  obtain ⟨⟨rule, r⟩, hrule, hmem⟩ := List.mem_flatMap.mp h
  obtain ⟨hrule, happlies⟩ := List.mem_filter.mp hrule
  obtain ⟨rfl, rfl, -⟩ := mem_blocksFor hmem
  exact ⟨rfl, rule, List.mem_zipIdx_iff_getElem?.mp hrule, happlies, hmem⟩

/-- What is known of any block: its node stands in pre-order where the call says so. -/
private theorem mem_blocks (h : (c, snippets) ∈ e.blocks u) :
    ∃ i, u.tree.preorder[c.node]? = some i ∧ (c, snippets) ∈ e.blocksAt u c.node i := by
  obtain ⟨⟨i, n⟩, hi, hmem⟩ := List.mem_flatMap.mp h
  obtain ⟨rfl, -⟩ := mem_blocksAt hmem
  exact ⟨i, List.mem_zipIdx_iff_getElem?.mp hi, hmem⟩

/-- The blocks are those of the calls that complete. -/
theorem mem_blocks_iff : (c, snippets) ∈ e.blocks u ↔ e.Completes u c snippets := by
  constructor
  · intro h
    obtain ⟨i, hi, hat⟩ := mem_blocks h
    obtain ⟨-, rule, hrule, happlies, hfor⟩ := mem_blocksAt hat
    obtain ⟨-, -, d, findings, hd, hcompleted, rfl⟩ := mem_blocksFor hfor
    exact .intro hi hrule happlies hd hcompleted
  · rintro ⟨hi, hrule, happlies, hd, hcompleted⟩
    refine List.mem_flatMap.mpr ⟨(_, _), List.mem_zipIdx_iff_getElem?.mpr hi, ?_⟩
    refine List.mem_flatMap.mpr ⟨(_, _),
      List.mem_filter.mpr ⟨List.mem_zipIdx_iff_getElem?.mpr hrule, happlies⟩, ?_⟩
    refine List.mem_filterMap.mpr ⟨(_, _), List.mem_zipIdx_iff_getElem?.mpr hd, ?_⟩
    simp only [block?, hcompleted, Outcome.findings?, Option.map_some]

variable (e u)

/-- The blocks for a rule at a node come in the order of the detectors. -/
private theorem pairwise_blocksFor (n : Nat) (i : NodeId) (r : Nat) (rule : Rule) :
    (e.blocksFor u n i r rule).Pairwise fun b b' => b.1.Before b'.1 := by
  refine List.pairwise_filterMap.mpr ((pairwise_snd_zipIdx _).imp fun {p q} hlt b hb b' hb' => ?_)
  obtain ⟨_, -, rfl⟩ := Option.map_eq_some_iff.mp hb
  obtain ⟨_, -, rfl⟩ := Option.map_eq_some_iff.mp hb'
  exact .detector rfl rfl hlt

/-- The blocks at a node come in the order of the rules, and then of the detectors. -/
private theorem pairwise_blocksAt (n : Nat) (i : NodeId) :
    (e.blocksAt u n i).Pairwise fun b b' => b.1.Before b'.1 := by
  refine List.pairwise_flatMap.mpr ⟨fun p _ => e.pairwise_blocksFor u n i p.2 p.1, ?_⟩
  refine ((pairwise_snd_zipIdx e.rules).filter _).imp fun {p q} hlt b hb b' hb' => ?_
  obtain ⟨hnode, hrule, -⟩ := mem_blocksFor hb
  obtain ⟨hnode', hrule', -⟩ := mem_blocksFor hb'
  exact .rule (hnode.trans hnode'.symm) (hrule ▸ hrule' ▸ hlt)

/-- The blocks come in the order of the calls, hence there is at most one for each call. -/
theorem pairwise_blocks : (e.blocks u).Pairwise fun b b' => b.1.Before b'.1 := by
  refine List.pairwise_flatMap.mpr ⟨fun p _ => e.pairwise_blocksAt u p.2 p.1, ?_⟩
  refine (pairwise_snd_zipIdx u.tree.preorder).imp fun {p q} hlt b hb b' hb' => ?_
  obtain ⟨hnode, -⟩ := mem_blocksAt hb
  obtain ⟨hnode', -⟩ := mem_blocksAt hb'
  exact .node (hnode ▸ hnode' ▸ hlt)

/-! ### Failures are isolated -/

/-- **Failures are isolated.** An extraction gives the same snippets as one in which every call
that fails completes without a finding. The snippets are made up of one block for each call that
completes, which holds its findings in the order in which they were made; the blocks come in the
order of the calls. -/
theorem extract_isolates_failures :
    e.extract u = extract { e with registry := e.registry.silenced } u ∧
    ∃ blocks : List (Call × List Snippet),
      e.extract u = blocks.flatMap Prod.snd ∧
      (blocks.Pairwise fun b b' => b.1.Before b'.1) ∧
      ∀ c snippets, (c, snippets) ∈ blocks ↔ e.Completes u c snippets := by
  constructor
  · refine List.flatMap_congr fun i _ => List.flatMap_congr fun rule _ => ?_
    exact (e.extractFor_silenced u i rule).symm
  · exact ⟨e.blocks u, e.extract_eq_flatMap_blocks u, e.pairwise_blocks u,
      fun _ _ => mem_blocks_iff⟩

/-- A detector that reports a type twice, but gives up on enums and breaks off on records after
the first time. -/
def brittle : Detector where
  name := "brittle"
  detect cx :=
    match cx.kind.type? with
    | some decl =>
      match decl.kind with
      | .enumType => .failed [.unplaced "enum" "first"]
      | .recordType => .crashed [.unplaced "record" "first"]
      | kind => .completed [.unplaced kind.keyword "first", .unplaced kind.keyword "second"]
    | none => .completed []

/-- An enum, an interface and a record, shown to `brittle` and to a detector that reports every
node. -/
theorem extract_brittle :
    let e : Engine := {
      rules := [{ id := "A", scope := "CLASS_DECLARATION" }]
      registry := {
        detectors := [⟨"steady", fun cx => .completed [.unplaced cx.rule.id "steady"]⟩, brittle]
        bindings := [("A", [1, 0])] } }
    let u : SourceUnit := {
      path := "A.java"
      tree := SyntaxTree.ofSource ""
        |>.push 0 { kind := .typeDecl { kind := .enumType } }
        |>.push 0 { kind := .typeDecl { kind := .interfaceType } }
        |>.push 0 { kind := .typeDecl { kind := .recordType } } }
    (e.extract u).map (fun s => s.finding.subject) =
      ["steady", "first", "second", "steady", "steady"] ∧
    e.extract u = extract { e with registry := e.registry.silenced } u := by
  intro e u
  exact ⟨by decide +kernel, (e.extract_isolates_failures u).1⟩

end Engine

end Excerpt
