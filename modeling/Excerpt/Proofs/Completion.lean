import Excerpt.Java.Parse
import Excerpt.Proofs.Confinement
import Excerpt.Proofs.Lowering

/-!
# Extractions from Java sources discard nothing

A call of a detector that fails discards what it had found. This module says that no call fails on
the tree of a source, whatever the source is: the tree of any concrete syntax is self-contained.
It grows node by node, and references are children (`selfContained_treeOf`). So every call of a
built-in detector on it completes, and with the same findings as in any tree that extends it.

`Engine.extractMade` is an extraction that keeps what failing calls had found. If all calls
complete it gives the same snippets as the one that discards it (`extract_eq_extractMade`).

The results hold of any concrete syntax and not only of what a reader makes of a source. Hence
they hold with any reader in the place of the present one, also where faults are tolerated
(`eq_treeOf_of_parseWith`).

## Main results

* `selfContained_treeOf`: trees of concrete syntax are self-contained.
* `callsEnd_treeOf`: searches for names end in them.
* `treeOf_calls_complete`: every call completes, and nothing is discarded.
-/

namespace Excerpt

namespace SyntaxTree

/-! ### Trees of sound drafts grow -/

private theorem size_graft {t : SyntaxTree} {p : Nat} (hp : p < t.size) (d : Draft) :
    (t.graft p d).size = t.size + d.size := by
  simpa [size] using congrArg List.length (nodes_graft hp d)

mutual

/-- A sound draft is added to a tree by steps of growth. -/
theorem Reachable.graft {t : SyntaxTree} {p : Nat} (ht : t.Reachable) (hp : p < t.size) :
    {d : Draft} → d.Sound →
    (t.graft p d).Reachable
  | .node head cs, .node hhead _ hcs => by
    have hpush : (t.push p { head with kind := placedKind t.size head.kind cs }).Reachable :=
      .push ht hp hhead
    rw [SyntaxTree.graft]
    exact hpush.graftAll (by simp) cs hcs

/-- Sound drafts are added to a tree by steps of growth. -/
theorem Reachable.graftAll {t : SyntaxTree} {p : Nat} (ht : t.Reachable) (hp : p < t.size) :
    (ds : List Draft) →
    (∀ d ∈ ds, d.Sound) → (t.graftAll p ds).Reachable
  | [], _ => ht
  | d :: ds, hds => by
    have hfirst : (t.graft p d).Reachable := ht.graft hp (hds d List.mem_cons_self)
    have hsize : p < (t.graft p d).size := by
      rw [size_graft hp]
      omega
    rw [SyntaxTree.graftAll]
    exact hfirst.graftAll hsize ds fun d' hd' => hds d' (List.mem_cons_of_mem _ hd')

end

end SyntaxTree

/-! ### Findings that are made -/

/-- The findings of a call, also of one that does not complete. -/
def Outcome.made : Outcome → List Finding
  | completed findings | failed findings | crashed findings => findings

namespace Engine

/-- The snippets of a source, if calls that do not complete keep what they found. -/
def extractMade (e : Engine) (u : SourceUnit) : List Snippet :=
  u.tree.preorder.flatMap fun i =>
    (e.rules.filter fun r => r.applies (u.tree.kind i)).flatMap fun rule =>
      (e.registry.detectorsFor rule.id).flatMap fun d =>
        (d.detect ⟨u.tree, i, rule, u.path⟩).made.map fun f => ⟨rule, u.path, f⟩

private theorem isConfined_of_ofRuleSet {set : RuleSet} {e : Engine} (he : ofRuleSet set = .ok e) :
    ∀ d ∈ e.registry.detectors, d.IsConfined := by
  intro d hd
  rw [Registry.detectors_withDefaults (ofRuleSet_eq_ok_iff.mp he).1] at hd
  exact Detect.isConfined_of_mem_builtin hd

/-- If every call completes, nothing that is found is discarded. -/
theorem extract_eq_extractMade {set : RuleSet} {e : Engine} (he : ofRuleSet set = .ok e)
    {u : SourceUnit} (hu : u.tree.SelfContained) : e.extract u = e.extractMade u := by
  refine List.flatMap_congr fun (i : Nat) hi => List.flatMap_congr fun rule _ =>
    List.flatMap_congr fun d hd => ?_
  have hsize : i < u.tree.size := hu.wellFormed.mem_preorder_iff.mp hi
  obtain ⟨findings, hfindings⟩ :=
    isConfined_of_ofRuleSet he d (Registry.mem_of_mem_detectorsFor hd) u.tree hu i hsize rule u.path
  have hcall := hfindings u.tree (.refl u.tree)
  rw [invoke, hcall]
  rfl

end Engine

namespace Java

/-! ### Trees of concrete syntax -/

/-- In the tree of any concrete syntax, references lead to children. -/
theorem selfContained_treeOf (source : String) (concrete : Concrete) :
    (treeOf source concrete).SelfContained := by
  have hsound : ∀ d ∈ (Focus.mk [] concrete).namedParts.filterMap
      (lower source.toList concrete.depth), d.Sound :=
    (lower_sound source.toList concrete.depth).each _
  have hreachable : (treeOf source concrete).Reachable :=
    (SyntaxTree.Reachable.ofSource source).graftAll (by simp) _ hsound
  exact ⟨hreachable.wellFormed, fun i j hj => SyntaxTree.references_graftAll hsound hj⟩

/-- In the tree of any concrete syntax every call of a built-in detector ends. -/
theorem callsEnd_treeOf (source : String) (concrete : Concrete) (s : Settings) :
    Detect.CallsEnd s (treeOf source concrete) := by
  have ht := selfContained_treeOf source concrete
  have hbelow : Detect.OperandsBelow (treeOf source concrete) := fun i _ j hj =>
    ht.references i j (Detect.mem_references_of_mem_operands hj)
  exact hbelow.callsEnd ht.wellFormed s

/-- A unit is the tree of what was read, also where faults are tolerated. -/
theorem eq_treeOf_of_parseWith {read : List Char → Concrete} {tolerant : Bool}
    {path source : String} {u : SourceUnit} (hu : parseWith read tolerant path source = .ok u) :
    u = ⟨path, treeOf source (read source.toList)⟩ := by
  simp only [parseWith] at hu
  split at hu
  · cases hu
  · exact (Except.ok.inj hu).symm

/-- A source that is read without faults is accepted. -/
theorem parse_of_ofSource {tolerant : Bool} {path source : String} {concrete : Concrete}
    (hread : Concrete.ofSource source.toList = .ok concrete) (hfault : concrete.hasFault = false) :
    parse tolerant path source = .ok ⟨path, treeOf source concrete⟩ := by
  have hrecovered : Concrete.recovered source.toList = concrete := by
    rw [Concrete.recovered, hread]
  simp [parse, parseWith, hrecovered, hfault]

/-- **Every call completes.** On the tree of any concrete syntax, whatever the settings are,
every call of a built-in detector at any node under any rule completes, with findings that do not
change when further nodes are added after those of the tree. The walks that detectors make come
to an end: down from a node, up to the root, and through an expression that gives a name, for
which any bound from the size of the tree on is enough. So an extraction discards nothing that
was found. The units of sources have such trees, whatever they are read with. -/
theorem treeOf_calls_complete (source : String) (concrete : Concrete) :
    (∀ s : Settings, ∀ d ∈ Detect.builtin s, ∀ i < (treeOf source concrete).size,
      ∀ (rule : Rule) (path : String),
      ∃ findings, ∀ t : SyntaxTree, t.Extends (treeOf source concrete) →
        d.detect ⟨t, i, rule, path⟩ = .completed findings) ∧
    (∀ i < (treeOf source concrete).size,
      (treeOf source concrete).Visits ((treeOf source concrete).children i)
        ((treeOf source concrete).descendants i) ∧
      ((i :: (treeOf source concrete).ancestors i).IsChain fun c p =>
        (treeOf source concrete).parent? c = some p) ∧
      ((treeOf source concrete).ancestors i).getLast? = (if i = 0 then none else some 0) ∧
      ∃ name, ∀ bound, (treeOf source concrete).size ≤ bound →
        Detect.nameWithin (treeOf source concrete) bound i = some name) ∧
    (∀ (set : RuleSet) (e : Engine) (path : String), Engine.ofRuleSet set = .ok e →
      e.extract ⟨path, treeOf source concrete⟩ = e.extractMade ⟨path, treeOf source concrete⟩) ∧
    (∀ (read : List Char → Concrete) (tolerant : Bool) (path : String) (u : SourceUnit),
      parseWith read tolerant path source = .ok u →
      u = ⟨path, treeOf source (read source.toList)⟩) := by
  have ht := selfContained_treeOf source concrete
  have h := ht.wellFormed
  refine ⟨fun s d hd i hi rule path => Detect.isConfined_of_mem_builtin hd _ ht i hi rule path,
    fun i hi => ?_, fun set e path he => Engine.extract_eq_extractMade he ht,
    fun _ _ _ _ => eq_treeOf_of_parseWith⟩
  obtain ⟨name, hname⟩ := Detect.exists_nameEnds_extends ht hi
  exact ⟨h.visits_descendants i, h.isChain_ancestors i, h.getLast?_ancestors hi, name,
    fun bound hbound => (hname _ (.refl _)).nameWithin_eq hbound⟩

/-- A thread whose name is put together. -/
def namedThread : String :=
  "class A\x7bThread t=new Thread(\"a\"+b);\x7d"

/-- One rule about threads. -/
def threadRules : RuleSet where
  rules := [{ id := "RULE-029", scope := "THREAD_DECLARATION" }]

/-- The name of a thread is put together from a literal and a variable, and it stays the same in
trees that extend the given one. -/
theorem treeOf_namedThread :
    ∃ concrete e, parse false "A.java" namedThread = .ok ⟨"A.java", treeOf namedThread concrete⟩ ∧
      Engine.ofRuleSet threadRules = .ok e ∧
      e.extract ⟨"A.java", treeOf namedThread concrete⟩ =
        e.extractMade ⟨"A.java", treeOf namedThread concrete⟩ ∧
      (e.extract ⟨"A.java", treeOf namedThread concrete⟩).map (fun s => s.finding.subject) =
        ["ab"] ∧
      ∃ d ∈ Detect.builtin threadRules.settings, d.name = "thread-name" ∧
        4 < (treeOf namedThread concrete).size ∧
        ∀ t : SyntaxTree, t.Extends (treeOf namedThread concrete) → ∀ rule ∈ threadRules.rules,
          d.detect ⟨t, 4, rule, "A.java"⟩ =
            .completed [⟨1, "Thread t = new Thread(\"a\"+b)", "ab"⟩] := by
  have hevaluated : (Concrete.ofSource namedThread.toList).toOption.any (fun concrete =>
      decide (concrete.hasFault = false ∧ 4 < (treeOf namedThread concrete).size ∧
        (∀ rule ∈ threadRules.rules, (Detect.threadName ["Thread"] "setName").detect
          ⟨treeOf namedThread concrete, 4, rule, "A.java"⟩ =
            .completed [⟨1, "Thread t = new Thread(\"a\"+b)", "ab"⟩]) ∧
        (Engine.ofRuleSet threadRules).map
          (fun e => (e.extract ⟨"A.java", treeOf namedThread concrete⟩).map
          fun s => s.finding.subject) = .ok ["ab"])) = true := by
    decide +kernel
  cases hconcrete : Concrete.ofSource namedThread.toList with
  | error row =>
    rw [hconcrete] at hevaluated
    cases hevaluated
  | ok concrete =>
    rw [hconcrete] at hevaluated
    obtain ⟨hfault, hsize, hcall, hrun⟩ := of_decide_eq_true hevaluated
    have hparse : parse false "A.java" namedThread = .ok ⟨"A.java", treeOf namedThread concrete⟩ :=
      parse_of_ofSource hconcrete hfault
    have hd : Detect.threadName ["Thread"] "setName" ∈ Detect.builtin threadRules.settings :=
      List.mem_of_getElem? (i := 13) rfl
    obtain ⟨hcalls, -, hextract, -⟩ := treeOf_calls_complete namedThread concrete
    cases he : Engine.ofRuleSet threadRules with
    | error err =>
      rw [he] at hrun
      cases hrun
    | ok e =>
      rw [he] at hrun
      refine ⟨concrete, e, hparse, rfl, hextract threadRules e "A.java" he, Except.ok.inj hrun, _,
        hd, rfl, hsize, fun t ht rule hrule => ?_⟩
      obtain ⟨findings, hfindings⟩ := hcalls threadRules.settings _ hd 4 hsize rule "A.java"
      rw [hfindings t ht, ← hcall rule hrule, hfindings _ (.refl _)]

end Java

end Excerpt
