import Excerpt.Path
import Excerpt.Proofs.Lines
import Mathlib.Data.List.Lex
import Mathlib.Data.Prod.Lex
import Mathlib.Data.String.Basic

/-!
# Paths below a path

The walk through a file system makes paths by putting names after the path of its root, and this
path may be written in any way: with slashes at its end, with steps that lead nowhere, or empty.
This module says what is known of such paths all the same.

A name that is put after a path is one component more (`components_join`), whatever the path ends
with. Hence different names lead to different paths (`joinAll_ranks_injective`), and the last name
is the file name (`fileName?_joinAll`).

The order of paths is the lexicographic one on their components, where names are ordered by their
texts (`le_iff_ranks`). It is not the order of the texts of the paths, for the slash comes after
some characters and before others. `ranks` maps a path to a list on which the library has this
order, so that its lemmas about sorting apply.

## Main results

* `components_join`: one name more is one component more.
* `le_iff_ranks`: the order of paths.
* `joinAll_ranks_injective`: different names lead to different paths.
* `extension?_eq_some_iff`: the extension of a path.
-/

namespace Excerpt

namespace Path

open Text

/-! ### Order -/

/-- The place of a component in the order of all components. -/
def Component.rank (c : Component) : Nat ×ₗ String :=
  toLex c.key

/-- The places of the components of a path. -/
def ranks (path : String) : List (Nat ×ₗ String) :=
  (components path).map Component.rank

/-- The first path comes before the second, component by component. -/
def Precedes (a b : String) : Prop :=
  ranks a < ranks b

private theorem Component.rank_injective : Function.Injective Component.rank := by
  intro a b h
  have hkey : a.key = b.key := toLex.injective h
  cases a <;> cases b <;> simp_all [Component.key]

private theorem Component.le_iff_rank {a b : Component} : a.le b = true ↔ a.rank ≤ b.rank := by
  rw [Component.rank, Component.rank, Prod.Lex.toLex_le_toLex, Component.le]
  simp

private theorem componentsLe_iff_ranks {as bs : List Component} :
    componentsLe as bs = true ↔ as.map Component.rank ≤ bs.map Component.rank := by
  induction as generalizing bs with
  | nil => simp [componentsLe, ← not_lt]
  | cons a as ih =>
    cases bs with
    | nil => simp [componentsLe, ← not_lt]
    | cons b bs =>
      rw [componentsLe, List.map_cons, List.map_cons, ← not_lt, List.cons_lt_cons_iff]
      by_cases hab : a = b
      · simp [hab, ih]
      · have hrank : b.rank ≠ a.rank := fun h => hab (Component.rank_injective h).symm
        simp [hab, hrank, Component.le_iff_rank]

/-- Paths are ordered by their components, and these by their texts. -/
theorem le_iff_ranks {a b : String} : le a b = true ↔ ranks a ≤ ranks b :=
  componentsLe_iff_ranks

/-- Sorted paths ascend. -/
theorem pairwise_mergeSort_le (paths : List String) :
    (paths.mergeSort le).Pairwise fun a b => ranks a ≤ ranks b := by
  have htrans : ∀ a b c, le a b = true → le b c = true → le a c = true := by
    intro a b c
    simp only [le_iff_ranks]
    exact le_trans
  have htotal : ∀ a b, (le a b || le b a) = true := by
    intro a b
    rw [Bool.or_eq_true, le_iff_ranks, le_iff_ranks]
    exact le_total _ _
  exact (List.pairwise_mergeSort htrans htotal paths).imp le_iff_ranks.1

/-! ### Names below a path -/

/-- The text is the name of a file or a directory. -/
def IsName (n : String) : Prop :=
  n ≠ "" ∧ '/' ∉ n.toList ∧ n ≠ "." ∧ n ≠ ".."

instance : DecidablePred IsName :=
  fun n => inferInstanceAs (Decidable (n ≠ "" ∧ '/' ∉ n.toList ∧ n ≠ "." ∧ n ≠ ".."))

/-- What a path begins with, besides names. -/
def start (cs : List Char) (parts : List (List Char)) : List Component :=
  if cs.head? = some '/' then [.root] else if parts.head? = some ['.'] then [.current] else []

private theorem components_eq (path : String) :
    components path = start path.toList (path.toList.splitOn '/') ++
      (path.toList.splitOn '/').filterMap componentOf? := by
  rw [components, pieces_eq_splitOn]
  congr 1
  rcases path.toList with _ | ⟨c, cs⟩
  · rfl
  · by_cases hc : c = '/'
    · simp [start, hc]
    · rcases (c :: cs).splitOn '/' with _ | ⟨p, ps⟩
      · simp [start, hc]
      · by_cases hp : p = ['.'] <;> simp [start, hc, hp]

variable {n base : String} {names : List String}

private theorem componentOf?_name (hn : IsName n) : componentOf? n.toList = some (.name n) := by
  obtain ⟨hne, -, hdot, hdots⟩ := hn
  have hlist : ∀ s : String, n ≠ s → n.toList ≠ s.toList := fun s h e => h (String.toList_inj.1 e)
  have hempty : n.toList ≠ [] := hlist "" hne
  have hcurrent : n.toList ≠ ['.'] := hlist "." hdot
  have hparent : n.toList ≠ ['.', '.'] := hlist ".." hdots
  simp [componentOf?, hempty, hcurrent, hparent]

/-- What follows the last slash of a path is its last piece. -/
theorem components_of_toList {path : String} {cs ds : List Char} (h : path.toList = cs ++ '/' :: ds)
    (hds : '/' ∉ ds) :
    components path = start (cs ++ ['/']) (cs.splitOn '/') ++
      (cs.splitOn '/').filterMap componentOf? ++
      (componentOf? ds).toList := by
  have hparts : (cs ++ '/' :: ds).splitOn '/' = cs.splitOn '/' ++ [ds] := by
    rw [List.splitOn_append_cons_self, List.splitOn_eq_singleton hds]
  have hstart : start (cs ++ '/' :: ds) (cs.splitOn '/' ++ [ds]) =
      start (cs ++ ['/']) (cs.splitOn '/') := by
    obtain ⟨p, ps, hps⟩ := List.exists_cons_of_ne_nil (List.splitOn_ne_nil '/' cs)
    rw [hps]
    cases cs <;> rfl
  rw [components_eq, h, hparts, hstart, List.filterMap_append, ← List.append_assoc]
  cases hlast : componentOf? ds <;> simp [hlast]

private theorem components_of_isName (hn : IsName n) : components n = [.name n] := by
  have hhead : n.toList.head? ≠ some '/' := fun h => hn.2.1 (List.mem_of_head? h)
  have hdot : n.toList ≠ ['.'] := fun h => hn.2.2.1 (String.toList_inj.1 h)
  rw [components_eq, List.splitOn_eq_singleton hn.2.1, start, if_neg hhead,
    if_neg (by simpa using hdot)]
  simp [componentOf?_name hn]

/-- A name that is put after a path is one component more. -/
theorem components_join (hn : IsName n) (base : String) :
    components (join base n) = components base ++ [.name n] := by
  rcases List.eq_nil_or_concat' base.toList with hnil | ⟨cs, c, hbase⟩
  · obtain rfl : base = "" := String.toList_inj.1 hnil
    have hjoin : join "" n = n := by simp [join]
    rw [hjoin, components_of_isName hn]
    rfl
  · by_cases hc : c = '/'
    · -- the slash is there already
      subst hc
      have hjoin : (join base n).toList = cs ++ '/' :: n.toList := by
        rw [join, if_pos (by simp [hbase])]
        simp [hbase]
      rw [components_of_toList hjoin hn.2.1, components_of_toList hbase List.not_mem_nil,
        componentOf?_name hn]
      simp [componentOf?]
    · have hne : base ≠ "" := by
        rintro rfl
        simp at hbase
      have hjoin : (join base n).toList = base.toList ++ '/' :: n.toList := by
        rw [join, if_neg (by simp [hbase, hc, hne])]
        simp
      have hstart : start (base.toList ++ ['/']) (base.toList.splitOn '/') =
          start base.toList (base.toList.splitOn '/') := by
        rw [start, start, List.head?_append_of_ne_nil _ (by simp [hne])]
      rw [components_of_toList hjoin hn.2.1, hstart, ← components_eq, componentOf?_name hn,
        Option.toList_some]

private theorem components_joinAll (h : ∀ n ∈ names, IsName n) (base : String) :
    components (joinAll base names) = components base ++ names.map .name := by
  induction names generalizing base with
  | nil => simp [joinAll]
  | cons n names ih =>
    obtain ⟨hn, hnames⟩ := List.forall_mem_cons.1 h
    rw [joinAll, List.foldl_cons, ← joinAll, ih hnames, components_join hn, List.map_cons,
      List.append_assoc, List.singleton_append]

/-- Different names lead to different paths. -/
theorem joinAll_ranks_injective {names' : List String} (h : ∀ n ∈ names, IsName n)
    (h' : ∀ n ∈ names', IsName n) (heq : ranks (joinAll base names) = ranks (joinAll base names')) :
    names = names' := by
  rw [ranks, ranks, components_joinAll h, components_joinAll h', List.map_append, List.map_append,
    List.append_cancel_left_eq, List.map_map, List.map_map] at heq
  refine (List.map_injective_iff.2 fun a b hab => ?_) heq
  exact Component.name.inj (Component.rank_injective hab)

/-! ### Extensions -/

/-- The last component of a path below another one is its file name. -/
theorem fileName?_joinAll (h : ∀ n ∈ names, IsName n) (hne : names ≠ []) (base : String) :
    fileName? (joinAll base names) = names.getLast? := by
  rw [fileName?, components_joinAll h, List.getLast?_append_of_ne_nil _ (by simpa using hne),
    List.getLast?_map]
  cases names.getLast? <;> rfl

/-- A path has the extension just if its file name ends with it after a dot, and something stands
before the dot. -/
theorem extension?_eq_some_iff {path ext : String} (hext : '.' ∉ ext.toList) :
    extension? path = some ext ↔ ∃ stem, stem ≠ "" ∧
      fileName? path = some (stem ++ "." ++ ext) := by
  rw [extension?, Option.bind_eq_some_iff]
  constructor
  · rintro ⟨name, hname, hending⟩
    obtain ⟨hlength, hext'⟩ := Option.ite_none_right_eq_some.1 hending
    obtain rfl := Option.some.inj hext'
    obtain ⟨before, hsplit, hbefore⟩ := exists_eq_append_afterLast '.' name.toList
    -- more than the dot comes before the ending, so a file that is all ending has none
    have hlong : 1 < before.length := by
      have hsum := congrArg List.length hsplit
      rw [List.length_append, String.length_toList] at hsum
      omega
    rcases hbefore with rfl | ⟨stem, rfl⟩
    · simp at hlong
    · refine ⟨String.ofList stem, ?_, ?_⟩
      · intro hnil
        rw [String.ofList_eq_empty_iff.1 hnil] at hlong
        simp at hlong
      · rw [hname, Option.some.injEq, ← String.toList_inj]
        exact hsplit.trans (by simp)
  · rintro ⟨stem, hstem, hname⟩
    have htext : (stem ++ "." ++ ext).toList = stem.toList ++ '.' :: ext.toList := by simp
    have hpos : 0 < stem.toList.length := List.length_pos_iff.2 (by simpa using hstem)
    refine ⟨_, hname, Option.ite_none_right_eq_some.2 ⟨?_, ?_⟩⟩
    · rw [htext, afterLast_append_cons hext, ← String.length_toList, htext, List.length_append,
        List.length_cons]
      omega
    · rw [htext, afterLast_append_cons hext, String.ofList_toList]

end Path

end Excerpt
