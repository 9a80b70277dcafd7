import Excerpt.Proofs.ThreadNames
import Excerpt.Rule.Settings
import Mathlib.Data.Fintype.Card
import Mathlib.Data.Nat.Find

/-!
# The search for a name without a bound

The name that an expression gives is searched for through sums and parentheses. References may
lead anywhere, so the search need not end: an expression may be its own operand.
`Detect.nameWithin` therefore gives up after a number of levels. This module describes the search
without a bound, by how it ends (`Detect.NameEnds`), and shows that giving up after as many levels
as there are nodes loses nothing.

A name that is found at all is found at some least number of levels. If this number is greater
than one, then one of the operands needs exactly one level less. So below an expression that needs
many levels there is a node for every smaller number of levels, and since these nodes are all
different, there are no more levels than nodes (`Detect.FoundAt.lt_size`).

A search that does not end is not told from one that is stuck at a dangling reference by its
result: neither finds a name. What is proved about detectors is meant for calls that end, which
`Detect.CallsEnd` describes. All detectors but the one for names of threads walk through the tree
only, and always end.

## Main results

* `Detect.NameEnds.resolveName_eq`: if the search ends, the bounded search gives its result.
* `Detect.resolveName_eq_some_iff`: the bounded search finds exactly the names that are there.
* `Detect.NameEnds.eq`: there is one way to end.
* `Detect.OperandsBelow.callsEnd`: calls end where operands are children of their nodes.
-/

namespace Excerpt.Detect

open SyntaxTree

variable {t : SyntaxTree} {e : NodeId} {m n : Nat} {name : String} {result : Option String}

/-- How the search for the name of an expression ends, if it does: with a name, or with none at a
reference that leads out of the tree. The operands of a sum are searched from left to right, so
what is right of such a reference is not looked at. -/
inductive NameEnds (t : SyntaxTree) : NodeId → Option String → Prop
  | outside {e : NodeId} (h : t.size ≤ e) : NameEnds t e none
  | leaf {e : NodeId} (he : e < t.size) (h : isGrouping (t.kind e) = false) :
      NameEnds t e (some (leafName t e))
  | sum {e left right : NodeId} {line : Option Nat} {l : String} {r : Option String}
      (he : e < t.size) (h : t.kind e = .expr (.binary "+" line left right))
      (hl : NameEnds t left (some l))
      (hr : NameEnds t right r) : NameEnds t e (r.map (l ++ ·))
  | stuck {e left right : NodeId} {line : Option Nat} (he : e < t.size)
      (h : t.kind e = .expr (.binary "+" line left right)) (hl : NameEnds t left none) :
      NameEnds t e none
  | group {e inner : NodeId} {result : Option String} (he : e < t.size)
      (h : t.kind e = .expr (.parenthesized (some inner))) (hi : NameEnds t inner result) :
      NameEnds t e result

/-! ### More levels -/

private theorem nameWithin_outside (h : t.size ≤ e) (fuel : Nat) : nameWithin t fuel e = none := by
  cases fuel with
  | zero => rfl
  | succ fuel =>
    have hnone : t.follow e = none := if_neg (Nat.not_lt.mpr h)
    rw [nameWithin, hnone]
    rfl

private theorem lt_size_of_nameWithin (h : nameWithin t n e = some name) : e < t.size := by
  by_contra hsize
  rw [nameWithin_outside (Nat.not_lt.mp hsize)] at h
  cases h

/-- What a name within one more level is made of. -/
theorem nameWithin_succ_eq_some_iff :
    nameWithin t (n + 1) e = some name ↔ e < t.size ∧
      (isGrouping (t.kind e) = false ∧ name = leafName t e ∨
        (∃ line left right l r, t.kind e = .expr (.binary "+" line left right) ∧
          nameWithin t n left = some l ∧ nameWithin t n right = some r ∧ l ++ r = name) ∨
        ∃ inner, t.kind e = .expr (.parenthesized (some inner)) ∧
            nameWithin t n inner = some name) := by
  by_cases he : e < t.size
  -- outside the tree nothing is found
  swap
  · exact iff_of_false (fun h => he (lt_size_of_nameWithin h)) fun h => he h.1
  rw [and_iff_right he]
  cases hkind : isGrouping (t.kind e) with
  | false =>
    rw [nameWithin_leaf he hkind, Option.some.injEq, eq_comm, and_iff_right rfl, or_iff_left]
    rintro (⟨line, left, right, -, -, h, -⟩ | ⟨inner, h, -⟩) <;> simp [h, isGrouping] at hkind
  | true =>
    rcases isGrouping_iff.mp hkind with ⟨line, left, right, h⟩ | ⟨inner, h⟩
    · rw [nameWithin_sum he h]
      simp [h, Option.bind_eq_some_iff]
    · rw [nameWithin_group he h]
      simp [h]

/-- A name that is found is found with more levels as well. -/
theorem nameWithin_mono (h : nameWithin t n e = some name) (hle : n ≤ m) :
    nameWithin t m e = some name := by
  induction n generalizing e name m with
  | zero => cases h
  | succ n ih =>
    obtain ⟨m, rfl⟩ : ∃ k, m = k + 1 := ⟨m - 1, by omega⟩
    have hle : n ≤ m := by omega
    rw [nameWithin_succ_eq_some_iff] at h ⊢
    obtain ⟨he, hleaf | ⟨line, left, right, l, r, hkind, hl, hr, rfl⟩ | ⟨inner, hkind, hi⟩⟩ := h
    · exact ⟨he, .inl hleaf⟩
    · exact ⟨he, .inr (.inl ⟨line, left, right, l, r, hkind, ih hl hle, ih hr hle, rfl⟩)⟩
    · exact ⟨he, .inr (.inr ⟨inner, hkind, ih hi hle⟩)⟩

/-- A name that is found within some number of levels is how the search ends. -/
theorem nameEnds_of_nameWithin (h : nameWithin t n e = some name) : NameEnds t e (some name) := by
  induction n generalizing e name with
  | zero => cases h
  | succ n ih =>
    rw [nameWithin_succ_eq_some_iff] at h
    obtain ⟨he, ⟨hleaf, rfl⟩ | ⟨line, left, right, l, r, hkind, hl, hr, rfl⟩ |
      ⟨inner, hkind, hi⟩⟩ := h
    · exact .leaf he hleaf
    · exact .sum he hkind (ih hl) (ih hr)
    · exact .group he hkind (ih hi)

/-- However the search ends, enough levels lead there. -/
theorem NameEnds.exists_bound (h : NameEnds t e result) :
    ∃ n, ∀ m, n ≤ m → nameWithin t m e = result := by
  induction h with
  | outside h => exact ⟨0, fun m _ => nameWithin_outside h m⟩
  | leaf he h =>
    refine ⟨1, fun m hm => ?_⟩
    obtain ⟨m, rfl⟩ : ∃ k, m = k + 1 := ⟨m - 1, by omega⟩
    exact nameWithin_leaf he h m
  | @sum e left right line l r he h _ _ ihl ihr =>
    obtain ⟨n, hn⟩ := ihl
    obtain ⟨n', hn'⟩ := ihr
    -- both operands must be found, with one level more for the sum itself
    refine ⟨max n n' + 1, fun m hm => ?_⟩
    obtain ⟨m, rfl⟩ : ∃ k, m = k + 1 := ⟨m - 1, by omega⟩
    rw [nameWithin_sum he h, hn m (by omega), hn' m (by omega)]
    cases r <;> rfl
  | stuck he h _ ihl =>
    obtain ⟨n, hn⟩ := ihl
    refine ⟨n + 1, fun m hm => ?_⟩
    obtain ⟨m, rfl⟩ : ∃ k, m = k + 1 := ⟨m - 1, by omega⟩
    rw [nameWithin_sum he h, hn m (by omega)]
    rfl
  | group he h _ ih =>
    obtain ⟨n, hn⟩ := ih
    refine ⟨n + 1, fun m hm => ?_⟩
    obtain ⟨m, rfl⟩ : ∃ k, m = k + 1 := ⟨m - 1, by omega⟩
    rw [nameWithin_group he h, hn m (by omega)]

/-- There is one way to end. -/
theorem NameEnds.eq {result' : Option String} (h : NameEnds t e result)
    (h' : NameEnds t e result') :
    result = result' := by
  obtain ⟨n, hn⟩ := h.exists_bound
  obtain ⟨n', hn'⟩ := h'.exists_bound
  rw [← hn (max n n') (by omega), hn' (max n n') (by omega)]

/-! ### As many levels as nodes -/

/-- The name of the expression is found with `n + 1` levels, and not with fewer. -/
def FoundAt (t : SyntaxTree) (e : NodeId) (n : Nat) : Prop :=
  (∃ name, nameWithin t (n + 1) e = some name) ∧ nameWithin t n e = none

/-- A name is found at one least number of levels. -/
theorem FoundAt.eq (h : FoundAt t e n) (h' : FoundAt t e m) : n = m := by
  obtain ⟨⟨name, hname⟩, hnone⟩ := h
  obtain ⟨⟨name', hname'⟩, hnone'⟩ := h'
  by_contra hne
  rcases Nat.lt_or_gt_of_ne hne with hlt | hlt
  · rw [nameWithin_mono hname (by omega)] at hnone'
    cases hnone'
  · rw [nameWithin_mono hname' (by omega)] at hnone
    cases hnone

/-- Of the operands of an expression, one needs just one level less. -/
theorem FoundAt.exists_operand (h : FoundAt t e (n + 1)) : ∃ j, FoundAt t j n := by
  obtain ⟨⟨name, hname⟩, hnone⟩ := h
  obtain ⟨he, ⟨hleaf, -⟩ | ⟨line, left, right, l, r, hkind, hl, hr, -⟩ | ⟨inner, hkind, hi⟩⟩ :=
    nameWithin_succ_eq_some_iff.mp hname
  · rw [nameWithin_leaf he hleaf] at hnone
    cases hnone
  · rw [nameWithin_sum he hkind] at hnone
    -- if both were found with one level less, the sum would have been found as well
    cases hleft : nameWithin t n left with
    | none => exact ⟨left, ⟨l, hl⟩, hleft⟩
    | some l' =>
      rw [hleft, Option.bind_some] at hnone
      cases hright : nameWithin t n right with
      | none => exact ⟨right, ⟨r, hr⟩, hright⟩
      | some r' =>
        rw [hright] at hnone
        cases hnone
  · rw [nameWithin_group he hkind] at hnone
    exact ⟨inner, ⟨name, hi⟩, hnone⟩

/-- Below an expression there is a node for every smaller number of levels. -/
theorem FoundAt.exists_of_le (h : FoundAt t e n) (hle : m ≤ n) : ∃ j, FoundAt t j m := by
  induction n generalizing e with
  | zero => exact ⟨e, Nat.le_zero.mp hle ▸ h⟩
  | succ n ih =>
    rcases Nat.lt_or_eq_of_le hle with hlt | rfl
    · obtain ⟨j, hj⟩ := h.exists_operand
      exact ih hj (Nat.le_of_lt_succ hlt)
    · exact ⟨e, h⟩

/-- **No name needs more levels than there are nodes**, for nodes that need different numbers of
levels are different. -/
theorem FoundAt.lt_size (h : FoundAt t e n) : n < t.size := by
  have hnodes : ∀ k : Fin (n + 1), ∃ j, FoundAt t j k :=
    fun k => h.exists_of_le (Nat.le_of_lt_succ k.isLt)
  choose node hnode using hnodes
  have hsize : ∀ k, node k < t.size := fun k => by
    obtain ⟨name, hname⟩ := (hnode k).1
    exact lt_size_of_nameWithin hname
  have hinjective : Function.Injective fun k => (⟨node k, hsize k⟩ : Fin t.size) := by
    intro k k' heq
    have hsame : node k = node k' := congrArg Fin.val heq
    exact Fin.ext ((hnode k).eq (hsame ▸ hnode k'))
  have hcard := Fintype.card_le_of_injective _ hinjective
  rwa [Fintype.card_fin, Fintype.card_fin] at hcard

/-- A name that is found with any number of levels is found with as many as there are nodes. -/
theorem nameWithin_size (h : nameWithin t n e = some name) : nameWithin t t.size e = some name := by
  have hfound : ∃ n, (nameWithin t n e).isSome := ⟨n, by simp [h]⟩
  obtain ⟨least, hleast⟩ := Option.isSome_iff_exists.mp (Nat.find_spec hfound)
  obtain ⟨k, hk⟩ : ∃ k, Nat.find hfound = k + 1 := by
    refine ⟨Nat.find hfound - 1, ?_⟩
    have hpos : Nat.find hfound ≠ 0 := fun hzero => by
      rw [hzero] at hleast
      cases hleast
    omega
  have hnone : nameWithin t k e = none :=
    Option.not_isSome_iff_eq_none.mp (Nat.find_min hfound (by omega))
  rw [hk] at hleast
  have hsize : k < t.size := FoundAt.lt_size ⟨⟨least, hleast⟩, hnone⟩
  -- two names that are found at all are the same
  have hsame : some least = some name :=
    (nameWithin_mono hleast (Nat.le_max_left _ n)).symm.trans
      (nameWithin_mono h (Nat.le_max_right _ _))
  rw [← hsame]
  exact nameWithin_mono hleast hsize

/-- A name that the search ends with is found by every bound that is no less than the number of
nodes. -/
theorem NameEnds.nameWithin_eq (h : NameEnds t e (some name)) (hm : t.size ≤ m) :
    nameWithin t m e = some name := by
  obtain ⟨n, hn⟩ := h.exists_bound
  exact nameWithin_mono (nameWithin_size (hn n (Nat.le_refl n))) hm

/-- The bounded search finds exactly the names that are there. -/
theorem resolveName_eq_some_iff : resolveName t e = some name ↔ NameEnds t e (some name) :=
  ⟨nameEnds_of_nameWithin, fun h => h.nameWithin_eq (Nat.le_succ _)⟩

/-- **The bound loses nothing**: if the search without a bound ends, the bounded search gives its
result. -/
theorem NameEnds.resolveName_eq (h : NameEnds t e result) : resolveName t e = result := by
  cases hresolve : resolveName t e with
  | none =>
    cases result with
    | none => rfl
    | some name => rw [resolveName_eq_some_iff.mpr h] at hresolve; cases hresolve
  | some name => exact (resolveName_eq_some_iff.mp hresolve).eq h

/-! ### Calls that end -/

/-- A search at the elements of a list, one after the other, ends: it ends at each element, up to
the first one that it gets stuck at. -/
inductive GatherEnds {α β : Type} (ends : α → Prop) (f : α → Option (List β)) : List α → Prop
  | nil : GatherEnds ends f []
  | stuck {x : α} (xs : List α) (h : ends x) (hx : f x = none) : GatherEnds ends f (x :: xs)
  | cons {x : α} {xs : List α} (h : ends x) (hxs : GatherEnds ends f xs) :
      GatherEnds ends f (x :: xs)

private theorem GatherEnds.of_forall {α β : Type} {ends : α → Prop} {f : α → Option (List β)}
    {xs : List α} (h : ∀ x ∈ xs, ends x) : GatherEnds ends f xs := by
  induction xs with
  | nil => exact .nil
  | cons x xs ih =>
    obtain ⟨hx, hxs⟩ := List.forall_mem_cons.mp h
    exact .cons hx (ih hxs)

/-- A walk through a list that ends does so under a weaker condition on its elements. -/
theorem GatherEnds.imp {α β : Type} {ends ends' : α → Prop} {f : α → Option (List β)} {xs : List α}
    (himp : ∀ x, ends x → ends' x) (h : GatherEnds ends f xs) : GatherEnds ends' f xs := by
  induction h with
  | nil => exact .nil
  | stuck xs h hx => exact .stuck xs (himp _ h) hx
  | cons h _ ih => exact .cons (himp _ h) ih

/-- A finding for the name that an argument gives is made, or cannot be made. The code that the
name is used in comes first, and without it the name is not searched for. -/
def NameFindingEnds (cx : Context) (arg : NodeId) : Prop :=
  ownerText cx.tree cx.node = none ∨ ∃ result, NameEnds cx.tree arg result

/-- The search at one argument of a construction ends. The name is searched for only if the
argument is in the tree and may be a name. -/
def ArgumentFindingEnds (cx : Context) (arg : NodeId) : Prop :=
  arg < cx.tree.size → isNameArgument (cx.tree.kind arg) = true → NameFindingEnds cx arg

/-- A call of the detector of thread names ends. -/
def ThreadNameEnds (types : List String) (setter : String) (cx : Context) : Prop :=
  match cx.kind with
  | .expr (.creation type args) =>
    types.contains (simpleTypeName type) = true →
      GatherEnds (ArgumentFindingEnds cx) (argumentFinding cx) args
  | .expr (.call _ [arg]) => cx.name = setter → NameFindingEnds cx arg
  | _ => True

/-- Every call of a built-in detector ends, at any node. Only the detector of thread names follows
references from node to node, so only its calls might not end. -/
def CallsEnd (s : Settings) (t : SyntaxTree) : Prop :=
  ∀ i < t.size, ∀ (rule : Rule) (path : String),
    ThreadNameEnds s.threadTypes s.threadNameSetter ⟨t, i, rule, path⟩

/-- If operands are children, every search for a name ends. -/
theorem OperandsBelow.exists_nameEnds (hbelow : OperandsBelow t) (ht : t.WellFormed) (e : NodeId) :
    ∃ result, NameEnds t e result := by
  rcases Nat.lt_or_ge e t.size with he | he
  · obtain ⟨leaves, hleaves⟩ := hbelow.exists_flattens ht he
    exact ⟨_, nameEnds_of_nameWithin (hleaves.resolveName_eq hbelow ht he)⟩
  · exact ⟨none, .outside he⟩

/-- If operands are children, every call ends. -/
theorem OperandsBelow.callsEnd (hbelow : OperandsBelow t) (ht : t.WellFormed) (s : Settings) :
    CallsEnd s t := by
  intro i _ rule path
  have hfinding : ∀ arg, NameFindingEnds ⟨t, i, rule, path⟩ arg := fun arg =>
    .inr (hbelow.exists_nameEnds ht arg)
  rw [ThreadNameEnds]
  split
  · exact fun _ => .of_forall fun arg _ _ _ => hfinding arg
  · exact fun _ => hfinding _
  · trivial

end Excerpt.Detect
