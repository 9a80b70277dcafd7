import Excerpt.Proofs.Registry
import Excerpt.Report.Basic
import Mathlib.Algebra.BigOperators.Group.List.Lemmas
import Mathlib.Algebra.GroupWithZero.Nat
import Mathlib.Data.List.Dedup

/-!
# Counts by rule

Counting goes through the keys once and keeps the counts so far in a list, where a new key comes
last. After any keys the list has each of them once, with the number of its occurrences
(`tally_eq`), in the order of first occurrence (`pairwise_idxOf_eraseDups`). Both are proved from
what one more key does to such a list: it counts where the key is, or comes last (`countOne_map`).

Since only numbers of occurrences matter, the counts of reports that are put together add up
(`Report.countsByRule_exact`). So counts can be kept for parts of a scan, and be added in the end.

## Main results

* `countOne_map`: one more key.
* `tally_eq`: the tally of any keys.
* `sum_tally`: every key is counted once.
* `Report.countsByRule_exact`: the counts of a report.
-/

namespace Excerpt

/-! ### Tallies -/

/-- One more key counts where it is, or comes last. -/
theorem countOne_map {ks : List String} (hks : ks.Nodup) (f : String → Nat) (key : String) :
    countOne key (ks.map fun k => (k, f k)) =
      if key ∈ ks then ks.map fun k => (k, if k = key then f k + 1 else f k)
      else ks.map (fun k => (k, f k)) ++ [(key, 1)] := by
  induction ks with
  | nil => rfl
  | cons k ks ih =>
    obtain ⟨hk, hks⟩ := List.nodup_cons.1 hks
    rw [List.map_cons, countOne]
    by_cases hkey : k = key
    · subst hkey
      -- keys do not repeat, so the count of no other key changes
      have hrest : (ks.map fun j => (j, if j = k then f j + 1 else f j)) =
        ks.map fun j => (j, f j) :=
        List.map_congr_left fun j hj => by rw [if_neg (ne_of_mem_of_not_mem hj hk)]
      simp [hrest]
    · have hmem : key ∈ k :: ks ↔ key ∈ ks := by simp [Ne.symm hkey]
      rw [if_neg hkey, ih hks]
      simp only [hmem]
      split <;> simp [hkey]

private theorem tally_concat (keys : List String) (key : String) :
    tally (keys ++ [key]) = countOne key (tally keys) := by
  simp [tally]

private theorem eraseDups_concat (keys : List String) (key : String) :
    (keys ++ [key]).eraseDups = if key ∈ keys then keys.eraseDups else keys.eraseDups ++ [key] := by
  have h := Registry.eraseDups_append_toList keys (some key)
  by_cases hkey : key ∈ keys <;> simpa [hkey] using h

/-- Without repeats, keys come in the order of their first occurrences. -/
theorem pairwise_idxOf_eraseDups (keys : List String) :
    keys.eraseDups.Pairwise fun a b => keys.idxOf a < keys.idxOf b := by
  induction keys using List.reverseRecOn with
  | nil => exact .nil
  | append_singleton keys key ih =>
    -- a key keeps the place where it was met first
    have hold : ∀ a ∈ keys.eraseDups, (keys ++ [key]).idxOf a = keys.idxOf a := fun a ha =>
      List.idxOf_append_of_mem (List.mem_eraseDups.1 ha)
    have hkept : keys.eraseDups.Pairwise fun a b =>
        (keys ++ [key]).idxOf a < (keys ++ [key]).idxOf b :=
      ih.imp_of_mem fun ha hb h => by rwa [hold _ ha, hold _ hb]
    rw [eraseDups_concat]
    split
    · exact hkept
    · next hnew =>
      refine List.pairwise_append.2 ⟨hkept, List.pairwise_singleton _ _, fun a ha b hb => ?_⟩
      rw [List.mem_singleton.1 hb, hold a ha, List.idxOf_append_of_notMem hnew]
      exact Nat.lt_add_right _ (List.idxOf_lt_length_of_mem (List.mem_eraseDups.1 ha))

private theorem nodup_eraseDups (keys : List String) : keys.eraseDups.Nodup :=
  (pairwise_idxOf_eraseDups keys).imp fun h heq => absurd (heq ▸ h) (Nat.lt_irrefl _)

/-- **The tally of keys** has each of them once, with the number of its occurrences. -/
theorem tally_eq (keys : List String) :
    tally keys = keys.eraseDups.map fun k => (k, keys.count k) := by
  induction keys using List.reverseRecOn with
  | nil => rfl
  | append_singleton keys key ih =>
    have hcount : ∀ k, (keys ++ [key]).count k = if k = key then keys.count k + 1
        else keys.count k := fun k => by
      by_cases hk : k = key
      · simp [hk]
      · simp [hk, Ne.symm hk]
    rw [tally_concat, ih, countOne_map (nodup_eraseDups keys), eraseDups_concat]
    simp only [List.mem_eraseDups, hcount]
    by_cases hkey : key ∈ keys
    · rw [if_pos hkey, if_pos hkey]
    · -- the new key has not been counted, and the others keep their counts
      have hrest : (keys.eraseDups.map fun k =>
        (k, if k = key then keys.count k + 1 else keys.count k)) =
          keys.eraseDups.map fun k => (k, keys.count k) :=
        List.map_congr_left fun k hk => by
          rw [if_neg (ne_of_mem_of_not_mem (List.mem_eraseDups.1 hk) hkey)]
      rw [if_neg hkey, if_neg hkey, List.map_append, hrest]
      simp [List.count_eq_zero_of_not_mem hkey]

example : tally ["B", "A", "B"] = [("B", 2), ("A", 1)] := by decide

/-- The keys of a tally are those that were counted, each once. -/
private theorem map_fst_tally (keys : List String) : (tally keys).map (·.1) = keys.eraseDups := by
  rw [tally_eq, List.map_map]
  exact List.map_id _

/-- What a tally says of a key: how often it occurs, and nothing if it does not. -/
private theorem mem_tally_iff {keys : List String} {key : String} {n : Nat} :
    (key, n) ∈ tally keys ↔ 0 < n ∧ n = keys.count key := by
  rw [tally_eq, List.mem_map]
  constructor
  · rintro ⟨k, hk, heq⟩
    obtain ⟨rfl, rfl⟩ := Prod.mk.inj heq
    exact ⟨List.count_pos_iff.2 (List.mem_eraseDups.1 hk), rfl⟩
  · rintro ⟨hpos, rfl⟩
    exact ⟨key, List.mem_eraseDups.2 (List.count_pos_iff.1 hpos), rfl⟩

/-- Every key is counted once. -/
theorem sum_tally (keys : List String) : ((tally keys).map (·.2)).sum = keys.length := by
  have hperm : keys.eraseDups.Perm keys.dedup :=
    (List.perm_ext_iff_of_nodup (nodup_eraseDups keys) keys.nodup_dedup).2 fun k => by
      rw [List.mem_eraseDups, List.mem_dedup]
  rw [tally_eq, List.map_map, ← List.sum_map_count_dedup_eq_length keys]
  exact (hperm.map _).sum_eq

/-- The count of a key that is looked up; a key that does not occur counts zero. -/
private theorem lookup_tally (keys : List String) (key : String) :
    ((tally keys).lookup key).getD 0 = keys.count key := by
  by_cases hkey : key ∈ keys
  · rw [tally_eq, List.lookup_graph _ (List.mem_eraseDups.2 hkey), Option.getD_some]
  · have hnone : (tally keys).lookup key = none := by
      rw [tally_eq, List.lookup_eq_none_iff, List.forall_mem_map]
      intro k hk
      simpa using (ne_of_mem_of_not_mem (List.mem_eraseDups.1 hk) hkey).symm
    rw [hnone, Option.getD_none, List.count_eq_zero_of_not_mem hkey]

/-! ### Reports -/

namespace Report

/-- The number of snippets of a rule according to the counts, where none is given for rules
without snippets. -/
def countOf (r : Report) (id : String) : Nat :=
  (r.countsByRule.lookup id).getD 0

/-- The count of a rule is the number of its snippets. -/
private theorem countOf_eq (r : Report) (id : String) :
    r.countOf id = r.snippets.countP fun s => s.rule.id = id := by
  rw [countOf, countsByRule, lookup_tally, List.count_eq_countP, List.countP_map]
  exact List.countP_congr fun s _ => by simp

/-- **The counts of a report.** Its rules are pairwise different and come in the order of their
first snippets, each with the number of its snippets, which is positive. The counts sum up to the
number of all snippets. If reports are put together, or the snippets of one are added to the
other, the counts of each rule add up. -/
theorem countsByRule_exact (r s : Report) :
    (r.countsByRule.map (·.1)).Nodup ∧
    (r.countsByRule.map (·.1)).Pairwise (fun a b =>
      (r.snippets.findIdx fun s => s.rule.id = a) < r.snippets.findIdx fun s => s.rule.id = b) ∧
    (∀ id n, (id, n) ∈ r.countsByRule ↔ 0 < n ∧ n = r.snippets.countP fun s => s.rule.id = id) ∧
    (r.countsByRule.map (·.2)).sum = r.snippets.length ∧
    ∀ id, (r.append s).countOf id = r.countOf id + s.countOf id ∧
      (r.addFile s.snippets).countOf id = r.countOf id + s.countOf id := by
  have hfirst : ∀ id, (r.snippets.findIdx fun s => s.rule.id = id) =
      (r.snippets.map fun s => s.rule.id).idxOf id := by
    intro id
    rw [List.idxOf, List.findIdx_map]
    congr 1
  refine ⟨?_, ?_, fun id n => ?_, ?_, fun id => ?_⟩
  · rw [countsByRule, map_fst_tally]
    exact nodup_eraseDups _
  · simp only [hfirst]
    rw [countsByRule, map_fst_tally]
    exact pairwise_idxOf_eraseDups _
  · rw [countsByRule, mem_tally_iff, ← lookup_tally, ← countsByRule, ← countOf, countOf_eq]
  · rw [countsByRule, sum_tally, List.length_map]
  · simp only [countOf_eq, append, addFile, List.countP_append, and_self]

end Report

end Excerpt
