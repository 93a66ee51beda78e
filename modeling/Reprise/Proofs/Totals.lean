import Mathlib.Algebra.BigOperators.Finprod
import Reprise.Recorder

/-!
# What the figures of a report add up to

A report sums and counts over the list of all routines that were called.  Here these figures become
sums over all routines whatsoever, those never called counting nothing, so that figures taken from
different tables can be compared routine by routine:

    total routines f = ∑ᶠ x, what `f` says of the entry of `x`                  (total_routines)
    s.size = ∑ᶠ x, (s.summaries x).length                                            (size_eq)
    l.length = ∑ᶠ x, l.count x                                           (length_eq_finsum_count)
-/

namespace Reprise

open Std

/-! ## Tables of routines -/

variable {β : Type}

theorem values_eq_map (m : RoutineMap β) : m.values = m.toList.map Prod.snd := by
  obtain ⟨m⟩ := m
  induction m with
  | mk m =>
    change DTreeMap.Internal.Impl.values m.inner =
      (DTreeMap.Internal.Impl.Const.toList m.inner).map Prod.snd
    rw [DTreeMap.Internal.Impl.values_eq_map_snd,
      DTreeMap.Internal.Impl.Const.toList_eq_toListModel_map, List.map_map]
    rfl

theorem nodup_keys (m : RoutineMap β) : m.keys.Nodup :=
  m.distinct_keys.imp fun hne heq => hne (Std.compare_eq_iff_eq.mpr heq)

/-- A sum over the entries is a sum over the routines. -/
theorem sum_values (m : RoutineMap β) (g : β → Nat) :
    (m.values.map g).sum = ∑ᶠ x : RoutineId, (m[x]?).elim 0 g := by
  have hentries : m.values.map g = m.keys.map fun x => (m[x]?).elim 0 g := by
    rw [values_eq_map, ← ExtTreeMap.map_fst_toList_eq_keys, List.map_map, List.map_map]
    refine List.map_congr_left fun e he => ?_
    have hlookup : m[e.1]? = some e.2 := ExtTreeMap.mem_toList_iff_getElem?_eq_some.mp he
    simp [hlookup]
  have hsupport : (Function.support fun x : RoutineId => (m[x]?).elim 0 g) ⊆ m.keys.toFinset := by
    intro x hx
    rw [List.coe_toFinset, Set.mem_ofPred_eq, ExtTreeMap.mem_keys]
    by_contra habsent
    exact hx (by simp [ExtTreeMap.getElem?_eq_none habsent])
  rw [hentries, finsum_eq_sum_of_support_subset _ hsupport, List.sum_toFinset _ (nodup_keys m)]

/-- The entries with a property are as many as the set of their routines says. -/
theorem countP_values {m : RoutineMap β} {p : β → Bool} {s : RoutineSet}
    (hs : ∀ x, x ∈ s ↔ (m[x]?).any p = true) : m.values.countP p = s.size := by
  have hset : s.toList.Nodup :=
    s.distinct_toList.imp fun hne heq => hne (Std.compare_eq_iff_eq.mpr heq)
  have hentries : ((m.toList.filter (p ·.2)).map Prod.fst).Nodup := by
    have hkeys := nodup_keys m
    rw [← ExtTreeMap.map_fst_toList_eq_keys] at hkeys
    exact ((List.filter_sublist).map Prod.fst).nodup hkeys
  have hperm : ((m.toList.filter (p ·.2)).map Prod.fst).Perm s.toList := by
    refine (List.perm_ext_iff_of_nodup hentries hset).mpr fun x => ?_
    simp [hs, Option.any_eq_true, ExtTreeMap.mem_toList_iff_getElem?_eq_some]
  calc m.values.countP p
      = (m.toList.filter (p ·.2)).length := by
        rw [values_eq_map, List.countP_map, List.countP_eq_length_filter]
        rfl
    _ = s.toList.length := by rw [← hperm.length_eq, List.length_map]
    _ = s.size := s.length_toList

/-- A list has as many members as all routines together have places in it. -/
theorem length_eq_finsum_count (l : List RoutineId) : l.length = ∑ᶠ x, l.count x := by
  have hsupport : (Function.support fun x => l.count x) ⊆ l.toFinset := by
    intro x hx
    rw [List.coe_toFinset, Set.mem_ofPred_eq]
    exact List.count_pos_iff.mp (Nat.pos_of_ne_zero hx)
  rw [finsum_eq_sum_of_support_subset _ hsupport, List.sum_toFinset_count_eq_length]

theorem Store.size_eq (s : Store) : s.size = ∑ᶠ x, (s.summaries x).length := by
  have hlength : ∀ x, (s.entries[x]?).elim 0 List.length = (s.summaries x).length := by
    intro x
    unfold Store.summaries
    cases s.entries[x]? <;> rfl
  simp only [← hlength]
  exact sum_values s.entries List.length

/-! ## Lists of entries -/

namespace Report

theorem total_perm {l l' : List RoutineStatistics} (hl : l.Perm l')
    (counter : RoutineStatistics → Nat) : total l counter = total l' counter :=
  (hl.map counter).sum_eq

theorem total_eq_add {l : List RoutineStatistics} {f g k : RoutineStatistics → Nat}
    (hf : ∀ stats ∈ l, f stats = g stats + k stats) : total l f = total l g + total l k := by
  induction l with
  | nil => rfl
  | cons stats l ih =>
    have hrest := ih fun stats hstats => hf stats (List.mem_cons_of_mem _ hstats)
    have hfirst := hf stats List.mem_cons_self
    simp only [total, List.map_cons, List.foldr_cons] at hrest ⊢
    omega

/-- Every routine is of one of the four kinds. -/
theorem total_calls_eq (l : List RoutineStatistics) :
    total l (·.totalCalls) = callsOf l .static + callsOf l .method + callsOf l .constructor +
      callsOf l .classInitializer := by
  induction l with
  | nil => rfl
  | cons stats l ih =>
    simp only [callsOf, total, List.filter_cons, List.map_cons, List.foldr_cons] at ih ⊢
    cases stats.kind <;> simp [ih] <;> omega

variable (runId : RunId) (s : Statistics) (stored : Nat)

theorem perm_routines : (ofStatistics runId s stored).routines.Perm s.routines.values :=
  List.mergeSort_perm _ _

/-- A total is a sum over the routines. -/
theorem total_routines (counter : RoutineStatistics → Nat) :
    total (ofStatistics runId s stored).routines counter =
      ∑ᶠ x : RoutineId, (s.routines[x]?).elim 0 counter :=
  (total_perm (perm_routines runId s stored) counter).trans (sum_values s.routines counter)

theorem countP_routines {p : RoutineStatistics → Bool} {set : RoutineSet}
    (hset : ∀ x, x ∈ set ↔ (s.routines[x]?).any p = true) :
    (ofStatistics runId s stored).routines.countP p = set.size :=
  ((perm_routines runId s stored).countP_eq p).trans (countP_values hset)

theorem mem_routines {stats : RoutineStatistics} :
    stats ∈ (ofStatistics runId s stored).routines ↔
      ∃ x : RoutineId, s.routines[x]? = some stats := by
  rw [(perm_routines runId s stored).mem_iff, values_eq_map]
  simp [ExtTreeMap.mem_toList_iff_getElem?_eq_some]

end Report

end Reprise
