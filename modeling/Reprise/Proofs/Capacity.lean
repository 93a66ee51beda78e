import Reprise.Proofs.Commit

/-!
# How many summaries a store keeps

Whether a store takes another summary of a routine depends on how many the routine has, and on
nothing else: up to some number each one is appended, and from there on each one is refused
(`Store.Bounds`).  For a store of capacity `c` that number is `max c 1`, because a routine without
an entry always has room:

    Allows capacity n ↔ n = max capacity 1                                           (allows_iff)

So a store keeps to its capacity unless that is zero; then it keeps one summary of each routine.
-/

namespace Reprise

open Std

namespace Store

/-- What is done with a store. -/
inductive Change where
  | add (routine : RoutineId) (summary : Summary)
  | clear

/-- The store after a change; one that refuses a summary stays as it is. -/
def change (s : Store) : Change → Store
  | .add routine summary =>
    match s.add routine summary with
    | .ok s' => s'
    | .error _ => s
  | .clear => s.clear

/-- The store after one change after the other. -/
def changeAll (s : Store) (changes : List Change) : Store := changes.foldl change s

/-- A routine has at most `n` summaries.  One more is appended to them, and nothing else changes, if
they are fewer than `n`; otherwise it is refused. -/
structure Bounds (n : Nat) (s : Store) : Prop where
  length_le : ∀ x, (s.summaries x).length ≤ n
  appends : ∀ x summary, (s.summaries x).length < n →
    ∃ s', s.add x summary = .ok s' ∧ s'.capacity = s.capacity ∧
      ∀ y, s'.summaries y = s.summaries y ++ if y = x then [summary] else []
  refuses : ∀ x summary, n ≤ (s.summaries x).length →
    s.add x summary = .error ⟨x, s.capacity⟩

/-- Whatever is done with a store of the capacity, every routine has `n` places in it. -/
def Allows (capacity n : Nat) : Prop :=
  ∀ changes, (changeAll { capacity } changes).capacity = capacity ∧
    (changeAll { capacity } changes).Bounds n

/-! ## A store with its capacity -/

/-- Every entry holds a summary, and no routine has more than its places. -/
structure IsPacked (s : Store) : Prop where
  nonempty : ∀ (x : RoutineId) (l : List Summary), s.entries[x]? = some l → l ≠ []
  length_le : ∀ x, (s.summaries x).length ≤ max s.capacity 1

theorem isPacked_of_empty (capacity : Nat) : IsPacked { capacity } where
  nonempty := fun x l hl => by simp at hl
  length_le := fun x => by simp [summaries]

/-- A routine has room as long as it has fewer summaries than places. -/
theorem IsPacked.hasRoom_iff {s : Store} (hs : s.IsPacked) (x : RoutineId) :
    s.hasRoom x = true ↔ (s.summaries x).length < max s.capacity 1 := by
  unfold hasRoom summaries
  cases hentry : s.entries[x]? with
  | none =>
    simp only [Option.getD_none, List.length_nil, true_iff]
    omega
  | some l =>
    have hpos : 0 < l.length := List.length_pos_iff.mpr (hs.nonempty x l hentry)
    simp only [Option.getD_some, decide_eq_true_eq]
    omega

theorem add_of_hasRoom {s : Store} {x : RoutineId} (hroom : s.hasRoom x = true)
    (summary : Summary) : s.add x summary = .ok (s.put x summary) := by
  rw [add, put, if_pos hroom, if_pos hroom]

theorem change_add (s : Store) (x : RoutineId) (summary : Summary) :
    s.change (.add x summary) = s.put x summary := by
  by_cases hroom : s.hasRoom x = true
  · rw [change, add_of_hasRoom hroom]
  · rw [change, add, put, if_neg hroom, if_neg hroom]

theorem capacity_put (s : Store) (x : RoutineId) (summary : Summary) :
    (s.put x summary).capacity = s.capacity := by
  unfold put
  split <;> rfl

theorem IsPacked.put {s : Store} (hs : s.IsPacked) (x : RoutineId) (summary : Summary) :
    (s.put x summary).IsPacked := by
  by_cases hroom : s.hasRoom x = true
  · refine ⟨fun y l hl => ?_, fun y => ?_⟩
    · rw [Store.put, if_pos hroom, ExtTreeMap.getElem?_insert] at hl
      split at hl
      · obtain rfl := Option.some.inj hl
        simp
      · exact hs.nonempty y l hl
    · have hlength := (hs.hasRoom_iff x).mp hroom
      rw [capacity_put, Recorder.summaries_put summary hroom]
      by_cases hy : y = x
      · rw [hy, if_pos rfl, List.length_append, List.length_singleton]
        omega
      · rw [if_neg hy, List.append_nil]
        exact hs.length_le y
  · rw [Store.put, if_neg hroom]
    exact hs

theorem IsPacked.change {s : Store} (hs : s.IsPacked) (c : Change) :
    (s.change c).IsPacked ∧ (s.change c).capacity = s.capacity := by
  cases c with
  | add x summary =>
    rw [change_add]
    exact ⟨hs.put x summary, capacity_put s x summary⟩
  | clear => exact ⟨isPacked_of_empty s.capacity, rfl⟩

/-- Whatever is done with a store, it stays packed and keeps its capacity. -/
theorem IsPacked.changeAll {s : Store} (hs : s.IsPacked) (changes : List Change) :
    (s.changeAll changes).IsPacked ∧ (s.changeAll changes).capacity = s.capacity := by
  induction changes generalizing s with
  | nil => exact ⟨hs, rfl⟩
  | cons c changes ih =>
    obtain ⟨hpacked, hcapacity⟩ := hs.change c
    obtain ⟨hrest, hsame⟩ := ih hpacked
    exact ⟨hrest, hsame.trans hcapacity⟩

theorem IsPacked.bounds {s : Store} (hs : s.IsPacked) : s.Bounds (max s.capacity 1) where
  length_le := hs.length_le
  appends := fun x summary hlength => by
    have hroom := (hs.hasRoom_iff x).mpr hlength
    exact ⟨s.put x summary, add_of_hasRoom hroom summary, capacity_put s x summary,
      Recorder.summaries_put summary hroom⟩
  refuses := fun x summary hlength => by
    have hroom : ¬ s.hasRoom x = true := by
      rw [hs.hasRoom_iff]
      omega
    rw [add, if_neg hroom]

/-! ## No other number -/

/-- A summary that says nothing. -/
def blankSummary : Summary :=
  ⟨{ args := [], callee := none, singleThreaded := true }, { args := [] }⟩

/-- Every number of summaries up to the places of a routine is reached. -/
theorem Allows.reaches {capacity n : Nat} (h : Allows capacity n) (x : RoutineId) {k : Nat}
    (hk : k ≤ n) : ∃ changes, ((changeAll { capacity } changes).summaries x).length = k := by
  induction k with
  | zero => exact ⟨[], by simp [changeAll, summaries]⟩
  | succ k ih =>
    obtain ⟨changes, hlength⟩ := ih (by omega)
    obtain ⟨s', hadd, -, happends⟩ := (h changes).2.appends x blankSummary (by omega)
    refine ⟨changes ++ [.add x blankSummary], ?_⟩
    have hchange : changeAll { capacity } (changes ++ [.add x blankSummary]) = s' := by
      rw [changeAll, List.foldl_append, List.foldl_cons, List.foldl_nil, change]
      rw [changeAll] at hadd
      rw [hadd]
    rw [hchange, happends, if_pos rfl, List.length_append, hlength, List.length_singleton]

/-- A routine cannot have two numbers of places. -/
theorem Allows.le {capacity m n : Nat} (hm : Allows capacity m) (hn : Allows capacity n) :
    n ≤ m := by
  refine Nat.le_of_not_lt fun hlt => ?_
  obtain ⟨changes, hlength⟩ := hn.reaches ⟨0⟩ (Nat.le_of_lt hlt)
  obtain ⟨s', hadd, -⟩ := (hn changes).2.appends ⟨0⟩ blankSummary (by omega)
  have hrefused := (hm changes).2.refuses ⟨0⟩ blankSummary (Nat.le_of_eq hlength.symm)
  cases hadd.symm.trans hrefused

theorem allows_max (capacity : Nat) : Allows capacity (max capacity 1) := fun changes => by
  obtain ⟨hpacked, hcapacity⟩ := (isPacked_of_empty capacity).changeAll changes
  have hbounds := hpacked.bounds
  rw [hcapacity] at hbounds
  exact ⟨hcapacity, hbounds⟩

/-- A store gives every routine as many places as its capacity says, but at least one: whatever was
added and cleared, a routine has no more summaries than that, one more is appended at the end of its
list and changes no other routine's as long as they are fewer, and is refused otherwise. -/
theorem allows_iff (capacity n : Nat) : Allows capacity n ↔ n = max capacity 1 := by
  refine ⟨fun h => ?_, fun h => h ▸ allows_max capacity⟩
  exact Nat.le_antisymm ((allows_max capacity).le h) (h.le (allows_max capacity))

/-- A store of capacity zero takes a summary. -/
theorem not_allows_zero :
    ∃ s', ({ capacity := 0 } : Store).add ⟨7⟩ blankSummary = .ok s' ∧
      (s'.summaries ⟨7⟩).length = 1 ∧ ¬ Allows 0 0 := by
  refine ⟨_, rfl, by decide, fun h => ?_⟩
  have hrefused := (h []).2.refuses ⟨7⟩ blankSummary (Nat.zero_le _)
  cases hrefused

end Store

end Reprise
