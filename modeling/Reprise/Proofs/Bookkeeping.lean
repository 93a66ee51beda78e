import Reprise.Proofs.Accounts

/-!
# What the operations book

Every operation books on the account of each routine what it does to the routine.  The counters of
a routine that was never called cannot be changed, and a routine that was being recorded twice would
still be recorded after one of the recordings is gone; neither happens in a recorder that is
`Orderly`: the open recordings are of different routines, and all of these have been called.
-/

namespace Reprise

open Std

namespace Recorder

variable {r r' : Recorder} {c k : Nat} {x y : RoutineId}

/-- One thing happens to one routine, and nothing to the others. -/
theorem books_at {a b : RoutineId → Account} (hy : Booking (a y) (b y))
    (hrest : ∀ x, x ≠ y → b x = a x) (x : RoutineId) : (a x).Books (b x) := by
  by_cases hx : x = y
  · subst hx
    exact .single hy
  · rw [hrest x hx]

/-- A call is booked on the account of its routine. -/
theorem books_recordCall (r : Recorder) (i : Invocation) (c k : Nat) (x : RoutineId) :
    (r.account c k x).Books
      ({ r with statistics := r.statistics.recordCall i }.account
        (c + if x = i.routine then 1 else 0) k x) := by
  revert x
  refine books_at (y := i.routine) ?_ (fun x hx => ?_)
  · have hcalled : { r with statistics := r.statistics.recordCall i }.account (c + 1) k i.routine =
        { r.account c k i.routine with
          calls := c + 1
          totalCalls := (r.account c k i.routine).totalCalls + 1 } := by
      simp only [account, notes, Statistics.recordCall, ExtTreeMap.getElem?_alter_self]
      cases r.statistics.routines[i.routine]? <;> rfl
    rw [if_pos rfl, hcalled]
    exact .calls
  · have hsame : { r with statistics := r.statistics.recordCall i }.notes x = r.notes x := by
      unfold notes
      simp [Statistics.recordCall, ExtTreeMap.getElem?_alter, Ne.symm hx]
    simp only [if_neg hx, Nat.add_zero, account, hsame]
    rfl

/-! ## Bans -/

theorem notes_ban (reason : AbortReason) (hy : r.Knows y) (x : RoutineId) :
    (r.ban reason y).notes x =
      if x = y then (r.notes x).interrupted reason else r.notes x := by
  rw [notes_update (r := r) rfl hy x]
  split
  · unfold RoutineStatistics.interrupted AbortReason.noted
    split <;> rfl
  · rfl

theorem knows_ban (reason : AbortReason) : (r.ban reason y).Knows x ↔ r.Knows x :=
  knows_update rfl

theorem knows_banAll (reason : AbortReason) (l : List Recording) :
    (r.banAll reason l).Knows x ↔ r.Knows x := by
  induction l generalizing r with
  | nil => exact Iff.rfl
  | cons R l ih => exact ih.trans (knows_ban reason)

theorem notes_banAll (reason : AbortReason) {l : List Recording}
    (hl : ∀ R ∈ l, r.Knows R.routine) (x : RoutineId) :
    (r.banAll reason l).notes x =
      if x ∈ l.map (·.routine) then (r.notes x).interrupted reason else r.notes x := by
  induction l generalizing r with
  | nil => simp [banAll]
  | cons R l ih =>
    have hR := hl R List.mem_cons_self
    have hrest := ih (r := r.ban reason R.routine)
      fun S hS => (knows_ban reason).mpr (hl S (List.mem_cons_of_mem _ hS))
    rw [show r.banAll reason (R :: l) = (r.ban reason R.routine).banAll reason l from rfl, hrest,
      notes_ban reason hR]
    by_cases hxR : x = R.routine
    · have hmem : x ∈ (R :: l).map (·.routine) := hxR ▸ List.mem_cons_self
      rw [if_pos hxR, if_pos hmem, RoutineStatistics.interrupted_interrupted, ite_self]
    · simp [hxR]

/-- The open recordings are of different routines, and all of these have been called. -/
structure Orderly (r : Recorder) : Prop where
  distinct : r.standing.recording.Nodup
  known : ∀ x ∈ r.standing.recording, r.Knows x

/-- A recording that goes leaves none of its routine. -/
theorem Orderly.not_mem_kept (hr : r.Orderly) {kept cut : List RoutineId}
    (hsplit : r.standing.recording = kept ++ cut) (hx : x ∈ cut) : x ∉ kept := by
  have hdistinct := hr.distinct
  rw [hsplit, List.nodup_append] at hdistinct
  intro hmem
  exact hdistinct.2.2 x hmem x hx rfl

/-- The recordings from one on are discarded, and their routines are banned. -/
theorem books_of_cut (hr : r.Orderly) {kept cut : List RoutineId} {reason : AbortReason}
    (hsplit : r.standing.recording = kept ++ cut) (hkept : r'.standing.recording = kept)
    (hstore : r'.store = r.store) (hrecorded : r'.recorded = r.recorded)
    (hblacklist : x ∈ r'.blacklist ↔ x ∈ r.blacklist ∨ x ∈ cut)
    (hnotes : r'.notes x = if x ∈ cut then (r.notes x).interrupted reason else r.notes x) :
    (r.account c k x).Books (r'.account c k x) := by
  by_cases hx : x ∈ cut
  · have hopened : x ∈ r.standing.recording := hsplit ▸ List.mem_append_right _ hx
    have hclosed : x ∉ kept := hr.not_mem_kept hsplit hx
    rw [if_pos hx] at hnotes
    have hcut : r'.account c k x =
        { r.account c k x with
          opened := false, banned := true, reason := reason.noted (r.account c k x).reason } := by
      simp [account, hkept, hclosed, hstore, hrecorded, hblacklist, hx, hnotes,
        RoutineStatistics.interrupted]
    rw [hcut]
    exact .single (.cuts (decide_eq_true hopened))
  · rw [if_neg hx] at hnotes
    have hsame : r'.account c k x = r.account c k x := by
      simp [account, hkept, hsplit, hstore, hrecorded, hblacklist, hx, hnotes]
    rw [hsame]

theorem books_banAll (hr : r.Orderly) {kept cut : List Recording}
    (hsplit : r.recordings = kept ++ cut) (reason : AbortReason) (c k : Nat) (x : RoutineId) :
    (r.account c k x).Books
      (({ r with recordings := kept }.banAll reason cut).account c k x) := by
  have hrecording : r.standing.recording = kept.map (·.routine) ++ cut.map (·.routine) := by
    rw [standing, hsplit, List.map_append]
  have hknown : ∀ R ∈ cut, Knows { r with recordings := kept } R.routine := fun R hR =>
    hr.known _ (hrecording ▸ List.mem_append_right _ (List.mem_map_of_mem hR))
  have hnotes := notes_banAll reason hknown x
  have hblacklist := mem_blacklist_banAll { r with recordings := kept } reason cut x
  have hrecorded := recorded_banAll { r with recordings := kept } reason cut
  obtain ⟨blacklist, statistics, hbanned⟩ := banAll_eq { r with recordings := kept } reason cut
  exact books_of_cut hr hrecording (by rw [hbanned]; rfl) (by rw [hbanned]) hrecorded hblacklist
    hnotes

theorem books_unwind (hr : r.Orderly) (depth c k : Nat) (x : RoutineId) :
    (r.account c k x).Books ((r.unwind depth).account c k x) :=
  books_banAll hr (List.takeWhile_append_dropWhile).symm .unwound c k x

theorem books_abort (hr : r.Orderly) (reason : AbortReason) (c k : Nat) (x : RoutineId) :
    (r.account c k x).Books ((r.abort reason).account c k x) :=
  books_banAll hr (List.nil_append _).symm reason c k x

/-- The call of a routine bans it when no recording is left. -/
theorem books_ban (hnil : r.recordings = []) (hy : r.Knows y) {reason : AbortReason}
    (hreason : reason.isInterruption = false) (c k : Nat) (x : RoutineId) :
    (r.account c k x).Books ((r.ban reason y).account c k x) := by
  have hnotes := notes_ban reason hy
  have hblacklist : ∀ x, x ∈ (r.ban reason y).blacklist ↔ x ∈ r.blacklist ∨ x = y := by
    intro x
    simp only [ban, ExtTreeSet.mem_insert, Std.compare_eq_iff_eq]
    rw [or_comm, eq_comm]
  refine books_at (y := y) ?_ (fun x hx => ?_) x
  · have hbarred : (r.ban reason y).account c k y =
        { r.account c k y with
          banned := true, reason := reason.noted (r.account c k y).reason } := by
      simp only [account, hnotes, if_pos, hblacklist, or_true, decide_true]
      rfl
    rw [hbarred]
    exact .bars (by simp [account, standing, hnil]) hreason
  · simp only [account, hnotes, hblacklist, hx, or_false]
    rfl

theorem knows_abort (reason : AbortReason) : (r.abort reason).Knows x ↔ r.Knows x :=
  knows_banAll reason _

theorem books_abortCall (hr : r.Orderly) (hy : r.Knows y) {reason : AbortReason}
    (hreason : reason.isInterruption = false) (c k : Nat) (x : RoutineId) :
    (r.account c k x).Books ((r.abortCall y reason).account c k x) :=
  (books_abort hr reason c k x).trans
    (books_ban (turns_abort r reason).recordings ((knows_abort reason).mpr hy) hreason c k x)

/-! ## Calls -/

variable {η : Type} [Host η]

/-- Nothing is booked where only misses and what the recordings hold differ. -/
structure SameBooks (r r' : Recorder) : Prop where
  standing : r'.standing = r.standing
  store : r'.store = r.store
  statistics : r'.statistics = r.statistics

theorem SameBooks.notes (h : r.SameBooks r') (x : RoutineId) : r'.notes x = r.notes x := by
  rw [Recorder.notes, h.statistics]
  rfl

theorem SameBooks.knows (h : r.SameBooks r') : r'.Knows x ↔ r.Knows x := by
  rw [Knows, h.statistics]
  exact Iff.rfl

theorem SameBooks.orderly (h : r.SameBooks r') (hr : r.Orderly) : r'.Orderly where
  distinct := h.standing ▸ hr.distinct
  known := fun x hx => h.knows.mpr (hr.known x (h.standing ▸ hx))

theorem SameBooks.account (h : r.SameBooks r') (c k : Nat) (x : RoutineId) :
    r'.account c k x = r.account c k x := by
  have hrecorded : r'.recorded = r.recorded := congrArg Standing.recorded h.standing
  have hblacklist : r'.blacklist = r.blacklist := congrArg Standing.blacklist h.standing
  simp only [Recorder.account, h.standing, h.store, hrecorded, hblacklist, h.notes]

theorem sameBooks_mayAttemptMatch {may : Bool} (hmay : r.mayAttemptMatch x = (may, r')) :
    r.SameBooks r' := by
  obtain rfl := congrArg Prod.snd hmay
  unfold mayAttemptMatch
  split
  · exact ⟨rfl, rfl, rfl⟩
  · split
    · exact ⟨rfl, rfl, rfl⟩
    · split <;> exact ⟨rfl, rfl, rfl⟩

/-- The recorder with another attempt to replay counted. -/
def attempting (r : Recorder) (x : RoutineId) : Recorder :=
  r.count x fun stats => { stats with attemptedMatches := stats.attemptedMatches + 1 }

/-- A failed match is booked. -/
theorem books_miss (hy : r.Knows y) (c k : Nat) (x : RoutineId) :
    (r.account c k x).Books (((r.attempting y).miss y).account c k x) := by
  have hstanding : ((r.attempting y).miss y).standing = r.standing := rfl
  have htwice : ((r.attempting y).miss y).statistics = r.statistics.update y _ :=
    update_update r.statistics y _ _
  rw [account_update hstanding rfl htwice hy]
  split
  · exact .single .misses
  · exact .refl

/-- A replay that succeeds is booked; what the open recordings absorb plays no part. -/
theorem books_replay {h h' : η} {i : Invocation} (hi : r.Knows i.routine)
    {s : Summary} (hreplay : (r.attempting i.routine).replay h i s = .replayed r' h') (c k : Nat)
    (x : RoutineId) :
    (r.account c k x).Books (r'.account c (k + if x = i.routine then 1 else 0) x) := by
  have hstanding : r'.standing = r.standing := by
    have hsame := standing_replay (r.attempting i.routine) h i s
    rw [hreplay] at hsame
    exact hsame
  obtain ⟨hstore, reads, writes, hstatistics⟩ : r'.store = r.store ∧ ∃ reads writes,
      r'.statistics = (r.attempting i.routine).statistics.recordReplay i.routine reads writes := by
    unfold replay at hreplay
    simp only at hreplay
    split at hreplay
    · cases hreplay
    · split at hreplay
      · cases hreplay
      · cases hreplay
        exact ⟨rfl, _, _, rfl⟩
  have htwice : r'.statistics = r.statistics.update i.routine _ :=
    hstatistics.trans (update_update r.statistics i.routine _ _)
  rw [account_update hstanding hstore htwice hi]
  split
  · exact .single .replays
  · exact .refl

/-- What comes of an attempt to replay a call. -/
inductive Tried (r : Recorder) (h : η) (i : Invocation) : Attempt η → Prop where
  | lacks (hnone : r.store.hasSummary i.routine = false) : Tried r h i (.passed r)
  | skips {r₁} (hsome : r.store.hasSummary i.routine = true)
    (hmay : r.mayAttemptMatch i.routine = (false, r₁)) : Tried r h i (.passed r₁)
  | misses {r₁} (hsome : r.store.hasSummary i.routine = true)
    (hmay : r.mayAttemptMatch i.routine = (true, r₁)) :
    Tried r h i (.passed ((r₁.attempting i.routine).miss i.routine))
  | replays {r₁ s} (hsome : r.store.hasSummary i.routine = true)
    (hmay : r.mayAttemptMatch i.routine = (true, r₁)) :
    Tried r h i ((r₁.attempting i.routine).replay h i s)

theorem tried_tryReplay {h : η} {i : Invocation} {attempt : Attempt η}
    (htry : r.tryReplay h i = .ok attempt) : Tried r h i attempt := by
  unfold tryReplay at htry
  split at htry
  · rename_i hnone
    obtain rfl := Except.ok.inj htry
    exact .lacks (by simpa using hnone)
  · rename_i hsome
    have hsome : r.store.hasSummary i.routine = true := by simpa using hsome
    split at htry
    · rename_i r₁ hmay
      obtain rfl := Except.ok.inj htry
      exact .skips hsome hmay
    · rename_i r₁ hmay
      simp only at htry
      split at htry
      · cases htry
      · obtain rfl := Except.ok.inj htry
        exact .misses hsome hmay
      · split at htry
        · obtain rfl := Except.ok.inj htry
          exact .replays hsome hmay
        · obtain rfl := Except.ok.inj htry
          exact .misses hsome hmay

/-- A replay that does not pass is no miss. -/
theorem replay_ne_passed (r r' : Recorder) (h : η) (i : Invocation)
    (s : Summary) : r.replay h i s ≠ .passed r' := by
  unfold replay
  simp only
  split
  · nofun
  · split <;> nofun

/-- A call that is executed has booked nothing, or a miss. -/
theorem books_passed {h : η} {i : Invocation} (hr : r.Orderly)
    (hi : r.Knows i.routine) (htry : r.tryReplay h i = .ok (.passed r')) :
    r'.Orderly ∧ r'.Knows i.routine ∧ ∀ c k x, (r.account c k x).Books (r'.account c k x) := by
  have htried := tried_tryReplay htry
  generalize hattempt : Attempt.passed r' = attempt at htried
  cases htried with
  | lacks =>
    cases hattempt
    exact ⟨hr, hi, fun c k x => .refl⟩
  | skips _ hmay =>
    cases hattempt
    have hsame := sameBooks_mayAttemptMatch hmay
    exact ⟨hsame.orderly hr, hsame.knows.mpr hi, fun c k x => by rw [hsame.account]⟩
  | @misses r₁ _ hmay =>
    cases hattempt
    have hsame := sameBooks_mayAttemptMatch hmay
    have hknows : ∀ {x}, ((r₁.attempting i.routine).miss i.routine).Knows x ↔ r₁.Knows x :=
      (knows_update rfl).trans (knows_update rfl)
    have hr₁ := hsame.orderly hr
    have hi₁ := hsame.knows.mpr hi
    refine ⟨⟨hr₁.distinct, fun x hx => hknows.mpr (hr₁.known x hx)⟩, hknows.mpr hi₁,
      fun c k x => ?_⟩
    rw [← hsame.account]
    exact books_miss hi₁ c k x
  | replays => exact absurd hattempt.symm (replay_ne_passed _ _ _ _ _)

/-- A call that is replayed has booked that. -/
theorem books_replayed {h h' : η} {i : Invocation} (hi : r.Knows i.routine)
    (htry : r.tryReplay h i = .ok (.replayed r' h')) (c k : Nat) (x : RoutineId) :
    (r.account c k x).Books (r'.account c (k + if x = i.routine then 1 else 0) x) := by
  have htried := tried_tryReplay htry
  generalize hattempt : Attempt.replayed r' h' = attempt at htried
  cases htried with
  | lacks => cases hattempt
  | skips => cases hattempt
  | misses => cases hattempt
  | replays _ hmay =>
    have hsame := sameBooks_mayAttemptMatch hmay
    rw [← hsame.account]
    exact books_replay (hsame.knows.mpr hi) hattempt.symm c k x

/-- A routine whose storage is full is booked as such. -/
theorem books_markRecorded (hy : r.Knows y) (c k : Nat) (x : RoutineId) :
    (r.account c k x).Books ((r.markRecorded y).account c k x) := by
  have hrecorded := mem_recorded_markRecorded r y
  unfold markRecorded at hrecorded ⊢
  split
  · exact .refl
  · rename_i hfull
    rw [if_neg hfull] at hrecorded
    generalize hmarked : Recorder.count _ y _ = marked at hrecorded ⊢
    have hupdate : marked.statistics = r.statistics.update y ({ · with recorded := true }) := by
      rw [← hmarked]
      rfl
    have hnotes := notes_update hupdate hy
    refine books_at (y := y) ?_ (fun x hx => ?_) x
    · have hfills : marked.account c k y =
          { r.account c k y with full := true, recorded := true } := by
        simp only [account, hnotes, if_pos, hrecorded, or_true, decide_true]
        rw [← hmarked]
        rfl
      rw [hfills]
      exact .fills
    · simp only [account, hnotes, hrecorded, hx, or_false]
      rw [← hmarked]
      rfl

theorem books_openRecording (h : η) {i : Invocation} (hi : r.Knows i.routine)
    (hclosed : i.routine ∉ r.standing.recording) (hfree : i.routine ∉ r.blacklist) (c k : Nat)
    (x : RoutineId) : (r.account c k x).Books ((r.openRecording h i).account c k x) := by
  have hrecording : (r.openRecording h i).standing.recording =
      r.standing.recording ++ [i.routine] := by
    simp [standing, openRecording, count]
  have hupdate : (r.openRecording h i).statistics = r.statistics.update i.routine fun stats =>
      { stats with recordingsStarted := stats.recordingsStarted + 1 } := rfl
  have hnotes := notes_update hupdate hi
  refine books_at (y := i.routine) ?_ (fun x hx => ?_) x
  · have hopens : (r.openRecording h i).account c k i.routine =
        { r.account c k i.routine with
          opened := true, started := (r.account c k i.routine).started + 1 } := by
      simp only [account, hnotes, if_pos, hrecording, List.mem_append, List.mem_singleton, or_true,
        decide_true]
      rfl
    rw [hopens]
    exact .opens (decide_eq_false hclosed) (decide_eq_false hfree)
  · simp only [account, hnotes, hrecording, List.mem_append, List.mem_singleton, hx, or_false]
    rfl

/-- A call that is executed. -/
theorem books_executeCall (hr : r.Orderly) (h : η) {i : Invocation}
    (hi : r.Knows i.routine) (hfree : i.routine ∉ r.blacklist) (c k : Nat) (x : RoutineId) :
    (r.account c k x).Books ((r.executeCall h i).account c k x) := by
  unfold executeCall
  split
  · exact .refl
  · rename_i hnew
    simp only [Bool.or_eq_true, decide_eq_true_eq, not_or] at hnew
    split
    · exact books_abortCall hr hi rfl c k x
    · split
      · exact books_markRecorded hi c k x
      · refine books_openRecording h hi ?_ hfree c k x
        simpa [isRecording, standing] using hnew.2

/-- A call that is answered books itself, and the replay if a summary was replayed. -/
theorem books_onCall (hr : r.Orderly) {h h' : η} {i : Invocation}
    {d : Directive} (hcall : r.onCall h i = .ok ⟨r', h', .ok d⟩) (c k : Nat) (x : RoutineId) :
    (r.account c k x).Books (r'.account (c + if x = i.routine then 1 else 0)
      (k + if x = i.routine ∧ d = .skipToReturn then 1 else 0) x) := by
  refine (books_recordCall r i c k x).trans ?_
  generalize c + (if x = i.routine then 1 else 0) = c
  have hi : Knows { r with statistics := r.statistics.recordCall i } i.routine :=
    (knows_recordCall r i).mpr (.inl rfl)
  have hr : Orderly { r with statistics := r.statistics.recordCall i } :=
    ⟨hr.distinct, fun x hx => (knows_recordCall r i).mpr (.inr (hr.known x hx))⟩
  have hcalled := called_onCall hcall
  -- the call is booked: from here on only the recorder that has counted it matters
  generalize { r with statistics := r.statistics.recordCall i } = r₁ at hi hr hcalled ⊢
  cases hcalled with
  | bars _ hreason =>
    rw [if_neg (by simp)]
    exact books_abortCall hr hi hreason c k x
  | passes =>
    rw [if_neg (by simp)]
    exact .refl
  | replays _ htry =>
    simp only [and_true]
    exact books_replayed hi htry c k x
  | @executes r₂ heligible htry =>
    obtain ⟨hr₂, hi₂, hbooks⟩ := books_passed hr hi htry
    have hstanding : r₂.standing = r₁.standing := standing_tryReplay htry
    have hblacklist : r₂.blacklist = r₁.blacklist := congrArg Standing.blacklist hstanding
    rw [if_neg (by simp)]
    exact (hbooks c k x).trans (books_executeCall hr₂ h hi₂ (hblacklist ▸ heligible.unbanned) c k x)

/-! ## Returns -/

/-- Recordings are dropped, and their routines stay as they are. -/
theorem books_drop (r : Recorder) (kept : List Recording)
    (hkept : ∀ x ∈ kept.map (·.routine), x ∈ r.standing.recording) (c k : Nat) (x : RoutineId) :
    (r.account c k x).Books ({ r with recordings := kept }.account c k x) := by
  by_cases hx : x ∈ kept.map (·.routine)
  · have hsame : Recorder.account { r with recordings := kept } c k x = r.account c k x := by
      have hopened := hkept x hx
      simp only [account, standing] at hopened ⊢
      simp only [hx, hopened]
      rfl
    rw [hsame]
  · have hdrops : Recorder.account { r with recordings := kept } c k x =
        { r.account c k x with opened := false } := by
      simp only [account, standing, hx, decide_false]
      rfl
    rw [hdrops]
    exact .single .drops

theorem summaries_add {s s' : Store} {summary : Summary} (hadd : s.add y summary = .ok s')
    (x : RoutineId) : s'.summaries x = s.summaries x ++ if x = y then [summary] else [] := by
  unfold Store.add at hadd
  split at hadd
  · rename_i hroom
    obtain rfl := Except.ok.inj hadd
    have hput := summaries_put summary hroom x
    rwa [Store.put, if_pos hroom] at hput
  · cases hadd

/-- The summary of the innermost recording is stored. -/
theorem books_of_commit (hr : r.Orderly) {kept : List RoutineId} {summary : Summary}
    (hsplit : r.standing.recording = kept ++ [y]) (hkept : r'.standing.recording = kept)
    (hstored : ∀ x, r'.store.summaries x =
      r.store.summaries x ++ if x = y then [summary] else [])
    (hrecorded : r'.recorded = r.recorded) (hblacklist : r'.blacklist = r.blacklist)
    (hnotes : ∀ x, r'.notes x = if x = y then
      { r.notes x with summariesCommitted := (r.notes x).summariesCommitted + 1 } else r.notes x)
    (c k : Nat) (x : RoutineId) : (r.account c k x).Books (r'.account c k x) := by
  refine books_at (y := y) ?_ (fun x hx => ?_) x
  · have hclosed : y ∉ kept := hr.not_mem_kept hsplit List.mem_cons_self
    have hcommits : r'.account c k y =
        { r.account c k y with
          opened := false
          stored := (r.account c k y).stored + 1
          committed := (r.account c k y).committed + 1 } := by
      simp [account, hkept, hclosed, hstored, hrecorded, hblacklist, hnotes]
    rw [hcommits]
    exact .commits (decide_eq_true (by simp [hsplit]))
  · simp [account, hkept, hsplit, hstored, hrecorded, hblacklist, hnotes, hx]

/-- A recording that is finished is booked, whether or not its summary is stored. -/
theorem books_commit (hr : r.Orderly) {kept : List Recording} {R S : Recording}
    (hsplit : r.recordings = kept ++ [R]) (hroutine : S.routine = R.routine) (c k : Nat)
    (x : RoutineId) :
    (r.account c k x).Books (({ r with recordings := kept }.commit S).account c k x) := by
  have hrecording : r.standing.recording = kept.map (·.routine) ++ [S.routine] := by
    rw [standing, hsplit, List.map_append, hroutine]
    rfl
  have hknown : r.Knows S.routine := hr.known _ (by simp [hrecording])
  unfold commit
  split
  · -- there is no room: the recording is dropped, and the routine is full
    have hdrops := r.books_drop kept (fun x hx => by simp [hrecording, hx]) c k x
    exact hdrops.trans (books_markRecorded (r := { r with recordings := kept }) hknown c k x)
  · rename_i store hadd
    simp only
    generalize hcommitted : Recorder.count _ S.routine _ = committed
    have hupdate : committed.statistics = r.statistics.update S.routine fun stats =>
        { stats with summariesCommitted := stats.summariesCommitted + 1 } := by
      rw [← hcommitted]
      rfl
    have hstored : committed.store = store := by rw [← hcommitted]; rfl
    have hcommits : (r.account c k x).Books (committed.account c k x) := by
      refine books_of_commit hr hrecording ?_ (hstored ▸ summaries_add hadd) ?_ ?_
        (notes_update hupdate hknown) c k x
      all_goals
        rw [← hcommitted]
        rfl
    split
    · exact hcommits
    · exact hcommits.trans (books_markRecorded ((knows_update hupdate).mpr hknown) c k x)

theorem orderly_unwind (hr : r.Orderly) (depth : Nat) : (r.unwind depth).Orderly := by
  have hrecording : (r.unwind depth).standing.recording = (r.shallow depth).map (·.routine) := by
    rw [standing, (turns_unwind r depth).recordings]
  have hsublist : ((r.shallow depth).map (·.routine)).Sublist r.standing.recording :=
    (List.takeWhile_sublist _).map _
  constructor
  · rw [hrecording]
    exact hsublist.nodup hr.distinct
  · intro x hx
    rw [hrecording] at hx
    exact (knows_banAll _ _).mpr (hr.known x (hsublist.subset hx))

/-- What a return books. -/
theorem books_onReturn (hr : r.Orderly) (routine : RoutineId) (depth : Nat) (value : Option Value)
    (c k : Nat) (x : RoutineId) :
    (r.account c k x).Books ((r.onReturn routine depth value).account c k x) := by
  have hunwinds := books_unwind hr depth c k x
  have hr := orderly_unwind hr depth
  unfold onReturn innermost?
  simp only
  generalize r.unwind depth = r at hunwinds hr
  split
  · exact hunwinds
  · rename_i R hlast
    split
    · obtain ⟨kept, hkept⟩ := List.getLast?_eq_some_iff.mp hlast
      rw [hkept, List.dropLast_concat]
      exact hunwinds.trans (books_commit hr hkept (routine_returning R value) c k x)
    · exact hunwinds

/-! ## All operations -/

theorem sameBooks_observe (r : Recorder) (a : Access) :
    r.SameBooks { r with recordings := r.recordings.map (·.observe a) } :=
  ⟨standing_map fun R => Recording.sameInvocation_observe R a, rfl, rfl⟩

/-- Reads and writes are counted, but not booked. -/
theorem books_counted (hr : r.Orderly) {f : RoutineStatistics → RoutineStatistics}
    (hf : ∀ (a : Account) stats, a.noting (f stats) = a.noting stats) {R : Recording}
    (hR : r.innermost? = some R) :
    (r.count R.routine f).Orderly ∧
      ∀ c k x, (r.account c k x).Books ((r.count R.routine f).account c k x) := by
  have hopened : R.routine ∈ r.standing.recording :=
    List.mem_map_of_mem (List.mem_of_getLast? hR)
  have hknown := hr.known _ hopened
  have hstanding : (r.count R.routine f).standing = r.standing := rfl
  refine ⟨⟨hr.distinct, fun x hx => (knows_update rfl).mpr (hr.known x hx)⟩, fun c k x => ?_⟩
  rw [account_update hstanding rfl rfl hknown]
  split
  · rw [hf]
    exact .refl
  · exact .refl

theorem books_onFieldRead (hr : r.Orderly) (h : η) (access : FieldAccess)
    (c k : Nat) (x : RoutineId) :
    (r.account c k x).Books ((r.onFieldRead h access).account c k x) := by
  unfold onFieldRead
  split
  · exact .refl
  · rename_i R hlast
    have hcounted := books_counted (f := fun stats =>
      { stats with readCount := stats.readCount + 1 }) hr (fun _ _ => rfl) hlast
    generalize r.count R.routine _ = counted at hcounted ⊢
    obtain ⟨horderly, hcounts⟩ := hcounted
    simp only
    split
    · exact (hcounts c k x).trans (books_abort horderly _ c k x)
    · have hsame := sameBooks_observe counted
        (.read access.field (access.value.narrowedOrSelf access.type))
      exact hsame.account c k x ▸ hcounts c k x

theorem books_onFieldWrite (hr : r.Orderly) {h : η} {access : FieldAccess}
    (hwrite : r.onFieldWrite h access = .ok r') (c k : Nat) (x : RoutineId) :
    (r.account c k x).Books (r'.account c k x) := by
  unfold onFieldWrite at hwrite
  split at hwrite
  · obtain rfl := Except.ok.inj hwrite
    exact .refl
  · rename_i R hlast
    have hcounted := books_counted (f := fun stats =>
      { stats with writeCount := stats.writeCount + 1 }) hr (fun _ _ => rfl) hlast
    generalize r.count R.routine _ = counted at hcounted hwrite
    obtain ⟨horderly, hcounts⟩ := hcounted
    simp only at hwrite
    split at hwrite
    · obtain rfl := Except.ok.inj hwrite
      exact (hcounts c k x).trans (books_abort horderly _ c k x)
    · split at hwrite
      · cases hwrite
      · rename_i w _
        obtain rfl := Except.ok.inj hwrite
        have hsame := sameBooks_observe counted (.write access.field w)
        exact hsame.account c k x ▸ hcounts c k x

theorem books_onNativeCall (hr : r.Orderly) (name : String) (c k : Nat) (x : RoutineId) :
    (r.account c k x).Books ((r.onNativeCall name).account c k x) := by
  unfold onNativeCall
  split
  · exact .refl
  · exact books_abort hr _ c k x

end Recorder

end Reprise
