import Reprise.Proofs.Commit

/-!
# What operations do to all routines

An `Operation` is what is done with a recorder within a run: an event is delivered, frames are
unwound, or the run is finished.  How all routines stand with a recorder is its `Standing`, and
`Standing.Shift` lists everything that one operation can do to it:

    o.Names name kind → r.operate o = .ok r' → r.standing.Shift (r.Fit name kind) r'.standing
                                                                             (shift_operate)

What becomes of a routine in a run is derived from the constructors.
-/

namespace Reprise

open Std

/-! ## Operations -/

/-- What is done with a recorder within a run; every event may come from another host. -/
inductive Operation : Type 1 where
  | event {η : Type} [Host η] (h : η) (e : Event)
  | unwind (depth : Nat)
  | finishRun

namespace Operation

/-- A call that the operation delivers is of a routine of that name and kind. -/
def Names (name : RoutineId → String) (kind : RoutineId → RoutineKind) : Operation → Prop
  | @event _ _host _ (.call i) => i.name = name i.routine ∧ i.kind = kind i.routine
  | _ => True

end Operation

namespace Recorder

/-- The recorder after an operation, whatever the answer; there is none after a `Defect`. -/
def operate (r : Recorder) : Operation → Except Defect Recorder
  | @Operation.event _ _host h e => (r.onEvent h e).map (·.recorder)
  | .unwind depth => .ok (r.unwind depth)
  | .finishRun => .ok r.finishRun

/-- The recorder after one operation after the other. -/
def operateAll (r : Recorder) : List Operation → Except Defect Recorder
  | [] => .ok r
  | o :: rest =>
    match r.operate o with
    | .error defect => .error defect
    | .ok r => r.operateAll rest

theorem onEvent_of_operate {r r' : Recorder} {η : Type} [Host η] {h : η} {e : Event}
    (ho : r.operate (.event h e) = .ok r') :
    ∃ h' answer, r.onEvent h e = .ok ⟨r', h', answer⟩ := by
  cases hevent : r.onEvent h e with
  | error defect =>
    rw [operate, hevent] at ho
    cases ho
  | ok reply =>
    rw [operate, hevent] at ho
    obtain rfl := Except.ok.inj ho
    exact ⟨reply.host, reply.answer, rfl⟩

/-- An event is handled, unless the entry point is still to come. -/
theorem handle_of_operate {r r' : Recorder} {η : Type} [Host η] {h : η} {e : Event}
    (ho : r.operate (.event h e) = .ok r') :
    (r.entered = false ∧ r' = r) ∨
      ∃ h' answer, { r with entered := true }.handle h e = .ok ⟨r', h', answer⟩ := by
  obtain ⟨h', answer, hevent⟩ := onEvent_of_operate ho
  unfold onEvent at hevent
  split at hevent
  · exact .inr ⟨h', answer, hevent⟩
  · rename_i hadmits
    obtain ⟨rfl, -⟩ := Reply.mk.inj (Except.ok.inj hevent)
    exact .inl ⟨by simp_all [admits], rfl⟩

/-- What every operation keeps, a run keeps. -/
theorem operateAll_keeps {P : Recorder → Prop} {allowed : Operation → Prop}
    (hkeeps : ∀ {r o r'}, P r → allowed o → r.operate o = .ok r' → P r') {l : List Operation}
    (hl : ∀ o ∈ l, allowed o) {r r' : Recorder} (hr : P r) (hrun : r.operateAll l = .ok r') :
    P r' := by
  induction l generalizing r with
  | nil => exact Except.ok.inj hrun ▸ hr
  | cons o l ih =>
    rw [operateAll] at hrun
    split at hrun
    · cases hrun
    · rename_i r₁ ho
      have hr₁ := hkeeps hr (hl o List.mem_cons_self) ho
      exact ih (fun o ho => hl o (List.mem_cons_of_mem _ ho)) hr₁ hrun

end Recorder

/-! ## Standings -/

/-- Which routines are being recorded, outermost first, which are full, which are banned, and which
have room for another summary. -/
structure Standing where
  recording : List RoutineId
  recorded : RoutineSet
  blacklist : RoutineSet
  hasRoom : RoutineId → Bool

def Recorder.standing (r : Recorder) : Standing :=
  ⟨r.recordings.map (·.routine), r.recorded, r.blacklist, r.store.hasRoom⟩

namespace Standing

/-- The recording state of a routine. -/
def state (s : Standing) (x : RoutineId) : RecordingState :=
  if x ∈ s.blacklist then .blacklisted
  else if x ∈ s.recording then .recording
  else if x ∈ s.recorded then .recorded
  else .idle

theorem state_eq_idle {s : Standing} {x : RoutineId} :
    s.state x = .idle ↔ x ∉ s.blacklist ∧ x ∉ s.recording ∧ x ∉ s.recorded := by
  by_cases hblacklist : x ∈ s.blacklist <;> by_cases hrecording : x ∈ s.recording <;>
    by_cases hrecorded : x ∈ s.recorded <;> simp [state, *]

theorem state_eq_blacklisted {s : Standing} {x : RoutineId} :
    s.state x = .blacklisted ↔ x ∈ s.blacklist := by
  by_cases hblacklist : x ∈ s.blacklist <;> by_cases hrecording : x ∈ s.recording <;>
    by_cases hrecorded : x ∈ s.recorded <;> simp [state, *]

/-- What an operation does to a standing; `fit` are the routines that can be recorded at all. -/
inductive Shift (fit : RoutineId → Prop) (s : Standing) : Standing → Prop where
  | stays : Shift fit s s
  /-- The open recordings are dropped and their routines stay as they are. -/
  | drops : Shift fit s { s with recording := [] }
  /-- Recordings from one on are discarded, and their routines are banned. -/
  | cuts {kept cut blacklist} (hsplit : s.recording = kept ++ cut)
    (hbanned : ∀ x, x ∈ blacklist ↔ x ∈ s.blacklist ∨ x ∈ cut) :
    Shift fit s { s with recording := kept, blacklist }
  /-- A call bans its routine and the routines of all recordings. -/
  | bans {x blacklist} (hcalled : fit x → x ∉ s.recorded)
    (hbanned : ∀ y, y ∈ blacklist ↔ y ∈ s.blacklist ∨ y ∈ s.recording ∨ y = x) :
    Shift fit s { s with recording := [], blacklist }
  | opens {x} (hfit : fit x) (hidle : s.state x = .idle) :
    Shift fit s { s with recording := s.recording ++ [x] }
  /-- A call of a routine without room. -/
  | fills {x recorded} (hfit : fit x) (hidle : s.state x = .idle) (hroom : s.hasRoom x = false)
    (hfull : ∀ y, y ∈ recorded ↔ y ∈ s.recorded ∨ y = x) : Shift fit s { s with recorded }
  /-- A return bans the routines of deeper recordings and commits the recording before them. -/
  | commits {kept x cut blacklist recorded hasRoom} (hsplit : s.recording = kept ++ x :: cut)
    (hbanned : ∀ y, y ∈ blacklist ↔ y ∈ s.blacklist ∨ y ∈ cut)
    (hfull : ∀ y, y ∈ recorded ↔ y ∈ s.recorded ∨ y = x ∧ hasRoom y = false)
    (hroom : ∀ y, y ≠ x → hasRoom y = s.hasRoom y) :
    Shift fit s ⟨kept, recorded, blacklist, hasRoom⟩

end Standing

/-! ## What the operations do to the standing -/

/-- The recorder that an attempt to replay leaves. -/
def Attempt.recorder {η : Type} : Attempt η → Recorder
  | passed r => r
  | replayed r _ => r
  | refused r _ _ => r

namespace Recorder

open Standing

theorem state_eq (r : Recorder) (x : RoutineId) : r.state x = r.standing.state x := by
  have hrecording : r.isRecording x = true ↔ x ∈ r.standing.recording := by
    simp [isRecording, standing]
  by_cases hx : x ∈ r.standing.recording <;> simp [state, Standing.state, hrecording, hx] <;> rfl

theorem Turns.standing {r r' : Recorder} {l : List Recording} {store : Store}
    (hr : r.Turns r' l store) :
    r'.standing = ⟨l.map (·.routine), r'.recorded, r'.blacklist, store.hasRoom⟩ := by
  rw [Recorder.standing, hr.recordings, hr.store]

/-- Every reaction leaves the configuration as it is. -/
theorem Reaction.turns {η : Type} [Host η] {r r' : Recorder} {h h' : η} {e : Event}
    {answer : Except HostFailure Directive} (hreaction : Reaction r h r' e h' answer) :
    ∃ l store, r.Turns r' l store := by
  cases hreaction <;> exact ⟨_, _, ‹_›⟩

theorem standing_map {r : Recorder} {f : Recording → Recording}
    (hf : ∀ R : Recording, R.SameInvocation (f R)) :
    ({ r with recordings := r.recordings.map f } : Recorder).standing = r.standing := by
  have hroutines : (r.recordings.map f).map (·.routine) = r.recordings.map (·.routine) := by
    rw [List.map_map]
    exact List.map_congr_left fun R _ => (hf R).routine
  simp only [standing, hroutines]

/-- Banning changes nothing but the blacklist, as far as it matters here. -/
theorem recorded_banAll (r : Recorder) (reason : AbortReason) (l : List Recording) :
    (r.banAll reason l).recorded = r.recorded := by
  obtain ⟨_, _, h⟩ := banAll_eq r reason l
  rw [h]

theorem mem_blacklist_banAll (r : Recorder) (reason : AbortReason) (l : List Recording)
    (x : RoutineId) :
    x ∈ (r.banAll reason l).blacklist ↔ x ∈ r.blacklist ∨ x ∈ l.map (·.routine) := by
  induction l generalizing r with
  | nil => simp [banAll]
  | cons R l ih =>
    rw [show r.banAll reason (R :: l) = (r.ban reason R.routine).banAll reason l from rfl, ih]
    simp only [ban, ExtTreeSet.mem_insert, Std.compare_eq_iff_eq, List.map_cons, List.mem_cons]
    rw [eq_comm (a := x), or_assoc, or_left_comm]

theorem mem_recorded_markRecorded (r : Recorder) (x y : RoutineId) :
    y ∈ (r.markRecorded x).recorded ↔ y ∈ r.recorded ∨ y = x := by
  unfold markRecorded
  split
  · rename_i hmem
    exact ⟨.inl, fun hy => hy.elim id (· ▸ hmem)⟩
  · simp only [count, ExtTreeSet.mem_insert, Std.compare_eq_iff_eq]
    rw [or_comm, eq_comm]

theorem blacklist_markRecorded (r : Recorder) (x : RoutineId) :
    (r.markRecorded x).blacklist = r.blacklist := by
  unfold markRecorded
  split <;> rfl

/-- A commit fills the routine if there is no room afterwards. -/
theorem mem_recorded_commit (r : Recorder) (R : Recording) (y : RoutineId) :
    y ∈ (r.commit R).recorded ↔
      y ∈ r.recorded ∨ y = R.routine ∧ (r.store.put R.routine R.summary).hasRoom y = false := by
  unfold commit Store.put Store.add
  by_cases hroom : r.store.hasRoom R.routine = true
  · simp only [if_pos hroom]
    split
    · rename_i hmore
      refine ⟨.inl, fun hy => hy.elim id ?_⟩
      rintro ⟨rfl, hfull⟩
      cases hfull.symm.trans hmore
    · rename_i hfull
      rw [mem_recorded_markRecorded]
      refine or_congr_right ⟨?_, And.left⟩
      rintro rfl
      exact ⟨rfl, Bool.eq_false_iff.mpr hfull⟩
  · simp only [if_neg hroom]
    rw [mem_recorded_markRecorded]
    refine or_congr_right ⟨?_, And.left⟩
    rintro rfl
    exact ⟨rfl, Bool.eq_false_iff.mpr hroom⟩

theorem blacklist_commit (r : Recorder) (R : Recording) :
    (r.commit R).blacklist = r.blacklist := by
  unfold commit
  split
  · exact blacklist_markRecorded r R.routine
  · simp only
    split
    · rfl
    · exact blacklist_markRecorded _ R.routine

variable {fit : RoutineId → Prop}

theorem recorded_unwind (r : Recorder) (depth : Nat) : (r.unwind depth).recorded = r.recorded :=
  recorded_banAll _ _ _

theorem mem_blacklist_unwind (r : Recorder) (depth : Nat) (x : RoutineId) :
    x ∈ (r.unwind depth).blacklist ↔ x ∈ r.blacklist ∨
      x ∈ (r.recordings.dropWhile fun R => decide (R.depth ≤ depth)).map (·.routine) :=
  mem_blacklist_banAll _ _ _ x

/-- The recordings that an unwinding keeps, and those that it cuts off. -/
theorem recording_eq_append (r : Recorder) (depth : Nat) :
    r.standing.recording = (r.shallow depth).map (·.routine) ++
      (r.recordings.dropWhile fun R => decide (R.depth ≤ depth)).map (·.routine) := by
  rw [← List.map_append, shallow, List.takeWhile_append_dropWhile]
  rfl

theorem shift_unwind (r : Recorder) (depth : Nat) :
    r.standing.Shift fit (r.unwind depth).standing := by
  rw [(turns_unwind r depth).standing, recorded_unwind]
  exact .cuts (r.recording_eq_append depth) (r.mem_blacklist_unwind depth)

theorem mem_blacklist_abortCall (r : Recorder) (x : RoutineId) (reason : AbortReason)
    (y : RoutineId) :
    y ∈ (r.abortCall x reason).blacklist ↔ y ∈ r.blacklist ∨ y ∈ r.standing.recording ∨ y = x := by
  simp only [abortCall, abort, ban, ExtTreeSet.mem_insert, Std.compare_eq_iff_eq,
    mem_blacklist_banAll]
  rw [or_comm, or_assoc, eq_comm]
  rfl

theorem shift_abort (r : Recorder) (reason : AbortReason) :
    r.standing.Shift fit (r.abort reason).standing := by
  rw [(turns_abort r reason).standing, abort, recorded_banAll]
  have hsplit : r.standing.recording = [] ++ r.standing.recording := rfl
  exact .cuts hsplit (mem_blacklist_banAll _ _ _)

theorem shift_abortCall (r : Recorder) {x : RoutineId} (reason : AbortReason)
    (hcalled : fit x → x ∉ r.recorded) :
    r.standing.Shift fit (r.abortCall x reason).standing := by
  have hrecorded : (r.abortCall x reason).recorded = r.recorded := recorded_banAll _ _ _
  rw [(turns_abortCall r x reason).standing, hrecorded]
  exact .bans hcalled (r.mem_blacklist_abortCall x reason)

theorem shift_onReturn (r : Recorder) (routine : RoutineId) (depth : Nat) (value : Option Value) :
    r.standing.Shift fit (r.onReturn routine depth value).standing := by
  have hunwind := turns_unwind r depth
  unfold onReturn innermost?
  simp only
  split
  · exact shift_unwind r depth
  · rename_i R hlast
    split
    · -- the recordings are those outside, the one that is committed, and those that are cut off
      obtain ⟨kept, hkept⟩ := List.getLast?_eq_some_iff.mp hlast
      have hsplit := r.recording_eq_append depth
      rw [hunwind.recordings.symm.trans hkept, List.map_append, List.append_assoc] at hsplit
      rw [hkept, List.dropLast_concat]
      generalize hinner : { r.unwind depth with recordings := kept } = inner
      have hrecorded : inner.recorded = r.recorded := by rw [← hinner, recorded_unwind]
      have hstore : inner.store = r.store := by rw [← hinner, ← hunwind.store]
      have hblacklist : inner.blacklist = (r.unwind depth).blacklist := by rw [← hinner]
      have hrecordings : inner.recordings = kept := by rw [← hinner]
      rw [(turns_commit inner (returning R value)).standing, blacklist_commit, hrecordings,
        routine_returning]
      refine .commits hsplit (fun y => ?_) (fun y => ?_) fun y hy => ?_
      · rw [hblacklist, mem_blacklist_unwind]
        rfl
      · rw [mem_recorded_commit, hrecorded, routine_returning]
        rfl
      · rw [hasRoom_put_of_ne _ hy.symm, hstore]
        rfl
    · exact shift_unwind r depth

/-! ### Calls -/

theorem standing_mayAttemptMatch (r : Recorder) (x : RoutineId) :
    (r.mayAttemptMatch x).2.standing = r.standing := by
  unfold mayAttemptMatch
  split
  · rfl
  · split
    · rfl
    · split <;> rfl

variable {η : Type} [Host η]

theorem sameInvocation_absorb (R : Recording) (s : Summary) : R.SameInvocation (R.absorb s) := by
  rw [Recording.absorb_eq_observeAll]
  exact Recording.sameInvocation_observeAll R _

theorem standing_replay (r : Recorder) (h : η) (i : Invocation) (s : Summary) :
    (r.replay h i s).recorder.standing = r.standing := by
  have habsorb := standing_map (r := r) fun R => sameInvocation_absorb R s
  unfold replay
  simp only
  split
  · exact habsorb
  · split <;> exact habsorb

theorem standing_tryReplay {r : Recorder} {h : η} {i : Invocation} {attempt : Attempt η}
    (htry : r.tryReplay h i = .ok attempt) : attempt.recorder.standing = r.standing := by
  have hmay := standing_mayAttemptMatch r i.routine
  unfold tryReplay at htry
  split at htry
  · obtain rfl := Except.ok.inj htry
    rfl
  · split at htry
    · rename_i r₁ heq
      obtain rfl := Except.ok.inj htry
      rwa [heq] at hmay
    · rename_i r₁ heq
      rw [heq] at hmay
      simp only at htry
      split at htry
      · cases htry
      · obtain rfl := Except.ok.inj htry
        exact hmay
      · split at htry
        · obtain rfl := Except.ok.inj htry
          exact (standing_replay _ h i _).trans hmay
        · obtain rfl := Except.ok.inj htry
          exact hmay

theorem shift_executeCall (r : Recorder) (h : η) {i : Invocation} (hfit : fit i.routine)
    (hblacklist : i.routine ∉ r.blacklist) :
    r.standing.Shift fit (r.executeCall h i).standing := by
  unfold executeCall
  split
  · exact .stays
  · rename_i hnew
    simp only [Bool.or_eq_true, decide_eq_true_eq, not_or] at hnew
    have hidle : r.standing.state i.routine = .idle := by
      refine state_eq_idle.mpr ⟨hblacklist, ?_, hnew.1⟩
      simpa [isRecording, standing] using hnew.2
    split
    · exact shift_abortCall r .arraySignature fun _ => hnew.1
    · split
      · rename_i hroom
        rw [(turns_markRecorded r i.routine).standing, blacklist_markRecorded]
        have hfull : r.standing.hasRoom i.routine = false := Bool.not_eq_true' _ ▸ hroom
        exact .fills hfit hidle hfull (mem_recorded_markRecorded r i.routine)
      · have hopen : (r.openRecording h i).standing =
            { r.standing with recording := r.standing.recording ++ [i.routine] } := by
          simp [standing, openRecording, count]
        rw [hopen]
        exact .opens hfit hidle

theorem shift_onCall {r : Recorder} {h : η} {i : Invocation} {reply : Reply η}
    (hfit : fit i.routine ↔ i.kind.isSummarizable = true ∧ r.blocked i.name = false)
    (hcall : r.onCall h i = .ok reply) : r.standing.Shift fit reply.recorder.standing := by
  cases called_onCall hcall with
  | bars hunfit =>
    refine shift_abortCall { r with statistics := r.statistics.recordCall i } _ fun hx => ?_
    obtain ⟨hkind, hname⟩ := hfit.mp hx
    rw [hkind, hname] at hunfit
    simp at hunfit
  | passes => exact .stays
  -- whatever comes of the attempt to replay, the routines stand as before
  | replays _ htry => exact standing_tryReplay htry ▸ .stays
  | refuses _ htry => exact standing_tryReplay htry ▸ .stays
  | @executes r₁ hi htry =>
    have hstanding : r₁.standing = r.standing := standing_tryReplay htry
    have hblacklist : r₁.blacklist = r.blacklist := congrArg Standing.blacklist hstanding
    exact hstanding ▸ shift_executeCall r₁ h (hfit.mpr ⟨hi.summarizable, hi.unblocked⟩)
      (hblacklist ▸ hi.unbanned)

/-! ### Other events -/

theorem shift_onFieldRead (r : Recorder) (h : η) (access : FieldAccess) :
    r.standing.Shift fit (r.onFieldRead h access).standing := by
  unfold onFieldRead
  split
  · exact .stays
  · rename_i R _
    simp only
    split
    · exact shift_abort (r.count R.routine _) _
    · rename_i hproblem
      have hobserve := standing_map (r := r) fun S =>
        Recording.sameInvocation_observe S
          (.read access.field (access.value.narrowedOrSelf access.type))
      exact hobserve.symm ▸ .stays

theorem shift_onFieldWrite {r r' : Recorder} {h : η} {access : FieldAccess}
    (hwrite : r.onFieldWrite h access = .ok r') : r.standing.Shift fit r'.standing := by
  unfold onFieldWrite at hwrite
  split at hwrite
  · obtain rfl := Except.ok.inj hwrite
    exact .stays
  · rename_i R _
    simp only at hwrite
    split at hwrite
    · obtain rfl := Except.ok.inj hwrite
      exact shift_abort (r.count R.routine _) _
    · split at hwrite
      · cases hwrite
      · rename_i w _
        obtain rfl := Except.ok.inj hwrite
        have hobserve := standing_map (r := r) fun S =>
          Recording.sameInvocation_observe S (.write access.field w)
        exact hobserve.symm ▸ .stays

theorem shift_onNativeCall (r : Recorder) (name : String) :
    r.standing.Shift fit (r.onNativeCall name).standing := by
  unfold onNativeCall
  split
  · exact .stays
  · exact shift_abort r _

theorem shift_handle {r : Recorder} {h : η} {e : Event} {reply : Reply η}
    (hfit : ∀ i, e = .call i →
      (fit i.routine ↔ i.kind.isSummarizable = true ∧ r.blocked i.name = false))
    (hhandle : r.handle h e = .ok reply) : r.standing.Shift fit reply.recorder.standing := by
  cases e with
  | call i => exact shift_onCall (hfit i rfl) hhandle
  | returned routine depth value =>
    obtain rfl := Except.ok.inj hhandle
    exact shift_onReturn r routine depth value
  | fieldRead access =>
    obtain rfl := Except.ok.inj hhandle
    exact shift_onFieldRead r h access
  | fieldWrite access =>
    simp only [handle] at hhandle
    split at hhandle
    · cases hhandle
    · rename_i hwrite
      obtain rfl := Except.ok.inj hhandle
      exact shift_onFieldWrite hwrite
  | nativeCall name =>
    obtain rfl := Except.ok.inj hhandle
    exact shift_onNativeCall r name
  | allocation =>
    obtain rfl := Except.ok.inj hhandle
    exact shift_abort r _
  | arrayAccess =>
    obtain rfl := Except.ok.inj hhandle
    exact shift_abort r _
  | interruption what =>
    obtain rfl := Except.ok.inj hhandle
    exact shift_abort r _

/-- The routines that can be recorded, if they are called by these names and as these kinds. -/
def Fit (r : Recorder) (name : RoutineId → String) (kind : RoutineId → RoutineKind)
    (x : RoutineId) : Prop :=
  (kind x).isSummarizable = true ∧ r.blocked (name x) = false

theorem shift_operate {r r' : Recorder} {o : Operation} {name : RoutineId → String}
    {kind : RoutineId → RoutineKind} (hnames : o.Names name kind) (ho : r.operate o = .ok r') :
    r.standing.Shift (r.Fit name kind) r'.standing := by
  cases o with
  | event h e =>
    rcases handle_of_operate ho with ⟨-, rfl⟩ | ⟨h', answer, hhandle⟩
    · exact .stays
    · refine shift_handle (r := { r with entered := true }) ?_ hhandle
      rintro i rfl
      rw [Fit, hnames.1, hnames.2]
  | unwind depth =>
    obtain rfl := Except.ok.inj ho
    exact shift_unwind r depth
  | finishRun =>
    obtain rfl := Except.ok.inj ho
    exact .drops

end Recorder

end Reprise
