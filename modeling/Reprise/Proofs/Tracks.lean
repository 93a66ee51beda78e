import Mathlib.Data.List.TakeWhile
import Reprise.Proofs.Follows

/-!
# What a recorder keeps while it watches a machine

`Tracks p h frames r` says that everything the recorder `r` holds is true of the heap and the frames
of the machine it watches: every stored summary is sound, and every open recording says how the
frames from its depth on came to be.  Every event of the machine is handled without a failure and
keeps this: those of the instructions within a frame (`Tracks.hears`), calls (`Tracks.called`) and
returns (`Tracks.returned`).  If a call is replayed, the machine is taken to the heap that the call
would have left, and the recorder goes on as if the frame the call ends in stood there.
-/

namespace Reprise

open Recorder

/-! ## What the recorder is told -/

section

variable {p : Program} {routine : RoutineId} {leaves : Option Value → Prop}
  {look : Heap → Except ExecutionFailure Action} {h h' : Heap} {f : Frame} {e : Event}

theorem observable_of_isUnseen (he : e.isUnseen = true) : e.IsObservable := by
  cases e with
  | call i => cases he
  | fieldWrite access => cases he
  | _ => trivial

theorem Deed.observable {printed : Option String}
    (hd : Deed p routine leaves look h (.proceed h' f (some e) printed)) : e.IsObservable := by
  cases hd with
  | quiet _ he =>
    obtain ⟨name, rfl⟩ := he _ rfl
    trivial
  | reads => trivial
  | writes _ _ hv => exact hv
  | unseen _ he => exact observable_of_isUnseen he

theorem Deed.observable_failing {failure : ExecutionFailure}
    (hd : Deed p routine leaves look h (.failAfter e failure)) : e.IsObservable := by
  cases hd with
  | fails he =>
    rcases he with ⟨name, rfl⟩ | he
    · trivial
    · exact observable_of_isUnseen he

/-- No recording is open after what no recording can hold. -/
theorem turns_of_isUnseen {η : Type} [Host η] {r r' : Recorder} {h h' : η}
    {answer : Except HostFailure Directive} (hreaction : Reaction r h r' e h' answer)
    (he : e.isUnseen = true) : r.Turns r' [] r.store := by
  cases hreaction with
  | discards _ hr => exact hr
  | _ => cases he

end

/-! ## What the recorder holds -/

/-- Every summary of the store is sound. -/
def Store.IsSound (s : Store) (p : Program) (h : Heap) : Prop :=
  ∀ id, ∀ summary ∈ s.summaries id, ∃ r last, summary.Sound p r id h last

theorem Store.isSound_of_empty {s : Store} {p : Program} {h : Heap} (hs : s.entries = ∅) :
    s.IsSound p h := by
  intro id summary hmem
  simp [Store.summaries, hs] at hmem

theorem Store.IsSound.viable {s : Store} {p : Program} {h : Heap} (hs : s.IsSound p h) :
    s.IsViable p h := fun id summary hmem =>
  (hs id summary hmem).imp fun _ ⟨_, hsound⟩ => hsound.viable

theorem Store.IsSound.mono {s : Store} {p : Program} {h h' : Heap} (hs : s.IsSound p h)
    (hh : h.Extends h') : s.IsSound p h' := by
  intro id summary hmem
  obtain ⟨r, last, hsound⟩ := hs id summary hmem
  exact ⟨r, last, hsound.mono hh⟩

theorem Store.IsSound.put {s : Store} {p : Program} {h : Heap} (hs : s.IsSound p h)
    {routine : RoutineId} {summary : Summary}
    (hsummary : ∃ r last, summary.Sound p r routine h last) :
    (s.put routine summary).IsSound p h := by
  intro id other hmem
  rcases Recorder.mem_summaries_put hmem with hmem | ⟨rfl, rfl⟩
  · exact hs id other hmem
  · exact hsummary

/-- The recordings say how the frames came to be, and the stored summaries are sound. -/
structure Tracked (p : Program) (h : Heap) (frames : List Frame) (l : List Recording)
    (store : Store) : Prop where
  stored : store.IsSound p h
  follows : ∀ R ∈ l, ∃ r top bottom, frames = top ++ bottom ∧ bottom.length + 1 = R.depth ∧
    Follows p r h top R
  ascending : l.Pairwise fun R S => R.depth < S.depth

namespace Tracked

variable {p : Program} {h h' : Heap} {frames fs : List Frame} {l : List Recording} {store : Store}

theorem nil (hs : store.IsSound p h) : Tracked p h frames [] store :=
  ⟨hs, by simp, .nil⟩

theorem depth_le (ht : Tracked p h frames l store) {R : Recording} (hR : R ∈ l) :
    R.depth ≤ frames.length := by
  obtain ⟨r, top, bottom, rfl, hdepth, hfollows⟩ := ht.follows R hR
  have := List.length_pos_iff.mpr hfollows.ne_nil
  rw [List.length_append]
  omega

/-- Every recording sees the innermost frame. -/
theorem follows_innermost {f : Frame} (ht : Tracked p h (f :: fs) l store) {R : Recording}
    (hR : R ∈ l) : ∃ r rest bottom, fs = rest ++ bottom ∧ bottom.length + 1 = R.depth ∧
      Follows p r h (f :: rest) R := by
  obtain ⟨r, top, bottom, hframes, hdepth, hfollows⟩ := ht.follows R hR
  cases top with
  | nil => exact absurd rfl hfollows.ne_nil
  | cons f' rest =>
    obtain ⟨rfl, hfs⟩ := List.cons.inj hframes
    exact ⟨r, rest, bottom, hfs, hdepth, hfollows⟩

/-- The recording of the innermost frame says how that frame came to be. -/
theorem follows_top {f : Frame} (ht : Tracked p h (f :: fs) l store) {R : Recording} (hR : R ∈ l)
    (hdepth : R.depth = fs.length + 1) : ∃ r, Follows p r h [f] R := by
  obtain ⟨r, rest, bottom, rfl, hbottom, hfollows⟩ := ht.follows_innermost hR
  rw [List.length_append] at hdepth
  obtain rfl : rest = [] := List.length_eq_zero_iff.mp (by omega)
  exact ⟨r, hfollows⟩

/-- The innermost frame is replaced by some frames, and every recording notes what happened. -/
theorem replace {f : Frame} (ht : Tracked p h (f :: fs) l store) (new : List Frame)
    (hh : h.Extends h') (note : Recording → Recording)
    (hnote : ∀ R : Recording, R.SameInvocation (note R))
    (hfollows : ∀ r rest R, Follows p r h (f :: rest) R → Follows p r h' (new ++ rest) (note R)) :
    Tracked p h' (new ++ fs) (l.map note) store := by
  refine ⟨ht.stored.mono hh, fun S hS => ?_, List.pairwise_map.mpr (ht.ascending.imp ?_)⟩
  · obtain ⟨R, hR, rfl⟩ := List.mem_map.mp hS
    obtain ⟨r, rest, bottom, rfl, hdepth, hf⟩ := ht.follows_innermost hR
    exact ⟨r, new ++ rest, bottom, (List.append_assoc ..).symm, by rw [hdepth, (hnote R).depth],
      hfollows r rest R hf⟩
  · intro R S hRS
    rwa [(hnote R).depth, (hnote S).depth]

/-- A move that does not look at fields is one that no recording has to note. -/
theorem moves {f : Frame} (ht : Tracked p h (f :: fs) l store) (new : List Frame)
    (hnew : ∃ g, new.getLast? = some g ∧ g.routine = f.routine)
    (hmove : ∀ k rest, h.Extends k → Moves p k (f :: rest) k (new ++ rest)) :
    Tracked p h (new ++ fs) l store := by
  have := ht.replace new (.refl h) id Recording.SameInvocation.refl fun q rest R hR =>
    hR.moves (hR.outermost_replace new hnew) fun k hk => hmove k rest hk
  rwa [List.map_id] at this

/-- If the innermost frame is not recorded, all recordings are of frames further out. -/
theorem depth_lt {f : Frame} (ht : Tracked p h (f :: fs) l store)
    (hlast : ∀ R ∈ l.getLast?, R.isFor f.routine (fs.length + 1) = false) {R : Recording}
    (hR : R ∈ l) : R.depth < fs.length + 1 := by
  rcases List.eq_nil_or_concat l with hnil | ⟨outer, T, hsplit⟩
  · rw [hnil] at hR
    cases hR
  · rw [List.concat_eq_append] at hsplit
    have hT : T ∈ l := by simp [hsplit]
    have hnot : T.depth ≠ fs.length + 1 := by
      intro hdepth
      obtain ⟨q, hfollows⟩ := ht.follows_top hT hdepth
      obtain ⟨g, hg, hroutine⟩ := hfollows.outermost
      obtain rfl : f = g := Option.some.inj hg
      have := hlast T (by simp [hsplit])
      simp [Recording.isFor, hroutine, hdepth] at this
    have hle : T.depth ≤ fs.length + 1 := ht.depth_le hT
    have hascending := ht.ascending
    rw [hsplit, List.pairwise_append] at hascending
    rw [hsplit] at hR
    rcases List.mem_append.mp hR with hR | hR
    · have := hascending.2.2 R hR T (by simp)
      omega
    · rw [List.mem_singleton.mp hR]
      omega

/-- The innermost frame is left, and the recordings of frames further out see it go. -/
theorem finish {f : Frame} {v : Option Value} (ht : Tracked p h (f :: fs) l store)
    (hleaves : f.Leaves p h v) {outer : List Recording} (houter : outer.Sublist l)
    (hdepth : ∀ R ∈ outer, R.depth < fs.length + 1) {store' : Store}
    (hstored : store'.IsSound p h) : Tracked p h (deliverTo v fs) outer store' := by
  refine ⟨hstored, fun R hR => ?_, ht.ascending.sublist houter⟩
  obtain ⟨q, rest, bottom, rfl, hbottom, hfollows⟩ := ht.follows_innermost (houter.mem hR)
  have hlt := hdepth R hR
  cases rest with
  | nil =>
    rw [List.nil_append] at hlt
    omega
  | cons g rest =>
    exact ⟨q, deliverTo v (g :: rest), bottom, rfl, hbottom, hfollows.finish hleaves⟩

end Tracked

/-- Everything that the recorder holds is true. -/
structure Tracks (p : Program) (h : Heap) (frames : List Frame) (r : Recorder) : Prop where
  idle : r.entered = false → r.recordings = []
  tracked : Tracked p h frames r.recordings r.store

namespace Tracks

variable {p : Program} {h h' : Heap} {frames fs : List Frame} {r r' : Recorder}

/-- A recorder without recordings has only its store to answer for. -/
theorem of_nil (hnil : r.recordings = []) (hs : r.store.IsSound p h) : Tracks p h frames r :=
  ⟨fun _ => hnil, hnil ▸ .nil hs⟩

theorem of_turns {l : List Recording} {s : Store} (hr : r.Turns r' l s)
    (hentered : r.entered = true) (ht : Tracked p h frames l s) : Tracks p h frames r' :=
  { idle := fun hnot => by
      rw [hr.entered, hentered] at hnot
      cases hnot
    tracked := by rwa [hr.recordings, hr.store] }

theorem of_discards (hr : r.Turns r' [] r.store) (hs : r.store.IsSound p h) :
    Tracks p h frames r' :=
  of_nil hr.recordings (by rwa [hr.store])

/-! ## Events within a frame -/

/-- An instruction of which the recorder is not told does not look at fields. -/
theorem unheard {f f' : Frame} {printed : Option String} (ht : Tracks p h (f :: fs) r)
    (hd : Deed p f.routine (p.Returns f.routine) (f.next p 0) h (.proceed h' f' none printed)) :
    Tracks p h' (f' :: fs) r := by
  cases hd with
  | quiet hf _ hlook =>
    exact ⟨ht.idle, ht.tracked.moves [f'] ⟨f', rfl, hf⟩ fun k _ hk => .within (hlook k hk)⟩

/-- The event of an instruction is handled, and what the recorder holds stays true. -/
theorem hears {f f' : Frame} {e : Event} {printed : Option String}
    (ht : Tracks p h (f :: fs) r) (hh : h.Typed)
    (hd : Deed p f.routine (p.Returns f.routine) (f.next p 0) h (.proceed h' f' (some e) printed))
    (stack : List Value) :
    ∃ r', r.onEvent (FrameView.mk h' stack) e = .ok ⟨r', ⟨h', stack⟩, .ok .proceed⟩ ∧
      Tracks p h' (f' :: fs) r' := by
  have hstored := ht.tracked.stored.mono hd.becomes.grows
  obtain ⟨r', hevent, hobserves⟩ := r.observes hd.observable (FrameView.mk h' stack)
  refine ⟨r', hevent, ?_⟩
  cases hobserves with
  | ignores hentered => exact of_nil (ht.idle hentered) hstored
  | reacts hentered hreaction =>
    cases hd with
    | quiet hf he hlook =>
      obtain ⟨name, rfl⟩ := he _ rfl
      cases hreaction with
      | discards _ hr => exact of_discards hr hstored
      | passesNative _ hr =>
        exact of_turns hr hentered
          (ht.tracked.moves [f'] ⟨f', rfl, hf⟩ fun k _ hk => .within (hlook k hk))
    | reads hf hslot hlook =>
      cases hreaction with
      | discards _ hr => exact of_discards hr hstored
      | reads _ hr =>
        refine of_turns hr hentered ?_
        rw [Value.narrowedOrSelf, Value.narrowedTo_self (hh _ _ hslot), Option.getD_some]
        exact ht.tracked.replace [f'] (.refl h) _
          (fun R => Recording.sameInvocation_observe R _)
          fun q rest R hR => hR.reads hf hslot fun k hk hk' => .within (hlook k hk hk')
    | writes hf hfield hv hlook =>
      cases hreaction with
      | discards _ hr => exact of_discards hr hstored
      | @writes _ w hproblem hcheck hr =>
        refine of_turns hr hentered ?_
        obtain ⟨w', hok, rfl, rfl⟩ := check_eq_ok hproblem hv
        obtain rfl := Except.ok.inj (hok.symm.trans hcheck)
        exact ht.tracked.replace [f'] (Heap.becomes_putSlot hfield hv).grows _
          (fun R => Recording.sameInvocation_observe R _)
          fun q rest R hR => hR.writes hf hfield fun k hk => .within (hlook k hk)
    | unseen _ he => exact of_discards (turns_of_isUnseen hreaction he) hstored

/-- An instruction that fails is announced too. -/
theorem hears_failing {f : Frame} {e : Event} {failure : ExecutionFailure}
    (ht : Tracks p h (f :: fs) r)
    (hd : Deed p f.routine (p.Returns f.routine) (f.next p 0) h (.failAfter e failure))
    (stack : List Value) :
    ∃ r', r.onEvent (FrameView.mk h stack) e = .ok ⟨r', ⟨h, stack⟩, .ok .proceed⟩ ∧
      Tracks p h (f :: fs) r' := by
  obtain ⟨r', hevent, hobserves⟩ := r.observes hd.observable_failing (FrameView.mk h stack)
  refine ⟨r', hevent, ?_⟩
  cases hobserves with
  | ignores => exact ht
  | reacts hentered hreaction =>
    cases hd with
    | fails he =>
      rcases he with ⟨name, rfl⟩ | he
      · cases hreaction with
        | discards _ hr => exact of_discards hr ht.tracked.stored
        | passesNative _ hr => exact of_turns hr hentered ht.tracked
      · exact of_discards (turns_of_isUnseen hreaction he) ht.tracked.stored

/-! ## Returns -/

/-- A frame is left, and the recording of its invocation, if there is one, becomes a summary. -/
theorem returned {f : Frame} {v : Option Value} (ht : Tracks p h (f :: fs) r)
    (hleaves : f.Leaves p h v) (hv : p.Returns f.routine v) (stack : List Value) :
    ∃ r', r.onEvent (FrameView.mk h stack) (.returned f.routine (fs.length + 1) v) =
        .ok ⟨r', ⟨h, stack⟩, .ok .proceed⟩ ∧
      Tracks p h (deliverTo v fs) r' := by
  obtain ⟨r', hevent, hobserves⟩ :=
    r.observes (e := .returned f.routine (fs.length + 1) v) trivial (FrameView.mk h stack)
  refine ⟨r', hevent, ?_⟩
  cases hobserves with
  | ignores hentered => exact of_nil (ht.idle hentered) ht.tracked.stored
  | reacts hentered hreaction =>
    -- no recording is deeper than the frames
    have hshallow : r.shallow (fs.length + 1) = r.recordings :=
      List.takeWhile_eq_self_iff.mpr fun R hR => decide_eq_true (ht.tracked.depth_le hR)
    cases hreaction with
    | discards hevent => exact absurd rfl (hevent _ _ _)
    | returns hlast hr =>
      rw [hshallow] at hr hlast
      exact of_turns hr hentered (ht.tracked.finish hleaves (.refl _)
        (fun R hR => ht.tracked.depth_lt hlast hR) ht.tracked.stored)
    | @commits _ _ _ outer R hlast hfor hr =>
      rw [hshallow] at hlast
      obtain ⟨hroutine, hdepth⟩ := isFor_iff.mp hfor
      obtain ⟨q, hfollows⟩ := ht.tracked.follows_top (by simp [hlast]) hdepth
      have hascending := ht.tracked.ascending
      rw [hlast, List.pairwise_append] at hascending
      refine of_turns hr hentered (ht.tracked.finish hleaves ?_ (fun S hS => ?_)
        (ht.tracked.stored.put ⟨q, f, hroutine ▸ hfollows.sound hleaves hv⟩))
      · rw [hlast]
        exact List.sublist_append_left outer [R]
      · rw [← hdepth]
        exact hascending.2.2 S hS R (by simp)

/-! ## Calls -/

/-- The heap of the host has the values that a summary tracks which describes a call there. -/
theorem holds_of_describes {s : Summary} {stack : List Value} {i : Invocation}
    (hs : s.Describes (FrameView.mk h stack) i) : h.Holds s.precondition.tracked := by
  intro f v hv
  obtain ⟨slot, hslot, rfl⟩ := Option.map_eq_some_iff.mp (hs.fields f v hv)
  exact ⟨slot.type, hslot⟩

end Tracks

/-- How a recorder answers a call whose frame is `start`: it is executed, or the heap is taken to
what the call leaves there, and its return value is put on the stack. -/
inductive Answers (p : Program) (q : Routine) (id : RoutineId) (h : Heap) (start : Frame)
    (fs : List Frame) : Recorder → Heap → List Value → Directive → Prop where
  | executes {r} (ht : Tracks p h (start :: fs) r) :
    Answers p q id h start fs r h [] .proceed
  | skips {r h' last v stack} (hh : h.Becomes h') (hreaches : Reaches p h [start] h' [last])
    (hlast : last.Leaves p h' v) (hends : last.routine = id) (hreturns : p.Returns id v)
    (hskipped : ∀ f : Frame, f.routine = id → q.finalReturn? = some f.pc → f.stack = stack →
      f.Leaves p h' v)
    (ht : Tracks p h' (last :: fs) r) :
    Answers p q id h start fs r h' stack .skipToReturn

namespace Tracks

variable {p : Program} {h h' : Heap} {frames fs : List Frame} {r r' : Recorder}

/-- The summary that a call finds is sound and holds. -/
theorem sound_of_find {q : Routine} {id : RoutineId} {callee : Option ObjectId}
    (hq : p.routine? id = some q) (hcallee : callee.isSome = q.hasReceiver)
    (hstored : r.store.IsSound p h) {args stack : List Value} {s : Summary}
    (hfind : r.store.find (FrameView.mk h stack) id callee args h.isSingleThreaded =
      .ok (some s)) :
    ∃ last, s.Sound p q id h last ∧ h.Holds s.precondition.tracked ∧
      s.precondition.start id q = Machine.calleeFrame id q callee args := by
  obtain ⟨found, hfound, holdest⟩ :=
    hstored.viable.find (FrameView.mk h stack) (i := q.invocation id callee args 0) hq hcallee
  have hs := (holdest s).mp (Except.ok.inj (hfound.symm.trans hfind))
  obtain ⟨q', last, hlast⟩ := hstored id s hs.mem
  obtain rfl := Option.some.inj (hq.symm.trans hlast.routine)
  refine ⟨last, hlast, holds_of_describes hs.describes, ?_⟩
  rw [Precondition.start, hs.describes.callee, hs.describes.args]
  rfl

/-- The frame of a call is recorded from its start. -/
theorem opens {q : Routine} {id : RoutineId} {callee : Option ObjectId} {args : List Value}
    {l : List Recording} {store : Store}
    (ht : Tracked p h (Machine.calleeFrame id q callee args :: fs) l store)
    (hdepth : ∀ R ∈ l, R.depth ≤ fs.length) (hq : p.routine? id = some q)
    (hcallee : callee.isSome = q.hasReceiver)
    (hsignature : (q.invocation id callee args (fs.length + 1)).hasArraySignature = false)
    (singleThreaded : Bool) :
    Tracked p h (Machine.calleeFrame id q callee args :: fs)
      (l ++ [.ofInvocation (q.invocation id callee args (fs.length + 1)) singleThreaded])
      store := by
  refine ⟨ht.stored, ?_, List.pairwise_append.mpr ⟨ht.ascending, List.pairwise_singleton _ _, ?_⟩⟩
  · intro R hR
    rcases List.mem_append.mp hR with hR | hR
    · exact ht.follows R hR
    · obtain rfl := List.mem_singleton.mp hR
      exact ⟨q, [_], fs, rfl, rfl, .ofInvocation hq hcallee hsignature _⟩
  · intro R hR S hS
    obtain rfl := List.mem_singleton.mp hS
    exact Nat.lt_succ_of_le (hdepth R hR)

/-- A summary that is sound and holds takes the place of the call. -/
theorem answers_of_replay {q : Routine} {id : RoutineId} {last : Frame} {s : Summary}
    (hs : s.Sound p q id h last) (hholds : h.Holds s.precondition.tracked)
    (hentered : r.entered = true)
    (ht : Tracked p h (s.precondition.start id q :: fs) r.recordings r.store) {host : FrameView}
    (hpush : pushResult (s.effect.apply (FrameView.mk h [])).host q.returns s = .ok host)
    (hr : r.Turns r' (r.recordings.map (·.absorb s)) r.store) :
    Answers p q id h (s.precondition.start id q) fs r' host.heap host.stack .skipToReturn := by
  have hbecomes := Heap.becomes_overwrite hs.fits
  obtain ⟨stack, hpushed, hskipped⟩ := hs.pushResult (h.overwrite s.effect.writes)
  rw [apply_frameView [] hs.fits] at hpush
  obtain rfl := Except.ok.inj (hpushed.symm.trans hpush)
  refine .skips hbecomes (hs.carries h (.refl h) hholds)
    (fun k hk => hs.finish k (hbecomes.grows.trans hk)) hs.ends hs.returns hskipped ?_
  refine of_turns hr hentered (ht.replace [last] hbecomes.grows _ (fun R => ?_)
    fun _ rest R hR => hR.absorb hs hholds)
  rw [Recording.absorb_eq_observeAll]
  exact Recording.sameInvocation_observeAll R _

/-- A call past the entry point is answered. -/
theorem handles_call {q : Routine} {id : RoutineId} {callee : Option ObjectId} {args : List Value}
    (hq : p.routine? id = some q) (hcallee : callee.isSome = q.hasReceiver)
    (hentered : r.entered = true) (hstored : r.store.IsSound p h)
    (ht : q.kind.isSummarizable = true →
      Tracked p h (Machine.calleeFrame id q callee args :: fs) r.recordings r.store ∧
        ∀ R ∈ r.recordings, R.depth ≤ fs.length) :
    ∃ r' h' stack d, r.handle (FrameView.mk h [])
        (.call (q.invocation id callee args (fs.length + 1))) =
        .ok ⟨r', ⟨h', stack⟩, .ok d⟩ ∧
      Answers p q id h (Machine.calleeFrame id q callee args) fs r' h' stack d := by
  obtain ⟨r', h', stack, d, hhandle, -⟩ :=
    hstored.viable.handles_call hq hcallee args (fs.length + 1)
  refine ⟨r', h', stack, d, hhandle, ?_⟩
  generalize hhost : FrameView.mk h' stack = host at hhandle
  have hreaction : Reaction r (FrameView.mk h []) r' _ host (.ok d) := reaction_of_handle hhandle
  cases hreaction with
  | discards _ hr =>
    cases hhost
    exact .executes (of_discards hr hstored)
  | passes hkind hr =>
    cases hhost
    exact .executes (of_turns hr hentered (ht hkind).1)
  | opens hkind hsignature _ _ hr =>
    cases hhost
    obtain ⟨htracked, hdepth⟩ := ht hkind
    exact .executes (of_turns hr hentered (opens htracked hdepth hq hcallee hsignature _))
  | @replays _ s _ hkind hfind _ _ hpush hr =>
    cases hhost
    have hfind : r.store.find (FrameView.mk h []) id callee args h.isSingleThreaded =
        .ok (some s) := hfind
    obtain ⟨last, hs, hholds, hstart⟩ := sound_of_find hq hcallee hstored hfind
    have htracked := (ht hkind).1
    rw [← hstart] at htracked ⊢
    exact answers_of_replay hs hholds hentered htracked hpush hr

/-- A call is answered. -/
theorem called {q : Routine} {id : RoutineId} {callee : Option ObjectId} {args : List Value}
    (hq : p.routine? id = some q) (hcallee : callee.isSome = q.hasReceiver)
    (hidle : r.entered = false → r.recordings = []) (hstored : r.store.IsSound p h)
    (ht : q.kind.isSummarizable = true →
      Tracked p h (Machine.calleeFrame id q callee args :: fs) r.recordings r.store ∧
        ∀ R ∈ r.recordings, R.depth ≤ fs.length) :
    ∃ r' h' stack d, r.onEvent (FrameView.mk h [])
        (.call (q.invocation id callee args (fs.length + 1))) =
        .ok ⟨r', ⟨h', stack⟩, .ok d⟩ ∧
      Answers p q id h (Machine.calleeFrame id q callee args) fs r' h' stack d := by
  by_cases hadmits : r.admits (.call (q.invocation id callee args (fs.length + 1))) = true
  · rw [onEvent, if_pos hadmits]
    exact handles_call (r := { r with entered := true }) hq hcallee rfl hstored ht
  · rw [onEvent, if_neg hadmits]
    have hnot : r.entered = false := by
      simp only [admits, Bool.or_eq_true, not_or] at hadmits
      simpa using hadmits.1
    exact ⟨r, h, [], .proceed, rfl, .executes (of_nil (hidle hnot) hstored)⟩

end Tracks

end Reprise
