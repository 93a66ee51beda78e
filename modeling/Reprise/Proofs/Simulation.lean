import Reprise.Proofs.Running
import Reprise.Proofs.Tracks

/-!
# Two machines side by side

The plain machine executes every call, the other one has a recorder and replays some.  `Near` says
that the plain machine has only moves to make to get where the other one stands: none, if they stand
at the same place, and those of a call, if the other machine has just replayed it and is about to
leave its frame.  From there on both make the same step (`step_agree`, `leave_agree`), and are near
again or fail alike.  So they run to the same end, unless a limit stops the plain machine
(`runFrom_agree`).

The counters of executed instructions are compared with where they began: `k₀` for the plain
machine, `l₀` for the other one.
-/

namespace Reprise

/-- The initializers of classes are class initializers. -/
def Program.IsInitialized (p : Program) : Prop :=
  ∀ id c i q, p.class? id = some c → c.initializer = some i → p.routine? i = some q →
    q.kind = .classInitializer

/-- What a recorder holds whatever becomes of the frames. -/
structure Recorder.Keeps (p : Program) (h : Heap) (r : Recorder) : Prop where
  stored : r.store.IsSound p h
  depth : ∀ R ∈ r.recordings, 0 < R.depth

theorem Tracks.keeps {p : Program} {h : Heap} {fs : List Frame} {r : Recorder}
    (ht : Tracks p h fs r) : r.Keeps p h where
  stored := ht.tracked.stored
  depth := fun R hR => by
    obtain ⟨-, -, bottom, -, hdepth, -⟩ := ht.tracked.follows R hR
    omega

theorem Recorder.Keeps.mono {p : Program} {h h' : Heap} {r : Recorder} (hr : r.Keeps p h)
    (hh : h.Extends h') : r.Keeps p h' :=
  ⟨hr.stored.mono hh, hr.depth⟩

namespace Machine

/-- Two operations fail alike, or succeed with the same result and `goes` holds afterwards. -/
inductive Agree {α : Type} (p : Program) (config : MachineConfig) (k₀ l₀ : Nat)
    (goes : α → Machine → Machine → Prop) : Outcome α → Outcome α → Prop where
  | fails {P M r h fs fs' k l e} (hP : At p config none h fs k P)
    (hM : At p config (some r) h fs' l M) (htyped : h.Typed) (hr : r.Keeps p h)
    (hcost : l + k₀ ≤ k + l₀) : Agree p config k₀ l₀ goes ⟨P, .error e⟩ ⟨M, .error e⟩
  | goes {P M a} (hgoes : goes a P M) : Agree p config k₀ l₀ goes ⟨P, .ok a⟩ ⟨M, .ok a⟩

/-- The plain machine `P` only has moves to make to stand where `M` stands, or where `M` stands as
well as there: about to leave the frame with the same value. -/
inductive Near (p : Program) (config : MachineConfig) (k₀ l₀ : Nat) : Machine → Machine → Prop where
  | intro {P M r h₀ h below last g k l} (top : List Frame)
    (hP : At p config none h₀ (top ++ below) k P)
    (hM : At p config (some r) h (g :: below) l M) (hreaches : Reaches p h₀ top h [last])
    (htyped : h.Typed) (ht : Tracks p h (last :: below) r)
    (hg : g = last ∨ g.routine = last.routine ∧
      ∃ v, p.Returns last.routine v ∧ last.Leaves p h v ∧ g.Leaves p h v)
    (hcost : l + k₀ ≤ k + l₀) : Near p config k₀ l₀ P M

/-- Both machines have left a frame with the value, which is still to be delivered. -/
inductive Left (p : Program) (config : MachineConfig) (k₀ l₀ : Nat) (v : Option Value) :
    Machine → Machine → Prop where
  | intro {P M r h fs k l} (hP : At p config none h fs k P) (hM : At p config (some r) h fs l M)
    (htyped : h.Typed) (ht : Tracks p h (deliverTo v fs) r) (hcost : l + k₀ ≤ k + l₀) :
    Left p config k₀ l₀ v P M

/-- What holds after both machines have executed an instruction. -/
def Stepped (p : Program) (config : MachineConfig) (k₀ l₀ : Nat) :
    Flow → Machine → Machine → Prop
  | .goesOn => Near p config k₀ l₀
  | .returned v => Left p config k₀ l₀ v

/-- Both machines have no frames left. -/
inductive Ended (p : Program) (config : MachineConfig) (k₀ l₀ : Nat) :
    Machine → Machine → Prop where
  | intro {P M r h k l} (hP : At p config none h [] k P) (hM : At p config (some r) h [] l M)
    (htyped : h.Typed) (hr : r.Keeps p h) (hnil : r.recordings = [])
    (hcost : l + k₀ ≤ k + l₀) : Ended p config k₀ l₀ P M

variable {p : Program} {config : MachineConfig} {k₀ l₀ k l : Nat} {P M : Machine} {r : Recorder}
  {h : Heap} {f g : Frame} {fs below : List Frame}

/-! ## Calls -/

/-- Both machines enter the routine, or one of them replays its call. -/
theorem enter_agree {id : RoutineId} {callee : Option ObjectId} {args : List Value}
    (hP : At p config none h fs k P) (hM : At p config (some r) h fs l M) (htyped : h.Typed)
    (hr : r.Keeps p h) (hidle : r.entered = false → r.recordings = [])
    (ht : ∀ q callee' args', entry p config fs id callee args = .ok (q, callee', args') →
      q.kind.isSummarizable = true →
      Tracked p h (calleeFrame id q callee' args' :: fs) r.recordings r.store ∧
        ∀ R ∈ r.recordings, R.depth ≤ fs.length)
    (hcost : l + k₀ ≤ k + l₀) :
    Agree p config k₀ l₀ (fun _ => Near p config k₀ l₀) (P.enter id callee args)
      (M.enter id callee args) := by
  cases hentry : entry p config fs id callee args with
  | error e =>
    rw [enter_error hP hentry, enter_error hM hentry]
    exact .fails hP hM htyped hr hcost
  | ok entered =>
    obtain ⟨q, callee', args'⟩ := entered
    obtain ⟨hq, haccepts⟩ := accepts_of_entry hentry
    obtain ⟨P', henterP, hP'⟩ := enter_executes hP hentry .absent
    obtain ⟨r', h', stack, d, hevent, hanswer⟩ := Tracks.called hq (isSome_of_accepts haccepts)
      hidle hr.stored (ht q callee' args' hentry)
    rw [henterP]
    cases hanswer with
    | executes ht' =>
      obtain ⟨M', henterM, hM'⟩ := enter_executes hM hentry (.present hevent)
      rw [henterM]
      exact .goes (.intro [_] hP' hM' .refl htyped ht' (.inl rfl) hcost)
    | @skips _ last v _ hh hreaches hlast hends hreturns hskipped ht' =>
      obtain ⟨target, htarget⟩ : ∃ target, q.finalReturn? = some target := by
        obtain ⟨q', hq', hfinal, -⟩ := hreturns
        rw [hq] at hq'
        obtain rfl := Option.some.inj hq'
        exact Option.ne_none_iff_exists'.mp hfinal
      obtain ⟨M', henterM, hM'⟩ := enter_skips hM hentry hevent htarget
      rw [henterM]
      exact .goes (.intro [_] hP' hM' hreaches (hh.typed htyped) ht'
        (.inr ⟨hends.symm, v, hends ▸ hreturns, hlast, hskipped _ rfl htarget rfl⟩) hcost)

/-! ## Instructions -/

/-- Both machines leave a frame with the same value. -/
theorem leave_agree (hp : p.IsTimeless) (hP : At p config none h (f :: below) k P)
    (hM : At p config (some r) h (g :: below) l M) (htyped : h.Typed)
    (ht : Tracks p h (f :: below) r) (hroutine : g.routine = f.routine) {v : Option Value}
    (hv : p.Returns f.routine v) (hf : f.Leaves p h v) (hg : g.Leaves p h v)
    (hcost : l + k₀ ≤ k + l₀) :
    Agree p config k₀ l₀ (Stepped p config k₀ l₀) P.step M.step := by
  obtain ⟨f', hf'⟩ := hf h (.refl h)
  obtain ⟨g', hg'⟩ := hg h (.refl h)
  rw [next_clock hp 0 k] at hf'
  rw [next_clock hp 0 l] at hg'
  obtain ⟨P', hperformP, hP'⟩ := perform_finish hP (locationOf (f :: below)) .absent
  obtain ⟨r', hevent, ht'⟩ := ht.returned hf hv g'.stack
  rw [← hroutine] at hevent
  obtain ⟨M', hperformM, hM'⟩ :=
    perform_finish hM (locationOf (g :: below)) (.present hevent)
  rw [step_ok hP hf', step_ok hM hg', hperformP, hperformM]
  exact .goes (.intro hP' hM' htyped ht' hcost)

/-- The class whose initializer has to run is marked. -/
theorem mark_of_prepare {id : ClassId} {h' : Heap} {initializer : RoutineId}
    (hprepare : h.prepare? p id = some (h', initializer)) :
    h.Becomes h' ∧ ∃ c, p.class? id = some c ∧ c.initializer = some initializer := by
  obtain ⟨hinitializer, hmark⟩ := Heap.prepare?_eq_some hprepare
  obtain ⟨c, hc, hi⟩ := Option.bind_eq_some_iff.mp hinitializer
  exact ⟨Heap.becomes_mark hmark, c, hc, hi⟩

/-- Both machines enter the initializer of a class, which is never replayed. -/
theorem prepare_agree (hinit : p.IsInitialized) {id : ClassId} {h' : Heap}
    {initializer : RoutineId} (hprepare : h.prepare? p id = some (h', initializer))
    (hP : At p config none h' fs k P) (hM : At p config (some r) h' fs l M) (htyped : h.Typed)
    (hr : r.Keeps p h) (hidle : r.entered = false → r.recordings = [])
    (hcost : l + k₀ ≤ k + l₀) :
    Agree p config k₀ l₀ (fun _ => Near p config k₀ l₀) (P.enter initializer none [])
      (M.enter initializer none []) := by
  obtain ⟨hh, c, hc, hi⟩ := mark_of_prepare hprepare
  refine enter_agree hP hM (hh.typed htyped) (hr.mono hh.grows) hidle ?_ hcost
  intro q callee' args' hentry hkind
  rw [hinit id c initializer q hc hi (accepts_of_entry hentry).1] at hkind
  cases hkind

theorem Agree.goesOn {o o' : Outcome Unit}
    (hagree : Agree p config k₀ l₀ (fun _ => Near p config k₀ l₀) o o') :
    Agree p config k₀ l₀ (Stepped p config k₀ l₀) (Outcome.goesOn o) (Outcome.goesOn o') := by
  cases hagree with
  | fails hP hM htyped hr hcost => exact .fails hP hM htyped hr hcost
  | goes hnear => exact .goes hnear

/-- Both machines execute the same instruction. -/
theorem step_agree (hp : p.IsTimeless) (hinit : p.IsInitialized)
    (hP : At p config none h (f :: below) k P) (hM : At p config (some r) h (f :: below) l M)
    (htyped : h.Typed) (ht : Tracks p h (f :: below) r) (hcost : l + k₀ ≤ k + l₀) :
    Agree p config k₀ l₀ (Stepped p config k₀ l₀) P.step M.step := by
  cases hnext : f.next p 0 h with
  | error e =>
    rw [step_error hP (by rwa [next_clock hp 0 k] at hnext),
      step_error hM (by rwa [next_clock hp 0 l] at hnext)]
    exact .fails hP hM htyped ht.keeps hcost
  | ok a =>
    have hd := deed_of_next hnext
    rw [step_ok hP (by rwa [next_clock hp 0 k] at hnext),
      step_ok hM (by rwa [next_clock hp 0 l] at hnext)]
    cases a with
    | proceed h' f' e printed =>
      have hh := hd.becomes
      cases e with
      | none =>
        obtain ⟨P', hperformP, hP'⟩ :=
          perform_proceed hP (locationOf (f :: below)) printed (.inl ⟨rfl, rfl⟩)
        obtain ⟨M', hperformM, hM'⟩ :=
          perform_proceed hM (locationOf (f :: below)) printed (.inl ⟨rfl, rfl⟩)
        rw [hperformP, hperformM]
        exact .goes (.intro [f'] hP' hM' .refl (hh.typed htyped) (ht.unheard hd) (.inl rfl) hcost)
      | some event =>
        obtain ⟨r', hevent, ht'⟩ := ht.hears htyped hd f'.stack
        obtain ⟨P', hperformP, hP'⟩ :=
          perform_proceed hP (locationOf (f :: below)) printed (.inr ⟨event, rfl, .absent⟩)
        obtain ⟨M', hperformM, hM'⟩ :=
          perform_proceed hM (locationOf (f :: below)) printed (.inr ⟨event, rfl, .present hevent⟩)
        rw [hperformP, hperformM]
        exact .goes (.intro [f'] hP' hM' .refl (hh.typed htyped) ht' (.inl rfl) hcost)
    | failAfter event failure =>
      obtain ⟨r', hevent, ht'⟩ := ht.hears_failing hd f.stack
      obtain ⟨P', hperformP, hP'⟩ :=
        perform_failAfter hP (locationOf (f :: below)) failure .absent
      obtain ⟨M', hperformM, hM'⟩ :=
        perform_failAfter hM (locationOf (f :: below)) failure (.present hevent)
      rw [hperformP, hperformM]
      exact .fails hP' hM' htyped ht'.keeps hcost
    | prepare h' initializer =>
      cases hd with
      | prepares hprepare =>
        have hP' : At p config none h' (f :: below) k { P with heap := h' } :=
          { hP with heap := rfl }
        have hM' : At p config (some r) h' (f :: below) l { M with heap := h' } :=
          { hM with heap := rfl }
        exact (prepare_agree hinit hprepare hP' hM' htyped ht.keeps ht.idle hcost).goesOn
    | call f' id callee args =>
      cases hd with
      | calls hf hlook =>
        have hset : ∀ {r m k}, At p config r h (f :: below) k m →
            At p config r h (f' :: below) k (m.setTop f') := fun hm =>
          { hm with frames := by simp [setTop, hm.frames] }
        refine (enter_agree (hset hP) (hset hM) htyped ht.keeps ht.idle ?_ hcost).goesOn
        intro q callee' args' hentry _
        obtain ⟨hq, haccepts⟩ := accepts_of_entry hentry
        exact ⟨ht.tracked.moves [_, f'] ⟨f', rfl, hf⟩ fun k rest hk =>
          .call (hlook k hk) hq haccepts, fun R hR => ht.tracked.depth_le hR⟩
    | finish f' v =>
      cases hd with
      | finishes _ hv hlook =>
        have := leave_agree hp hP hM htyped ht rfl hv (fun k hk => ⟨f', hlook k hk⟩)
          (fun k hk => ⟨f', hlook k hk⟩) hcost
        rwa [step_ok hP (by rwa [next_clock hp 0 k] at hnext),
          step_ok hM (by rwa [next_clock hp 0 l] at hnext)] at this

/-! ## Runs -/

theorem Left.frames {v : Option Value} (hleft : Left p config k₀ l₀ v P M) :
    M.frames = P.frames := by
  obtain ⟨hP, hM, -⟩ := hleft
  exact hM.frames.trans hP.frames.symm

/-- The outermost frame was left, and no recording is open any more. -/
theorem Left.ended {v : Option Value} (hleft : Left p config k₀ l₀ v P M)
    (hnil : P.frames = []) : Ended p config k₀ l₀ P M := by
  obtain ⟨hP, hM, htyped, ht, hcost⟩ := hleft
  obtain rfl := hP.frames.symm.trans hnil
  refine .intro hP hM htyped ht.keeps (List.eq_nil_iff_forall_not_mem.mpr fun R hR => ?_) hcost
  have hdepth : R.depth ≤ 0 := ht.tracked.depth_le hR
  have := ht.keeps.depth R hR
  omega

/-- The frame below gets the value. -/
theorem Left.near {v : Option Value} (hleft : Left p config k₀ l₀ v P M) (hne : P.frames ≠ []) :
    Near p config k₀ l₀ (P.deliver v) (M.deliver v) := by
  obtain ⟨hP, hM, htyped, ht, hcost⟩ := hleft
  rename_i r h fs k l
  cases fs with
  | nil => exact absurd hP.frames hne
  | cons f fs =>
    exact .intro [_] (deliver_at hP v) (deliver_at hM v) .refl htyped ht (.inl rfl) hcost

/-- Machines that are near run to the same end, unless a limit stops the plain one. -/
theorem runFrom_agree (hp : p.IsTimeless) (hinit : p.IsInitialized) (n : Nat) :
    ∀ {n' counter counter' : Nat} {P M : Machine}, Near p config k₀ l₀ P M → n ≤ n' →
      ¬ HitsLimit (runFrom 0 n counter P).result →
      Agree p config k₀ l₀ (fun _ => Ended p config k₀ l₀) (runFrom 0 n counter P)
        (runFrom 0 n' counter' M) := by
  induction n using Nat.strongRecOn with
  | ind n ih =>
    intro n' counter counter' P M hnear hle hlimit
    obtain ⟨top, hP, hM, hreaches, htyped, ht, hg, hcost⟩ := hnear
    rename_i r h₀ h below last g k l
    rcases runFrom_reaches hp (hreaches.append below) hP n counter with
      hlimit' | ⟨moves, n₁, counter₁, P₁, rfl, hP₁, hrun⟩
    · exact absurd hlimit' hlimit
    · rw [hrun] at hlimit ⊢
      cases n₁ with
      | zero => exact absurd (runFrom_zero hP₁ counter₁) hlimit
      | succ n₁ =>
        obtain ⟨n₂, rfl⟩ : ∃ n₂, n' = n₂ + 1 := ⟨n' - 1, by omega⟩
        obtain ⟨P₂, hP₂, hrunP⟩ := runFrom_succ hP₁ n₁ counter₁
        obtain ⟨M₂, hM₂, hrunM⟩ := runFrom_succ hM n₂ counter'
        rw [hrunP] at hlimit ⊢
        rw [hrunM]
        have hcost : l + 1 + k₀ ≤ k + moves + 1 + l₀ := by omega
        have hstep : Agree p config k₀ l₀ (Stepped p config k₀ l₀) P₂.step M₂.step := by
          rcases hg with rfl | ⟨hroutine, v, hv, hlast, hleaves⟩
          · exact step_agree hp hinit hP₂ hM₂ htyped ht hcost
          · exact leave_agree hp hP₂ hM₂ htyped ht hroutine hv hlast hleaves hcost
        generalize P₂.step = o at hstep hlimit ⊢
        generalize M₂.step = o' at hstep ⊢
        cases hstep with
        | fails hP' hM' htyped' hr' hcost' => exact .fails hP' hM' htyped' hr' hcost'
        | @goes P' M' flow hgoes =>
          cases flow with
          | goesOn => exact ih n₁ (by omega) hgoes (by omega) hlimit
          | returned v =>
            by_cases hbase : P'.frames.length ≤ 0
            · simp only [thenRun, hgoes.frames, if_pos hbase]
              exact .goes (hgoes.ended (List.length_eq_zero_iff.mp (Nat.le_zero.mp hbase)))
            · simp only [thenRun, hgoes.frames, if_neg hbase] at hlimit ⊢
              have hne : P'.frames ≠ [] := fun hnil => hbase (by rw [hnil]; exact Nat.le_refl _)
              exact ih n₁ (by omega) (hgoes.near hne) (by omega) hlimit

end Machine

end Reprise
