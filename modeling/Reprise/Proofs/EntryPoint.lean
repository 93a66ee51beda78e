import Reprise.Proofs.Capacity
import Reprise.Proofs.Indifference

/-!
# The beginning of a run

Whatever happened to a recorder before, beginning a run makes it what a new recorder of its
configuration is, but for the name of the run (`IsSetUp.beginRun_eq`).  If there is an entry point,
the recorder then waits for its call (`Recorder.Waits`): every operation before is answered and
changes nothing (`perform_of_waits`).  From that call on, the recorder does what one does that has
no entry point and is told nothing of the operations before:

    r.course (before ++ o :: after) ~ (before at rest) ++ s.course (o :: after)   (course_start)

This is so whichever routine names are blocked.  The patterns that block them are read when the
recorder is made, and so they are the same ones in every later run (`course_entry`).
-/

namespace Reprise

namespace Operation

/-- The operation delivers a call of a routine of that name. -/
def Calls (name : String) : Operation → Prop
  | @event _ _host _ (.call i) => i.name = name
  | _ => False

/-- What is seen of an operation that changes nothing. -/
def idle : Operation → Sight
  | @event _ _host h _ => .reply h (.ok .proceed)
  | .unwind _ => .silence
  | .finishRun => .silence

end Operation

namespace Recorder

/-! ## Beginning -/

/-- The history of a recorder of the configuration: operations in one run after the other. -/
inductive Stems (config : RecorderConfig) : Recorder → Prop where
  | new {runId r} (hnew : Recorder.new config runId = .ok r) : Stems config r
  | performs {r o sight r'} (hr : Stems config r) (ho : r.perform o = .ok (sight, r')) :
    Stems config r'
  | begins {r} (hr : Stems config r) (runId : RunId) : Stems config (r.beginRun runId)

/-- A new recorder, or one that has just begun a run after any history. -/
inductive Begins (config : RecorderConfig) : Recorder → Prop where
  | new {runId r} (hnew : Recorder.new config runId = .ok r) : Begins config r
  | again {r} (hr : Stems config r) (runId : RunId) : Begins config (r.beginRun runId)

/-- What stays of a recorder from run to run. -/
structure IsSetUp (c : RecorderConfig) (p : String → Bool) (r : Recorder) : Prop where
  config : r.config = c
  blocked : r.blocked = p
  capacity : r.store.capacity = c.summaryCapacity
  begun : r.HasBegun

variable {config : RecorderConfig} {blocked : String → Bool} {name : String} {r r' : Recorder}
  {o : Operation} {sight : Sight}

theorem isSetUp_start (config : RecorderConfig) (blocked : String → Bool) (runId : RunId) :
    (start config blocked runId).IsSetUp config blocked :=
  ⟨rfl, rfl, rfl, fun _ hR => absurd hR List.not_mem_nil⟩

theorem IsSetUp.beginRun_eq (hr : r.IsSetUp config blocked) (runId : RunId) :
    r.beginRun runId = start config blocked runId := by
  obtain ⟨hconfig, hblocked, hcapacity, -⟩ := hr
  rw [beginRun, start, Store.clear, hconfig, hblocked, hcapacity]

theorem IsSetUp.perform (hr : r.IsSetUp config blocked) (ho : r.perform o = .ok (sight, r')) :
    r'.IsSetUp config blocked := by
  have hoperate := operate_of_perform ho
  obtain ⟨hconfig, hblocked⟩ := setup_operate hoperate
  refine ⟨hconfig.trans hr.config, hblocked.trans hr.blocked, ?_, hr.begun.operate hoperate⟩
  rw [store_operate hr.begun hoperate, ← hr.capacity]
  cases r.finished? o with
  | none => rfl
  | some R => exact r.store.capacity_put R.routine R.summary

/-- The patterns of a configuration are read once and for all. -/
theorem new_eq_ok {runId : RunId} (hnew : Recorder.new config runId = .ok r) :
    ∃ patterns, readPatterns config.blacklistPatterns = .ok patterns ∧
      r = start config (fun name => patterns.any (·.occursIn name)) runId := by
  unfold Recorder.new at hnew
  split at hnew
  · cases hnew
  · rename_i patterns hpatterns
    exact ⟨patterns, hpatterns, (Except.ok.inj hnew).symm⟩

theorem Stems.isSetUp (hr : Stems config r) :
    ∃ patterns, readPatterns config.blacklistPatterns = .ok patterns ∧
      r.IsSetUp config fun name => patterns.any (·.occursIn name) := by
  induction hr with
  | new hnew =>
    obtain ⟨patterns, hpatterns, rfl⟩ := new_eq_ok hnew
    exact ⟨patterns, hpatterns, isSetUp_start _ _ _⟩
  | performs _ ho ih =>
    obtain ⟨patterns, hpatterns, hr⟩ := ih
    exact ⟨patterns, hpatterns, hr.perform ho⟩
  | begins _ runId ih =>
    obtain ⟨patterns, hpatterns, hr⟩ := ih
    rw [hr.beginRun_eq]
    exact ⟨patterns, hpatterns, isSetUp_start _ _ _⟩

/-- A run begins as if the recorder were new. -/
theorem Begins.eq_start (hr : Begins config r) :
    ∃ patterns runId, readPatterns config.blacklistPatterns = .ok patterns ∧
      r = start config (fun name => patterns.any (·.occursIn name)) runId := by
  cases hr with
  | @new runId _ hnew =>
    obtain ⟨patterns, hpatterns, hr⟩ := new_eq_ok hnew
    exact ⟨patterns, runId, hpatterns, hr⟩
  | again hr runId =>
    obtain ⟨patterns, hpatterns, hr⟩ := hr.isSetUp
    exact ⟨patterns, runId, hpatterns, hr.beginRun_eq runId⟩

/-! ## Waiting -/

/-- The recorder waits for the entry point. -/
structure Waits (name : String) (r : Recorder) : Prop where
  entry : r.config.entryPoint = some name
  entered : r.entered = false
  recordings : r.recordings = []

theorem waits_start (hentry : config.entryPoint = some name) (runId : RunId) :
    (start config blocked runId).Waits name :=
  ⟨hentry, by rw [start, hentry]; rfl, rfl⟩

/-- Nothing but a call of the entry point changes a recorder that waits. -/
theorem perform_of_waits (hr : r.Waits name) (ho : ¬ o.Calls name) :
    r.perform o = .ok (o.idle, r) := by
  obtain ⟨hentry, hentered, hrecordings⟩ := hr
  cases o with
  | event h e =>
    have hadmits : r.admits e = false := by
      unfold admits
      rw [hentered, hentry, Bool.false_or]
      cases e with
      | call i => exact beq_eq_false_iff_ne.mpr fun hname => ho (Option.some.inj hname).symm
      | _ => rfl
    rw [perform, onEvent, hadmits]
    rfl
  | unwind depth =>
    rw [perform, unwind, hrecordings]
    cases r
    cases hrecordings
    rfl
  | finishRun =>
    rw [perform, finishRun, ← hrecordings]
    rfl

theorem course_of_waits (hr : r.Waits name) {before : List Operation}
    (hbefore : ∀ o ∈ before, ¬ o.Calls name) (after : List Operation) :
    r.course (before ++ after) = before.map (fun o => .ok (o.idle, r)) ++ r.course after := by
  induction before with
  | nil => rfl
  | cons o before ih =>
    rw [List.cons_append, course, perform_of_waits hr (hbefore o List.mem_cons_self)]
    exact congrArg _ (ih fun o ho => hbefore o (List.mem_cons_of_mem _ ho))

/-- A call of the entry point is handled as if it had been called already. -/
theorem course_of_calls (hr : r.Waits name) (ho : o.Calls name) (after : List Operation) :
    r.course (o :: after) = { r with entered := true }.course (o :: after) := by
  cases o with
  | event h e =>
    cases e with
    | call i =>
      have hname : i.name = name := ho
      have hadmits : r.admits (.call i) = true := by
        simp only [admits, hr.entry, hname, beq_self_eq_true, Bool.or_true]
      rw [course, course, perform, perform, onEvent, if_pos hadmits]
      rfl
    | _ => cases ho
  | unwind depth => cases ho
  | finishRun => cases ho

/-- From the call of the entry point on, nothing tells the recorder from one without an entry
point. -/
theorem alike_start (config : RecorderConfig) (blocked : String → Bool) (runId runId' : RunId) :
    Guise.Alike ⟨fun _ => none, True, runId'⟩
      { start config blocked runId with entered := true }
      (start { config with entryPoint := none } blocked runId') :=
  ⟨rfl, rfl, rfl, rfl, rfl, rfl, rfl, fun _ => rfl, rfl, rfl⟩

/-- A recorder that waits for its entry point drops all operations before the call of it, and from
that call on shows what one does that has no entry point, whichever routines are blocked by their
names. -/
theorem course_start (hentry : config.entryPoint = some name) (blocked : String → Bool)
    (runId runId' : RunId) {before : List Operation} (hbefore : ∀ o ∈ before, ¬ o.Calls name) :
    let r := start config blocked runId
    let s := start { config with entryPoint := none } blocked runId'
    r.course before = before.map (fun o => .ok (o.idle, r)) ∧
      ∀ (o : Operation) (after : List Operation), o.Calls name →
        ∃ rest, r.course (before ++ o :: after) =
            before.map (fun o => .ok (o.idle, r)) ++ rest ∧
          List.Forall₂ (Coincide fun x x' => x'.1 = x.1 ∧
              x'.2 = { x.2 with
                config := { x.2.config with entryPoint := none }, runId := runId' })
            rest (s.course (o :: after)) := by
  intro r s
  have hwaits : r.Waits name := waits_start hentry runId
  refine ⟨by simpa [course] using course_of_waits hwaits hbefore [], fun o after ho => ?_⟩
  refine ⟨_, course_of_waits hwaits hbefore (o :: after), ?_⟩
  rw [course_of_calls hwaits ho]
  have halike := alike_start config blocked runId runId'
  refine (course_alike halike (.inl rfl) (o :: after)).imp fun x x' hsame => hsame.imp ?_
  rintro y y' ⟨hsight, hy⟩
  refine ⟨hsight, ?_⟩
  have heq := hy.eq
  rw [hy.statistics trivial] at heq
  exact heq

/-- A recorder that begins a run, whatever came before, drops all operations before the call of its
entry point: they are answered and change nothing.  From that call on it shows in every step what a
new recorder without an entry point does that is only told of the operations from the call on, and
but for the entry point and the name of the run their states are equal, counters included. -/
theorem course_entry (hentry : config.entryPoint = some name) (hr : Begins config r)
    (runId : RunId) :
    ∃ s, Recorder.new { config with entryPoint := none } runId = .ok s ∧
      ∀ before : List Operation, (∀ o ∈ before, ¬ o.Calls name) →
        r.course before = before.map (fun o => .ok (o.idle, r)) ∧
        ∀ (o : Operation) (after : List Operation), o.Calls name →
          ∃ rest, r.course (before ++ o :: after) =
              before.map (fun o => .ok (o.idle, r)) ++ rest ∧
            List.Forall₂ (Coincide fun x x' => x'.1 = x.1 ∧
                x'.2 = { x.2 with config := { x.2.config with entryPoint := none }, runId })
              rest (s.course (o :: after)) := by
  obtain ⟨patterns, runId₀, hpatterns, rfl⟩ := hr.eq_start
  refine ⟨_, by rw [Recorder.new, hpatterns], fun before hbefore => ?_⟩
  exact course_start hentry (fun name => patterns.any (·.occursIn name)) runId₀ runId hbefore

/-- A recorder that waits for the outer routine. -/
def gated : Recorder := .start { entryPoint := some "C.outer" } (fun _ => false) ⟨0⟩

/-- It has recorded a call of the outer routine and begins another run. -/
def gatedAgain : Recorder := ({ gated with entered := true }.called outerCall).beginRun ⟨1⟩

def outer : Operation := .event table (.call outerCall)

def inner : Operation := .event table (.call innerCall)

theorem begins_gatedAgain : Begins { entryPoint := some "C.outer" } gatedAgain := by
  have hnew : Recorder.new { entryPoint := some "C.outer" } ⟨0⟩ = .ok gated := rfl
  have hcall : gated.perform outer =
    .ok (.reply table (.ok .proceed), { gated with entered := true }.called outerCall) := rfl
  exact .again (.performs (.new hnew) hcall) ⟨1⟩

/-- The recording of the first run and a nested call before the outer one leave no trace. -/
theorem course_entry_gatedAgain :
    gatedAgain.course [inner] = [.ok (inner.idle, gatedAgain)] ∧
      ∃ rest, gatedAgain.course [inner, outer] = .ok (inner.idle, gatedAgain) :: rest ∧
        List.Forall₂ (Coincide fun x x' => x'.1 = x.1 ∧
            x'.2 = { x.2 with config := { x.2.config with entryPoint := none }, runId := ⟨2⟩ })
          rest ((start {} (fun _ => false) ⟨2⟩).course [outer]) := by
  obtain ⟨s, hs, hcourse⟩ := course_entry rfl begins_gatedAgain ⟨2⟩
  obtain rfl : start {} (fun _ => false) ⟨2⟩ = s := Except.ok.inj hs
  have hinner : ∀ o ∈ [inner], ¬ o.Calls "C.outer" := by
    simp [inner, Operation.Calls, innerCall]
  obtain ⟨hidle, hcalled⟩ := hcourse [inner] hinner
  exact ⟨hidle, hcalled outer [] rfl⟩

end Recorder

end Reprise
