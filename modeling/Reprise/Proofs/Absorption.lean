import Reprise.Proofs.Access

/-!
# Absorbing a summary is having observed its events

An enclosing recording either sees the accesses of a nested invocation one by one, or, when the
invocation is replayed, absorbs its summary.  Both leave the same recording.

A `Happening` is an access, a replayed invocation, or a summary of which no more is known; what was
recorded of a replayed invocation may itself contain any of the three, to any depth.  A recording
receives a list of them (`receiveAll`), and the list with everything replayed spelled out is
`accessesOf`:

    r.receiveAll l = r.observeAll (accessesOf l)                     (receiveAll_eq_observeAll)
    r.absorb (summaryOf i singleThreaded l value) = r.receiveAll l   (absorb_summaryOf)
-/

namespace Reprise

/-- What a recording can see of the invocation that it records. -/
inductive Happening where
  | access (a : Access)
  /-- A replayed summary, however it came about. -/
  | absorbed (s : Summary)
  /-- An invocation replayed from what was recorded of it. -/
  | replayed (i : Invocation) (singleThreaded : Bool) (inside : List Happening)
      (value : Option Value)

namespace Recording

mutual

/-- Notes an access, or absorbs what was replayed. -/
def receive (r : Recording) : Happening → Recording
  | .access a => r.observe a
  | .absorbed s => r.absorb s
  | .replayed i singleThreaded inside value =>
    r.absorb (Recorder.returning ((ofInvocation i singleThreaded).receiveAll inside) value).summary

/-- Receives one after the other. -/
def receiveAll (r : Recording) : List Happening → Recording
  | [] => r
  | e :: rest => (r.receive e).receiveAll rest

end

end Recording

/-- The summary of an invocation in which `l` happened and which returned `value`. -/
def summaryOf (i : Invocation) (singleThreaded : Bool) (l : List Happening) (value : Option Value) :
    Summary :=
  (Recorder.returning ((Recording.ofInvocation i singleThreaded).receiveAll l) value).summary

mutual

/-- The accesses of a happening, those of replayed invocations included. -/
def Happening.accesses : Happening → List Access
  | .access a => [a]
  | .absorbed s => s.accesses
  | .replayed _ _ inside _ => accessesOf inside

/-- The accesses of a list of happenings in order. -/
def accessesOf : List Happening → List Access
  | [] => []
  | e :: rest => e.accesses ++ accessesOf rest

end

/-! ## Lemmas -/

theorem tracked_returning (r : Recording) (value : Option Value) :
    (Recorder.returning r value).precondition = r.precondition := by
  cases value <;> rfl

theorem writes_returning (r : Recording) (value : Option Value) :
    (Recorder.returning r value).effect.writes = r.effect.writes := by
  cases value <;> rfl

namespace Recording

/-- A summary recorded of a list of accesses stands for them. -/
theorem absorb_returning_observeAll (r : Recording) (i : Invocation) (singleThreaded : Bool)
    (l : List Access) (value : Option Value) :
    r.absorb (Recorder.returning ((ofInvocation i singleThreaded).observeAll l) value).summary =
      r.observeAll l := by
  rw [absorb_eq_observeAll]
  refine observeAll_congr r (fun f => ?_) (fun f => ?_)
  · rw [Summary.firstRead?_accesses, summary, tracked_returning, tracked_ofInvocation_observeAll]
  · rw [Summary.lastWrite?_accesses, summary, writes_returning, writes_ofInvocation_observeAll]

mutual

theorem receive_eq_observeAll (r : Recording) :
    (e : Happening) → r.receive e = r.observeAll e.accesses
  | .access a => by rw [receive, Happening.accesses, observeAll_cons, observeAll_nil]
  | .absorbed s => by rw [receive, Happening.accesses, absorb_eq_observeAll]
  | .replayed i singleThreaded inside value => by
    rw [receive, Happening.accesses, receiveAll_eq_observeAll _ inside,
      absorb_returning_observeAll]

/-- Receiving a list is observing all its accesses, those of replayed invocations included. -/
theorem receiveAll_eq_observeAll (r : Recording) :
    (l : List Happening) → r.receiveAll l = r.observeAll (accessesOf l)
  | [] => by rw [receiveAll, accessesOf, observeAll_nil]
  | e :: rest => by
    rw [receiveAll, accessesOf, observeAll_append, receive_eq_observeAll r e,
      receiveAll_eq_observeAll _ rest]

end

/-! ## Top theorem -/

/-- Absorbing a summary leaves a recording as receiving what the summary was recorded from does,
and as observing all accesses behind it one by one does; what identifies the invocation of the
recording, and its return value, stay. -/
theorem absorb_summaryOf (r : Recording) (i : Invocation) (singleThreaded : Bool)
    (l : List Happening) (value : Option Value) :
    r.absorb (summaryOf i singleThreaded l value) = r.receiveAll l ∧
      r.receiveAll l = r.observeAll (accessesOf l) ∧
      SameInvocation r (r.absorb (summaryOf i singleThreaded l value)) := by
  have habsorb : r.absorb (summaryOf i singleThreaded l value) = r.observeAll (accessesOf l) := by
    rw [summaryOf, receiveAll_eq_observeAll, absorb_returning_observeAll]
  refine ⟨?_, receiveAll_eq_observeAll r l, ?_⟩
  · rw [habsorb, receiveAll_eq_observeAll]
  · rw [habsorb]
    exact sameInvocation_observeAll r _

end Recording

end Reprise
