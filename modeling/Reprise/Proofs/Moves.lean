import Reprise.Machine
import Reprise.Proofs.Deed

/-!
# What frames do by themselves

`Frame.next` is what the innermost frame does next, and `Moves` what a heap and some frames on top
of others make of it, without a recorder and without limits: an instruction is executed, a frame is
added by a call, or a frame is left while others of these remain.  `Reaches` is any number of moves.
No move initializes a class.  What the frames reach they reach on top of any others
(`Reaches.append`).

A frame that is about to be left (`Frame.Leaves`) is in one of its return instructions.
-/

namespace Reprise

/-- No instruction of the program depends on the clock. -/
def Program.IsTimeless (p : Program) : Prop := ∀ r ∈ p.routines, ∀ i ∈ r.code, i.readsClock = false

instance (p : Program) : Decidable p.IsTimeless :=
  inferInstanceAs (Decidable (∀ r ∈ p.routines, ∀ i ∈ r.code, i.readsClock = false))

/-- What the frame does next. -/
def Frame.next (p : Program) (clock : Nat) (f : Frame) (h : Heap) :
    Except ExecutionFailure Action :=
  match p.routine? f.routine with
  | none => .error (.noSuchRoutine f.routine)
  | some r =>
    match r.code[f.pc]? with
    | none => .error (.instructionPointerOutOfBounds f.pc r.code.size)
    | some i => f.act p clock h r.returns i

/-- The routine has a return, and returns such values. -/
def Program.Returns (p : Program) (id : RoutineId) (v : Option Value) : Prop :=
  ∃ r, p.routine? id = some r ∧ r.finalReturn? ≠ none ∧ Yields r.returns v

theorem finalReturn?_ne_none {r : RoutineBody} {offset : Nat}
    (hoffset : r.code[offset]? = some .leave) : r.finalReturn? ≠ none := by
  have hmem : offset ∈ r.returnOffsets := by
    refine List.mem_filter.mpr ⟨List.mem_range.mpr ?_, by rw [hoffset]; rfl⟩
    exact (Array.getElem?_eq_some_iff.mp hoffset).1
  intro hnone
  rw [List.getLast?_eq_none_iff.mp hnone] at hmem
  cases hmem

theorem code_finalReturn {r : RoutineBody} {target : Nat} (htarget : r.finalReturn? = some target) :
    r.code[target]? = some .leave := by
  have hmem := (List.mem_filter.mp (List.mem_of_getLast? htarget)).2
  cases hi : r.code[target]? with
  | none => rw [hi] at hmem; cases hmem
  | some i =>
    rw [hi] at hmem
    cases i with
    | leave => rfl
    | _ => cases hmem

/-- What a frame does next depends on the heap as its deed says. -/
theorem deed_of_next {p : Program} {clock : Nat} {f : Frame} {h : Heap} {a : Action}
    (ha : f.next p clock h = .ok a) :
    Deed p f.routine (p.Returns f.routine) (f.next p clock) h a := by
  unfold Frame.next at ha
  split at ha
  · cases ha
  · rename_i r hr
    split at ha
    · cases ha
    · rename_i i hi
      have hlook : f.next p clock = fun k => f.act p clock k r.returns i := by
        funext k
        simp only [Frame.next, hr, hi]
      rw [hlook]
      refine (Frame.deed_of_act ha).mono ?_
      rintro v ⟨rfl, hv⟩
      exact ⟨r, hr, finalReturn?_ne_none hi, hv⟩

/-- The clock does not matter to a program that does not look at it. -/
theorem next_clock {p : Program} (hp : p.IsTimeless) (clock clock' : Nat) (f : Frame) (h : Heap) :
    f.next p clock h = f.next p clock' h := by
  unfold Frame.next
  split
  · rfl
  · rename_i r hr
    split
    · rfl
    · rename_i i hi
      exact Frame.act_clock (hp r (Array.mem_of_getElem? hr) i (Array.mem_of_getElem? hi)) clock'

/-- The frame is about to be left with the value, whatever becomes of the heap. -/
def Frame.Leaves (p : Program) (h : Heap) (v : Option Value) (f : Frame) : Prop :=
  ∀ k, h.Extends k → ∃ f', f.next p 0 k = .ok (.finish f' v)

/-! ## Moves -/

/-- The receiver and the arguments of a call in the form in which they are passed. -/
def Routine.accepts (r : Routine) (id : RoutineId) (callee : Option ObjectId) (args : List Value) :
    Except ExecutionFailure (Option ObjectId × List Value) :=
  if r.params.length ≠ args.length then .error (.arityMismatch id r.params.length args.length)
  else
    match Machine.receiver id r callee with
    | .error e => .error e
    | .ok callee =>
      match Machine.narrowArgs args r.params with
      | .error e => .error e
      | .ok args => .ok (callee, args)

/-- The call of a routine with a receiver and arguments, at a depth. -/
def Routine.invocation (q : Routine) (id : RoutineId) (callee : Option ObjectId)
    (args : List Value) (depth : Nat) : Invocation where
  routine := id
  name := q.name
  kind := q.kind
  callee := callee
  args := args
  params := q.params
  returns := q.returns
  depth := depth
  instructionCount := q.code.size

/-- Gives the value that a frame returned to the frame below it. -/
def deliverTo (value : Option Value) : List Frame → List Frame
  | [] => []
  | f :: fs => (match value with | some v => f.push v.widened | none => f) :: fs

/-- One instruction on top of any frames. -/
inductive Moves (p : Program) : Heap → List Frame → Heap → List Frame → Prop where
  | within {h h' f f' fs e printed} (hnext : f.next p 0 h = .ok (.proceed h' f' e printed)) :
    Moves p h (f :: fs) h' (f' :: fs)
  | call {h f f' fs id callee args r callee' args'}
    (hnext : f.next p 0 h = .ok (.call f' id callee args)) (hr : p.routine? id = some r)
    (haccepts : r.accepts id callee args = .ok (callee', args')) :
    Moves p h (f :: fs) h (Machine.calleeFrame id r callee' args' :: f' :: fs)
  | finish {h f f' g fs v} (hnext : f.next p 0 h = .ok (.finish f' v)) :
    Moves p h (f :: g :: fs) h (deliverTo v (g :: fs))

/-- Some instructions on top of any frames. -/
inductive Reaches (p : Program) : Heap → List Frame → Heap → List Frame → Prop where
  | refl {h fs} : Reaches p h fs h fs
  | move {h fs h' fs' h'' fs''} (hmove : Moves p h fs h' fs') (hrest : Reaches p h' fs' h'' fs'') :
    Reaches p h fs h'' fs''

variable {p : Program} {h h' h'' : Heap} {fs fs' fs'' : List Frame}

namespace Reaches

theorem trans (hfirst : Reaches p h fs h' fs') (hthen : Reaches p h' fs' h'' fs'') :
    Reaches p h fs h'' fs'' := by
  induction hfirst with
  | refl => exact hthen
  | move hmove _ ih => exact .move hmove (ih hthen)

theorem moved (hfirst : Reaches p h fs h' fs') (hmove : Moves p h' fs' h'' fs'') :
    Reaches p h fs h'' fs'' :=
  hfirst.trans (.move hmove .refl)

end Reaches

theorem Moves.append (hmove : Moves p h fs h' fs') (below : List Frame) :
    Moves p h (fs ++ below) h' (fs' ++ below) := by
  cases hmove with
  | within hnext => exact .within hnext
  | call hnext hr haccepts => exact .call hnext hr haccepts
  | finish hnext => exact .finish hnext

theorem Reaches.append (hreaches : Reaches p h fs h' fs') (below : List Frame) :
    Reaches p h (fs ++ below) h' (fs' ++ below) := by
  induction hreaches with
  | refl => exact .refl
  | move hmove _ ih => exact .move (hmove.append below) ih

end Reprise
