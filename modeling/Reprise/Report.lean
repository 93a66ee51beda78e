import Reprise.Statistics
import Reprise.Report.Document

/-!
# The report of a run

A `Report` sums up the statistics of a run and lists its routines by name.  It is written either as
a document or as lines of text.  The totals are natural numbers, like the counters that they sum up,
and are taken to stay below `2 ^ 64` too.
-/

namespace Reprise

open Text

/-- The identifier of a run, 128 bits. -/
structure RunId where
  bits : BitVec 128
  deriving DecidableEq

/-- The identifier with all bits zero. -/
def RunId.nil : RunId := ⟨0⟩

/-- Thirty-two hexadecimal digits in five groups. -/
def RunId.text (id : RunId) : String :=
  let digits := (hexPadded 32 id.bits.toNat).toList
  let group (start length : Nat) : String := String.ofList ((digits.drop start).take length)
  "-".intercalate [group 0 8, group 8 4, group 12 4, group 16 4, group 20 12]

/-- What a run amounted to. -/
structure Report where
  runId : RunId
  uniqueRoutines : Nat
  totalCalls : Nat
  staticCalls : Nat
  instanceCalls : Nat
  constructorCalls : Nat
  classInitializerCalls : Nat
  storedSummaries : Nat
  recordedRoutines : Nat
  blacklistedRoutines : Nat
  attemptedMatches : Nat
  successfulMatches : Nat
  failedMatches : Nat
  estimatedSavedInstructions : Nat
  /-- The routines, by name. -/
  routines : List RoutineStatistics

namespace Report

/-- The sum of a counter over all routines. -/
def total (routines : List RoutineStatistics) (counter : RoutineStatistics → Nat) : Nat :=
  (routines.map counter).foldr (· + ·) 0

/-- The calls of the routines of a kind. -/
def callsOf (routines : List RoutineStatistics) (kind : RoutineKind) : Nat :=
  total (routines.filter (·.kind == kind)) (·.totalCalls)

/-- The report on the statistics, given how many summaries are in the store.  Routines of one name
keep the order of their numbers. -/
def ofStatistics (runId : RunId) (s : Statistics) (storedSummaries : Nat) : Report :=
  let routines := s.routines.values.mergeSort fun a b => decide (a.name ≤ b.name)
  { runId
    uniqueRoutines := routines.length
    totalCalls := total routines (·.totalCalls)
    staticCalls := callsOf routines .static
    instanceCalls := callsOf routines .method
    constructorCalls := callsOf routines .constructor
    classInitializerCalls := callsOf routines .classInitializer
    storedSummaries
    recordedRoutines := routines.countP (·.recorded)
    blacklistedRoutines := routines.countP (·.interruption.isSome)
    attemptedMatches := total routines (·.attemptedMatches)
    successfulMatches := total routines (·.successfulMatches)
    failedMatches := total routines (·.failedMatches)
    estimatedSavedInstructions := total routines (·.savedInstructions)
    routines }

/-! ## As a document -/

/-- The reason, with its detail where it has one. -/
def reasonDocument (reason : AbortReason) : Document :=
  .object (("reason", .text reason.key) ::
    (reason.detail.map fun d => ("detail", Document.text d)).toList)

/-- The counters of a routine. -/
def routineDocument (r : RoutineStatistics) : Document :=
  .object [
    ("name", .text r.name),
    ("kind", .text r.kind.key),
    ("instructionCount", .number r.instructionCount),
    ("totalCalls", .number r.totalCalls),
    ("recordingsStarted", .number r.recordingsStarted),
    ("summariesCommitted", .number r.summariesCommitted),
    ("attemptedMatches", .number r.attemptedMatches),
    ("successfulMatches", .number r.successfulMatches),
    ("failedMatches", .number r.failedMatches),
    ("readCount", .number r.readCount),
    ("writeCount", .number r.writeCount),
    ("savedInstructions", .number r.savedInstructions),
    ("recorded", .bool r.recorded),
    ("interruption", (r.interruption.map reasonDocument).getD .null)]

/-- The whole report. -/
def document (r : Report) : Document :=
  .object [
    ("runId", .text r.runId.text),
    ("uniqueRoutines", .number r.uniqueRoutines),
    ("totalCalls", .number r.totalCalls),
    ("staticCalls", .number r.staticCalls),
    ("instanceCalls", .number r.instanceCalls),
    ("constructorCalls", .number r.constructorCalls),
    ("classInitializerCalls", .number r.classInitializerCalls),
    ("storedSummaries", .number r.storedSummaries),
    ("recordedRoutines", .number r.recordedRoutines),
    ("blacklistedRoutines", .number r.blacklistedRoutines),
    ("attemptedMatches", .number r.attemptedMatches),
    ("successfulMatches", .number r.successfulMatches),
    ("failedMatches", .number r.failedMatches),
    ("estimatedSavedInstructions", .number r.estimatedSavedInstructions),
    ("routines", .list (r.routines.map routineDocument))]

/-! ## As text -/

/-- What became of a routine. -/
def status (r : RoutineStatistics) : String :=
  match r.interruption with
  | some reason => "blacklisted (" ++ reason.text ++ ")"
  | none => if r.recorded then "recorded" else "open"

/-- The line of a routine. -/
def routineLine (r : RoutineStatistics) : String :=
  "  " ++ r.name ++ ": calls=" ++ toString r.totalCalls ++ " matched=" ++
    toString r.successfulMatches ++ "/" ++ toString r.attemptedMatches ++ " reads=" ++
    toString r.readCount ++ " writes=" ++ toString r.writeCount ++ " " ++ status r

/-- Five lines of totals, then one line per routine; the last line is not ended. -/
def text (r : Report) : String :=
  "run " ++ r.runId.text ++ "\ncalls: " ++ toString r.totalCalls ++ " total over " ++
    toString r.uniqueRoutines ++ " routines (" ++ toString r.staticCalls ++ " static, " ++
    toString r.instanceCalls ++ " instance, " ++ toString r.constructorCalls ++
    " constructor, " ++ toString r.classInitializerCalls ++ " class initializer)\nmatches: " ++
    toString r.attemptedMatches ++ " attempted, " ++ toString r.successfulMatches ++
    " successful, " ++ toString r.failedMatches ++ " failed\nsummaries: " ++
    toString r.storedSummaries ++ " stored, " ++ toString r.recordedRoutines ++
    " routines recorded, " ++ toString r.blacklistedRoutines ++
    " blacklisted\nestimated saved instructions: " ++ toString r.estimatedSavedInstructions ++
    "\n" ++ "\n".intercalate (r.routines.map routineLine)

end Report

end Reprise
