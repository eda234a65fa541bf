import Mathlib.Data.List.Perm.Basic

/-
This file models the fan-out and fan-in that `getFilterMeasurementsAsyn` and
`GetMetricMeasurement` build from an `errgroup`: one producer goroutine per item, each of
which returns an error or sends one message into a channel buffered for one message per
item, and a collector goroutine that receives as many messages as there are items unless
the context expires first. It states what every interleaving of the goroutines delivers.
-/

namespace OneCloud.Monitor

/-- Modelled from the Go semantics: the producers and the collector of a fan-in. -/
structure FanInSpec (ε μ α : Type) where
  count : Nat
  outcome : Nat → Except ε μ
  collect : α → μ → α
  timeoutError : ε

namespace FanInSpec

variable {ε μ α : Type} (spec : FanInSpec ε μ α)

/-- The message producer `i` sends, if its query succeeds. -/
def message (i : Nat) : Option μ := (spec.outcome i).toOption

/-- The error producer `i` returns, if its query fails. -/
def failure (i : Nat) : Option ε :=
  match spec.outcome i with
  | .error err => some err
  | .ok _ => none

theorem message_eq_none_iff (i : Nat) : spec.message i = none ↔ ∃ err, spec.failure i = some err := by
  unfold message failure
  cases spec.outcome i <;> simp [Except.toOption]

end FanInSpec

/-- The goroutines of a fan-in between two steps, with the errors they returned. -/
structure FanIn (ε μ α : Type) where
  pending : List Nat
  ran : List Nat
  buffer : List μ
  got : List μ
  acc : α
  expired : Bool
  timedOut : Bool
  errors : List ε

namespace FanIn

variable {ε μ α : Type} (spec : FanInSpec ε μ α)

/-- The goroutines as `Go` starts them: every producer pending and the channel empty. -/
def start (init : α) : FanIn ε μ α :=
  ⟨List.range spec.count, [], [], [], init, false, false, []⟩

/-- Producer `i` returns with its query's error or after sending its message. -/
def produce (s : FanIn ε μ α) (i : Nat) : FanIn ε μ α :=
  { s with
    pending := s.pending.erase i
    ran := s.ran ++ [i]
    buffer := s.buffer ++ (spec.message i).toList
    errors := s.errors ++ (spec.failure i).toList }

/-- The collector's `select` takes the oldest message of the channel. -/
def receive (s : FanIn ε μ α) (msg : μ) (rest : List μ) : FanIn ε μ α :=
  { s with buffer := rest, got := s.got ++ [msg], acc := spec.collect s.acc msg }

/-- The collector's `select` takes `ctx.Done()` and returns its error. -/
def giveUp (s : FanIn ε μ α) : FanIn ε μ α :=
  { s with timedOut := true, errors := s.errors ++ [spec.timeoutError] }

/-- One step of one goroutine, or the deadline passing. -/
inductive Step : FanIn ε μ α → FanIn ε μ α → Prop
  | produce {s : FanIn ε μ α} {i : Nat} (waiting : i ∈ s.pending) : Step s (produce spec s i)
  | receive {s : FanIn ε μ α} {msg : μ} {rest : List μ} (running : s.timedOut = false)
      (more : s.got.length < spec.count) (oldest : s.buffer = msg :: rest) : Step s (receive spec s msg rest)
  | expire {s : FanIn ε μ α} : Step s { s with expired := true }
  | timeout {s : FanIn ε μ α} (deadline : s.expired = true) (running : s.timedOut = false)
      (more : s.got.length < spec.count) : Step s (giveUp spec s)

/-- The states of every interleaving, from `start`. -/
inductive Reachable (init : α) : FanIn ε μ α → Prop
  | start : Reachable init (start spec init)
  | step {s t : FanIn ε μ α} : Reachable init s → Step spec s t → Reachable init t

/-- `Wait` has returned: every producer has, and the collector is done. -/
def Finished (s : FanIn ε μ α) : Prop :=
  s.pending = [] ∧ (s.got.length = spec.count ∨ s.timedOut = true)

/-- What every reachable state satisfies: each message sent once, received in order and folded. -/
structure Inv (init : α) (s : FanIn ε μ α) : Prop where
  split : (s.ran ++ s.pending).Perm (List.range spec.count)
  fifo : s.got ++ s.buffer = s.ran.filterMap spec.message
  folded : s.acc = s.got.foldl spec.collect init
  logged : s.errors.Perm (s.ran.filterMap spec.failure ++ if s.timedOut then [spec.timeoutError] else [])

theorem filterMap_singleton {β : Type} (f : Nat → Option β) (i : Nat) : [i].filterMap f = (f i).toList := by
  cases found : f i <;> simp [found]

variable {spec}

theorem Inv.step {init : α} {s t : FanIn ε μ α} (holds : Inv spec init s) (step : Step spec s t) :
    Inv spec init t := by
  cases step with
  | @produce i waiting =>
      refine ⟨?_, ?_, holds.folded, ?_⟩
      · show (s.ran ++ [i] ++ s.pending.erase i).Perm _
        rw [List.append_assoc, List.singleton_append]
        exact ((List.perm_append_left_iff s.ran).mpr (List.perm_cons_erase waiting).symm).trans holds.split
      · simp only [produce, ← List.append_assoc, holds.fifo, List.filterMap_append, filterMap_singleton]
      · simp only [produce, List.filterMap_append, filterMap_singleton]
        refine (holds.logged.append_right _).trans ?_
        rw [List.append_assoc, List.append_assoc]
        exact (List.perm_append_left_iff _).mpr List.perm_append_comm
  | receive running _ oldest =>
      refine ⟨holds.split, ?_, ?_, holds.logged⟩
      · simp only [receive, List.append_assoc, List.singleton_append, ← oldest, holds.fifo]
      · simp only [receive, List.foldl_append, List.foldl_cons, List.foldl_nil, holds.folded]
  | expire => exact ⟨holds.split, holds.fifo, holds.folded, holds.logged⟩
  | timeout _ running _ =>
      have logged := holds.logged
      rw [running, if_neg Bool.false_ne_true, List.append_nil] at logged
      exact ⟨holds.split, holds.fifo, holds.folded, logged.append_right [spec.timeoutError]⟩

theorem Reachable.inv {init : α} {s : FanIn ε μ α} (reached : Reachable spec init s) : Inv spec init s := by
  induction reached with
  | start => exact ⟨List.Perm.refl _, rfl, rfl, List.Perm.refl _⟩
  | step _ step holds => exact holds.step step

theorem Inv.length_ran_add_pending {init : α} {s : FanIn ε μ α} (holds : Inv spec init s) :
    s.ran.length + s.pending.length = spec.count := by
  simpa using holds.split.length_eq

theorem Inv.length_got_add_buffer {init : α} {s : FanIn ε μ α} (holds : Inv spec init s) :
    s.got.length + s.buffer.length = (s.ran.filterMap spec.message).length := by
  rw [← holds.fifo, List.length_append]

theorem Inv.length_got_le {init : α} {s : FanIn ε μ α} (holds : Inv spec init s) : s.got.length ≤ spec.count := by
  have sent := List.length_filterMap_le spec.message s.ran
  have := holds.length_ran_add_pending
  have := holds.length_got_add_buffer
  omega

/-- Once the collector has received `count` messages, it has each producer's exactly once. -/
theorem received_all {init : α} {s : FanIn ε μ α} (reached : Reachable spec init s)
    (complete : s.got.length = spec.count) :
    s.pending = [] ∧ s.buffer = [] ∧ (∀ i < spec.count, (spec.message i).isSome) ∧
      s.got.Perm ((List.range spec.count).filterMap spec.message) := by
  have holds := reached.inv
  have sent := List.length_filterMap_le spec.message s.ran
  have accounted := holds.length_ran_add_pending
  have queued := holds.length_got_add_buffer
  have drained : s.pending = [] := List.eq_nil_of_length_eq_zero (by omega)
  have empty : s.buffer = [] := List.eq_nil_of_length_eq_zero (by omega)
  have everyone : s.ran.Perm (List.range spec.count) := by simpa [drained] using holds.split
  have allSent := List.filterMap_length_eq_length.mp
    (show (s.ran.filterMap spec.message).length = s.ran.length by omega)
  refine ⟨drained, empty, fun i below => allSent i (everyone.mem_iff.mpr (List.mem_range.mpr below)), ?_⟩
  rw [← List.append_nil s.got, ← empty, holds.fifo]
  exact everyone.filterMap _

/-- A failed query leaves the collector to stop only at the deadline. -/
theorem got_lt_of_failure {init : α} {s : FanIn ε μ α} (reached : Reachable spec init s) {i : Nat}
    (below : i < spec.count) (failed : spec.message i = none) : s.got.length < spec.count := by
  refine lt_of_le_of_ne reached.inv.length_got_le fun complete => ?_
  have := (received_all reached complete).2.2.1 i below
  rw [failed] at this
  cases this

/-- When `Wait` returns no error, the collector received every message exactly once. -/
theorem finished_ok {init : α} {s : FanIn ε μ α} (reached : Reachable spec init s) (finished : Finished spec s)
    (ok : s.errors = []) :
    (∀ i < spec.count, (spec.message i).isSome) ∧ s.got.Perm ((List.range spec.count).filterMap spec.message) := by
  have logged := reached.inv.logged
  rcases finished.2 with complete | gaveUp
  · exact (received_all reached complete).2.2
  · rw [ok, gaveUp, if_pos rfl] at logged
    simpa using logged.length_eq

/-- When a query fails, `Wait` returns only after the collector gave up at the deadline. -/
theorem finished_of_failure {init : α} {s : FanIn ε μ α} (reached : Reachable spec init s)
    (finished : Finished spec s) {i : Nat} (below : i < spec.count) {err : ε} (failed : spec.failure i = some err) :
    s.timedOut = true ∧ err ∈ s.errors ∧ spec.timeoutError ∈ s.errors := by
  have holds := reached.inv
  have noMessage : spec.message i = none := (spec.message_eq_none_iff i).mpr ⟨err, failed⟩
  have gaveUp : s.timedOut = true :=
    finished.2.resolve_left (got_lt_of_failure reached below noMessage).ne
  have everyone : s.ran.Perm (List.range spec.count) := by simpa [finished.1] using holds.split
  have ran : i ∈ s.ran := everyone.mem_iff.mpr (List.mem_range.mpr below)
  have logged := holds.logged
  rw [gaveUp, if_pos rfl] at logged
  exact ⟨gaveUp, logged.mem_iff.mpr (List.mem_append_left _ (List.mem_filterMap.mpr ⟨i, ran, failed⟩)),
    logged.mem_iff.mpr (List.mem_append_right _ (List.mem_singleton_self _))⟩

end FanIn

end OneCloud.Monitor
