import LoveBlock.Engine

/-!
# LoveBlock - The miner's start, stop and sync loop

{lit}`Miner` keeps four {lit}`int32` words ({lit}`canStart`,
{lit}`shouldStart`, {lit}`mining`, {lit}`starNodeFlag`) that its methods read
and write with {lit}`sync/atomic`, and a worker that {lit}`Start` and
{lit}`Stop` switch on and off.  The {lit}`update` goroutine stores
{lit}`canStart = 0` when the downloader starts a sync and stops mining if it
finds it on; {lit}`Start` refuses to mine when it reads {lit}`canStart = 0`.
This module models {lit}`update`, any number of concurrent {lit}`Start` and
{lit}`Stop` calls and the downloader's events as interleaved steps, each atomic
access or worker call one step, with a ghost flag marking the sync window from
{lit}`update`'s store of {lit}`canStart = 0` until it handles the end of the
sync.

Main results:

- Theorem {lit}`Inv.reachable`: in every run, {lit}`canStart` is zero
  throughout the sync window.
- Theorem {lit}`start_returns_of_syncing`: so a {lit}`Start` call that reads
  {lit}`canStart` inside the window returns without touching {lit}`mining`.
- Theorem {lit}`mining_while_syncing`: a {lit}`Start` call that read
  {lit}`canStart = 1` just before the store sets {lit}`mining = 1` and starts
  the worker inside the window, after {lit}`update` has found mining off.
-/

namespace LoveBlock

namespace Miner

/-! ## Threads and state -/

/-- The shared words of {lit}`Miner` and whether the worker runs. -/
structure Shared where
  canStart : Nat
  shouldStart : Nat
  mining : Nat
  starNodeFlag : Nat
  workerRunning : Bool
deriving DecidableEq, Repr

/-- Where a call of {lit}`Start(coinbase)` stands: before each atomic access
or call of its body, or returned. -/
inductive StartPc where
  | loadFlag
  | countNodes
  | storeShould
  | setLovebase
  | loadCanStart
  | storeMining
  | workerStart
  | done
deriving DecidableEq, Repr

/-- Where a call of {lit}`Stop()` stands. -/
inductive StopPc where
  | workerStop
  | storeMining
  | storeShould
  | done
deriving DecidableEq, Repr

/-- Where the {lit}`update` goroutine stands: waiting for an event, in the
{lit}`StartEvent` case (with {lit}`Stop` inlined), in the
{lit}`DoneEvent`/{lit}`FailedEvent` case (with {lit}`Start` inlined, and the
loaded {lit}`shouldStart` carried along), or out of the loop. -/
inductive UpdatePc where
  | wait
  | storeCanStart0
  | loadMining
  | stop (p : StopPc)
  | storeShould1
  | loadShould
  | storeCanStart1 (shouldStart : Bool)
  | storeShould0 (shouldStart : Bool)
  | start (p : StartPc)
  | exited
deriving DecidableEq, Repr

/-- A call of {lit}`Start` or {lit}`Stop` from another goroutine. -/
inductive Call where
  | start (p : StartPc)
  | stop (p : StopPc)
deriving DecidableEq, Repr

/-- The miner, the {lit}`update` goroutine, the calls in flight, and the ghost
flag of the sync window. -/
structure State where
  shared : Shared
  update : UpdatePc
  calls : List Call
  syncing : Bool
deriving DecidableEq, Repr

/-- {lit}`New`: {lit}`canStart = 1`, {lit}`starNodeFlag = 0`, the rest zero,
and {lit}`update` waiting for its first event. -/
def init : State := ⟨⟨1, 0, 0, 0, false⟩, .wait, [], false⟩

/-- The {lit}`update` goroutine has received a {lit}`DoneEvent` or
{lit}`FailedEvent`. -/
def UpdatePc.handlingDone : UpdatePc → Bool
  | .loadShould | .storeCanStart1 _ | .storeShould0 _ | .start _ | .exited => true
  | _ => false

/-- A call has returned. -/
def Call.isDone : Call → Bool
  | .start .done | .stop .done => true
  | _ => false

/-! ## One step of each thread -/

/-- One step of {lit}`Start(coinbase)` on roster {lit}`r`. -/
def startStep (r : Roster) (sh : Shared) : StartPc → StartPc × Shared
  | .loadFlag => (if sh.starNodeFlag = 0 then .done else .countNodes, sh)
  | .countNodes => (if r.getCoreNodesCount = 0 then .done else .storeShould, sh)
  | .storeShould => (.setLovebase, { sh with shouldStart := 1 })
  | .setLovebase => (.loadCanStart, sh)
  | .loadCanStart => (if sh.canStart = 0 then .done else .storeMining, sh)
  | .storeMining => (.workerStart, { sh with mining := 1 })
  | .workerStart => (.done, { sh with workerRunning := true })
  | .done => (.done, sh)

/-- One step of {lit}`Stop()`. -/
def stopStep (sh : Shared) : StopPc → StopPc × Shared
  | .workerStop => (.storeMining, { sh with workerRunning := false })
  | .storeMining => (.storeShould, { sh with mining := 0 })
  | .storeShould => (.done, { sh with shouldStart := 0 })
  | .done => (.done, sh)

/-- One step of a call. -/
def callStep (r : Roster) (sh : Shared) : Call → Call × Shared
  | .start p => ((startStep r sh p).1 |> .start, (startStep r sh p).2)
  | .stop p => ((stopStep sh p).1 |> .stop, (stopStep sh p).2)

/-- One step of {lit}`update` between events. -/
def updateStep (r : Roster) (sh : Shared) : UpdatePc → UpdatePc × Shared
  | .storeCanStart0 => (.loadMining, { sh with canStart := 0 })
  | .loadMining => (if sh.mining > 0 then .stop .workerStop else .wait, sh)
  | .stop .done => (.storeShould1, sh)
  | .stop p => ((stopStep sh p).1 |> .stop, (stopStep sh p).2)
  | .storeShould1 => (.wait, { sh with shouldStart := 1 })
  | .loadShould => (.storeCanStart1 (sh.shouldStart = 1), sh)
  | .storeCanStart1 b => (.storeShould0 b, { sh with canStart := 1 })
  | .storeShould0 b => (if b then .start .loadFlag else .exited, { sh with shouldStart := 0 })
  | .start .done => (.exited, sh)
  | .start p => ((startStep r sh p).1 |> .start, (startStep r sh p).2)
  | .wait => (.wait, sh)
  | .exited => (.exited, sh)

/-- One interleaved step: another goroutine calls {lit}`SetStarNodeFlag`,
{lit}`Start` or {lit}`Stop`; a call in flight or {lit}`update` takes its next
step; or the downloader's next event reaches {lit}`update`. -/
inductive Action where
  | setStarNodeFlag
  | spawnStart
  | spawnStop
  | call (k : Nat)
  | update
  | recvStart
  | recvDone
deriving DecidableEq, Repr

/-- The step function on roster {lit}`r`; {lit}`none` where the action is not
enabled.  The ghost flag rises at {lit}`update`'s store of {lit}`canStart = 0`
and falls when it receives the end of the sync. -/
def step (r : Roster) (s : State) : Action → Option State
  | .setStarNodeFlag => some { s with shared := { s.shared with starNodeFlag := 1 } }
  | .spawnStart => some { s with calls := s.calls ++ [.start .loadFlag] }
  | .spawnStop => some { s with calls := s.calls ++ [.stop .workerStop] }
  | .call k =>
    match s.calls[k]? with
    | some c =>
      if c.isDone then none
      else some { s with shared := (callStep r s.shared c).2,
                         calls := s.calls.set k (callStep r s.shared c).1 }
    | none => none
  | .update =>
    if s.update = .wait ∨ s.update = .exited then none
    else some { s with shared := (updateStep r s.shared s.update).2,
                       update := (updateStep r s.shared s.update).1,
                       syncing := s.update = .storeCanStart0 ∨ s.syncing }
  | .recvStart => if s.update = .wait then some { s with update := .storeCanStart0 } else none
  | .recvDone =>
    if s.update = .wait then some { s with update := .loadShould, syncing := false } else none

/-- The states of all runs on roster {lit}`r`. -/
inductive Reachable (r : Roster) : State → Prop
  | init : Reachable r init
  | step {s s' : State} (a : Action) : Reachable r s → step r s a = some s' → Reachable r s'

/-- A schedule run step by step, or {lit}`none` at the first disabled action. -/
def run (r : Roster) : State → List Action → Option State
  | s, [] => some s
  | s, a :: as => (step r s a).bind fun s' => run r s' as

theorem reachable_of_run {r : Roster} {s s' : State} {as : List Action} (hs : Reachable r s)
    (h : run r s as = some s') : Reachable r s' := by
  induction as generalizing s with
  | nil => cases h; exact hs
  | cons a as ih =>
    simp only [run] at h
    cases hstep : step r s a with
    | none => simp [hstep] at h
    | some t => exact ih (.step a hs hstep) (by simpa [hstep] using h)

/-! ## The sync window -/

variable {r : Roster} {sh : Shared} {p : UpdatePc} {s s' : State} {a : Action}

@[simp]
theorem startStep_canStart (p : StartPc) : (startStep r sh p).2.canStart = sh.canStart := by
  cases p <;> rfl

@[simp]
theorem stopStep_canStart (p : StopPc) : (stopStep sh p).2.canStart = sh.canStart := by
  cases p <;> rfl

@[simp]
theorem callStep_canStart (c : Call) : (callStep r sh c).2.canStart = sh.canStart := by
  cases c <;> simp [callStep]

/-- Outside the sync's end, {lit}`update` stores {lit}`canStart` only at the
start of a sync. -/
theorem updateStep_canStart (h0 : p ≠ .storeCanStart0) (hd : p.handlingDone = false) :
    (updateStep r sh p).2.canStart = sh.canStart := by
  rcases p with _ | _ | _ | p | _ | _ | b | b | p | _ <;>
    first | (cases p <;> rfl) | rfl | exact absurd rfl h0 | simp [UpdatePc.handlingDone] at hd

/-- Once {lit}`update` has received the end of the sync it stays in that case. -/
theorem updateStep_handlingDone (p : UpdatePc) :
    (updateStep r sh p).1.handlingDone = p.handlingDone := by
  rcases p with _ | _ | _ | p | _ | _ | b | b | p | _ <;>
    first | (cases p <;> rfl) | (simp only [updateStep]; split_ifs <;> rfl) | rfl

/-- The invariant of the sync window: {lit}`canStart` is zero inside it, and
{lit}`update` is outside it once it has received the end of the sync. -/
structure Inv (s : State) : Prop where
  canStart_of_syncing : s.syncing = true → s.shared.canStart = 0
  not_syncing_of_done : s.update.handlingDone = true → s.syncing = false

theorem Inv.init : Inv init := ⟨fun h => (by cases h), fun _ => rfl⟩

/-- Every step keeps the invariant. -/
theorem Inv.step (hi : Inv s) (h : step r s a = some s') : Inv s' := by
  cases a with
  | setStarNodeFlag | spawnStart | spawnStop =>
    cases h
    exact ⟨hi.canStart_of_syncing, hi.not_syncing_of_done⟩
  | call k =>
    simp only [step] at h
    split at h
    · split_ifs at h
      cases h
      exact ⟨fun hs => by simpa using hi.canStart_of_syncing hs, hi.not_syncing_of_done⟩
    · cases h
  | update =>
    simp only [step] at h
    split_ifs at h with hw
    cases h
    refine ⟨fun hs => ?_, fun hd => ?_⟩
    · by_cases h0 : s.update = .storeCanStart0
      · simp [h0, updateStep]
      · have hsy : s.syncing = true := by simpa [h0] using hs
        have hnd : s.update.handlingDone = false := by
          by_contra hd
          simp [hi.not_syncing_of_done (by simpa using hd)] at hsy
        rw [updateStep_canStart h0 hnd]
        exact hi.canStart_of_syncing hsy
    · rw [updateStep_handlingDone] at hd
      have hne : s.update ≠ .storeCanStart0 := by rintro he; simp [he, UpdatePc.handlingDone] at hd
      simp [hne, hi.not_syncing_of_done hd]
  | recvStart =>
    simp only [step] at h
    split_ifs at h with hw
    cases h
    exact ⟨hi.canStart_of_syncing, fun hd => by simp [UpdatePc.handlingDone] at hd⟩
  | recvDone =>
    simp only [step] at h
    split_ifs at h
    cases h
    exact ⟨fun hs => (by cases hs), fun _ => rfl⟩

/-- Every reachable state satisfies the invariant. -/
theorem Inv.reachable (hr : Reachable r s) : Inv s := by
  induction hr with
  | init => exact Inv.init
  | step _ _ h ih => exact ih.step h

/-- Inside the sync window a {lit}`Start` call that reads {lit}`canStart`
returns at once and leaves {lit}`mining` and the worker alone. -/
theorem start_returns_of_syncing {k : Nat} (hr : Reachable r s) (hs : s.syncing = true)
    (hk : s.calls[k]? = some (.start .loadCanStart)) (h : step r s (.call k) = some s') :
    s'.calls[k]? = some (.start .done) ∧ s'.shared = s.shared := by
  have h0 := (Inv.reachable hr).canStart_of_syncing hs
  simp only [step, hk, Call.isDone] at h
  cases h
  have hlt : k < s.calls.length := (List.getElem?_eq_some_iff.1 hk).1
  simp [callStep, startStep, h0, hlt]

/-! ## The race -/

/-- {lit}`Start` reads {lit}`canStart = 1`; the sync starts and {lit}`update`
stores {lit}`canStart = 0` and reads {lit}`mining = 0`; then {lit}`Start`
stores {lit}`mining = 1` and starts the worker. -/
def raceSchedule : List Action :=
  [.setStarNodeFlag, .spawnStart, .call 0, .call 0, .call 0, .call 0, .call 0,
   .recvStart, .update, .update, .call 0, .call 0]

/-- On the three-node roster of the spec's scenarios the race leaves the node
mining inside the sync window, with {lit}`update` back at its event loop. -/
theorem mining_while_syncing :
    ∃ s, Reachable scenarioRoster s ∧
      s.syncing = true ∧ s.update = .wait ∧ s.shared.mining = 1 ∧ s.shared.workerRunning = true :=
  ⟨_, reachable_of_run .init (show run _ init raceSchedule = some _ from rfl), rfl, rfl, rfl, rfl⟩

end Miner

end LoveBlock
