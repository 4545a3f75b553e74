import LoveBlock.Miner

/-!
# LoveBlock - What every run of the miner keeps

The miner's words are written by few threads: only {lit}`SetStarNodeFlag`
writes {lit}`starNodeFlag`, only {lit}`update` writes {lit}`canStart`, and
{lit}`mining` is set to one only by a {lit}`Start` body that has passed both its
checks.  This module turns those facts into invariants of every interleaving of
{lit}`update`, the downloader's events and any number of {lit}`Start` and
{lit}`Stop` calls.

Main results:

- Theorem {lit}`mining_off_of_not_star`: in every run, while
  {lit}`SetStarNodeFlag` has not run, and on an empty roster, {lit}`mining` is
  zero and the worker is off.
- Theorem {lit}`canStart_stays_after_sync`: once {lit}`update` has handled the
  end of the sync, {lit}`canStart` is one in that state and in every later
  state of the run, so no later event makes {lit}`Start` wait for a sync.
-/

namespace LoveBlock

namespace Miner

variable {r : Roster} {sh : Shared} {s t : State} {a : Action}

/-- Some step of the run relation leads from {lit}`s` to {lit}`t`. -/
def Steps (r : Roster) (s t : State) : Prop := ∃ a, step r s a = some t

/-- The states reached from a reachable state are reachable. -/
theorem Reachable.of_steps (hr : Reachable r s) (h : Relation.ReflTransGen (Steps r) s t) :
    Reachable r t := by
  induction h with
  | refl => exact hr
  | tail _ hst ih => exact .step _ ih hst.choose_spec

/-! ## Who writes the star-node flag -/

@[simp]
theorem startStep_starNodeFlag (p : StartPc) :
    (startStep r sh p).2.starNodeFlag = sh.starNodeFlag := by
  cases p <;> rfl

@[simp]
theorem stopStep_starNodeFlag (p : StopPc) : (stopStep sh p).2.starNodeFlag = sh.starNodeFlag := by
  cases p <;> rfl

@[simp]
theorem callStep_starNodeFlag (c : Call) : (callStep r sh c).2.starNodeFlag = sh.starNodeFlag := by
  cases c <;> simp [callStep]

@[simp]
theorem updateStep_starNodeFlag (p : UpdatePc) :
    (updateStep r sh p).2.starNodeFlag = sh.starNodeFlag := by
  rcases p with _ | _ | _ | p | _ | _ | b | b | p | _ <;> first | (cases p <;> rfl) | rfl

/-! ## A node that is not a star node never mines -/

/-- A {lit}`Start` body has passed its star-node check. -/
def StartPc.pastFlag : StartPc → Bool
  | .loadFlag | .done => false
  | _ => true

/-- A {lit}`Start` body has passed both its checks. -/
def StartPc.pastChecks : StartPc → Bool
  | .loadFlag | .countNodes | .done => false
  | _ => true

/-- Not mining, and the worker off. -/
def Quiet (sh : Shared) : Prop := sh.mining = 0 ∧ sh.workerRunning = false

/-- A {lit}`Start` body at {lit}`p` that can never store {lit}`mining = 1`: it
has not passed the star-node check while the flag is zero, nor both checks on
an empty roster. -/
def Blocked (r : Roster) (flag : Nat) (p : StartPc) : Prop :=
  (flag = 0 → p.pastFlag = false) ∧ (r.getCoreNodesCount = 0 → p.pastChecks = false)

/-- A blocked {lit}`Start` body stays blocked, and while the flag is zero or
the roster empty its step writes no shared word. -/
theorem startStep_blocked {p : StartPc} (h : Blocked r sh.starNodeFlag p) :
    Blocked r sh.starNodeFlag (startStep r sh p).1 ∧
      (sh.starNodeFlag = 0 ∨ r.getCoreNodesCount = 0 → (startStep r sh p).2 = sh) := by
  obtain ⟨hf, hn⟩ := h
  cases p with
  | loadFlag =>
    by_cases h0 : sh.starNodeFlag = 0 <;>
      simp [startStep, Blocked, h0, StartPc.pastFlag, StartPc.pastChecks]
  | countNodes =>
    have h0 : sh.starNodeFlag ≠ 0 := fun h => absurd (hf h) (by decide)
    by_cases hN : r.getCoreNodesCount = 0 <;>
      simp [startStep, Blocked, h0, hN, StartPc.pastFlag, StartPc.pastChecks]
  | done => exact ⟨⟨hf, hn⟩, fun _ => rfl⟩
  | _ =>
    -- past both checks: the flag is set and the roster is not empty
    have h0 : sh.starNodeFlag ≠ 0 := fun h => absurd (hf h) (by decide)
    have hN : r.getCoreNodesCount ≠ 0 := fun h => absurd (hn h) (by decide)
    exact ⟨⟨fun h => absurd h h0, fun h => absurd h hN⟩, fun h => by omega⟩

theorem stopStep_quiet {p : StopPc} (h : Quiet sh) : Quiet (stopStep sh p).2 := by
  cases p <;> simp_all [stopStep, Quiet]

/-- A call keeps the node quiet while the flag is zero or the roster empty, and
a blocked {lit}`Start` call stays blocked. -/
theorem callStep_blocked {c : Call}
    (hq : sh.starNodeFlag = 0 ∨ r.getCoreNodesCount = 0 → Quiet sh)
    (hb : ∀ q, c = .start q → Blocked r sh.starNodeFlag q) :
    (sh.starNodeFlag = 0 ∨ r.getCoreNodesCount = 0 → Quiet (callStep r sh c).2) ∧
      ∀ q, (callStep r sh c).1 = .start q → Blocked r sh.starNodeFlag q := by
  cases c with
  | start p =>
    obtain ⟨hb', hsh⟩ := startStep_blocked (hb p rfl)
    exact ⟨fun h => (hsh h).symm ▸ hq h, fun q h => by cases h; exact hb'⟩
  | stop p => exact ⟨fun h => stopStep_quiet (hq h), nofun⟩

/-- {lit}`update` keeps the node quiet while the flag is zero or the roster
empty, and a {lit}`Start` it runs is blocked from its first step on. -/
theorem updateStep_blocked {p : UpdatePc}
    (hq : sh.starNodeFlag = 0 ∨ r.getCoreNodesCount = 0 → Quiet sh)
    (hb : ∀ q, p = .start q → Blocked r sh.starNodeFlag q) :
    (sh.starNodeFlag = 0 ∨ r.getCoreNodesCount = 0 → Quiet (updateStep r sh p).2) ∧
      ∀ q, (updateStep r sh p).1 = .start q → Blocked r sh.starNodeFlag q := by
  have hloadFlag : Blocked r sh.starNodeFlag .loadFlag := ⟨fun _ => rfl, fun _ => rfl⟩
  rcases p with _ | _ | _ | p | _ | _ | b | b | p | _
  · exact ⟨hq, nofun⟩
  · exact ⟨fun h => hq h, nofun⟩
  · refine ⟨hq, fun q h => ?_⟩
    simp only [updateStep] at h
    split_ifs at h
  · cases p <;> first | exact ⟨fun h => stopStep_quiet (hq h), nofun⟩ | exact ⟨hq, nofun⟩
  · exact ⟨fun h => hq h, nofun⟩
  · exact ⟨hq, nofun⟩
  · exact ⟨fun h => hq h, nofun⟩
  · refine ⟨fun h => hq h, fun q h => ?_⟩
    simp only [updateStep] at h
    split_ifs at h
    cases h
    exact hloadFlag
  · -- the restart after the sync is a `Start` body like any other
    obtain ⟨hb', hsh⟩ := startStep_blocked (hb p rfl)
    cases p
    case done => exact ⟨hq, nofun⟩
    all_goals
      refine ⟨fun h => (hsh h).symm ▸ hq h, fun q h => ?_⟩
      cases h
      exact hb'
  · exact ⟨hq, nofun⟩

/-- The invariant of a node that is not a star node: while the flag is zero or
the roster empty the node is quiet, and every {lit}`Start` body in flight,
called or run by {lit}`update`, is blocked. -/
structure NotStarInv (r : Roster) (s : State) : Prop where
  quiet : s.shared.starNodeFlag = 0 ∨ r.getCoreNodesCount = 0 → Quiet s.shared
  calls_blocked : ∀ p, Call.start p ∈ s.calls → Blocked r s.shared.starNodeFlag p
  update_blocked : ∀ p, s.update = .start p → Blocked r s.shared.starNodeFlag p

theorem NotStarInv.init : NotStarInv r init :=
  ⟨fun _ => ⟨rfl, rfl⟩, fun _ h => (by cases h), nofun⟩

/-- Once the flag is set, only the roster can block a {lit}`Start` body. -/
theorem Blocked.setFlag {p : StartPc} {f : Nat} (h : Blocked r f p) : Blocked r 1 p :=
  ⟨fun h1 => absurd h1 one_ne_zero, h.2⟩

/-- Every step keeps the invariant. -/
theorem NotStarInv.step (hi : NotStarInv r s) (h : step r s a = some t) : NotStarInv r t := by
  cases a with
  | setStarNodeFlag =>
    cases h
    exact ⟨fun h => hi.quiet (.inr (h.resolve_left one_ne_zero)),
      fun p hp => (hi.calls_blocked p hp).setFlag, fun p hp => (hi.update_blocked p hp).setFlag⟩
  | spawnStart =>
    cases h
    refine { hi with calls_blocked := fun p hp => ?_ }
    rcases List.mem_append.1 hp with hp | hp
    · exact hi.calls_blocked p hp
    · obtain rfl : p = .loadFlag := by simpa using hp
      exact ⟨fun _ => rfl, fun _ => rfl⟩
  | spawnStop =>
    cases h
    exact { hi with calls_blocked := fun p hp => hi.calls_blocked p (by simpa using hp) }
  | call k =>
    simp only [step] at h
    split at h
    · rename_i c hc
      split_ifs at h
      cases h
      obtain ⟨hq, hb⟩ := callStep_blocked hi.quiet
        fun q hq => hi.calls_blocked q (hq ▸ List.getElem?_mem hc)
      refine ⟨fun h => hq (by simpa using h), fun p hp => ?_,
        fun p hp => by simpa using hi.update_blocked p hp⟩
      -- the stepped call, or a member the step leaves alone
      simp only [callStep_starNodeFlag]
      rcases List.mem_or_eq_of_mem_set hp with hp | he
      · exact hi.calls_blocked p hp
      · exact hb p he.symm
    · cases h
  | update =>
    simp only [step] at h
    split_ifs at h
    cases h
    obtain ⟨hq, hb⟩ := updateStep_blocked (p := s.update) hi.quiet hi.update_blocked
    exact ⟨fun h => hq (by simpa using h), fun p hp => by simpa using hi.calls_blocked p hp,
      fun p hp => by simpa using hb p hp⟩
  | recvStart | recvDone =>
    simp only [step] at h
    split_ifs at h
    cases h
    exact { hi with update_blocked := nofun }

theorem NotStarInv.reachable (hr : Reachable r s) : NotStarInv r s := by
  induction hr with
  | init => exact NotStarInv.init
  | step _ _ h ih => exact ih.step h

/-- A node that is not a star node never mines: in every run, whatever the
interleaving of {lit}`update`, the downloader's events and the calls of
{lit}`Start` and {lit}`Stop`, while {lit}`SetStarNodeFlag` has not run, and on
an empty roster, {lit}`mining` is zero and the worker is off. -/
theorem mining_off_of_not_star (hr : Reachable r s)
    (h : s.shared.starNodeFlag = 0 ∨ r.getCoreNodesCount = 0) :
    s.shared.mining = 0 ∧ s.shared.workerRunning = false :=
  (NotStarInv.reachable hr).quiet h

/-- A {lit}`Start` call and a sync on a node that is not a star node. -/
theorem mining_off_of_not_star_scenario :
    ∃ s, Reachable scenarioRoster s ∧ s.shared.starNodeFlag = 0 ∧ s.shared.canStart = 0 ∧
      s.shared.mining = 0 ∧ s.shared.workerRunning = false := by
  have hr := reachable_of_run .init (show run scenarioRoster init
    [.spawnStart, .call 0, .recvStart, .update, .update] = some _ from rfl)
  exact ⟨_, hr, rfl, rfl, mining_off_of_not_star hr (.inl rfl)⟩

/-! ## The sync is handled once -/

/-- {lit}`update` has stored {lit}`canStart = 1` at the end of the sync: it is
past that store in the {lit}`DoneEvent` case, or out of its loop. -/
def UpdatePc.syncEnded : UpdatePc → Bool
  | .storeShould0 _ | .start _ | .exited => true
  | _ => false

/-- Past the end of the sync {lit}`update` stays past it. -/
theorem updateStep_syncEnded_of_syncEnded {p : UpdatePc} (h : p.syncEnded = true) :
    (updateStep r sh p).1.syncEnded = true := by
  rcases p with _ | _ | _ | p | _ | _ | b | b | p | _ <;> try cases h
  · cases b <;> rfl
  · cases p <;> rfl
  · rfl

/-- {lit}`update` gets past the end of the sync only by storing
{lit}`canStart = 1`, and once past it leaves {lit}`canStart` alone. -/
theorem updateStep_syncEnded {p : UpdatePc} (h : (updateStep r sh p).1.syncEnded = true) :
    (p.syncEnded = true ∧ (updateStep r sh p).2.canStart = sh.canStart) ∨
      (updateStep r sh p).2.canStart = 1 := by
  rcases p with _ | _ | _ | p | _ | _ | b | b | p | _
  · cases h
  · cases h
  · simp only [updateStep] at h
    split_ifs at h <;> cases h
  · cases p <;> cases h
  · cases h
  · cases h
  · exact .inr rfl
  · exact .inl ⟨rfl, rfl⟩
  · exact .inl ⟨rfl, by cases p <;> simp [updateStep]⟩
  · exact .inl ⟨rfl, rfl⟩

/-- What one step does to {lit}`update` and {lit}`canStart`: an {lit}`update`
step runs {lit}`updateStep`, an event of the downloader moves a waiting
{lit}`update` to a store before the end of the sync, and every other step
leaves both alone. -/
theorem step_update_canStart (hs : step r s a = some t) :
    (t.update = (updateStep r s.shared s.update).1 ∧
        t.shared.canStart = (updateStep r s.shared s.update).2.canStart) ∨
      (s.update = .wait ∧ t.update.syncEnded = false) ∨
      (t.update = s.update ∧ t.shared.canStart = s.shared.canStart) := by
  cases a with
  | update =>
    simp only [step] at hs
    split_ifs at hs
    cases hs
    exact .inl ⟨rfl, rfl⟩
  | recvStart | recvDone =>
    simp only [step] at hs
    split_ifs at hs with hw
    cases hs
    exact .inr (.inl ⟨hw, rfl⟩)
  | setStarNodeFlag | spawnStart | spawnStop =>
    cases hs
    exact .inr (.inr ⟨rfl, rfl⟩)
  | call k =>
    simp only [step] at hs
    split at hs
    · split_ifs at hs
      cases hs
      exact .inr (.inr ⟨rfl, callStep_canStart _⟩)
    · cases hs

/-- Every step from a state past the end of the sync stays past it: the
downloader's events reach {lit}`update` only while it waits. -/
theorem syncEnded_step (h : s.update.syncEnded = true) (hs : step r s a = some t) :
    t.update.syncEnded = true := by
  rcases step_update_canStart hs with ⟨hu, -⟩ | ⟨hw, -⟩ | ⟨hu, -⟩
  · exact hu ▸ updateStep_syncEnded_of_syncEnded h
  · rw [hw] at h
    cases h
  · exact hu ▸ h

/-- Past the end of the sync {lit}`canStart` is one. -/
theorem canStart_of_syncEnded (hr : Reachable r s) (h : s.update.syncEnded = true) :
    s.shared.canStart = 1 := by
  induction hr with
  | init => cases h
  | step _ _ hst ih =>
    rcases step_update_canStart hst with ⟨hu, hc⟩ | ⟨-, hf⟩ | ⟨hu, hc⟩
    · -- `update` either was past the end already or stores `canStart = 1` now
      rw [hu] at h
      rcases updateStep_syncEnded h with ⟨hp, hc'⟩ | hc'
      · exact hc.trans (hc'.trans (ih hp))
      · exact hc.trans hc'
    · rw [hf] at h
      cases h
    · exact hc.trans (ih (hu ▸ h))

/-- The sync is handled once: from a state of a run in which {lit}`update` has
handled the end of the sync, in every later state {lit}`canStart` is one and
{lit}`update` is still past that point, so no later event of the downloader and
no call makes {lit}`Start` wait for a sync. -/
theorem canStart_stays_after_sync (hr : Reachable r s) (hend : s.update.syncEnded = true)
    (hrun : Relation.ReflTransGen (Steps r) s t) :
    t.shared.canStart = 1 ∧ t.update.syncEnded = true := by
  have hend' : t.update.syncEnded = true := by
    induction hrun with
    | refl => exact hend
    | tail _ hst ih => exact syncEnded_step ih hst.choose_spec
  exact ⟨canStart_of_syncEnded (hr.of_steps hrun) hend', hend'⟩

/-- The end of a sync that found the node not mining. -/
theorem canStart_stays_after_sync_scenario :
    ∃ s, Reachable scenarioRoster s ∧ s.update.syncEnded = true ∧
      s.shared.canStart = 1 ∧ s.update.syncEnded = true := by
  have hr := reachable_of_run .init (show run scenarioRoster init
    [.recvStart, .update, .update, .recvDone, .update, .update] = some _ from rfl)
  exact ⟨_, hr, rfl, canStart_stays_after_sync hr rfl .refl⟩

end Miner

end LoveBlock
