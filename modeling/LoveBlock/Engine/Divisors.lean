import LoveBlock.Engine.Turn

/-!
# LoveBlock - The divisors of the rotation stage

{lit}`New` copies {lit}`Timeout` and {lit}`Sleeptime` out of the configuration
without a check, and the test constructors leave both zero.  The rotation and
timing stage divides the time span by the loop length
{lit}`oneLoopTime = int64(N) * timeoutTime`, computed in wrapping
{lit}`int64`, and the remainder by {lit}`timeoutTime`.  This module locates
every panic of {lit}`verifyHeader` and gives the configurations that reach one.

Main results:

- Theorem {lit}`checkTurn_eq_divideByZero_iff`: the stage panics exactly when
  the loop length is zero as an {lit}`int64` and the header reaches a
  {lit}`%`; the division by {lit}`timeoutTime` never panics.
- Theorem {lit}`verifyHeader_eq_divideByZero_iff`: only the rotation and
  timing stage panics, after every earlier stage passed.
- Theorem {lit}`verifyHeader_ne_divideByZero`: with a positive turn length
  whose loop fits in {lit}`int64`, {lit}`verifyHeader` never panics.
- Theorem {lit}`zeroConfigEngine_checkTurn_eq_divideByZero_iff`: the engine of
  the test constructors panics on every header with a non-negative time span,
  in every roster but a single node.
-/

namespace LoveBlock

namespace Dpovp

variable {d : Dpovp} {cr : Crypto} {r : Roster} {chain : ChainReader} {parent header : Header}
  {parents : List Header} {now : Int}

/-! ## Where the stage divides -/

/-- A non-zero loop length has a non-zero turn length. -/
theorem timeoutTime_ne_zero_of_loop (h : toInt64 (r.getCoreNodesCount * d.timeoutTime) ≠ 0) :
    d.timeoutTime ≠ 0 := by
  rintro h0
  simp [h0, toInt64] at h

/-- A check that fails with a rotation error is never the panic verdict. -/
theorem ite_ok_ne_divideByZero {c : Prop} [Decidable c] {k : Nat} :
    (if c then Except.ok () else Except.error (VerifyError.notTurn k)) ≠ .error .divideByZero := by
  split <;> simp

/-- The stage panics exactly when the gap passes the minimum, the roster is not
a single node, the loop length is zero as an {lit}`int64`, and the header
reaches a {lit}`%`: every slot does, but the successor's within a lap only for a
non-negative span.  The division by {lit}`timeoutTime` comes after a
{lit}`%` by a non-zero loop length, so it never panics. -/
theorem checkTurn_eq_divideByZero_iff :
    d.checkTurn r parent header = .error .divideByZero ↔
      d.blockInternal ≤ timeSpan parent header ∧ r.getCoreNodesCount ≠ 1 ∧
        toInt64 (r.getCoreNodesCount * d.timeoutTime) = 0 ∧
        (r.getSlot parent.coinbase header.coinbase = 1 → 0 ≤ timeSpan parent header) := by
  unfold checkTurn
  by_cases hΔ : timeSpan parent header < d.blockInternal
  · simp only [if_pos hΔ, except_throw, except_error_bind]
    exact iff_of_false nofun fun h => absurd h.1 (not_le.2 hΔ)
  by_cases h1 : r.getCoreNodesCount = 1
  · simp [hΔ, h1]
  simp only [hΔ, not_lt.1 hΔ, h1, if_false, except_pure, except_ok_bind, not_false_eq_true, ne_eq,
    true_and]
  rcases eq_or_ne (toInt64 (r.getCoreNodesCount * d.timeoutTime)) 0 with hL | hL
  · -- a zero loop length: every `%` the stage reaches panics
    simp only [hL, goMod_zero, true_and]
    by_cases h0 : r.getSlot parent.coinbase header.coinbase = 0
    · simp [h0]
    by_cases h1' : r.getSlot parent.coinbase header.coinbase = 1
    · by_cases hneg : timeSpan parent header < 0
      · simp only [if_neg h0, if_pos h1', if_pos hneg, except_pure, except_throw]
        exact iff_of_false ite_ok_ne_divideByZero fun h => absurd (h h1') (not_le.2 hneg)
      · simp [h1', hneg, not_lt.1 hneg]
    · simp [h0, h1']
  · -- both divisors are non-zero, so every failure is a rotation error
    simp only [goMod, goDiv, if_neg hL, if_neg (timeoutTime_ne_zero_of_loop hL), hL, false_and,
      iff_false, except_pure, except_throw]
    by_cases h0 : r.getSlot parent.coinbase header.coinbase = 0
    · simp only [if_pos h0]
      exact ite_ok_ne_divideByZero
    by_cases h1' : r.getSlot parent.coinbase header.coinbase = 1
    · simp only [if_neg h0, if_pos h1']
      split <;> exact ite_ok_ne_divideByZero
    · simp only [if_neg h0, if_neg h1']
      exact ite_ok_ne_divideByZero

/-! ## Only the rotation stage panics -/

theorem selectParent_ne_divideByZero :
    selectParent cr chain header parents ≠ .error .divideByZero := by
  unfold selectParent
  split
  · nofun
  · split <;> nofun

theorem checkSigner_ne_divideByZero : checkSigner cr r header ≠ .error .divideByZero := by
  unfold checkSigner
  split
  · nofun
  · split
    · nofun
    · split <;> nofun

/-- {lit}`verifyHeader` panics exactly when every earlier stage passes, the
parent is not taken for the genesis, and the rotation and timing stage panics. -/
theorem verifyHeader_eq_divideByZero_iff :
    d.verifyHeader cr r chain header parents now = .error .divideByZero ↔
      toUint64 header.difficulty = 1 ∧
      ∃ parent, selectParent cr chain header parents = .ok parent ∧ (header.time : Int) ≤ now ∧
        checkSigner cr r header = .ok () ∧ toUint64 parent.number ≠ 0 ∧
        d.checkTurn r parent header = .error .divideByZero := by
  unfold verifyHeader
  by_cases hd : toUint64 header.difficulty = 1
  · cases hp : selectParent cr chain header parents with
    | error e =>
      simpa [hd, hp] using fun h : e = _ => selectParent_ne_divideByZero (h ▸ hp)
    | ok parent =>
      by_cases ht : now < header.time
      · simp [hd, hp, ht]
      cases hs : checkSigner cr r header with
      | error e =>
        simpa [hd, hp, ht, hs] using fun h : e = _ => checkSigner_ne_divideByZero (h ▸ hs)
      | ok u =>
        by_cases hg : toUint64 parent.number = 0 <;> simp [hd, hp, hs, hg, ht, not_lt.1 ht]
  · simp [hd]

/-- With a positive turn length whose loop of turns fits in {lit}`int64`,
{lit}`verifyHeader` returns a verdict without a run-time panic: a header that
reaches the stage is by a star node, so the roster is not empty and the loop
length is positive. -/
theorem verifyHeader_ne_divideByZero (hT : 0 < d.timeoutTime)
    (hL : (r.getCoreNodesCount : Int) * d.timeoutTime < 2 ^ 63) :
    d.verifyHeader cr r chain header parents now ≠ .error .divideByZero := by
  intro h
  obtain ⟨-, parent, -, -, hs, -, hturn⟩ := verifyHeader_eq_divideByZero_iff.1 h
  have hN : 0 < r.getCoreNodesCount := by
    simpa using List.length_pos_of_mem (mem_addresses_of_checkSigner hs)
  have hpos : 0 < (r.getCoreNodesCount : Int) * d.timeoutTime := mul_pos (by omega) hT
  obtain ⟨-, -, h0, -⟩ := checkTurn_eq_divideByZero_iff.1 hturn
  rw [toInt64_of_range (by omega) hL] at h0
  exact hpos.ne' h0

/-- A header still in the future when the clock is read stops at the
future-block guard or before it, so {lit}`verifyHeader` does not panic on it. -/
theorem verifyHeader_ne_divideByZero_of_lt (h : now < header.time) :
    d.verifyHeader cr r chain header parents now ≠ .error .divideByZero := fun hv =>
  let ⟨_, _, _, ht, _⟩ := verifyHeader_eq_divideByZero_iff.1 hv
  absurd ht (not_le.2 h)

/-! ## Configurations that reach a zero divisor -/

/-- The engine of the test constructors panics on every header whose time span
is not negative, in every roster but a single node: both durations are zero, so
the loop length is zero and the first guard passes. -/
theorem zeroConfigEngine_checkTurn_eq_divideByZero_iff :
    zeroConfigEngine.checkTurn r parent header = .error .divideByZero ↔
      r.getCoreNodesCount ≠ 1 ∧ 0 ≤ timeSpan parent header := by
  rw [checkTurn_eq_divideByZero_iff]
  have h0 : toInt64 ((r.getCoreNodesCount : Int) * 0) = 0 := by simp [toInt64]
  simp only [zeroConfigEngine, h0, true_and]
  exact ⟨fun h => ⟨h.2.1, h.1⟩, fun h => ⟨h.2, h.1, fun _ => h.2⟩⟩

/-- Four producers A, B, C, D at addresses 1 to 4 holding keys 11 to 14. -/
def fourRoster : Roster := ⟨[⟨1, [11]⟩, ⟨2, [12]⟩, ⟨3, [13]⟩, ⟨4, [14]⟩], by decide⟩

/-- The engine {lit}`New` builds for A from {lit}`Timeout = 2^62 ms` and
{lit}`Sleeptime = 3 000 ms`, a configuration with {lit}`0 < Sleeptime < Timeout`. -/
def longTurnEngine : Dpovp := Dpovp.new ⟨2 ^ 62, 3000⟩ 1

/-- B's header five seconds after A's block panics in {lit}`NewFaker`'s engine
on the scenarios' three nodes, and in the engine of a configuration with
{lit}`0 < Sleeptime < Timeout` on four nodes, whose loop length wraps to zero.
On three nodes that engine's loop length wraps to a negative value, and A's own
header three seconds after its block is accepted, a self-succession the rule
on exact integers rejects. -/
theorem verifyHeader_loop_length_unchecked :
    newFaker.verifyHeader symbolicCrypto scenarioRoster emptyChain (scenarioHeader 1 2 2 1000005)
        [scenarioHeader 0 1 1 1000000] 1000005 = .error .divideByZero ∧
    (0 < longTurnEngine.blockInternal ∧ longTurnEngine.blockInternal < longTurnEngine.timeoutTime) ∧
    longTurnEngine.verifyHeader symbolicCrypto fourRoster emptyChain (scenarioHeader 1 2 2 1000005)
        [scenarioHeader 0 1 1 1000000] 1000005 = .error .divideByZero ∧
    toInt64 (scenarioRoster.getCoreNodesCount * longTurnEngine.timeoutTime) ≠
      scenarioRoster.getCoreNodesCount * longTurnEngine.timeoutTime ∧
    longTurnEngine.verifyHeader symbolicCrypto scenarioRoster emptyChain
        (scenarioHeader 1 1 2 1000003) [scenarioHeader 0 1 1 1000000] 1000003 = .ok () ∧
    turnRule scenarioRoster.getCoreNodesCount longTurnEngine.timeoutTime
      longTurnEngine.blockInternal (scenarioRoster.getSlot 1 1) (1000 * (1000003 - 1000000)) =
        false :=
  ⟨rfl, by decide, rfl, by decide, rfl, by decide⟩

end Dpovp

end LoveBlock
