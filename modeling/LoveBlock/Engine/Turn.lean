import LoveBlock.Engine

/-!
# LoveBlock - Turns of the producer rotation

The rotation and timing stage of {lit}`verifyHeader` decides, from the gap
{lit}`Δ` between parent and header and the slot of the header's producer after
the parent's, whether the producer is on turn.  This module states the rule as
the spec words it, on exact integers ({lit}`turnRule`), shows that the Go stage
computes it whenever the configuration is regular and the times fit in
{lit}`int64` milliseconds, and derives that the turns partition every loop of
{lit}`N * Timeout` milliseconds among the star nodes.

Main results:

- Theorem {lit}`checkTurn_eq_ok_iff_turnRule`: the Go stage refines the
  integer rule.
- Theorem {lit}`turnRule_iff`: the rule accepts exactly the gaps of at least
  {lit}`Sleeptime` whose turn index is one before the slot, on the ring.
- Theorem {lit}`checkTurn_partition`: every gap of at least {lit}`Sleeptime`
  belongs to exactly one star node.
- Theorem {lit}`exists_turn_in_every_loop`: with turns of at least a second,
  every star node has a turn in every loop past {lit}`Sleeptime`.
-/

namespace LoveBlock

namespace Dpovp

/-- The rotation and timing rule in the spec's words, on exact integers: a gap
{lit}`Δ` (ms) is accepted for a producer at {lit}`slot` when it is at least
{lit}`S`, and then always for a single node; after a full lap for
self-succession; inside the first turn (of the first loop, or of a later one)
for the immediate successor; and inside turn {lit}`slot - 1` of its loop
otherwise. -/
def turnRule (N T S slot Δ : Int) : Bool :=
  if Δ < S then false
  else if N = 1 then true
  else if slot = 0 then decide (N * T - T ≤ Δ % (N * T))
  else if slot = 1 then
    if Δ < N * T then decide (S ≤ Δ ∧ Δ < T) else decide (Δ % (N * T) < T)
  else decide (Δ % (N * T) / T = slot - 1)

/-- A regular configuration: both durations positive and one loop of turns
representable in {lit}`int64`. -/
structure Regular (d : Dpovp) (r : Roster) : Prop where
  blockInternal_pos : 0 < d.blockInternal
  timeoutTime_pos : 0 < d.timeoutTime
  loop_lt : (r.getCoreNodesCount : Int) * d.timeoutTime < 2 ^ 63

/-! ## Arithmetic of turns -/

/-- The turn index of {lit}`m` is {lit}`k` exactly on the {lit}`k`-th window. -/
theorem ediv_eq_iff_window {m T k : Int} (hT : 0 < T) :
    m / T = k ↔ k * T ≤ m ∧ m < (k + 1) * T := by
  rw [le_antisymm_iff, Int.le_ediv_iff_mul_le hT, ← Int.lt_add_one_iff,
    Int.ediv_lt_iff_lt_mul hT, and_comm]

/-- The rule accepts exactly the gaps of at least {lit}`S` whose turn index in
their loop is one before the slot on the ring of {lit}`N`. -/
theorem turnRule_iff {N T S slot Δ : Int} (hN : 0 < N) (hT : 0 < T) (hS : 0 < S)
    (hs0 : 0 ≤ slot) (hsN : slot < N) :
    turnRule N T S slot Δ = true ↔ S ≤ Δ ∧ Δ % (N * T) / T = (slot + N - 1) % N := by
  have hL : 0 < N * T := mul_pos hN hT
  have hm0 : 0 ≤ Δ % (N * T) := Int.emod_nonneg _ hL.ne'
  have hmL : Δ % (N * T) < N * T := Int.emod_lt_of_pos _ hL
  unfold turnRule
  by_cases hΔ : Δ < S
  · simp [hΔ]
  rw [if_neg hΔ]
  simp only [not_lt.1 hΔ, true_and]
  by_cases h1 : N = 1
  · subst h1
    obtain rfl : slot = 0 := by omega
    simp only [if_pos, one_mul, true_iff]
    exact Int.ediv_eq_zero_of_lt (Int.emod_nonneg _ hT.ne') (Int.emod_lt_of_pos _ hT)
  rw [if_neg h1]
  by_cases h0 : slot = 0
  · subst h0
    have e : (0 + N - 1) % N = N - 1 := by
      rw [Int.emod_eq_of_lt (by omega) (by omega)]
      omega
    rw [if_pos rfl, e, ediv_eq_iff_window hT, decide_eq_true_eq, sub_add_cancel, sub_mul, one_mul]
    exact ⟨fun h => ⟨h, hmL⟩, And.left⟩
  rw [if_neg h0]
  by_cases h1' : slot = 1
  · subst h1'
    have e : (1 + N - 1) % N = 0 := by simp
    rw [if_pos rfl, e, ediv_eq_iff_window hT]
    simp only [zero_mul, zero_add, one_mul, hm0, true_and]
    split
    · rename_i hlt
      rw [Int.emod_eq_of_lt (by omega) hlt]
      simp
    · simp
  · have e : (slot + N - 1) % N = slot - 1 := by
      rw [show slot + N - 1 = slot - 1 + N by ring, Int.add_emod_self,
        Int.emod_eq_of_lt (by omega) (by omega)]
    rw [if_neg h1', e, decide_eq_true_eq]

/-! ## The Go stage computes the rule -/

section Regular

variable {d : Dpovp} {r : Roster} {parent header : Header}

/-- A check that passes or fails with an error passes exactly when its condition holds. -/
theorem ite_ok_eq_ok {c : Prop} [Decidable c] {e : VerifyError} :
    (if c then Except.ok () else Except.error e) = (Except.ok () : Except VerifyError Unit) ↔ c := by
  split_ifs with h <;> simp [h]

/-- In a regular configuration, with times that fit in {lit}`int64`
milliseconds, the Go stage accepts exactly what the integer rule accepts. -/
theorem checkTurn_eq_ok_iff_turnRule (hreg : d.Regular r) (hN : 0 < r.getCoreNodesCount)
    (hp : parent.time ≤ (2 ^ 63 - 1) / 1000) (hh : header.time ≤ (2 ^ 63 - 1) / 1000) :
    d.checkTurn r parent header = .ok () ↔
      turnRule r.getCoreNodesCount d.timeoutTime d.blockInternal
        (r.getSlot parent.coinbase header.coinbase)
        (1000 * ((header.time : Int) - parent.time)) = true := by
  obtain ⟨hS, hT, hLt⟩ := hreg
  have hs := r.getSlot_nonneg_le parent.coinbase header.coinbase hN
  have hL : 0 < (r.getCoreNodesCount : Int) * d.timeoutTime := mul_pos (by omega) hT
  have hTL : d.timeoutTime ≤ (r.getCoreNodesCount : Int) * d.timeoutTime :=
    le_mul_of_one_le_left hT.le (by omega)
  have hNL : (r.getCoreNodesCount : Int) ≤ r.getCoreNodesCount * d.timeoutTime :=
    le_mul_of_one_le_right (by omega) (by omega)
  unfold checkTurn turnRule
  rw [timeSpan_eq hp hh]
  set Δ := 1000 * ((header.time : Int) - parent.time)
  have hm0 := Int.emod_nonneg Δ hL.ne'
  have hmL := Int.emod_lt_of_pos Δ hL
  by_cases hΔ : Δ < d.blockInternal
  · simp only [if_pos hΔ, except_throw, except_error_bind]
    exact iff_of_false nofun nofun
  -- on values that fit, every `int64` operation of the stage is exact
  simp only [if_neg hΔ, except_pure, except_throw, except_ok_bind, Nat.cast_eq_one,
    toInt64_of_range (x := (r.getCoreNodesCount : Int) * d.timeoutTime) (by omega) hLt,
    toInt64_of_range (x := (r.getCoreNodesCount : Int) * d.timeoutTime - d.timeoutTime)
      (by omega) (by omega),
    toInt64_of_range (x := r.getSlot parent.coinbase header.coinbase - 1) (by omega) (by omega),
    goMod_of_pos (show 0 ≤ Δ by omega) hL hLt, goDiv_of_pos hm0 hT (by omega)]
  by_cases h1 : r.getCoreNodesCount = 1
  · simp only [if_pos h1, if_neg hΔ]
  simp only [if_neg h1]
  -- both sides branch on the slot and, for the successor, on a full lap
  by_cases h0 : r.getSlot parent.coinbase header.coinbase = 0
  · simp only [if_pos h0, ite_ok_eq_ok, ge_iff_le, decide_eq_true_eq]
  by_cases h1' : r.getSlot parent.coinbase header.coinbase = 1
  · by_cases hlt : Δ < r.getCoreNodesCount * d.timeoutTime
    · simp only [if_neg h0, if_pos h1', if_pos hlt, ite_ok_eq_ok, ge_iff_le, decide_eq_true_eq]
    · simp only [if_neg h0, if_pos h1', if_neg hlt, ite_ok_eq_ok, decide_eq_true_eq]
  · simp only [if_neg h0, if_neg h1', ite_ok_eq_ok, decide_eq_true_eq]

/-- Between star nodes the stage accepts exactly the gaps of at least
{lit}`Sleeptime` whose turn index is one before the slot on the ring. -/
theorem checkTurn_eq_ok_iff (hreg : d.Regular r) (hp : parent.coinbase ∈ r.addresses)
    (hc : header.coinbase ∈ r.addresses) (hpt : parent.time ≤ (2 ^ 63 - 1) / 1000)
    (hht : header.time ≤ (2 ^ 63 - 1) / 1000) :
    d.checkTurn r parent header = .ok () ↔
      d.blockInternal ≤ 1000 * ((header.time : Int) - parent.time) ∧
      1000 * ((header.time : Int) - parent.time) % (r.getCoreNodesCount * d.timeoutTime) /
          d.timeoutTime =
        (r.getSlot parent.coinbase header.coinbase + r.getCoreNodesCount - 1) %
          r.getCoreNodesCount := by
  have hN : 0 < r.getCoreNodesCount := by
    simpa using List.length_pos_of_mem hp
  have hs := Roster.getSlot_lt hp hc
  rw [checkTurn_eq_ok_iff_turnRule hreg hN hpt hht,
    turnRule_iff (by omega) hreg.timeoutTime_pos hreg.blockInternal_pos hs.1 hs.2]

/-- Every gap of at least {lit}`Sleeptime` is the turn of exactly one star node. -/
theorem existsUnique_checkTurn (hreg : d.Regular r) (hp : parent.coinbase ∈ r.addresses)
    (hpt : parent.time ≤ (2 ^ 63 - 1) / 1000) (hht : header.time ≤ (2 ^ 63 - 1) / 1000)
    (hS : d.blockInternal ≤ 1000 * ((header.time : Int) - parent.time)) :
    ∃! c, c ∈ r.addresses ∧ d.checkTurn r parent { header with coinbase := c } = .ok () := by
  have hN : (0 : Int) < r.getCoreNodesCount := by
    simpa using List.length_pos_of_mem hp
  have hL : 0 < (r.getCoreNodesCount : Int) * d.timeoutTime := mul_pos hN hreg.timeoutTime_pos
  set w := 1000 * ((header.time : Int) - parent.time) % (r.getCoreNodesCount * d.timeoutTime) /
    d.timeoutTime
  have hw0 : 0 ≤ w := Int.ediv_nonneg (Int.emod_nonneg _ hL.ne') hreg.timeoutTime_pos.le
  have hwN : w < r.getCoreNodesCount :=
    (Int.ediv_lt_iff_lt_mul hreg.timeoutTime_pos).2 (Int.emod_lt_of_pos _ hL)
  -- a star node is on turn exactly when its ring distance from the parent's producer is `w`
  have hturn : ∀ c ∈ r.addresses, d.checkTurn r parent { header with coinbase := c } = .ok () ↔
      (r.getCoreNodeIndex c - r.getCoreNodeIndex parent.coinbase - 1) % r.getCoreNodesCount =
        w := fun c hc => by
    rw [checkTurn_eq_ok_iff hreg hp
        (show ({ header with coinbase := c } : Header).coinbase ∈ r.addresses from hc) hpt hht,
      Roster.getSlot_pred_emod hp hc]
    simp only [hS, true_and]
    exact eq_comm
  obtain ⟨b, ⟨hb, hbw⟩, huniq⟩ := Roster.existsUnique_ringDist (r := r) parent.coinbase hw0 hwN
  exact ⟨b, ⟨hb, (hturn b hb).2 hbw⟩, fun c ⟨hc, hcw⟩ => huniq c ⟨hc, (hturn c hc).1 hcw⟩⟩

/-- Turn assignment partitions every loop: the stage accepts a star node
exactly on its turns, and every gap of at least {lit}`Sleeptime` is the turn of
exactly one star node. -/
theorem checkTurn_partition (hreg : d.Regular r) (hp : parent.coinbase ∈ r.addresses)
    (hc : header.coinbase ∈ r.addresses) (hpt : parent.time ≤ (2 ^ 63 - 1) / 1000)
    (hht : header.time ≤ (2 ^ 63 - 1) / 1000) :
    (d.checkTurn r parent header = .ok () ↔
      d.blockInternal ≤ 1000 * ((header.time : Int) - parent.time) ∧
      1000 * ((header.time : Int) - parent.time) % (r.getCoreNodesCount * d.timeoutTime) /
          d.timeoutTime =
        (r.getSlot parent.coinbase header.coinbase + r.getCoreNodesCount - 1) %
          r.getCoreNodesCount) ∧
    (d.blockInternal ≤ 1000 * ((header.time : Int) - parent.time) →
      ∃! c, c ∈ r.addresses ∧ d.checkTurn r parent { header with coinbase := c } = .ok ()) :=
  ⟨checkTurn_eq_ok_iff hreg hp hc hpt hht, existsUnique_checkTurn hreg hp hpt hht⟩

/-- No star node is starved: with turns of at least a second, in every loop of
{lit}`N * Timeout` ms after the parent that begins at least {lit}`Sleeptime`
after it, every star node has a header time, in whole seconds, at which the
stage accepts it.  Header times are seconds, so with shorter turns a turn can
hold no whole second. -/
theorem exists_turn_in_every_loop (hreg : d.Regular r) (hT : 1000 ≤ d.timeoutTime)
    (hp : parent.coinbase ∈ r.addresses) {c : Address} (hc : c ∈ r.addresses) {m : Int}
    (hS : d.blockInternal ≤ m * (r.getCoreNodesCount * d.timeoutTime))
    (hfit : 1000 * (parent.time : Int) + (m + 1) * (r.getCoreNodesCount * d.timeoutTime) ≤
      2 ^ 63 - 1) :
    ∃ time : Nat, m * (r.getCoreNodesCount * d.timeoutTime) ≤ 1000 * ((time : Int) - parent.time) ∧
      1000 * ((time : Int) - parent.time) < (m + 1) * (r.getCoreNodesCount * d.timeoutTime) ∧
      d.checkTurn r parent { header with coinbase := c, time := time } = .ok () := by
  have hN : (0 : Int) < r.getCoreNodesCount := by simpa using List.length_pos_of_mem hp
  set N : Int := (r.getCoreNodesCount : Int)
  set T := d.timeoutTime
  set L := N * T
  have hL : 0 < L := mul_pos hN hreg.timeoutTime_pos
  have hmL : 0 < m * L := lt_of_lt_of_le hreg.blockInternal_pos hS
  -- the turn index of `c` in every loop, and the first whole second of that turn in loop `m`
  set k := (r.getSlot parent.coinbase c + N - 1) % N
  have hk0 : 0 ≤ k := Int.emod_nonneg _ hN.ne'
  have hkN : k < N := Int.emod_lt_of_pos _ hN
  have hkT : (k + 1) * T ≤ L := mul_le_mul_of_nonneg_right (by omega) hreg.timeoutTime_pos.le
  have hkT0 : 0 ≤ k * T := mul_nonneg hk0 hreg.timeoutTime_pos.le
  have hm1 : (m + 1) * L = m * L + L := by ring
  have hk1 : (k + 1) * T = k * T + T := by ring
  set x := m * L + k * T
  refine ⟨parent.time + ((x + 999) / 1000).toNat, ?_⟩
  have hΔ : 1000 * (((parent.time + ((x + 999) / 1000).toNat : Nat) : Int) - parent.time) =
      1000 * ((x + 999) / 1000) := by omega
  have hlo : x ≤ 1000 * ((x + 999) / 1000) := by omega
  have hhi : 1000 * ((x + 999) / 1000) < x + T := by omega
  rw [checkTurn_eq_ok_iff hreg hp hc (by omega) (by simp only; omega)]
  simp only [hΔ]
  generalize 1000 * ((x + 999) / 1000) = D at hlo hhi ⊢
  show m * L ≤ D ∧ D < (m + 1) * L ∧ d.blockInternal ≤ D ∧ D % L / T = k
  -- the gap lies in turn `k` of loop `m`
  have hmod : D % L = D - m * L := by
    conv_lhs => rw [show D = D - m * L + L * m by ring]
    rw [Int.add_mul_emod_self_left, Int.emod_eq_of_lt (by omega) (by omega)]
  refine ⟨by omega, by omega, by omega, ?_⟩
  rw [hmod]
  exact (ediv_eq_iff_window (T := T) hreg.timeoutTime_pos).2 ⟨by omega, by omega⟩

/-- C's turn in the second loop after A's block at second 1 000 000. -/
theorem exists_turn_in_every_loop_scenario :
    scenarioEngine.Regular scenarioRoster ∧ 1000 ≤ scenarioEngine.timeoutTime ∧
    1 ∈ scenarioRoster.addresses ∧ 3 ∈ scenarioRoster.addresses ∧
    scenarioEngine.blockInternal ≤ 1 * (scenarioRoster.getCoreNodesCount * scenarioEngine.timeoutTime) ∧
    1000 * ((scenarioHeader 0 1 1 1000000).time : Int) +
        (1 + 1) * (scenarioRoster.getCoreNodesCount * scenarioEngine.timeoutTime) ≤ 2 ^ 63 - 1 ∧
    ∃ time : Nat,
      1 * (scenarioRoster.getCoreNodesCount * scenarioEngine.timeoutTime) ≤
        1000 * ((time : Int) - (scenarioHeader 0 1 1 1000000).time) ∧
      1000 * ((time : Int) - (scenarioHeader 0 1 1 1000000).time) <
        (1 + 1) * (scenarioRoster.getCoreNodesCount * scenarioEngine.timeoutTime) ∧
      scenarioEngine.checkTurn scenarioRoster (scenarioHeader 0 1 1 1000000)
        { scenarioHeader 1 3 2 0 with coinbase := 3, time := time } = .ok () := by
  have hreg : scenarioEngine.Regular scenarioRoster := ⟨by decide, by decide, by decide⟩
  exact ⟨hreg, by decide, by decide, by decide, by decide, by decide,
    exists_turn_in_every_loop hreg (by decide) (by decide) (by decide) (by decide) (by decide)⟩

/-! ## What acceptance at an instant says -/

/-- {lit}`w(s)`: how long after the parent the first turn of a producer at slot
{lit}`s` begins, in ms: at once for the successor and for a single node, after
{lit}`s - 1` turns for a later producer, after the other {lit}`N - 1` turns for
self-succession. -/
def turnStart (N T slot : Int) : Int :=
  if N = 1 then 0 else if slot = 0 then (N - 1) * T else if slot = 1 then 0 else (slot - 1) * T

/-- A gap the rule accepts is at least {lit}`Sleeptime` and lies past the start
of the producer's first turn. -/
theorem turnRule_start {N T S slot Δ : Int} (hN : 0 < N) (hT : 0 < T) (hS : 0 < S)
    (h : turnRule N T S slot Δ = true) : S ≤ Δ ∧ turnStart N T slot ≤ Δ := by
  have hL : 0 < N * T := mul_pos hN hT
  unfold turnRule at h
  by_cases hΔ : Δ < S
  · simp [hΔ] at h
  rw [if_neg hΔ] at h
  refine ⟨not_lt.1 hΔ, ?_⟩
  -- the offset inside the loop is at most the gap itself
  have hmod : Δ % (N * T) ≤ Δ := by
    have := Int.emod_add_ediv Δ (N * T)
    have := mul_nonneg hL.le (Int.ediv_nonneg (by omega : 0 ≤ Δ) hL.le)
    omega
  unfold turnStart
  by_cases h1 : N = 1
  · rw [if_pos h1]
    omega
  by_cases h0 : slot = 0
  · simp only [if_neg h1, if_pos h0, decide_eq_true_eq] at h ⊢
    rw [sub_one_mul]
    omega
  by_cases h1' : slot = 1
  · rw [if_neg h1, if_neg h0, if_pos h1']
    omega
  simp only [if_neg h1, if_neg h0, if_neg h1', decide_eq_true_eq, ediv_eq_iff_window hT] at h ⊢
  omega

/-- A producer is accepted only once its first turn after the parent has begun:
against a parent whose truncated number is not zero, at an instant that fits,
the time elapsed since the parent is at least {lit}`Sleeptime` and at least
{lit}`w(s)`. -/
theorem verifyHeader_turn_begun {cr : Crypto} {chain : ChainReader} {parents : List Header}
    {now : Int} (hreg : d.Regular r) (hpn : toUint64 parent.number ≠ 0)
    (hpt : parent.time ≤ (2 ^ 63 - 1) / 1000) (hnow : now ≤ (2 ^ 63 - 1) / 1000)
    (hsel : selectParent cr chain header parents = .ok parent)
    (hv : d.verifyHeader cr r chain header parents now = .ok ()) :
    d.blockInternal ≤ 1000 * (now - parent.time) ∧
      turnStart r.getCoreNodesCount d.timeoutTime (r.getSlot parent.coinbase header.coinbase) ≤
        1000 * (now - parent.time) := by
  obtain ⟨hc, ht, hturn⟩ := checkTurn_of_verifyHeader hpn hsel hv
  have hN : 0 < r.getCoreNodesCount := by simpa using List.length_pos_of_mem hc
  have hrule := (checkTurn_eq_ok_iff_turnRule hreg hN hpt (by omega)).1 hturn
  obtain ⟨hS, hw⟩ := turnRule_start (by omega) hreg.timeoutTime_pos hreg.blockInternal_pos hrule
  -- the clock is past the header's time
  have hle : 1000 * ((header.time : Int) - parent.time) ≤ 1000 * (now - parent.time) := by omega
  exact ⟨hS.trans hle, hw.trans hle⟩

/-- B's header five seconds after A's block, verified at that second. -/
theorem verifyHeader_turn_begun_scenario :
    scenarioEngine.Regular scenarioRoster ∧ toUint64 (scenarioHeader 0 1 1 1000000).number ≠ 0 ∧
    (scenarioHeader 0 1 1 1000000).time ≤ (2 ^ 63 - 1) / 1000 ∧
    (1000005 : Int) ≤ (2 ^ 63 - 1) / 1000 ∧
    selectParent symbolicCrypto emptyChain (scenarioHeader 1 2 2 1000005)
      [scenarioHeader 0 1 1 1000000] = .ok (scenarioHeader 0 1 1 1000000) ∧
    scenarioEngine.verifyHeader symbolicCrypto scenarioRoster emptyChain
      (scenarioHeader 1 2 2 1000005) [scenarioHeader 0 1 1 1000000] 1000005 = .ok () ∧
    scenarioEngine.blockInternal ≤
      1000 * ((1000005 : Int) - (scenarioHeader 0 1 1 1000000).time) ∧
    turnStart scenarioRoster.getCoreNodesCount scenarioEngine.timeoutTime
        (scenarioRoster.getSlot (scenarioHeader 0 1 1 1000000).coinbase
          (scenarioHeader 1 2 2 1000005).coinbase) ≤
      1000 * ((1000005 : Int) - (scenarioHeader 0 1 1 1000000).time) := by
  have hreg : scenarioEngine.Regular scenarioRoster := ⟨by decide, by decide, by decide⟩
  have hsel : selectParent symbolicCrypto emptyChain (scenarioHeader 1 2 2 1000005)
      [scenarioHeader 0 1 1 1000000] = .ok (scenarioHeader 0 1 1 1000000) := rfl
  have hv : scenarioEngine.verifyHeader symbolicCrypto scenarioRoster emptyChain
      (scenarioHeader 1 2 2 1000005) [scenarioHeader 0 1 1 1000000] 1000005 = .ok () := rfl
  exact ⟨hreg, by decide, by decide, by decide, hsel, hv,
    verifyHeader_turn_begun hreg (by decide) (by decide) (by decide) hsel hv⟩

/-- A parent numbered {lit}`2^64`, which {lit}`Uint64()` truncates to zero, is
taken for the genesis: B's header is accepted with no time elapsed at all. -/
theorem verifyHeader_wrapped_genesis_parent :
    0 < (scenarioHeader 0 1 (2 ^ 64) 1000000).number ∧
    scenarioEngine.verifyHeader symbolicCrypto scenarioRoster emptyChain
      (scenarioHeader (2 ^ 64) 2 1 1000000) [scenarioHeader 0 1 (2 ^ 64) 1000000] 1000000 =
        .ok () ∧
    1000 * ((1000000 : Int) - (scenarioHeader 0 1 (2 ^ 64) 1000000).time) <
      scenarioEngine.blockInternal :=
  ⟨by decide, rfl, by decide⟩

/-- At one claimed time at most one star node extends a parent: headers by
distinct producers that {lit}`verifyHeader` accepts against the same parent, at
any instants, carry different times. -/
theorem verifyHeader_times_ne {cr : Crypto} {chain₁ chain₂ : ChainReader}
    {parents₁ parents₂ : List Header} {now₁ now₂ : Int} {header₂ : Header}
    (hreg : d.Regular r) (hpc : parent.coinbase ∈ r.addresses) (hpn : toUint64 parent.number ≠ 0)
    (hpt : parent.time ≤ (2 ^ 63 - 1) / 1000) (hht₁ : header.time ≤ (2 ^ 63 - 1) / 1000)
    (hsel₁ : selectParent cr chain₁ header parents₁ = .ok parent)
    (hv₁ : d.verifyHeader cr r chain₁ header parents₁ now₁ = .ok ())
    (hsel₂ : selectParent cr chain₂ header₂ parents₂ = .ok parent)
    (hv₂ : d.verifyHeader cr r chain₂ header₂ parents₂ now₂ = .ok ())
    (hne : header.coinbase ≠ header₂.coinbase) : header.time ≠ header₂.time := by
  intro heq
  obtain ⟨hc₁, -, ht₁⟩ := checkTurn_of_verifyHeader hpn hsel₁ hv₁
  obtain ⟨hc₂, -, ht₂⟩ := checkTurn_of_verifyHeader hpn hsel₂ hv₂
  have hS := ((checkTurn_eq_ok_iff hreg hpc hc₁ hpt hht₁).1 ht₁).1
  obtain ⟨c, -, huniq⟩ := existsUnique_checkTurn hreg hpc hpt hht₁ hS
  have e₁ := huniq header.coinbase ⟨hc₁, ht₁⟩
  have e₂ := huniq header₂.coinbase
    ⟨hc₂, (checkTurn_congr (show ({ header with coinbase := header₂.coinbase } : Header).time =
      header₂.time from heq) rfl).trans ht₂⟩
  exact hne (e₁.trans e₂.symm)

/-- Two producers accepted at one instant: at second 1 000 015, B claims second
1 000 005, inside its own turn that is already over, and C claims 1 000 015. -/
theorem verifyHeader_two_producers_same_now :
    0 < (scenarioHeader 0 1 1 1000000).number ∧ (2 : Address) ≠ 3 ∧
    selectParent symbolicCrypto emptyChain (scenarioHeader 1 2 2 1000005)
      [scenarioHeader 0 1 1 1000000] = .ok (scenarioHeader 0 1 1 1000000) ∧
    selectParent symbolicCrypto emptyChain (scenarioHeader 1 3 2 1000015)
      [scenarioHeader 0 1 1 1000000] = .ok (scenarioHeader 0 1 1 1000000) ∧
    scenarioEngine.verifyHeader symbolicCrypto scenarioRoster emptyChain
      (scenarioHeader 1 2 2 1000005) [scenarioHeader 0 1 1 1000000] 1000015 = .ok () ∧
    scenarioEngine.verifyHeader symbolicCrypto scenarioRoster emptyChain
      (scenarioHeader 1 3 2 1000015) [scenarioHeader 0 1 1 1000000] 1000015 = .ok () :=
  ⟨by decide, by decide, rfl, rfl, rfl, rfl⟩

end Regular

/-- Distinct times at the two producers of the instant above. -/
theorem verifyHeader_times_ne_scenario :
    scenarioEngine.Regular scenarioRoster ∧ 1 ∈ scenarioRoster.addresses ∧
    toUint64 (scenarioHeader 0 1 1 1000000).number ≠ 0 ∧
    (scenarioHeader 1 2 2 1000005).coinbase ≠ (scenarioHeader 1 3 2 1000015).coinbase ∧
    scenarioEngine.verifyHeader symbolicCrypto scenarioRoster emptyChain
      (scenarioHeader 1 2 2 1000005) [scenarioHeader 0 1 1 1000000] 1000015 = .ok () ∧
    scenarioEngine.verifyHeader symbolicCrypto scenarioRoster emptyChain
      (scenarioHeader 1 3 2 1000015) [scenarioHeader 0 1 1 1000000] 1000015 = .ok () ∧
    (scenarioHeader 1 2 2 1000005).time ≠ (scenarioHeader 1 3 2 1000015).time := by
  have hreg : scenarioEngine.Regular scenarioRoster := ⟨by decide, by decide, by decide⟩
  exact ⟨hreg, by decide, by decide, by decide, rfl, rfl,
    verifyHeader_times_ne hreg (by decide) (by decide) (by decide) (by decide)
      (show selectParent symbolicCrypto emptyChain (scenarioHeader 1 2 2 1000005)
        [scenarioHeader 0 1 1 1000000] = .ok (scenarioHeader 0 1 1 1000000) from rfl)
      (show scenarioEngine.verifyHeader symbolicCrypto scenarioRoster emptyChain
        (scenarioHeader 1 2 2 1000005) [scenarioHeader 0 1 1 1000000] 1000015 = .ok () from rfl)
      (show selectParent symbolicCrypto emptyChain (scenarioHeader 1 3 2 1000015)
        [scenarioHeader 0 1 1 1000000] = .ok (scenarioHeader 0 1 1 1000000) from rfl)
      (show scenarioEngine.verifyHeader symbolicCrypto scenarioRoster emptyChain
        (scenarioHeader 1 3 2 1000015) [scenarioHeader 0 1 1 1000000] 1000015 = .ok () from rfl)
      (by decide)⟩

/-- The partition at the spec's first scenario: parent by A at second
1 000 000, header by B five seconds later. -/
theorem checkTurn_partition_scenario :
    scenarioEngine.Regular scenarioRoster ∧ 1 ∈ scenarioRoster.addresses ∧
    2 ∈ scenarioRoster.addresses ∧ (scenarioHeader 0 1 1 1000000).time ≤ (2 ^ 63 - 1) / 1000 ∧
    (scenarioHeader 1 2 2 1000005).time ≤ (2 ^ 63 - 1) / 1000 ∧
    ((scenarioEngine.checkTurn scenarioRoster (scenarioHeader 0 1 1 1000000)
        (scenarioHeader 1 2 2 1000005) = .ok () ↔
      scenarioEngine.blockInternal ≤ 1000 * ((1000005 : Nat) - ((1000000 : Nat) : Int)) ∧
      1000 * ((1000005 : Nat) - ((1000000 : Nat) : Int)) %
          (scenarioRoster.getCoreNodesCount * scenarioEngine.timeoutTime) /
          scenarioEngine.timeoutTime =
        (scenarioRoster.getSlot 1 2 + scenarioRoster.getCoreNodesCount - 1) %
          scenarioRoster.getCoreNodesCount) ∧
    (scenarioEngine.blockInternal ≤ 1000 * ((1000005 : Nat) - ((1000000 : Nat) : Int)) →
      ∃! c, c ∈ scenarioRoster.addresses ∧ scenarioEngine.checkTurn scenarioRoster
        (scenarioHeader 0 1 1 1000000) { scenarioHeader 1 2 2 1000005 with coinbase := c } =
          .ok ())) := by
  have hreg : scenarioEngine.Regular scenarioRoster := ⟨by decide, by decide, by decide⟩
  exact ⟨hreg, by decide, by decide, by decide, by decide,
    checkTurn_partition hreg (by decide) (by decide) (by decide) (by decide)⟩

end Dpovp

end LoveBlock
