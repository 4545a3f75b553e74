import LoveBlock.Engine

/-!
# LoveBlock - Links between a header and its parent

{lit}`verifyHeader` reads the difficulty and both block numbers through
{lit}`Uint64()`, and compares the parent's number with the {lit}`uint64`
difference {lit}`number - 1`.  This module states what an accepted header
really carries in exact integers, shows the inputs at which the truncation
lets a header through, and proves that a chain grown from the genesis by
accepted links gains at most one block per {lit}`Sleeptime`.

Main results:

- Theorem {lit}`selectParent_link`: the parent stage links the numbers only
  modulo {lit}`2^64`.
- Theorems {lit}`verifyHeader_accepts_wrapped_difficulty` and
  {lit}`verifyHeader_accepts_wrapped_number`: inputs where the truncation
  accepts a difficulty other than one and a number other than the parent's
  plus one.
- Theorem {lit}`chain_rate_limited`: along a chain of accepted links every
  block after the first is at least {lit}`Sleeptime` after the one before.
-/

namespace LoveBlock

namespace Dpovp

variable {d : Dpovp} {cr : Crypto} {r : Roster} {chain : ChainReader} {header parent : Header}
  {parents : List Header} {now : Int}

/-! ## What acceptance says about one link -/

/-- The parent stage links the numbers modulo {lit}`2^64` and the hash exactly. -/
theorem selectParent_link (h : selectParent cr chain header parents = .ok parent) :
    toUint64 header.number = (toUint64 parent.number + 1) % 2 ^ 64 ∧
      cr.headerHash parent = header.parentHash := by
  unfold selectParent at h
  split at h
  · cases h
  · split at h
    · rename_i p _ hc
      cases h
      refine ⟨?_, hc.2⟩
      have := hc.1
      unfold subUint64 toUint64 at *
      omega
    · cases h

/-- A difficulty of {lit}`2^64 + 1` passes: its low 64 bits are one. -/
theorem verifyHeader_accepts_wrapped_difficulty :
    { scenarioHeader 0 2 1 1000000 with difficulty := 2 ^ 64 + 1 }.difficulty ≠ 1 ∧
    scenarioEngine.verifyHeader symbolicCrypto scenarioRoster emptyChain
      { scenarioHeader 0 2 1 1000000 with difficulty := 2 ^ 64 + 1 }
      [scenarioHeader 0 1 0 0] 1000000 = .ok () :=
  ⟨by decide, rfl⟩

/-- A header numbered {lit}`2^64 + 5` is accepted on top of a parent numbered 4:
both are compared through their low 64 bits. -/
theorem verifyHeader_accepts_wrapped_number :
    selectParent symbolicCrypto emptyChain (scenarioHeader 4 2 (2 ^ 64 + 5) 1000005)
      [scenarioHeader 3 1 4 1000000] = .ok (scenarioHeader 3 1 4 1000000) ∧
    scenarioEngine.verifyHeader symbolicCrypto scenarioRoster emptyChain
      (scenarioHeader 4 2 (2 ^ 64 + 5) 1000005) [scenarioHeader 3 1 4 1000000] 1000005 = .ok () ∧
    (scenarioHeader 4 2 (2 ^ 64 + 5) 1000005).number ≠ (scenarioHeader 3 1 4 1000000).number + 1 :=
  ⟨rfl, rfl, by decide⟩

/-! ## Chains grown from the genesis -/

/-- One accepted link of a chain: the header names the parent's hash, and at
some instant up to {lit}`now` {lit}`verifyHeader` accepted it with that parent
selected. -/
def AcceptedLink (d : Dpovp) (cr : Crypto) (r : Roster) (now : Int) (parent header : Header) :
    Prop :=
  header.parentHash = cr.headerHash parent ∧
    ∃ chain parents t, t ≤ now ∧ selectParent cr chain header parents = .ok parent ∧
      d.verifyHeader cr r chain header parents t = .ok ()

/-- The timing stage lets through only gaps of at least {lit}`Sleeptime`. -/
theorem blockInternal_le_of_checkTurn (h : d.checkTurn r parent header = .ok ()) :
    d.blockInternal ≤ timeSpan parent header := by
  unfold checkTurn at h
  by_cases hlt : timeSpan parent header < d.blockInternal
  · simp [hlt] at h
  · exact not_lt.1 hlt

/-- A link's number follows its parent's modulo {lit}`2^64`, and its time is
not after {lit}`now`. -/
theorem AcceptedLink.number_time (h : AcceptedLink d cr r now parent header) :
    toUint64 header.number = (toUint64 parent.number + 1) % 2 ^ 64 ∧ (header.time : Int) ≤ now := by
  obtain ⟨-, chain, parents, t, ht, hsel, hv⟩ := h
  obtain ⟨-, -, -, htime, -⟩ := verifyHeader_eq_ok_iff.1 hv
  exact ⟨(selectParent_link hsel).1, htime.trans ht⟩

/-- Past a parent whose truncated number is not zero, a link spans at least
{lit}`Sleeptime`. -/
theorem AcceptedLink.gap (h : AcceptedLink d cr r now parent header)
    (hpn : toUint64 parent.number ≠ 0) (hpt : parent.time ≤ (2 ^ 63 - 1) / 1000)
    (hnow : now ≤ (2 ^ 63 - 1) / 1000) :
    d.blockInternal ≤ 1000 * ((header.time : Int) - parent.time) := by
  obtain ⟨-, chain, parents, t, ht, hsel, hv⟩ := h
  obtain ⟨-, htime, hturn⟩ := checkTurn_of_verifyHeader hpn hsel hv
  rw [← timeSpan_eq hpt (by omega)]
  exact blockInternal_le_of_checkTurn hturn

/-- One more link of at least {lit}`Sleeptime` adds one more gap to a bound
counted in links. -/
theorem succ_links_le {i k : Nat} {S a b c : Int} (h : i ≤ k)
    (hlow : ((k - i : Nat) : Int) * S ≤ 1000 * (b - a)) (hgap : S ≤ 1000 * (c - b)) :
    ((k + 1 - i : Nat) : Int) * S ≤ 1000 * (c - a) :=
  calc ((k + 1 - i : Nat) : Int) * S = ((k - i : Nat) : Int) * S + S := by
        rw [Nat.sub_add_comm h, Nat.cast_succ, add_mul, one_mul]
    _ ≤ 1000 * (b - a) + 1000 * (c - b) := add_le_add hlow hgap
    _ = 1000 * (c - a) := by ring

/-- A chain grown from the genesis by accepted links: {lit}`H0` is numbered
zero and each later header was accepted against the one before it at some
instant up to {lit}`now`. -/
structure AcceptedChain (d : Dpovp) (cr : Crypto) (r : Roster) (now : Int) (hs : List Header) :
    Prop where
  genesis : ∀ h : 0 < hs.length, hs[0].number = 0
  link : ∀ i (hi : i + 1 < hs.length), AcceptedLink d cr r now hs[i] hs[i + 1]

namespace AcceptedChain

variable {hs : List Header}

/-- Every block after the genesis has a time not after {lit}`now`. -/
theorem time_le (hc : AcceptedChain d cr r now hs) (m : Nat) (hm1 : 1 ≤ m) (hm : m < hs.length) :
    (hs[m].time : Int) ≤ now := by
  obtain ⟨k, rfl⟩ : ∃ k, m = k + 1 := ⟨m - 1, by omega⟩
  exact (hc.link k hm).number_time.2

/-- A block {lit}`m ≥ 1` with truncated number {lit}`m`, at least
{lit}`(m - 1) * Sleeptime` after block 1, is not taken for the genesis: the
link after it spans at least {lit}`Sleeptime`. -/
theorem link_gap_of (hS : 0 < d.blockInternal) (hnow : now < (2 ^ 63 - 1) / 1000)
    (hc : AcceptedChain d cr r now hs) {m : Nat} (hm1 : 1 ≤ m) (hm : m + 1 < hs.length)
    (hnum : toUint64 hs[m].number = m % 2 ^ 64)
    (hlow : ((m - 1 : Nat) : Int) * d.blockInternal ≤ (1000 : Int) * (hs[m].time - hs[1].time)) :
    d.blockInternal ≤ (1000 : Int) * (hs[m + 1].time - hs[m].time) := by
  have htm := hc.time_le m hm1 (by omega)
  -- block `m` is fewer than `2^63` gaps of at least one millisecond after block 1
  have hm64 : m < 2 ^ 64 := by
    have : ((m - 1 : Nat) : Int) ≤ ((m - 1 : Nat) : Int) * d.blockInternal :=
      le_mul_of_one_le_right (Nat.cast_nonneg _) hS
    omega
  exact (hc.link m hm).gap (by rw [hnum, Nat.mod_eq_of_lt hm64]; omega) (by omega) hnow.le

/-- Along a chain from the genesis, block {lit}`m ≥ 1` has truncated number
{lit}`m` and comes at least {lit}`(m - 1) * Sleeptime` after block 1, so the
numbers never wrap back to the genesis before the clock runs out. -/
theorem number_time (hS : 0 < d.blockInternal) (hnow : now < (2 ^ 63 - 1) / 1000)
    (hc : AcceptedChain d cr r now hs) : ∀ m (hm1 : 1 ≤ m) (hm : m < hs.length),
    toUint64 hs[m].number = m % 2 ^ 64 ∧
      ((m - 1 : Nat) : Int) * d.blockInternal ≤ (1000 : Int) * (hs[m].time - hs[1].time) := by
  intro m hm1 hm
  induction m, hm1 using Nat.le_induction with
  | base =>
    refine ⟨?_, by simp⟩
    have h1 : toUint64 hs[1].number = (toUint64 hs[0].number + 1) % 2 ^ 64 :=
      (hc.link 0 hm).number_time.1
    simpa [hc.genesis (by omega), toUint64] using h1
  | succ m hm1 ih =>
    obtain ⟨hnum, hlow⟩ := ih (by omega)
    have hgap := hc.link_gap_of hS hnow hm1 hm hnum hlow
    exact ⟨by rw [(hc.link m hm).number_time.1, hnum, Nat.mod_add_mod], succ_links_le hm1 hlow hgap⟩

end AcceptedChain

/-- Chain growth is rate-limited by {lit}`Sleeptime`: in a chain grown from the
genesis by accepted links, block {lit}`j` is at least {lit}`(j - i) * Sleeptime`
after block {lit}`i ≥ 1`, so the chain holds at most
{lit}`1 + 1000 * (now - H1.Time) / Sleeptime` blocks after the genesis. -/
theorem chain_rate_limited {hs : List Header} (hS : 0 < d.blockInternal)
    (hnow : now < (2 ^ 63 - 1) / 1000) (hk : 2 ≤ hs.length) (hc : AcceptedChain d cr r now hs) :
    (∀ i j, 1 ≤ i → ∀ (hij : i ≤ j) (hj : j < hs.length),
      ((j - i : Nat) : Int) * d.blockInternal ≤ (1000 : Int) * (hs[j].time - hs[i].time)) ∧
    ((hs.length - 1 : Nat) : Int) ≤ (1 : Int) + (1000 : Int) * (now - hs[1].time) / d.blockInternal := by
  have hsum : ∀ i j, 1 ≤ i → ∀ (hij : i ≤ j) (hj : j < hs.length),
      ((j - i : Nat) : Int) * d.blockInternal ≤ (1000 : Int) * (hs[j].time - hs[i].time) := by
    intro i j hi hij hj
    induction j, hij using Nat.le_induction with
    | base => simp
    | succ j hij ih =>
      obtain ⟨hnum, hlow⟩ := hc.number_time hS hnow j (by omega) (by omega)
      exact succ_links_le hij (ih (by omega)) (hc.link_gap_of hS hnow (by omega) hj hnum hlow)
  refine ⟨hsum, ?_⟩
  have hlast := hsum 1 (hs.length - 1) le_rfl (by omega) (by omega)
  have htl := hc.time_le (hs.length - 1) (by omega) (by omega)
  have hdiv : ((hs.length - 1 - 1 : Nat) : Int) ≤
      (1000 : Int) * (now - hs[1].time) / d.blockInternal :=
    (Int.le_ediv_iff_mul_le hS).2 (by omega)
  omega

theorem chain_rate_limited_scenario :
    0 < scenarioEngine.blockInternal ∧ (1000005 : Int) < (2 ^ 63 - 1) / 1000 ∧
      2 ≤ scenarioChain.length ∧
      AcceptedChain scenarioEngine symbolicCrypto scenarioRoster 1000005 scenarioChain ∧
      ((∀ i j, 1 ≤ i → ∀ (hij : i ≤ j) (hj : j < scenarioChain.length),
        ((j - i : Nat) : Int) * scenarioEngine.blockInternal ≤
          (1000 : Int) * (scenarioChain[j].time - scenarioChain[i].time)) ∧
      ((scenarioChain.length - 1 : Nat) : Int) ≤
        (1 : Int) + (1000 : Int) * (1000005 - scenarioChain[1].time) / scenarioEngine.blockInternal) := by
  have h01 : AcceptedLink scenarioEngine symbolicCrypto scenarioRoster 1000005
      (scenarioHeader 0 1 0 0) (scenarioHeader 0 2 1 1000000) :=
    ⟨rfl, emptyChain, [scenarioHeader 0 1 0 0], 1000000, by decide, rfl, rfl⟩
  have hv : scenarioEngine.verifyHeader symbolicCrypto scenarioRoster emptyChain
      (scenarioHeader 1 3 2 1000005) [scenarioHeader 0 2 1 1000000] 1000005 = .ok () := rfl
  have h12 : AcceptedLink scenarioEngine symbolicCrypto scenarioRoster 1000005
      (scenarioHeader 0 2 1 1000000) (scenarioHeader 1 3 2 1000005) :=
    ⟨rfl, emptyChain, [scenarioHeader 0 2 1 1000000], 1000005, by decide, rfl, hv⟩
  have hc : AcceptedChain scenarioEngine symbolicCrypto scenarioRoster 1000005 scenarioChain := by
    refine ⟨fun _ => rfl, fun i hi => ?_⟩
    match i, hi with
    | 0, _ => exact h01
    | 1, _ => exact h12
    | n + 2, h => exact absurd h (by simp [scenarioChain])
  exact ⟨by decide, by norm_num, by decide, hc,
    chain_rate_limited (by decide) (by norm_num) (by decide) hc⟩

end Dpovp

end LoveBlock
