import LoveBlock.Engine

/-!
# LoveBlock - Sealing a block and verifying it

The local node builds a block by {lit}`Prepare` (parent lookup, difficulty,
time), {lit}`Finalize` (reward, state root, uncle hash) and {lit}`Seal`
(roster check and signature of {lit}`Keccak256(coinbase)` with
{lit}`GetPrivKey()`).  This module follows a template header one above a stored
parent through the three steps and states which stages of {lit}`verifyHeader`
the sealed header passes.

Main results:

- Theorem {lit}`verifyHeader_of_sealed`: when the local key is the roster's
  key of the coinbase and the clock is a non-negative {lit}`int64`, the sealed
  header passes every stage but the rotation and timing stage, at every instant
  from its own time on.
- Theorem {lit}`seal_foreign_key_rejected`: {lit}`Seal` checks only that the
  coinbase is a star node, so a node whose coinbase names another star node
  seals a block that {lit}`verifyHeader` rejects as signed by the wrong node
  although its turn has come.
-/

namespace LoveBlock

namespace Dpovp

variable {d : Dpovp} {cr : Crypto} {r : Roster} {chain : ChainReader}
  {parent header header' : Header} {block block' : Block} {privKey : PrivKey} {pub : Bytes}
  {t now : Int}

/-! ## The three steps -/

/-- A successful {lit}`Prepare` fills in the nonce, mix digest, difficulty and time. -/
theorem prepare_eq_ok (h : prepare chain header t = .ok header') :
    header' = { header with nonce := 0, mixDigest := 0, difficulty := 1, time := int64ToUint64 t } := by
  unfold prepare at h
  split at h
  · cases h
  · exact (Except.ok.inj h).symm

@[simp]
theorem finalize_fst_header (intermediateRoot : StateDB → Hash) (state : StateDB) (txs : List Nat)
    (uncles : List Header) (receipts : List Nat) :
    (finalize cr intermediateRoot header state txs uncles receipts).1.header =
      { header with root := intermediateRoot (accumulateRewards state header),
                    uncleHash := cr.emptyUncleHash } := rfl

/-- A successful {lit}`Seal` puts the signature of {lit}`Keccak256(coinbase)`
by the local key into the header and leaves the rest of it alone. -/
theorem seal_eq_ok (h : Dpovp.seal cr r privKey d block = .ok block') :
    ∃ s, cr.sign (cr.keccak256Hash d.coinbase) privKey = some s ∧
      block'.header = { block.header with signInfo := s } := by
  simp only [Dpovp.seal] at h
  split_ifs at h
  cases hs : cr.sign (cr.keccak256Hash d.coinbase) privKey with
  | none => simp [hs] at h
  | some s =>
    simp only [hs, Except.ok.injEq] at h
    exact ⟨s, rfl, by rw [← h]; rfl⟩

/-! ## The stages the sealed header passes -/

/-- Without a batch, a chain that stores the parent under its hash and
truncated number yields it to a header one above it. -/
theorem selectParent_nil_of_chain (hchain : chain (cr.headerHash parent) (toUint64 parent.number) = some parent)
    (hph : header.parentHash = cr.headerHash parent) (hnum : header.number = parent.number + 1) :
    selectParent cr chain header [] = .ok parent := by
  have hsub : subUint64 (toUint64 header.number) 1 = toUint64 parent.number := by
    unfold subUint64 toUint64
    omega
  simp [selectParent, lookupParent, hph, hsub, hchain]

/-- A signature made with the key the roster holds for the coinbase passes the
signature stage. -/
theorem checkSigner_of_sign (hrec : ∀ h s, cr.sign h privKey = some s → cr.ecrecover h s = some pub)
    (hkey : r.getPubkeyByAddress header.coinbase = some (pub.drop 1))
    (hs : cr.sign (cr.keccak256Hash header.coinbase) privKey = some header.signInfo) :
    checkSigner cr r header = .ok () := by
  simp [checkSigner, hrec _ _ hs, hkey]

/-- A header that passes the difficulty, parent, time and signature stages is
accepted exactly when the rotation and timing stage accepts it or its parent
is taken for the genesis. -/
theorem verifyHeader_of_stages (hd : toUint64 header.difficulty = 1)
    (hp : selectParent cr chain header [] = .ok parent) (ht : (header.time : Int) ≤ now)
    (hs : checkSigner cr r header = .ok ()) :
    d.verifyHeader cr r chain header [] now =
      if toUint64 parent.number = 0 then .ok () else d.checkTurn r parent header := by
  simp [verifyHeader, hd, hp, not_lt.2 ht, hs]

/-- A block that {lit}`Seal` signs with the roster's key of the coinbase, built
by {lit}`Prepare` at a non-negative {lit}`int64` instant {lit}`t` and
{lit}`Finalize` from a template one above a stored parent, carries time
{lit}`t` and the local coinbase; at every instant from {lit}`t` on,
{lit}`verifyHeader` without a batch returns exactly the verdict of the rotation
and timing stage, or accepts when the parent is taken for the genesis. -/
theorem verifyHeader_of_sealed {intermediateRoot : StateDB → Hash} {state state' : StateDB}
    {txs receipts : List Nat} {uncles : List Header}
    (hrec : ∀ h s, cr.sign h privKey = some s → cr.ecrecover h s = some pub)
    (hkey : r.getPubkeyByAddress d.coinbase = some (pub.drop 1))
    (hchain : chain (cr.headerHash parent) (toUint64 parent.number) = some parent)
    (hph : header.parentHash = cr.headerHash parent) (hnum : header.number = parent.number + 1)
    (hcb : header.coinbase = d.coinbase)
    (hprep : prepare chain header t = .ok header')
    (hfin : finalize cr intermediateRoot header' state txs uncles receipts = (block, state'))
    (hseal : Dpovp.seal cr r privKey d block = .ok block')
    (ht0 : 0 ≤ t) (ht : t < 2 ^ 63) (hnow : t ≤ now) :
    (block'.header.time : Int) = t ∧ block'.header.coinbase = d.coinbase ∧
      d.verifyHeader cr r chain block'.header [] now =
        if toUint64 parent.number = 0 then .ok () else d.checkTurn r parent block'.header := by
  obtain ⟨s, hs, hb'⟩ := seal_eq_ok hseal
  have hb := congrArg (fun p => p.1.header) hfin
  simp only [finalize_fst_header, prepare_eq_ok hprep] at hb
  rw [← hb] at hb'
  -- the sealed header is the template with the fields the three steps set
  have htime : (block'.header.time : Int) = t := by
    simp only [hb', int64ToUint64]
    omega
  have hcb' : block'.header.coinbase = d.coinbase := by simp [hb', hcb]
  refine ⟨htime, hcb', verifyHeader_of_stages (by simp [hb', toUint64]) ?_ (htime ▸ hnow) ?_⟩
  · exact selectParent_nil_of_chain hchain (by simp [hb', hph]) (by simp [hb', hnum])
  · exact checkSigner_of_sign hrec (hcb' ▸ hkey) (by rw [hcb', hb']; exact hs)

/-! ## Scenarios -/

/-- The chain reader that stores only {lit}`p`, under its hash and truncated number. -/
def parentChain (p : Header) : ChainReader := fun h n =>
  if h = symbolicCrypto.headerHash p ∧ n = toUint64 p.number then some p else none

/-- A template by A one above block 1 of C. -/
theorem verifyHeader_of_sealed_scenario :
    (∀ h s, symbolicCrypto.sign h 11 = some s → symbolicCrypto.ecrecover h s = some [4, 11]) ∧
    scenarioRoster.getPubkeyByAddress scenarioEngine.coinbase = some ([4, 11].drop 1) ∧
    ∃ header' block block' state',
      prepare (parentChain (scenarioHeader 0 3 1 1000000)) (scenarioHeader 1 1 2 0) 1000005 =
        .ok header' ∧
      finalize symbolicCrypto (fun _ => 0) header' ⟨fun _ => 0⟩ [] [] [] = (block, state') ∧
      Dpovp.seal symbolicCrypto scenarioRoster 11 scenarioEngine block = .ok block' ∧
      (block'.header.time : Int) = 1000005 ∧ block'.header.coinbase = scenarioEngine.coinbase ∧
      scenarioEngine.verifyHeader symbolicCrypto scenarioRoster
          (parentChain (scenarioHeader 0 3 1 1000000)) block'.header [] 1000005 =
        if toUint64 (scenarioHeader 0 3 1 1000000).number = 0 then .ok ()
        else scenarioEngine.checkTurn scenarioRoster (scenarioHeader 0 3 1 1000000) block'.header := by
  have hrec : ∀ h s, symbolicCrypto.sign h 11 = some s → symbolicCrypto.ecrecover h s = some [4, 11] := by
    rintro h s ⟨⟩
    simp [symbolicCrypto]
  have hkey : scenarioRoster.getPubkeyByAddress scenarioEngine.coinbase = some ([4, 11].drop 1) := rfl
  refine ⟨hrec, hkey, _, _, _, _, rfl, rfl, rfl, ?_⟩
  exact verifyHeader_of_sealed hrec hkey (by rfl) (by rfl) (by rfl) (by rfl)
    (show prepare (parentChain (scenarioHeader 0 3 1 1000000)) (scenarioHeader 1 1 2 0) 1000005 = _
      from rfl)
    (show finalize symbolicCrypto (fun _ => 0) _ ⟨fun _ => 0⟩ [] [] [] = _ from rfl)
    rfl (by decide) (by decide) le_rfl

/-- Node B's engine with A's key: {lit}`Seal` accepts B's coinbase and signs with
A's key, the rotation and timing stage accepts B five seconds after A's block,
and {lit}`verifyHeader` rejects the block as signed by the wrong node. -/
theorem seal_foreign_key_rejected :
    ∃ header' block block' state',
      prepare (parentChain (scenarioHeader 0 1 1 1000000)) (scenarioHeader 1 2 2 0) 1000005 =
        .ok header' ∧
      finalize symbolicCrypto (fun _ => 0) header' ⟨fun _ => 0⟩ [] [] [] = (block, state') ∧
      Dpovp.seal symbolicCrypto scenarioRoster 11 (scenarioEngine.setCoinbase 2) block = .ok block' ∧
      (scenarioEngine.setCoinbase 2).checkTurn scenarioRoster (scenarioHeader 0 1 1 1000000)
        block'.header = .ok () ∧
      (scenarioEngine.setCoinbase 2).verifyHeader symbolicCrypto scenarioRoster
          (parentChain (scenarioHeader 0 1 1 1000000)) block'.header [] 1000005 =
        .error .wrongSigner :=
  ⟨_, _, _, _, rfl, rfl, rfl, rfl, rfl⟩

end Dpovp

end LoveBlock
