import LoveBlock.Engine.Sealing
import LoveBlock.Engine.Turn

/-!
# LoveBlock - A sealed block and the nodes that receive it

{lit}`Seal` signs {lit}`Keccak256(coinbase)` with the local private key.  Two
verifiers read that signature: {lit}`VerifySeal` recovers the signer's public
key and compares its address with the coinbase, and the signature stage of
{lit}`verifyHeader` compares the recovered key with the key the roster holds
for the coinbase.  This module joins the production steps to both verifiers.

Main results:

- Theorem {lit}`verifySeal_of_seal`: a block sealed with a key whose address is
  the local coinbase passes {lit}`VerifySeal`.
- Theorem {lit}`verifySeal_of_verifyHeader`: when every star node's address is
  the address of its public key, {lit}`VerifySeal` accepts every header
  {lit}`verifyHeader` accepts.
- Theorem {lit}`sealed_accepted_iff_turnRule`: the block the local node builds
  one above a stored parent is accepted by {lit}`verifyHeader` exactly when its
  parent is taken for the genesis or the rotation rule gives the local coinbase
  the turn at the instant {lit}`Prepare` read.
-/

namespace LoveBlock

namespace Dpovp

variable {d : Dpovp} {cr : Crypto} {r : Roster} {chain : ChainReader}
  {parent header header' : Header} {block block' : Block} {privKey : PrivKey} {pub : Bytes}
  {parents : List Header} {t now : Int}

/-! ## The two signature checks -/

/-- A block sealed with a key whose public key's address is the local coinbase
passes {lit}`VerifySeal`, whatever the roster: the seal signs the hash of the
local coinbase, which is the block's. -/
theorem verifySeal_of_seal (hrec : ∀ h s, cr.sign h privKey = some s → cr.ecrecover h s = some pub)
    (haddr : d.coinbase = cr.keccak256 (pub.drop 1) % 2 ^ 160)
    (hcb : block.header.coinbase = d.coinbase)
    (hseal : Dpovp.seal cr r privKey d block = .ok block') :
    verifySeal cr block'.header = .ok () := by
  obtain ⟨s, hs, hb'⟩ := seal_eq_ok hseal
  have hcb' : block'.header.coinbase = d.coinbase := by rw [hb', ← hcb]
  have hsig : block'.header.signInfo = s := by rw [hb']
  simp only [verifySeal, hcb', hsig, hrec _ _ hs, if_pos haddr]

/-- Where every star node's address is the address of its public key, the
signature stage's roster lookup implies {lit}`VerifySeal`'s address check. -/
theorem verifySeal_of_checkSigner
    (haddr : ∀ n ∈ r.nodes, n.address = cr.keccak256 n.pubkey % 2 ^ 160)
    (h : checkSigner cr r header = .ok ()) : verifySeal cr header = .ok () := by
  cases hrec : cr.ecrecover (cr.keccak256Hash header.coinbase) header.signInfo with
  | none => simp [checkSigner, hrec] at h
  | some pubKey =>
    cases hk : r.getPubkeyByAddress header.coinbase with
    | none => simp [checkSigner, hrec, hk] at h
    | some pk =>
      obtain ⟨n, hn, ha, rfl⟩ := r.getPubkeyByAddress_eq_some hk
      have hpk : n.pubkey = pubKey.drop 1 := by simpa [checkSigner, hrec, hk] using h
      have hcb : header.coinbase = cr.keccak256 (pubKey.drop 1) % 2 ^ 160 := by
        rw [← ha, haddr n hn, hpk]
      simp only [verifySeal, hrec, if_pos hcb]

/-- Where every star node's address is the address of its public key,
{lit}`VerifySeal` accepts every header that {lit}`verifyHeader` accepts, in
every chain and batch and at every instant. -/
theorem verifySeal_of_verifyHeader
    (haddr : ∀ n ∈ r.nodes, n.address = cr.keccak256 n.pubkey % 2 ^ 160)
    (h : d.verifyHeader cr r chain header parents now = .ok ()) : verifySeal cr header = .ok () :=
  let ⟨_, _, _, _, hs, _⟩ := verifyHeader_eq_ok_iff.1 h
  verifySeal_of_checkSigner haddr hs

/-- Three producers at addresses 11, 12, 13, each the address of its key under
the symbolic crypto. -/
def keyRoster : Roster := ⟨[⟨11, [11]⟩, ⟨12, [12]⟩, ⟨13, [13]⟩], by decide⟩

/-- The engine {lit}`New` builds for the producer at address 11. -/
def keyEngine : Dpovp := Dpovp.new ⟨10000, 3000⟩ 11

/-- The header by the producer at address 11, number {lit}`number`, signed with its key. -/
def keyHeader (parentHash : Hash) (number time : Nat) : Header :=
  { scenarioHeader parentHash 11 number time with
    signInfo := [symbolicCrypto.keccak256Hash 11, 11] }

/-- The producer at 11 seals a block and {lit}`VerifySeal` accepts it. -/
theorem verifySeal_of_seal_key :
    (∀ h s, symbolicCrypto.sign h 11 = some s → symbolicCrypto.ecrecover h s = some [4, 11]) ∧
    keyEngine.coinbase = symbolicCrypto.keccak256 ([4, 11].drop 1) % 2 ^ 160 ∧
    ∃ block', Dpovp.seal symbolicCrypto keyRoster 11 keyEngine ⟨keyHeader 1 2 0, [], [], []⟩ =
      .ok block' ∧ verifySeal symbolicCrypto block'.header = .ok () := by
  have hrec : ∀ h s, symbolicCrypto.sign h 11 = some s →
      symbolicCrypto.ecrecover h s = some [4, 11] := by
    rintro h s ⟨⟩
    simp [symbolicCrypto]
  obtain ⟨block', hseal⟩ : ∃ b, Dpovp.seal symbolicCrypto keyRoster 11 keyEngine
      ⟨keyHeader 1 2 0, [], [], []⟩ = .ok b := ⟨_, rfl⟩
  exact ⟨hrec, rfl, block', hseal, verifySeal_of_seal hrec rfl rfl hseal⟩

/-- The second block of the producer at 11, a full lap of the others' turns
after its first, is accepted by both verifiers. -/
theorem verifySeal_of_verifyHeader_key :
    (∀ n ∈ keyRoster.nodes, n.address = symbolicCrypto.keccak256 n.pubkey % 2 ^ 160) ∧
    keyEngine.verifyHeader symbolicCrypto keyRoster emptyChain (keyHeader 1 2 1000025)
        [keyHeader 0 1 1000000] 1000025 = .ok () ∧
    verifySeal symbolicCrypto (keyHeader 1 2 1000025) = .ok () :=
  have haddr : ∀ n ∈ keyRoster.nodes, n.address = symbolicCrypto.keccak256 n.pubkey % 2 ^ 160 := by
    decide
  have hv : keyEngine.verifyHeader symbolicCrypto keyRoster emptyChain (keyHeader 1 2 1000025)
      [keyHeader 0 1 1000000] 1000025 = .ok () := rfl
  ⟨haddr, hv, verifySeal_of_verifyHeader haddr hv⟩

/-! ## Production meets the rotation -/

/-- The block that the local node builds by {lit}`Prepare` at a non-negative
instant {lit}`t` whose milliseconds fit in {lit}`int64`, {lit}`Finalize` and
{lit}`Seal` with the roster's key of its coinbase, from a template one above a
stored parent, is accepted by {lit}`verifyHeader` at every instant from
{lit}`t` on exactly when the parent is taken for the genesis or the rotation
rule gives the local coinbase the turn after the parent's producer at the gap
{lit}`1000 * (t - parent.time)`. -/
theorem sealed_accepted_iff_turnRule {intermediateRoot : StateDB → Hash} {state state' : StateDB}
    {txs receipts : List Nat} {uncles : List Header} (hreg : d.Regular r)
    (hrec : ∀ h s, cr.sign h privKey = some s → cr.ecrecover h s = some pub)
    (hkey : r.getPubkeyByAddress d.coinbase = some (pub.drop 1))
    (hchain : chain (cr.headerHash parent) (toUint64 parent.number) = some parent)
    (hph : header.parentHash = cr.headerHash parent) (hnum : header.number = parent.number + 1)
    (hcb : header.coinbase = d.coinbase)
    (hprep : prepare chain header t = .ok header')
    (hfin : finalize cr intermediateRoot header' state txs uncles receipts = (block, state'))
    (hseal : Dpovp.seal cr r privKey d block = .ok block')
    (hpt : parent.time ≤ (2 ^ 63 - 1) / 1000) (ht0 : 0 ≤ t) (ht : t ≤ (2 ^ 63 - 1) / 1000)
    (hnow : t ≤ now) :
    d.verifyHeader cr r chain block'.header [] now = .ok () ↔
      toUint64 parent.number = 0 ∨
        turnRule r.getCoreNodesCount d.timeoutTime d.blockInternal
          (r.getSlot parent.coinbase d.coinbase) (1000 * (t - parent.time)) = true := by
  obtain ⟨s, hs, hb'⟩ := seal_eq_ok hseal
  have hb := congrArg (fun p => p.1.header) hfin
  simp only [finalize_fst_header, prepare_eq_ok hprep] at hb
  rw [← hb] at hb'
  -- the sealed header is the template with the fields the three steps set
  have htime : (block'.header.time : Int) = t := by
    simp only [hb', int64ToUint64]
    omega
  have hcb' : block'.header.coinbase = d.coinbase := by simp [hb', hcb]
  have hmem : d.coinbase ∈ r.addresses := Roster.getPubkeyByAddress_isSome.1 (by rw [hkey]; rfl)
  have hN : 0 < r.getCoreNodesCount := by simpa using List.length_pos_of_mem hmem
  rw [verifyHeader_of_stages (by simp [hb', toUint64])
    (selectParent_nil_of_chain hchain (by simp [hb', hph]) (by simp [hb', hnum])) (htime ▸ hnow)
    (checkSigner_of_sign hrec (hcb' ▸ hkey) (by rw [hcb', hb']; exact hs))]
  split_ifs with hg
  · simp [hg]
  · rw [checkTurn_eq_ok_iff_turnRule hreg hN hpt (by omega), hcb', htime]
    simp [hg]

/-- A template by A one above block 1 of C, prepared five seconds after it: A
is C's successor, so its block is accepted. -/
theorem sealed_accepted_iff_turnRule_scenario :
    scenarioEngine.Regular scenarioRoster ∧
    (∀ h s, symbolicCrypto.sign h 11 = some s → symbolicCrypto.ecrecover h s = some [4, 11]) ∧
    scenarioRoster.getPubkeyByAddress scenarioEngine.coinbase = some ([4, 11].drop 1) ∧
    ∃ header' block block' state',
      prepare (parentChain (scenarioHeader 0 3 1 1000000)) (scenarioHeader 1 1 2 0) 1000005 =
        .ok header' ∧
      finalize symbolicCrypto (fun _ => 0) header' ⟨fun _ => 0⟩ [] [] [] = (block, state') ∧
      Dpovp.seal symbolicCrypto scenarioRoster 11 scenarioEngine block = .ok block' ∧
      (scenarioEngine.verifyHeader symbolicCrypto scenarioRoster
          (parentChain (scenarioHeader 0 3 1 1000000)) block'.header [] 1000005 = .ok () ↔
        toUint64 (scenarioHeader 0 3 1 1000000).number = 0 ∨
          turnRule scenarioRoster.getCoreNodesCount scenarioEngine.timeoutTime
            scenarioEngine.blockInternal (scenarioRoster.getSlot 3 scenarioEngine.coinbase)
            (1000 * (1000005 - 1000000)) = true) := by
  have hreg : scenarioEngine.Regular scenarioRoster := ⟨by decide, by decide, by decide⟩
  have hrec : ∀ h s, symbolicCrypto.sign h 11 = some s → symbolicCrypto.ecrecover h s = some [4, 11] := by
    rintro h s ⟨⟩
    simp [symbolicCrypto]
  have hkey : scenarioRoster.getPubkeyByAddress scenarioEngine.coinbase = some ([4, 11].drop 1) := rfl
  refine ⟨hreg, hrec, hkey, _, _, _, _, rfl, rfl, rfl, ?_⟩
  exact sealed_accepted_iff_turnRule hreg hrec hkey (by rfl) (by rfl) (by rfl) (by rfl)
    (show prepare (parentChain (scenarioHeader 0 3 1 1000000)) (scenarioHeader 1 1 2 0) 1000005 = _
      from rfl)
    (show finalize symbolicCrypto (fun _ => 0) _ ⟨fun _ => 0⟩ [] [] [] = _ from rfl)
    rfl (by decide) (by decide) (by decide) le_rfl

end Dpovp

end LoveBlock
