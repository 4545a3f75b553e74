import LoveBlock.Roster

/-!
# LoveBlock - The DPoVP consensus engine

This module embeds {lit}`consensus/dpovp/dpovp.go`.  The engine is a record of
its signing coinbase and the two durations copied out of its configuration;
header verification is split along the source into the difficulty check,
the parent lookup (batch prefix first, then the chain reader), the future-block
guard, the signature check against the roster, the genesis exemption, and the
rotation and timing stage.  Every {lit}`Uint64()` truncation, {lit}`uint64`
subtraction, {lit}`int64` conversion and every {lit}`%` and {lit}`/` that can
panic is kept.  The sealing path ({lit}`Prepare`, {lit}`Finalize`, {lit}`Seal`)
and the remaining entry points follow.

Main results:

- Theorem {lit}`verifyHeader_eq_ok_iff`: acceptance is the conjunction of the
  stages, with the rotation and timing stage skipped for a genesis parent.
- Theorem {lit}`timeSpan_eq`: on times that fit, the {lit}`timeSpan` of the
  source is exactly {lit}`1000 * (header.Time - parent.Time)`.
-/

namespace LoveBlock

/-- {lit}`params.DpovpConfig`: the turn length and the minimum block interval, in ms. -/
structure DpovpConfig where
  timeout : Int
  sleeptime : Int
deriving DecidableEq, Repr

/-- The {lit}`Dpovp` engine: the address it seals for, and the turn length
{lit}`timeoutTime` and minimum gap {lit}`blockInternal` (ms) of its configuration. -/
structure Dpovp where
  coinbase : Address
  timeoutTime : Int
  blockInternal : Int
deriving DecidableEq, Repr

/-- {lit}`BlockReward`: 5 ether in wei, credited to the coinbase of every block. -/
def blockReward : Nat := 5 * 10 ^ 18

/-- Ways the engine's entry points fail.  Besides the error values they return,
{lit}`divideByZero` is the run-time panic of a Go {lit}`%` or {lit}`/` by zero. -/
inductive VerifyError
  | difficultyNotOne
  | unknownAncestor
  | futureBlock
  | wrongSignInfo
  | noPubkey (coinbase : Address)
  | wrongSigner
  | notEnoughNewer
  | onlyOneNodeTooSoon
  | notTurn (code : Nat)
  | divideByZero
  | unclesNotAllowed
  | sealUnrecoverable (hash : Hash)
  | signerNotCoinbase
deriving DecidableEq, Repr

/-- The text of each error.  The sentinel errors of package {lit}`consensus`,
whose text is not in the source, are given by their identifiers. -/
def VerifyError.message : VerifyError → String
  | .difficultyNotOne => "verifyHeader: block difficulty doesn't equal 1."
  | .unknownAncestor => "consensus.ErrUnknownAncestor"
  | .futureBlock => "consensus.ErrFutureBlock"
  | .wrongSignInfo => "verifyHeader: Wrong signinfo"
  | .noPubkey a => "verifyHeader: Verify header failed. Cann't get pubkey of " ++ toHex (toBytes 20 a)
  | .wrongSigner => "verifyHeader: Cann't verify block's signer"
  | .notEnoughNewer => "verifyHeader: block is not enough newer than it's parent"
  | .onlyOneNodeTooSoon => "verifyHeader: Only one node, but not sleep enough time -1"
  | .notTurn k => "verifyHeader: Not turn to produce block -" ++ toString k
  | .divideByZero => "runtime error: integer divide by zero"
  | .unclesNotAllowed => "uncles not allowed"
  | .sealUnrecoverable h => "VerifySeal: Failed to verify Seal. hash:" ++ toHex (toBytes 32 h)
  | .signerNotCoinbase => "VerifySeal: signer != coinbase"

/-- Ways {lit}`Seal` fails. -/
inductive SealError
  | notStarNode
  | unknownBlock (number : Nat)
  | signFailed
deriving DecidableEq, Repr

/-- The text of each {lit}`Seal` error; a signing failure returns the crypto
library's error unchanged. -/
def SealError.message : SealError → String
  | .notStarNode => "Coinbase is not in star list."
  | .unknownBlock n => "mine-Seal: unknownblock, number:" ++ toString n
  | .signFailed => "crypto.Sign error"

namespace Dpovp

/-! ## Construction -/

/-- {lit}`New`: the durations are copied from the configuration unchecked. -/
def new (config : DpovpConfig) (coinbase : Address) : Dpovp :=
  { coinbase := coinbase, timeoutTime := config.timeout, blockInternal := config.sleeptime }

/-- {lit}`SetCoinbase`. -/
def setCoinbase (d : Dpovp) (coinbase : Address) : Dpovp := { d with coinbase := coinbase }

/-- The engine the test constructors build: an empty configuration, so both
durations are zero, and the zero coinbase. -/
def zeroConfigEngine : Dpovp := { coinbase := 0, timeoutTime := 0, blockInternal := 0 }

/-- {lit}`NewTester`. -/
def newTester : Dpovp := zeroConfigEngine

/-- {lit}`NewFaker`. -/
def newFaker : Dpovp := zeroConfigEngine

/-- {lit}`NewFakeFailer`: the failing block number is ignored. -/
def newFakeFailer (_fail : Nat) : Dpovp := zeroConfigEngine

/-- {lit}`NewFakeDelayer`: the delay is ignored. -/
def newFakeDelayer (_delay : Nat) : Dpovp := zeroConfigEngine

/-- {lit}`NewFullFaker`. -/
def newFullFaker : Dpovp := zeroConfigEngine

/-- {lit}`NewShared`. -/
def newShared : Dpovp := zeroConfigEngine

/-- {lit}`Author`: the header's coinbase. -/
def author (header : Header) : Address := header.coinbase

/-- {lit}`CalcDifficulty`: always one. -/
def calcDifficulty (_time : Nat) (_parent : Header) : Nat := 1

/-! ## Header verification -/

/-- The parent {lit}`verifyHeader` looks up: the first batch header whose hash
is {lit}`header.ParentHash`, else the chain's header at that hash and
{lit}`number - 1`. -/
def lookupParent (cr : Crypto) (chain : ChainReader) (header : Header)
    (parents : List Header) : Option Header :=
  match parents.find? fun b => cr.headerHash b = header.parentHash with
  | some b => some b
  | none => chain header.parentHash (subUint64 (toUint64 header.number) 1)

/-- The parent stage: a parent was found, its truncated number is one below the
header's, and its hash is the header's parent hash. -/
def selectParent (cr : Crypto) (chain : ChainReader) (header : Header)
    (parents : List Header) : Except VerifyError Header :=
  match lookupParent cr chain header parents with
  | none => .error .unknownAncestor
  | some parent =>
    if toUint64 parent.number = subUint64 (toUint64 header.number) 1 ∧
        cr.headerHash parent = header.parentHash then .ok parent
    else .error .unknownAncestor

/-- The signature stage: the key recovered from {lit}`SignInfo` over
{lit}`Keccak256(Coinbase)`, without its format byte, is the roster's key. -/
def checkSigner (cr : Crypto) (r : Roster) (header : Header) : Except VerifyError Unit :=
  match cr.ecrecover (cr.keccak256Hash header.coinbase) header.signInfo with
  | none => .error .wrongSignInfo
  | some pubKey =>
    match r.getPubkeyByAddress header.coinbase with
    | none => .error (.noPubkey header.coinbase)
    | some blkNodePubkey => if blkNodePubkey = pubKey.drop 1 then .ok () else .error .wrongSigner

/-- {lit}`timeSpan`: the {lit}`uint64` difference of the two times, converted to
{lit}`int64` and multiplied by 1000 in {lit}`int64`. -/
def timeSpan (parent header : Header) : Int :=
  toInt64 (toInt64 (subUint64 (toUint64 header.time) (toUint64 parent.time)) * 1000)

/-- The rotation and timing stage, everything after the genesis-parent check. -/
def checkTurn (d : Dpovp) (r : Roster) (parent header : Header) : Except VerifyError Unit := do
  let timeSpan := timeSpan parent header
  if timeSpan < d.blockInternal then throw .notEnoughNewer
  let nodeCount := r.getCoreNodesCount
  let slot := r.getSlot parent.coinbase header.coinbase
  let oneLoopTime := toInt64 (nodeCount * d.timeoutTime)
  if nodeCount = 1 then
    if timeSpan < d.blockInternal then throw .onlyOneNodeTooSoon
    return ()
  if slot = 0 then
    let some timeSpan := goMod timeSpan oneLoopTime | throw .divideByZero
    unless timeSpan ≥ toInt64 (oneLoopTime - d.timeoutTime) do throw (.notTurn 2)
  else if slot = 1 then
    if timeSpan < oneLoopTime then
      unless timeSpan ≥ d.blockInternal ∧ timeSpan < d.timeoutTime do throw (.notTurn 3)
    else
      let some timeSpan := goMod timeSpan oneLoopTime | throw .divideByZero
      unless timeSpan < d.timeoutTime do throw (.notTurn 4)
  else
    let some timeSpan := goMod timeSpan oneLoopTime | throw .divideByZero
    let some turn := goDiv timeSpan d.timeoutTime | throw .divideByZero
    unless turn = toInt64 (slot - 1) do throw (.notTurn 5)

/-- {lit}`verifyHeader`: whether a header conforms to the consensus rules, read
at the instant {lit}`now` (Unix seconds), with an optional batch of parents. -/
def verifyHeader (d : Dpovp) (cr : Crypto) (r : Roster) (chain : ChainReader)
    (header : Header) (parents : List Header) (now : Int) : Except VerifyError Unit := do
  if toUint64 header.difficulty ≠ 1 then throw .difficultyNotOne
  let parent ← selectParent cr chain header parents
  if now < header.time then throw .futureBlock
  checkSigner cr r header
  if toUint64 parent.number = 0 then return ()
  d.checkTurn r parent header

section Spec

variable {d : Dpovp} {cr : Crypto} {r : Roster} {chain : ChainReader} {header : Header}
  {parents : List Header} {now : Int}

/-- Acceptance is the conjunction of the stages; the rotation and timing stage
is skipped when the parent's truncated number is zero. -/
theorem verifyHeader_eq_ok_iff :
    d.verifyHeader cr r chain header parents now = .ok () ↔
      toUint64 header.difficulty = 1 ∧
      ∃ parent, selectParent cr chain header parents = .ok parent ∧ (header.time : Int) ≤ now ∧
        checkSigner cr r header = .ok () ∧
        (toUint64 parent.number = 0 ∨ d.checkTurn r parent header = .ok ()) := by
  unfold verifyHeader
  by_cases hd : toUint64 header.difficulty = 1
  · cases hp : selectParent cr chain header parents with
    | error e => simp [hd, hp]
    | ok parent =>
      by_cases ht : now < header.time
      · simp [hd, hp, ht]
      · cases hs : checkSigner cr r header with
        | error e => simp [hd, hp, ht, hs]
        | ok u =>
          by_cases hg : toUint64 parent.number = 0 <;> simp [hd, hp, hs, hg, ht, not_lt.1 ht]
  · simp [hd]

/-- An accepted header's parent passed the parent stage. -/
theorem selectParent_of_verifyHeader (h : d.verifyHeader cr r chain header parents now = .ok ()) :
    ∃ parent, selectParent cr chain header parents = .ok parent :=
  let ⟨_, p, hp, _⟩ := verifyHeader_eq_ok_iff.1 h
  ⟨p, hp⟩

/-- A header that passes the signature stage is by a star node. -/
theorem mem_addresses_of_checkSigner (h : checkSigner cr r header = .ok ()) :
    header.coinbase ∈ r.addresses := by
  unfold checkSigner at h
  split at h
  · cases h
  · rw [← Roster.getPubkeyByAddress_isSome]
    split at h
    · cases h
    · simp [*]

/-- Against a parent whose truncated number is not zero, an accepted header is
by a star node, is not from the future, and passed the timing stage. -/
theorem checkTurn_of_verifyHeader {parent : Header} (hpn : toUint64 parent.number ≠ 0)
    (hsel : selectParent cr chain header parents = .ok parent)
    (hv : d.verifyHeader cr r chain header parents now = .ok ()) :
    header.coinbase ∈ r.addresses ∧ (header.time : Int) ≤ now ∧
      d.checkTurn r parent header = .ok () := by
  obtain ⟨-, p, hp, ht, hs, hturn⟩ := verifyHeader_eq_ok_iff.1 hv
  obtain rfl : p = parent := by rw [hsel] at hp; exact (Except.ok.inj hp).symm
  exact ⟨mem_addresses_of_checkSigner hs, ht, hturn.resolve_left hpn⟩

/-- The timing stage reads only the header's time and coinbase. -/
theorem checkTurn_congr {parent header' : Header} (ht : header.time = header'.time)
    (hc : header.coinbase = header'.coinbase) :
    d.checkTurn r parent header = d.checkTurn r parent header' := by
  simp only [checkTurn, timeSpan, ht, hc]

end Spec

/-- On times that fit, {lit}`timeSpan` is exactly {lit}`1000 * (header.Time - parent.Time)`. -/
theorem timeSpan_eq {parent header : Header} (hp : parent.time ≤ (2 ^ 63 - 1) / 1000)
    (hh : header.time ≤ (2 ^ 63 - 1) / 1000) :
    timeSpan parent header = 1000 * ((header.time : Int) - parent.time) := by
  rw [timeSpan, toUint64_of_lt (by omega), toUint64_of_lt (by omega),
    toInt64_subUint64 (by omega) (by omega), toInt64_of_range (by omega) (by omega)]
  ring

/-- {lit}`VerifyUncles`: a block may carry no uncles. -/
def verifyUncles (block : Block) : Except VerifyError Unit :=
  if block.uncles.length > 0 then .error .unclesNotAllowed else .ok ()

/-- {lit}`VerifySeal`: the address of the recovered key is the coinbase. -/
def verifySeal (cr : Crypto) (header : Header) : Except VerifyError Unit :=
  match cr.ecrecover (cr.keccak256Hash header.coinbase) header.signInfo with
  | none => .error (.sealUnrecoverable (cr.headerHash header))
  | some pubkey =>
    if header.coinbase = cr.keccak256 (pubkey.drop 1) % 2 ^ 160 then .ok ()
    else .error .signerNotCoinbase

/-! ## Sealing path -/

/-- {lit}`Prepare` at the instant {lit}`now`: find the parent, clear the nonce and
mix digest, set difficulty one and the time to {lit}`uint64(now)`. -/
def prepare (chain : ChainReader) (header : Header) (now : Int) : Except VerifyError Header :=
  match chain header.parentHash (subUint64 (toUint64 header.number) 1) with
  | none => .error .unknownAncestor
  | some _ =>
    .ok { header with nonce := 0, mixDigest := 0, difficulty := 1, time := int64ToUint64 now }

/-- {lit}`accumulateRewards`: credit the block reward to the coinbase. -/
def accumulateRewards (state : StateDB) (header : Header) : StateDB :=
  state.addBalance header.coinbase blockReward

/-- {lit}`Finalize`: credit the reward, record the state root and the empty
uncle hash, and assemble the block without uncles.  {lit}`intermediateRoot` is
the state store's {lit}`IntermediateRoot(true)`. -/
def finalize (cr : Crypto) (intermediateRoot : StateDB → Hash) (header : Header)
    (state : StateDB) (txs : List Nat) (_uncles : List Header) (receipts : List Nat) :
    Block × StateDB :=
  let state := accumulateRewards state header
  let header := { header with root := intermediateRoot state, uncleHash := cr.emptyUncleHash }
  (⟨header, txs, [], receipts⟩, state)

end Dpovp

/-- {lit}`Seal` with the local private key {lit}`privKey` ({lit}`GetPrivKey()`):
refuse a coinbase outside the roster and the genesis number, then sign
{lit}`Keccak256(coinbase)`. -/
def Dpovp.seal (cr : Crypto) (r : Roster) (privKey : PrivKey) (d : Dpovp) (block : Block) :
    Except SealError Block :=
  if r.getCoreNodeIndex d.coinbase = -1 then .error .notStarNode
  else
    let header := block.header
    let number := toUint64 header.number
    if number = 0 then .error (.unknownBlock number)
    else
      match cr.sign (cr.keccak256Hash d.coinbase) privKey with
      | none => .error .signFailed
      | some signInfo => .ok (block.withSeal { header with signInfo := signInfo })

/-! ## The network of the spec's scenarios -/

/-- Symbolic signatures: the signature of {lit}`h` by key {lit}`k` is
{lit}`[h, k]`; recovering it at {lit}`h` gives the key {lit}`[4, k]` (format byte
first), at any other hash a key no private key has.  Keccak reads bytes
big-endian, and a header hashes to its number. -/
def symbolicCrypto : Crypto where
  keccak256 bs := bs.foldl (fun acc b => acc * 256 + b) 0
  ecrecover h s := match s with
    | [h', k] => if h' = h then some [4, k] else some [5, h', k]
    | _ => none
  sign h k := some [h, k]
  headerHash hd := hd.number
  emptyUncleHash := 0

/-- The roster of the spec's scenarios: producers A, B, C at addresses 1, 2, 3
holding keys 11, 12, 13. -/
def scenarioRoster : Roster := ⟨[⟨1, [11]⟩, ⟨2, [12]⟩, ⟨3, [13]⟩], by decide⟩

/-- The engine of the spec's scenarios: {lit}`Timeout = 10 000 ms`,
{lit}`Sleeptime = 3 000 ms`, sealing for A. -/
def scenarioEngine : Dpovp := Dpovp.new ⟨10000, 3000⟩ 1

/-- A header of the scenarios by producer {lit}`cb` with a valid seal. -/
def scenarioHeader (parentHash : Hash) (cb : Address) (number time : Nat) : Header :=
  { parentHash := parentHash, coinbase := cb, root := 0, uncleHash := 0, difficulty := 1,
    number := number, time := time, nonce := 0, mixDigest := 0,
    signInfo := [symbolicCrypto.keccak256Hash cb, 10 + cb] }

/-- The chain reader that stores nothing. -/
def emptyChain : ChainReader := fun _ _ => none

/-- The genesis by A, a block by B and a block by C five seconds later. -/
def scenarioChain : List Header :=
  [scenarioHeader 0 1 0 0, scenarioHeader 0 2 1 1000000, scenarioHeader 1 3 2 1000005]

end LoveBlock
