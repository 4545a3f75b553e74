import Mathlib.Tactic

/-!
# LoveBlock - Go integers, headers and the engine's collaborators

The DPoVP engine reads block numbers, difficulties and times out of
{lit}`*big.Int` header fields through {lit}`Uint64()`, subtracts them as
{lit}`uint64`, converts the difference to {lit}`int64` and multiplies it in
{lit}`int64`.  This module fixes those conversions as functions on unbounded
integers, so that every truncation and wrap-around of the Go code is visible,
and defines the header, block, chain reader, state store and crypto primitives
the engine is written against.

Main results:

- Theorems {lit}`toInt64_of_range` and {lit}`subUint64_of_le`: the Go
  conversions are the identity on values that fit.
- Theorems {lit}`goMod_of_pos` and {lit}`goDiv_of_pos`: Go's truncated
  {lit}`%` and {lit}`/` agree with Euclidean ones on non-negative operands
  that fit, by the library's {lit}`Int.tmod_eq_emod` and {lit}`Int.tdiv_eq_ediv`.

Current gaps:

- Header fields that only {lit}`Header.Hash` reads (transaction and receipt
  roots, bloom, gas, extra data) are not carried; the hash is a parameter.
-/

namespace LoveBlock

/-! ## Go integer conversions -/

/-- {lit}`x.Uint64()` of a non-negative {lit}`*big.Int`: the low 64 bits. -/
def toUint64 (x : Nat) : Nat := x % 2 ^ 64

/-- {lit}`uint64` subtraction {lit}`a - b`, which wraps around modulo {lit}`2^64`. -/
def subUint64 (a b : Nat) : Nat := (a % 2 ^ 64 + 2 ^ 64 - b % 2 ^ 64) % 2 ^ 64

/-- Go's conversion to {lit}`int64`, also the result of every {lit}`int64`
operation: the low 64 bits read in two's complement. -/
def toInt64 (x : Int) : Int := (x + 2 ^ 63) % 2 ^ 64 - 2 ^ 63

/-- Go's conversion {lit}`uint64(x)` of an {lit}`int64`. -/
def int64ToUint64 (x : Int) : Nat := (x % 2 ^ 64).toNat

/-- Go's {lit}`x % y` on {lit}`int64`: truncated remainder, panicking on a zero
divisor ({lean}`none`). -/
def goMod (x y : Int) : Option Int :=
  if y = 0 then none else some (toInt64 (x.tmod y))

/-- Go's {lit}`x / y` on {lit}`int64`: truncated quotient, panicking on a zero
divisor ({lean}`none`). -/
def goDiv (x y : Int) : Option Int :=
  if y = 0 then none else some (toInt64 (x.tdiv y))

theorem toUint64_lt (x : Nat) : toUint64 x < 2 ^ 64 := Nat.mod_lt _ (by norm_num)

theorem toUint64_of_lt {x : Nat} (h : x < 2 ^ 64) : toUint64 x = x := Nat.mod_eq_of_lt h

/-- An integer that fits in {lit}`int64` converts to itself. -/
theorem toInt64_of_range {x : Int} (h1 : -2 ^ 63 ≤ x) (h2 : x < 2 ^ 63) :
    toInt64 x = x := by
  unfold toInt64
  omega

/-- Subtracting a smaller {lit}`uint64` does not wrap. -/
theorem subUint64_of_le {a b : Nat} (ha : a < 2 ^ 64) (hba : b ≤ a) :
    subUint64 a b = a - b := by
  unfold subUint64
  omega

/-- Subtracting a larger {lit}`uint64` wraps to {lit}`2^64 - (b - a)`. -/
theorem subUint64_of_lt {a b : Nat} (hb : b < 2 ^ 64) (hab : a < b) :
    subUint64 a b = a + 2 ^ 64 - b := by
  unfold subUint64
  omega

/-- The {lit}`uint64` difference of two values below {lit}`2^63`, read as
{lit}`int64`, is their exact difference. -/
theorem toInt64_subUint64 {a b : Nat} (ha : a < 2 ^ 63) (hb : b < 2 ^ 63) :
    toInt64 (subUint64 a b) = (a : Int) - b := by
  unfold toInt64 subUint64
  omega

@[simp]
theorem goMod_zero (x : Int) : goMod x 0 = none := by simp [goMod]

@[simp]
theorem goDiv_zero (x : Int) : goDiv x 0 = none := by simp [goDiv]

/-- On non-negative operands with a positive divisor Go's {lit}`%` is Euclidean. -/
theorem goMod_of_pos {x y : Int} (hx : 0 ≤ x) (hy : 0 < y) (hfit : y < 2 ^ 63) :
    goMod x y = some (x % y) := by
  have hlt : x % y < y := Int.emod_lt_of_pos x hy
  have hnn : 0 ≤ x % y := Int.emod_nonneg x hy.ne'
  rw [goMod, if_neg hy.ne', Int.tmod_eq_emod hx hy.le,
    toInt64_of_range (x := x % y) (by omega) (by omega)]

/-- On non-negative operands that fit, Go's {lit}`/` is Euclidean. -/
theorem goDiv_of_pos {x y : Int} (hx : 0 ≤ x) (hy : 0 < y) (hfit : x < 2 ^ 63) :
    goDiv x y = some (x / y) := by
  have hle : x / y ≤ x := Int.ediv_le_self y hx
  have hnn : 0 ≤ x / y := Int.ediv_nonneg hx hy.le
  rw [goDiv, if_neg hy.ne', Int.tdiv_eq_ediv hx hy.le,
    toInt64_of_range (x := x / y) (by omega) (by omega)]

/-! ## Evaluating {lit}`Except` computations -/

@[simp]
theorem except_ok_bind {ε α β : Type} (a : α) (f : α → Except ε β) :
    (Except.ok a >>= f) = f a := rfl

@[simp]
theorem except_error_bind {ε α β : Type} (e : ε) (f : α → Except ε β) :
    (Except.error e >>= f) = Except.error e := rfl

@[simp]
theorem except_throw {ε α : Type} (e : ε) : (throw e : Except ε α) = Except.error e := rfl

@[simp]
theorem except_pure {ε α : Type} (a : α) : (pure a : Except ε α) = Except.ok a := rfl

/-! ## Addresses, hashes and byte strings -/

/-- A 20-byte {lit}`common.Address`, as its big-endian value. -/
abbrev Address := Nat

/-- A 32-byte {lit}`common.Hash`, as its big-endian value. -/
abbrev Hash := Nat

/-- A private key of the signature scheme. -/
abbrev PrivKey := Nat

/-- A byte string: a signature or a public key.  The engine only slices,
copies and compares them, so entries range over all naturals. -/
abbrev Bytes := List Nat

/-- The {lit}`width` big-endian bytes of a value, as Go lays out an address or a hash. -/
def toBytes (width x : Nat) : Bytes := (List.range width).reverse.map fun i => x / 256 ^ i % 256

/-- {lit}`common.ToHex`: {lit}`0x` and two lower-case hex digits per byte. -/
def toHex (bs : Bytes) : String :=
  "0x" ++ String.join (bs.map fun b => String.mk [Nat.digitChar (b / 16 % 16), Nat.digitChar (b % 16)])

/-! ## Headers and blocks -/

/-- The fields of {lit}`types.Header` that the engine reads or writes.  The
{lit}`*big.Int` fields are non-negative integers of any size, which is what RLP
decoding of a peer's header yields. -/
structure Header where
  parentHash : Hash
  coinbase : Address
  root : Hash
  uncleHash : Hash
  difficulty : Nat
  number : Nat
  time : Nat
  nonce : Nat
  mixDigest : Hash
  signInfo : Bytes
deriving DecidableEq, Repr

/-- A block: its header, opaque transactions and receipts, and its uncles. -/
structure Block where
  header : Header
  transactions : List Nat
  uncles : List Header
  receipts : List Nat
deriving DecidableEq, Repr

/-- {lit}`Block.WithSeal`: the block with its header replaced, body kept. -/
def Block.withSeal (b : Block) (header : Header) : Block := { b with header := header }

@[simp]
theorem Block.withSeal_header (b : Block) (h : Header) : (b.withSeal h).header = h := rfl

/-- {lit}`consensus.ChainReader.GetHeader`: the stored header with a given hash
and {lit}`uint64` number, if any. -/
abbrev ChainReader := Hash → Nat → Option Header

/-- The balances of the state store; {lit}`Finalize` only credits them. -/
structure StateDB where
  balance : Address → Nat

/-- {lit}`StateDB.AddBalance`. -/
def StateDB.addBalance (s : StateDB) (a : Address) (amount : Nat) : StateDB :=
  ⟨Function.update s.balance a (s.balance a + amount)⟩

/-! ## Crypto primitives -/

/-- The primitives the engine calls: {lit}`crypto.Keccak256` over a byte string,
{lit}`crypto.Ecrecover` (the 65-byte public key, or an error),
{lit}`crypto.Sign` (the 65-byte signature, or an error), {lit}`Header.Hash`, and
the constant {lit}`types.CalcUncleHash(nil)`. -/
structure Crypto where
  keccak256 : Bytes → Hash
  ecrecover : Hash → Bytes → Option Bytes
  sign : Hash → PrivKey → Option Bytes
  headerHash : Header → Hash
  emptyUncleHash : Hash

/-- {lit}`crypto.Keccak256Hash(addr[:])`: the hash of an address's 20 bytes. -/
def Crypto.keccak256Hash (cr : Crypto) (a : Address) : Hash := cr.keccak256 (toBytes 20 a)

end LoveBlock
