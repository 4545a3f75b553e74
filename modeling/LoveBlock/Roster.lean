import LoveBlock.Types

/-!
# LoveBlock - The star-node roster

The engine consults a process-wide roster of star nodes through
{lit}`common/dpovp`: its size, the index and public key of an address, and the
slot between two producers.  That package is not part of the source, so the
roster is modelled from the spec: an ordered set of {lit}`(Address, PublicKey)`
records with canonical indices {lit}`0..N-1`, and the ring formula
{lit}`s = ((j - i - 1) mod N) + 1` with {lit}`s = 0` for {lit}`j = i`.

Main results:

- Theorem {lit}`getSlot_lt`: between members the slot lies in {lit}`0..N-1`.
- Theorem {lit}`getSlot_eq_zero_iff`: the slot is {lit}`0` exactly for
  self-succession.
- Theorem {lit}`getSlot_pred_emod`: one turn before the slot is the ring
  distance {lit}`(j - i - 1) mod N`.
- Theorem {lit}`existsUnique_ringDist`: every ring distance is the distance to
  exactly one member.
-/

namespace LoveBlock

/-- One record of the roster: a star node's address and its 64-byte public key. -/
structure StarNode where
  address : Address
  pubkey : Bytes
deriving DecidableEq, Repr

/-- Modelled from the spec: the roster of star nodes loaded once at start-up.
The spec calls it an ordered set, so no address occurs twice. -/
structure Roster where
  nodes : List StarNode
  nodup : (nodes.map StarNode.address).Nodup

namespace Roster

variable (r : Roster)

/-- The addresses of the roster in canonical order. -/
def addresses : List Address := r.nodes.map StarNode.address

/-- Modelled from the spec: {lit}`GetCoreNodesCount`, the number {lit}`N` of star nodes. -/
def getCoreNodesCount : Nat := r.nodes.length

/-- Modelled from the spec: {lit}`GetCoreNodeIndex`, the canonical index of an
address, or {lit}`-1` for an address outside the roster. -/
def getCoreNodeIndex (a : Address) : Int :=
  if a ∈ r.addresses then (r.addresses.indexOf a : Int) else -1

/-- Modelled from the spec: {lit}`GetPubkeyByAddress`, the public key of a star node. -/
def getPubkeyByAddress (a : Address) : Option Bytes :=
  (r.nodes.find? fun n => n.address = a).map StarNode.pubkey

/-- Modelled from the spec: {lit}`GetSlot`, how many producer turns after the
parent's producer {lit}`a` it is for {lit}`b` on the ring of {lit}`N` star nodes. -/
def getSlot (a b : Address) : Int :=
  let i := r.getCoreNodeIndex a
  let j := r.getCoreNodeIndex b
  if j = i then 0 else (j - i - 1) % (r.getCoreNodesCount : Int) + 1

/-! ## Indices -/

variable {r}

@[simp]
theorem length_addresses : r.addresses.length = r.getCoreNodesCount := by
  simp [addresses, getCoreNodesCount]

theorem nodup_addresses : r.addresses.Nodup := r.nodup

theorem getCoreNodeIndex_of_mem {a : Address} (ha : a ∈ r.addresses) :
    r.getCoreNodeIndex a = r.addresses.indexOf a := if_pos ha

theorem getCoreNodeIndex_nonneg {a : Address} (ha : a ∈ r.addresses) :
    0 ≤ r.getCoreNodeIndex a := by
  simp [getCoreNodeIndex_of_mem ha]

theorem getCoreNodeIndex_lt {a : Address} (ha : a ∈ r.addresses) :
    r.getCoreNodeIndex a < r.getCoreNodesCount := by
  rw [getCoreNodeIndex_of_mem ha, ← length_addresses]
  exact_mod_cast List.indexOf_lt_length.2 ha

/-- Distinct members have distinct indices. -/
theorem getCoreNodeIndex_inj {a b : Address} (ha : a ∈ r.addresses) (hb : b ∈ r.addresses)
    (h : r.getCoreNodeIndex a = r.getCoreNodeIndex b) : a = b := by
  rw [getCoreNodeIndex_of_mem ha, getCoreNodeIndex_of_mem hb] at h
  exact (List.indexOf_inj ha hb).1 (by exact_mod_cast h)

/-- Every index {lit}`0..N-1` is the index of a member. -/
theorem exists_getCoreNodeIndex_eq {k : Int} (h0 : 0 ≤ k) (hk : k < r.getCoreNodesCount) :
    ∃ a ∈ r.addresses, r.getCoreNodeIndex a = k := by
  lift k to Nat using h0
  have hk' : k < r.addresses.length := by simpa using hk
  refine ⟨r.addresses[k], List.getElem_mem hk', ?_⟩
  rw [getCoreNodeIndex_of_mem (List.getElem_mem hk'),
    List.indexOf_getElem nodup_addresses k hk']

/-- A member has a public key on the roster. -/
theorem getPubkeyByAddress_isSome {a : Address} :
    (r.getPubkeyByAddress a).isSome ↔ a ∈ r.addresses := by
  simp [getPubkeyByAddress, addresses, List.find?_isSome]

/-- The key the roster returns for an address is the key of a node at that address. -/
theorem getPubkeyByAddress_eq_some {a : Address} {pk : Bytes}
    (h : r.getPubkeyByAddress a = some pk) : ∃ n ∈ r.nodes, n.address = a ∧ n.pubkey = pk := by
  obtain ⟨n, hn, rfl⟩ := Option.map_eq_some'.1 h
  exact ⟨n, List.mem_of_find?_eq_some hn, by simpa using List.find?_some hn, rfl⟩

/-! ## Slots -/

/-- The ring distance {lit}`(j - i - 1) mod N` between two indices below
{lit}`N` lies in {lit}`0..N-1` and is {lit}`N - 1` only for {lit}`j = i`. -/
theorem ringDist_spec {i j N : Int} (hi0 : 0 ≤ i) (hi : i < N) (hj0 : 0 ≤ j) (hj : j < N) :
    0 ≤ (j - i - 1) % N ∧ (j - i - 1) % N < N ∧ ((j - i - 1) % N = N - 1 ↔ j = i) := by
  rcases le_or_lt 0 (j - i - 1) with h | h
  · rw [Int.emod_eq_of_lt h (by omega)]
    omega
  · rw [← Int.add_emod_self, Int.emod_eq_of_lt (by omega) (by omega)]
    omega

theorem getSlot_eq (a b : Address) :
    r.getSlot a b = if r.getCoreNodeIndex b = r.getCoreNodeIndex a then 0
      else (r.getCoreNodeIndex b - r.getCoreNodeIndex a - 1) % (r.getCoreNodesCount : Int) + 1 :=
  rfl

theorem getSlot_self (a : Address) : r.getSlot a a = 0 := by
  simp [getSlot_eq]

/-- Every slot, of members or not, lies in {lit}`0..N`. -/
theorem getSlot_nonneg_le (a b : Address) (hN : 0 < r.getCoreNodesCount) :
    0 ≤ r.getSlot a b ∧ r.getSlot a b ≤ r.getCoreNodesCount := by
  have hlt := Int.emod_lt_of_pos (r.getCoreNodeIndex b - r.getCoreNodeIndex a - 1)
    (show (0 : Int) < r.getCoreNodesCount by omega)
  have hnn := Int.emod_nonneg (r.getCoreNodeIndex b - r.getCoreNodeIndex a - 1)
    (show (r.getCoreNodesCount : Int) ≠ 0 by omega)
  rw [getSlot_eq]
  split <;> omega

section Members

variable {a b : Address} (ha : a ∈ r.addresses) (hb : b ∈ r.addresses)
include ha hb

/-- Between two members the slot lies in {lit}`0..N-1`. -/
theorem getSlot_lt : 0 ≤ r.getSlot a b ∧ r.getSlot a b < r.getCoreNodesCount := by
  have := ringDist_spec (getCoreNodeIndex_nonneg ha) (getCoreNodeIndex_lt ha)
    (getCoreNodeIndex_nonneg hb) (getCoreNodeIndex_lt hb)
  rw [getSlot_eq]
  split <;> omega

/-- Between two members the slot is {lit}`0` exactly for self-succession. -/
theorem getSlot_eq_zero_iff : r.getSlot a b = 0 ↔ a = b := by
  have := ringDist_spec (getCoreNodeIndex_nonneg ha) (getCoreNodeIndex_lt ha)
    (getCoreNodeIndex_nonneg hb) (getCoreNodeIndex_lt hb)
  rw [getSlot_eq]
  split
  · rename_i h
    exact iff_of_true rfl (getCoreNodeIndex_inj ha hb h.symm)
  · rename_i h
    exact iff_of_false (by omega) fun hab => h (by rw [hab])

/-- One turn before the slot is the ring distance from {lit}`a` to {lit}`b`. -/
theorem getSlot_pred_emod :
    (r.getSlot a b + r.getCoreNodesCount - 1) % r.getCoreNodesCount =
      (r.getCoreNodeIndex b - r.getCoreNodeIndex a - 1) % r.getCoreNodesCount := by
  have := ringDist_spec (getCoreNodeIndex_nonneg ha) (getCoreNodeIndex_lt ha)
    (getCoreNodeIndex_nonneg hb) (getCoreNodeIndex_lt hb)
  rw [getSlot_eq]
  split
  · rename_i h
    rw [Int.emod_eq_of_lt (by omega) (by omega), this.2.2.2 h]
    ring
  · rw [show (r.getCoreNodeIndex b - r.getCoreNodeIndex a - 1) % (r.getCoreNodesCount : Int) + 1
        + r.getCoreNodesCount - 1 = (r.getCoreNodeIndex b - r.getCoreNodeIndex a - 1)
        % (r.getCoreNodesCount : Int) + r.getCoreNodesCount by ring, Int.add_emod_self,
      Int.emod_emod_of_dvd _ (dvd_refl _)]

end Members

/-- For an index {lit}`j` below {lit}`N`, the ring distance from {lit}`i` is
{lit}`w` exactly when {lit}`j` is {lit}`w + 1` places after {lit}`i`. -/
theorem ringDist_eq_iff {i j w N : Int} (hj0 : 0 ≤ j) (hj : j < N) (hw0 : 0 ≤ w) (hw : w < N) :
    (j - i - 1) % N = w ↔ j = (i + 1 + w) % N := by
  constructor
  · intro h
    have h1 := Int.emod_add_ediv (j - i - 1) N
    rw [h] at h1
    rw [show i + 1 + w = j + N * (-((j - i - 1) / N)) by linear_combination h1,
      Int.add_mul_emod_self_left, Int.emod_eq_of_lt hj0 hj]
  · rintro rfl
    have h1 := Int.emod_add_ediv (i + 1 + w) N
    rw [show (i + 1 + w) % N - i - 1 = w + N * (-((i + 1 + w) / N)) by linear_combination h1,
      Int.add_mul_emod_self_left, Int.emod_eq_of_lt hw0 hw]

/-- Every ring distance {lit}`0..N-1` from an address is the distance to
exactly one member. -/
theorem existsUnique_ringDist (a : Address) {w : Int}
    (hw0 : 0 ≤ w) (hw : w < r.getCoreNodesCount) :
    ∃! b, b ∈ r.addresses ∧
      (r.getCoreNodeIndex b - r.getCoreNodeIndex a - 1) % r.getCoreNodesCount = w := by
  have hN : (0 : Int) < r.getCoreNodesCount := by omega
  obtain ⟨b, hb, hbk⟩ := exists_getCoreNodeIndex_eq (r := r)
    (Int.emod_nonneg (r.getCoreNodeIndex a + 1 + w) hN.ne') (Int.emod_lt_of_pos _ hN)
  refine ⟨b, ⟨hb, (ringDist_eq_iff (getCoreNodeIndex_nonneg hb) (getCoreNodeIndex_lt hb)
    hw0 hw).2 hbk⟩, ?_⟩
  rintro c ⟨hc, hcw⟩
  refine getCoreNodeIndex_inj hc hb ?_
  rw [hbk]
  exact (ringDist_eq_iff (getCoreNodeIndex_nonneg hc) (getCoreNodeIndex_lt hc) hw0 hw).1 hcw

end Roster

end LoveBlock
