import LoveBlock.Engine.Sealing

/-!
# LoveBlock - Who can author a block in a star node's name

{lit}`Seal` signs {lit}`Keccak256(coinbase)`, not the header, and the
signature stage of {lit}`verifyHeader` recovers the key from {lit}`SignInfo`
over the same digest.  This module models a network run as a step relation:
star nodes seal headers with their own keys and publish them, and any other
party publishes headers of its choosing whose {lit}`SignInfo` it either copied
from a published header or made without a star node's key.  It proves that an
accepted header in a star node's name carries that node's own seal, and shows
that the rest of its content need not be the node's.

Main results:

- Theorem {lit}`NetInv.reachable`: in every run, every published
  {lit}`SignInfo` is one the other parties can make or one a star node sealed,
  and every sealed one is its node's signature of its coinbase.
- Theorem {lit}`accepted_signInfo_sealed`: under the symbolic signature
  assumptions, a published header that {lit}`verifyHeader` accepts with coinbase
  {lit}`c` carries the {lit}`SignInfo` of a header that {lit}`c`'s node sealed.
- Theorem {lit}`forged_header_accepted`: a header copying a sealed header's
  {lit}`SignInfo` with another state root is accepted, though no star node
  sealed it.

Current gaps:

- {lit}`SymbolicSignatures.forgeable_unauthentic` excludes secp256k1
  malleability: from a star node's signature {lit}`(r, s, v)` anyone can make
  {lit}`(r, n - s, v xor 1)`, which recovers the same key, and
  {lit}`verifyHeader` has no low-{lit}`s` rule.  So the byte equality of
  {lit}`SignInfo` in {lit}`accepted_signInfo_sealed` holds only for symbolic
  signatures; with real ones an accepted header carries the sealed signature or
  its malleated twin.
-/

namespace LoveBlock

namespace Dpovp

/-! ## The network -/

/-- The star nodes' keys ({lit}`GetPrivKey()` of the node at each address) and
the signature values the other parties can make without them. -/
structure Network where
  key : Address → PrivKey
  forgeable : Bytes → Prop

/-- The symbolic signature assumptions, a bundle the run theorems take: a value
the other parties make recovers to no star node's key, and a star node's
signature recovers, at any digest, to no other star node's key. -/
structure SymbolicSignatures (cr : Crypto) (r : Roster) (net : Network) : Prop where
  forgeable_unauthentic : ∀ s, net.forgeable s → ∀ c h p, cr.ecrecover h s = some p →
    r.getPubkeyByAddress c ≠ some (p.drop 1)
  sign_binds : ∀ c c' h h' s p, cr.sign h' (net.key c') = some s → cr.ecrecover h s = some p →
    r.getPubkeyByAddress c = some (p.drop 1) → c = c'

/-- The headers the star nodes sealed, and every header published so far. -/
structure NetState where
  sealed : List Header
  published : List Header

/-- One step of a run over engines configured as {lit}`d`.  The star node at
{lit}`c` seals a block of its own with its engine's coinbase set to {lit}`c` and
publishes it; or a party publishes any header whose {lit}`SignInfo` is copied
from a published header or made without a star node's key. -/
inductive NetStep (cr : Crypto) (r : Roster) (d : Dpovp) (net : Network) :
    NetState → NetState → Prop
  | starSeal {s : NetState} (c : Address) (block block' : Block) (hc : block.header.coinbase = c)
      (h : Dpovp.seal cr r (net.key c) (d.setCoinbase c) block = .ok block') :
      NetStep cr r d net s ⟨block'.header :: s.sealed, block'.header :: s.published⟩
  | publish {s : NetState} (header : Header)
      (h : (∃ p ∈ s.published, p.signInfo = header.signInfo) ∨ net.forgeable header.signInfo) :
      NetStep cr r d net s ⟨s.sealed, header :: s.published⟩

/-- The states of all runs from the empty network. -/
inductive NetReachable (cr : Crypto) (r : Roster) (d : Dpovp) (net : Network) : NetState → Prop
  | init : NetReachable cr r d net ⟨[], []⟩
  | step {s s' : NetState} : NetReachable cr r d net s → NetStep cr r d net s s' →
      NetReachable cr r d net s'

/-! ## The run invariant -/

/-- Every sealed {lit}`SignInfo` is its node's signature of its coinbase, and
every published one is makeable by the other parties or was sealed. -/
structure NetInv (cr : Crypto) (net : Network) (s : NetState) : Prop where
  sealed_signed : ∀ h ∈ s.sealed,
    cr.sign (cr.keccak256Hash h.coinbase) (net.key h.coinbase) = some h.signInfo
  published_sig : ∀ h ∈ s.published,
    net.forgeable h.signInfo ∨ ∃ h₀ ∈ s.sealed, h₀.signInfo = h.signInfo

variable {cr : Crypto} {r : Roster} {d : Dpovp} {net : Network} {s s' : NetState}

theorem NetInv.init : NetInv cr net ⟨[], []⟩ :=
  ⟨fun _ h => absurd h (List.not_mem_nil _), fun _ h => absurd h (List.not_mem_nil _)⟩

/-- Every step keeps the invariant. -/
theorem NetInv.step (hi : NetInv cr net s) (h : NetStep cr r d net s s') : NetInv cr net s' := by
  cases h with
  | starSeal c block block' hc hseal =>
    -- the new header is the block's, with the node's signature of `c`
    obtain ⟨sig, hsig, hb'⟩ := seal_eq_ok hseal
    have hcb : block'.header.coinbase = c := by rw [hb', ← hc]
    refine ⟨fun h hh => ?_, fun h hh => ?_⟩
    · rcases List.mem_cons.1 hh with rfl | hh
      · rw [hcb, hb']
        exact hsig
      · exact hi.sealed_signed h hh
    · rcases List.mem_cons.1 hh with rfl | hh
      · exact .inr ⟨_, List.mem_cons_self _ _, rfl⟩
      · exact (hi.published_sig h hh).imp_right fun ⟨h₀, hh₀, he⟩ =>
          ⟨h₀, List.mem_cons_of_mem _ hh₀, he⟩
  | publish header hsig =>
    refine ⟨hi.sealed_signed, fun h hh => ?_⟩
    rcases List.mem_cons.1 hh with rfl | hh
    · rcases hsig with ⟨p, hp, he⟩ | hf
      · exact he ▸ hi.published_sig p hp
      · exact .inl hf
    · exact hi.published_sig h hh

/-- Every reachable state satisfies the invariant. -/
theorem NetInv.reachable (hr : NetReachable cr r d net s) : NetInv cr net s := by
  induction hr with
  | init => exact NetInv.init
  | step _ h ih => exact ih.step h

/-! ## Accepted headers -/

/-- The signature stage passes exactly when the key recovered over the
coinbase's digest is, without its format byte, the roster's key of the coinbase. -/
theorem checkSigner_eq_ok {header : Header} (h : checkSigner cr r header = .ok ()) :
    ∃ p, cr.ecrecover (cr.keccak256Hash header.coinbase) header.signInfo = some p ∧
      r.getPubkeyByAddress header.coinbase = some (p.drop 1) := by
  unfold checkSigner at h
  split at h
  · cases h
  · rename_i p hp
    split at h
    · cases h
    · rename_i q hq
      split_ifs at h with he
      · exact ⟨p, hp, he ▸ hq⟩

/-- Only a star node's own seal authenticates a header in its name: under the
symbolic signature assumptions, in every run, a published header that
{lit}`verifyHeader` accepts (with any engine, chain, batch and clock) with
coinbase {lit}`c` carries the {lit}`SignInfo` of a header that {lit}`c`'s node
sealed. -/
theorem accepted_signInfo_sealed {v : Dpovp} {chain : ChainReader} {header : Header}
    {parents : List Header} {now : Int} (hsig : SymbolicSignatures cr r net)
    (hrun : NetReachable cr r d net s) (hH : header ∈ s.published)
    (hv : v.verifyHeader cr r chain header parents now = .ok ()) :
    ∃ h₀ ∈ s.sealed, h₀.coinbase = header.coinbase ∧ h₀.signInfo = header.signInfo := by
  obtain ⟨-, -, -, -, hs, -⟩ := verifyHeader_eq_ok_iff.1 hv
  obtain ⟨p, hp, hkey⟩ := checkSigner_eq_ok hs
  have hi := NetInv.reachable hrun
  rcases hi.published_sig header hH with hf | ⟨h₀, hh₀, he⟩
  · exact absurd hkey (hsig.forgeable_unauthentic _ hf _ _ _ hp)
  · have hc := hsig.sign_binds _ _ _ _ _ _ (hi.sealed_signed h₀ hh₀) (he ▸ hp) hkey
    exact ⟨h₀, hh₀, hc.symm, he⟩

/-! ## Scenarios -/

/-- The scenario's nodes hold keys {lit}`10 + c`; the other parties can make
any value that recovers to no star node's key. -/
def scenarioNetwork : Network where
  key c := 10 + c
  forgeable s := ∀ c h p, symbolicCrypto.ecrecover h s = some p →
    scenarioRoster.getPubkeyByAddress c ≠ some (p.drop 1)

/-- The scenario roster holds key {lit}`[10 + c]` for each of its nodes. -/
theorem scenario_getPubkeyByAddress {c : Address} {k : Bytes}
    (h : scenarioRoster.getPubkeyByAddress c = some k) : k = [10 + c] := by
  obtain ⟨n, hn, rfl⟩ := Option.map_eq_some'.1 h
  have hmem := List.mem_of_find?_eq_some hn
  have hc : n.address = c := by simpa using List.find?_some hn
  simp only [scenarioRoster, List.mem_cons, List.mem_singleton, List.not_mem_nil, or_false] at hmem
  rcases hmem with rfl | rfl | rfl <;> subst hc <;> rfl

/-- The symbolic signatures of the scenarios meet the assumptions: a signature
recovers to its own key at its own digest and to a two-byte key elsewhere,
while the roster's keys are one byte long and distinct. -/
theorem scenario_symbolicSignatures :
    SymbolicSignatures symbolicCrypto scenarioRoster scenarioNetwork := by
  refine ⟨fun _ hf => hf, ?_⟩
  rintro c c' h h' s p ⟨⟩ hp hkey
  have hk := scenario_getPubkeyByAddress hkey
  simp only [symbolicCrypto, scenarioNetwork] at hp
  split_ifs at hp <;> cases hp <;> simp at hk
  exact hk.symm

/-- A's sealed block 2 on top of C's block 1, with its state root replaced. -/
def forgedHeader : Header := { scenarioHeader 1 1 2 1000005 with root := 7 }

/-- A seals block 2 five seconds after C's block 1; another party republishes it
with state root 7 and A's {lit}`SignInfo`.  The copy is accepted in A's turn,
though A sealed only the original. -/
theorem forged_header_accepted :
    NetReachable symbolicCrypto scenarioRoster scenarioEngine scenarioNetwork
      ⟨[scenarioHeader 1 1 2 1000005], [forgedHeader, scenarioHeader 1 1 2 1000005]⟩ ∧
    0 < forgedHeader.number ∧ forgedHeader.coinbase = 1 ∧
    scenarioEngine.verifyHeader symbolicCrypto scenarioRoster emptyChain forgedHeader
      [scenarioHeader 0 3 1 1000000] 1000005 = .ok () ∧
    forgedHeader ∉ [scenarioHeader 1 1 2 1000005] := by
  refine ⟨.step (.step .init (.starSeal 1 ⟨{ scenarioHeader 1 1 2 1000005 with signInfo := [] }, [], [], []⟩
    ⟨scenarioHeader 1 1 2 1000005, [], [], []⟩ rfl rfl))
    (.publish forgedHeader (.inl ⟨_, List.mem_cons_self _ _, rfl⟩)), by decide, rfl, rfl, by decide⟩

/-- The copy of the scenario above carries A's own seal. -/
theorem accepted_signInfo_sealed_scenario :
    SymbolicSignatures symbolicCrypto scenarioRoster scenarioNetwork ∧
    NetReachable symbolicCrypto scenarioRoster scenarioEngine scenarioNetwork
      ⟨[scenarioHeader 1 1 2 1000005], [forgedHeader, scenarioHeader 1 1 2 1000005]⟩ ∧
    forgedHeader ∈ [forgedHeader, scenarioHeader 1 1 2 1000005] ∧
    scenarioEngine.verifyHeader symbolicCrypto scenarioRoster emptyChain forgedHeader
      [scenarioHeader 0 3 1 1000000] 1000005 = .ok () ∧
    ∃ h₀ ∈ [scenarioHeader 1 1 2 1000005], h₀.coinbase = forgedHeader.coinbase ∧
      h₀.signInfo = forgedHeader.signInfo := by
  have hrun : NetReachable symbolicCrypto scenarioRoster scenarioEngine scenarioNetwork
      ⟨[scenarioHeader 1 1 2 1000005], [forgedHeader, scenarioHeader 1 1 2 1000005]⟩ :=
    .step (.step .init (.starSeal 1 ⟨{ scenarioHeader 1 1 2 1000005 with signInfo := [] }, [], [], []⟩
      ⟨scenarioHeader 1 1 2 1000005, [], [], []⟩ rfl rfl))
      (.publish forgedHeader (.inl ⟨_, List.mem_cons_self _ _, rfl⟩))
  have hv : scenarioEngine.verifyHeader symbolicCrypto scenarioRoster emptyChain forgedHeader
      [scenarioHeader 0 3 1 1000000] 1000005 = .ok () := rfl
  exact ⟨scenario_symbolicSignatures, hrun, List.mem_cons_self _ _, hv,
    accepted_signInfo_sealed scenario_symbolicSignatures hrun (List.mem_cons_self _ _) hv⟩

end Dpovp

end LoveBlock
