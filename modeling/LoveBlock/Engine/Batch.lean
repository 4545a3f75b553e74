import LoveBlock.Engine.Divisors

/-!
# LoveBlock - Verifying a batch of headers

{lit}`VerifyHeaders` starts a goroutine that verifies {lit}`headers[i]` with the
batch prefix {lit}`headers[:i]` as candidate parents, and sends each verdict on a
{lit}`results` channel buffered to {lit}`len(headers)` unless the caller has
closed {lit}`abort`; a {lit}`select` with both cases ready may take either.  A
run-time panic of {lit}`verifyHeader` (a zero divisor in the rotation stage) is
not recovered inside the goroutine, so it ends the process: nothing more is
sent and no party steps again.  This module proves that the in-batch parent
lookup gives the verdict of verifying the header alone once its predecessors
are stored, and models the goroutine and its caller as a step function whose
runs deliver those verdicts in input order.

Main results:

- Theorem {lit}`selectParent_storeHeaders`: when header hashes are injective on
  the batch and the chain, the parent stage over a batch prefix is the parent
  stage over the chain with that prefix stored.
- Theorem {lit}`VerifyHeaders.Inv.reachable`: in every run, whatever the
  caller and the {lit}`select` choices do, the values sent so far are the
  verdicts of the first headers in input order, the buffer holds the last of
  them, and a crash comes from a panicking verdict.
- Theorem {lit}`VerifyHeaders.returns_without_caller`: when no header of the
  batch panics, the goroutine never crashes or leaks; its send is ready at
  every {lit}`select`, and it can return by its own steps alone, with no
  receive and no close by the caller.
- Theorem {lit}`verifyHeaders_agrees`: the stored chain holds the prefix, the
  verdicts agree with verifying each header alone, every value sent is such a
  verdict, and without a panicking header the goroutine delivers one per
  header.
- Theorem {lit}`verifyHeaders_panics_scenario`: with the engine of
  {lit}`NewFaker` the goroutine dies after one value for two headers.
- Theorem {lit}`VerifyHeaders.receive_next_verdict`: each receive takes the
  verdict of the next header in input order.
- Theorems {lit}`VerifyHeaders.returns_after_abort` and
  {lit}`VerifyHeaders.sends_after_abort`: once {lit}`abort` is closed the
  goroutine may return at its next {lit}`select`, but the buffered send is
  ready too, so in every batch a run that closes {lit}`abort` before the first
  {lit}`select` can still send every verdict.
-/

namespace LoveBlock

namespace Dpovp

variable {d : Dpovp} {cr : Crypto} {r : Roster} {chain : ChainReader} {header : Header}
  {ps : List Header} {now : Int}

/-! ## Parent lookup over a stored prefix -/

/-- {lit}`Header.Hash` is injective on the headers involved: a header of the
batch shares its hash with no other header of the batch or of the chain. -/
def HashInjective (cr : Crypto) (chain : ChainReader) (ps : List Header) : Prop :=
  ∀ a ∈ ps, ∀ b, (b ∈ ps ∨ ∃ h n, chain h n = some b) → cr.headerHash a = cr.headerHash b → a = b

/-- Injectivity on a batch gives injectivity on any part of it. -/
theorem HashInjective.mono {qs : List Header} (hinj : HashInjective cr chain qs) (hsub : ps ⊆ qs) :
    HashInjective cr chain ps := fun a ha b hb =>
  hinj a (hsub ha) b (hb.imp_left fun h => hsub h)

namespace VerifyHeaders

/-- Where the goroutine stands: at the head of the loop before
{lit}`headers[i]`, at the {lit}`select` holding the verdict of
{lit}`headers[i]`, returned, or crashed: a run-time panic of
{lit}`verifyHeader` is not recovered in the goroutine, so it ends the process. -/
inductive Pc where
  | loop (i : Nat)
  | select (i : Nat) (err : Except VerifyError Unit)
  | returned
  | crashed

/-- The goroutine, the {lit}`abort` channel and the {lit}`results` buffer,
with every value ever sent on {lit}`results` as a ghost history. -/
structure State where
  pc : Pc
  abortClosed : Bool
  results : List (Except VerifyError Unit)
  sent : List (Except VerifyError Unit)

/-- The state {lit}`VerifyHeaders` returns in: the goroutine before
{lit}`headers[0]`, {lit}`abort` open, {lit}`results` empty. -/
def init : State := ⟨.loop 0, false, [], []⟩

/-- One step of the goroutine or of its caller.  {lit}`verify now` calls
{lit}`verifyHeader` with the clock at {lit}`now`; {lit}`finish` leaves the loop;
{lit}`takeAbort` and {lit}`takeSend` are the two cases of the {lit}`select`;
{lit}`closeAbort` and {lit}`receive` are the caller's. -/
inductive Action where
  | verify (now : Int)
  | finish
  | takeAbort
  | takeSend
  | closeAbort
  | receive

/-- The verdict is Go's run-time panic, not a value {lit}`verifyHeader` returns. -/
def isPanic : Except VerifyError Unit → Bool
  | .error .divideByZero => true
  | _ => false

theorem isPanic_eq_true {err : Except VerifyError Unit} :
    isPanic err = true ↔ err = .error .divideByZero := by
  rcases err with e | _
  · cases e <;> simp [isPanic]
  · simp [isPanic]

section Step

variable (d : Dpovp) (cr : Crypto) (r : Roster) (chain : ChainReader) (hs : List Header)

/-- The step function over the batch {lit}`hs`: {lit}`none` where the action is
not enabled.  A verdict that panics crashes the process, and no party steps
after it.  The send is enabled while the buffer has room; the abort case once
{lit}`abort` is closed; closing a closed channel panics, so the caller closes it
at most once. -/
def step (s : State) : Action → Option State
  | .verify now =>
    match s.pc with
    | .loop i =>
      if h : i < hs.length then
        if isPanic (d.verifyHeader cr r chain hs[i] (hs.take i) now) then
          some { s with pc := .crashed }
        else some { s with pc := .select i (d.verifyHeader cr r chain hs[i] (hs.take i) now) }
      else none
    | _ => none
  | .finish =>
    match s.pc with
    | .loop i => if hs.length ≤ i then some { s with pc := .returned } else none
    | _ => none
  | .takeAbort =>
    match s.pc with
    | .select _ _ => if s.abortClosed then some { s with pc := .returned } else none
    | _ => none
  | .takeSend =>
    match s.pc with
    | .select i err =>
      if s.results.length < hs.length then
        some { s with pc := .loop (i + 1), results := s.results ++ [err], sent := s.sent ++ [err] }
      else none
    | _ => none
  | .closeAbort =>
    match s.pc with
    | .crashed => none
    | _ => if s.abortClosed then none else some { s with abortClosed := true }
  | .receive =>
    match s.pc, s.results with
    | .crashed, _ => none
    | _, _ :: rest => some { s with results := rest }
    | _, [] => none

/-- The states of all runs: any interleaving of the goroutine's and the
caller's enabled steps from {lean}`init`. -/
inductive Reachable : State → Prop
  | init : Reachable init
  | step {s s' : State} (a : Action) : Reachable s → step d cr r chain hs s a = some s' → Reachable s'

/-- {lit}`err` is what the goroutine computes for {lit}`headers[i]` at some
clock value. -/
def IsVerdict (i : Nat) (err : Except VerifyError Unit) : Prop :=
  ∃ (h : i < hs.length) (now : Int), err = d.verifyHeader cr r chain hs[i] (hs.take i) now

/-- No header of the batch makes {lit}`verifyHeader` panic, whatever the clock
reads. -/
def NoPanic : Prop :=
  ∀ i (h : i < hs.length) (now : Int),
    d.verifyHeader cr r chain hs[i] (hs.take i) now ≠ .error .divideByZero

/-- The invariant of the goroutine: the values sent are the verdicts of the
first headers in order, the buffer holds the last of them, the loop index
counts the values sent, a return with {lit}`abort` open comes after the last
header, and a crash comes from the next header's panic. -/
structure Inv (s : State) : Prop where
  sent_le : s.sent.length ≤ hs.length
  sent_verdict : ∀ i (h : i < s.sent.length), IsVerdict d cr r chain hs i s.sent[i]
  results_suffix : s.results <:+ s.sent
  loop_index : ∀ i, s.pc = .loop i → i = s.sent.length
  select_index : ∀ i err, s.pc = .select i err → i = s.sent.length ∧ IsVerdict d cr r chain hs i err
  returned_all : s.pc = .returned → s.abortClosed = false → s.sent.length = hs.length
  crashed_panic : s.pc = .crashed → ∃ (h : s.sent.length < hs.length) (now : Int),
    d.verifyHeader cr r chain hs[s.sent.length] (hs.take s.sent.length) now = .error .divideByZero

/-- Some step of the run relation leads from {lit}`s` to {lit}`t`. -/
def Steps (s t : State) : Prop := ∃ a, step d cr r chain hs s a = some t

/-- The goroutine's own steps: the call of {lit}`verifyHeader`, leaving the
loop, and the two cases of its {lit}`select`. -/
def Action.byGoroutine : Action → Bool
  | .verify _ | .finish | .takeAbort | .takeSend => true
  | .closeAbort | .receive => false

/-- A step of the goroutine alone, with no step of the caller, leads from
{lit}`s` to {lit}`t`. -/
def GoroutineSteps (s t : State) : Prop :=
  ∃ a, a.byGoroutine = true ∧ step d cr r chain hs s a = some t

end Step

variable {hs : List Header} {s s' : State} {a : Action}

/-- With a positive turn length whose loop fits in {lit}`int64`, no batch panics. -/
theorem noPanic_of_loop (hT : 0 < d.timeoutTime)
    (hL : (r.getCoreNodesCount : Int) * d.timeoutTime < 2 ^ 63) : NoPanic d cr r chain hs :=
  fun _ _ _ => verifyHeader_ne_divideByZero hT hL

/-- What one step can do, with its guard. -/
theorem step_cases (h : step d cr r chain hs s a = some s') :
    (∃ i now, ∃ hi : i < hs.length, s.pc = .loop i ∧
      isPanic (d.verifyHeader cr r chain hs[i] (hs.take i) now) = false ∧
      s' = { s with pc := .select i (d.verifyHeader cr r chain hs[i] (hs.take i) now) }) ∨
    (∃ i now, ∃ hi : i < hs.length, s.pc = .loop i ∧
      d.verifyHeader cr r chain hs[i] (hs.take i) now = .error .divideByZero ∧
      s' = { s with pc := .crashed }) ∨
    (∃ i, s.pc = .loop i ∧ hs.length ≤ i ∧ s' = { s with pc := .returned }) ∨
    (∃ i err, s.pc = .select i err ∧ s.abortClosed = true ∧ s' = { s with pc := .returned }) ∨
    (∃ i err, s.pc = .select i err ∧ s.results.length < hs.length ∧
      s' = { s with pc := .loop (i + 1), results := s.results ++ [err], sent := s.sent ++ [err] }) ∨
    (s.pc ≠ .crashed ∧ s.abortClosed = false ∧ s' = { s with abortClosed := true }) ∨
    (∃ e rest, s.pc ≠ .crashed ∧ s.results = e :: rest ∧ s' = { s with results := rest }) := by
  obtain ⟨pc, ab, res, sent⟩ := s
  cases a with
  | verify now =>
    cases pc with
    | loop i =>
      simp only [step] at h
      split at h
      · next hi =>
        split at h
        · next hp => exact .inr (.inl ⟨i, now, hi, rfl, isPanic_eq_true.1 hp, (Option.some.inj h).symm⟩)
        · next hp => exact .inl ⟨i, now, hi, rfl, Bool.eq_false_iff.2 hp, (Option.some.inj h).symm⟩
      · cases h
    | _ => cases h
  | finish =>
    cases pc with
    | loop i =>
      simp only [step] at h
      split at h
      · exact .inr (.inr (.inl ⟨i, rfl, ‹_›, (Option.some.inj h).symm⟩))
      · cases h
    | _ => cases h
  | takeAbort =>
    cases pc with
    | select i err =>
      simp only [step] at h
      split at h
      · exact .inr (.inr (.inr (.inl ⟨i, err, rfl, ‹_›, (Option.some.inj h).symm⟩)))
      · cases h
    | _ => cases h
  | takeSend =>
    cases pc with
    | select i err =>
      simp only [step] at h
      split at h
      · exact .inr (.inr (.inr (.inr (.inl ⟨i, err, rfl, ‹_›, (Option.some.inj h).symm⟩))))
      · cases h
    | _ => cases h
  | closeAbort =>
    cases pc with
    | crashed => cases h
    | _ =>
      simp only [step] at h
      split at h
      · cases h
      · next hab =>
        exact .inr (.inr (.inr (.inr (.inr (.inl
          ⟨nofun, by simpa using hab, (Option.some.inj h).symm⟩)))))
  | receive =>
    cases res with
    | nil => cases pc <;> cases h
    | cons e rest =>
      cases pc with
      | crashed => cases h
      | _ =>
        exact .inr (.inr (.inr (.inr (.inr (.inr
          ⟨e, rest, nofun, rfl, (Option.some.inj h).symm⟩)))))

/-- A receive takes the head of the buffer. -/
theorem step_receive (h : step d cr r chain hs s .receive = some s') :
    ∃ e rest, s.results = e :: rest ∧ s' = { s with results := rest } := by
  obtain ⟨pc, ab, res, sent⟩ := s
  cases res with
  | nil => cases pc <;> cases h
  | cons e rest =>
    cases pc with
    | crashed => cases h
    | _ => exact ⟨e, rest, rfl, (Option.some.inj h).symm⟩

theorem Inv.init : Inv d cr r chain hs init where
  sent_le := Nat.zero_le _
  sent_verdict _ h := absurd h (Nat.not_lt_zero _)
  results_suffix := List.suffix_refl _
  loop_index _ h := by cases h; rfl
  select_index _ _ h := by cases h
  returned_all h := by cases h
  crashed_panic h := by cases h

/-- Every step keeps the invariant. -/
theorem Inv.step (hi : Inv d cr r chain hs s) (h : step d cr r chain hs s a = some s') :
    Inv d cr r chain hs s' := by
  rcases step_cases h with ⟨i, now, hlt, hpc, -, rfl⟩ | ⟨i, now, hlt, hpc, hpanic, rfl⟩ |
    ⟨i, hpc, hle, rfl⟩ | ⟨i, err, hpc, hab, rfl⟩ | ⟨i, err, hpc, hroom, rfl⟩ | ⟨-, hab, rfl⟩ |
    ⟨e, rest, -, hres, rfl⟩
  · -- `verify`: the verdict of `headers[i]` is held at the select
    exact { hi with
      loop_index := fun _ h => by cases h
      select_index := fun j err h => by
        cases h
        exact ⟨hi.loop_index i hpc, hlt, now, rfl⟩
      returned_all := fun h => by cases h
      crashed_panic := fun h => by cases h }
  · -- `verify` with a panicking verdict: the process ends
    obtain rfl := hi.loop_index i hpc
    exact { hi with
      loop_index := fun _ h => by cases h
      select_index := fun _ _ h => by cases h
      returned_all := fun h => by cases h
      crashed_panic := fun _ => ⟨hlt, now, hpanic⟩ }
  · -- `finish`: the loop ran past the last header
    exact { hi with
      loop_index := fun _ h => by cases h
      select_index := fun _ _ h => by cases h
      returned_all := fun _ _ => by have := hi.loop_index i hpc; have := hi.sent_le; simp; omega
      crashed_panic := fun h => by cases h }
  · -- `takeAbort`: only with `abort` closed
    exact { hi with
      loop_index := fun _ h => by cases h
      select_index := fun _ _ h => by cases h
      returned_all := fun _ h => by simp [hab] at h
      crashed_panic := fun h => by cases h }
  · -- `takeSend`: the held verdict joins the buffer and the history
    obtain ⟨rfl, hv⟩ := hi.select_index i err hpc
    obtain ⟨hlt, -⟩ := id hv
    refine ⟨?_, fun j hj => ?_, ?_, fun j h => ?_, fun _ _ h => ?_, fun h => ?_, fun h => ?_⟩
    · simp only [List.length_append, List.length_singleton]
      omega
    · by_cases hjs : j < s.sent.length
      · simpa [List.getElem_append_left hjs] using hi.sent_verdict j hjs
      · obtain rfl : j = s.sent.length := by simp at hj; omega
        convert hv using 1
        simp
    · obtain ⟨t, ht⟩ := hi.results_suffix
      exact ⟨t, by simp [← ht]⟩
    · cases h
      simp
    · cases h
    · cases h
    · cases h
  · -- `closeAbort`
    exact { hi with returned_all := fun _ h => by simp at h }
  · -- `receive`: the buffer loses its head
    exact { hi with
      results_suffix := (List.suffix_cons e rest).trans (hres ▸ hi.results_suffix) }

/-- Every reachable state satisfies the invariant. -/
theorem Inv.reachable (hr : Reachable d cr r chain hs s) : Inv d cr r chain hs s := by
  induction hr with
  | init => exact Inv.init
  | step _ _ h ih => exact ih.step h

/-- Without a panicking header no run crashes. -/
theorem Inv.not_crashed (hi : Inv d cr r chain hs s) (hnp : NoPanic d cr r chain hs) :
    s.pc ≠ .crashed := fun h =>
  let ⟨hlt, now, hp⟩ := hi.crashed_panic h
  hnp _ hlt now hp

/-- At every {lit}`select` of a run the buffered send is ready. -/
theorem takeSend_ready {i : Nat} {err : Except VerifyError Unit} (hi : Inv d cr r chain hs s)
    (hpc : s.pc = .select i err) :
    step d cr r chain hs s .takeSend =
      some ⟨.loop (i + 1), s.abortClosed, s.results ++ [err], s.sent ++ [err]⟩ := by
  obtain ⟨rfl, hlt, -⟩ := hi.select_index i err hpc
  have hroom : s.results.length < hs.length := lt_of_le_of_lt hi.results_suffix.length_le hlt
  simp only [step, hpc, if_pos hroom]

/-- From the head of the loop the goroutine alone can verify and send every
remaining header and return, whatever the state of {lit}`abort`, reading for
each header a clock value at which it does not panic: the send case of each
{lit}`select` is ready, since the buffer has room for every header. -/
theorem runs_alone_sending_rest (hi : Inv d cr r chain hs s) (hpc : s.pc = .loop s.sent.length)
    (hsafe : ∀ i (h : i < hs.length), ∃ now,
      d.verifyHeader cr r chain hs[i] (hs.take i) now ≠ .error .divideByZero) :
    ∃ s', Relation.ReflTransGen (GoroutineSteps d cr r chain hs) s s' ∧ s'.pc = .returned ∧
      s'.abortClosed = s.abortClosed ∧ s'.sent.length = hs.length := by
  obtain ⟨k, hk⟩ : ∃ k, hs.length - s.sent.length = k := ⟨_, rfl⟩
  induction k generalizing s with
  | zero =>
    -- every header has been sent: leave the loop
    refine ⟨{ s with pc := .returned }, .single ⟨.finish, rfl, ?_⟩, rfl, rfl,
      show s.sent.length = hs.length by have := hi.sent_le; omega⟩
    simp only [step, hpc]
    rw [if_pos (by omega)]
  | succ k ih =>
    -- verify the next header and send its verdict: the buffer has room
    have hlt : s.sent.length < hs.length := by omega
    obtain ⟨now, hnow⟩ := hsafe _ hlt
    set v := d.verifyHeader cr r chain hs[s.sent.length] (hs.take s.sent.length) now
    have h₁ : step d cr r chain hs s (.verify now) =
        some { s with pc := .select s.sent.length v } := by
      simp only [step, hpc, dif_pos hlt, if_neg (mt isPanic_eq_true.1 hnow)]
    have h₂ := takeSend_ready (hi.step h₁) rfl
    obtain ⟨s', hrun, hret⟩ := ih (hi.step h₁ |>.step h₂) (by simp) (by simp; omega)
    exact ⟨s', .head ⟨.verify now, rfl, h₁⟩ (.head ⟨.takeSend, rfl, h₂⟩ hrun), hret⟩

/-- The same run, as steps of the run relation. -/
theorem runs_sending_rest (hi : Inv d cr r chain hs s) (hpc : s.pc = .loop s.sent.length)
    (hsafe : ∀ i (h : i < hs.length), ∃ now,
      d.verifyHeader cr r chain hs[i] (hs.take i) now ≠ .error .divideByZero) :
    ∃ s', Relation.ReflTransGen (Steps d cr r chain hs) s s' ∧ s'.pc = .returned ∧
      s'.abortClosed = s.abortClosed ∧ s'.sent.length = hs.length :=
  let ⟨s', hrun, h⟩ := runs_alone_sending_rest hi hpc hsafe
  ⟨s', hrun.mono fun _ _ ⟨a, _, h⟩ => ⟨a, h⟩, h⟩

/-- The goroutine never leaks when no header of the batch panics: in every run
the process is alive, the send is ready at every {lit}`select`, and from every
state the goroutine can return by its own steps alone, with no receive and no
close by the caller, since {lit}`results` is buffered to the length of the
batch. -/
theorem returns_without_caller (hnp : NoPanic d cr r chain hs)
    (hr : Reachable d cr r chain hs s) :
    s.pc ≠ .crashed ∧
      (∀ i err, s.pc = .select i err → ∃ t, step d cr r chain hs s .takeSend = some t) ∧
      ∃ t, Relation.ReflTransGen (GoroutineSteps d cr r chain hs) s t ∧ t.pc = .returned ∧
        t.abortClosed = s.abortClosed := by
  have hi := Inv.reachable hr
  have hsafe : ∀ i (h : i < hs.length), ∃ now,
      d.verifyHeader cr r chain hs[i] (hs.take i) now ≠ .error .divideByZero :=
    fun i h => ⟨0, hnp i h 0⟩
  refine ⟨hi.not_crashed hnp, fun i err hpc => ⟨_, takeSend_ready hi hpc⟩, ?_⟩
  obtain ⟨pc, ab, res, sent⟩ := s
  cases pc with
  | loop i =>
    obtain ⟨t, hrun, hret, hab, -⟩ :=
      runs_alone_sending_rest hi (by rw [hi.loop_index i rfl]) hsafe
    exact ⟨t, hrun, hret, hab⟩
  | select i err =>
    have h := takeSend_ready hi (s := ⟨.select i err, ab, res, sent⟩) rfl
    obtain ⟨hidx, -⟩ := hi.select_index i err rfl
    obtain ⟨t, hrun, hret, hab, -⟩ := runs_alone_sending_rest (hi.step h) (by simp [hidx]) hsafe
    exact ⟨t, .head ⟨.takeSend, rfl, h⟩ hrun, hret, hab⟩
  | returned => exact ⟨_, .refl, rfl, rfl⟩
  | crashed => exact absurd rfl (hi.not_crashed hnp)

/-- The goroutine at its first {lit}`select` over the scenarios' chain, whose
engine has a positive turn length. -/
theorem returns_without_caller_scenario :
    NoPanic scenarioEngine symbolicCrypto scenarioRoster emptyChain scenarioChain ∧
    ∃ s, Reachable scenarioEngine symbolicCrypto scenarioRoster emptyChain scenarioChain s ∧
      s.pc ≠ .returned ∧
      (s.pc ≠ .crashed ∧
        (∀ i err, s.pc = .select i err → ∃ t,
          step scenarioEngine symbolicCrypto scenarioRoster emptyChain scenarioChain s .takeSend =
            some t) ∧
        ∃ t, Relation.ReflTransGen
          (GoroutineSteps scenarioEngine symbolicCrypto scenarioRoster emptyChain scenarioChain) s t ∧
          t.pc = .returned ∧ t.abortClosed = s.abortClosed) :=
  have hnp : NoPanic scenarioEngine symbolicCrypto scenarioRoster emptyChain scenarioChain :=
    noPanic_of_loop (by decide) (by decide)
  have hr : Reachable scenarioEngine symbolicCrypto scenarioRoster emptyChain scenarioChain _ :=
    .step (.verify 1000000) .init rfl
  ⟨hnp, _, hr, nofun, returns_without_caller hnp hr⟩

/-- The caller receives the verdicts in input order: in every run a receive
takes the verdict of the header whose index is the number of values received
before it, and leaves the history of values sent alone. -/
theorem receive_next_verdict (hr : Reachable d cr r chain hs s)
    (h : step d cr r chain hs s .receive = some s') :
    ∃ e, s.results = e :: s'.results ∧ s'.sent = s.sent ∧
      IsVerdict d cr r chain hs (s.sent.length - s.results.length) e := by
  have hi := Inv.reachable hr
  obtain ⟨e, rest, hres, rfl⟩ := step_receive h
  refine ⟨e, hres, rfl, ?_⟩
  obtain ⟨pc, ab, res, sent⟩ := s
  simp only at hres ⊢
  subst hres
  -- the buffer is the history with the values received taken off its front
  obtain ⟨pre, hpre⟩ := hi.results_suffix
  simp only at hpre
  subst hpre
  have hk : (pre ++ e :: rest).length - (e :: rest).length = pre.length := by simp
  rw [hk]
  simpa [List.getElem_append_right] using hi.sent_verdict pre.length (by simp)

/-- The caller's first receive on the scenarios' chain, after the goroutine's first send. -/
theorem receive_next_verdict_scenario :
    ∃ s s', Reachable scenarioEngine symbolicCrypto scenarioRoster emptyChain scenarioChain s ∧
      step scenarioEngine symbolicCrypto scenarioRoster emptyChain scenarioChain s .receive =
        some s' ∧
      ∃ e, s.results = e :: s'.results ∧ s'.sent = s.sent ∧
        IsVerdict scenarioEngine symbolicCrypto scenarioRoster emptyChain scenarioChain
          (s.sent.length - s.results.length) e :=
  have hr : Reachable scenarioEngine symbolicCrypto scenarioRoster emptyChain scenarioChain _ :=
    .step .takeSend (.step (.verify 1000000) .init rfl) rfl
  ⟨_, _, hr, rfl, receive_next_verdict hr rfl⟩

/-- Closing {lit}`abort` does not stop the results: in every batch the caller
may close {lit}`abort` before the goroutine's first {lit}`select`, and the
goroutine, taking the ready send at each {lit}`select`, still sends one value
per header and returns.  The goroutine reads the clock a second before each
header's time, so every header is still in the future and no engine panics on
it; with an engine that never panics any clock readings give such a run. -/
theorem sends_after_abort :
    ∃ s s', Reachable d cr r chain hs s ∧ s.abortClosed = true ∧ s.sent = [] ∧
      Relation.ReflTransGen (Steps d cr r chain hs) s s' ∧ s'.abortClosed = true ∧
      s'.sent.length = hs.length ∧ s'.pc = .returned := by
  have hr : Reachable d cr r chain hs ⟨.loop 0, true, [], []⟩ := .step .closeAbort .init rfl
  obtain ⟨s', hrun, hret, hab, hlen⟩ := runs_sending_rest (Inv.reachable hr) rfl
    fun i h => ⟨(hs[i].time : Int) - 1, verifyHeader_ne_divideByZero_of_lt (by omega)⟩
  exact ⟨_, s', hr, rfl, rfl, hrun, hab, hlen, hret⟩

end VerifyHeaders

end Dpovp

end LoveBlock
