import Mathlib.Logic.Function.Iterate
import WormholeSvmTest.Resolver.Loop

/-!
# What a call of the resolver helper does, round by round

A `Call` collects the arguments of one call of `resolve_execute_vaa_v1` with the crate and the
simulator it runs against. The abstract view of the call is its chain of sessions: `sessionAt 0`
is round 1 with no accounts, and `sessionAt (j + 1)` follows round `j + 1` as if it had answered
`Missing`, pushing the keys it asked for. `outcomeAt j` is the simulator's answer on that chain.

Read `run_decides` first: the loop simulates the rounds of the chain in order and stops at the
first one that does not answer `Missing`, or fails after exactly `max_iterations` simulations
when all of them do, and `outcomeAt_reads` says how a round's outcome comes from the simulator
and the decoder. `run_simulated` says what each simulated transaction holds, `run_error_rounds`
which round an error names, and `run_budget` compares the calls at two budgets.
-/

namespace WormholeSvmTest.Resolution

variable {γ δ ε : Type}

/-- The keys a `Missing` outcome asks for; no key for any other outcome. -/
def missingKeys : Except (ResolveError ε δ) (Resolver (InstructionGroups γ)) → List Pubkey
  | .ok (.missing missing) => missing.accounts
  | _ => []

/-- The outcome is a decoded `Missing`, after which the loop goes on. -/
def IsMissing : Except (ResolveError ε δ) (Resolver (InstructionGroups γ)) → Prop
  | .ok (.missing _) => True
  | _ => False

instance (outcome : Except (ResolveError ε δ) (Resolver (InstructionGroups γ))) :
    Decidable (IsMissing outcome) :=
  match outcome with
  | .ok (.missing _) => isTrue trivial
  | .ok (.resolved _) => isFalse id
  | .ok .account => isFalse id
  | .error _ => isFalse id

theorem IsMissing.exists {outcome : Except (ResolveError ε δ) (Resolver (InstructionGroups γ))}
    (h : IsMissing outcome) : ∃ missing, outcome = .ok (.missing missing) := by
  rcases outcome with _ | (_ | missing | _)
  all_goals first | exact absurd h id | exact ⟨missing, rfl⟩

/-- `Concludes iteration outcome result`: round `iteration`, whose outcome is not `Missing`, makes
the call return `result`. Only `Resolved` gives `Ok`, with the round number as `iterations`. -/
inductive Concludes (iteration : Nat) :
    Except (ResolveError ε δ) (Resolver (InstructionGroups γ)) →
      Except (ResolveError ε δ) (ResolverResult γ) → Prop
  | resolved (groups : InstructionGroups γ) :
      Concludes iteration (.ok (.resolved groups)) (.ok ⟨groups.groups, iteration⟩)
  | failed (error : ResolveError ε δ) : Concludes iteration (.error error) (.error error)
  | account : Concludes iteration (.ok .account) (.error .accountNotSupported)

/-- Every outcome other than `Missing` concludes the call. -/
theorem Concludes.exists (iteration : Nat)
    {outcome : Except (ResolveError ε δ) (Resolver (InstructionGroups γ))}
    (h : ¬ IsMissing outcome) : ∃ result, Concludes iteration outcome result := by
  rcases outcome with error | (groups | _ | _)
  · exact ⟨_, .failed error⟩
  · exact ⟨_, .resolved groups⟩
  · exact absurd trivial h
  · exact ⟨_, .account⟩

/-- An `Ok` conclusion reports the concluding round. -/
theorem Concludes.iterations_of_ok {iteration : Nat}
    {outcome : Except (ResolveError ε δ) (Resolver (InstructionGroups γ))}
    {result : ResolverResult γ} (h : Concludes iteration outcome (.ok result)) :
    result.iterations = iteration := by
  cases h
  rfl

/-- The arguments of one call of the helper, with the crate and the simulator it runs against. -/
structure Call (γ δ ε : Type) where
  crate : ResolverCrate γ δ
  svm : Svm ε
  programId : Pubkey
  payer : Keypair
  vaaBody : List UInt8
  guardianSet : Pubkey

namespace Call

variable (call : Call γ δ ε)

/-- The whole call with budget `maxIterations`. -/
def run (maxIterations : Nat) : Run γ δ ε :=
  resolveExecuteVaaV1Run call.crate call.svm call.programId call.payer call.vaaBody
    call.guardianSet maxIterations

/-- The transaction a session's round simulates. -/
def transaction (session : Session) : Transaction :=
  roundTransaction call.crate call.svm call.programId call.payer call.vaaBody
    session.remainingAccounts

/-- The outcome of a session's round, up to the `match`. -/
def outcome (session : Session) : Except (ResolveError ε δ) (Resolver (InstructionGroups γ)) :=
  simulateRound call.crate call.svm session.iteration (call.transaction session)

/-- The session after a round that answered `Missing`: the next round number, and the asked-for
keys pushed onto the accounts. -/
def advance (session : Session) : Session :=
  ⟨session.iteration + 1, pushMissing call.crate call.payer call.guardianSet
    session.remainingAccounts (missingKeys (call.outcome session))⟩

/-- The session `j` rounds into the call. -/
def sessionAt (j : Nat) : Session :=
  call.advance^[j] ⟨1, []⟩

/-- The simulator's answer in round `j + 1` of the call. -/
def outcomeAt (j : Nat) : Except (ResolveError ε δ) (Resolver (InstructionGroups γ)) :=
  call.outcome (call.sessionAt j)

/-- The accounts gathered before round `j + 1`: the keys asked for in rounds `1, ..., j`, in
order, substituted and read-only. -/
def accountsBefore (j : Nat) : List AccountMeta :=
  ((List.range j).flatMap fun i => missingKeys (call.outcomeAt i)).map fun pubkey =>
    AccountMeta.newReadonly (substitutePlaceholder call.crate pubkey call.payer.pubkey
      call.guardianSet) false

/-- The key whose 32 bytes all are `b`. -/
def keyOfByte (b : UInt8) : Pubkey :=
  ⟨Mathlib.Vector.replicate 32 b⟩

/-- A call to evaluate the model on. The placeholders are the keys of bytes 1, 2 and 3, and the
first byte of the return data picks the answer: 0 resolves with no group, `1 b` asks for the key
of byte `b`, 2 is `Account()`, anything else fails to decode. The simulator asks for the payer
placeholder while the instruction has no account, and resolves afterwards. -/
def sample : Call Unit Unit Unit where
  crate :=
    { resolverExecuteVaaV1 := Mathlib.Vector.replicate 8 0
      resolverPubkeyPayer := keyOfByte 1
      resolverPubkeyGuardianSet := keyOfByte 2
      resolverPubkeyShimVaaSigs := keyOfByte 3
      guardianSet_ne_payer := by decide
      shimVaaSigs_ne_payer := by decide
      shimVaaSigs_ne_guardianSet := by decide
      deserialize := fun
        | 0 :: _ => .ok (.resolved ⟨[]⟩)
        | 1 :: b :: _ => .ok (.missing ⟨[keyOfByte b], []⟩)
        | 2 :: _ => .ok .account
        | _ => .error () }
  svm :=
    { latestBlockhash := ⟨Mathlib.Vector.replicate 32 0⟩
      simulateTransaction := fun tx => match tx.instructions with
        | [ix] => if ix.accounts.isEmpty then .ok [1, 1] else .ok [0]
        | _ => .error () }
  programId := keyOfByte 9
  payer := ⟨Mathlib.Vector.replicate 32 7, keyOfByte 8⟩
  vaaBody := [1, 2, 3, 4]
  guardianSet := keyOfByte 5

/-! ## One round -/

/-- A round that answers `Missing` records its transaction and goes on from the next session. -/
theorem resolveRounds_succ_of_missing {maxIterations fuel : Nat} {session : Session}
    (h : IsMissing (call.outcome session)) :
    resolveRounds call.crate call.svm call.programId call.payer call.vaaBody call.guardianSet
        maxIterations (fuel + 1) session =
      ⟨call.transaction session :: (resolveRounds call.crate call.svm call.programId call.payer
          call.vaaBody call.guardianSet maxIterations fuel (call.advance session)).simulated,
        (resolveRounds call.crate call.svm call.programId call.payer call.vaaBody call.guardianSet
          maxIterations fuel (call.advance session)).result⟩ := by
  obtain ⟨missing, hmissing⟩ := h.exists
  simp only [outcome, transaction] at hmissing
  simp only [resolveRounds, advance, outcome, transaction, hmissing, missingKeys]

/-- A round that does not answer `Missing` records its transaction and ends the call. -/
theorem resolveRounds_succ_of_concludes {maxIterations fuel : Nat} {session : Session}
    {result : Except (ResolveError ε δ) (ResolverResult γ)}
    (h : Concludes session.iteration (call.outcome session) result) :
    resolveRounds call.crate call.svm call.programId call.payer call.vaaBody call.guardianSet
        maxIterations (fuel + 1) session = ⟨[call.transaction session], result⟩ := by
  simp only [outcome] at h
  generalize houtcome : simulateRound call.crate call.svm session.iteration
    (call.transaction session) = outcome at h
  cases h <;> simp only [resolveRounds, transaction] at houtcome ⊢ <;> simp only [houtcome]

/-! ## Whole runs -/

/-- Every round after a session moves the round number up by one. -/
theorem iteration_advance_iterate (session : Session) (j : Nat) :
    (call.advance^[j] session).iteration = session.iteration + j := by
  induction j generalizing session with
  | zero => rfl
  | succ j ih => rw [Function.iterate_succ_apply, ih]; simp only [advance]; omega

/-- When the `fuel` rounds from `session` on all answer `Missing`, the loop simulates each of them
and fails with the exhaustion error. -/
theorem resolveRounds_exhausted {maxIterations : Nat} :
    ∀ {fuel : Nat} {session : Session},
      (∀ j < fuel, IsMissing (call.outcome (call.advance^[j] session))) →
        resolveRounds call.crate call.svm call.programId call.payer call.vaaBody call.guardianSet
            maxIterations fuel session =
          ⟨(List.range fuel).map fun j => call.transaction (call.advance^[j] session),
            .error (.notResolved maxIterations)⟩
  | 0, _, _ => rfl
  | fuel + 1, session, hmissing => by
      rw [call.resolveRounds_succ_of_missing
          (show IsMissing (call.outcome session) from hmissing 0 (Nat.succ_pos fuel)),
        resolveRounds_exhausted fun j hj => hmissing (j + 1) (Nat.succ_lt_succ hj)]
      simp only [List.range_succ_eq_map, List.map_cons, List.map_map, Function.comp_def,
        Function.iterate_succ_apply, Function.iterate_zero_apply]

/-- When round `r + 1` from `session` on is the first that does not answer `Missing`, and the
fuel reaches it, the loop simulates rounds `1, ..., r + 1` and returns what round `r + 1`
concludes. -/
theorem resolveRounds_concludes {maxIterations : Nat}
    {result : Except (ResolveError ε δ) (ResolverResult γ)} :
    ∀ {fuel r : Nat} {session : Session}, r < fuel →
      (∀ j < r, IsMissing (call.outcome (call.advance^[j] session))) →
      Concludes (call.advance^[r] session).iteration (call.outcome (call.advance^[r] session))
        result →
        resolveRounds call.crate call.svm call.programId call.payer call.vaaBody call.guardianSet
            maxIterations fuel session =
          ⟨(List.range (r + 1)).map fun j => call.transaction (call.advance^[j] session), result⟩
  | 0, _, _, hr, _, _ => absurd hr (Nat.not_lt_zero _)
  | _ + 1, 0, _, _, _, hconcludes => call.resolveRounds_succ_of_concludes hconcludes
  | _ + 1, r + 1, session, hr, hmissing, hconcludes => by
      rw [call.resolveRounds_succ_of_missing
          (show IsMissing (call.outcome session) from hmissing 0 (Nat.succ_pos r)),
        resolveRounds_concludes (Nat.lt_of_succ_lt_succ hr)
          (fun j hj => hmissing (j + 1) (Nat.succ_lt_succ hj)) hconcludes]
      simp only [List.range_succ_eq_map (r + 1), List.map_cons, List.map_map, Function.comp_def,
        Function.iterate_succ_apply, Function.iterate_zero_apply]

theorem sessionAt_iteration (j : Nat) : (call.sessionAt j).iteration = j + 1 := by
  rw [sessionAt, iteration_advance_iterate, Nat.add_comm]

/-- Round `j + 1` reads the simulator and the decoder as the helper does: a failed simulation,
empty return data and a failed decode are errors that name what failed, and non-empty return data
that the decoder reads is the round's answer. -/
theorem outcomeAt_reads (j : Nat) :
    (∀ e, call.svm.simulateTransaction (call.transaction (call.sessionAt j)) = .error e →
        call.outcomeAt j = .error (.simulationFailed (j + 1) e)) ∧
      (call.svm.simulateTransaction (call.transaction (call.sessionAt j)) = .ok [] →
        call.outcomeAt j = .error (.noReturnData (j + 1))) ∧
      ∀ returnData, returnData ≠ [] →
        call.svm.simulateTransaction (call.transaction (call.sessionAt j)) = .ok returnData →
        (∀ e, call.crate.deserialize returnData = .error e →
            call.outcomeAt j = .error (.deserializeFailed e)) ∧
          ∀ answer, call.crate.deserialize returnData = .ok answer →
            call.outcomeAt j = .ok answer := by
  rw [outcomeAt, outcome, sessionAt_iteration]
  refine ⟨fun e hsim => by simp [simulateRound, hsim], fun hsim => by simp [simulateRound, hsim],
    fun returnData hne hsim => ⟨fun e hdecode => by simp [simulateRound, hsim, hne, hdecode],
      fun answer hdecode =>
        (simulateRound_eq_ok_iff call.crate call.svm).mpr ⟨returnData, hsim, hne, hdecode⟩⟩⟩

/-- A round that answers `Missing` got non-empty return data from its simulation, which the
decoder read as that `Missing`, whose keys are the ones the round asks for. -/
theorem outcomeAt_missing {j : Nat} (h : IsMissing (call.outcomeAt j)) :
    ∃ returnData missing,
      call.svm.simulateTransaction (call.transaction (call.sessionAt j)) = .ok returnData ∧
        returnData ≠ [] ∧ call.crate.deserialize returnData = .ok (.missing missing) ∧
        missingKeys (call.outcomeAt j) = missing.accounts := by
  obtain ⟨missing, hmissing⟩ := h.exists
  have hround := hmissing
  rw [outcomeAt, outcome, sessionAt_iteration] at hround
  obtain ⟨returnData, hsim, hne, hdecode⟩ := (simulateRound_eq_ok_iff call.crate call.svm).mp hround
  exact ⟨returnData, missing, hsim, hne, hdecode, by rw [hmissing]; rfl⟩

/-- When its first `maxIterations` rounds all answer `Missing`, a call simulates each of them and
fails with the exhaustion error. -/
theorem run_of_forall_missing {maxIterations : Nat}
    (hall : ∀ j < maxIterations, IsMissing (call.outcomeAt j)) :
    call.run maxIterations =
      ⟨(List.range maxIterations).map fun j => call.transaction (call.sessionAt j),
        .error (.notResolved maxIterations)⟩ :=
  call.resolveRounds_exhausted hall

/-- When round `r + 1 ≤ maxIterations` is the first not to answer `Missing`, a call simulates
rounds `1, ..., r + 1` and returns what round `r + 1` concludes. -/
theorem run_of_first_concludes {maxIterations r : Nat}
    {result : Except (ResolveError ε δ) (ResolverResult γ)} (hr : r < maxIterations)
    (hbefore : ∀ j < r, IsMissing (call.outcomeAt j))
    (hconcludes : Concludes (r + 1) (call.outcomeAt r) result) :
    call.run maxIterations =
      ⟨(List.range (r + 1)).map fun j => call.transaction (call.sessionAt j), result⟩ := by
  refine call.resolveRounds_concludes hr hbefore ?_
  rwa [← sessionAt, sessionAt_iteration]

/-- A call either sees `Missing` in all its rounds and exhausts its budget after simulating each
of them, or stops at the first round that does not answer `Missing`. -/
theorem run_cases (maxIterations : Nat) :
    ((∀ j < maxIterations, IsMissing (call.outcomeAt j)) ∧
        call.run maxIterations =
          ⟨(List.range maxIterations).map fun j => call.transaction (call.sessionAt j),
            .error (.notResolved maxIterations)⟩) ∨
      ∃ r < maxIterations, (∀ j < r, IsMissing (call.outcomeAt j)) ∧
        ∃ result, Concludes (r + 1) (call.outcomeAt r) result ∧
          call.run maxIterations =
            ⟨(List.range (r + 1)).map fun j => call.transaction (call.sessionAt j), result⟩ := by
  by_cases hall : ∀ j < maxIterations, IsMissing (call.outcomeAt j)
  · exact .inl ⟨hall, call.run_of_forall_missing hall⟩
  · have hfirst : ∃ r, r < maxIterations ∧ ¬ IsMissing (call.outcomeAt r) := by
      simpa using hall
    obtain ⟨hr, hnot⟩ := Nat.find_spec hfirst
    have hbefore : ∀ j < Nat.find hfirst, IsMissing (call.outcomeAt j) := fun j hj => by
      simpa [hr.trans' hj] using Nat.find_min hfirst hj
    obtain ⟨result, hconcludes⟩ := Concludes.exists (Nat.find hfirst + 1) hnot
    exact .inr ⟨_, hr, hbefore, result, hconcludes,
      call.run_of_first_concludes hr hbefore hconcludes⟩

/-- An `Ok` result reports a round between 1 and the budget. -/
theorem run_ok_iterations {maxIterations : Nat} {result : ResolverResult γ}
    (hok : (call.run maxIterations).result = .ok result) :
    1 ≤ result.iterations ∧ result.iterations ≤ maxIterations := by
  rcases call.run_cases maxIterations with ⟨-, hrun⟩ | ⟨r, hr, -, result', hconcludes, hrun⟩
  · rw [hrun] at hok
    cases hok
  · rw [hrun] at hok
    cases hok
    have := hconcludes.iterations_of_ok
    omega

/-- A call simulates the rounds of its session chain in order and stops at the first whose
outcome is not `Missing`, returning what that round concludes after exactly that many
simulations. When all `maxIterations` rounds answer `Missing` it fails with the exhaustion error
after simulating each of them, so with no simulation at all for a budget of 0. An `Ok` result
therefore always reports a round between 1 and `maxIterations`. Each round's outcome is what the
simulator and the decoder give on that round's transaction: a failed simulation, empty return
data or a failed decode is an error, and non-empty return data is read by the decoder. -/
theorem run_decides (maxIterations : Nat) :
    (((∀ j < maxIterations, IsMissing (call.outcomeAt j)) ∧
        call.run maxIterations =
          ⟨(List.range maxIterations).map fun j => call.transaction (call.sessionAt j),
            .error (.notResolved maxIterations)⟩) ∨
      ∃ r < maxIterations, (∀ j < r, IsMissing (call.outcomeAt j)) ∧
        ∃ result, Concludes (r + 1) (call.outcomeAt r) result ∧
          call.run maxIterations =
            ⟨(List.range (r + 1)).map fun j => call.transaction (call.sessionAt j), result⟩) ∧
    (∀ result, (call.run maxIterations).result = .ok result →
      1 ≤ result.iterations ∧ result.iterations ≤ maxIterations) ∧
    ∀ j, (∀ e, call.svm.simulateTransaction (call.transaction (call.sessionAt j)) = .error e →
        call.outcomeAt j = .error (.simulationFailed (j + 1) e)) ∧
      (call.svm.simulateTransaction (call.transaction (call.sessionAt j)) = .ok [] →
        call.outcomeAt j = .error (.noReturnData (j + 1))) ∧
      ∀ returnData, returnData ≠ [] →
        call.svm.simulateTransaction (call.transaction (call.sessionAt j)) = .ok returnData →
        (∀ e, call.crate.deserialize returnData = .error e →
            call.outcomeAt j = .error (.deserializeFailed e)) ∧
          ∀ answer, call.crate.deserialize returnData = .ok answer →
            call.outcomeAt j = .ok answer :=
  ⟨call.run_cases maxIterations, fun _ => call.run_ok_iterations, call.outcomeAt_reads⟩

/-- The example of the helper's documentation: a program that asks for one account resolves in
the second round. -/
example : (sample.run 10).result.toOption.map ResolverResult.iterations = some 2 := rfl

/-! ## The transactions of a call -/

/-- The session chain gathers exactly the keys asked for so far. -/
theorem sessionAt_remainingAccounts (j : Nat) :
    (call.sessionAt j).remainingAccounts = call.accountsBefore j := by
  induction j with
  | zero => rfl
  | succ j ih =>
      rw [sessionAt, Function.iterate_succ_apply', ← sessionAt]
      simp only [advance, pushMissing_eq, ih, accountsBefore, outcomeAt, List.range_succ,
        List.flatMap_append, List.flatMap_singleton, List.map_append]

/-- Round `j + 1` sends at least the accounts round `j` sent, in the same order. -/
theorem accountsBefore_prefix (j : Nat) :
    call.accountsBefore j <+: call.accountsBefore (j + 1) := by
  simp only [accountsBefore, List.range_succ, List.flatMap_append, List.map_append]
  exact List.prefix_append _ _

/-- What a call simulates is the chain of its sessions up to some round, every round but the last
having answered `Missing`. -/
theorem run_simulated_eq (maxIterations : Nat) :
    ∃ k, (call.run maxIterations).simulated =
        (List.range k).map (fun j => call.transaction (call.sessionAt j)) ∧
      ∀ j, j + 1 < k → IsMissing (call.outcomeAt j) := by
  rcases call.run_cases maxIterations with ⟨hall, hrun⟩ | ⟨r, hr, hbefore, _, _, hrun⟩
  · exact ⟨maxIterations, by rw [hrun], fun j hj => hall j (by omega)⟩
  · exact ⟨r + 1, by rw [hrun], fun j hj => hbefore j (by omega)⟩

/-- Every transaction a call simulates is the payer-signed resolver instruction of `programId`
over the SVM's blockhash, with the same data on every round: the discriminator, the body length
as 4 little-endian bytes, the body. Round `j + 1` sends the keys that rounds `1, ..., j` asked
for, each substituted and read-only, and each of those rounds answered `Missing`: its simulated
transaction returned non-empty data that the decoder read as the `Missing` with those keys. The
substitution puts the payer for its placeholder and the guardian set for its own, and leaves every
other key, the signatures placeholder included. The simulator's answer to the round is the session
chain's outcome, and each round's accounts extend the previous round's. -/
theorem run_simulated (hbody : call.vaaBody.length < 2 ^ 32) (maxIterations j : Nat)
    (tx : Transaction) (hj : (call.run maxIterations).simulated[j]? = some tx) :
    tx = ⟨[⟨call.programId, call.accountsBefore j, call.crate.resolverExecuteVaaV1.toList ++
        toLeBytes 4 call.vaaBody.length ++ call.vaaBody⟩], some call.payer.pubkey, [call.payer],
        call.svm.latestBlockhash⟩ ∧
      (∀ i < j, IsMissing (call.outcomeAt i)) ∧
      simulateRound call.crate call.svm (j + 1) tx = call.outcomeAt j ∧
      call.accountsBefore j <+: call.accountsBefore (j + 1) ∧
      (∀ i < j, ∃ txi returnData missing, (call.run maxIterations).simulated[i]? = some txi ∧
        call.svm.simulateTransaction txi = .ok returnData ∧ returnData ≠ [] ∧
        call.crate.deserialize returnData = .ok (.missing missing) ∧
        missingKeys (call.outcomeAt i) = missing.accounts) ∧
      substitutePlaceholder call.crate call.crate.resolverPubkeyPayer call.payer.pubkey
          call.guardianSet = call.payer.pubkey ∧
      substitutePlaceholder call.crate call.crate.resolverPubkeyGuardianSet call.payer.pubkey
          call.guardianSet = call.guardianSet ∧
      substitutePlaceholder call.crate call.crate.resolverPubkeyShimVaaSigs call.payer.pubkey
          call.guardianSet = call.crate.resolverPubkeyShimVaaSigs ∧
      ∀ pubkey, pubkey ≠ call.crate.resolverPubkeyPayer →
        pubkey ≠ call.crate.resolverPubkeyGuardianSet →
        substitutePlaceholder call.crate pubkey call.payer.pubkey call.guardianSet = pubkey := by
  obtain ⟨k, hsim, hmissing⟩ := call.run_simulated_eq maxIterations
  have hround : ∀ i < k, (call.run maxIterations).simulated[i]? =
      some (call.transaction (call.sessionAt i)) := fun i hi => by
    rw [hsim, List.getElem?_map, List.getElem?_range hi]
    rfl
  have hjk : j < k := by
    by_contra hge
    rw [hsim, List.getElem?_eq_none (by simpa using hge)] at hj
    cases hj
  rw [hround j hjk] at hj
  cases hj
  have hlength : UInt32.toNat (UInt32.ofNat call.vaaBody.length) = call.vaaBody.length :=
    Nat.mod_eq_of_lt hbody
  refine ⟨?_, fun i hi => hmissing i (by omega), ?_, call.accountsBefore_prefix j,
    fun i hi => ?_, substitutePlaceholder_cases call.crate call.guardianSet call.payer.pubkey⟩
  · simp only [transaction, roundTransaction, resolverIxData, u32ToLeBytes, hlength,
      sessionAt_remainingAccounts]
    rfl
  · rw [outcomeAt, outcome, sessionAt_iteration]
  · obtain ⟨returnData, missing, hanswer, hne, hdecode, hkeys⟩ :=
      call.outcomeAt_missing (hmissing i (by omega))
    exact ⟨_, returnData, missing, hround i (by omega), hanswer, hne, hdecode, hkeys⟩

/-- The second round of the sample call sends the payer in place of its placeholder. -/
theorem run_simulated_sample :
    ∃ tx, (sample.run 10).simulated[1]? = some tx ∧
      (tx = ⟨[⟨sample.programId, sample.accountsBefore 1,
          sample.crate.resolverExecuteVaaV1.toList ++ toLeBytes 4 sample.vaaBody.length ++
            sample.vaaBody⟩], some sample.payer.pubkey, [sample.payer],
          sample.svm.latestBlockhash⟩ ∧
        (∀ i < 1, IsMissing (sample.outcomeAt i)) ∧
        simulateRound sample.crate sample.svm (1 + 1) tx = sample.outcomeAt 1 ∧
        sample.accountsBefore 1 <+: sample.accountsBefore (1 + 1) ∧
        (∀ i < 1, ∃ txi returnData missing, (sample.run 10).simulated[i]? = some txi ∧
          sample.svm.simulateTransaction txi = .ok returnData ∧ returnData ≠ [] ∧
          sample.crate.deserialize returnData = .ok (.missing missing) ∧
          missingKeys (sample.outcomeAt i) = missing.accounts) ∧
        substitutePlaceholder sample.crate sample.crate.resolverPubkeyPayer sample.payer.pubkey
            sample.guardianSet = sample.payer.pubkey ∧
        substitutePlaceholder sample.crate sample.crate.resolverPubkeyGuardianSet
            sample.payer.pubkey sample.guardianSet = sample.guardianSet ∧
        substitutePlaceholder sample.crate sample.crate.resolverPubkeyShimVaaSigs
            sample.payer.pubkey sample.guardianSet = sample.crate.resolverPubkeyShimVaaSigs ∧
        ∀ pubkey, pubkey ≠ sample.crate.resolverPubkeyPayer →
          pubkey ≠ sample.crate.resolverPubkeyGuardianSet →
          substitutePlaceholder sample.crate pubkey sample.payer.pubkey sample.guardianSet =
            pubkey) :=
  ⟨_, rfl, sample.run_simulated (by decide) 10 1 _ rfl⟩

/-! ## Two budgets -/

/-- The error a round of the chain concludes with: a failed simulation or empty return data of
that round, a failed decode, or `Account()`. -/
theorem concludes_error_cases {r : Nat} {error : ResolveError ε δ}
    (h : Concludes (r + 1) (call.outcomeAt r) (.error error)) :
    (∃ e, error = .simulationFailed (r + 1) e) ∨ error = .noReturnData (r + 1) ∨
      (∃ e, error = .deserializeFailed e) ∨ error = .accountNotSupported := by
  generalize houtcome : call.outcomeAt r = outcome at h
  cases h with
  | failed =>
      rw [outcomeAt, outcome, sessionAt_iteration] at houtcome
      rcases simulateRound_error_cases call.crate call.svm houtcome with h | h | h
      exacts [.inl h, .inr (.inl h), .inr (.inr (.inl h))]
  | account => exact .inr (.inr (.inr rfl))

/-- No round concludes with the exhaustion error: that error only ends a loop that ran out. -/
theorem not_concludes_notResolved (r k : Nat) :
    ¬ Concludes (r + 1) (call.outcomeAt r) (.error (.notResolved k)) := fun h => by
  rcases call.concludes_error_cases h with ⟨_, h⟩ | h | ⟨_, h⟩ | h <;> cases h

/-! ## What the errors of a call name -/

/-- A call never simulates more than its budget. It fails with the exhaustion error only after
simulating that many rounds, and an error that names a round, a failed simulation or empty return
data, names the last round it simulated. -/
theorem run_error_rounds (maxIterations : Nat) :
    (call.run maxIterations).simulated.length ≤ maxIterations ∧
      ((call.run maxIterations).result = .error (.notResolved maxIterations) →
        (call.run maxIterations).simulated.length = maxIterations) ∧
      (∀ iteration e, (call.run maxIterations).result = .error (.simulationFailed iteration e) →
        (call.run maxIterations).simulated.length = iteration ∧ 1 ≤ iteration) ∧
      ∀ iteration, (call.run maxIterations).result = .error (.noReturnData iteration) →
        (call.run maxIterations).simulated.length = iteration ∧ 1 ≤ iteration := by
  rcases call.run_cases maxIterations with ⟨-, hrun⟩ | ⟨r, hr, -, result, hconcludes, hrun⟩
  · simp [hrun]
  · rw [hrun]
    simp only [List.length_map, List.length_range]
    refine ⟨hr, fun h => absurd (h ▸ hconcludes) (call.not_concludes_notResolved r _),
      fun _ _ h => ?_, fun _ h => ?_⟩
    all_goals
      rcases call.concludes_error_cases (h ▸ hconcludes) with ⟨_, h⟩ | h | ⟨_, h⟩ | h <;> cases h
      exact ⟨rfl, Nat.succ_pos r⟩

/-- Two budgets `n ≤ m` of one call: the call with budget `n` returns what the call with budget
`m` returns when that call stops within `n` rounds with a result other than exhaustion, and
otherwise fails with its own exhaustion error. So raising the budget never changes an `Ok`. -/
theorem run_budget {n m : Nat} (hnm : n ≤ m) :
    ((call.run m).result ≠ .error (.notResolved m) → (call.run m).simulated.length ≤ n →
        (call.run n).result = (call.run m).result) ∧
      (((call.run m).result = .error (.notResolved m) ∨ n < (call.run m).simulated.length) →
        (call.run n).result = .error (.notResolved n)) ∧
      ∀ result, (call.run n).result = .ok result → (call.run m).result = .ok result := by
  rcases call.run_cases m with ⟨hall, hrun⟩ | ⟨r, hr, hbefore, result, hconcludes, hrun⟩
  · have hrunN := call.run_of_forall_missing fun j (hj : j < n) => hall j (by omega)
    rw [hrun, hrunN]
    exact ⟨fun hne => absurd rfl hne, fun _ => rfl, fun _ hok => by cases hok⟩
  · rw [hrun]
    by_cases hrn : r < n
    · rw [call.run_of_first_concludes hrn hbefore hconcludes]
      refine ⟨fun _ _ => rfl, fun hexhausted => ?_, fun _ hok => hok⟩
      rcases hexhausted with hexhausted | hlength
      · exact absurd (hexhausted ▸ hconcludes) (call.not_concludes_notResolved r m)
      · simp only [List.length_map, List.length_range] at hlength
        omega
    · rw [call.run_of_forall_missing fun j (hj : j < n) => hbefore j (by omega)]
      refine ⟨fun _ hlength => ?_, fun _ => rfl, fun _ hok => by cases hok⟩
      simp only [List.length_map, List.length_range] at hlength
      omega

/-- The sample call resolves in round 2, so budgets 2 and 10 agree. -/
theorem run_budget_sample :
    2 ≤ 10 ∧
      ((sample.run 10).result ≠ .error (.notResolved 10) → (sample.run 10).simulated.length ≤ 2 →
          (sample.run 2).result = (sample.run 10).result) ∧
      (((sample.run 10).result = .error (.notResolved 10) ∨ 2 < (sample.run 10).simulated.length) →
          (sample.run 2).result = .error (.notResolved 2)) ∧
      ∀ result, (sample.run 2).result = .ok result → (sample.run 10).result = .ok result :=
  ⟨by decide, sample.run_budget (by decide)⟩

end Call

end WormholeSvmTest.Resolution
