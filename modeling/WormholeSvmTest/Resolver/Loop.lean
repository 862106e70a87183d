import WormholeSvmTest.Solana

/-!
# The `resolve_execute_vaa_v1` loop

The model of `resolver.rs`. The helper simulates the resolver instruction of a program, round
after round, on a borrowed `LiteSVM`. Each round sends the accounts gathered so far; a `Missing`
answer appends its keys, with two placeholders substituted, and a `Resolved` answer ends the loop.
The run records, besides the result, every transaction handed to `simulate_transaction`, so that
the results about sessions can say which simulations a call makes.

The `executor_account_resolver_svm` crate and `LiteSVM` are not part of the repository: their
constants, deserializer and simulator are the parameters `ResolverCrate` and `Svm`.
-/

namespace WormholeSvmTest.Resolution

/-- `MissingAccounts`: the accounts the resolver still needs, and lookup tables to load. -/
structure MissingAccounts where
  accounts : List Pubkey
  addressLookupTables : List Pubkey

/-- `InstructionGroups`, over the crate's `InstructionGroup` type `γ`, which the helper passes
through without reading it. -/
structure InstructionGroups (γ : Type) where
  groups : List γ

/-- `Resolver<T>`, the three answers of a resolver instruction. -/
inductive Resolver (T : Type) where
  | resolved (value : T)
  | missing (accounts : MissingAccounts)
  | account

/-- Modelled from the spec: what the helper uses of `executor_account_resolver_svm` besides its
types. `resolverExecuteVaaV1` is the instruction discriminator, the three keys are the placeholder
sentinels, and `deserialize` is `AnchorDeserialize::deserialize` of the return data, which may
leave trailing bytes unread. The spec fixes three distinct sentinels, one per role, so the
structure carries their inequalities. -/
structure ResolverCrate (γ δ : Type) where
  resolverExecuteVaaV1 : Bytes 8
  resolverPubkeyPayer : Pubkey
  resolverPubkeyGuardianSet : Pubkey
  resolverPubkeyShimVaaSigs : Pubkey
  guardianSet_ne_payer : resolverPubkeyGuardianSet ≠ resolverPubkeyPayer
  shimVaaSigs_ne_payer : resolverPubkeyShimVaaSigs ≠ resolverPubkeyPayer
  shimVaaSigs_ne_guardianSet : resolverPubkeyShimVaaSigs ≠ resolverPubkeyGuardianSet
  deserialize : List UInt8 → Except δ (Resolver (InstructionGroups γ))

/-- The `LiteSVM` calls of the helper on its borrowed, hence unchanging, instance:
`latest_blockhash`, and `simulate_transaction` reduced to the return data of the simulation's
metadata, or the failure. -/
structure Svm (ε : Type) where
  latestBlockhash : Hash
  simulateTransaction : Transaction → Except ε (List UInt8)

/-- `ResolverResult`. -/
structure ResolverResult (γ : Type) where
  instructionGroups : List γ
  iterations : Nat

/-- The `Err` strings of `resolve_execute_vaa_v1`, one constructor per `format!` or literal, with
the values each one prints. -/
inductive ResolveError (ε δ : Type) where
  | simulationFailed (iteration : Nat) (error : ε)
  | noReturnData (iteration : Nat)
  | deserializeFailed (error : δ)
  | accountNotSupported
  | notResolved (maxIterations : Nat)

/-- The text of each error; `{:?}` is `Repr` and `{}` is `ToString`. -/
def ResolveError.message {ε δ : Type} [Repr ε] [ToString δ] : ResolveError ε δ → String
  | .simulationFailed iteration e =>
      "Resolver simulation failed on iteration " ++ toString iteration ++ ": " ++ reprStr e
  | .noReturnData iteration => "No return data from resolver on iteration " ++ toString iteration
  | .deserializeFailed e => "Failed to deserialize resolver return data: " ++ toString e
  | .accountNotSupported =>
      "Resolver returned Account() -- result account not supported in test helper"
  | .notResolved maxIterations =>
      "Resolver did not resolve after " ++ toString maxIterations ++ " iterations"

/-- What a run of the helper does: the transactions it simulated, in order, and its result. -/
structure Run (γ δ ε : Type) where
  simulated : List Transaction
  result : Except (ResolveError ε δ) (ResolverResult γ)

/-- The loop state between rounds: the next round's number and the accounts gathered so far. -/
structure Session where
  iteration : Nat
  remainingAccounts : List AccountMeta

section

variable {γ δ ε : Type} (crate : ResolverCrate γ δ) (svm : Svm ε) (programId : Pubkey)
  (payer : Keypair) (vaaBody : List UInt8) (guardianSet : Pubkey)

/-- `substitute_placeholder`. -/
def substitutePlaceholder (pubkey payer guardianSet : Pubkey) : Pubkey :=
  if pubkey = crate.resolverPubkeyPayer then payer
  else if pubkey = crate.resolverPubkeyGuardianSet then guardianSet
  else pubkey

/-- The resolver instruction data: the 8-byte discriminator, then the body as a borsh `Vec<u8>`,
its length as a little-endian `u32` (`vaa_body.len() as u32`) followed by its bytes. -/
def resolverIxData : List UInt8 :=
  crate.resolverExecuteVaaV1.toList ++ (u32ToLeBytes (UInt32.ofNat vaaBody.length)).toList ++
    vaaBody

/-- The signed transaction of a round whose account list is `remainingAccounts`. -/
def roundTransaction (remainingAccounts : List AccountMeta) : Transaction :=
  ⟨[⟨programId, remainingAccounts, resolverIxData crate vaaBody⟩], some payer.pubkey, [payer],
    svm.latestBlockhash⟩

/-- One round up to the `match`: simulate, reject empty return data, deserialize. -/
def simulateRound (iteration : Nat) (tx : Transaction) :
    Except (ResolveError ε δ) (Resolver (InstructionGroups γ)) :=
  match svm.simulateTransaction tx with
  | .error e => .error (.simulationFailed iteration e)
  | .ok returnData =>
      if returnData.isEmpty then .error (.noReturnData iteration)
      else match crate.deserialize returnData with
        | .error e => .error (.deserializeFailed e)
        | .ok resolver => .ok resolver

/-- The inner `for pubkey in missing` loop: push each key, substituted, as a read-only
non-signer. -/
def pushMissing (remainingAccounts : List AccountMeta) (missing : List Pubkey) :
    List AccountMeta :=
  missing.foldl (fun accounts pubkey => accounts ++
    [AccountMeta.newReadonly (substitutePlaceholder crate pubkey payer.pubkey guardianSet) false])
    remainingAccounts

/-- The `for iteration in 1..=max_iterations` loop from `session` on, with `fuel` rounds left.
Each round records its transaction before it simulates it. -/
def resolveRounds (maxIterations : Nat) : Nat → Session → Run γ δ ε
  | 0, _ => ⟨[], .error (.notResolved maxIterations)⟩
  | fuel + 1, session =>
      let tx := roundTransaction crate svm programId payer vaaBody session.remainingAccounts
      let rest : Run γ δ ε := match simulateRound crate svm session.iteration tx with
        | .error e => ⟨[], .error e⟩
        | .ok (.resolved groups) => ⟨[], .ok ⟨groups.groups, session.iteration⟩⟩
        | .ok (.missing missing) =>
            resolveRounds maxIterations fuel
              ⟨session.iteration + 1,
                pushMissing crate payer guardianSet session.remainingAccounts missing.accounts⟩
        | .ok .account => ⟨[], .error .accountNotSupported⟩
      ⟨tx :: rest.simulated, rest.result⟩

/-- A whole call: `max_iterations` rounds from round 1 with no accounts. -/
def resolveExecuteVaaV1Run (maxIterations : Nat) : Run γ δ ε :=
  resolveRounds crate svm programId payer vaaBody guardianSet maxIterations maxIterations
    ⟨1, []⟩

/-- `resolve_execute_vaa_v1`. -/
def resolveExecuteVaaV1 (maxIterations : Nat) : Except (ResolveError ε δ) (ResolverResult γ) :=
  (resolveExecuteVaaV1Run crate svm programId payer vaaBody guardianSet maxIterations).result

omit programId payer vaaBody guardianSet in
/-- A round fails only at the simulation, naming the round, on empty return data, naming the
round, or at the decode. -/
theorem simulateRound_error_cases {iteration : Nat} {tx : Transaction} {error : ResolveError ε δ}
    (h : simulateRound crate svm iteration tx = .error error) :
    (∃ e, error = .simulationFailed iteration e) ∨ error = .noReturnData iteration ∨
      ∃ e, error = .deserializeFailed e := by
  simp only [simulateRound] at h
  split at h
  · exact .inl ⟨_, (Except.error.inj h).symm⟩
  · split at h
    · exact .inr (.inl (Except.error.inj h).symm)
    · split at h
      · exact .inr (.inr ⟨_, (Except.error.inj h).symm⟩)
      · cases h

omit programId payer vaaBody guardianSet in
/-- A round decodes an answer exactly when its simulation returns non-empty return data that the
crate's decoder reads as that answer. -/
theorem simulateRound_eq_ok_iff {iteration : Nat} {tx : Transaction}
    {answer : Resolver (InstructionGroups γ)} :
    simulateRound crate svm iteration tx = (.ok answer : Except (ResolveError ε δ) _) ↔
      ∃ returnData, svm.simulateTransaction tx = .ok returnData ∧ returnData ≠ [] ∧
        crate.deserialize returnData = .ok answer := by
  simp only [simulateRound]
  constructor
  · intro h
    split at h
    · cases h
    · rename_i returnData hsim
      split at h
      · cases h
      · rename_i hne
        split at h
        · cases h
        · cases h
          exact ⟨returnData, hsim, by simpa using hne, by assumption⟩
  · rintro ⟨returnData, hsim, hne, hanswer⟩
    simp [hsim, hne, hanswer]

/-! ## The placeholder substitution and the inner loop -/

omit svm programId vaaBody in
/-- The payer placeholder becomes the payer, the guardian-set placeholder the guardian set, and
every other key, the signatures placeholder included, stays. -/
theorem substitutePlaceholder_cases (payerKey : Pubkey) :
    substitutePlaceholder crate crate.resolverPubkeyPayer payerKey guardianSet = payerKey ∧
      substitutePlaceholder crate crate.resolverPubkeyGuardianSet payerKey guardianSet =
        guardianSet ∧
      substitutePlaceholder crate crate.resolverPubkeyShimVaaSigs payerKey guardianSet =
        crate.resolverPubkeyShimVaaSigs ∧
      ∀ pubkey, pubkey ≠ crate.resolverPubkeyPayer → pubkey ≠ crate.resolverPubkeyGuardianSet →
        substitutePlaceholder crate pubkey payerKey guardianSet = pubkey := by
  refine ⟨if_pos rfl, ?_, ?_, fun pubkey hp hg => ?_⟩
  · simp [substitutePlaceholder, crate.guardianSet_ne_payer]
  · simp [substitutePlaceholder, crate.shimVaaSigs_ne_payer, crate.shimVaaSigs_ne_guardianSet]
  · simp [substitutePlaceholder, hp, hg]

omit svm programId vaaBody in
/-- The inner loop appends the substituted keys, in order, to the accounts gathered so far. -/
theorem pushMissing_eq (remainingAccounts : List AccountMeta) (missing : List Pubkey) :
    pushMissing crate payer guardianSet remainingAccounts missing =
      remainingAccounts ++ missing.map fun pubkey =>
        AccountMeta.newReadonly (substitutePlaceholder crate pubkey payer.pubkey guardianSet)
          false := by
  induction missing generalizing remainingAccounts with
  | nil => simp [pushMissing]
  | cons pubkey missing ih =>
      simp only [pushMissing, List.foldl_cons] at ih ⊢
      rw [ih, List.map_cons, List.append_assoc, List.singleton_append]

end

end WormholeSvmTest.Resolution
