import WormholeSvmTest.Guardian
import WormholeSvmTest.Solana
import WormholeSvmTest.Verifier.InstructionData

/-!
# The example verifier program

The model of `process_instruction` and `build_verify_vaa_instruction`. The program takes four
accounts, checks that the last is the Verify VAA Shim, decodes its instruction data, parses the
VAA, and asks the shim by CPI to verify the double Keccak-256 digest of the VAA body against the
guardian set and the posted signatures. `processInstruction_eq_ok_iff_build` says that it
succeeds exactly on the instructions the client's builder makes whose VAA parses and whose digest
the shim accepts, and `processInstruction_build` runs the client's instruction through the
program. `processInstruction_build_signed` ties the digest the shim receives to the one a test
guardian set signs, and `processInstruction_eq_none_iff` says when the program panics.

The shim's program id, `Vaa::parse`, `keccak::hash`, the shim's `VerifyHash` builder and
`invoke` belong to other crates or to the runtime; they are the parameter `Environment`. Logging
by `msg!` is not modelled.
-/

namespace WormholeSvmTest.Verifier

/-- `AccountInfo`, with the fields the runtime hands to a program. -/
structure AccountInfo where
  key : Pubkey
  isSigner : Bool
  isWritable : Bool
  lamports : UInt64
  data : List UInt8
  owner : Pubkey
  executable : Bool

/-- What the program uses of other crates and of the runtime: its own id (`crate::ID`), the shim's
`VERIFY_VAA_SHIM_PROGRAM_ID`, `Vaa::parse` reduced to the body bytes (`vaa.body().as_ref()`), or
`none` when parsing fails, Solana's `keccak::hash`, the shim's `VerifyHash { .. }.instruction()`
from the program id, the two accounts, the bump and the digest, and `invoke`. -/
structure Environment where
  programId : Pubkey
  verifyVaaShimProgramId : Pubkey
  vaaBody : List UInt8 → Option (List UInt8)
  keccak256 : List UInt8 → Bytes 32
  verifyHash : Pubkey → Pubkey → Pubkey → UInt8 → Bytes 32 → Instruction
  invoke : Instruction → List AccountInfo → Except ProgramError Unit

section

variable (env : Environment)

/-- The digest the program verifies: `keccak::hash(keccak::hashv(&[body]))`. -/
def vaaDigest (body : List UInt8) : Bytes 32 :=
  env.keccak256 (env.keccak256 body).toList

/-- `process_instruction`. `next_account_info` fails with `NotEnoughAccountKeys` on a missing
account, and a panic of the instruction-data decode is `none`. -/
def processInstruction (_programId : Pubkey) (accounts : List AccountInfo)
    (instructionData : List UInt8) : Option (Except ProgramError Unit) :=
  match accounts with
  | _payer :: guardianSet :: guardianSignatures :: shimProgram :: _ =>
      if shimProgram.key ≠ env.verifyVaaShimProgramId then some (.error .incorrectProgramId)
      else match decodeInstructionData instructionData with
        | none => none
        | some (.error e) => some (.error e)
        | some (.ok (guardianSetBump, vaaBytes)) =>
            match env.vaaBody vaaBytes with
            | none => some (.error .invalidInstructionData)
            | some body =>
                let verifyIx := env.verifyHash env.verifyVaaShimProgramId guardianSet.key
                  guardianSignatures.key guardianSetBump (vaaDigest env body)
                some (env.invoke verifyIx [guardianSet, guardianSignatures])
  | _ => some (.error .notEnoughAccountKeys)

/-- `build_verify_vaa_instruction`: the payer as a read-only signer, then the guardian set, the
signatures account and the shim, read-only, with `build_instruction_data`. -/
def buildVerifyVaaInstruction (payer guardianSet guardianSignatures : Pubkey)
    (guardianSetBump : UInt8) (vaaBytes : List UInt8) : Instruction :=
  ⟨env.programId,
    [AccountMeta.newReadonly payer true, AccountMeta.newReadonly guardianSet false,
      AccountMeta.newReadonly guardianSignatures false,
      AccountMeta.newReadonly env.verifyVaaShimProgramId false],
    buildInstructionData guardianSetBump vaaBytes⟩

/-! ## What the program does with its input -/

/-- With its four accounts and the shim fourth, data that decodes to a bump and a VAA that parses
ends in the shim's `VerifyHash` CPI on the guardian set and the signatures accounts, with that bump
and the double Keccak-256 digest of the VAA body, and the program returns what the CPI returns. -/
theorem processInstruction_of_decode (programId : Pubkey)
    {payer guardianSet guardianSignatures shimProgram : AccountInfo} {rest : List AccountInfo}
    {instructionData : List UInt8} {guardianSetBump : UInt8} {vaaBytes body : List UInt8}
    (hshim : shimProgram.key = env.verifyVaaShimProgramId)
    (hdecode : decodeInstructionData instructionData = some (.ok (guardianSetBump, vaaBytes)))
    (hbody : env.vaaBody vaaBytes = some body) :
    processInstruction env programId
        (payer :: guardianSet :: guardianSignatures :: shimProgram :: rest) instructionData =
      some (env.invoke (env.verifyHash env.verifyVaaShimProgramId guardianSet.key
        guardianSignatures.key guardianSetBump (env.keccak256 (env.keccak256 body).toList))
        [guardianSet, guardianSignatures]) := by
  simp [processInstruction, hshim, hdecode, hbody, vaaDigest]

/-- The program succeeds exactly when it has the four accounts with the shim last, its data
decodes to a bump and a VAA that parses, and the shim accepts the VAA body's digest for the given
guardian set and signatures accounts and that bump. -/
theorem processInstruction_eq_ok_iff (programId : Pubkey) (accounts : List AccountInfo)
    (instructionData : List UInt8) :
    processInstruction env programId accounts instructionData = some (.ok ()) ↔
      ∃ payer guardianSet guardianSignatures shimProgram rest guardianSetBump vaaBytes body,
        accounts = payer :: guardianSet :: guardianSignatures :: shimProgram :: rest ∧
        shimProgram.key = env.verifyVaaShimProgramId ∧
        decodeInstructionData instructionData = some (.ok (guardianSetBump, vaaBytes)) ∧
        env.vaaBody vaaBytes = some body ∧
        env.invoke (env.verifyHash env.verifyVaaShimProgramId guardianSet.key
          guardianSignatures.key guardianSetBump (vaaDigest env body))
          [guardianSet, guardianSignatures] = .ok () := by
  constructor
  · intro h
    match accounts, h with
    | [], h | [_], h | [_, _], h | [_, _, _], h => cases h
    | payer :: guardianSet :: guardianSignatures :: shimProgram :: rest, h =>
        simp only [processInstruction] at h
        split at h <;> try cases h
        rename_i hshim
        split at h <;> try cases h
        rename_i guardianSetBump vaaBytes hdecode
        split at h <;> try cases h
        rename_i body hbody
        exact ⟨payer, guardianSet, guardianSignatures, shimProgram, rest, guardianSetBump,
          vaaBytes, body, rfl, not_not.mp hshim, hdecode, hbody, Option.some.inj h⟩
  · rintro ⟨payer, guardianSet, guardianSignatures, shimProgram, rest, guardianSetBump, vaaBytes,
      body, rfl, hshim, hdecode, hbody, hinvoke⟩
    rw [processInstruction_of_decode env programId hshim hdecode hbody]
    exact congrArg some hinvoke

/-- The program accepts exactly the instructions the client's builder makes: it returns `Ok`
exactly when it has four accounts with the shim fourth, its data is `build_instruction_data` of a
bump and a VAA of fewer than `2 ^ 32` bytes followed by any bytes, the VAA parses, and the shim
accepts the double Keccak-256 digest of the VAA body for the guardian set and signatures accounts
and that bump. -/
theorem processInstruction_eq_ok_iff_build (programId : Pubkey) (accounts : List AccountInfo)
    (instructionData : List UInt8) :
    processInstruction env programId accounts instructionData = some (.ok ()) ↔
      ∃ payer guardianSet guardianSignatures shimProgram rest guardianSetBump vaaBytes trailing
        body, accounts = payer :: guardianSet :: guardianSignatures :: shimProgram :: rest ∧
        shimProgram.key = env.verifyVaaShimProgramId ∧
        instructionData = buildInstructionData guardianSetBump vaaBytes ++ trailing ∧
        vaaBytes.length < 2 ^ 32 ∧ env.vaaBody vaaBytes = some body ∧
        env.invoke (env.verifyHash env.verifyVaaShimProgramId guardianSet.key
          guardianSignatures.key guardianSetBump (env.keccak256 (env.keccak256 body).toList))
          [guardianSet, guardianSignatures] = .ok () := by
  rw [processInstruction_eq_ok_iff]
  constructor
  · rintro ⟨payer, guardianSet, guardianSignatures, shimProgram, rest, guardianSetBump, vaaBytes,
      body, rfl, hshim, hdecode, hbody, hinvoke⟩
    obtain ⟨hvaa, trailing, rfl⟩ := eq_buildInstructionData_of_decode hdecode
    exact ⟨payer, guardianSet, guardianSignatures, shimProgram, rest, guardianSetBump, vaaBytes,
      trailing, body, rfl, hshim, rfl, hvaa, hbody, hinvoke⟩
  · rintro ⟨payer, guardianSet, guardianSignatures, shimProgram, rest, guardianSetBump, vaaBytes,
      trailing, body, rfl, hshim, rfl, hvaa, hbody, hinvoke⟩
    exact ⟨payer, guardianSet, guardianSignatures, shimProgram, rest, guardianSetBump, vaaBytes,
      body, rfl, hshim, decodeInstructionData_buildInstructionData_append _ trailing hvaa, hbody,
      hinvoke⟩

/-! ## The client's instruction through the program -/

/-- Account infos keyed as the built instruction's accounts hold the guardian set, the signatures
account and the shim in their places. -/
theorem keys_of_buildVerifyVaaInstruction {payer guardianSet guardianSignatures : Pubkey}
    {payerInfo guardianSetInfo guardianSignaturesInfo shimInfo : AccountInfo}
    {guardianSetBump : UInt8} {vaaBytes : List UInt8}
    (hkeys : [payerInfo, guardianSetInfo, guardianSignaturesInfo, shimInfo].map AccountInfo.key =
      (buildVerifyVaaInstruction env payer guardianSet guardianSignatures guardianSetBump
        vaaBytes).accounts.map AccountMeta.pubkey) :
    guardianSetInfo.key = guardianSet ∧ guardianSignaturesInfo.key = guardianSignatures ∧
      shimInfo.key = env.verifyVaaShimProgramId := by
  simp only [buildVerifyVaaInstruction, List.map_cons, List.map_nil, AccountMeta.newReadonly,
    List.cons.injEq] at hkeys
  exact ⟨hkeys.2.1, hkeys.2.2.1, hkeys.2.2.2.1⟩

/-- An environment to evaluate the model on: the program is the key of byte 9 and the shim the key
of byte 1, a VAA is its own body, hashing is that of `Crypto.trivial`, and the shim accepts every
digest. -/
def sampleEnvironment : Environment where
  programId := ⟨Mathlib.Vector.replicate 32 9⟩
  verifyVaaShimProgramId := ⟨Mathlib.Vector.replicate 32 1⟩
  vaaBody := some
  keccak256 := Crypto.trivial.keccak256
  verifyHash programId guardianSet guardianSignatures _ _ :=
    ⟨programId, [AccountMeta.newReadonly guardianSet false,
      AccountMeta.newReadonly guardianSignatures false], []⟩
  invoke _ _ := .ok ()

/-- An empty account of the key whose 32 bytes all are `b`, owned by itself. -/
def sampleAccount (b : UInt8) : AccountInfo :=
  ⟨⟨Mathlib.Vector.replicate 32 b⟩, false, false, 0, [], ⟨Mathlib.Vector.replicate 32 b⟩, false⟩

/-- The client's instruction, run by the program on accounts with the instruction's keys, reaches
the shim with the guardian set, the signatures account, the bump and the double Keccak-256 digest
of the VAA body, and the program returns the shim's answer. -/
theorem processInstruction_build {payer guardianSet guardianSignatures : Pubkey}
    {payerInfo guardianSetInfo guardianSignaturesInfo shimInfo : AccountInfo}
    {guardianSetBump : UInt8} {vaaBytes body : List UInt8}
    (hvaa : vaaBytes.length < 2 ^ 32) (hbody : env.vaaBody vaaBytes = some body)
    (hkeys : [payerInfo, guardianSetInfo, guardianSignaturesInfo, shimInfo].map AccountInfo.key =
      (buildVerifyVaaInstruction env payer guardianSet guardianSignatures guardianSetBump
        vaaBytes).accounts.map AccountMeta.pubkey) :
    processInstruction env env.programId
        [payerInfo, guardianSetInfo, guardianSignaturesInfo, shimInfo]
        (buildVerifyVaaInstruction env payer guardianSet guardianSignatures guardianSetBump
          vaaBytes).data =
      some (env.invoke (env.verifyHash env.verifyVaaShimProgramId guardianSet guardianSignatures
        guardianSetBump (env.keccak256 (env.keccak256 body).toList))
        [guardianSetInfo, guardianSignaturesInfo]) := by
  obtain ⟨hguardianSet, hsignatures, hshim⟩ := keys_of_buildVerifyVaaInstruction env hkeys
  subst hguardianSet hsignatures
  have hdata := decodeInstructionData_buildInstructionData_append guardianSetBump [] hvaa
  rw [List.append_nil] at hdata
  exact processInstruction_of_decode env _ hshim hdata hbody

/-- The example's instruction for a three-byte VAA reaches the shim of the sample environment. -/
theorem processInstruction_build_sample :
    [1, 2, 3].length < 2 ^ 32 ∧ sampleEnvironment.vaaBody [1, 2, 3] = some [1, 2, 3] ∧
      [sampleAccount 2, sampleAccount 3, sampleAccount 4, sampleAccount 1].map AccountInfo.key =
        (buildVerifyVaaInstruction sampleEnvironment (sampleAccount 2).key (sampleAccount 3).key
          (sampleAccount 4).key 255 [1, 2, 3]).accounts.map AccountMeta.pubkey ∧
      processInstruction sampleEnvironment sampleEnvironment.programId
          [sampleAccount 2, sampleAccount 3, sampleAccount 4, sampleAccount 1]
          (buildVerifyVaaInstruction sampleEnvironment (sampleAccount 2).key (sampleAccount 3).key
            (sampleAccount 4).key 255 [1, 2, 3]).data =
        some (sampleEnvironment.invoke (sampleEnvironment.verifyHash
          sampleEnvironment.verifyVaaShimProgramId (sampleAccount 3).key (sampleAccount 4).key 255
          (sampleEnvironment.keccak256 (sampleEnvironment.keccak256 [1, 2, 3]).toList))
          [sampleAccount 3, sampleAccount 4]) :=
  ⟨by decide, rfl, rfl, processInstruction_build sampleEnvironment (by decide) rfl rfl⟩

/-- A VAA whose body a test guardian set signed, sent by the client's instruction, reaches the shim
with the digest that every guardian's record signs, when the guardians and the program hash with
the same Keccak-256. -/
theorem processInstruction_build_signed {SecretKey PublicKey : Type}
    (crypto : Crypto SecretKey PublicKey) (hkeccak : crypto.keccak256 = env.keccak256)
    (set : TestGuardianSet SecretKey PublicKey) {payer guardianSet guardianSignatures : Pubkey}
    {payerInfo guardianSetInfo guardianSignaturesInfo shimInfo : AccountInfo}
    {guardianSetBump : UInt8} {vaaBytes body : List UInt8}
    (hvaa : vaaBytes.length < 2 ^ 32) (hbody : env.vaaBody vaaBytes = some body)
    (hkeys : [payerInfo, guardianSetInfo, guardianSignaturesInfo, shimInfo].map AccountInfo.key =
      (buildVerifyVaaInstruction env payer guardianSet guardianSignatures guardianSetBump
        vaaBytes).accounts.map AccountMeta.pubkey) :
    ∃ digest, processInstruction env env.programId
        [payerInfo, guardianSetInfo, guardianSignaturesInfo, shimInfo]
        (buildVerifyVaaInstruction env payer guardianSet guardianSignatures guardianSetBump
          vaaBytes).data =
      some (env.invoke (env.verifyHash env.verifyVaaShimProgramId guardianSet guardianSignatures
        guardianSetBump digest) [guardianSetInfo, guardianSignaturesInfo]) ∧
      (set.signVaaBody crypto body).map Mathlib.Vector.toList =
        set.guardians.map fun guardian =>
          guardian.index :: (guardian.sign crypto digest).toList := by
  obtain ⟨hguardianSet, hsignatures, hshim⟩ := keys_of_buildVerifyVaaInstruction env hkeys
  subst hguardianSet hsignatures
  have hdata := decodeInstructionData_buildInstructionData_append guardianSetBump [] hvaa
  rw [List.append_nil] at hdata
  refine ⟨_, processInstruction_of_decode env _ hshim hdata hbody, ?_⟩
  simp only [TestGuardianSet.signVaaBody, List.map_map, Function.comp_def,
    TestGuardian.signVaaBody_toList, hkeccak]

/-- A one-guardian set of the trivial crypto interface signs the digest the sample environment's
shim receives for the example's instruction. -/
theorem processInstruction_build_signed_sample :
    Crypto.trivial.keccak256 = sampleEnvironment.keccak256 ∧ [1, 2, 3].length < 2 ^ 32 ∧
      sampleEnvironment.vaaBody [1, 2, 3] = some [1, 2, 3] ∧
      [sampleAccount 2, sampleAccount 3, sampleAccount 4, sampleAccount 1].map AccountInfo.key =
        (buildVerifyVaaInstruction sampleEnvironment (sampleAccount 2).key (sampleAccount 3).key
          (sampleAccount 4).key 255 [1, 2, 3]).accounts.map AccountMeta.pubkey ∧
      ∃ digest, processInstruction sampleEnvironment sampleEnvironment.programId
          [sampleAccount 2, sampleAccount 3, sampleAccount 4, sampleAccount 1]
          (buildVerifyVaaInstruction sampleEnvironment (sampleAccount 2).key (sampleAccount 3).key
            (sampleAccount 4).key 255 [1, 2, 3]).data =
        some (sampleEnvironment.invoke (sampleEnvironment.verifyHash
          sampleEnvironment.verifyVaaShimProgramId (sampleAccount 3).key (sampleAccount 4).key 255
          digest) [sampleAccount 3, sampleAccount 4]) ∧
        ((⟨[⟨(), (), Mathlib.Vector.replicate 20 0, 0⟩]⟩ : TestGuardianSet Unit Unit).signVaaBody
            Crypto.trivial [1, 2, 3]).map Mathlib.Vector.toList =
          (⟨[⟨(), (), Mathlib.Vector.replicate 20 0, 0⟩]⟩ : TestGuardianSet Unit Unit).guardians.map
            fun guardian => guardian.index :: (guardian.sign Crypto.trivial digest).toList :=
  ⟨rfl, by decide, rfl, rfl,
    processInstruction_build_signed sampleEnvironment Crypto.trivial rfl _ (by decide) rfl rfl⟩

/-- With its accounts in place, the program panics on a single byte of instruction data, where
the `map_err` after the slice was meant to return `InvalidInstructionData`. -/
theorem processInstruction_one_byte (programId : Pubkey)
    (payer guardianSet guardianSignatures shimProgram : AccountInfo) (bump : UInt8) :
    processInstruction env programId [payer, guardianSet, guardianSignatures,
      { shimProgram with key := env.verifyVaaShimProgramId }] [bump] = none := by
  simp [processInstruction, decodeInstructionData_short]

/-- The program panics exactly when it has its four accounts with the shim fourth and one to four
bytes of instruction data: the account checks come first, and the decode panics on those inputs
only. -/
theorem processInstruction_eq_none_iff (programId : Pubkey) (accounts : List AccountInfo)
    (instructionData : List UInt8) :
    processInstruction env programId accounts instructionData = none ↔
      (∃ payer guardianSet guardianSignatures shimProgram rest,
        accounts = payer :: guardianSet :: guardianSignatures :: shimProgram :: rest ∧
          shimProgram.key = env.verifyVaaShimProgramId) ∧
        0 < instructionData.length ∧ instructionData.length < 5 := by
  rw [← decodeInstructionData_eq_none_iff]
  match accounts with
  | [] | [_] | [_, _] | [_, _, _] => simp [processInstruction]
  | payer :: guardianSet :: guardianSignatures :: shimProgram :: rest =>
      simp only [List.cons.injEq, and_assoc, exists_and_left, exists_eq_left', and_true]
      by_cases hshim : shimProgram.key = env.verifyVaaShimProgramId
      · simp only [processInstruction, hshim, ne_eq, not_true_eq_false, if_false, true_and]
        split <;> simp_all
        split <;> simp
      · simp [processInstruction, hshim]

end

end WormholeSvmTest.Verifier
