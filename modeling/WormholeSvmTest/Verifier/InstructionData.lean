import WormholeSvmTest.Bytes

/-!
# The instruction data of the example verifier program

The model of the instruction-data half of `vaa-verifier-example`: `build_instruction_data` writes
the guardian-set bump, the VAA length as a little-endian `u32` and the VAA, and the decode inside
`process_instruction` reads them back. The decode slices `instruction_data[1..5]` before the
`try_into` whose `map_err` was to reject a short length field, so a slice that is too short panics
first; `decodeInstructionData_eq_none_iff` says this happens exactly on inputs of 1 to 4 bytes.
A panic is `none`. Lengths are `usize` on the SBF target, 64 bits wide, so `5 + vaa_len` with a
`u32` length does not overflow and is taken in `Nat`.
-/

namespace WormholeSvmTest.Verifier

/-- `ProgramError` of `solana_program`. -/
inductive ProgramError where
  | custom (code : UInt32)
  | invalidArgument
  | invalidInstructionData
  | invalidAccountData
  | accountDataTooSmall
  | insufficientFunds
  | incorrectProgramId
  | missingRequiredSignature
  | accountAlreadyInitialized
  | uninitializedAccount
  | notEnoughAccountKeys
  | accountBorrowFailed
  | maxSeedLengthExceeded
  | invalidSeeds
  | borshIoError (message : String)
  | accountNotRentExempt
  | unsupportedSysvar
  | illegalOwner
  | maxAccountsDataAllocationsExceeded
  | invalidRealloc
  | maxInstructionTraceLengthExceeded
  | builtinProgramsMustConsumeComputeUnits
  | invalidAccountOwner
  | arithmeticOverflow
  | immutable
  | incorrectAuthority
deriving DecidableEq

/-- `build_instruction_data`: the bump, `vaa_bytes.len() as u32` in little-endian order, the
VAA bytes. -/
def buildInstructionData (guardianSetBump : UInt8) (vaaBytes : List UInt8) : List UInt8 :=
  [guardianSetBump] ++ (u32ToLeBytes (UInt32.ofNat vaaBytes.length)).toList ++ vaaBytes

/-- The instruction-data decode of `process_instruction`: reject empty data, take byte 0 as the
bump, slice bytes `1..5` (a panic when they are not there) into a `u32` length, check the length,
and slice the VAA bytes. -/
def decodeInstructionData (instructionData : List UInt8) :
    Option (Except ProgramError (UInt8 × List UInt8)) :=
  if instructionData.isEmpty then some (.error .invalidInstructionData)
  else do
    let guardianSetBump ← instructionData[0]?
    let lengthSlice ← sliceRange instructionData 1 5
    match tryIntoArray 4 lengthSlice with
    | none => some (.error .invalidInstructionData)
    | some lengthBytes =>
        let vaaLen := (u32FromLeBytes lengthBytes).toNat
        if instructionData.length < 5 + vaaLen then some (.error .invalidInstructionData)
        else do
          let vaaBytes ← sliceRange instructionData 5 (5 + vaaLen)
          pure (.ok (guardianSetBump, vaaBytes))

/-! ## The decode on each shape of input -/

/-- Data of 1 to 4 bytes panics at the slice `instruction_data[1..5]`. -/
theorem decodeInstructionData_short {instructionData : List UInt8}
    (hpos : 0 < instructionData.length) (hshort : instructionData.length < 5) :
    decodeInstructionData instructionData = none := by
  obtain ⟨bump, rest, rfl⟩ := List.exists_cons_of_length_pos hpos
  have hslice : sliceRange (bump :: rest) 1 5 = none := sliceRange_eq_none.mpr (by omega)
  simp [decodeInstructionData, hslice]

/-- Data with a full length field decodes to the bump and the announced number of VAA bytes when
they are all there, and is rejected otherwise. -/
theorem decodeInstructionData_cons (bump : UInt8) {lengthBytes : List UInt8}
    (rest : List UInt8) (hlength : lengthBytes.length = 4) :
    decodeInstructionData (bump :: (lengthBytes ++ rest)) =
      if rest.length < ofLeBytes lengthBytes then some (.error .invalidInstructionData)
      else some (.ok (bump, rest.take (ofLeBytes lengthBytes))) := by
  have hlen : ofLeBytes lengthBytes < 2 ^ 32 := by
    simpa [hlength] using ofLeBytes_lt lengthBytes
  have hvalue : (u32FromLeBytes ⟨lengthBytes, hlength⟩).toNat = ofLeBytes lengthBytes :=
    Nat.mod_eq_of_lt hlen
  have hslice : sliceRange (bump :: (lengthBytes ++ rest)) 1 5 = some lengthBytes := by
    rw [sliceRange, if_pos (by simp only [List.length_cons, List.length_append, hlength]; omega)]
    exact congrArg some (List.take_left' (hlength.trans rfl))
  have hvaa : ∀ n, n ≤ rest.length →
      sliceRange (bump :: (lengthBytes ++ rest)) 5 (5 + n) = some (rest.take n) := fun n hn => by
    simp only [sliceRange, List.length_cons, List.length_append, hlength]
    rw [if_pos (by omega), show 5 + n - 5 = n by omega, show 5 = (lengthBytes.length + 1) by omega,
      List.drop_succ_cons, List.drop_left]
  simp only [decodeInstructionData, List.isEmpty_cons, hslice, List.length_cons,
    List.length_append, hlength, Bool.false_eq_true, if_false, List.getElem?_cons_zero,
    Option.bind_eq_bind, Option.some_bind]
  rw [tryIntoArray_of_length hlength]
  simp only [hvalue]
  by_cases hshort : rest.length < ofLeBytes lengthBytes
  · simp [show 4 + rest.length + 1 < 5 + ofLeBytes lengthBytes by omega, hshort]
  · simp [show ¬ (4 + rest.length + 1 < 5 + ofLeBytes lengthBytes) by omega, hshort,
      hvaa (ofLeBytes lengthBytes) (by omega)]

/-- Data is empty, 1 to 4 bytes long, or a bump, a full length field and the rest. -/
theorem instructionData_cases (instructionData : List UInt8) :
    instructionData = [] ∨ (0 < instructionData.length ∧ instructionData.length < 5) ∨
      ∃ bump lengthBytes rest, lengthBytes.length = 4 ∧
        instructionData = bump :: (lengthBytes ++ rest) := by
  rcases instructionData with _ | ⟨bump, tail⟩
  · exact .inl rfl
  · rcases Nat.lt_or_ge tail.length 4 with hshort | hlong
    · exact .inr (.inl ⟨Nat.succ_pos _, Nat.succ_lt_succ hshort⟩)
    · refine .inr (.inr ⟨bump, tail.take 4, tail.drop 4, ?_, by rw [List.take_append_drop]⟩)
      simp only [List.length_take]
      omega

/-- The decode panics exactly on data of 1 to 4 bytes. -/
theorem decodeInstructionData_eq_none_iff (instructionData : List UInt8) :
    decodeInstructionData instructionData = none ↔
      0 < instructionData.length ∧ instructionData.length < 5 := by
  refine ⟨fun hnone => ?_, fun ⟨hpos, hshort⟩ => decodeInstructionData_short hpos hshort⟩
  rcases instructionData_cases instructionData with rfl | hshort | ⟨bump, _, rest, hlength, rfl⟩
  · cases hnone
  · exact hshort
  · rw [decodeInstructionData_cons bump rest hlength] at hnone
    split at hnone <;> cases hnone

/-- Built instruction data, its four length bytes split off. -/
theorem buildInstructionData_append (guardianSetBump : UInt8) (vaaBytes trailing : List UInt8) :
    buildInstructionData guardianSetBump vaaBytes ++ trailing =
      guardianSetBump :: (toLeBytes 4 (UInt32.ofNat vaaBytes.length).toNat ++
        (vaaBytes ++ trailing)) := by
  simp [buildInstructionData, u32ToLeBytes, Mathlib.Vector.toList]

/-- The length field of built data reads back as the VAA length modulo `2 ^ 32`: the cast
`vaa_bytes.len() as u32` keeps the low 32 bits. -/
theorem ofLeBytes_lengthField (n : Nat) :
    ofLeBytes (toLeBytes 4 (UInt32.ofNat n).toNat) = n % 2 ^ 32 := by
  rw [ofLeBytes_toLeBytes]
  exact Nat.mod_eq_of_lt (Nat.mod_lt _ (by decide))

/-- Built instruction data decodes to its bump and VAA, whatever follows it. -/
theorem decodeInstructionData_buildInstructionData_append (guardianSetBump : UInt8)
    {vaaBytes : List UInt8} (trailing : List UInt8) (hvaa : vaaBytes.length < 2 ^ 32) :
    decodeInstructionData (buildInstructionData guardianSetBump vaaBytes ++ trailing) =
      some (.ok (guardianSetBump, vaaBytes)) := by
  rw [buildInstructionData_append, decodeInstructionData_cons _ _ (length_toLeBytes 4 _),
    ofLeBytes_lengthField, Nat.mod_eq_of_lt hvaa, if_neg (by simp), List.take_left]

/-- Built instruction data decodes, whatever follows it, to its bump and the first
`vaa_bytes.len() % 2 ^ 32` bytes of the VAA: from `2 ^ 32` bytes on the length field wraps, and
the decode accepts the data with a prefix of the VAA in its place. -/
theorem decodeInstructionData_build_wraps (guardianSetBump : UInt8)
    (vaaBytes trailing : List UInt8) :
    decodeInstructionData (buildInstructionData guardianSetBump vaaBytes ++ trailing) =
      some (.ok (guardianSetBump, vaaBytes.take (vaaBytes.length % 2 ^ 32))) := by
  have hprefix : vaaBytes.length % 2 ^ 32 ≤ vaaBytes.length := Nat.mod_le _ _
  rw [buildInstructionData_append, decodeInstructionData_cons _ _ (length_toLeBytes 4 _),
    ofLeBytes_lengthField, if_neg (by simp only [List.length_append]; omega),
    List.take_append_of_le_length hprefix]

/-- The decode fails, always with `InvalidInstructionData`, exactly on empty data and on data of
at least 5 bytes that is shorter than 5 plus the length its bytes `1..5` announce. -/
theorem decodeInstructionData_eq_error_iff (instructionData : List UInt8) (e : ProgramError) :
    decodeInstructionData instructionData = some (.error e) ↔
      e = .invalidInstructionData ∧
        (instructionData = [] ∨ (5 ≤ instructionData.length ∧
          instructionData.length < 5 + ofLeBytes ((instructionData.drop 1).take 4))) := by
  rcases instructionData_cases instructionData with
    rfl | ⟨hpos, hshort⟩ | ⟨bump, lengthBytes, rest, hlength, rfl⟩
  · simp [decodeInstructionData, eq_comm]
  · rw [decodeInstructionData_short hpos hshort]
    simp [List.ne_nil_of_length_pos hpos, Nat.not_le_of_lt hshort]
  · rw [decodeInstructionData_cons bump rest hlength, List.drop_one, List.tail_cons,
      List.take_left' hlength]
    by_cases hfits : rest.length < ofLeBytes lengthBytes
    · simp [hfits, hlength, eq_comm]
      omega
    · simp [hfits, hlength]
      omega

/-- Data the decode accepts is built data, for a VAA of fewer than `2 ^ 32` bytes, followed by
trailing bytes. -/
theorem eq_buildInstructionData_of_decode {instructionData : List UInt8}
    {guardianSetBump : UInt8} {vaaBytes : List UInt8}
    (h : decodeInstructionData instructionData = some (.ok (guardianSetBump, vaaBytes))) :
    vaaBytes.length < 2 ^ 32 ∧
      ∃ trailing, instructionData = buildInstructionData guardianSetBump vaaBytes ++ trailing := by
  rcases instructionData_cases instructionData with
    rfl | ⟨hpos, hshort⟩ | ⟨bump, lengthBytes, rest, hlength, rfl⟩
  · cases h
  · rw [decodeInstructionData_short hpos hshort] at h
    cases h
  rw [decodeInstructionData_cons bump rest hlength] at h
  split at h
  · cases h
  · obtain ⟨rfl, rfl⟩ := Prod.mk.inj (Except.ok.inj (Option.some.inj h))
    have hlen : ofLeBytes lengthBytes < 2 ^ 32 := by
      simpa [hlength] using ofLeBytes_lt lengthBytes
    have htake : (rest.take (ofLeBytes lengthBytes)).length = ofLeBytes lengthBytes := by
      simp only [List.length_take]
      omega
    refine ⟨htake.symm ▸ hlen, rest.drop (ofLeBytes lengthBytes), ?_⟩
    rw [buildInstructionData_append, List.take_append_drop, htake,
      show (UInt32.ofNat (ofLeBytes lengthBytes)).toNat = ofLeBytes lengthBytes from
        Nat.mod_eq_of_lt hlen, ← hlength, toLeBytes_ofLeBytes]

/-- `build_instruction_data` followed by any bytes decodes to the bump and the VAA, and the decode
accepts nothing else: accepted data is built data followed by trailing bytes. -/
theorem decodeInstructionData_build :
    (∀ (guardianSetBump : UInt8) (vaaBytes trailing : List UInt8), vaaBytes.length < 2 ^ 32 →
        decodeInstructionData (buildInstructionData guardianSetBump vaaBytes ++ trailing) =
          some (.ok (guardianSetBump, vaaBytes))) ∧
      ∀ (instructionData : List UInt8) (guardianSetBump : UInt8) (vaaBytes : List UInt8),
        decodeInstructionData instructionData = some (.ok (guardianSetBump, vaaBytes)) →
          ∃ trailing, instructionData = buildInstructionData guardianSetBump vaaBytes ++ trailing :=
  ⟨fun bump _ trailing hvaa => decodeInstructionData_buildInstructionData_append bump trailing hvaa,
    fun _ _ _ h => (eq_buildInstructionData_of_decode h).2⟩

end WormholeSvmTest.Verifier
