import WormholeSvmTest.Bytes

/-!
# Solana values the helpers exchange

Addresses, account metas, instructions and the inputs of a signed transaction, as far as the
resolver helper and the example program build or read them. A signed transaction is a function of
the instructions, fee payer, signers and blockhash it is made from, so the model keeps those.
-/

namespace WormholeSvmTest

/-- A Solana address, `Pubkey`. -/
structure Pubkey where
  toBytes : Bytes 32
deriving DecidableEq

/-- A blockhash, `Hash`. -/
structure Hash where
  toBytes : Bytes 32
deriving DecidableEq

/-- `AccountMeta`: an account an instruction takes, with its signer and writable flags. -/
structure AccountMeta where
  pubkey : Pubkey
  isSigner : Bool
  isWritable : Bool
deriving DecidableEq

/-- `AccountMeta::new_readonly`. -/
def AccountMeta.newReadonly (pubkey : Pubkey) (isSigner : Bool) : AccountMeta :=
  ⟨pubkey, isSigner, false⟩

/-- `Instruction`. -/
structure Instruction where
  programId : Pubkey
  accounts : List AccountMeta
  data : List UInt8
deriving DecidableEq

/-- An ed25519 `Keypair`: the secret key and the public key derived from it. -/
structure Keypair where
  secret : Bytes 32
  pubkey : Pubkey
deriving DecidableEq

/-- `Transaction::new_signed_with_payer(instructions, payer, signers, recent_blockhash)`, kept as
those inputs. The message it compiles is not modelled: there the fee payer's entry, a writable
signer, absorbs an instruction account with the payer's key, and compilation panics past 255
distinct read-only keys. -/
structure Transaction where
  instructions : List Instruction
  payer : Option Pubkey
  signers : List Keypair
  recentBlockhash : Hash
deriving DecidableEq

end WormholeSvmTest
