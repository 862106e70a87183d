import WormholeSvmTest.Bytes
import WormholeSvmTest.Guardian
import WormholeSvmTest.Solana
import WormholeSvmTest.Resolver.Loop
import WormholeSvmTest.Resolver.Session
import WormholeSvmTest.Verifier.InstructionData
import WormholeSvmTest.Verifier.Program
