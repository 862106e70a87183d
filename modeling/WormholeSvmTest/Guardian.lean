import WormholeSvmTest.Bytes

/-!
# Test guardians and guardian sets

The model of `guardian.rs`. A guardian holds a secp256k1 secret key, the derived public key, its
Ethereum address (the last 20 bytes of the Keccak-256 hash of the uncompressed public key without
its `0x04` prefix) and its index in a guardian set. It signs the double Keccak-256 digest of a
VAA body and prefixes the 65-byte signature with its index.

The cryptographic primitives come from `libsecp256k1` and `sha3`; they are the parameter
`Crypto`, so every result below holds whatever those libraries compute. A panic (`expect` on an
invalid secret key) is `none`.
-/

namespace WormholeSvmTest

/-- The calls the guardian model makes into `sha3` and `libsecp256k1`: `Keccak256::digest`,
`SecretKey::parse`, `PublicKey::from_secret_key`, the 65-byte `PublicKey::serialize`, and `sign`
with its signature and recovery id already serialized. -/
structure Crypto (SecretKey PublicKey : Type) where
  keccak256 : List UInt8 → Bytes 32
  parse : Bytes 32 → Option SecretKey
  fromSecretKey : SecretKey → PublicKey
  serialize : PublicKey → Bytes 65
  sign : Bytes 32 → SecretKey → Bytes 64 × UInt8

/-- A test guardian with signing capabilities. The fields other than the secret key are public in
the source, so nothing ties them to the key: any guardian value can occur. -/
structure TestGuardian (SecretKey PublicKey : Type) where
  secretKey : SecretKey
  publicKey : PublicKey
  ethAddress : Bytes 20
  index : UInt8

/-- A set of test guardians for quorum testing. -/
structure TestGuardianSet (SecretKey PublicKey : Type) where
  guardians : List (TestGuardian SecretKey PublicKey)

/-- `DEFAULT_GUARDIAN_SECRET_KEY`, the well-known test guardian key of the Wormhole fixtures. -/
def defaultGuardianSecretKey : Bytes 32 :=
  ⟨[0xcf, 0xb1, 0x23, 0x03, 0xa1, 0x9c, 0xde, 0x58, 0x0b, 0xb4, 0xdd, 0x77, 0x16, 0x39, 0xb0, 0xd2,
    0x6b, 0xc6, 0x83, 0x53, 0x64, 0x55, 0x71, 0xa8, 0xcf, 0xf5, 0x16, 0xab, 0x2e, 0xe1, 0x13, 0xa0],
    rfl⟩

/-- The degenerate crypto interface under which every key parses and every hash and signature is
zero. It only serves to evaluate the model on concrete inputs. -/
def Crypto.trivial : Crypto Unit Unit where
  keccak256 _ := Mathlib.Vector.replicate 32 0
  parse _ := some ()
  fromSecretKey _ := ()
  serialize _ := Mathlib.Vector.replicate 65 4
  sign _ _ := (Mathlib.Vector.replicate 64 0, 0)

/-- `hex::FromHexError`, the errors of `hex::decode` that `TestGuardian::from_hex` returns. -/
inductive FromHexError where
  | invalidHexCharacter (c : Char) (index : Nat)
  | oddLength
  | invalidStringLength
deriving DecidableEq

section

variable {SecretKey PublicKey : Type} (crypto : Crypto SecretKey PublicKey)

/-! ## One guardian -/

namespace TestGuardian

/-- `TestGuardian::new`: parse the key (a panic if it is invalid), derive the public key, and take
the last 20 bytes of `keccak256(pubkey[1..])` as the Ethereum address. -/
def new (secretKey : Bytes 32) (index : UInt8) : Option (TestGuardian SecretKey PublicKey) := do
  let secretKey ← crypto.parse secretKey
  let publicKey := crypto.fromSecretKey secretKey
  let hash := crypto.keccak256 (crypto.serialize publicKey).toList.tail
  pure ⟨secretKey, publicKey, hash.drop 12, index⟩

/-- `TestGuardian::from_hex`, over the `hex::decode` it calls: a decode error is returned as it is,
decoded bytes that are not 32 long are `InvalidStringLength`, and a 32-byte key goes to `new`,
whose panic on an invalid key is `none`. -/
def fromHex (hexDecode : String → Except FromHexError (List UInt8)) (hexKey : String)
    (index : UInt8) : Option (Except FromHexError (TestGuardian SecretKey PublicKey)) :=
  match hexDecode hexKey with
  | .error e => some (.error e)
  | .ok bytes =>
      match tryIntoArray 32 bytes with
      | none => some (.error .invalidStringLength)
      | some secretKey => Except.ok <$> new crypto secretKey index

/-- `TestGuardian::default`: the default key at index 0. -/
def default : Option (TestGuardian SecretKey PublicKey) :=
  new crypto defaultGuardianSecretKey 0

/-- `TestGuardian::sign`: the 64-byte signature of the digest followed by the recovery id. -/
def sign (guardian : TestGuardian SecretKey PublicKey) (digest : Bytes 32) : Bytes 65 :=
  let (signature, recoveryId) := crypto.sign digest guardian.secretKey
  signature.append (recoveryId ::ᵥ Mathlib.Vector.nil)

/-- `TestGuardian::sign_vaa_body`: the guardian index followed by the signature of
`keccak256(keccak256(vaa_body))`. -/
def signVaaBody (guardian : TestGuardian SecretKey PublicKey) (vaaBody : List UInt8) : Bytes 66 :=
  let messageHash := crypto.keccak256 vaaBody
  let digest := crypto.keccak256 messageHash.toList
  guardian.index ::ᵥ sign crypto guardian digest

/-- A guardian that `new` builds carries the index it was given. -/
theorem index_of_new {secretKey : Bytes 32} {index : UInt8}
    {guardian : TestGuardian SecretKey PublicKey}
    (h : new crypto secretKey index = some guardian) : guardian.index = index := by
  simp only [new, Option.bind_eq_bind, Option.bind_eq_some, Option.pure_def, Option.some.injEq] at h
  obtain ⟨_, _, rfl⟩ := h
  rfl

/-- A guardian's record is its index byte followed by its signature of the double Keccak-256
digest of the body. -/
theorem signVaaBody_toList (guardian : TestGuardian SecretKey PublicKey) (vaaBody : List UInt8) :
    (signVaaBody crypto guardian vaaBody).toList =
      guardian.index :: (sign crypto guardian
        (crypto.keccak256 (crypto.keccak256 vaaBody).toList)).toList := rfl

@[simp] theorem head_signVaaBody (guardian : TestGuardian SecretKey PublicKey)
    (vaaBody : List UInt8) :
    (signVaaBody crypto guardian vaaBody).head = guardian.index :=
  rfl

end TestGuardian

/-! ## Guardian sets -/

/-- A `mapM` into `Option` that succeeds yields, through `g`, what `h` gives of the inputs,
provided each successful call does. -/
theorem map_of_mapM_eq_some {α β γ : Type} {f : α → Option β} {g : β → γ} {h : α → γ}
    (hf : ∀ a b, f a = some b → g b = h a) :
    ∀ {l : List α} {r : List β}, l.mapM f = some r → r.map g = l.map h
  | [], r, hl => by
      simp only [List.mapM_nil, Option.pure_def, Option.some.injEq] at hl
      simp [← hl]
  | a :: l, r, hl => by
      simp only [List.mapM_cons, Option.bind_eq_bind, Option.bind_eq_some, Option.pure_def,
        Option.some.injEq] at hl
      obtain ⟨b, hb, bs, hbs, rfl⟩ := hl
      rw [List.map_cons, List.map_cons, hf a b hb, map_of_mapM_eq_some hf hbs]

/-- A `mapM` into `Option` whose every call succeeds succeeds. -/
theorem mapM_isSome {α β : Type} {f : α → Option β} (hf : ∀ a, (f a).isSome) :
    ∀ l : List α, (l.mapM f).isSome
  | [] => rfl
  | a :: l => by
      obtain ⟨b, hb⟩ := Option.isSome_iff_exists.mp (hf a)
      obtain ⟨bs, hbs⟩ := Option.isSome_iff_exists.mp (mapM_isSome hf l)
      simp only [List.mapM_cons, hb, hbs, Option.bind_eq_bind, Option.some_bind, Option.pure_def,
        Option.isSome_some]

/-- A `mapM` into `Option` that succeeds returns one value per input. -/
theorem length_of_mapM_eq_some {α β : Type} {f : α → Option β} {l : List α} {r : List β}
    (hl : l.mapM f = some r) : r.length = l.length := by
  simpa using congrArg List.length
    (@map_of_mapM_eq_some _ _ _ f (fun _ => ()) (fun _ => ()) (fun _ _ _ => rfl) l r hl)

/-- The result of a `mapM` into `Option` that succeeds, read at one position: what `f` gives of
the input there. -/
theorem getElem?_of_mapM_eq_some {α β : Type} {f : α → Option β} :
    ∀ {l : List α} {r : List β}, l.mapM f = some r → ∀ i : Nat, r[i]? = l[i]?.bind f
  | [], r, hl, i => by
      simp only [List.mapM_nil, Option.pure_def, Option.some.injEq] at hl
      simp [← hl]
  | a :: l, r, hl, i => by
      simp only [List.mapM_cons, Option.bind_eq_bind, Option.bind_eq_some, Option.pure_def,
        Option.some.injEq] at hl
      obtain ⟨b, hb, bs, hbs, rfl⟩ := hl
      cases i with
      | zero => simp [hb]
      | succ i => simpa using getElem?_of_mapM_eq_some hbs i

/-- A `mapM` into `Option` that succeeds on an append succeeds on the first part, with the first
values of the whole result. -/
theorem mapM_append_eq_some {α β : Type} {f : α → Option β} {l₁ l₂ : List α} {r : List β}
    (h : (l₁ ++ l₂).mapM f = some r) : l₁.mapM f = some (r.take l₁.length) := by
  simp only [List.mapM_append, Option.bind_eq_bind, Option.bind_eq_some, Option.pure_def,
    Option.some.injEq] at h
  obtain ⟨first, hfirst, rest, -, rfl⟩ := h
  rw [List.take_left' (length_of_mapM_eq_some hfirst), hfirst]

namespace TestGuardianSet

/-- The 40-byte Keccak-256 input of `TestGuardianSet::generate` for one guardian: the seed in
bytes `0..8`, the position `i as u64` in bytes `8..16`, zeros after. The crate runs on 64-bit
hosts, where `usize` and `u64` have the same values, so the position is taken as a `UInt64`. -/
def generateInput (seed i : UInt64) : Bytes 40 :=
  (u64ToLeBytes seed).append ((u64ToLeBytes i).append (Mathlib.Vector.replicate 24 0))

/-- `TestGuardianSet::generate`: guardian `i` has secret key `keccak256(seed || i)` and index
`i as u8`. A key that does not parse panics the whole generation. -/
def generate (count : Nat) (seed : UInt64) : Option (TestGuardianSet SecretKey PublicKey) :=
  TestGuardianSet.mk <$> (List.range count).mapM fun i =>
    TestGuardian.new crypto (crypto.keccak256 (generateInput seed (UInt64.ofNat i)).toList)
      (UInt8.ofNat i)

/-- `TestGuardianSet::single`. -/
def single (guardian : TestGuardian SecretKey PublicKey) : TestGuardianSet SecretKey PublicKey :=
  ⟨[guardian]⟩

/-- `TestGuardianSet::sign_vaa_body`: every guardian's record, in set order. -/
def signVaaBody (set : TestGuardianSet SecretKey PublicKey) (vaaBody : List UInt8) :
    List (Bytes 66) :=
  set.guardians.map fun g => g.signVaaBody crypto vaaBody

/-- `TestGuardianSet::sign_vaa_body_with`: the records of the guardians at the given positions,
in the order given; a position past the end is skipped. -/
def signVaaBodyWith (set : TestGuardianSet SecretKey PublicKey) (vaaBody : List UInt8)
    (indices : List UInt8) : List (Bytes 66) :=
  (indices.filterMap fun i => set.guardians[i.toNat]?).map fun g => g.signVaaBody crypto vaaBody

/-- `TestGuardianSet::eth_addresses`. -/
def ethAddresses (set : TestGuardianSet SecretKey PublicKey) : List (Bytes 20) :=
  set.guardians.map TestGuardian.ethAddress

/-- `TestGuardianSet::len`. -/
def len (set : TestGuardianSet SecretKey PublicKey) : Nat :=
  set.guardians.length

/-- `TestGuardianSet::is_empty`. -/
def isEmpty (set : TestGuardianSet SecretKey PublicKey) : Bool :=
  set.guardians.isEmpty

/-- `TestGuardianSet::get`. -/
def get (set : TestGuardianSet SecretKey PublicKey) (index : Nat) :
    Option (TestGuardian SecretKey PublicKey) :=
  set.guardians[index]?

/-- `TestGuardianSet::default`: the default guardian alone. -/
def default : Option (TestGuardianSet SecretKey PublicKey) :=
  single <$> TestGuardian.default crypto

/-- Each guardian that `generate` builds is tagged with its position cast to `u8`. -/
theorem generate_guardians_index {count : Nat} {seed : UInt64}
    {set : TestGuardianSet SecretKey PublicKey} (h : generate crypto count seed = some set) :
    set.guardians.map TestGuardian.index = (List.range count).map UInt8.ofNat := by
  simp only [generate, Option.map_eq_map, Option.map_eq_some'] at h
  obtain ⟨guardians, hmap, rfl⟩ := h
  exact map_of_mapM_eq_some (fun _ _ hnew => TestGuardian.index_of_new crypto hnew) hmap

/-- A set's records carry the index fields of its guardians, in order. -/
theorem signVaaBody_heads (set : TestGuardianSet SecretKey PublicKey) (vaaBody : List UInt8) :
    (set.signVaaBody crypto vaaBody).map Mathlib.Vector.head =
      set.guardians.map TestGuardian.index := by
  simp [signVaaBody, Function.comp_def]

/-- `generate` returns as soon as every key it derives parses. -/
theorem generate_isSome (count : Nat) (seed : UInt64) (hparse : ∀ key, (crypto.parse key).isSome) :
    (generate crypto count seed).isSome := by
  have hnew : ∀ i : Nat, (TestGuardian.new crypto (crypto.keccak256
      (generateInput seed (UInt64.ofNat i)).toList) (UInt8.ofNat i)).isSome := by
    intro i
    obtain ⟨key, hkey⟩ := Option.isSome_iff_exists.mp (hparse
      (crypto.keccak256 (generateInput seed (UInt64.ofNat i)).toList))
    simp [TestGuardian.new, hkey]
  obtain ⟨guardians, hg⟩ := Option.isSome_iff_exists.mp (mapM_isSome hnew (List.range count))
  rw [generate, hg]
  rfl

/-- Generating more guardians from one seed keeps the first ones: for `n ≤ m`, the guardians of
`generate(n, seed)` are the first `n` of `generate(m, seed)`, since guardian `i` depends only on
the seed and `i`. -/
theorem generate_prefix {n m : Nat} {seed : UInt64} {set : TestGuardianSet SecretKey PublicKey}
    (hnm : n ≤ m) (h : generate crypto m seed = some set) :
    generate crypto n seed = some ⟨set.guardians.take n⟩ := by
  simp only [generate, Option.map_eq_map, Option.map_eq_some'] at h
  obtain ⟨guardians, hmap, rfl⟩ := h
  obtain ⟨d, rfl⟩ := Nat.exists_eq_add_of_le hnm
  rw [List.range_add] at hmap
  have hfirst := mapM_append_eq_some hmap
  rw [List.length_range] at hfirst
  rw [generate, hfirst]
  rfl

/-- The one-guardian set of a seed is the first guardian of its two-guardian set. -/
theorem generate_prefix_one_two :
    ∃ set : TestGuardianSet Unit Unit, generate Crypto.trivial 2 0 = some set ∧ 1 ≤ 2 ∧
      generate Crypto.trivial 1 0 = some ⟨set.guardians.take 1⟩ := by
  obtain ⟨set, hset⟩ := Option.isSome_iff_exists.mp
    (generate_isSome Crypto.trivial 2 0 fun _ => rfl)
  exact ⟨set, hset, by decide, generate_prefix Crypto.trivial (by decide) hset⟩

/-- Signing with chosen positions selects, in the order given, the full set's records at those
positions that are in range: one record per in-range entry, each tagged with the index field of
the guardian it was taken from. -/
theorem signVaaBodyWith_eq_select (set : TestGuardianSet SecretKey PublicKey)
    (vaaBody : List UInt8) (indices : List UInt8) :
    set.signVaaBodyWith crypto vaaBody indices =
        indices.filterMap (fun i => (set.signVaaBody crypto vaaBody)[i.toNat]?) ∧
      (set.signVaaBodyWith crypto vaaBody indices).length =
        (indices.filter fun i => i.toNat < set.len).length ∧
      (set.signVaaBodyWith crypto vaaBody indices).map Mathlib.Vector.head =
        indices.filterMap fun i => set.guardians[i.toNat]?.map TestGuardian.index := by
  have hselect : set.signVaaBodyWith crypto vaaBody indices =
      indices.filterMap (fun i => (set.signVaaBody crypto vaaBody)[i.toNat]?) := by
    simp only [signVaaBodyWith, signVaaBody, List.map_filterMap, List.getElem?_map]
  refine ⟨hselect, ?_, ?_⟩
  · rw [hselect, List.length_filterMap_eq_countP, List.countP_eq_length_filter]
    congr 1
    refine List.filter_congr fun i _ => ?_
    by_cases hi : i.toNat < set.guardians.length
    · simp [signVaaBody, len, hi]
    · simp [signVaaBody, len, hi, List.getElem?_eq_none (Nat.le_of_not_lt hi)]
  · simp [signVaaBodyWith, List.map_filterMap, Option.map_map, Function.comp_def]

/-- `u8` casts of distinct positions below 256 differ. -/
theorem nodup_range_map_ofNat {count : Nat} (hcount : count ≤ 256) :
    ((List.range count).map UInt8.ofNat).Nodup := by
  refine (List.nodup_range count).map_on fun x hx y hy hxy => ?_
  have hx' := List.mem_range.mp hx
  have hy' := List.mem_range.mp hy
  have : x % 256 = y % 256 := congrArg UInt8.toNat hxy
  omega

/-- In a generated set the guardian at position `i` has index `i as u8`, so the records of the
whole set carry the tags `0, 1, ...` modulo 256, in order, and they are pairwise distinct when the
set has at most 256 guardians. -/
theorem generate_signVaaBody_tags {count : Nat} {seed : UInt64}
    {set : TestGuardianSet SecretKey PublicKey} (h : generate crypto count seed = some set)
    (vaaBody : List UInt8) :
    set.guardians.map TestGuardian.index = (List.range count).map UInt8.ofNat ∧
      (set.signVaaBody crypto vaaBody).map Mathlib.Vector.head =
        (List.range count).map UInt8.ofNat ∧
      (count ≤ 256 → ((set.signVaaBody crypto vaaBody).map Mathlib.Vector.head).Nodup) := by
  have hindex := generate_guardians_index crypto h
  rw [signVaaBody_heads, hindex]
  exact ⟨rfl, rfl, nodup_range_map_ofNat⟩

/-- The two-guardian set of the trivial crypto interface is tagged `0, 1`. -/
theorem generate_signVaaBody_tags_two :
    ∃ set : TestGuardianSet Unit Unit, generate Crypto.trivial 2 0 = some set ∧
      (set.guardians.map TestGuardian.index = (List.range 2).map UInt8.ofNat ∧
        (set.signVaaBody Crypto.trivial []).map Mathlib.Vector.head =
          (List.range 2).map UInt8.ofNat ∧
        (2 ≤ 256 → ((set.signVaaBody Crypto.trivial []).map Mathlib.Vector.head).Nodup)) := by
  obtain ⟨set, hset⟩ := Option.isSome_iff_exists.mp
    (generate_isSome Crypto.trivial 2 0 fun _ => rfl)
  exact ⟨set, hset, generate_signVaaBody_tags Crypto.trivial hset []⟩

/-- With 257 guardians, the last one is tagged 0 like the first: the tag is not the position. -/
theorem generate_index_wraps :
    ¬ ∀ (count : Nat) (seed : UInt64) (set : TestGuardianSet Unit Unit),
      generate Crypto.trivial count seed = some set →
        ∀ i < count, set.guardians[i]?.map (fun g => g.index.toNat) = some i := by
  intro hindexIsPosition
  obtain ⟨set, hset⟩ := Option.isSome_iff_exists.mp
    (generate_isSome Crypto.trivial 257 0 fun _ => rfl)
  have hindex := congrArg (fun l => l[256]?) (generate_guardians_index Crypto.trivial hset)
  have hlast : (set.guardians[256]?.map TestGuardian.index).map UInt8.toNat = some 256 := by
    rw [Option.map_map]
    exact hindexIsPosition 257 0 set hset 256 (by omega)
  simp only [List.getElem?_map, List.getElem?_range (show 256 < 257 by omega)] at hindex
  rw [hindex] at hlast
  exact absurd hlast (by decide)

/-- Guardian `i` of a generated set is the one `new` builds, at index `i as u8`, from the hash of
the input of the seed and `i as u64`. -/
theorem getElem?_guardians_of_generate {count : Nat} {seed : UInt64}
    {set : TestGuardianSet SecretKey PublicKey} (h : generate crypto count seed = some set)
    {i : Nat} (hi : i < count) :
    set.guardians[i]? = TestGuardian.new crypto
      (crypto.keccak256 (generateInput seed (UInt64.ofNat i)).toList) (UInt8.ofNat i) := by
  simp only [generate, Option.map_eq_map, Option.map_eq_some'] at h
  obtain ⟨guardians, hmap, rfl⟩ := h
  rw [getElem?_of_mapM_eq_some hmap i, List.getElem?_range hi, Option.some_bind]

/-- `u64` casts of positions below `2 ^ 64`, the range of `usize`, differ where the positions do. -/
theorem ofNat_inj_of_lt {i i' : Nat} (hi : i < 2 ^ 64) (hi' : i' < 2 ^ 64)
    (h : UInt64.ofNat i = UInt64.ofNat i') : i = i' := by
  have hmod : i % 2 ^ 64 = i' % 2 ^ 64 := congrArg UInt64.toNat h
  rwa [Nat.mod_eq_of_lt hi, Nat.mod_eq_of_lt hi'] at hmod

/-- The 40-byte input determines the seed and the position it was laid out from. -/
theorem generateInput_eq_iff (seed seed' i i' : UInt64) :
    generateInput seed i = generateInput seed' i' ↔ seed = seed' ∧ i = i' := by
  refine ⟨fun h => ?_, fun ⟨hs, hi⟩ => hs ▸ hi ▸ rfl⟩
  have hlist := congrArg Mathlib.Vector.toList h
  simp only [generateInput, Mathlib.Vector.toList_append] at hlist
  obtain ⟨hseed, hrest⟩ := List.append_inj hlist (by simp)
  obtain ⟨hpos, -⟩ := List.append_inj hrest (by simp)
  exact ⟨u64ToLeBytes_injective (Subtype.ext hseed), u64ToLeBytes_injective (Subtype.ext hpos)⟩

/-- The Keccak-256 inputs of `generate` determine the seed and the position. So in every set
`generate(count, seed)` with `count` a `usize`, guardian `i` is built from the hash of the input
of the seed and `i`, and that input is the input of no other guardian of the set, nor of any
guardian generated from another seed. -/
theorem generateInput_inj :
    (∀ seed seed' i i' : UInt64,
        generateInput seed i = generateInput seed' i' ↔ seed = seed' ∧ i = i') ∧
      ∀ (count : Nat) (seed : UInt64) (set : TestGuardianSet SecretKey PublicKey),
        count ≤ 2 ^ 64 → generate crypto count seed = some set →
        ∀ i < count, set.guardians[i]? = TestGuardian.new crypto
            (crypto.keccak256 (generateInput seed (UInt64.ofNat i)).toList) (UInt8.ofNat i) ∧
          ∀ (seed' : UInt64) (i' : Nat), i' < 2 ^ 64 →
            (generateInput seed (UInt64.ofNat i) = generateInput seed' (UInt64.ofNat i') ↔
              seed = seed' ∧ i = i') :=
  ⟨generateInput_eq_iff, fun _ _ _ hcount h i hi => ⟨getElem?_guardians_of_generate crypto h hi,
    fun _ _ hi' => (generateInput_eq_iff _ _ _ _).trans
      (and_congr_right fun _ => ⟨ofNat_inj_of_lt (by omega) hi', fun h => h ▸ rfl⟩)⟩⟩

end TestGuardianSet

end

end WormholeSvmTest
