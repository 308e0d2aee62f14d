import AuthServer.Crypto.Sha256
import AuthServer.Encoding.Der

/-!
Keys of RSA and signatures with SHA-256 in the padding of PKCS #1 version 1.5.
-/

namespace AuthServer.Rsa

structure PublicKey where
  modulus : Nat
  exponent : Nat
deriving DecidableEq, Repr

structure PrivateKey where
  publicKey : PublicKey
  secret : Nat
  firstPrime : Nat
  secondPrime : Nat
deriving DecidableEq, Repr

/-! ## Which keys are accepted -/

def maxBits : Nat := 4096

def PublicKey.isValid (key : PublicKey) : Bool :=
  key.modulus < Nat.pow 2 maxBits && key.modulus % 2 == 1 && key.exponent < key.modulus &&
    2 ≤ key.exponent && key.exponent < 0x200000000 && key.exponent % 2 == 1

/-- A private key's primes make up the modulus, and its two exponents undo each other. -/
def PrivateKey.isValid (key : PrivateKey) : Bool :=
  key.publicKey.isValid && 1 < key.firstPrime && 1 < key.secondPrime &&
    key.firstPrime * key.secondPrime == key.publicKey.modulus &&
    key.secret * key.publicKey.exponent % (key.firstPrime - 1) == 1 % (key.firstPrime - 1) &&
    key.secret * key.publicKey.exponent % (key.secondPrime - 1) == 1 % (key.secondPrime - 1)

/-! ## The forms in which keys are stored -/

/-- The identifier of RSA keys, 1.2.840.113549.1.1.1. -/
def identifier : List UInt8 := [0x2A, 0x86, 0x48, 0x86, 0xF7, 0x0D, 0x01, 0x01, 0x01]

/-- Read the name of the algorithm, which must be RSA without parameters. -/
def readAlgorithm (bytes : List UInt8) : Option (List UInt8) := do
  let (algorithm, rest) ← Der.read Der.sequenceTag bytes
  let (name, parameters) ← Der.read Der.identifierTag algorithm
  guard (name = identifier)
  let none ← Der.readWhole Der.nullTag parameters
  guard none.isEmpty
  return rest

def PublicKey.ofPkcs1 (bytes : List UInt8) : Option PublicKey := do
  let contents ← Der.readWhole Der.sequenceTag bytes
  match ← Der.readUnsigneds 2 contents with
  | ([modulus, exponent], []) =>
      let key : PublicKey := ⟨modulus, exponent⟩
      guard key.isValid
      return key
  | _ => none

def PublicKey.ofSpki (bytes : List UInt8) : Option PublicKey := do
  let contents ← Der.readWhole Der.sequenceTag bytes
  let rest ← readAlgorithm contents
  let bits ← Der.readWhole Der.bitStringTag rest
  PublicKey.ofPkcs1 (← Der.wholeBits bits)

/-- A private key from its own form: the version for two primes, and the numbers of the key, of
which the last three are not needed. -/
def PrivateKey.ofPkcs1 (bytes : List UInt8) : Option PrivateKey := do
  let contents ← Der.readWhole Der.sequenceTag bytes
  match ← Der.readUnsigneds 9 contents with
  | ([0, modulus, exponent, secret, firstPrime, secondPrime, _, _, _], []) =>
      let key : PrivateKey := ⟨⟨modulus, exponent⟩, secret, firstPrime, secondPrime⟩
      guard key.isValid
      return key
  | _ => none

/-- Pass over the attributes of a stored private key, up to its public half. -/
def skipAttributes : (fuel : Nat) → List UInt8 → Option (List UInt8)
  | fuel + 1, byte :: rest =>
      if 0x80 ≤ byte ∧ byte < 0xC0 ∧ byte.toNat % 32 < 1 then do
        let (_, _, rest) ← Der.readAny (byte :: rest)
        skipAttributes fuel rest
      else some (byte :: rest)
  | _, bytes => some bytes

/-- Whether the rest of a stored private key consists of tagged elements with one element each. -/
def extrasAreValid : (fuel : Nat) → List UInt8 → Bool
  | fuel + 1, bytes =>
      match Der.readAny bytes with
      | none => bytes.isEmpty
      | some (tag, contents, rest) =>
          let isSingle := (Der.readAny contents).any fun (_, _, after) => after.isEmpty
          0xA0 ≤ tag && tag < 0xC0 && isSingle && extrasAreValid fuel rest
  | 0, bytes => bytes.isEmpty

def publicHalfTag : UInt8 := 0x81

/-- Pass over the public half of a stored private key, which is there exactly in version 1. -/
def skipPublicHalf (version : Nat) (bytes : List UInt8) : Option (List UInt8) :=
  match bytes with
  | [] => if version = 0 then some [] else none
  | tag :: _ =>
      if tag = publicHalfTag then do
        let (bits, rest) ← Der.read publicHalfTag bytes
        let _ ← Der.wholeBits bits
        guard (version = 1)
        return rest
      else if tag = 0xA1 then none
      else if version = 0 then some bytes
      else none

def PrivateKey.ofPkcs8 (bytes : List UInt8) : Option PrivateKey := do
  let contents ← Der.readWhole Der.sequenceTag bytes
  let (version, rest) ← Der.readUnsigned contents
  guard (version ≤ 1)
  let rest ← readAlgorithm rest
  let (key, rest) ← Der.read Der.octetStringTag rest
  let rest ← skipAttributes rest.length rest
  let rest ← skipPublicHalf version rest
  guard (extrasAreValid rest.length rest)
  PrivateKey.ofPkcs1 key

/-! ## Signatures -/

def powMod (base exponent modulus : Nat) : Nat :=
  go (exponent.log2 + 1) (base % modulus) exponent (1 % modulus)
where
  /-- Multiply `result` by a power of `base`, for an exponent of at most `fuel` bits. -/
  go : Nat → Nat → Nat → Nat → Nat
    | 0, _, _, result => result
    | fuel + 1, base, exponent, result =>
        go fuel (base * base % modulus) (exponent / 2)
          (if exponent % 2 = 1 then result * base % modulus else result)

def byteLength (value : Nat) : Nat :=
  if value = 0 then 0 else value.log2 / 8 + 1

def toBytes (value count : Nat) : List UInt8 :=
  (List.range count).map fun place => UInt8.ofNat (value / Nat.pow 256 (count - 1 - place))

def PublicKey.size (key : PublicKey) : Nat := byteLength key.modulus

/-- What a signed hash starts with: the name of the hash function and the length of the hash. -/
def hashHeader : List UInt8 := [
  0x30, 0x31, 0x30, 0x0d, 0x06, 0x09, 0x60, 0x86, 0x48, 0x01, 0x65, 0x03, 0x04, 0x02, 0x01, 0x05,
  0x00, 0x04, 0x20]

def paddedHash (message : List UInt8) (size : Nat) : Option (List UInt8) :=
  let content := hashHeader ++ Sha256.hash message
  if content.length + 11 ≤ size then
    some (0 :: 1 :: List.replicate (size - content.length - 3) 0xFF ++ 0 :: content)
  else none

def PrivateKey.sign (key : PrivateKey) (message : List UInt8) : Option (List UInt8) :=
  (paddedHash message key.publicKey.size).map fun padded =>
    toBytes (powMod (Der.number padded) key.secret key.publicKey.modulus) key.publicKey.size

def PublicKey.verify (key : PublicKey) (message signature : List UInt8) : Bool :=
  let value := Der.number signature
  signature.length == key.size && value < key.modulus &&
    paddedHash message key.size ==
      some (toBytes (powMod value key.exponent key.modulus) key.size)

end AuthServer.Rsa
