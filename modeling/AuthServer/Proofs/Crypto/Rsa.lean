import AuthServer.Crypto.Rsa
import Mathlib.FieldTheory.Finite.Basic
import Mathlib.NumberTheory.LucasLehmer
import Mathlib.Tactic.Ring

/-!
A signature made with a private key is genuine for its public half, provided that the two factors of
the modulus are different primes. That a key's numbers pass the checks for its acceptance does not
show that the factors are prime.
-/

namespace AuthServer.Rsa

/-! ## Powers -/

private theorem go_eq (fuel base exponent result modulus : Nat) (bits : exponent < 2 ^ fuel)
    (reduced : result < modulus) :
    powMod.go modulus fuel base exponent result = result * base ^ exponent % modulus := by
  induction fuel generalizing base exponent result with
  | zero =>
      have none : exponent = 0 := by omega
      rw [powMod.go, none, pow_zero, Nat.mul_one, Nat.mod_eq_of_lt reduced]
  | succ fuel induction =>
      have fewer : exponent / 2 < 2 ^ fuel := by omega
      have square : ∀ factor, factor * (base * base % modulus) ^ (exponent / 2) ≡
          factor * base ^ (2 * (exponent / 2)) [MOD modulus] := by
        intro factor
        rw [pow_mul, pow_two]
        exact ((Nat.mod_modEq _ _).pow _).mul_left factor
      have positive : 0 < modulus := by omega
      rw [powMod.go]
      rcases Nat.mod_two_eq_zero_or_one exponent with even | odd
      · rw [if_neg (by omega), induction _ _ _ fewer reduced, square result,
          show 2 * (exponent / 2) = exponent by omega]
      · rw [if_pos odd, induction _ _ _ fewer (Nat.mod_lt _ positive), square]
        have step := (Nat.mod_modEq (result * base) modulus).mul_right (base ^ (2 * (exponent / 2)))
        rw [step, Nat.mul_assoc, ← pow_succ', show 2 * (exponent / 2) + 1 = exponent by omega]

theorem powMod_eq (base exponent : Nat) {modulus : Nat} (large : 1 < modulus) :
    powMod base exponent modulus = base ^ exponent % modulus := by
  rw [powMod, go_eq _ _ _ _ _ Nat.lt_log2_self (Nat.mod_lt _ (by omega)), Nat.mod_eq_of_lt large,
    Nat.one_mul, ← Nat.pow_mod]

/-- An exponent that is one modulo `prime - 1` changes nothing modulo the prime. -/
private theorem pow_modEq_self {prime exponent : Nat} (isPrime : prime.Prime)
    (one : exponent % (prime - 1) = 1 % (prime - 1)) (positive : 0 < exponent) (base : Nat) :
    base ^ exponent ≡ base [MOD prime] := by
  have : Fact prime.Prime := ⟨isPrime⟩
  rw [← ZMod.natCast_eq_natCast_iff, Nat.cast_pow]
  by_cases zero : (base : ZMod prime) = 0
  · rw [zero, zero_pow (by omega)]
  · have divides : prime - 1 ∣ exponent - 1 := (Nat.modEq_iff_dvd' positive).mp (Eq.symm one)
    rcases divides with ⟨times, equal⟩
    have split : exponent = (prime - 1) * times + 1 := by omega
    rw [split, pow_succ, pow_mul, ZMod.pow_card_sub_one_eq_one zero, one_pow, one_mul]

/-- A private key that does what it is for: its numbers fit, and its factors are two primes. -/
structure PrivateKey.IsSound (key : PrivateKey) : Prop where
  valid : key.isValid = true
  firstPrime : key.firstPrime.Prime
  secondPrime : key.secondPrime.Prime
  distinct : key.firstPrime ≠ key.secondPrime

namespace PrivateKey.IsSound

variable {key : PrivateKey}

theorem pow_pow_modEq (sound : key.IsSound) (base : Nat) :
    (base ^ key.secret) ^ key.publicKey.exponent ≡ base [MOD key.publicKey.modulus] := by
  have valid := sound.valid
  simp only [isValid, Bool.and_eq_true, decide_eq_true_eq, beq_iff_eq] at valid
  rcases valid with ⟨⟨⟨⟨⟨isPublic, _⟩, _⟩, modulus⟩, first⟩, second⟩
  have coprime := (Nat.coprime_primes sound.firstPrime sound.secondPrime).mpr sound.distinct
  have positive : 0 < key.secret * key.publicKey.exponent := by
    simp only [PublicKey.isValid, Bool.and_eq_true, decide_eq_true_eq, beq_iff_eq] at isPublic
    have odd := isPublic.1.1.1.1.2
    have notTwo : key.firstPrime ≠ 2 := fun two => by rw [← modulus, two] at odd; omega
    have least := sound.firstPrime.two_le
    apply Nat.pos_of_ne_zero
    intro zero
    rw [zero, Nat.zero_mod, Nat.mod_eq_of_lt (by omega)] at first
    omega
  rw [← pow_mul, ← modulus, ← Nat.modEq_and_modEq_iff_modEq_mul coprime]
  exact ⟨pow_modEq_self sound.firstPrime first positive base,
    pow_modEq_self sound.secondPrime second positive base⟩

end PrivateKey.IsSound

/-! ## Numbers as bytes -/

theorem number_append (bytes : List UInt8) (byte : UInt8) :
    Der.number (bytes ++ [byte]) = Der.number bytes * 256 + byte.toNat := by
  simp [Der.number]

theorem number_zero_cons (bytes : List UInt8) : Der.number (0 :: bytes) = Der.number bytes := by
  simp [Der.number]

theorem number_lt (bytes : List UInt8) : Der.number bytes < 256 ^ bytes.length := by
  induction bytes using List.reverseRecOn with
  | nil => simp [Der.number]
  | append_singleton bytes byte induction =>
      have small := byte.toNat_lt
      rw [number_append, List.length_append, List.length_singleton, pow_succ]
      omega

theorem toBytes_succ (value count : Nat) :
    toBytes value (count + 1) = toBytes (value / 256) count ++ [UInt8.ofNat value] := by
  rw [toBytes, List.range_succ, List.map_append, toBytes]
  congr 1
  · apply List.map_congr_left
    intro place member
    rw [List.mem_range] at member
    have power : Nat.pow 256 (count + 1 - 1 - place) = 256 * Nat.pow 256 (count - 1 - place) := by
      rw [show count + 1 - 1 - place = count - 1 - place + 1 by omega]
      exact pow_succ' 256 _
    rw [power, Nat.div_div_eq_div_mul]
  · simp

@[simp] theorem length_toBytes (value count : Nat) : (toBytes value count).length = count := by
  simp [toBytes]

theorem number_toBytes (value count : Nat) (fits : value < 256 ^ count) :
    Der.number (toBytes value count) = value := by
  induction count generalizing value with
  | zero =>
      have zero : value = 0 := by omega
      rw [zero]
      rfl
  | succ count induction =>
      rw [toBytes_succ, number_append, induction (value / 256) (by rw [pow_succ] at fits; omega),
        UInt8.toNat_ofNat']
      omega

theorem toBytes_number (bytes : List UInt8) : toBytes (Der.number bytes) bytes.length = bytes := by
  induction bytes using List.reverseRecOn with
  | nil => rfl
  | append_singleton bytes byte induction =>
      have small := byte.toNat_lt
      rw [List.length_append, List.length_singleton, toBytes_succ, number_append,
        show (Der.number bytes * 256 + byte.toNat) / 256 = Der.number bytes by omega, induction]
      congr 2
      apply UInt8.toNat.inj
      rw [UInt8.toNat_ofNat']
      omega

theorem pow_byteLength (value : Nat) (positive : 0 < value) :
    256 ^ (byteLength value - 1) ≤ value ∧ value < 256 ^ byteLength value := by
  have lower := Nat.log2_self_le (Nat.pos_iff_ne_zero.mp positive)
  have upper : value < 2 ^ (value.log2 + 1) := Nat.lt_log2_self
  rw [byteLength, if_neg (by omega), Nat.add_sub_cancel, show 256 = 2 ^ 8 by rfl, ← pow_mul,
    ← pow_mul]
  constructor
  · exact (Nat.pow_le_pow_right (by omega) (by omega)).trans lower
  · exact upper.trans_le (Nat.pow_le_pow_right (by omega) (by omega))

/-! ## Signatures -/

theorem length_hash (message : List UInt8) : (Sha256.hash message).length = 32 := by
  simp [Sha256.hash, Sha256.wordBytes]

/-- A padded hash has a leading zero, so that it stands for a number below the modulus. -/
theorem of_paddedHash {message padded : List UInt8} {size : Nat}
    (hash : paddedHash message size = some padded) :
    padded.length = size ∧ Der.number padded < 256 ^ (size - 1) := by
  have content : (hashHeader ++ Sha256.hash message).length = 51 := by
    simp [length_hash, hashHeader]
  simp only [paddedHash, content] at hash
  split at hash
  · simp only [Option.some.injEq] at hash
    subst hash
    have length : (1 :: List.replicate (size - 51 - 3) 0xFF ++
        0 :: (hashHeader ++ Sha256.hash message) : List UInt8).length = size - 1 := by
      rw [List.length_append, List.length_cons, List.length_cons, content]
      simp only [List.length_replicate]
      omega
    constructor
    · rw [List.cons_append, List.length_cons, length]
      omega
    · rw [← length, List.cons_append, number_zero_cons]
      exact number_lt _
  · cases hash

theorem PrivateKey.isSome_sign (key : PrivateKey) (size : 62 ≤ key.publicKey.size)
    (message : List UInt8) : (key.sign message).isSome := by
  simp [PrivateKey.sign, paddedHash, length_hash, hashHeader, size]

/-- The public half of a sound key accepts what the private half signed. -/
theorem PrivateKey.IsSound.verify_sign {key : PrivateKey} (sound : key.IsSound)
    {message signature : List UInt8} (signed : key.sign message = some signature) :
    key.publicKey.verify message signature = true := by
  have valid := sound.valid
  simp only [PrivateKey.isValid, PublicKey.isValid, Bool.and_eq_true, decide_eq_true_eq] at valid
  have large : 1 < key.publicKey.modulus := by omega
  rcases pow_byteLength key.publicKey.modulus (by omega) with ⟨lower, upper⟩
  unfold PrivateKey.sign at signed
  cases hash : paddedHash message key.publicKey.size with
  | none => simp [hash] at signed
  | some padded =>
      simp only [hash, Option.map_some, Option.some.injEq] at signed
      subst signed
      rcases of_paddedHash hash with ⟨length, small⟩
      have reduced : Der.number padded < key.publicKey.modulus := small.trans_le lower
      have powered := Nat.mod_lt (Der.number padded ^ key.secret) (Nat.zero_lt_of_lt large)
      have value : Der.number (toBytes (powMod (Der.number padded) key.secret
          key.publicKey.modulus) key.publicKey.size) =
          Der.number padded ^ key.secret % key.publicKey.modulus := by
        rw [powMod_eq _ _ large, number_toBytes]
        exact powered.trans upper
      have restored : powMod (Der.number padded ^ key.secret % key.publicKey.modulus)
          key.publicKey.exponent key.publicKey.modulus = Der.number padded := by
        rw [powMod_eq _ _ large, ← Nat.pow_mod, sound.pow_pow_modEq]
        exact Nat.mod_eq_of_lt reduced
      unfold PublicKey.verify
      simp only [value, restored, hash]
      rw [← length, toBytes_number]
      simp [powered]

/-! ## A key -/

/-- A key of 81 bytes whose factors are Mersenne primes, for which primality is quickly shown. -/
def mersenneKey : PrivateKey where
  publicKey := ⟨(2 ^ 521 - 1) * (2 ^ 127 - 1), 65537⟩
  secret :=
    0x2a7fd5802a7fd5802a7fd5802a7fd57f80807f7f80807f7f80807f7f80807f7f80807f7f80807f7f80 * 2 ^ 320 +
      0x807f7f80807f7f80807f7f80807f7f80807f7f80807f7f8055ffaa0055ffaa0055ffaa0055ffaa01
  firstPrime := 2 ^ 521 - 1
  secondPrime := 2 ^ 127 - 1

theorem isSound_mersenneKey : mersenneKey.IsSound where
  valid := by decide +kernel
  firstPrime := lucas_lehmer_sufficiency 521 (by norm_num) (by norm_num)
  secondPrime := lucas_lehmer_sufficiency 127 (by norm_num) (by norm_num)
  distinct := by decide +kernel

theorem size_mersenneKey : mersenneKey.publicKey.size = 81 := by
  decide +kernel

end AuthServer.Rsa
