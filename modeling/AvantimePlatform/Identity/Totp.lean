import AvantimePlatform.Lib.Checked
import AvantimePlatform.Lib.Text

/-!
# One-time codes

The code of `mfa.ts`: the base32 secrets, the code at a counter, the window in which a
code is accepted, and the form in which recovery codes are compared.

The digests of `node:crypto` and the decryption of a stored secret are parameters, in
`MfaCrypto`.  A digest of `createHmac('sha1')` is 20 bytes.
-/

namespace AvantimePlatform.Identity

open AvantimePlatform AvantimePlatform.Checked

/-- What `mfa.ts` takes from `node:crypto` and the key of the environment. -/
structure MfaCrypto where
  hmacSha1 : List UInt8 → List UInt8 → List UInt8
  sha256Hex : String → String
  /-- `decryptTotpSecret`; it throws on what it cannot decrypt. -/
  decryptTotpSecret : String → Except String String

/-! ## The code at a counter -/

def base32Alphabet : List Char := "ABCDEFGHIJKLMNOPQRSTUVWXYZ234567".toList

/-- The text that `base32Decode` reads: upper case, without `=` at the end and without
white space. -/
def base32Normalize (value : String) : List Char :=
  ((value.toUpper.toList.reverse.dropWhile (· == '=')).reverse).filter fun c => !Text.isBlank c

/-- The loop of `base32Decode`.  The accumulator is a 32-bit integer that is shifted. -/
def base32Loop : List Char → Nat → Nat → Except String (List UInt8)
  | [], _, _ => .ok []
  | c :: cs, accumulator, bits => do
    require (c ∈ base32Alphabet) "TOTP secret is invalid."
    let accumulator := accumulator * 32 % 2 ^ 32 + base32Alphabet.idxOf c
    let bits := bits + 5
    if 8 ≤ bits then
      let rest ← base32Loop cs accumulator (bits - 8)
      return UInt8.ofNat (accumulator / 2 ^ (bits - 8) % 256) :: rest
    else base32Loop cs accumulator bits

/-- `base32Decode`. -/
def base32Decode (value : String) : Except String (List UInt8) :=
  base32Loop (base32Normalize value) 0 0

/-- `writeBigUInt64BE`. -/
def counterBytes (counter : Nat) : List UInt8 :=
  (List.range 8).map fun i => UInt8.ofNat (counter / 256 ^ (7 - i) % 256)

def totpPeriodSeconds : Int := 30

def totpDigits : Nat := 6

/-- `String(value).padStart(TOTP_DIGITS, '0')`. -/
def padDigits (value : Nat) : String :=
  String.ofList (List.leftpad totpDigits '0' (Nat.repr value).toList)

/-- The truncation of a digest. -/
def truncateDigest (digest : List UInt8) : Nat :=
  let byte := fun i => (digest.getD i 0).toNat
  let offset := (digest.getLastD 0).toNat % 16
  (byte offset % 128) * 2 ^ 24 + byte (offset + 1) * 2 ^ 16 + byte (offset + 2) * 2 ^ 8 +
    byte (offset + 3)

/-- `totpAtCounter`. -/
def totpAtCounter (crypto : MfaCrypto) (secret : String) (counter : Int) : Except String String := do
  require (0 ≤ counter ∧ counter ≤ 2 ^ 53 - 1) "TOTP counter is invalid."
  let key ← base32Decode secret
  let digest := crypto.hmacSha1 key (counterBytes counter.toNat)
  return padDigits (truncateDigest digest % 10 ^ totpDigits)

/-! ## The window -/

/-- `/^\d{6}$/u`. -/
def isTotpCode (otp : String) : Bool :=
  otp.toList.length = totpDigits && otp.toList.all Char.isDigit

def totpAllowedSkew : Int := 1

/-- The loop of `verifyTotp` over the counters of the window. -/
def verifyTotpLoop (crypto : MfaCrypto) (secret otp : String) (lastUsedCounter : Option Int) :
    List Int → Except String (Option Int)
  | [] => .ok none
  | counter :: rest =>
    if counter < 0 ∨ counter ≤ lastUsedCounter.getD (-1) then
      verifyTotpLoop crypto secret otp lastUsedCounter rest
    else do
      let expected ← totpAtCounter crypto secret counter
      if expected = otp then return some counter
      else verifyTotpLoop crypto secret otp lastUsedCounter rest

/-- `verifyTotp`: the counter that the code is valid at, if any. -/
def verifyTotp (crypto : MfaCrypto) (secret otp : String) (now : Int)
    (lastUsedCounter : Option Int) : Except String (Option Int) :=
  if isTotpCode otp then
    let nowCounter := now / 1000 / totpPeriodSeconds
    verifyTotpLoop crypto secret otp lastUsedCounter
      [nowCounter - totpAllowedSkew, nowCounter, nowCounter + totpAllowedSkew]
  else .ok none

theorem verifyTotpLoop_eq_some {crypto : MfaCrypto} {secret otp : String}
    {lastUsedCounter : Option Int} {counters : List Int} {counter : Int}
    (h : verifyTotpLoop crypto secret otp lastUsedCounter counters = .ok (some counter)) :
    counter ∈ counters ∧ 0 ≤ counter ∧ lastUsedCounter.getD (-1) < counter ∧
      totpAtCounter crypto secret counter = .ok otp := by
  induction counters with
  | nil => cases h
  | cons head rest ih =>
      unfold verifyTotpLoop at h
      split at h
      · obtain ⟨hmem, hrest⟩ := ih h
        exact ⟨List.mem_cons_of_mem _ hmem, hrest⟩
      · next hfits =>
        push Not at hfits
        obtain ⟨expected, hexpected, h⟩ := bind_eq_ok.mp h
        split at h
        · next hotp =>
          have hcounter : head = counter := Option.some.inj (Except.ok.inj h)
          rw [← hcounter, hexpected, hotp]
          exact ⟨List.mem_cons_self, hfits.1, hfits.2, rfl⟩
        · obtain ⟨hmem, hrest⟩ := ih h
          exact ⟨List.mem_cons_of_mem _ hmem, hrest⟩

/-- A valid code is the one at a counter of the window that was not used before. -/
theorem verifyTotp_eq_some {crypto : MfaCrypto} {secret otp : String} {now : Int}
    {lastUsedCounter : Option Int} {counter : Int}
    (h : verifyTotp crypto secret otp now lastUsedCounter = .ok (some counter)) :
    isTotpCode otp = true ∧ |counter - now / 1000 / totpPeriodSeconds| ≤ totpAllowedSkew ∧
      0 ≤ counter ∧ lastUsedCounter.getD (-1) < counter ∧
      totpAtCounter crypto secret counter = .ok otp := by
  unfold verifyTotp at h
  split at h
  · next hcode =>
    obtain ⟨hmem, hrest⟩ := verifyTotpLoop_eq_some h
    refine ⟨hcode, ?_, hrest⟩
    simp only [List.mem_cons, List.not_mem_nil, or_false] at hmem
    rw [abs_le]
    unfold totpAllowedSkew at hmem ⊢
    omega
  · cases h

/-! ## Recovery codes -/

/-- `normalizeRecoveryCode`. -/
def normalizeRecoveryCode (value : String) : String :=
  (String.ofList (value.toList.filter Char.isAlphanum)).toUpper

/-- `hashRecoveryCode`. -/
def hashRecoveryCode (crypto : MfaCrypto) (value : String) : String :=
  crypto.sha256Hex (normalizeRecoveryCode value)

end AvantimePlatform.Identity
