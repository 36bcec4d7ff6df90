import AvantimePlatform.Lib.Checked
import AvantimePlatform.Lib.Text

/-!
# Passwords

The code of `password.ts`: the policy for new passwords, and the hashes they are stored as.
A stored hash is the text split at its `$`, with its numbers read.  A hash is verified by its
own version: `scrypt` with the cost it names, or the older `pbkdf2`.

The digests of `node:crypto` are parameters, in `PasswordCrypto`, as the texts that are
stored.
-/

namespace AvantimePlatform.Identity

open AvantimePlatform AvantimePlatform.Checked

/-! ## Policy -/

def passwordMinimumLength : Nat := 12

def passwordMaximumLength : Nat := 128

def scryptVersion : String := "v1"

def scryptCost : Nat := 32768

def scryptBlockSize : Nat := 8

def scryptParallelization : Nat := 1

def legacyPbkdf2MinimumIterations : Nat := 210000

/-- What `password.ts` takes from `node:crypto`, and `normalize('NFKC')`.  Two passwords do
not share a digest. -/
structure PasswordCrypto where
  scryptDigest : (password salt : String) → (cost : Nat) → String
  pbkdf2Digest : (password salt : String) → (iterations : Nat) → String
  normalizeNfkc : String → String
  scryptDigest_injective : ∀ salt a b,
    scryptDigest a salt scryptCost = scryptDigest b salt scryptCost → a = b

def commonPasswords : List String :=
  ["123456789012", "administrator", "adminadminadmin", "avantime", "password", "password1234",
   "qwertyqwerty", "letmeinletmein", "welcome12345"]

variable (crypto : PasswordCrypto)

/-- `normalizeEmail`. -/
def normalizeEmail (value : String) : String :=
  Text.toLowerCase (crypto.normalizeNfkc (Text.trim value))

/-- `value.includes(part)`. -/
def textIncludes (value part : String) : Bool :=
  value.toList.tails.any fun rest => part.toList.isPrefixOf rest

/-- `validatePasswordPolicy`. -/
def validatePasswordPolicy (password email : String) : Except String Unit := do
  require (passwordMinimumLength ≤ Text.utf16Length password)
    "Пароль должен содержать не менее 12 символов."
  require (Text.utf16Length password ≤ passwordMaximumLength)
    "Пароль должен содержать не более 128 символов."
  let normalizedPassword := Text.toLowerCase (crypto.normalizeNfkc password)
  require (normalizedPassword ∉ commonPasswords) "Выберите менее распространённый пароль."
  let normalizedEmail := normalizeEmail crypto email
  let localPart := String.ofList (normalizedEmail.toList.takeWhile (· ≠ '@'))
  require (email = "" ∨ normalizedPassword ≠ normalizedEmail ∧
      ¬(4 ≤ Text.utf16Length localPart ∧ textIncludes normalizedPassword localPart = true))
    "Пароль не должен содержать ваш email."

/-! ## Hashes -/

/-- A stored hash.  A number is `none` when it is no safe integer from 0 on. -/
inductive StoredHash where
  | scrypt (version : String) (cost blockSize parallelization : Option Nat) (salt digest : String)
  | pbkdf2 (iterations : Option Nat) (salt digest : String)
  | other (text : String)
deriving DecidableEq

structure PasswordVerification where
  valid : Bool
  needsRehash : Bool
deriving DecidableEq

/-- What a hash that cannot be verified gives. -/
def PasswordVerification.refused : PasswordVerification where
  valid := false
  needsRehash := false

/-- `hashPassword`, with the salt that it draws. -/
def hashPassword (salt password : String) : Except String StoredHash :=
  if Text.utf16Length password ≤ passwordMaximumLength then
    .ok (.scrypt scryptVersion (some scryptCost) (some scryptBlockSize) (some scryptParallelization)
      salt (crypto.scryptDigest password salt scryptCost))
  else .error "Password exceeds the configured maximum length."

/-- `verifyScrypt`. -/
def verifyScrypt (password version : String) (cost blockSize parallelization : Option Nat)
    (salt digest : String) : PasswordVerification :=
  match cost with
  | none => .refused
  | some cost =>
    if version = scryptVersion ∧ 2 ≤ cost ∧ cost ≤ scryptCost ∧ cost &&& (cost - 1) = 0 ∧
        blockSize = some scryptBlockSize ∧ parallelization = some scryptParallelization ∧
        salt ≠ "" ∧ digest ≠ "" then
      { valid := crypto.scryptDigest password salt cost = digest
        needsRehash :=
          crypto.scryptDigest password salt cost = digest && cost ≠ scryptCost }
    else .refused

/-- `verifyLegacyPbkdf2`. -/
def verifyLegacyPbkdf2 (password : String) (iterations : Option Nat) (salt digest : String) :
    PasswordVerification :=
  match iterations with
  | none => .refused
  | some iterations =>
    if legacyPbkdf2MinimumIterations ≤ iterations ∧ iterations ≤ 1000000 ∧ salt ≠ "" ∧
        digest ≠ "" then
      { valid := crypto.pbkdf2Digest password salt iterations = digest
        needsRehash := crypto.pbkdf2Digest password salt iterations = digest }
    else .refused

/-- `verifyPasswordVersioned`. -/
def verifyPasswordVersioned (password : String) (stored : StoredHash) : PasswordVerification :=
  if Text.utf16Length password ≤ passwordMaximumLength then
    match stored with
    | .scrypt version cost blockSize parallelization salt digest =>
      verifyScrypt crypto password version cost blockSize parallelization salt digest
    | .pbkdf2 iterations salt digest => verifyLegacyPbkdf2 crypto password iterations salt digest
    | .other _ => .refused
  else .refused

variable {crypto}

/-- A new hash verifies no other password than the one it was made of. -/
theorem eq_of_verify_hashPassword {salt password other : String} {stored : StoredHash}
    (hhash : hashPassword crypto salt password = .ok stored)
    (hverify : (verifyPasswordVersioned crypto other stored).valid = true) : other = password := by
  unfold hashPassword at hhash
  split at hhash
  · rw [← Except.ok.inj hhash] at hverify
    unfold verifyPasswordVersioned at hverify
    split at hverify
    · dsimp only [verifyScrypt] at hverify
      split at hverify
      · exact crypto.scryptDigest_injective salt other password (of_decide_eq_true hverify)
      · cases hverify
    · cases hverify
  · cases hhash

end AvantimePlatform.Identity
