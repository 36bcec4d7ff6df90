import Mathlib

/-!
# Identifiers, integers and dates

The checks that the document modules make on every argument: safe path segments
(`assertSafeDocumentSegment` of `document-storage.ts`), safe integers, and the
range of a JavaScript date.  An instant is the number of milliseconds since the
epoch; the ISO strings of the source are written by `toISOString` and read back
by `new Date`, so an instant stands for either.

`Uuid` is what `crypto.randomUUID()` returns.  Its value is a safe segment by
construction.
-/

namespace AvantimePlatform.Documents

/-- `Number.MAX_SAFE_INTEGER`. -/
def maxSafeInteger : Nat := 9007199254740991

/-- The last instant a JavaScript `Date` can hold. -/
def maxDate : Nat := 8640000000000000

/-- `Number.isSafeInteger(value) && value > 0`, the check on lease durations and
fencing tokens. -/
def isPositiveSafeInteger (value : Nat) : Bool :=
  0 < value && value ≤ maxSafeInteger

/-- The tail characters of `/^[a-zA-Z0-9][a-zA-Z0-9._-]{0,199}$/`. -/
def isSegmentCharacter (c : Char) : Bool :=
  c.isAlphanum || c == '.' || c == '_' || c == '-'

/-- The strings that `assertSafeDocumentSegment` accepts.  The first character is
a letter or a digit, so `.` and `..` are already excluded. -/
def isSafeDocumentSegment (value : String) : Bool :=
  match value.toList with
  | [] => false
  | c :: rest => c.isAlphanum && decide (rest.length ≤ 199) && rest.all isSegmentCharacter

/-- `assertSafeDocumentSegment`: the error names the offending field. -/
def assertSafeDocumentSegment (value label : String) : Except String Unit :=
  if isSafeDocumentSegment value then .ok () else .error (label ++ " contains an unsafe path segment.")

@[simp] theorem assertSafeDocumentSegment_eq_ok {value label : String} :
    assertSafeDocumentSegment value label = .ok () ↔ isSafeDocumentSegment value = true := by
  unfold assertSafeDocumentSegment
  split <;> simp_all

theorem ne_empty_of_safe {value : String} (h : isSafeDocumentSegment value = true) :
    value ≠ "" := by
  rintro rfl
  exact absurd h (by decide)

/-- The tenant of a call, `DocumentTenantContext`. -/
structure DocumentTenantContext where
  companyId : String
  userId : String
deriving DecidableEq

/-- `assertDocumentTenantContext`. -/
def assertDocumentTenantContext (tenant : DocumentTenantContext) : Except String Unit := do
  assertSafeDocumentSegment tenant.companyId "companyId"
  assertSafeDocumentSegment tenant.userId "userId"

/-- `new Date(ms).toISOString()`: a `RangeError` outside the range of a date. -/
def toISOString (ms : Nat) : Except String Nat :=
  if ms ≤ maxDate then .ok ms else .error "Invalid time value"

theorem toISOString_of_le {ms : Nat} (h : ms ≤ maxDate) : toISOString ms = .ok ms := by
  simp [toISOString, h]

theorem toISOString_eq_ok {ms t : Nat} (h : toISOString ms = .ok t) : t = ms ∧ ms ≤ maxDate := by
  unfold toISOString at h
  split at h
  · next hle => exact ⟨(Except.ok.inj h).symm, hle⟩
  · cases h

/-- A date string is valid when it denotes an instant in range, before or after
the epoch. -/
def isValidDate (ms : Int) : Bool :=
  decide (-(maxDate : Int) ≤ ms) && decide (ms ≤ (maxDate : Int))

/-- `parseDate`: the check on every date string that is read back. -/
def parseDate (ms : Int) (name : String) : Except String Unit :=
  if isValidDate ms then .ok () else .error (name ++ " must be a valid date.")

@[simp] theorem parseDate_eq_ok {ms : Int} {name : String} :
    parseDate ms name = .ok () ↔ isValidDate ms = true := by
  unfold parseDate
  split <;> simp_all

/-- `crypto.randomUUID()`: hexadecimal digits and dashes, hence a safe segment. -/
structure Uuid where
  val : String
  safe : isSafeDocumentSegment val = true
deriving DecidableEq

end AvantimePlatform.Documents
