import Mathlib

/-!
# Text

`String.prototype.trim`, `length`, `slice` and `toLowerCase`, and the small facts about
them that the readers of stored text use.  Lower-casing is that of the ASCII letters.

Nothing here names a component of the platform.
-/

namespace AvantimePlatform.Text

/-- The code points that `trim` removes: white space and line terminators. -/
def blankCodes : List Nat :=
  [9, 10, 11, 12, 13, 32, 160, 5760, 8192, 8193, 8194, 8195, 8196, 8197, 8198, 8199, 8200, 8201,
   8202, 8232, 8233, 8239, 8287, 12288, 65279]

def isBlank (c : Char) : Bool := blankCodes.contains c.toNat

/-- `value.trim()`. -/
def trim (value : String) : String :=
  String.ofList ((value.toList.dropWhile isBlank).reverse.dropWhile isBlank).reverse

/-- A string has no surrounding blanks when `trim` leaves it as it is. -/
def Trimmed (value : String) : Prop := trim value = value

instance (value : String) : Decidable (Trimmed value) :=
  inferInstanceAs (Decidable (_ = _))

@[simp] theorem trim_empty : trim "" = "" := by
  simp [trim]

/-- The number of UTF-16 units of a string, its `length`. -/
def utf16Length (value : String) : Nat :=
  (value.toList.map fun c => if c.toNat < 65536 then 1 else 2).sum

/-- `value.slice(0, n)`.  Half of a surrogate pair is stored as a replacement character. -/
def sliceUnits : Nat → List Char → List Char
  | 0, _ => []
  | _, [] => []
  | 1, c :: _ => if c.toNat < 65536 then [c] else [Char.ofNat 65533]
  | n + 2, c :: rest =>
    if c.toNat < 65536 then c :: sliceUnits (n + 1) rest else c :: sliceUnits n rest

/-- Characters of one unit at the front are kept one by one. -/
theorem sliceUnits_append (n : Nat) {front : List Char} (hfront : ∀ c ∈ front, c.toNat < 65536)
    (rest : List Char) :
    sliceUnits (front.length + n) (front ++ rest) = front ++ sliceUnits n rest := by
  induction front with
  | nil => rw [List.length_nil, Nat.zero_add, List.nil_append, List.nil_append]
  | cons c front ih =>
      have hc : c.toNat < 65536 := hfront c List.mem_cons_self
      have htail := ih fun d hd => hfront d (List.mem_cons_of_mem c hd)
      rw [List.cons_append, List.cons_append, ← htail, List.length_cons]
      cases hlength : front.length + n with
      | zero =>
          have hone : front.length + 1 + n = 1 := by omega
          simp only [hone, sliceUnits, if_pos hc]
      | succ m =>
          have htwo : front.length + 1 + n = m + 2 := by omega
          simp only [htwo, sliceUnits, if_pos hc]

/-- `value.toLowerCase()`. -/
def toLowerCase (value : String) : String := String.ofList (value.toList.map Char.toLower)

end AvantimePlatform.Text
