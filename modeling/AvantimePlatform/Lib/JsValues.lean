import AvantimePlatform.Lib.JsonOrder
import AvantimePlatform.Lib.Text

/-!
# Values of JavaScript

Values of strings, arrays and objects over `undefined`, `null`, booleans and numbers, and
what the language does with them: reads of members, texts, `JSON.stringify` and
`JSON.parse`.  A regular expression is a test of the text it is given.

* `parse_letters`: what is read of the text of a value.
* `stringify_eq`: the text is what `JSON.stringify` writes of a value that JSON has.

`-0` is `0` here, and a string has no unpaired surrogate.  How a number is written and read
is a parameter.  Nothing here names a component of the platform.
-/

namespace AvantimePlatform

/-! ## Numbers and atoms -/

/-- What a 64-bit number that is finite can be. -/
def IsDouble (value : ℚ) : Prop :=
  ∃ digits exponent : ℤ, digits.natAbs < 2 ^ 53 ∧ -1074 ≤ exponent ∧ exponent ≤ 971 ∧
    value = digits * 2 ^ exponent

structure Double where
  value : ℚ
  isDouble : IsDouble value

theorem isDouble_one : IsDouble 1 := ⟨1, 0, by decide, by decide, by decide, by norm_num⟩

namespace Double

instance : DecidableEq Double := fun first second =>
  decidable_of_iff (first.value = second.value) <| by
    cases first
    cases second
    simp

def one : Double := ⟨1, isDouble_one⟩

/-- `Number.isSafeInteger(value)`. -/
def isSafeInteger (number : Double) : Bool :=
  number.value.den == 1 && decide (number.value.num.natAbs ≤ 9007199254740991)

end Double

inductive NonFinite where
  | nan | infinity | minusInfinity
deriving DecidableEq

inductive JsAtom where
  | undefined
  | null
  | boolean (value : Bool)
  | number (value : Double)
  | nonFinite (value : NonFinite)
deriving DecidableEq

abbrev JsValue := JsonTree JsAtom

/-- `Number::toString`, and how `JSON.parse` reads a number: one that is too large is
infinite. -/
structure NumberFormat where
  numberText : Double → List Char
  readNumber : List Char → Option JsAtom

/-- A finite number is written with a digit or a minus in front and is read back. -/
structure NumberFormat.Lawful (format : NumberFormat) : Prop where
  read_text (value : Double) : format.readNumber (format.numberText value) = some (.number value)
  head (value : Double) : ∃ c rest, format.numberText value = c :: rest ∧ (c.isDigit = true ∨ c = '-')
  letter (value : Double) : ∀ c ∈ format.numberText value, JsonTree.isLetter c = true

namespace JsAtom

/-- What JSON has. -/
def isJson : JsAtom → Bool
  | undefined => false
  | nonFinite _ => false
  | _ => true

def isDefined (atom : JsAtom) : Bool := atom != .undefined

/-- What stands in a JSON text: a number that is not finite is `null`.  `undefined` is what a
template writes of it. -/
def letters (format : NumberFormat) : JsAtom → List Char
  | undefined => "undefined".toList
  | null => "null".toList
  | boolean true => "true".toList
  | boolean false => "false".toList
  | number value => format.numberText value
  | nonFinite _ => "null".toList

/-- The atom that stands for it in a text. -/
def written : JsAtom → JsAtom
  | nonFinite _ => null
  | atom => atom

/-- The atom that `JSON.stringify` writes, as an item. -/
def stringified : JsAtom → JsAtom
  | undefined => null
  | nonFinite _ => null
  | atom => atom

/-- A number begins with a digit or a minus. -/
def beginsNumber (word : List Char) : Bool := word.head?.any fun c => c.isDigit || c == '-'

/-- A word of a JSON text. -/
def read (format : NumberFormat) (word : List Char) : Option JsAtom :=
  if word = "null".toList then some .null
  else if word = "true".toList then some (.boolean true)
  else if word = "false".toList then some (.boolean false)
  else if beginsNumber word then format.readNumber word
  else none

theorem lettered {format : NumberFormat} (hformat : format.Lawful) :
    JsonTree.Lettered (letters format) where
  ne_nil atom := by
    cases atom with
    | undefined => exact List.cons_ne_nil _ _
    | null => exact List.cons_ne_nil _ _
    | boolean value => cases value <;> exact List.cons_ne_nil _ _
    | number value =>
        obtain ⟨c, rest, htext, -⟩ := hformat.head value
        show format.numberText value ≠ []
        rw [htext]
        exact List.cons_ne_nil c rest
    | nonFinite value => exact List.cons_ne_nil _ _
  letter atom := by
    have hall : ∀ word ∈ ["undefined", "null", "true", "false"],
        word.toList.all JsonTree.isLetter = true := by decide
    have hwords (word : String) (hword : word ∈ ["undefined", "null", "true", "false"]) :
        ∀ c ∈ word.toList, JsonTree.isLetter c = true :=
      List.all_eq_true.mp (hall word hword)
    cases atom with
    | undefined => exact hwords "undefined" (by decide)
    | null => exact hwords "null" (by decide)
    | boolean value =>
        cases value with
        | true => exact hwords "true" (by decide)
        | false => exact hwords "false" (by decide)
    | number value => exact hformat.letter value
    | nonFinite value => exact hwords "null" (by decide)

theorem read_number {format : NumberFormat} (hformat : format.Lawful) (value : Double) :
    read format (format.numberText value) = some (.number value) := by
  obtain ⟨c, rest, htext, hc⟩ := hformat.head value
  have hbegins : beginsNumber (format.numberText value) = true := by
    rw [htext, beginsNumber, List.head?_cons, Option.any_some, Bool.or_eq_true, beq_iff_eq]
    exact hc
  have hne {word : List Char} (hword : beginsNumber word = false) :
      format.numberText value ≠ word := by
    rintro rfl
    exact Bool.false_ne_true (hword.symm.trans hbegins)
  rw [read, if_neg (hne rfl), if_neg (hne rfl), if_neg (hne rfl), if_pos hbegins]
  exact hformat.read_text value

/-- What is read of an atom. -/
theorem read_letters {format : NumberFormat} (hformat : format.Lawful) {atom : JsAtom}
    (h : atom.isDefined = true) : read format (letters format atom) = some atom.written := by
  cases atom with
  | undefined => exact absurd h (by decide)
  | null => rfl
  | boolean value => cases value <;> rfl
  | number value => exact read_number hformat value
  | nonFinite value => rfl

theorem read_undefined (format : NumberFormat) :
    read format (letters format .undefined) = none := rfl

theorem letters_written (format : NumberFormat) (atom : JsAtom) :
    letters format atom.written = letters format atom := by
  cases atom <;> rfl

theorem stringified_of_isJson {atom : JsAtom} (h : atom.isJson = true) : atom.stringified = atom := by
  cases atom <;> first | rfl | exact absurd h (by simp [isJson])

theorem written_of_isJson {atom : JsAtom} (h : atom.isJson = true) : atom.written = atom := by
  cases atom <;> first | rfl | exact absurd h (by simp [isJson])

/-- The texts of two atoms are different, those of numbers that are not finite apart. -/
theorem letters_inj {format : NumberFormat} (hformat : format.Lawful) {first second : JsAtom}
    (hfirst : first.written = first) (hsecond : second.written = second)
    (h : letters format first = letters format second) : first = second := by
  have hundefined {atom : JsAtom} (hatom : atom.isDefined = true) :
      letters format atom ≠ letters format .undefined := by
    intro hsame
    have hread := read_letters hformat hatom
    rw [hsame, read_undefined] at hread
    exact absurd hread (by simp)
  have hcases (atom : JsAtom) : atom.isDefined = true ∨ atom = .undefined := by
    cases atom <;> simp [isDefined]
  rcases hcases first with hone | rfl
  · rcases hcases second with hother | rfl
    · have hread := read_letters hformat hone
      rw [h, read_letters hformat hother, hfirst, hsecond] at hread
      exact (Option.some.inj hread).symm
    · exact absurd h (hundefined hone)
  · rcases hcases second with hother | rfl
    · exact absurd h.symm (hundefined hother)
    · rfl

end JsAtom

namespace JsValue

open JsonTree

/-! ## Reads -/

/-- `value.name`, of an object. -/
def get (value : JsValue) (name : String) : JsValue :=
  match value with
  | .object members => (members.lookup name).getD (.atom .undefined)
  | _ => .atom .undefined

def isUndefined : JsValue → Bool
  | .atom .undefined => true
  | _ => false

/-- Whether `left ?? right` is `right`. -/
def isNullish : JsValue → Bool
  | .atom .undefined | .atom .null => true
  | _ => false

def text? : JsValue → Option String
  | .string value => some value
  | _ => none

def number? : JsValue → Option Double
  | .atom (.number value) => some value
  | _ => none

def boolean? : JsValue → Option Bool
  | .atom (.boolean value) => some value
  | _ => none

/-- The names of the items of an array. -/
def indexNames (count : Nat) : List String := (List.range count).map Nat.repr

/-- The characters of a string as strings. -/
def letterItems (value : String) : List JsValue :=
  value.toList.map fun c => .string (String.ofList [c])

/-- `Object.entries(value)`; an error for `undefined` and `null`. -/
def entries? : JsValue → Option (List (String × JsValue))
  | .atom .undefined | .atom .null => none
  | .atom _ => some []
  | .string value => some ((indexNames value.length).zip (letterItems value))
  | .array items => some ((indexNames items.length).zip items)
  | .object members => some members

/-- `Object.keys(value)`. -/
def keys? (value : JsValue) : Option (List String) := value.entries?.map (List.map Prod.fst)

/-- What `for … of` and a spread go through. -/
def iterated? : JsValue → Option (List JsValue)
  | .array items => some items
  | .string value => some (letterItems value)
  | _ => none

/-- The items, where a method of arrays is called. -/
def items? : JsValue → Option (List JsValue)
  | .array items => some items
  | _ => none

def atomText (format : NumberFormat) : JsAtom → List Char
  | .nonFinite .nan => "NaN".toList
  | .nonFinite .infinity => "Infinity".toList
  | .nonFinite .minusInfinity => "-Infinity".toList
  | other => other.letters format

mutual

/-- `String(value)`: an array is its items with commas.  An object that has a member of the
name cannot be converted. -/
def toText? (format : NumberFormat) : JsValue → Option (List Char)
  | .atom value => some (atomText format value)
  | .string value => some value.toList
  | .array items => (itemTexts? format items).map (joined ',')
  | .object members =>
    if "toString" ∈ members.map Prod.fst then none else some "[object Object]".toList

def itemTexts? (format : NumberFormat) : List JsValue → Option (List (List Char))
  | [] => some []
  | .atom .undefined :: items => (itemTexts? format items).map ([] :: ·)
  | .atom .null :: items => (itemTexts? format items).map ([] :: ·)
  | item :: items =>
    (toText? format item).bind fun text => (itemTexts? format items).map (text :: ·)

end

/-! ## JSON -/

mutual

/-- The value without the members that are `undefined`. -/
def withoutUndefined : JsValue → JsValue
  | .atom value => .atom value
  | .string value => .string value
  | .array items => .array (definedParts items)
  | .object members => .object (definedMembers members)

def definedParts : List JsValue → List JsValue
  | [] => []
  | item :: items => withoutUndefined item :: definedParts items

def definedMembers : List (String × JsValue) → List (String × JsValue)
  | [] => []
  | (_, .atom .undefined) :: members => definedMembers members
  | (name, value) :: members => (name, withoutUndefined value) :: definedMembers members

end

/-- `JSON.stringify(value)`, of an object or an array. -/
def stringify (format : NumberFormat) (value : JsValue) : List Char :=
  (value.withoutUndefined.mapAtoms JsAtom.stringified).text (JsAtom.letters format)

/-- `JSON.parse(text)`. -/
def parseJson (format : NumberFormat) (source : List Char) : Option JsValue :=
  JsonTree.parse (JsAtom.read format) source

/-- JSON has such a value. -/
def isJson (value : JsValue) : Bool := value.allAtoms JsAtom.isJson

/-- No member anywhere is there and `undefined`. -/
def isDefined (value : JsValue) : Bool := value.allAtoms JsAtom.isDefined

/-- No item of an array is `undefined`. -/
def definedItems : JsValue → Bool
  | .array items => items.all fun item => !isUndefined item
  | _ => true

/-- `undefined` is nothing but the value of members. -/
def undefinedInMembers (value : JsValue) : Bool :=
  !value.isUndefined && value.everywhere definedItems

/-- The two are one value of JSON, in whatever order the members are. -/
def SameJson (first second : JsValue) : Prop :=
  Same (first.mapAtoms JsAtom.written) (second.mapAtoms JsAtom.written)

variable {format : NumberFormat}

/-- Of the text of a value is read the value with `null` for the numbers that are not finite,
and nothing when there is an `undefined` in it. -/
theorem parse_letters (hformat : format.Lawful) {value : JsValue}
    (hnames : value.uniqueNames = true) {blanks : List Char}
    (hblanks : ∀ c ∈ blanks, isBlank c = true) :
    parseJson format (value.text (JsAtom.letters format) ++ blanks) =
      if value.isDefined then some (value.mapAtoms JsAtom.written) else none := by
  have hparse := @parse_text _ _ (JsAtom.read format) _ (JsAtom.lettered hformat) _ hnames _ hblanks
  rw [parseJson, hparse]
  by_cases hdefined : value.isDefined = true
  · rw [if_pos hdefined]
    exact traverse_eq_mapAtoms (fun atom hatom => JsAtom.read_letters hformat hatom) value hdefined
  · rw [if_neg hdefined]
    cases htraverse : value.traverse fun atom => JsAtom.read format (atom.letters format) with
    | none => rfl
    | some other =>
        refine absurd (everywhere_mono ?_ value (allAtoms_of_traverse value htraverse)) hdefined
        intro tree htree
        cases tree with
        | atom atom =>
            cases atom with
            | undefined =>
                rw [atomTest, JsAtom.read_undefined] at htree
                exact absurd htree (by decide)
            | _ => rfl
        | _ => rfl

/-- A value that JSON has is written as it is. -/
theorem withoutUndefined_eq_self (value : JsValue) (h : value.isDefined = true) :
    value.withoutUndefined = value := by
  induction value using induct with
  | atom atom => rfl
  | string text => rfl
  | array items ih =>
      have hitems := allAtoms_array.mp h
      have hall : definedParts items = items := by
        clear h
        induction items with
        | nil => rfl
        | cons item items ihItems =>
            obtain ⟨hitem, hrest⟩ := List.forall_mem_cons.mp hitems
            obtain ⟨ihItem, ihRest⟩ := List.forall_mem_cons.mp ih
            rw [definedParts, ihItem hitem, ihItems ihRest hrest]
      rw [withoutUndefined, hall]
  | object members ih =>
      have hmembers := allAtoms_object.mp h
      have hall : definedMembers members = members := by
        clear h
        induction members with
        | nil => rfl
        | cons member members ihMembers =>
            obtain ⟨hmember, hrest⟩ := List.forall_mem_cons.mp hmembers
            obtain ⟨ihMember, ihRest⟩ := List.forall_mem_cons.mp ih
            obtain ⟨name, value⟩ := member
            have hdefined : value ≠ .atom .undefined := by
              rintro rfl
              exact absurd (show JsAtom.isDefined .undefined = true from hmember) (by decide)
            rw [definedMembers.eq_3 _ _ _ hdefined, ihMember hmember, ihMembers ihRest hrest]
      rw [withoutUndefined, hall]

theorem isDefined_of_isJson {value : JsValue} (h : value.isJson = true) : value.isDefined = true := by
  refine everywhere_mono ?_ value h
  intro tree htree
  cases tree with
  | atom atom =>
      cases atom with
      | undefined => exact absurd (show JsAtom.isJson .undefined = true from htree) (by decide)
      | _ => rfl
  | _ => rfl

theorem stringify_eq {value : JsValue} (h : value.isJson = true) :
    stringify format value = value.text (JsAtom.letters format) := by
  rw [stringify, withoutUndefined_eq_self value (isDefined_of_isJson h),
    mapAtoms_eq_self (fun atom hatom => JsAtom.stringified_of_isJson hatom) value h]

end JsValue

end AvantimePlatform
