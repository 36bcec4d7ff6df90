import Mathlib

/-!
# JSON texts

What `JSON.stringify` writes of texts, numbers, booleans, `null` and objects of these.

* `SelfDelimiting`: in a longer text it can be seen where a value ends, and which value it
  is.
* `selfDelimiting_scalarText` and `selfDelimiting_objectText`: it can.  So objects of
  objects have it as well.

The text of a number is a parameter: `NumberTexts` says what is used of it.  Nothing here
names a component of the platform.
-/

namespace AvantimePlatform.JsonText

universe u

/-! ## Quoting -/

def hexDigit (n : Nat) : Char := "0123456789abcdef".toList.getD n '0'

/-- A character between the quotes. -/
def escape (c : Char) : List Char :=
  if c = '"' then ['\\', '"']
  else if c = '\\' then ['\\', '\\']
  else if c = '\x08' then ['\\', 'b']
  else if c = '\t' then ['\\', 't']
  else if c = '\n' then ['\\', 'n']
  else if c = '\x0c' then ['\\', 'f']
  else if c = '\r' then ['\\', 'r']
  else if c.toNat < 32 then ['\\', 'u', '0', '0', hexDigit (c.toNat / 16), hexDigit (c.toNat % 16)]
  else [c]

/-- `JSON.stringify` of a text. -/
def quote (text : List Char) : List Char := '"' :: (text.flatMap escape ++ ['"'])

/-- The characters that are written with a backslash, numbered. -/
def escaped (i : Nat) : Char := if i < 32 then Char.ofNat i else if i = 32 then '"' else '\\'

/-- Every character is one of these, or is written as it is. -/
theorem escaped_or_plain (c : Char) :
    (∃ i < 34, c = escaped i) ∨ (escape c = [c] ∧ c ≠ '"' ∧ c ≠ '\\') := by
  by_cases hquote : c = '"'
  · exact Or.inl ⟨32, by decide, hquote⟩
  by_cases hbackslash : c = '\\'
  · exact Or.inl ⟨33, by decide, hbackslash⟩
  by_cases hcontrol : c.toNat < 32
  · refine Or.inl ⟨c.toNat, by omega, ?_⟩
    rw [escaped, if_pos hcontrol, Char.ofNat_toNat]
  · have hother {d : Char} (hd : d.toNat < 32) : c ≠ d := by
      rintro rfl
      exact hcontrol hd
    refine Or.inr ⟨?_, hquote, hbackslash⟩
    unfold escape
    rw [if_neg hquote, if_neg hbackslash, if_neg (hother (by decide)), if_neg (hother (by decide)),
      if_neg (hother (by decide)), if_neg (hother (by decide)), if_neg (hother (by decide)),
      if_neg hcontrol]

theorem head_escape_escaped : ∀ i < 34, (escape (escaped i)).head? = some '\\' := by
  decide

/-- No escaped character is the beginning of another. -/
theorem eq_of_isPrefixOf : ∀ i < 34, ∀ j < 34,
    (escape (escaped i)).isPrefixOf (escape (escaped j)) = true → i = j := by
  decide

theorem head_escape (c : Char) : ∃ d, (escape c).head? = some d ∧ d ≠ '"' := by
  rcases escaped_or_plain c with ⟨i, hi, rfl⟩ | ⟨hplain, hquote, -⟩
  · exact ⟨'\\', head_escape_escaped i hi, by decide⟩
  · exact ⟨c, by rw [hplain]; rfl, hquote⟩

/-- What begins a text is its first character. -/
theorem eq_of_prefix_escape {c d : Char} (h : escape c <+: escape d) : c = d := by
  have hhead {x y : Char} (hx : (escape c).head? = some x) (hy : (escape d).head? = some y) :
      x = y := by
    obtain ⟨rest, hrest⟩ := h
    rw [← hrest, List.head?_append, hx] at hy
    exact Option.some.inj hy
  rcases escaped_or_plain c with ⟨i, hi, rfl⟩ | ⟨hc, -, hbackslash⟩
  · rcases escaped_or_plain d with ⟨j, hj, rfl⟩ | ⟨hd, -, hbackslash⟩
    · rw [eq_of_isPrefixOf i hi j hj (List.isPrefixOf_iff_prefix.mpr h)]
    · exact absurd (hhead (head_escape_escaped i hi) (by rw [hd]; rfl)).symm hbackslash
  · rcases escaped_or_plain d with ⟨j, hj, rfl⟩ | ⟨hd, -, -⟩
    · exact absurd (hhead (by rw [hc]; rfl) (head_escape_escaped j hj)) hbackslash
    · exact hhead (by rw [hc]; rfl) (by rw [hd]; rfl)

/-- A text ends at its quote. -/
theorem flatMap_escape_inj {xs ys r r' : List Char}
    (h : xs.flatMap escape ++ '"' :: r = ys.flatMap escape ++ '"' :: r') : xs = ys ∧ r = r' := by
  induction xs generalizing ys with
  | nil =>
      cases ys with
      | nil => exact ⟨rfl, (List.cons.inj h).2⟩
      | cons d ys =>
          obtain ⟨e, he, hne⟩ := head_escape d
          have hhead := congrArg List.head? h
          simp [he] at hhead
          exact absurd hhead.symm hne
  | cons c xs ih =>
      cases ys with
      | nil =>
          obtain ⟨e, he, hne⟩ := head_escape c
          have hhead := congrArg List.head? h
          simp [he] at hhead
          exact absurd hhead hne
      | cons d ys =>
          rw [List.flatMap_cons, List.flatMap_cons, List.append_assoc, List.append_assoc] at h
          have hsame : c = d := by
            rcases List.prefix_or_prefix_of_prefix ⟨_, rfl⟩ ⟨_, h.symm⟩ with hstart | hstart
            · exact eq_of_prefix_escape hstart
            · exact (eq_of_prefix_escape hstart).symm
          subst hsame
          obtain ⟨hrest, hr⟩ := ih (List.append_cancel_left h)
          exact ⟨by rw [hrest], hr⟩

theorem quote_append_inj {xs ys r r' : List Char} (h : quote xs ++ r = quote ys ++ r') :
    xs = ys ∧ r = r' := by
  apply flatMap_escape_inj
  have htail := (List.cons.inj h).2
  simpa using htail

/-! ## Values -/

/-- A value that is no object and no array. -/
inductive Scalar where
  | null
  | boolean (value : Bool)
  | number (value : ℚ)
  | string (value : String)
deriving DecidableEq

/-- The characters of numbers. -/
def numberCharacters : List Char := "0123456789+-.e".toList

/-- Numbers are told apart by their texts, which are not empty and have these characters. -/
structure NumberTexts (numberText : ℚ → List Char) : Prop where
  injective : Function.Injective numberText
  ne_nil (value : ℚ) : numberText value ≠ []
  characters (value : ℚ) : ∀ c ∈ numberText value, c ∈ numberCharacters

/-- `JSON.stringify` of such a value. -/
def scalarText (numberText : ℚ → List Char) : Scalar → List Char
  | .null => "null".toList
  | .boolean true => "true".toList
  | .boolean false => "false".toList
  | .number value => numberText value
  | .string value => quote value.toList

/-- What stands behind a member of an object. -/
def Ends (rest : List Char) : Prop := ∃ c behind, rest = c :: behind ∧ (c = ',' ∨ c = '\x7d')

/-- The end of each text can be seen. -/
def SelfDelimiting {β : Type u} (write : β → List Char) : Prop :=
  ∀ v w r r', Ends r → Ends r' → write v ++ r = write w ++ r' → v = w ∧ r = r'

/-! ## Where a value ends -/

section Delimiting

variable {numberText : ℚ → List Char}

/-- A run of characters of a class ends before the first other character. -/
theorem run_append_inj {α : Type u} {p : α → Prop} {xs ys r r' : List α} (hxs : ∀ c ∈ xs, p c)
    (hys : ∀ c ∈ ys, p c) (hr : ∀ c ∈ r.head?, ¬p c) (hr' : ∀ c ∈ r'.head?, ¬p c)
    (h : xs ++ r = ys ++ r') : xs = ys ∧ r = r' := by
  induction xs generalizing ys with
  | nil =>
      cases ys with
      | nil => exact ⟨rfl, h⟩
      | cons y ys =>
          have hhead : r.head? = some y := by
            rw [← List.nil_append r, h]
            rfl
          exact absurd (hys y List.mem_cons_self) (hr y hhead)
  | cons x xs ih =>
      cases ys with
      | nil =>
          have hhead : r'.head? = some x := by
            rw [← List.nil_append r', ← h]
            rfl
          exact absurd (hxs x List.mem_cons_self) (hr' x hhead)
      | cons y ys =>
          obtain ⟨rfl, hrest⟩ := List.cons.inj h
          obtain ⟨rfl, hr⟩ := ih (fun c hc => hxs c (List.mem_cons_of_mem x hc))
            (fun c hc => hys c (List.mem_cons_of_mem x hc)) hrest
          exact ⟨rfl, hr⟩

theorem Ends.notMem_numberCharacters {r : List Char} (h : Ends r) :
    ∀ c ∈ r.head?, c ∉ numberCharacters := by
  obtain ⟨d, behind, rfl, hd⟩ := h
  intro c hc
  obtain rfl : d = c := Option.some.inj hc
  rcases hd with rfl | rfl
  · decide
  · decide

/-- What the first character says of a value. -/
inductive Kind where
  | null | true | false | number | string
deriving DecidableEq

def Scalar.kind : Scalar → Kind
  | .null => .null
  | .boolean .true => .true
  | .boolean .false => .false
  | .number _ => .number
  | .string _ => .string

def kindOf (c : Char) : Kind :=
  if c = 'n' then .null else if c = 't' then .true else if c = 'f' then .false
  else if c = '"' then .string else .number

theorem kindOf_number {c : Char} (h : c ∈ numberCharacters) : kindOf c = .number := by
  have hne {d : Char} (hd : d ∉ numberCharacters) : c ≠ d := by
    rintro rfl
    exact hd h
  unfold kindOf
  rw [if_neg (hne (by decide)), if_neg (hne (by decide)), if_neg (hne (by decide)),
    if_neg (hne (by decide))]

theorem head_scalarText (hnumbers : NumberTexts numberText) (v : Scalar) :
    ∃ c, (scalarText numberText v).head? = some c ∧ kindOf c = v.kind := by
  cases v with
  | null => exact ⟨'n', rfl, rfl⟩
  | boolean value =>
      cases value with
      | true => exact ⟨'t', rfl, rfl⟩
      | false => exact ⟨'f', rfl, rfl⟩
  | number value =>
      have hhead := List.head?_eq_some_head (hnumbers.ne_nil value)
      exact ⟨_, hhead, kindOf_number (hnumbers.characters value _ (List.head_mem _))⟩
  | string value => exact ⟨'"', rfl, rfl⟩

/-- Values of different kinds are told apart by their first characters. -/
theorem kind_eq_of_append (hnumbers : NumberTexts numberText) {v w : Scalar} {r r' : List Char}
    (h : scalarText numberText v ++ r = scalarText numberText w ++ r') : v.kind = w.kind := by
  obtain ⟨c, hc, hv⟩ := head_scalarText hnumbers v
  obtain ⟨d, hd, hw⟩ := head_scalarText hnumbers w
  have hhead := congrArg List.head? h
  rw [List.head?_append, List.head?_append, hc, hd] at hhead
  have hsame : c = d := Option.some.inj hhead
  rw [← hv, ← hw, hsame]

theorem selfDelimiting_scalarText (hnumbers : NumberTexts numberText) :
    SelfDelimiting (scalarText numberText) := by
  intro v w r r' hr hr' h
  have hkind := kind_eq_of_append hnumbers h
  cases v with
  | null =>
      cases w with
      | null => exact ⟨rfl, List.append_cancel_left h⟩
      | boolean value => cases value <;> cases hkind
      | number value => cases hkind
      | string value => cases hkind
  | boolean flag =>
      cases w with
      | null => cases flag <;> cases hkind
      | boolean flag' =>
          cases flag <;> cases flag' <;>
            first
            | exact ⟨rfl, List.append_cancel_left h⟩
            | cases hkind
      | number value => cases flag <;> cases hkind
      | string value => cases flag <;> cases hkind
  | number value =>
      cases w with
      | null => cases hkind
      | boolean flag => cases flag <;> cases hkind
      | number value' =>
          obtain ⟨htext, hrest⟩ := run_append_inj (hnumbers.characters value)
            (hnumbers.characters value') hr.notMem_numberCharacters hr'.notMem_numberCharacters h
          exact ⟨by rw [hnumbers.injective htext], hrest⟩
      | string value => cases hkind
  | string value =>
      cases w with
      | null => cases hkind
      | boolean flag => cases flag <;> cases hkind
      | number value => cases hkind
      | string value' =>
          obtain ⟨htext, hrest⟩ := quote_append_inj h
          exact ⟨by rw [String.toList_inj.mp htext], hrest⟩

end Delimiting

/-! ## Objects -/

section Objects

variable {β : Type u} {write : β → List Char}

/-- A member: its name and its value. -/
def memberText (write : β → List Char) (member : String × β) : List Char :=
  quote member.1.toList ++ ':' :: write member.2

/-- The members behind the first one, and the end. -/
def membersText (write : β → List Char) : List (String × β) → List Char
  | [] => ['\x7d']
  | member :: members => ',' :: (memberText write member ++ membersText write members)

/-- `JSON.stringify` of an object. -/
def objectText (write : β → List Char) : List (String × β) → List Char
  | [] => ['\x7b', '\x7d']
  | member :: members => '\x7b' :: (memberText write member ++ membersText write members)

theorem ends_membersText (members : List (String × β)) (r : List Char) :
    Ends (membersText write members ++ r) := by
  cases members with
  | nil => exact ⟨'\x7d', r, rfl, Or.inr rfl⟩
  | cons member members => exact ⟨',', _, rfl, Or.inl rfl⟩

theorem memberText_append_inj (hwrite : SelfDelimiting write) {first second : String × β}
    {r r' : List Char} (hr : Ends r) (hr' : Ends r')
    (h : memberText write first ++ r = memberText write second ++ r') :
    first = second ∧ r = r' := by
  unfold memberText at h
  rw [List.append_assoc, List.append_assoc] at h
  obtain ⟨hname, hvalue⟩ := quote_append_inj h
  obtain ⟨hsame, hrest⟩ := hwrite _ _ _ _ hr hr' (List.cons.inj hvalue).2
  exact ⟨Prod.ext (String.toList_inj.mp hname) hsame, hrest⟩

theorem membersText_append_inj (hwrite : SelfDelimiting write) {xs ys : List (String × β)}
    {r r' : List Char} (h : membersText write xs ++ r = membersText write ys ++ r') :
    xs = ys ∧ r = r' := by
  induction xs generalizing ys with
  | nil =>
      cases ys with
      | nil => exact ⟨rfl, (List.cons.inj h).2⟩
      | cons y ys => exact absurd (List.cons.inj h).1 (by decide)
  | cons x xs ih =>
      cases ys with
      | nil => exact absurd (List.cons.inj h).1 (by decide)
      | cons y ys =>
          have htail := (List.cons.inj h).2
          simp only [List.append_eq, List.append_assoc] at htail
          obtain ⟨rfl, hrest⟩ := memberText_append_inj hwrite (ends_membersText xs r)
            (ends_membersText ys r') htail
          obtain ⟨rfl, hr⟩ := ih hrest
          exact ⟨rfl, hr⟩

/-- An object of values whose end can be seen is such a value. -/
theorem objectText_append_inj (hwrite : SelfDelimiting write) {xs ys : List (String × β)}
    {r r' : List Char} (h : objectText write xs ++ r = objectText write ys ++ r') :
    xs = ys ∧ r = r' := by
  have hquote {member : String × β} {rest : List Char} :
      (memberText write member ++ rest).head? = some '"' := rfl
  cases xs with
  | nil =>
      cases ys with
      | nil => exact ⟨rfl, List.append_cancel_left h⟩
      | cons y ys =>
          have hhead := congrArg List.head? (List.cons.inj h).2
          simp only [List.append_eq, List.append_assoc, hquote] at hhead
          cases hhead
  | cons x xs =>
      cases ys with
      | nil =>
          have hhead := congrArg List.head? (List.cons.inj h).2
          simp only [List.append_eq, List.append_assoc, hquote] at hhead
          cases hhead
      | cons y ys =>
          have htail := (List.cons.inj h).2
          simp only [List.append_eq, List.append_assoc] at htail
          obtain ⟨rfl, hrest⟩ := memberText_append_inj hwrite (ends_membersText xs r)
            (ends_membersText ys r') htail
          obtain ⟨rfl, hr⟩ := membersText_append_inj hwrite hrest
          exact ⟨rfl, hr⟩

theorem selfDelimiting_objectText (hwrite : SelfDelimiting write) :
    SelfDelimiting (objectText write) :=
  fun _ _ _ _ _ _ h => objectText_append_inj hwrite h

/-- What is written is determined by its text. -/
theorem objectText_injective (hwrite : SelfDelimiting write) :
    Function.Injective (objectText write) := by
  intro xs ys h
  have hempty : objectText write xs ++ [] = objectText write ys ++ [] := by rw [h]
  exact (objectText_append_inj hwrite hempty).1

end Objects

/-! ## Objects in objects -/

/-- A value, or an object of values. -/
inductive Field where
  | scalar (value : Scalar)
  | object (members : List (String × Scalar))
deriving DecidableEq

def fieldText (numberText : ℚ → List Char) : Field → List Char
  | .scalar value => scalarText numberText value
  | .object members => objectText (scalarText numberText) members

theorem head_objectText {β : Type u} {write : β → List Char} (members : List (String × β)) :
    (objectText write members).head? = some '\x7b' := by
  cases members with
  | nil => rfl
  | cons member members => rfl

/-- No value begins as an object does. -/
theorem scalarText_ne_objectText {numberText : ℚ → List Char} (hnumbers : NumberTexts numberText)
    {v : Scalar} {members : List (String × Scalar)} {r r' : List Char} :
    scalarText numberText v ++ r ≠ objectText (scalarText numberText) members ++ r' := by
  intro h
  have hhead := congrArg List.head? h
  rw [List.head?_append, List.head?_append, head_objectText] at hhead
  cases v with
  | null => cases hhead
  | boolean value => cases value <;> cases hhead
  | number value =>
      have hfirst := List.head?_eq_some_head (hnumbers.ne_nil value)
      have hmem := hnumbers.characters value _ (List.head_mem (hnumbers.ne_nil value))
      have hsame : (numberText value).head (hnumbers.ne_nil value) = '\x7b' := by
        have hnumber : (scalarText numberText (.number value)).head? = _ := hfirst
        rw [hnumber] at hhead
        exact Option.some.inj hhead
      rw [hsame] at hmem
      exact absurd hmem (by decide)
  | string value => cases hhead

theorem selfDelimiting_fieldText {numberText : ℚ → List Char} (hnumbers : NumberTexts numberText) :
    SelfDelimiting (fieldText numberText) := by
  intro v w r r' hr hr' h
  cases v with
  | scalar v =>
      cases w with
      | scalar w =>
          obtain ⟨rfl, hrest⟩ := selfDelimiting_scalarText hnumbers v w r r' hr hr' h
          exact ⟨rfl, hrest⟩
      | object members => exact absurd h (scalarText_ne_objectText hnumbers)
  | object members =>
      cases w with
      | scalar w => exact absurd h.symm (scalarText_ne_objectText hnumbers)
      | object members' =>
          obtain ⟨rfl, hrest⟩ := objectText_append_inj (selfDelimiting_scalarText hnumbers) h
          exact ⟨rfl, hrest⟩

end AvantimePlatform.JsonText
