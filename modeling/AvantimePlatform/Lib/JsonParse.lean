import AvantimePlatform.Lib.JsonTree

/-!
# Reading JSON texts

The text of a value, token by token, and a reader: a lexer over the characters and a
machine with a stack over the tokens.

* `lex_text`: the tokens of a written value are found again.
* `parse_text`: of a written value is read the value with its atoms read again, and
  nothing at all when one of them cannot be read.
* `text_injective`: values are told apart by their texts when their atoms are.

How an atom is written and read is a parameter: its text is a word of letters, digits and
signs.  A text with an unpaired surrogate is refused, since no string here has one.
Nothing here names a component of the platform.
-/

namespace AvantimePlatform

open AvantimePlatform.JsonText

universe u v

inductive JsonToken where
  | openArray | closeArray | openObject | closeObject | comma | colon
  | text (value : List Char)
  | word (letters : List Char)
deriving DecidableEq

namespace JsonToken

def chars : JsonToken → List Char
  | openArray => ['[']
  | closeArray => [']']
  | openObject => ['\x7b']
  | closeObject => ['\x7d']
  | comma => [',']
  | colon => [':']
  | text value => quote value
  | word letters => letters

def render (tokens : List JsonToken) : List Char := tokens.flatMap chars

@[simp] theorem render_nil : render [] = [] := rfl

@[simp] theorem render_cons (token : JsonToken) (tokens : List JsonToken) :
    render (token :: tokens) = token.chars ++ render tokens := rfl

@[simp] theorem render_append (first second : List JsonToken) :
    render (first ++ second) = render first ++ render second :=
  List.flatMap_append

end JsonToken

/-- `parts.join(separator)`. -/
def joined {τ : Type u} (separator : τ) : List (List τ) → List τ
  | [] => []
  | part :: parts => part ++ parts.flatMap (separator :: ·)

theorem mem_joined {τ : Type u} {separator x : τ} {parts : List (List τ)}
    (h : x ∈ joined separator parts) : x = separator ∨ ∃ part ∈ parts, x ∈ part := by
  cases parts with
  | nil => exact absurd h List.not_mem_nil
  | cons part parts =>
      rw [joined, List.mem_append] at h
      rcases h with hfirst | hrest
      · exact Or.inr ⟨part, List.mem_cons_self, hfirst⟩
      · obtain ⟨other, hother, hx⟩ := List.mem_flatMap.mp hrest
        rcases List.mem_cons.mp hx with hsame | hx
        · exact Or.inl hsame
        · exact Or.inr ⟨other, List.mem_cons_of_mem _ hother, hx⟩

namespace JsonToken

def isWord : JsonToken → Bool
  | word _ => true
  | _ => false

/-- No word follows a word. -/
def Spaced (tokens : List JsonToken) : Prop :=
  tokens.IsChain fun first second => first.isWord = true → second.isWord = false

theorem Spaced.cons {token : JsonToken} {tokens : List JsonToken} (htoken : token.isWord = false)
    (h : Spaced tokens) : Spaced (token :: tokens) := by
  refine List.isChain_cons.mpr ⟨?_, h⟩
  intro second _ hword
  rw [htoken] at hword
  exact absurd hword Bool.false_ne_true

/-- Tokens can follow others when a mark comes between them. -/
theorem Spaced.append {token : JsonToken} {first second : List JsonToken}
    (htoken : token.isWord = false) (hfirst : Spaced first) (hsecond : Spaced second) :
    Spaced (first ++ token :: second) := by
  refine List.isChain_append.mpr ⟨hfirst, hsecond.cons htoken, ?_⟩
  intro last _ next hnext _
  obtain rfl : token = next := Option.some.inj hnext
  exact htoken

theorem spaced_joined {token : JsonToken} (htoken : token.isWord = false)
    {parts : List (List JsonToken)} (hparts : ∀ part ∈ parts, Spaced part) :
    Spaced (joined .comma parts ++ [token]) := by
  have hend : Spaced [token] := List.IsChain.singleton token
  have hmore : ∀ (parts : List (List JsonToken)), (∀ part ∈ parts, Spaced part) →
      ∀ part, Spaced part → Spaced (part ++ (parts.flatMap (JsonToken.comma :: ·) ++ [token])) := by
    intro parts hparts
    induction parts with
    | nil =>
        intro part hpart
        exact hpart.append htoken List.IsChain.nil
    | cons next parts ih =>
        intro part hpart
        obtain ⟨hnext, hrest⟩ := List.forall_mem_cons.mp hparts
        rw [List.flatMap_cons, List.cons_append, List.cons_append, List.append_assoc]
        exact hpart.append rfl (ih hrest next hnext)
  cases parts with
  | nil => exact hend
  | cons part parts =>
      obtain ⟨hpart, hrest⟩ := List.forall_mem_cons.mp hparts
      rw [joined, List.append_assoc]
      exact hmore parts hrest part hpart

end JsonToken

namespace JsonTree

variable {α : Type u} {β : Type v}

/-! ## The text of a value -/

mutual

/-- The tokens of a value; `letters` writes an atom. -/
def tokens (letters : α → List Char) : JsonTree α → List JsonToken
  | .atom value => [.word (letters value)]
  | .string value => [.text value.toList]
  | .array items => .openArray :: (joined .comma (itemTokens letters items) ++ [.closeArray])
  | .object members =>
    .openObject :: (joined .comma (memberTokens letters members) ++ [.closeObject])

def itemTokens (letters : α → List Char) : List (JsonTree α) → List (List JsonToken)
  | [] => []
  | item :: items => tokens letters item :: itemTokens letters items

def memberTokens (letters : α → List Char) :
    List (String × JsonTree α) → List (List JsonToken)
  | [] => []
  | (name, value) :: members =>
    (.text name.toList :: .colon :: tokens letters value) :: memberTokens letters members

end

theorem itemTokens_eq (letters : α → List Char) (items : List (JsonTree α)) :
    itemTokens letters items = items.map (tokens letters) := by
  induction items with
  | nil => rfl
  | cons item items ih => rw [itemTokens, ih, List.map_cons]

theorem memberTokens_eq (letters : α → List Char) (members : List (String × JsonTree α)) :
    memberTokens letters members =
      members.map fun member =>
        JsonToken.text member.1.toList :: .colon :: tokens letters member.2 := by
  induction members with
  | nil => rfl
  | cons member members ih => rw [memberTokens, ih, List.map_cons]

def text (letters : α → List Char) (tree : JsonTree α) : List Char :=
  JsonToken.render (tree.tokens letters)

theorem render_joined (parts : List (List JsonToken)) :
    JsonToken.render (joined .comma parts) = joined ',' (parts.map JsonToken.render) := by
  cases parts with
  | nil => rfl
  | cons part parts =>
      rw [joined, JsonToken.render_append, List.map_cons, joined]
      congr 1
      induction parts with
      | nil => rfl
      | cons next parts ih =>
          rw [List.flatMap_cons, JsonToken.render_append, ih]
          rfl

theorem text_atom (letters : α → List Char) (value : α) : (atom value).text letters = letters value :=
  List.append_nil _

theorem text_string (letters : α → List Char) (value : String) :
    (string value).text letters = quote value.toList :=
  List.append_nil _

theorem text_array (letters : α → List Char) (items : List (JsonTree α)) :
    (array items).text letters = '[' :: (joined ',' (items.map (text letters)) ++ [']']) := by
  rw [text, tokens, JsonToken.render_cons, JsonToken.render_append, render_joined, itemTokens_eq,
    List.map_map]
  rfl

theorem text_object (letters : α → List Char) (members : List (String × JsonTree α)) :
    (object members).text letters =
      '\x7b' :: (joined ',' (members.map fun member =>
        quote member.1.toList ++ ':' :: text letters member.2) ++ ['\x7d']) := by
  rw [text, tokens, JsonToken.render_cons, JsonToken.render_append, render_joined, memberTokens_eq,
    List.map_map]
  rfl

theorem spaced_tokens (letters : α → List Char) (tree : JsonTree α) :
    JsonToken.Spaced (tree.tokens letters) := by
  induction tree using induct with
  | atom value => exact List.IsChain.singleton _
  | string value => exact List.IsChain.singleton _
  | array items ih =>
      rw [tokens, itemTokens_eq]
      refine JsonToken.Spaced.cons rfl (JsonToken.spaced_joined rfl ?_)
      intro part hpart
      obtain ⟨item, hitem, rfl⟩ := List.mem_map.mp hpart
      exact ih item hitem
  | object members ih =>
      rw [tokens, memberTokens_eq]
      refine JsonToken.Spaced.cons rfl (JsonToken.spaced_joined rfl ?_)
      intro part hpart
      obtain ⟨member, hmember, rfl⟩ := List.mem_map.mp hpart
      exact ((ih member hmember).cons rfl).cons rfl

/-- The words among the tokens are the atoms. -/
theorem word_of_mem_tokens {letters : α → List Char} {tree : JsonTree α} {word : List Char}
    (h : .word word ∈ tree.tokens letters) : ∃ value, word = letters value := by
  induction tree using induct with
  | atom value =>
      rw [tokens, List.mem_singleton, JsonToken.word.injEq] at h
      exact ⟨value, h⟩
  | string value =>
      rw [tokens, List.mem_singleton] at h
      exact absurd h (by simp)
  | array items ih =>
      rw [tokens, itemTokens_eq] at h
      simp only [List.mem_cons, List.mem_append, List.not_mem_nil, or_false, reduceCtorEq,
        false_or] at h
      rcases mem_joined h with hcomma | ⟨part, hpart, hword⟩
      · exact absurd hcomma (by simp)
      · obtain ⟨item, hitem, rfl⟩ := List.mem_map.mp hpart
        exact ih item hitem hword
  | object members ih =>
      rw [tokens, memberTokens_eq] at h
      simp only [List.mem_cons, List.mem_append, List.not_mem_nil, or_false, reduceCtorEq,
        false_or] at h
      rcases mem_joined h with hcomma | ⟨part, hpart, hword⟩
      · exact absurd hcomma (by simp)
      · obtain ⟨member, hmember, rfl⟩ := List.mem_map.mp hpart
        simp only [List.mem_cons, reduceCtorEq, false_or] at hword
        exact ih member hmember hword

/-! ## The lexer -/

/-- A letter, a digit, or a sign of a number. -/
def isLetter (c : Char) : Bool := c.isAlphanum || c == '+' || c == '-' || c == '.'

/-- The blanks of JSON. -/
def isBlank (c : Char) : Bool := c == ' ' || c == '\t' || c == '\n' || c == '\r'

def mark? : Char → Option JsonToken
  | '[' => some .openArray
  | ']' => some .closeArray
  | '\x7b' => some .openObject
  | '\x7d' => some .closeObject
  | ',' => some .comma
  | ':' => some .colon
  | _ => none

/-- What a backslash and a character stand for. -/
def unescape : Char → Option Char
  | '"' => some '"'
  | '\\' => some '\\'
  | '/' => some '/'
  | 'b' => some '\x08'
  | 'f' => some '\x0c'
  | 'n' => some '\n'
  | 'r' => some '\r'
  | 't' => some '\t'
  | _ => none

def hexValue (c : Char) : Option Nat :=
  if '0' ≤ c ∧ c ≤ '9' then some (c.toNat - 48)
  else if 'a' ≤ c ∧ c ≤ 'f' then some (c.toNat - 87)
  else if 'A' ≤ c ∧ c ≤ 'F' then some (c.toNat - 55)
  else none

/-- Between two tokens, in a word, or in a text: behind its characters, behind a backslash,
in the digits of `\u`, with a first surrogate when there is one, or between two of them. -/
inductive LexState where
  | between
  | word (letters : List Char)
  | text (value : List Char)
  | escape (value : List Char)
  | unit (value : List Char) (high : Option Nat) (digits : List Nat)
  | pair (value : List Char) (high : Nat)
  | pairMark (value : List Char) (high : Nat)

/-- A code unit behind the characters of a text. -/
def addUnit (value : List Char) (high : Option Nat) (code : Nat) : Option LexState :=
  match high with
  | none =>
    if 0xD800 ≤ code ∧ code < 0xDC00 then some (.pair value code)
    else if 0xDC00 ≤ code ∧ code < 0xE000 then none
    else some (.text (value ++ [Char.ofNat code]))
  | some first =>
    if 0xDC00 ≤ code ∧ code < 0xE000 then
      some (.text (value ++ [Char.ofNat (0x10000 + (first - 0xD800) * 1024 + (code - 0xDC00))]))
    else none

/-- A character where a token may begin. -/
def begin (c : Char) : Option (List JsonToken × LexState) :=
  if isBlank c then some ([], .between)
  else if c = '"' then some ([], .text [])
  else if isLetter c then some ([], .word [c])
  else (mark? c).map fun token => ([token], .between)

/-- The tokens that a character ends, and where it leads. -/
def next : LexState → Char → Option (List JsonToken × LexState)
  | .between, c => begin c
  | .word letters, c =>
    if isLetter c then some ([], .word (letters ++ [c]))
    else (begin c).map fun result => (.word letters :: result.1, result.2)
  | .text value, c =>
    if c = '"' then some ([.text value], .between)
    else if c = '\\' then some ([], .escape value)
    else if c.toNat < 32 then none
    else some ([], .text (value ++ [c]))
  | .escape value, c =>
    if c = 'u' then some ([], .unit value none [])
    else (unescape c).map fun d => ([], .text (value ++ [d]))
  | .unit value high digits, c =>
    (hexValue c).bind fun digit =>
      if digits.length < 3 then some ([], .unit value high (digits ++ [digit]))
      else (addUnit value high ((digits ++ [digit]).foldl (fun n d => 16 * n + d) 0)).map
        fun state => ([], state)
  | .pair value high, c => if c = '\\' then some ([], .pairMark value high) else none
  | .pairMark value high, c => if c = 'u' then some ([], .unit value (some high) []) else none

def lex : LexState → List Char → Option (List JsonToken)
  | .between, [] => some []
  | .word letters, [] => some [.word letters]
  | _, [] => none
  | state, c :: rest =>
    (next state c).bind fun result => (lex result.2 rest).map (result.1 ++ ·)

/-! ## The machine -/

/-- What is open around a value: an array with its items so far, or an object with its
members so far and the name of the value. -/
inductive Frame (β : Type v) where
  | items (before : List (JsonTree β))
  | member (before : List (String × JsonTree β)) (name : String)

/-- What comes next: a value; the first item, the first name, or the end; a further name; a
colon; or, behind a value, what ends or continues the innermost frame. -/
inductive Place (β : Type v) where
  | value (frames : List (Frame β))
  | items (frames : List (Frame β))
  | names (frames : List (Frame β))
  | name (frames : List (Frame β)) (before : List (String × JsonTree β))
  | colon (frames : List (Frame β)) (before : List (String × JsonTree β)) (name : String)
  | done (frames : List (Frame β)) (value : JsonTree β)

/-- A member of an object: a name that is there keeps its place and takes the new value. -/
def put (before : List (String × JsonTree β)) (name : String) (value : JsonTree β) :
    List (String × JsonTree β) :=
  if name ∈ before.map Prod.fst then
    before.map fun member => if member.1 = name then (name, value) else member
  else before ++ [(name, value)]

/-- A token where a value may begin; `read` reads a word. -/
def start (read : List Char → Option β) (frames : List (Frame β)) : JsonToken → Option (Place β)
  | .word letters => (read letters).map fun value => .done frames (.atom value)
  | .text value => some (.done frames (.string (String.ofList value)))
  | .openArray => some (.items frames)
  | .openObject => some (.names frames)
  | _ => none

def accept (read : List Char → Option β) : Place β → JsonToken → Option (Place β)
  | .value frames, token => start read frames token
  | .items frames, .closeArray => some (.done frames (.array []))
  | .items frames, token => start read (.items [] :: frames) token
  | .names frames, .closeObject => some (.done frames (.object []))
  | .names frames, .text name => some (.colon frames [] (String.ofList name))
  | .name frames before, .text name => some (.colon frames before (String.ofList name))
  | .colon frames before name, .colon => some (.value (.member before name :: frames))
  | .done (.items before :: frames) value, .comma => some (.value (.items (before ++ [value]) :: frames))
  | .done (.items before :: frames) value, .closeArray =>
    some (.done frames (.array (before ++ [value])))
  | .done (.member before name :: frames) value, .comma =>
    some (.name frames (put before name value))
  | .done (.member before name :: frames) value, .closeObject =>
    some (.done frames (.object (put before name value)))
  | _, _ => none

def accepts (read : List Char → Option β) (tokens : List JsonToken) (place : Place β) :
    Option (Place β) :=
  tokens.foldlM (accept read) place

/-- `JSON.parse`. -/
def parse (read : List Char → Option β) (source : List Char) : Option (JsonTree β) :=
  (lex .between source).bind fun tokens =>
    match accepts read tokens (.value []) with
    | some (.done [] value) => some value
    | _ => none

/-! ## The tokens of a text -/

/-- Words are not empty and have the characters of words. -/
structure Lettered (letters : α → List Char) : Prop where
  ne_nil (value : α) : letters value ≠ []
  letter (value : α) : ∀ c ∈ letters value, isLetter c = true

/-- What comes next does not continue a word. -/
def Closed (rest : List Char) : Prop := ∀ c ∈ rest.head?, isLetter c = false

theorem closed_cons {c : Char} {rest : List Char} (h : isLetter c = false) : Closed (c :: rest) := by
  intro d hd
  obtain rfl : c = d := Option.some.inj hd
  exact h

theorem lex_cons (state : LexState) (c : Char) (rest : List Char) :
    lex state (c :: rest) =
      (next state c).bind fun result => (lex result.2 rest).map (result.1 ++ ·) := by
  cases state <;> rfl

/-- A character that ends no token. -/
theorem lex_silent {state state' : LexState} {c : Char} (h : next state c = some ([], state'))
    (rest : List Char) : lex state (c :: rest) = lex state' rest := by
  rw [lex_cons, h, Option.bind_some]
  exact Option.map_id_apply

/-- A word ends where no letter follows. -/
theorem lex_word_closed {letters rest : List Char} (hrest : Closed rest) :
    lex (.word letters) rest = (lex .between rest).map (.word letters :: ·) := by
  cases rest with
  | nil => rfl
  | cons c rest =>
      have hc : isLetter c = false := hrest c rfl
      have hnext : next (.word letters) c =
          (begin c).map fun result => (.word letters :: result.1, result.2) := by
        rw [next, if_neg (by rw [hc]; decide)]
      have hbetween : next .between c = begin c := rfl
      rw [lex_cons, hnext, lex_cons, hbetween]
      cases begin c with
      | none => rfl
      | some result =>
          rw [Option.map_some, Option.bind_some, Option.bind_some, Option.map_map]
          rfl

theorem lex_word_append {before letters rest : List Char} (hletters : ∀ c ∈ letters, isLetter c = true)
    (hrest : Closed rest) :
    lex (.word before) (letters ++ rest) =
      (lex .between rest).map (.word (before ++ letters) :: ·) := by
  induction letters generalizing before with
  | nil => rw [List.nil_append, List.append_nil, lex_word_closed hrest]
  | cons c letters ih =>
      obtain ⟨hc, hletters⟩ := List.forall_mem_cons.mp hletters
      have hnext : next (.word before) c = some ([], .word (before ++ [c])) := by
        rw [next, if_pos hc]
      rw [List.cons_append, lex_silent hnext, ih hletters, List.append_assoc, List.singleton_append]

theorem begin_letter {c : Char} (h : isLetter c = true) : begin c = some ([], .word [c]) := by
  have hblank : isBlank c = false := by
    rw [Bool.eq_false_iff]
    intro hc
    simp only [isBlank, Bool.or_eq_true, beq_iff_eq] at hc
    rcases hc with ((rfl | rfl) | rfl) | rfl <;> exact absurd h (by decide)
  have hquote : c ≠ '"' := by
    rintro rfl
    exact absurd h (by decide)
  rw [begin, if_neg (by rw [hblank]; decide), if_neg hquote, if_pos h]

theorem lex_word {letters rest : List Char} (hne : letters ≠ [])
    (hletters : ∀ c ∈ letters, isLetter c = true) (hrest : Closed rest) :
    lex .between (letters ++ rest) = (lex .between rest).map (.word letters :: ·) := by
  cases letters with
  | nil => exact absurd rfl hne
  | cons c letters =>
      obtain ⟨hc, hletters⟩ := List.forall_mem_cons.mp hletters
      have hnext : next .between c = some ([], .word [c]) := begin_letter hc
      rw [List.cons_append, lex_silent hnext, lex_word_append hletters hrest, List.singleton_append]

theorem lex_backslash {c d : Char} (hd : d ≠ 'u') (hc : unescape d = some c)
    (value rest : List Char) :
    lex (.text value) ('\\' :: d :: rest) = lex (.text (value ++ [c])) rest := by
  have hfirst : next (.text value) '\\' = some ([], .escape value) := by
    rw [next, if_neg (by decide), if_pos rfl]
  have hsecond : next (.escape value) d = some ([], .text (value ++ [c])) := by
    rw [next, if_neg hd, hc, Option.map_some]
  rw [lex_silent hfirst, lex_silent hsecond]

theorem hexValue_hexDigit : ∀ n < 16, hexValue (hexDigit n) = some n := by
  decide

theorem next_digit {c : Char} {digit : Nat} (hc : hexValue c = some digit) (value : List Char)
    {digits : List Nat} (hdigits : digits.length < 3) :
    next (.unit value none digits) c = some ([], .unit value none (digits ++ [digit])) := by
  rw [next, hc, Option.bind_some, if_pos hdigits]

/-- The codes of the characters that are written with `\u` are read back. -/
theorem lex_control {c : Char} (hc : c.toNat < 32) (value rest : List Char) :
    lex (.text value)
        ('\\' :: 'u' :: '0' :: '0' :: hexDigit (c.toNat / 16) :: hexDigit (c.toNat % 16) :: rest) =
      lex (.text (value ++ [c])) rest := by
  have hbackslash : next (.text value) '\\' = some ([], .escape value) := by
    rw [next, if_neg (by decide), if_pos rfl]
  have hmark : next (.escape value) 'u' = some ([], .unit value none []) := by
    rw [next, if_pos rfl]
  have hzero : hexValue '0' = some 0 := by decide
  have hhigh := hexValue_hexDigit (c.toNat / 16) (by omega)
  have hlow := hexValue_hexDigit (c.toNat % 16) (by omega)
  have hcode : [0, 0, c.toNat / 16, c.toNat % 16].foldl (fun n d => 16 * n + d) 0 = c.toNat := by
    show 16 * (16 * (16 * (16 * 0 + 0) + 0) + c.toNat / 16) + c.toNat % 16 = c.toNat
    omega
  have hadd : addUnit value none c.toNat = some (.text (value ++ [c])) := by
    rw [addUnit]
    rw [if_neg (by omega), if_neg (by omega), Char.ofNat_toNat]
  have hlast : next (.unit value none [0, 0, c.toNat / 16]) (hexDigit (c.toNat % 16)) =
      some ([], .text (value ++ [c])) := by
    have hlength : ¬[0, 0, c.toNat / 16].length < 3 := Nat.lt_irrefl 3
    rw [next, hlow, Option.bind_some, if_neg hlength]
    show (addUnit value none ([0, 0, c.toNat / 16, c.toNat % 16].foldl _ 0)).map _ = _
    rw [hcode, hadd, Option.map_some]
  rw [lex_silent hbackslash, lex_silent hmark, lex_silent (next_digit hzero value (by decide)),
    lex_silent (next_digit hzero value (by decide)),
    lex_silent (next_digit hhigh value (by decide))]
  exact lex_silent hlast rest

/-- An escaped character is read back. -/
theorem lex_escape (c : Char) (value rest : List Char) :
    lex (.text value) (escape c ++ rest) = lex (.text (value ++ [c])) rest := by
  unfold escape
  split_ifs with h1 h2 h3 h4 h5 h6 h7 h8
  · subst h1
    exact lex_backslash (by decide) (by decide) value rest
  · subst h2
    exact lex_backslash (by decide) (by decide) value rest
  · subst h3
    exact lex_backslash (by decide) (by decide) value rest
  · subst h4
    exact lex_backslash (by decide) (by decide) value rest
  · subst h5
    exact lex_backslash (by decide) (by decide) value rest
  · subst h6
    exact lex_backslash (by decide) (by decide) value rest
  · subst h7
    exact lex_backslash (by decide) (by decide) value rest
  · exact lex_control h8 value rest
  · apply lex_silent
    rw [next, if_neg h1, if_neg h2, if_neg h8]

theorem lex_flatMap_escape (xs value rest : List Char) :
    lex (.text value) (xs.flatMap escape ++ '"' :: rest) =
      (lex .between rest).map (.text (value ++ xs) :: ·) := by
  induction xs generalizing value with
  | nil => simp [lex, next]
  | cons c xs ih =>
      rw [List.flatMap_cons, List.append_assoc, lex_escape, ih, List.append_assoc,
        List.singleton_append]

theorem lex_quote (value rest : List Char) :
    lex .between (quote value ++ rest) = (lex .between rest).map (.text value :: ·) := by
  have hbegin : next .between '"' = some ([], .text []) := rfl
  have hfind := lex_flatMap_escape value [] rest
  rw [quote, List.cons_append, List.append_assoc, List.singleton_append, lex_silent hbegin, hfind,
    List.nil_append]

/-- What is known of a mark. -/
theorem mark_spec {c : Char} {t : JsonToken} (h : mark? c = some t) :
    t.chars = [c] ∧ isLetter c = false ∧ begin c = some ([t], .between) := by
  unfold mark? at h
  split at h <;> cases h <;> exact ⟨rfl, rfl, rfl⟩

theorem lex_mark {c : Char} {t : JsonToken} (h : mark? c = some t) (rest : List Char) :
    lex .between (c :: rest) = (lex .between rest).map (t :: ·) := by
  have hnext : next .between c = some ([t], .between) := (mark_spec h).2.2
  rw [lex_cons, hnext, Option.bind_some]
  rfl

/-- Whatever is no word begins with no letter. -/
theorem closed_chars {t : JsonToken} (ht : t.isWord = false) (rest : List Char) :
    Closed (t.chars ++ rest) := by
  cases t with
  | word letters => exact absurd ht (by simp [JsonToken.isWord])
  | _ => exact closed_cons rfl

/-- The tokens are found again in front of whatever does not continue them. -/
theorem lex_render {tokens : List JsonToken} (hspaced : JsonToken.Spaced tokens)
    (hwords : ∀ word, .word word ∈ tokens → word ≠ [] ∧ ∀ c ∈ word, isLetter c = true)
    {rest : List Char} (hrest : Closed rest) :
    lex .between (JsonToken.render tokens ++ rest) = (lex .between rest).map (tokens ++ ·) := by
  induction tokens with
  | nil =>
      rw [JsonToken.render_nil, List.nil_append]
      exact Option.map_id_apply.symm
  | cons t tokens ih =>
      obtain ⟨hnext, hspaced⟩ := List.isChain_cons.mp hspaced
      have hlater := ih hspaced fun word hword => hwords word (List.mem_cons_of_mem _ hword)
      have hfirst : lex .between (t.chars ++ (JsonToken.render tokens ++ rest)) =
          (lex .between (JsonToken.render tokens ++ rest)).map (t :: ·) := by
        cases t with
        | text value => exact lex_quote value _
        | word letters =>
            obtain ⟨hne, hletters⟩ := hwords letters List.mem_cons_self
            refine lex_word hne hletters ?_
            cases tokens with
            | nil => exact hrest
            | cons u tokens =>
                rw [JsonToken.render_cons, List.append_assoc]
                exact closed_chars (hnext u rfl rfl) _
        | openArray => exact lex_mark (c := '[') rfl _
        | closeArray => exact lex_mark (c := ']') rfl _
        | openObject => exact lex_mark (c := '\x7b') rfl _
        | closeObject => exact lex_mark (c := '\x7d') rfl _
        | comma => exact lex_mark (c := ',') rfl _
        | colon => exact lex_mark (c := ':') rfl _
      rw [JsonToken.render_cons, List.append_assoc, hfirst, hlater, Option.map_map]
      rfl

/-- So are those of a written value. -/
theorem lex_text {letters : α → List Char} (hletters : Lettered letters) (tree : JsonTree α)
    {rest : List Char} (hrest : Closed rest) :
    lex .between (tree.text letters ++ rest) =
      (lex .between rest).map (tree.tokens letters ++ ·) := by
  refine lex_render (spaced_tokens letters tree) ?_ hrest
  intro word hword
  obtain ⟨value, rfl⟩ := word_of_mem_tokens hword
  exact ⟨hletters.ne_nil value, hletters.letter value⟩

/-! ## What the machine makes of them -/

section Machine

variable {read : List Char → Option β} {letters : α → List Char}

theorem accepts_cons (read : List Char → Option β) (token : JsonToken) (rest : List JsonToken)
    (place : Place β) :
    accepts read (token :: rest) place = (accept read place token).bind (accepts read rest) := by
  rw [accepts, List.foldlM_cons]
  rfl

theorem put_new {before : List (String × JsonTree β)} {name : String} {value : JsonTree β}
    (h : name ∉ before.map Prod.fst) : put before name value = before ++ [(name, value)] :=
  if_neg h

/-- The tokens of a value, where one may begin, lead behind the value that is read. -/
def Reads (read : List Char → Option β) (letters : α → List Char) (tree : JsonTree α) : Prop :=
  ∀ frames rest,
    accepts read (tree.tokens letters ++ rest) (.value frames) =
      (tree.traverse fun value => read (letters value)).bind fun other =>
        accepts read rest (.done frames other)

/-- So do those of the items of an array. -/
theorem accepts_items {items : List (JsonTree α)} (hitems : ∀ item ∈ items, Reads read letters item)
    {item : JsonTree α} (hitem : Reads read letters item) (before : List (JsonTree β))
    (frames : List (Frame β)) (rest : List JsonToken) :
    accepts read (item.tokens letters ++
        ((items.map (tokens letters)).flatMap (JsonToken.comma :: ·) ++ .closeArray :: rest))
        (.value (.items before :: frames)) =
      (traverseItems (fun value => read (letters value)) (item :: items)).bind fun others =>
        accepts read rest (.done frames (.array (before ++ others))) := by
  induction items generalizing item before with
  | nil =>
      rw [List.map_nil, List.flatMap_nil, List.nil_append, hitem, traverseItems, Option.bind_assoc]
      congr 1
  | cons next items ih =>
      obtain ⟨hnext, hrest⟩ := List.forall_mem_cons.mp hitems
      rw [List.map_cons, List.flatMap_cons, List.cons_append, List.cons_append, List.append_assoc,
        hitem, traverseItems, Option.bind_assoc]
      congr 1
      funext other
      rw [accepts_cons]
      show accepts read _ (.value (.items (before ++ [other]) :: frames)) = _
      rw [ih hrest hnext (before ++ [other]), Option.bind_map]
      congr 1
      funext others
      rw [Function.comp_apply, List.append_assoc, List.singleton_append]

/-- And those of the members of an object, whose names differ. -/
theorem accepts_members {members : List (String × JsonTree α)}
    (hmembers : ∀ member ∈ members, Reads read letters member.2) {name : String}
    {value : JsonTree α} (hvalue : Reads read letters value) (before : List (String × JsonTree β))
    (hnames : (before.map Prod.fst ++ name :: members.map Prod.fst).Nodup)
    (frames : List (Frame β)) (rest : List JsonToken) :
    accepts read (.colon :: (value.tokens letters ++
        ((members.map fun member =>
          JsonToken.text member.1.toList :: .colon :: tokens letters member.2).flatMap
            (JsonToken.comma :: ·) ++ .closeObject :: rest)))
        (.colon frames before name) =
      (traverseMembers (fun value => read (letters value)) ((name, value) :: members)).bind
        fun others => accepts read rest (.done frames (.object (before ++ others))) := by
  induction members generalizing name value before with
  | nil =>
      have hnew : name ∉ before.map Prod.fst := by
        intro hmem
        exact (List.nodup_append.mp hnames).2.2 name hmem name List.mem_cons_self rfl
      rw [accepts_cons]
      show accepts read _ (.value (.member before name :: frames)) = _
      rw [List.map_nil, List.flatMap_nil, List.nil_append, hvalue, traverseMembers, Option.bind_assoc]
      congr 1
      funext other
      rw [accepts_cons]
      show accepts read rest (.done frames (.object (put before name other))) = _
      rw [put_new hnew]
      rfl
  | cons next members ih =>
      obtain ⟨hnext, hrest⟩ := List.forall_mem_cons.mp hmembers
      have hnew : name ∉ before.map Prod.fst := by
        intro hmem
        exact (List.nodup_append.mp hnames).2.2 name hmem name List.mem_cons_self rfl
      rw [accepts_cons]
      show accepts read _ (.value (.member before name :: frames)) = _
      rw [List.map_cons, List.flatMap_cons, List.cons_append, List.cons_append, List.cons_append,
        List.cons_append, List.append_assoc, hvalue, traverseMembers, Option.bind_assoc]
      congr 1
      funext other
      rw [accepts_cons]
      show accepts read _ (.name frames (put before name other)) = _
      rw [accepts_cons]
      show accepts read _ (.colon frames (put before name other) (String.ofList next.1.toList)) = _
      rw [put_new hnew, String.ofList_toList]
      have hlonger : ((before ++ [(name, other)]).map Prod.fst ++
          next.1 :: members.map Prod.fst).Nodup := by
        rw [List.map_append, List.append_assoc]
        exact hnames
      rw [List.cons_append, ih hrest hnext _ hlonger, Option.bind_map]
      congr 1
      funext others
      rw [Function.comp_apply, List.append_assoc, List.singleton_append]

/-- Behind `[`, an item is read as a value in the array. -/
theorem accepts_first (tree : JsonTree α) (frames : List (Frame β)) (rest : List JsonToken) :
    accepts read (tree.tokens letters ++ rest) (.items frames) =
      accepts read (tree.tokens letters ++ rest) (.value (.items [] :: frames)) := by
  cases tree <;> rfl

theorem reads_tree (tree : JsonTree α) (hnames : tree.uniqueNames = true) :
    Reads read letters tree := by
  induction tree using induct with
  | atom value =>
      intro frames rest
      rw [tokens, List.singleton_append, accepts_cons, traverse, Option.bind_map]
      show ((read (letters value)).map _).bind _ = _
      rw [Option.bind_map]
      rfl
  | string value =>
      intro frames rest
      rw [tokens, List.singleton_append, accepts_cons]
      show accepts read rest (.done frames (.string (String.ofList value.toList))) = _
      rw [String.ofList_toList]
      rfl
  | array items ih =>
      intro frames rest
      have hreads : ∀ item ∈ items, Reads read letters item := by
        intro item hitem
        exact ih item hitem (uniqueNames_array.mp hnames item hitem)
      rw [tokens, itemTokens_eq, List.cons_append, accepts_cons]
      show accepts read _ (.items frames) = _
      cases items with
      | nil => rfl
      | cons item items =>
          obtain ⟨hitem, hitems⟩ := List.forall_mem_cons.mp hreads
          rw [List.map_cons, joined, List.append_assoc, List.append_assoc, List.singleton_append,
            accepts_first, accepts_items hitems hitem, traverse, Option.bind_map]
          rfl
  | object members ih =>
      intro frames rest
      obtain ⟨hdiffer, hvalues⟩ := uniqueNames_object.mp hnames
      have hreads : ∀ member ∈ members, Reads read letters member.2 := by
        intro member hmember
        exact ih member hmember (hvalues member hmember)
      rw [tokens, memberTokens_eq, List.cons_append, accepts_cons]
      show accepts read _ (.names frames) = _
      cases members with
      | nil => rfl
      | cons member members =>
          obtain ⟨hmember, hmembers⟩ := List.forall_mem_cons.mp hreads
          rw [List.map_cons, joined, List.append_assoc, List.append_assoc, List.singleton_append,
            List.cons_append, accepts_cons]
          show accepts read _ (.colon frames [] (String.ofList member.1.toList)) = _
          rw [String.ofList_toList, List.cons_append,
            accepts_members hmembers hmember [] hdiffer, traverse, Option.bind_map]
          rfl

end Machine

/-! ## Reading a text -/

theorem closed_of_blank {rest : List Char} (h : ∀ c ∈ rest, isBlank c = true) : Closed rest := by
  intro c hc
  have hblank := h c (List.mem_of_mem_head? hc)
  simp only [isBlank, Bool.or_eq_true, beq_iff_eq] at hblank
  rcases hblank with ((rfl | rfl) | rfl) | rfl <;> decide

theorem lex_blank {rest : List Char} (h : ∀ c ∈ rest, isBlank c = true) :
    lex .between rest = some [] := by
  induction rest with
  | nil => rfl
  | cons c rest ih =>
      obtain ⟨hc, hrest⟩ := List.forall_mem_cons.mp h
      have hnext : next .between c = some ([], .between) := if_pos hc
      rw [lex_silent hnext, ih hrest]

/-- Of a written value, with blanks behind it, is read the value with its atoms read again, and
nothing when one of them cannot be read. -/
theorem parse_text {read : List Char → Option β} {letters : α → List Char}
    (hletters : Lettered letters) {tree : JsonTree α} (hnames : tree.uniqueNames = true)
    {blanks : List Char} (hblanks : ∀ c ∈ blanks, isBlank c = true) :
    parse read (tree.text letters ++ blanks) =
      tree.traverse fun value => read (letters value) := by
  have hlex : lex .between (tree.text letters ++ blanks) = some (tree.tokens letters) := by
    rw [lex_text hletters tree (closed_of_blank hblanks), lex_blank hblanks, Option.map_some,
      List.append_nil]
  have hreads : Reads read letters tree := reads_tree tree hnames
  have hwhole := hreads [] []
  rw [List.append_nil] at hwhole
  rw [parse, hlex, Option.bind_some, hwhole]
  cases tree.traverse fun value => read (letters value) with
  | none => rfl
  | some other => rfl

/-- Values are told apart by their texts when their atoms are. -/
theorem text_injective {letters : α → List Char} (hletters : Lettered letters) {ok : α → Bool}
    (hinj : ∀ a b, ok a = true → ok b = true → letters a = letters b → a = b)
    {first second : JsonTree α} (hfirst : first.uniqueNames = true)
    (hsecond : second.uniqueNames = true) (hfirstOk : first.allAtoms ok = true)
    (hsecondOk : second.allAtoms ok = true) (h : first.text letters = second.text letters) :
    first = second := by
  classical
  let read : List Char → Option α := fun word =>
    if h : ∃ a, ok a = true ∧ letters a = word then some h.choose else none
  have hread : ∀ a, ok a = true → read (letters a) = some a := by
    intro a ha
    have hex : ∃ b, ok b = true ∧ letters b = letters a := ⟨a, ha, rfl⟩
    have hchoose := hex.choose_spec
    show (if h : ∃ b, ok b = true ∧ letters b = letters a then some h.choose else none) = _
    rw [dif_pos hex, hinj _ a hchoose.1 ha hchoose.2]
  have hone {tree : JsonTree α} (hnames : tree.uniqueNames = true) (hok : tree.allAtoms ok = true) :
      parse read (tree.text letters ++ []) = some tree := by
    rw [parse_text hletters hnames (fun c hc => absurd hc List.not_mem_nil)]
    rw [traverse_eq_mapAtoms hread tree hok]
    exact congrArg some (mapAtoms_eq_self (fun _ _ => rfl) tree hok)
  have hboth := hone hfirst hfirstOk
  rw [h, hone hsecond hsecondOk] at hboth
  exact (Option.some.inj hboth).symm

end JsonTree

end AvantimePlatform
