import AvantimePlatform.Lib.JsonOrder

/-!
# Searching JSON texts

A search of a text for a place where a matcher matches, such as a regular expression makes
it.  The search is blind to the order of members when no match goes beyond a token.

* `Local`: a matcher that does not see past the characters of a class.
* `found_text_sorted`: a search with such a matcher finds in a value what it finds in the
  sorted one, when the marks and quotes of JSON are of the class.

Nothing here names a component of the platform.
-/

namespace AvantimePlatform.JsonSearch

open AvantimePlatform.JsonTree AvantimePlatform.JsonText

universe u

/-- Whether there is a match at a place, after the character before it and with the text from
there. -/
abbrev Matcher := Option Char → List Char → Bool

/-- Whether there is a match anywhere. -/
def found (m : Matcher) : Option Char → List Char → Bool
  | _, [] => false
  | before, c :: rest => m before (c :: rest) || found m (some c) rest

/-- No match begins at, or goes on to, a character of the class, which is like the end of the
text on both sides. -/
structure Local (bounds : Char → Bool) (m : Matcher) : Prop where
  nil (before : Option Char) : m before [] = false
  after (c : Char) (text : List Char) (hc : bounds c = true) : m (some c) text = m none text
  ahead (before : Option Char) (text rest : List Char) (c : Char) (hc : bounds c = true) :
    m before (text ++ c :: rest) = m before text

section Search

variable {bounds : Char → Bool} {m : Matcher}

theorem found_after (hm : Local bounds m) {c : Char} (hc : bounds c = true) (rest : List Char) :
    found m (some c) rest = found m none rest := by
  cases rest with
  | nil => rfl
  | cons d rest => rw [found, found, hm.after c _ hc]

/-- The text before a bound and the text behind it are searched apart. -/
theorem found_append (hm : Local bounds m) {c : Char} (hc : bounds c = true)
    (before : Option Char) (text rest : List Char) :
    found m before (text ++ c :: rest) = (found m before text || found m none rest) := by
  induction text generalizing before with
  | nil =>
      have hnone : m before (c :: rest) = false := by
        rw [← hm.nil before]
        exact hm.ahead before [] rest c hc
      show (m before (c :: rest) || found m (some c) rest) = (false || found m none rest)
      rw [hnone, found_after hm hc]
  | cons d text ih =>
      have hsame : m before (d :: (text ++ c :: rest)) = m before (d :: text) :=
        hm.ahead before (d :: text) rest c hc
      rw [List.cons_append, found, found, hsame, ih, Bool.or_assoc]

theorem found_bound (hm : Local bounds m) {c : Char} (hc : bounds c = true)
    (before : Option Char) (rest : List Char) :
    found m before (c :: rest) = found m none rest :=
  found_append hm hc before [] rest

end Search

/-! ## Tokens -/

/-- The marks and quotes of JSON. -/
def isStructural (c : Char) : Bool :=
  c == '"' || c == '[' || c == ']' || c == '\x7b' || c == '\x7d' || c == ',' || c == ':'

section Tokens

variable {m : Matcher}

theorem found_quote (hm : Local isStructural m) (value rest : List Char) :
    found m none (quote value ++ rest) = (found m none (quote value) || found m none rest) := by
  have hbound : isStructural '"' = true := by decide
  rw [quote, List.cons_append, List.append_assoc, List.singleton_append, found_bound hm hbound,
    found_bound hm hbound, found_append hm hbound, found_append hm hbound]
  rw [show found m none [] = false from rfl, Bool.or_false]

theorem found_mark (hm : Local isStructural m) {t : JsonToken} {c : Char} (ht : t.chars = [c])
    (hc : isStructural c = true) (rest : List Char) :
    found m none (t.chars ++ rest) = (found m none t.chars || found m none rest) := by
  have hnone : found m none [c] = false := found_bound hm hc none []
  rw [ht, List.singleton_append, found_bound hm hc, hnone, Bool.false_or]

/-- Whatever is no word begins with a bound. -/
theorem structural_of_not_word {t : JsonToken} (ht : t.isWord = false) :
    ∃ c chars, t.chars = c :: chars ∧ isStructural c = true := by
  cases t with
  | word letters => exact absurd ht (by simp [JsonToken.isWord])
  | text value => exact ⟨'"', value.flatMap escape ++ ['"'], rfl, by decide⟩
  | openArray => exact ⟨'[', [], rfl, by decide⟩
  | closeArray => exact ⟨']', [], rfl, by decide⟩
  | openObject => exact ⟨'\x7b', [], rfl, by decide⟩
  | closeObject => exact ⟨'\x7d', [], rfl, by decide⟩
  | comma => exact ⟨',', [], rfl, by decide⟩
  | colon => exact ⟨':', [], rfl, by decide⟩

/-- The tokens of a text are searched apart. -/
theorem found_render (hm : Local isStructural m) {tokens : List JsonToken}
    (hspaced : JsonToken.Spaced tokens) :
    found m none (JsonToken.render tokens) = tokens.any fun t => found m none t.chars := by
  induction tokens with
  | nil => rfl
  | cons t tokens ih =>
      obtain ⟨hnext, hspaced⟩ := List.isChain_cons.mp hspaced
      rw [JsonToken.render_cons, List.any_cons, ← ih hspaced]
      cases t with
      | word letters =>
          cases tokens with
          | nil =>
              rw [JsonToken.render_nil, List.append_nil, show found m none [] = false from rfl,
                Bool.or_false]
          | cons u tokens =>
              obtain ⟨c, chars, hchars, hc⟩ := structural_of_not_word (hnext u rfl rfl)
              rw [JsonToken.render_cons, hchars, List.cons_append, found_append hm hc,
                found_bound hm hc]
      | text value => exact found_quote hm value _
      | openArray => exact found_mark hm rfl (by decide) _
      | closeArray => exact found_mark hm rfl (by decide) _
      | openObject => exact found_mark hm rfl (by decide) _
      | closeObject => exact found_mark hm rfl (by decide) _
      | comma => exact found_mark hm rfl (by decide) _
      | colon => exact found_mark hm rfl (by decide) _

theorem any_joined {τ : Type u} {p : τ → Bool} {separator : τ} (hseparator : p separator = false)
    (parts : List (List τ)) : (joined separator parts).any p = parts.any fun part => part.any p := by
  cases parts with
  | nil => rfl
  | cons part parts =>
      rw [joined, List.any_append, List.any_cons, List.any_flatMap]
      congr 2
      funext other
      rw [List.any_cons, hseparator, Bool.false_or]

/-- The sorted value has the same tokens, but for their order. -/
theorem any_tokens_sorted {α : Type u} (le : String → String → Prop) [DecidableRel le]
    {letters : α → List Char} {p : JsonToken → Bool} (hcomma : p .comma = false)
    (tree : JsonTree α) :
    ((sorted le tree).tokens letters).any p = (tree.tokens letters).any p := by
  induction tree using induct with
  | atom value => rfl
  | string value => rfl
  | array items ih =>
      rw [sorted, tokens, tokens, itemTokens_eq, itemTokens_eq, sortedItems_eq, List.any_cons,
        List.any_cons, List.any_append, List.any_append, any_joined hcomma, any_joined hcomma,
        List.any_map, List.any_map, List.any_map]
      congr 2
      rw [Bool.eq_iff_iff, List.any_eq_true, List.any_eq_true]
      exact exists_congr fun item => and_congr_right fun hitem => by
        rw [Function.comp_apply, Function.comp_apply, Function.comp_apply, ih item hitem]
  | object members ih =>
      rw [sorted, tokens, tokens, memberTokens_eq, memberTokens_eq, List.any_cons, List.any_cons,
        List.any_append, List.any_append, any_joined hcomma, any_joined hcomma, List.any_map,
        List.any_map, (perm_sortedMembers le members).any_eq, sortedMembers_eq, List.any_map]
      congr 2
      rw [Bool.eq_iff_iff, List.any_eq_true, List.any_eq_true]
      refine exists_congr fun member => and_congr_right fun hmember => ?_
      rw [Function.comp_apply, Function.comp_apply, Function.comp_apply, List.any_cons,
        List.any_cons, List.any_cons, List.any_cons, ih member hmember]

/-- A search does not see the order of members. -/
theorem found_text_sorted {α : Type u} (hm : Local isStructural m) (le : String → String → Prop)
    [DecidableRel le] (letters : α → List Char) (tree : JsonTree α) :
    found m none ((sorted le tree).text letters) = found m none (tree.text letters) := by
  have hcomma : found m none JsonToken.comma.chars = false :=
    found_bound hm (c := ',') (by decide) none []
  rw [text, text, found_render hm (spaced_tokens letters _), found_render hm (spaced_tokens letters _)]
  exact any_tokens_sorted le hcomma tree

end Tokens

/-! ## Matchers -/

/-- The letter that a character stands for when case is ignored, of those that stand for an
ASCII one. -/
def fold (c : Char) : Char :=
  if c = '\u017f' then 's' else if c = '\u212a' then 'k' else c.toLower

/-- The text behind a word in lower case. -/
def strip : List Char → List Char → Option (List Char)
  | [], text => some text
  | p :: word, c :: text => if fold c = p then strip word text else none
  | _ :: _, [] => none

/-- The word, and behind it what the test asks for. -/
def wordThen (word : List Char) (test : List Char → Bool) : Matcher :=
  fun _ text => (strip word text).any test

def either (first second : Matcher) : Matcher := fun before text => first before text || second before text

/-- Not behind a letter of a word. -/
def atBoundary (isWordLetter : Char → Bool) (m : Matcher) : Matcher :=
  fun before text => !before.any isWordLetter && m before text

section Matchers

variable {bounds : Char → Bool}

theorem strip_bound {c : Char} {word : List Char} (hc : fold c ∉ word) (text rest : List Char) :
    strip word (text ++ c :: rest) = (strip word text).map (· ++ c :: rest) := by
  induction word generalizing text with
  | nil => rfl
  | cons p word ih =>
      rw [List.mem_cons, not_or] at hc
      cases text with
      | nil =>
          show (if fold c = p then strip word rest else none) = none
          rw [if_neg hc.1]
      | cons d text =>
          show (if fold d = p then strip word (text ++ c :: rest) else none) =
            (if fold d = p then strip word text else none).map (· ++ c :: rest)
          by_cases hd : fold d = p
          · rw [if_pos hd, if_pos hd, ih hc.2]
          · rw [if_neg hd, if_neg hd, Option.map_none]

theorem local_wordThen {word : List Char} {test : List Char → Bool} (hne : word ≠ [])
    (hword : ∀ c, bounds c = true → fold c ∉ word)
    (htest : ∀ text rest c, bounds c = true → test (text ++ c :: rest) = test text) :
    Local bounds (wordThen word test) where
  nil before := by
    cases word with
    | nil => exact absurd rfl hne
    | cons p word => rfl
  after c text _ := rfl
  ahead before text rest c hc := by
    show (strip word (text ++ c :: rest)).any test = (strip word text).any test
    rw [strip_bound (hword c hc), Option.any_map]
    congr 1
    funext behind
    exact htest behind rest c hc

theorem local_either {first second : Matcher} (hfirst : Local bounds first)
    (hsecond : Local bounds second) : Local bounds (either first second) where
  nil before := by
    show (first before [] || second before []) = false
    rw [hfirst.nil, hsecond.nil]
    rfl
  after c text hc := by
    show (first (some c) text || second (some c) text) = (first none text || second none text)
    rw [hfirst.after c text hc, hsecond.after c text hc]
  ahead before text rest c hc := by
    show (first before (text ++ c :: rest) || second before (text ++ c :: rest)) = _
    rw [hfirst.ahead before text rest c hc, hsecond.ahead before text rest c hc]
    rfl

theorem local_atBoundary {isWordLetter : Char → Bool} {m : Matcher} (hm : Local bounds m)
    (hletter : ∀ c, bounds c = true → isWordLetter c = false) :
    Local bounds (atBoundary isWordLetter m) where
  nil before := by
    show (!before.any isWordLetter && m before []) = false
    rw [hm.nil, Bool.and_false]
  after c text hc := by
    show (!isWordLetter c && m (some c) text) = (!false && m none text)
    rw [hletter c hc, hm.after c text hc]
  ahead before text rest c hc := by
    show (!before.any isWordLetter && m before (text ++ c :: rest)) = _
    rw [hm.ahead before text rest c hc]
    rfl

end Matchers

end AvantimePlatform.JsonSearch
