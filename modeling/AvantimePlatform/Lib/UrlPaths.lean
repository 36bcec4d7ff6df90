import Mathlib

/-!
# Addresses that begin with a slash

How a URL parser reads an address that begins with a slash, against a base of the scheme
`https`: blanks and line breaks, the authority behind two slashes, the segments of the path
with the dot segments, percent-encoding, query and fragment.

* `pathOf_eq`: which segment comes first, when no later one takes it away again.
* `parse_serialize`: what is serialised is parsed as it was, when the path does not open with
  an empty segment.

What an authority stands for is a parameter.  Nothing here names a component of the platform.
-/

namespace AvantimePlatform.UrlPaths

/-! ## Characters -/

/-- `/` and, in the schemes of the web, `\`. -/
def isSlash (c : Char) : Bool := c == '/' || c == '\\'

def isC0OrSpace (c : Char) : Bool := decide (c.toNat ≤ 32)

def isTabOrNewline (c : Char) : Bool := c == '\t' || c == '\n' || c == '\r'

/-- The address without blanks around it, and without tabs and line breaks. -/
def clean (address : List Char) : List Char :=
  ((address.dropWhile isC0OrSpace).rdropWhile isC0OrSpace).filter fun c => !isTabOrNewline c

def hexDigit (n : Nat) : Char := "0123456789ABCDEF".toList.getD n '0'

def percentByte (byte : UInt8) : List Char :=
  ['%', hexDigit (byte.toNat / 16), hexDigit (byte.toNat % 16)]

/-- A character of a set, or one that is no printable ASCII, is percent-encoded. -/
def isEncoded (set : List Char) (c : Char) : Bool :=
  set.contains c || decide (c.toNat < 32) || decide (126 < c.toNat)

def encode (set : List Char) (text : List Char) : List Char :=
  text.flatMap fun c =>
    if isEncoded set c then (String.utf8EncodeChar c).flatMap percentByte else [c]

def pathSet : List Char := " \"#<>?`\x7b\x7d".toList

def querySet : List Char := " \"#<>'".toList

def fragmentSet : List Char := " \"<>`".toList

/-! ## Segments -/

/-- Cut at the slashes. -/
def segments : List Char → List (List Char)
  | [] => [[]]
  | c :: rest =>
    if isSlash c then [] :: segments rest
    else match segments rest with
      | segment :: others => (c :: segment) :: others
      | [] => [[c]]

def isSingleDot (segment : List Char) : Bool :=
  [".", "%2e"].contains (String.ofList (segment.map Char.toLower))

def isDoubleDot (segment : List Char) : Bool :=
  ["..", ".%2e", "%2e.", "%2e%2e"].contains (String.ofList (segment.map Char.toLower))

/-- A segment that another one follows. -/
def step (path : List (List Char)) (segment : List Char) : List (List Char) :=
  let buffer := encode pathSet segment
  if isDoubleDot buffer then path.dropLast
  else if isSingleDot buffer then path
  else path ++ [buffer]

/-- The last segment. -/
def finish (path : List (List Char)) (segment : List Char) : List (List Char) :=
  let buffer := encode pathSet segment
  if isDoubleDot buffer then path.dropLast ++ [[]]
  else if isSingleDot buffer then path ++ [[]]
  else path ++ [buffer]

/-- The path that segments lead to. -/
def pathOf : List (List Char) → List (List Char) → List (List Char)
  | path, [] => path
  | path, [segment] => finish path segment
  | path, segment :: next :: rest => pathOf (step path segment) (next :: rest)

/-! ## Addresses -/

/-- What is before a character, and what is behind it when it is there. -/
def cutAt (mark : Char) : List Char → List Char × Option (List Char)
  | [] => ([], none)
  | c :: rest =>
    if c = mark then ([], some rest)
    else (c :: (cutAt mark rest).1, (cutAt mark rest).2)

/-- An address in its parts; no query and an empty one look the same. -/
structure Url (Origin : Type) where
  origin : Origin
  path : List (List Char)
  query : List Char
  fragment : List Char

/-- What ends an authority. -/
def endsAuthority (c : Char) : Bool := isSlash c || c == '?' || c == '#'

section Parsing

variable {Origin : Type} (authority : List Char → Option Origin)

/-- The path, the query and the fragment behind the origin. -/
def parseBehind (origin : Origin) (text : List Char) : Url Origin where
  origin := origin
  path := pathOf [] (segments ((cutAt '?' (cutAt '#' text).1).1.drop 1))
  query := encode querySet ((cutAt '?' (cutAt '#' text).1).2.getD [])
  fragment := encode fragmentSet ((cutAt '#' text).2.getD [])

/-- `new URL(address, base)`, of an address that begins with a slash. -/
def parse (base : Origin) (address : List Char) : Option (Url Origin) :=
  match clean address with
  | '/' :: rest =>
    if rest.head?.any isSlash then
      let behind := rest.dropWhile isSlash
      (authority (behind.takeWhile fun c => !endsAuthority c)).map fun origin =>
        parseBehind origin (behind.dropWhile fun c => !endsAuthority c)
    else some (parseBehind base ('/' :: rest))
  | _ => none

/-- A part with its mark, when there is anything in it. -/
def withMark (mark : Char) (part : List Char) : List Char :=
  if part = [] then [] else mark :: part

/-- `pathname`. -/
def pathname (path : List (List Char)) : List Char := path.flatMap ('/' :: ·)

/-- `pathname`, `search` and `hash`. -/
def serialize (url : Url Origin) : List Char :=
  pathname url.path ++ withMark '?' url.query ++ withMark '#' url.fragment

end Parsing

/-! ## Percent-encoding -/

section Encoding

variable {set text : List Char}

/-- No character has to be encoded. -/
def NotEncoded (set text : List Char) : Prop := ∀ c ∈ text, isEncoded set c = false

theorem encode_eq_self (h : NotEncoded set text) : encode set text = text := by
  induction text with
  | nil => rfl
  | cons c text ih =>
      obtain ⟨hc, htext⟩ := List.forall_mem_cons.mp h
      show (if isEncoded set c then _ else [c]) ++ encode set text = _
      rw [hc, ih htext]
      rfl

theorem encode_eq_nil : encode set text = [] ↔ text = [] := by
  constructor
  · intro h
    cases text with
    | nil => rfl
    | cons c text =>
        have hfirst : (if isEncoded set c then (String.utf8EncodeChar c).flatMap percentByte
            else [c]) = [] := (List.append_eq_nil_iff.mp h).1
        split at hfirst
        · have hbytes := List.flatMap_eq_nil_iff.mp hfirst
          have hne : String.utf8EncodeChar c ≠ [] := by
            intro hnil
            have hlength := congrArg List.length hnil
            rw [String.length_utf8EncodeChar] at hlength
            exact absurd hlength (Nat.ne_of_gt (Char.utf8Size_pos c))
          obtain ⟨byte, hbyte⟩ := List.exists_mem_of_ne_nil _ hne
          exact absurd (hbytes byte hbyte) (List.cons_ne_nil _ _)
        · exact absurd hfirst (List.cons_ne_nil _ _)
  · rintro rfl
    rfl

/-- The characters that percent-encoding writes. -/
def percentChars : List Char := '%' :: "0123456789ABCDEF".toList

theorem hexDigit_mem {n : Nat} (hn : n < 16) : hexDigit n ∈ percentChars := by
  have hall : ∀ n < 16, hexDigit n ∈ percentChars := by decide
  exact hall n hn

theorem mem_percentByte {byte : UInt8} {c : Char} (h : c ∈ percentByte byte) : c ∈ percentChars := by
  have hbyte : byte.toNat < 256 := byte.toNat_lt
  simp only [percentByte, List.mem_cons, List.not_mem_nil, or_false] at h
  rcases h with rfl | rfl | rfl
  · exact List.mem_cons_self
  · exact hexDigit_mem (by omega)
  · exact hexDigit_mem (by omega)

/-- A character of an encoded text is one of the text that needs no encoding, or is written by
the encoding. -/
theorem mem_encode {c : Char} (h : c ∈ encode set text) :
    (c ∈ text ∧ isEncoded set c = false) ∨ c ∈ percentChars := by
  obtain ⟨d, hd, hc⟩ := List.mem_flatMap.mp h
  split at hc
  · obtain ⟨byte, -, hbyte⟩ := List.mem_flatMap.mp hc
    exact Or.inr (mem_percentByte hbyte)
  · next hplain =>
      obtain rfl := List.mem_singleton.mp hc
      exact Or.inl ⟨hd, Bool.eq_false_iff.mpr hplain⟩

theorem notEncoded_encode (hset : percentChars.all (fun c => !isEncoded set c) = true)
    (text : List Char) : NotEncoded set (encode set text) := by
  intro c hc
  rcases mem_encode hc with ⟨-, hplain⟩ | hpercent
  · exact hplain
  · have hnot := List.all_eq_true.mp hset c hpercent
    rwa [Bool.not_eq_true'] at hnot

end Encoding

/-! ## The first segment of a path -/

section Paths

/-- How many segments there are after some more, none of them the last. -/
def level (depth : Nat) (segments : List (List Char)) : Nat :=
  segments.foldl (fun depth segment =>
    if isDoubleDot (encode pathSet segment) then depth - 1
    else if isSingleDot (encode pathSet segment) then depth
    else depth + 1) depth

theorem level_append (depth : Nat) (xs ys : List (List Char)) :
    level depth (xs ++ ys) = level (level depth xs) ys :=
  List.foldl_append

theorem length_step (path : List (List Char)) (segment : List Char) :
    (step path segment).length = level path.length [segment] := by
  unfold step level
  dsimp only [List.foldl]
  split_ifs
  · exact List.length_dropLast
  · rfl
  · exact List.length_append

theorem length_foldl_step (path xs : List (List Char)) :
    (xs.foldl step path).length = level path.length xs := by
  induction xs generalizing path with
  | nil => rfl
  | cons segment xs ih =>
      rw [List.foldl_cons, ih, length_step]
      rfl

theorem pathOf_append (path xs : List (List Char)) {ys : List (List Char)} (hys : ys ≠ []) :
    pathOf path (xs ++ ys) = pathOf (xs.foldl step path) ys := by
  induction xs generalizing path with
  | nil => rfl
  | cons segment xs ih =>
      obtain ⟨y, rest, hne⟩ : ∃ y rest, xs ++ ys = y :: rest := by
        cases hxs : xs ++ ys with
        | nil => exact absurd (List.append_eq_nil_iff.mp hxs).2 hys
        | cons y rest => exact ⟨y, rest, rfl⟩
      rw [List.cons_append, hne, pathOf, ← hne, ih, List.foldl_cons]

theorem pathOf_ne_nil (path : List (List Char)) {xs : List (List Char)} (hxs : xs ≠ []) :
    pathOf path xs ≠ [] := by
  obtain ⟨before, last, rfl⟩ := List.eq_nil_or_concat xs |>.resolve_left hxs
  rw [List.concat_eq_append, pathOf_append path before (List.cons_ne_nil _ _), pathOf, finish]
  split_ifs <;> simp

/-- A first segment that no later one takes away stays the first. -/
theorem pathOf_cons {first : List Char} {path xs : List (List Char)}
    (h : ∀ k ≤ xs.length, 0 < level (path.length + 1) (xs.take k)) :
    pathOf (first :: path) xs = first :: pathOf path xs := by
  induction xs generalizing path with
  | nil => rfl
  | cons segment xs ih =>
      have hone := h 1 (Nat.succ_le_succ (Nat.zero_le _))
      rw [List.take_succ_cons, List.take_zero] at hone
      have hpath (hdots : isDoubleDot (encode pathSet segment) = true) : path ≠ [] := by
        rintro rfl
        rw [level, List.foldl_cons, if_pos hdots] at hone
        exact Nat.lt_irrefl 0 hone
      cases xs with
      | nil =>
          rw [pathOf, pathOf, finish, finish]
          split_ifs with hdots
          · rw [List.dropLast_cons_of_ne_nil (hpath hdots), List.cons_append]
          · rfl
          · rfl
      | cons next xs =>
          have hstep : step (first :: path) segment = first :: step path segment := by
            unfold step
            dsimp only
            split_ifs with hdots
            · exact List.dropLast_cons_of_ne_nil (hpath hdots)
            · rfl
            · rfl
          rw [pathOf, pathOf, hstep]
          apply ih
          intro k hk
          have hmore := h (k + 1) (Nat.succ_le_succ hk)
          rw [List.take_succ_cons] at hmore
          have hsame : level (path.length + 1) (segment :: (next :: xs).take k) =
              level ((step path segment).length + 1) ((next :: xs).take k) := by
            have hlength : level (path.length + 1) [segment] = (step path segment).length + 1 := by
              have hfirst := length_step (first :: path) segment
              rw [hstep, List.length_cons] at hfirst
              exact hfirst.symm
            rw [← hlength]
            rfl
          rw [← hsame]
          exact hmore

/-- An empty segment opens the path, another one follows, and none takes it away. -/
def OpensWithEmpty (segments : List (List Char)) : Prop :=
  ∃ before after, segments = before ++ [] :: after ∧ after ≠ [] ∧ level 0 before = 0 ∧
    ∀ k ≤ after.length, 0 < level 1 (after.take k)

/-- The path opens with an empty segment, and there is another one. -/
def EmptyFirst (path : List (List Char)) : Prop := ∃ second rest, path = [] :: second :: rest

/-- A segment that is read when the path is empty, and that no later one takes away. -/
theorem pathOf_opening {before after : List (List Char)} {segment : List Char}
    (hbefore : level 0 before = 0) (hafter : after ≠ [])
    (hstays : ∀ k ≤ after.length, 0 < level 1 (after.take k))
    (hdots : isDoubleDot (encode pathSet segment) = false)
    (hdot : isSingleDot (encode pathSet segment) = false) :
    pathOf [] (before ++ segment :: after) = encode pathSet segment :: pathOf [] after := by
  have hempty : before.foldl step [] = [] := by
    apply List.eq_nil_of_length_eq_zero
    rw [length_foldl_step]
    exact hbefore
  obtain ⟨next, rest, rfl⟩ := List.exists_cons_of_ne_nil hafter
  have hstep : step [] segment = [encode pathSet segment] := by
    rw [step]
    rw [hdots, hdot]
    rfl
  rw [pathOf_append [] before (List.cons_ne_nil _ _), hempty, pathOf, hstep]
  exact pathOf_cons hstays

/-- When the last segment leaves no other, it leaves an empty one. -/
theorem pathOf_of_level_eq_zero {xs : List (List Char)} (hxs : xs ≠ []) (h : level 0 xs = 0) :
    pathOf [] xs = [[]] := by
  obtain ⟨before, last, rfl⟩ := List.eq_nil_or_concat xs |>.resolve_left hxs
  rw [List.concat_eq_append] at h ⊢
  have hlength := length_foldl_step [] before
  rw [level_append] at h
  rw [pathOf_append [] before (List.cons_ne_nil _ _), pathOf, finish]
  rw [level, List.foldl_cons, List.foldl_nil] at h
  split_ifs at h ⊢ with hdots hdot
  · have hshort : (before.foldl step []).dropLast = [] := by
      apply List.eq_nil_of_length_eq_zero
      rw [List.length_dropLast, hlength]
      exact h
    rw [hshort]
    rfl
  · have hshort : before.foldl step [] = [] := by
      apply List.eq_nil_of_length_eq_zero
      rw [hlength]
      exact h
    rw [hshort]
    rfl

/-- Whether the path opens with an empty segment can be seen of the segments. -/
theorem emptyFirst_iff {xs : List (List Char)} (hxs : xs ≠ []) :
    EmptyFirst (pathOf [] xs) ↔ OpensWithEmpty xs := by
  constructor
  · rintro ⟨second, rest, hpath⟩
    -- The last place where nothing is left of what was read.
    have hzero : level 0 (xs.take 0) = 0 := rfl
    obtain ⟨k, hk, hlast⟩ : ∃ k, (k ≤ xs.length ∧ level 0 (xs.take k) = 0) ∧
        ∀ j, k < j → j ≤ xs.length → level 0 (xs.take j) ≠ 0 := by
      refine ⟨Nat.findGreatest (fun k => level 0 (xs.take k) = 0) xs.length,
        ⟨Nat.findGreatest_le _, ?_⟩, ?_⟩
      · exact @Nat.findGreatest_spec 0 (fun k => level 0 (xs.take k) = 0) _ xs.length (Nat.zero_le _) hzero
      · intro j hj hle
        exact @Nat.findGreatest_is_greatest j (fun k => level 0 (xs.take k) = 0) _ xs.length hj hle
    by_cases hend : k = xs.length
    · have hall := hk.2
      rw [hend, List.take_length] at hall
      rw [pathOf_of_level_eq_zero hxs hall] at hpath
      exact absurd hpath (by simp)
    · have hlt : k < xs.length := Nat.lt_of_le_of_ne hk.1 hend
      have hsplit : xs = xs.take k ++ xs[k] :: xs.drop (k + 1) := by
        rw [← List.drop_eq_getElem_cons hlt, List.take_append_drop]
      have htake (j : Nat) (hj : j ≤ (xs.drop (k + 1)).length) :
          level (level 0 [xs[k]]) ((xs.drop (k + 1)).take j) ≠ 0 := by
        have hlength : k + 1 + j ≤ xs.length := by
          rw [List.length_drop] at hj
          omega
        have hne := hlast (k + 1 + j) (by omega) hlength
        have hparts : xs.take (k + 1 + j) =
            xs.take k ++ (xs[k] :: (xs.drop (k + 1)).take j) := by
          rw [List.take_add, List.take_succ_eq_append_getElem hlt, List.append_assoc]
          rfl
        rw [hparts, level_append, hk.2] at hne
        exact hne
      have hself := htake 0 (Nat.zero_le _)
      have hdots : isDoubleDot (encode pathSet xs[k]) = false := by
        rw [Bool.eq_false_iff]
        intro hdots
        exact hself (if_pos hdots)
      have hdot : isSingleDot (encode pathSet xs[k]) = false := by
        rw [Bool.eq_false_iff]
        intro hdot
        refine hself ?_
        show (if isDoubleDot (encode pathSet xs[k]) then _ else _) = 0
        rw [hdots, hdot]
        rfl
      have hdeep : level 0 [xs[k]] = 1 := by
        show (if isDoubleDot (encode pathSet xs[k]) then _ else _) = 1
        rw [hdots, hdot]
        rfl
      rw [hdeep] at htake
      by_cases hafter : xs.drop (k + 1) = []
      · have hempty : (xs.take k).foldl step [] = [] := by
          apply List.eq_nil_of_length_eq_zero
          rw [length_foldl_step]
          exact hk.2
        rw [hsplit, hafter, pathOf_append [] _ (List.cons_ne_nil _ _), hempty, pathOf, finish] at hpath
        rw [hdots, hdot] at hpath
        exact absurd hpath (by simp)
      · have hstays : ∀ j ≤ (xs.drop (k + 1)).length, 0 < level 1 ((xs.drop (k + 1)).take j) :=
          fun j hj => Nat.pos_of_ne_zero (htake j hj)
        rw [hsplit, pathOf_opening hk.2 hafter hstays hdots hdot] at hpath
        have hnil : xs[k] = [] := encode_eq_nil.mp (List.cons.inj hpath).1
        refine ⟨xs.take k, xs.drop (k + 1), ?_, hafter, hk.2, hstays⟩
        rw [← hnil]
        exact hsplit
  · rintro ⟨before, after, rfl, hafter, hbefore, hstays⟩
    have hopen := @pathOf_opening before after [] hbefore hafter hstays (by decide) (by decide)
    obtain ⟨second, rest, hrest⟩ := List.exists_cons_of_ne_nil (pathOf_ne_nil [] hafter)
    exact ⟨second, rest, by rw [hopen, hrest]; rfl⟩

end Paths

/-! ## Serialised addresses -/

/-- A segment as it is in a path: encoded, without a slash, and no dot segment. -/
structure Settled (segment : List Char) : Prop where
  notEncoded : NotEncoded pathSet segment
  noSlash : ∀ c ∈ segment, isSlash c = false
  noDoubleDot : isDoubleDot segment = false
  noSingleDot : isSingleDot segment = false

theorem settled_nil : Settled [] where
  notEncoded c hc := absurd hc List.not_mem_nil
  noSlash c hc := absurd hc List.not_mem_nil
  noDoubleDot := by decide
  noSingleDot := by decide

theorem settled_encode {segment : List Char} (hslash : ∀ c ∈ segment, isSlash c = false)
    (hdots : isDoubleDot (encode pathSet segment) = false)
    (hdot : isSingleDot (encode pathSet segment) = false) : Settled (encode pathSet segment) where
  notEncoded := notEncoded_encode (by decide) segment
  noSlash c hc := by
    rcases mem_encode hc with ⟨hmem, -⟩ | hpercent
    · exact hslash c hmem
    · have hall : percentChars.all (fun c => !isSlash c) = true := by decide
      have hnot := List.all_eq_true.mp hall c hpercent
      rwa [Bool.not_eq_true'] at hnot
  noDoubleDot := hdots
  noSingleDot := hdot

/-- The segments of a path are settled. -/
theorem settled_pathOf {path xs : List (List Char)} (hpath : ∀ segment ∈ path, Settled segment)
    (hxs : ∀ segment ∈ xs, ∀ c ∈ segment, isSlash c = false) :
    ∀ segment ∈ pathOf path xs, Settled segment := by
  have hdrop {path : List (List Char)} (hpath : ∀ segment ∈ path, Settled segment) :
      ∀ segment ∈ path.dropLast, Settled segment :=
    fun segment hsegment => hpath segment (List.mem_of_mem_dropLast hsegment)
  have happend {path : List (List Char)} {last : List Char} (hlast : Settled last)
      (hpath : ∀ segment ∈ path, Settled segment) :
      ∀ segment ∈ path ++ [last], Settled segment := by
    intro segment hsegment
    rcases List.mem_append.mp hsegment with hmem | hmem
    · exact hpath segment hmem
    · rw [List.mem_singleton.mp hmem]
      exact hlast
  induction xs generalizing path with
  | nil => exact hpath
  | cons segment xs ih =>
      obtain ⟨hsegment, hrest⟩ := List.forall_mem_cons.mp hxs
      cases xs with
      | nil =>
          rw [pathOf, finish]
          split_ifs with hdots hdot
          · exact happend settled_nil (hdrop hpath)
          · exact happend settled_nil hpath
          · exact happend (settled_encode hsegment (Bool.eq_false_iff.mpr hdots)
              (Bool.eq_false_iff.mpr hdot)) hpath
      | cons next xs =>
          rw [pathOf]
          refine ih ?_ hrest
          rw [step]
          split_ifs with hdots hdot
          · exact hdrop hpath
          · exact hpath
          · exact happend (settled_encode hsegment (Bool.eq_false_iff.mpr hdots)
              (Bool.eq_false_iff.mpr hdot)) hpath

/-- Settled segments stay as they are. -/
theorem pathOf_settled {path xs : List (List Char)} (hxs : ∀ segment ∈ xs, Settled segment) :
    pathOf path xs = path ++ xs := by
  induction xs generalizing path with
  | nil => exact (List.append_nil path).symm
  | cons segment xs ih =>
      obtain ⟨hsegment, hrest⟩ := List.forall_mem_cons.mp hxs
      have hsame := encode_eq_self hsegment.notEncoded
      cases xs with
      | nil =>
          rw [pathOf, finish, hsame, hsegment.noDoubleDot, hsegment.noSingleDot]
          rfl
      | cons next xs =>
          have hstep : step path segment = path ++ [segment] := by
            rw [step, hsame, hsegment.noDoubleDot, hsegment.noSingleDot]
            rfl
          rw [pathOf, hstep, ih hrest, List.append_assoc, List.singleton_append]

theorem segments_ne_nil (text : List Char) : segments text ≠ [] := by
  cases text with
  | nil => exact List.cons_ne_nil _ _
  | cons c text =>
      rw [segments]
      split_ifs
      · exact List.cons_ne_nil _ _
      · split <;> exact List.cons_ne_nil _ _

theorem segments_append {segment : List Char} (hslash : ∀ c ∈ segment, isSlash c = false)
    (rest : List Char) : segments (segment ++ '/' :: rest) = segment :: segments rest := by
  induction segment with
  | nil => rfl
  | cons c segment ih =>
      obtain ⟨hc, hsegment⟩ := List.forall_mem_cons.mp hslash
      rw [List.cons_append, segments, hc, ih hsegment]
      rfl

theorem segments_self {segment : List Char} (hslash : ∀ c ∈ segment, isSlash c = false) :
    segments segment = [segment] := by
  induction segment with
  | nil => rfl
  | cons c segment ih =>
      obtain ⟨hc, hsegment⟩ := List.forall_mem_cons.mp hslash
      rw [segments, hc, ih hsegment]
      rfl

/-- A path is cut into its segments. -/
theorem segments_pathname {path : List (List Char)} (hne : path ≠ [])
    (hslash : ∀ segment ∈ path, ∀ c ∈ segment, isSlash c = false) :
    segments ((pathname path).drop 1) = path := by
  obtain ⟨first, rest, rfl⟩ := List.exists_cons_of_ne_nil hne
  show segments (first ++ pathname rest) = first :: rest
  induction rest generalizing first with
  | nil =>
      rw [pathname, List.flatMap_nil, List.append_nil]
      exact segments_self (hslash first List.mem_cons_self)
  | cons next rest ih =>
      obtain ⟨hfirst, hrest⟩ := List.forall_mem_cons.mp hslash
      show segments (first ++ '/' :: (next ++ pathname rest)) = _
      rw [segments_append hfirst, ih next (List.cons_ne_nil _ _) hrest]

/-- The segments that a text is cut into have no slash. -/
theorem noSlash_segments (text : List Char) :
    ∀ segment ∈ segments text, ∀ c ∈ segment, isSlash c = false := by
  induction text with
  | nil =>
      intro segment hsegment
      rw [List.mem_singleton.mp hsegment]
      exact fun c hc => absurd hc List.not_mem_nil
  | cons d text ih =>
      rw [segments]
      split_ifs with hd
      · intro segment hsegment
        rcases List.mem_cons.mp hsegment with rfl | hmem
        · exact fun c hc => absurd hc List.not_mem_nil
        · exact ih segment hmem
      · have hplain : isSlash d = false := Bool.eq_false_iff.mpr hd
        cases htext : segments text with
        | nil => exact absurd htext (segments_ne_nil text)
        | cons first others =>
            rw [htext] at ih
            obtain ⟨hfirst, hothers⟩ := List.forall_mem_cons.mp ih
            exact List.forall_mem_cons.mpr ⟨List.forall_mem_cons.mpr ⟨hplain, hfirst⟩, hothers⟩

theorem cutAt_notMem {mark : Char} {text : List Char} (h : mark ∉ text) :
    cutAt mark text = (text, none) := by
  induction text with
  | nil => rfl
  | cons c text ih =>
      rw [List.mem_cons, not_or] at h
      rw [cutAt, if_neg (Ne.symm h.1), ih h.2]

theorem cutAt_append {mark : Char} {text : List Char} (h : mark ∉ text) (rest : List Char) :
    cutAt mark (text ++ mark :: rest) = (text, some rest) := by
  induction text with
  | nil => exact if_pos rfl
  | cons c text ih =>
      rw [List.mem_cons, not_or] at h
      rw [List.cons_append, cutAt, if_neg (Ne.symm h.1), ih h.2]

/-- What a mark stands in front of is found again. -/
theorem cutAt_withMark {mark : Char} {text : List Char} (h : mark ∉ text) (part : List Char) :
    (cutAt mark (text ++ withMark mark part)).1 = text ∧
      (cutAt mark (text ++ withMark mark part)).2.getD [] = part := by
  by_cases hpart : part = []
  · rw [withMark, if_pos hpart, List.append_nil, cutAt_notMem h, hpart]
    exact ⟨rfl, rfl⟩
  · rw [withMark, if_neg hpart, cutAt_append h]
    exact ⟨rfl, rfl⟩

/-- An address as it comes out of the parser. -/
structure Url.Settled {Origin : Type} (url : Url Origin) : Prop where
  ne_nil : url.path ≠ []
  path : ∀ segment ∈ url.path, UrlPaths.Settled segment
  query : NotEncoded querySet url.query
  fragment : NotEncoded fragmentSet url.fragment

section Serialised

variable {Origin : Type} {authority : List Char → Option Origin} {url : Url Origin}

theorem settled_parseBehind (origin : Origin) (text : List Char) :
    (parseBehind origin text).Settled where
  ne_nil := pathOf_ne_nil [] (segments_ne_nil _)
  path := settled_pathOf (fun segment hsegment => absurd hsegment List.not_mem_nil)
    (noSlash_segments _)
  query := notEncoded_encode (by decide) _
  fragment := notEncoded_encode (by decide) _

theorem notMem_of_notEncoded {set text : List Char} {c : Char} (h : NotEncoded set text)
    (hc : isEncoded set c = true) : c ∉ text := by
  intro hmem
  rw [h c hmem] at hc
  exact Bool.false_ne_true hc

theorem mem_pathname {path : List (List Char)} {c : Char} (h : c ∈ pathname path) :
    c = '/' ∨ ∃ segment ∈ path, c ∈ segment := by
  obtain ⟨segment, hsegment, hc⟩ := List.mem_flatMap.mp h
  rcases List.mem_cons.mp hc with rfl | hc
  · exact Or.inl rfl
  · exact Or.inr ⟨segment, hsegment, hc⟩

theorem mem_withMark {mark c : Char} {part : List Char} (h : c ∈ withMark mark part) :
    c = mark ∨ c ∈ part := by
  unfold withMark at h
  split at h
  · exact absurd h List.not_mem_nil
  · exact List.mem_cons.mp h

/-- A mark that has to be encoded in a path is not in one. -/
theorem notMem_pathname (hurl : url.Settled) {c : Char} (hslash : c ≠ '/')
    (hc : isEncoded pathSet c = true) : c ∉ pathname url.path := by
  intro hmem
  rcases mem_pathname hmem with rfl | ⟨segment, hsegment, hin⟩
  · exact hslash rfl
  · exact notMem_of_notEncoded (hurl.path segment hsegment).notEncoded hc hin

/-- Every character of a serialised address is a mark or needs no encoding. -/
theorem mem_serialize {c : Char} (h : c ∈ serialize url) :
    c = '/' ∨ c = '?' ∨ c = '#' ∨ (∃ segment ∈ url.path, c ∈ segment) ∨ c ∈ url.query ∨
      c ∈ url.fragment := by
  rcases List.mem_append.mp h with hfront | hfragment
  · rcases List.mem_append.mp hfront with hpath | hquery
    · rcases mem_pathname hpath with rfl | hsegment
      · exact Or.inl rfl
      · exact Or.inr (Or.inr (Or.inr (Or.inl hsegment)))
    · rcases mem_withMark hquery with rfl | hmem
      · exact Or.inr (Or.inl rfl)
      · exact Or.inr (Or.inr (Or.inr (Or.inr (Or.inl hmem))))
  · rcases mem_withMark hfragment with rfl | hmem
    · exact Or.inr (Or.inr (Or.inl rfl))
    · exact Or.inr (Or.inr (Or.inr (Or.inr (Or.inr hmem))))

/-- No blank and no control character is left. -/
theorem not_isC0OrSpace_serialize (hurl : url.Settled) {c : Char} (h : c ∈ serialize url) :
    isC0OrSpace c = false := by
  have hplain {set : List Char} (hset : set.contains ' ' = true) (hc : isEncoded set c = false) :
      isC0OrSpace c = false := by
    unfold isEncoded at hc
    rw [Bool.or_eq_false_iff, Bool.or_eq_false_iff, decide_eq_false_iff_not] at hc
    rw [isC0OrSpace, decide_eq_false_iff_not]
    intro hle
    have hspace : c.toNat = 32 := by omega
    have hchar : c = ' ' := Char.ext (UInt32.toNat_inj.mp hspace)
    rw [hchar, hset] at hc
    exact absurd hc.1.1 (by decide)
  rcases mem_serialize h with rfl | rfl | rfl | ⟨segment, hsegment, hmem⟩ | hmem | hmem
  · decide
  · decide
  · decide
  · exact hplain (by decide) ((hurl.path segment hsegment).notEncoded c hmem)
  · exact hplain (by decide) (hurl.query c hmem)
  · exact hplain (by decide) (hurl.fragment c hmem)

theorem clean_serialize (hurl : url.Settled) : clean (serialize url) = serialize url := by
  have hfront : (serialize url).dropWhile isC0OrSpace = serialize url := by
    cases htext : serialize url with
    | nil => rfl
    | cons c text =>
        have hc : isC0OrSpace c = false :=
          not_isC0OrSpace_serialize hurl (htext ▸ List.mem_cons_self)
        rw [List.dropWhile_cons_of_neg (by rw [hc]; exact Bool.false_ne_true)]
  have hback : (serialize url).rdropWhile isC0OrSpace = serialize url := by
    refine List.rdropWhile_eq_self_iff.mpr fun hne hlast => ?_
    rw [not_isC0OrSpace_serialize hurl (List.getLast_mem hne)] at hlast
    exact Bool.false_ne_true hlast
  have hfilter : (serialize url).filter (fun c => !isTabOrNewline c) = serialize url := by
    refine List.filter_eq_self.mpr fun c hc => ?_
    have hplain := not_isC0OrSpace_serialize hurl hc
    rw [Bool.not_eq_true', Bool.eq_false_iff]
    intro hbreak
    simp only [isTabOrNewline, Bool.or_eq_true, beq_iff_eq] at hbreak
    rcases hbreak with (rfl | rfl) | rfl <;> exact absurd hplain (by decide)
  rw [clean, hfront, hback, hfilter]

/-- What follows the first slash is no slash, unless the path opens with an empty segment. -/
theorem head_serialize (hurl : url.Settled) (hfirst : ¬EmptyFirst url.path) :
    ∃ rest, serialize url = '/' :: rest ∧ rest.head?.any isSlash = false := by
  obtain ⟨first, others, hpath⟩ := List.exists_cons_of_ne_nil hurl.ne_nil
  refine ⟨first ++ pathname others ++ withMark '?' url.query ++ withMark '#' url.fragment, ?_, ?_⟩
  · rw [serialize, hpath]
    simp [pathname]
  · cases first with
    | cons c first =>
        have hmem : c :: first ∈ url.path := hpath ▸ List.mem_cons_self
        exact (hurl.path _ hmem).noSlash c List.mem_cons_self
    | nil =>
        cases others with
        | cons second rest => exact absurd ⟨second, rest, hpath⟩ hfirst
        | nil =>
            unfold withMark
            split_ifs <;> rfl

/-- What is serialised is parsed as it was. -/
theorem parse_serialize (hurl : url.Settled) (hfirst : ¬EmptyFirst url.path) (base : Origin) :
    parse authority base (serialize url) = some { url with origin := base } := by
  obtain ⟨rest, hrest, hhead⟩ := head_serialize hurl hfirst
  have hquestion : '?' ∉ pathname url.path := notMem_pathname hurl (by decide) (by decide)
  have hsharp : '#' ∉ pathname url.path ++ withMark '?' url.query := by
    intro hmem
    rcases List.mem_append.mp hmem with hpath | hquery
    · exact notMem_pathname hurl (by decide) (by decide) hpath
    · rcases mem_withMark hquery with hmark | hin
      · exact absurd hmark (by decide)
      · exact notMem_of_notEncoded hurl.query (by decide) hin
  obtain ⟨hfront, hfragment⟩ := cutAt_withMark hsharp url.fragment
  obtain ⟨hpath, hquery⟩ := cutAt_withMark hquestion url.query
  have hsegments := segments_pathname hurl.ne_nil fun segment hsegment =>
    (hurl.path segment hsegment).noSlash
  have hbehind : parseBehind base (serialize url) = { url with origin := base } := by
    unfold parseBehind serialize
    rw [hfront, hfragment, hpath, hquery, hsegments, pathOf_settled hurl.path, List.nil_append,
      encode_eq_self hurl.query, encode_eq_self hurl.fragment]
  unfold parse
  rw [clean_serialize hurl, hrest]
  show (if rest.head?.any isSlash then _ else some (parseBehind base ('/' :: rest))) = _
  rw [hhead, if_neg Bool.false_ne_true, ← hrest, hbehind]

end Serialised

end AvantimePlatform.UrlPaths
