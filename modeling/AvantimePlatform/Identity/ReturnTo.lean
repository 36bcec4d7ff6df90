import AvantimePlatform.Lib.UrlPaths

/-!
# Return addresses

`safeReturnTo`: which addresses a login may lead back to.

* `returnTo_stays_iff`: an address that is given back stays on the site exactly when no empty
  segment is left in front of another one when the dot segments are taken out of what was
  given.
-/

namespace AvantimePlatform.Identity

open AvantimePlatform.UrlPaths

/-- `LOCAL_ORIGIN`. -/
def localOrigin : String := "https://avantime.local"

section ReturnTo

-- The origin of an authority such as `host:port`, if the URL parser accepts it.
variable (authority : List Char → Option String)

/-- `safeReturnTo`. -/
def safeReturnTo (value : List Char) : Option (List Char) :=
  if value = [] ∨ value.head? ≠ some '/' ∨ ['/', '/'].isPrefixOf value ∨ '\\' ∈ value then none
  else match parse authority localOrigin value with
    | some target => if target.origin ≠ localOrigin then none else some (serialize target)
    | none => none

/-- What is asked of an address that is given back: it resolves to the origin of any page, it
begins with one slash, and it is given back again. -/
structure StaysOnSite (address : List Char) : Prop where
  resolves : ∀ origin, (parse authority origin address).map Url.origin = some origin
  oneSlash : ∃ rest, address = '/' :: rest ∧ rest.head?.any isSlash = false
  again : safeReturnTo authority address = some address

/-- The address behind the authority, when there is one. -/
def behindAuthority (value : List Char) : List Char :=
  match clean value with
  | '/' :: rest =>
    if rest.head?.any isSlash then
      (rest.dropWhile isSlash).dropWhile fun c => !endsAuthority c
    else '/' :: rest
  | _ => []

/-- The segments of the path as they are written. -/
def writtenSegments (value : List Char) : List (List Char) :=
  segments ((cutAt '?' (cutAt '#' (behindAuthority value)).1).1.drop 1)

end ReturnTo

section Stays

variable {authority : List Char → Option String} {value address : List Char}

/-- The checks that come before the address is parsed. -/
theorem safeReturnTo_eq_some : safeReturnTo authority value = some address ↔
    (value ≠ [] ∧ value.head? = some '/' ∧ ['/', '/'].isPrefixOf value = false ∧ '\\' ∉ value) ∧
      ∃ url, parse authority localOrigin value = some url ∧ url.origin = localOrigin ∧
        serialize url = address := by
  unfold safeReturnTo
  split_ifs with hrefused
  · constructor
    · intro h
      exact absurd h (by simp)
    · rintro ⟨⟨hne, hhead, hdouble, hbackslash⟩, -⟩
      rw [hdouble] at hrefused
      rcases hrefused with h | h | h | h
      · exact absurd h hne
      · exact absurd hhead h
      · exact absurd h Bool.false_ne_true
      · exact absurd h hbackslash
  · simp only [not_or, not_not, Bool.not_eq_true] at hrefused
    rw [and_iff_right hrefused]
    cases parse authority localOrigin value with
    | none => simp
    | some url =>
        by_cases horigin : url.origin = localOrigin
        · simp [horigin]
        · simp [horigin]

/-- What the parser makes of a value. -/
theorem parse_eq_some {base : String} {url : UrlPaths.Url String}
    (h : parse authority base value = some url) :
    url = parseBehind url.origin (behindAuthority value) := by
  unfold parse at h
  split at h
  · next rest hclean =>
    have hbehind : behindAuthority value = if rest.head?.any isSlash then
        (rest.dropWhile isSlash).dropWhile fun c => !endsAuthority c else '/' :: rest := by
      simp only [behindAuthority, hclean]
    rw [hbehind]
    dsimp only at h
    split_ifs at h ⊢ with hslash
    · obtain ⟨origin, -, rfl⟩ := Option.map_eq_some_iff.mp h
      rfl
    · obtain rfl := Option.some.inj h
      rfl
  · exact absurd h (by simp)

theorem mem_clean {c : Char} (h : c ∈ clean value) : c ∈ value := by
  have hback := List.mem_of_mem_filter h
  exact (List.dropWhile_sublist _).mem ((List.rdropWhile_prefix _ _).sublist.mem hback)

theorem mem_behindAuthority {c : Char} (h : c ∈ behindAuthority value) : c ∈ value := by
  unfold behindAuthority at h
  split at h
  · next rest hclean =>
    apply mem_clean
    rw [hclean]
    split_ifs at h
    · exact List.mem_cons_of_mem _
        ((List.dropWhile_sublist _).mem ((List.dropWhile_sublist _).mem h))
    · exact h
  · exact absurd h List.not_mem_nil

theorem mem_cutAt {mark c : Char} {text : List Char} :
    (c ∈ (cutAt mark text).1 → c ∈ text) ∧ (c ∈ (cutAt mark text).2.getD [] → c ∈ text) := by
  induction text with
  | nil => exact ⟨id, id⟩
  | cons d text ih =>
      rw [cutAt]
      split_ifs
      · exact ⟨fun h => absurd h List.not_mem_nil, fun h => List.mem_cons_of_mem _ h⟩
      · refine ⟨fun h => ?_, fun h => List.mem_cons_of_mem _ (ih.2 h)⟩
        rcases List.mem_cons.mp h with rfl | h
        · exact List.mem_cons_self
        · exact List.mem_cons_of_mem _ (ih.1 h)

/-- An address that is given back has no backslash, since the value has none. -/
theorem backslash_notMem_serialize (origin : String) (hvalue : '\\' ∉ value) :
    '\\' ∉ serialize (parseBehind origin (behindAuthority value)) := by
  have hpart {set part : List Char} (hmem : '\\' ∈ encode set part)
      (hpart : '\\' ∈ part → '\\' ∈ behindAuthority value) : False := by
    rcases mem_encode hmem with ⟨hin, -⟩ | hpercent
    · exact hvalue (mem_behindAuthority (hpart hin))
    · exact absurd hpercent (by decide)
  intro hmem
  have hsettled := settled_parseBehind origin (behindAuthority value)
  rcases mem_serialize hmem with h | h | h | ⟨segment, hsegment, hin⟩ | hquery | hfragment
  · exact absurd h (by decide)
  · exact absurd h (by decide)
  · exact absurd h (by decide)
  · exact absurd ((hsettled.path segment hsegment).noSlash _ hin) (by decide)
  · exact hpart hquery fun hin => mem_cutAt.1 (mem_cutAt.2 hin)
  · exact hpart hfragment fun hin => mem_cutAt.2 hin

/-- An address that does not open with two slashes is given back as it is. -/
theorem staysOnSite_serialize {url : UrlPaths.Url String} (hurl : url.Settled)
    (hfirst : ¬EmptyFirst url.path) (hbackslash : '\\' ∉ serialize url) :
    StaysOnSite authority (serialize url) := by
  obtain ⟨rest, hrest, hhead⟩ := head_serialize hurl hfirst
  have hparse (origin : String) := @parse_serialize String authority url hurl hfirst origin
  refine ⟨fun origin => by rw [hparse]; rfl, ⟨rest, hrest, hhead⟩, ?_⟩
  refine safeReturnTo_eq_some.mpr ⟨⟨?_, ?_, ?_, hbackslash⟩, _, hparse localOrigin, rfl, rfl⟩
  · rw [hrest]
    exact List.cons_ne_nil _ _
  · rw [hrest]
    rfl
  · rw [hrest]
    cases rest with
    | nil => rfl
    | cons c rest =>
        have hc : c ≠ '/' := by
          rintro rfl
          exact Bool.true_eq_false.mp hhead
        have hne : ('/' == c) = false := beq_false_of_ne hc.symm
        rw [List.isPrefixOf_cons_cons, List.isPrefixOf_cons_cons, hne, Bool.false_and, Bool.and_false]

/-- An address that is given back stays on the site exactly when the path that was written does
not open with an empty segment that another one follows. -/
theorem returnTo_stays_iff (hsafe : safeReturnTo authority value = some address) :
    StaysOnSite authority address ↔ ¬OpensWithEmpty (writtenSegments value) := by
  obtain ⟨⟨-, -, -, hbackslash⟩, url, hparse, -, rfl⟩ := safeReturnTo_eq_some.mp hsafe
  have hbehind := parse_eq_some hparse
  have hsettled : url.Settled := by
    rw [hbehind]
    exact settled_parseBehind _ _
  have hpath : url.path = pathOf [] (writtenSegments value) := by
    rw [hbehind]
    rfl
  have hfirst : EmptyFirst url.path ↔ OpensWithEmpty (writtenSegments value) := by
    rw [hpath]
    exact emptyFirst_iff (segments_ne_nil _)
  rw [← hfirst]
  constructor
  · rintro hstays ⟨second, rest, hopen⟩
    obtain ⟨behind, haddress, hhead⟩ := hstays.oneSlash
    have hdouble : serialize url = '/' :: '/' :: (second ++ pathname rest ++
        withMark '?' url.query ++ withMark '#' url.fragment) := by
      rw [serialize, hopen]
      simp [pathname]
    rw [haddress] at hdouble
    rw [(List.cons.inj hdouble).2] at hhead
    exact Bool.true_eq_false.mp hhead
  · intro hnot
    refine staysOnSite_serialize hsettled hnot ?_
    rw [hbehind]
    exact backslash_notMem_serialize _ hbackslash

/-- The origin of a plain host name. -/
def plainAuthority (authority : List Char) : Option String :=
  if authority = [] then none else some ("https://" ++ String.ofList authority)

theorem returnTo_stays_iff_dashboard :
    StaysOnSite plainAuthority "/dashboard?tab=ai".toList ↔
      ¬OpensWithEmpty (writtenSegments "/dashboard?tab=ai".toList) :=
  returnTo_stays_iff (by decide)

/-- A dot segment in front of two slashes: the address leads to another site. -/
theorem returnTo_leaves_site :
    safeReturnTo plainAuthority "/.//evil.example".toList = some "//evil.example".toList ∧
      (parse plainAuthority "https://platform.example" "//evil.example".toList).map Url.origin =
        some "https://evil.example" ∧
      safeReturnTo plainAuthority "//evil.example".toList = none ∧
      ¬StaysOnSite plainAuthority "//evil.example".toList := by
  refine ⟨by decide, by decide, by decide, fun hstays => ?_⟩
  have hagain := hstays.again
  rw [show safeReturnTo plainAuthority "//evil.example".toList = none by decide] at hagain
  exact absurd hagain (by simp)

end Stays

end AvantimePlatform.Identity
