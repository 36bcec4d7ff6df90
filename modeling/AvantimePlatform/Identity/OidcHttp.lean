import AvantimePlatform.Lib.Checked
import AvantimePlatform.Lib.Hosts
import AvantimePlatform.Lib.Text

/-!
# The addresses of OIDC requests

`assertOidcNetworkUrl` of `oidc-http.ts`.  What `new URL` makes of a text is a parameter; its
result has a host that is a name, an IPv4 address or an IPv6 address, whatever the spelling was.

`isPrivateIp` reads the text of the host.  That of an IPv6 address is in brackets, for which
`isIP` finds no address at all, so no IPv6 address is private to it.
-/

namespace AvantimePlatform.Identity

open AvantimePlatform.Checked AvantimePlatform.Hosts

/-! ## URLs -/

/-- A parsed URL. -/
structure Url where
  /-- The scheme, without its colon. -/
  scheme : String
  username : String
  password : String
  host : Host
  port : Option Nat
  path : String
  query : Option String
  fragment : Option String

namespace Url

/-- `url.protocol`. -/
def protocol (url : Url) : String := url.scheme ++ ":"

/-- `url.hostname`. -/
def hostname (url : Url) : String := url.host.hostname

/-- `url.hash`. -/
def hash (url : Url) : String :=
  match url.fragment with
  | none => ""
  | some fragment => if fragment = "" then "" else "#" ++ fragment

/-- `url.toString()`. -/
def href (url : Url) : String :=
  url.protocol ++ "//" ++
    (if url.username = "" ∧ url.password = "" then ""
      else url.username ++ (if url.password = "" then "" else ":" ++ url.password) ++ "@") ++
    url.hostname ++ (url.port.map fun port => ":" ++ toString port).getD "" ++ url.path ++
    (url.query.map ("?" ++ ·)).getD "" ++ (url.fragment.map ("#" ++ ·)).getD ""

end Url

/-- `new URL`, which throws for some texts, and `isIP`. -/
structure UrlRuntime where
  parse : String → Option Url
  addresses : AddressReader

/-! ## The source -/

/-- `process.env`. -/
abbrev Environment := String → Option String

def endsWith (value ending : String) : Bool := ending.toList.isSuffixOf value.toList

/-- The tests of `isPrivateIp` on the numbers of an IPv4 address. -/
def isPrivateParts (parts : List Nat) : Bool :=
  let first := parts.getD 0 0
  let second := parts.getD 1 0
  first = 10 || first = 127 || (first = 169 && second = 254) ||
    (first = 172 && 16 ≤ second && second ≤ 31) || (first = 192 && second = 168) || first = 0

def UrlRuntime.isPrivateIp (runtime : UrlRuntime) (hostname : String) : Bool :=
  let version := runtime.addresses.isIP hostname.toList
  if version = 4 then isPrivateParts ((hostname.toList.splitOn '.').map number)
  else version = 6 && (hostname = "::1" || "fc".toList.isPrefixOf hostname.toList ||
    "fd".toList.isPrefixOf hostname.toList)

/-- `mockLoopback`. -/
def isMockLoopback (environment : Environment) (url : Url) : Bool :=
  environment "NODE_ENV" ≠ some "production" && url.protocol = "http:" &&
    (url.hostname = "127.0.0.1" || url.hostname = "localhost")

/-- The condition under which a parsed URL is refused. -/
def UrlRuntime.isRefused (runtime : UrlRuntime) (environment : Environment) (url : Url) : Bool :=
  (!isMockLoopback environment url && url.protocol ≠ "https:") || url.username ≠ "" ||
    url.password ≠ "" || url.hash ≠ "" || endsWith url.hostname ".local" ||
    (!isMockLoopback environment url &&
      (url.hostname = "localhost" || runtime.isPrivateIp url.hostname))

/-- `allowedHosts`. -/
def allowedHosts (environment : Environment) : List String :=
  ((((environment "OIDC_ALLOWED_HOSTS").getD "").toList.splitOn ',').map fun host =>
    Text.toLowerCase (Text.trim (String.ofList host))).filter (· ≠ "")

def assertOidcNetworkUrl (runtime : UrlRuntime) (value : String) (environment : Environment) :
    Except String String :=
  match runtime.parse value with
  | none => .error "OIDC_ENDPOINT_INVALID"
  | some url => do
    require (runtime.isRefused environment url = false) "OIDC_ENDPOINT_INVALID"
    require (environment "NODE_ENV" = some "production" →
        Text.toLowerCase url.hostname ∈ allowedHosts environment)
      "OIDC_ENDPOINT_NOT_ALLOWLISTED"
    return url.href

/-! ## Internal addresses -/

/-- 0/8, 10/8, 127/8, 169.254/16, 172.16/12 and 192.168/16. -/
def IsInternalIpv4 (address : Ipv4) : Prop :=
  address.first = 0 ∨ address.first = 10 ∨ address.first = 127 ∨
    (address.first = 169 ∧ address.second = 254) ∨
    (address.first = 172 ∧ 16 ≤ address.second ∧ address.second ≤ 31) ∨
    (address.first = 192 ∧ address.second = 168)

/-- The IPv4 address that an IPv6 address of `::ffff:0:0/96` stands for. -/
def mappedIpv4 (address : Ipv6) : Option Ipv4 :=
  match address.pieces with
  | [0, 0, 0, 0, 0, 65535, high, low] =>
    some ⟨(high >>> 8).toUInt8, high.toUInt8, (low >>> 8).toUInt8, low.toUInt8⟩
  | _ => none

/-- The loopback address, the addresses of `fc00::/7`, and the mapped forms of internal IPv4
addresses. -/
def IsInternalIpv6 (address : Ipv6) : Prop :=
  address.pieces = [0, 0, 0, 0, 0, 0, 0, 1] ∨
    (∃ first ∈ address.pieces.head?, 64512 ≤ first ∧ first < 65024) ∨
    ∃ mapped ∈ mappedIpv4 address, IsInternalIpv4 mapped

/-- A name without the dot that may stand at its end. -/
def withoutDot (name : String) : String :=
  if endsWith name "." then String.ofList name.toList.dropLast else name

/-- A name of the local machine or of the local network. -/
def IsLocalName (name : String) : Prop :=
  withoutDot name = "localhost" ∨ endsWith (withoutDot name) ".local" = true

def IsInternal : Host → Prop
  | .domain name => IsLocalName name
  | .ipv4 address => IsInternalIpv4 address
  | .ipv6 address => IsInternalIpv6 address

/-- What the property says of a URL. -/
structure IsPublicUrl (url : Url) : Prop where
  https : url.scheme = "https"
  noCredentials : url.username = "" ∧ url.password = ""
  noFragment : url.fragment = none
  notInternal : ¬IsInternal url.host

/-- The hosts that the tests on the text miss: names of the local network with a dot at their
end, and every internal IPv6 address. -/
def IsMissed : Host → Prop
  | .domain name => endsWith name "." = true ∧ IsLocalName name
  | .ipv4 _ => False
  | .ipv6 address => IsInternalIpv6 address

/-! ## What the tests find -/

section Tests

variable {runtime : UrlRuntime} {environment : Environment} {url : Url} {value href : String}

theorem isPrivateParts_iff (address : Ipv4) :
    isPrivateParts (address.bytes.map UInt8.toNat) = true ↔ IsInternalIpv4 address := by
  simp only [isPrivateParts, Ipv4.bytes, List.map_cons, List.getD_cons_zero, List.getD_cons_succ,
    Bool.or_eq_true, Bool.and_eq_true, decide_eq_true_eq, IsInternalIpv4, ← UInt8.toNat_inj,
    UInt8.le_iff_toNat_le, UInt8.reduceToNat]
  omega

/-- `isPrivateIp` knows the internal IPv4 addresses. -/
theorem isPrivateIp_ipv4 (address : Ipv4) :
    runtime.isPrivateIp (Host.ipv4 address).hostname = true ↔ IsInternalIpv4 address := by
  unfold UrlRuntime.isPrivateIp Host.hostname
  rw [String.toList_ofList, isIP_ipv4, numbers_text]
  exact isPrivateParts_iff address

theorem isLocalName_iff {name : String} (hlocalhost : name ≠ "localhost")
    (hlocal : endsWith name ".local" = false) :
    IsLocalName name ↔ endsWith name "." = true ∧ IsLocalName name := by
  refine ⟨fun hname => ⟨?_, hname⟩, And.right⟩
  by_contra hdot
  unfold IsLocalName withoutDot at hname
  rw [if_neg hdot] at hname
  rcases hname with rfl | hends
  · exact hlocalhost rfl
  · rw [hlocal] at hends
    cases hends

/-- What is known of a URL that is accepted and is not on the loopback. -/
theorem accepted_spec (hparse : runtime.parse value = some url)
    (haccepted : assertOidcNetworkUrl runtime value environment = .ok href)
    (hmock : isMockLoopback environment url = false) :
    url.protocol = "https:" ∧ url.username = "" ∧ url.password = "" ∧ url.hash = "" ∧
      endsWith url.hostname ".local" = false ∧ url.hostname ≠ "localhost" ∧
      runtime.isPrivateIp url.hostname = false := by
  unfold assertOidcNetworkUrl at haccepted
  rw [hparse] at haccepted
  obtain ⟨hrefused, -⟩ := seq_eq_ok.mp haccepted
  have hnot : runtime.isRefused environment url = false := require_eq_ok.mp hrefused
  unfold UrlRuntime.isRefused at hnot
  rw [hmock] at hnot
  simpa [and_assoc] using hnot

theorem scheme_of_protocol (h : url.protocol = "https:") : url.scheme = "https" := by
  unfold Url.protocol at h
  have hlists : url.scheme.toList ++ [':'] = "https".toList ++ [':'] := by
    rw [← String.toList_inj, String.toList_append] at h
    exact h
  exact String.toList_inj.mp (List.append_cancel_right hlists)

theorem hash_eq_empty_iff : url.hash = "" ↔ url.fragment = none ∨ url.fragment = some "" := by
  unfold Url.hash
  cases url.fragment with
  | none => simp
  | some fragment =>
      by_cases hempty : fragment = ""
      · simp [hempty]
      · simp [hempty]

end Tests

/-- A URL that is accepted and is not on the loopback is public exactly when it has no empty
fragment and its host is none of those that the tests miss. -/
theorem oidc_url_public_iff (runtime : UrlRuntime) {environment : Environment}
    {value href : String} {url : Url} (_hdevelopment : environment "NODE_ENV" ≠ some "production")
    (hparse : runtime.parse value = some url)
    (haccepted : assertOidcNetworkUrl runtime value environment = .ok href)
    (hmock : isMockLoopback environment url = false) :
    IsPublicUrl url ↔ url.fragment ≠ some "" ∧ ¬IsMissed url.host := by
  obtain ⟨hprotocol, husername, hpassword, hhash, hlocal, hlocalhost, hprivate⟩ :=
    accepted_spec hparse haccepted hmock
  have hhost : IsInternal url.host ↔ IsMissed url.host := by
    unfold Url.hostname at hlocal hlocalhost hprivate
    cases hkind : url.host with
    | domain name =>
        rw [hkind] at hlocal hlocalhost
        exact isLocalName_iff hlocalhost hlocal
    | ipv4 address =>
        rw [hkind] at hprivate
        have hnot : ¬IsInternalIpv4 address := by
          rw [← @isPrivateIp_ipv4 runtime, hprivate]
          exact Bool.false_ne_true
        exact iff_of_false hnot id
    | ipv6 address => exact Iff.rfl
  have hfragment : url.fragment = none ↔ url.fragment ≠ some "" := by
    rcases hash_eq_empty_iff.mp hhash with hnone | hempty
    · simp [hnone]
    · simp [hempty]
  rw [← hhost, ← hfragment]
  constructor
  · intro hpublic
    exact ⟨hpublic.noFragment, hpublic.notInternal⟩
  · rintro ⟨hnone, hnotInternal⟩
    exact ⟨scheme_of_protocol hprotocol, ⟨husername, hpassword⟩, hnone, hnotInternal⟩

/-! ## An issuer on the loopback -/

/-- A URL with a host and the path `/`. -/
def rootUrl (host : Host) : Url where
  scheme := "https"
  username := ""
  password := ""
  host := host
  port := none
  path := "/"
  query := none
  fragment := none

def loopback : Ipv6 := ⟨[0, 0, 0, 0, 0, 0, 0, 1], rfl⟩

/-- What `new URL` makes of two texts, and the loopback address as a text. -/
def twoUrls : UrlRuntime where
  parse value :=
    if value = "https://login.example.com" then some (rootUrl (.domain "login.example.com"))
    else if value = "https://[::1]" then some (rootUrl (.ipv6 loopback))
    else none
  addresses := { isIPv6 := (· = "::1".toList), noBracket := fun rest => by simp }

theorem oidc_url_public_iff_login :
    IsPublicUrl (rootUrl (.domain "login.example.com")) ↔
      (rootUrl (.domain "login.example.com")).fragment ≠ some "" ∧
        ¬IsMissed (rootUrl (.domain "login.example.com")).host :=
  @oidc_url_public_iff twoUrls (fun _ => none) "https://login.example.com"
    "https://login.example.com/" _ (by decide) rfl (by decide +kernel) (by decide)

/-- The loopback address is accepted as an IPv6 literal. -/
theorem loopback_accepted :
    twoUrls.parse "https://[::1]" = some (rootUrl (.ipv6 loopback)) ∧
      assertOidcNetworkUrl twoUrls "https://[::1]" (fun _ => none) = .ok "https://[::1]/" ∧
      isMockLoopback (fun _ => none) (rootUrl (.ipv6 loopback)) = false ∧
      ¬IsPublicUrl (rootUrl (.ipv6 loopback)) := by
  refine ⟨rfl, by decide +kernel, by decide +kernel, fun hpublic => ?_⟩
  exact hpublic.notInternal (Or.inl rfl)

end AvantimePlatform.Identity
