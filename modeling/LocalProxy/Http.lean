import LocalProxy.Addr
import Mathlib.Tactic.SplitIfs

/-! The parts of `hyper` the program handles: header values and maps, URIs, requests
and responses. What a library computes in a way the program does not depend on is a
function among `Crates`. -/

namespace LocalProxy.Http
open Strings StdNet Addr

abbrev Bytes := List UInt8

def isVisibleAscii (c : Char) : Bool := (32 ≤ c.toNat && c.toNat < 127) || c.toNat = 9

/-- `HeaderValue`: a character outside ASCII stands for the bytes that encode it. -/
structure HeaderValue where
  text : Text
  deriving DecidableEq, Repr

/-- `str::parse::<HeaderValue>`. -/
def HeaderValue.fromStr (s : Text) : Except Error HeaderValue :=
  if s.all fun c => (32 ≤ c.toNat && c.toNat ≠ 127) || c.toNat = 9 then .ok ⟨s⟩
  else .error .other

theorem HeaderValue.fromStr_ok {text : Text} {value : HeaderValue}
    (made : HeaderValue.fromStr text = .ok value) : value.text = text := by
  unfold HeaderValue.fromStr at made
  split at made
  · cases made
    rfl
  · contradiction

def HeaderValue.toStr (value : HeaderValue) : Except Error Text :=
  if value.text.all isVisibleAscii then .ok value.text else .error .other

/-- `HeaderMap`: lower-case names, a name once for each of its values. -/
abbrev HeaderMap := List (Text × HeaderValue)

namespace HeaderMap

def get (headers : HeaderMap) (name : Text) : Option HeaderValue :=
  (headers.find? fun header => header.1 = name).map Prod.snd

def remove (headers : HeaderMap) (name : Text) : HeaderMap :=
  headers.filter fun header => header.1 ≠ name

/-- The value takes the place of all values of the name. -/
def insert (headers : HeaderMap) (name : Text) (value : HeaderValue) : HeaderMap :=
  headers.remove name ++ [(name, value)]

def append (headers : HeaderMap) (name : Text) (value : HeaderValue) : HeaderMap :=
  headers ++ [(name, value)]

def keys (headers : HeaderMap) : List Text := (headers.map Prod.fst).dedup

end HeaderMap

/-- `uri::Authority`, with what its parser admits. -/
structure Authority where
  text : Text
  visible : text.all isVisibleAscii = true
  opening : text.count '[' ≤ 1
  closing : text.count ']' ≤ 1
  deriving DecidableEq, Repr

/-- `Uri`; `data` is its path and query, empty in the authority form. -/
structure Uri where
  scheme : Option Text
  authority : Option Authority
  data : Text
  deriving DecidableEq, Repr

namespace Uri

def hasPath (uri : Uri) : Bool := !uri.data.isEmpty || uri.scheme.isSome

def path (uri : Uri) : Text :=
  if uri.hasPath then
    let path := match splitOnce '?' uri.data with
      | some (path, _) => path
      | none => uri.data
    if path.isEmpty then ['/'] else path
  else []

def query (uri : Uri) : Option Text := (splitOnce '?' uri.data).map Prod.snd

def pathAndQuery (uri : Uri) : Option Text :=
  if uri.scheme.isSome || uri.authority.isNone then
    some (if uri.data.isEmpty then ['/'] else uri.data)
  else none

/-- `Display` of a URI. -/
def toText (uri : Uri) : Text :=
  (match uri.scheme with
    | some scheme => scheme ++ "://".toList
    | none => []) ++
  (match uri.authority with
    | some authority => authority.text
    | none => []) ++ uri.path ++
  (match uri.query with
    | some query => '?' :: query
    | none => [])

end Uri

inductive Method where
  | connect
  | post
  | other (name : Text)
  deriving DecidableEq, Repr

/-- A frame of a body that is not an error: data, or trailers. -/
inductive Frame where
  | data (chunk : Bytes)
  | trailers
  deriving DecidableEq, Repr

/-- `Body`: the frames it yields, in order. -/
abbrev Body := List (Except Error Frame)

structure Request where
  method : Method
  uri : Uri
  headers : HeaderMap
  body : Body

structure Response where
  status : Nat
  headers : HeaderMap
  body : Body

/-- `StatusCode::is_success`. -/
def Response.isSuccess (response : Response) : Bool :=
  200 ≤ response.status && response.status < 300

inductive QueryType where
  | a
  | aaaa
  deriving DecidableEq, Repr

/-- What `dns_parser::Builder` makes of a question. -/
inductive BuiltQuery where
  | packet (query : Bytes)
  | tooLong
  | panicked
  deriving DecidableEq, Repr

inductive RData where
  | a (addr : Ipv4Addr)
  | aaaa (addr : Ipv6Addr)
  | other
  deriving DecidableEq, Repr

/-- A record of a `dns_parser::Packet`; `isIn` tells its class. -/
structure Answer where
  isIn : Bool
  data : RData
  deriving DecidableEq, Repr

/-- What the libraries compute. The URI parser keeps the text of an authority. -/
structure Crates where
  uriFromStr : Text → Option Uri
  scheme : Text → Option Text
  authority : Text → Option Authority
  pathAndQuery : Text → Option Text
  base64 : Text → Text
  percentDecode : Text → Option Text
  percentEncode : Text → Text
  newQuery : Text → QueryType → BuiltQuery
  parsePacket : Bytes → Option (List Answer)
  authority_text : ∀ text parsed, authority text = some parsed → parsed.text = text

def orElse {α : Type} (error : Error) : Option α → Except Error α
  | some value => .ok value
  | none => .error error

theorem orElse_ok {α : Type} {error : Error} {option : Option α} {value : α}
    (found : orElse error option = .ok value) : option = some value := by
  cases option with
  | none => contradiction
  | some other => exact congrArg some (Except.ok.inj found)

/-- `Uri::builder()` with the parts given, and `build()`. -/
def Uri.build (crates : Crates) (scheme authority pathAndQuery : Option Text) :
    Except Error Uri := do
  let scheme ← scheme.mapM fun text => orElse .other (crates.scheme text)
  let authority ← authority.mapM fun text => orElse .other (crates.authority text)
  let pathAndQuery ← pathAndQuery.mapM fun text => orElse .other (crates.pathAndQuery text)
  match scheme, authority, pathAndQuery with
  | some _, none, _ => .error .other
  | some _, some _, none => .error .other
  | none, some _, some _ => .error .other
  | scheme, authority, pathAndQuery => .ok ⟨scheme, authority, pathAndQuery.getD []⟩

theorem mapM_texts {α : Type} {error : Error} {read : Text → Option α} {name : α → Text}
    {text : Option Text} {result : Option α}
    (keeps : ∀ text parsed, read text = some parsed → name parsed = text)
    (made : (text.mapM fun text => orElse error (read text)) = .ok result) :
    result.map name = text := by
  cases text with
  | none =>
    cases made
    rfl
  | some text =>
    obtain ⟨parsed, found, same⟩ := bind_ok made
    cases same
    exact congrArg some (keeps text parsed (orElse_ok found))

/-- The parts of a URI that was built are what was read from the texts. -/
theorem build_ok {crates : Crates} {scheme authority pathAndQuery : Option Text} {uri : Uri}
    (built : Uri.build crates scheme authority pathAndQuery = .ok uri) :
    (scheme.mapM fun text => orElse .other (crates.scheme text)) = .ok uri.scheme ∧
      uri.authority.map Authority.text = authority ∧
      ∃ data, (pathAndQuery.mapM fun text => orElse .other (crates.pathAndQuery text)) = .ok data ∧
        uri.data = data.getD [] := by
  obtain ⟨scheme', schemeOk, rest⟩ := bind_ok built
  obtain ⟨authority', authorityOk, rest⟩ := bind_ok rest
  obtain ⟨data, dataOk, rest⟩ := bind_ok rest
  have located := mapM_texts crates.authority_text authorityOk
  split at rest
  · cases rest
  · cases rest
  · cases rest
  · cases rest
    exact ⟨schemeOk, located, data, dataOk, rfl⟩

theorem build_authority {crates : Crates} {scheme authority pathAndQuery : Text} {uri : Uri}
    (built : Uri.build crates (some scheme) (some authority) (some pathAndQuery) = .ok uri) :
    ∃ parsed, uri.authority = some parsed ∧ parsed.text = authority :=
  Option.map_eq_some_iff.mp (build_ok built).2.1

/-- An authority of visible characters with at most one pair of brackets. -/
def visibleAuthority (text : Text) : Option Authority :=
  if visible : text.all isVisibleAscii = true then
    if opening : text.count '[' ≤ 1 then
      if closing : text.count ']' ≤ 1 then some ⟨text, visible, opening, closing⟩ else none
    else none
  else none

theorem visibleAuthority_text (text : Text) (parsed : Authority)
    (read : visibleAuthority text = some parsed) : parsed.text = text := by
  unfold visibleAuthority at read
  split_ifs at read
  cases read
  rfl

/-- An absolute URI of the scheme `http`, or else an authority. -/
def plainUri (text : Text) : Option Uri :=
  if "http://".toList.isPrefixOf text then
    let rest := text.drop 7
    (visibleAuthority (rest.takeWhile fun c => c ≠ '/')).map fun authority =>
      ⟨some "http".toList, some authority, rest.dropWhile fun c => c ≠ '/'⟩
  else (visibleAuthority text).map fun authority => ⟨none, some authority, []⟩

/-- Libraries for plain text: no escapes, no credentials and no names to resolve. -/
def Crates.plain : Crates where
  uriFromStr := plainUri
  scheme := some
  authority := visibleAuthority
  pathAndQuery := some
  base64 := id
  percentDecode := some
  percentEncode := id
  newQuery _ _ := .tooLong
  parsePacket _ := none
  authority_text := visibleAuthority_text

end LocalProxy.Http
