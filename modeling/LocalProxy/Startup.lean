import LocalProxy.Dialogues
import LocalProxy.Journey
import LocalProxy.Listening

/-! The configuration of the program: what `main` reads, asks the user for and writes before it
serves anybody, and which configurations it goes on with. -/

namespace LocalProxy.Startup
open Strings Addr Http Programs Program Outbound Service Route MainStack Journey Dialogues
open Network (asBytes)

/-- `Config`, with the addresses to listen at. -/
structure Settings where
  config : Config
  httpListen : Option (List StdNet.SocketAddr)
  tproxyListen : Option Listening.TProxy
  dnsListen : Option (List StdNet.SocketAddr)

def configPath : Text := "./config.json5".toList
def userPrompt : Text := "proxy user> ".toList
def passwordPrompt : Text := "proxy password> ".toList
def clearScreen : Text := "\x1B[H\x1B[2J\x1B[3J".toList

def banner (protocol server : Text) : Text :=
  "Configuration of ".toList ++ protocol ++ "://".toList ++ server ++ ['\n']

/-- `write!` and the `flush` behind it. -/
def prompt (text : Text) : Dialog Unit := do
  write text
  flush

/-- What is missing is typed in. -/
def askMissing (proxy : ProxyConfig) : Dialog ProxyConfig :=
  match proxy.user with
  | some _ => return proxy
  | none => do
    prompt userPrompt
    let user ← readLine
    let proxy := { proxy with user := some (trimLineEnd user) }
    match proxy.password with
    | some _ => return proxy
    | none => do
      prompt passwordPrompt
      let password ← readLine
      let password := trimLineEnd password
      return if password.isEmpty then proxy else { proxy with password := some password }

def dropEmptyUser (proxy : ProxyConfig) : ProxyConfig :=
  if proxy.user = some [] then { proxy with user := none } else proxy

def askUser (proxy : ProxyConfig) : Dialog ProxyConfig := do
  let proxy ← askMissing proxy
  return dropEmptyUser proxy

def unusable (protocol : Text) : Text := "This protocol can not use: ".toList ++ protocol

def pushLayer (layer : Text) : Dialog Element :=
  if layer = "tls".toList then return .tlsClient
  else panicWith (some (unusable layer))

def pushLayers : List Text → Dialog (List Element)
  | [] => return []
  | layer :: layers => do
    let element ← pushLayer layer
    let rest ← pushLayers layers
    return element :: rest

def pushProtocol (crates : Crates) (proxy : ProxyConfig) (protocol : Text) : Dialog Element :=
  if protocol = SendRequest.http then do
    let proxy ← unwrap (HttpProxy.new crates proxy).toOption
    return .httpProxy proxy
  else if protocol = "socks4".toList then do
    let proxy ← unwrap (Socks4Proxy.new proxy).toOption
    return .socks4Proxy proxy
  else if protocol = "socks5".toList then do
    let proxy ← unwrap (Socks5Proxy.new proxy).toOption
    return .socks5Proxy proxy
  else panicWith (some (unusable protocol))

/-- What is done for one of the proxies: its configuration as it is then, and what is pushed. -/
def pushProxy (crates : Crates) (proxy : ProxyConfig) : Dialog (ProxyConfig × List Element) := do
  write (banner proxy.protocol proxy.server)
  let proxy ← askUser proxy
  prompt clearScreen
  let proxyProtocol := proxy.protocol.splitOn '+'
  let layers ← pushLayers proxyProtocol.dropLast
  let protocol ← pushProtocol crates proxy (proxyProtocol.getLastD [])
  return (proxy, layers ++ [protocol])

def pushAll (crates : Crates) : List ProxyConfig → Dialog (List ProxyConfig × List Element)
  | [] => return ([], [])
  | proxy :: proxies => do
    let (proxy, elements) ← pushProxy crates proxy
    let (proxies, rest) ← pushAll crates proxies
    return (proxy :: proxies, elements ++ rest)

def Settings.withProxies (settings : Settings) (proxies : List ProxyConfig) : Settings :=
  { settings with config := { settings.config with
      proxies := settings.config.proxies.map fun _ => proxies } }

/-- `main` up to the state that it sets: the settings and the stack. -/
def configure (crates : Crates) (parse : Text → Option Settings) :
    Dialog (Settings × List Element) := do
  let config ← readFile configPath
  let settings ← unwrap (parse config)
  let (proxies, elements) ← pushAll crates (settings.config.proxies.getD [])
  let last : List Element := if fragmentsAll settings.config then [.fragment] else []
  return (settings.withProxies proxies, .raw :: elements ++ last)

/-- What may be seen of the configuration of a proxy. -/
structure Public where
  protocol : Text
  server : Text
  asksUser : Bool
  asksPassword : Bool
  deriving DecidableEq

def publicPart (proxy : ProxyConfig) : Public where
  protocol := proxy.protocol
  server := proxy.server
  asksUser := proxy.user.isNone
  asksPassword := proxy.user.isNone && proxy.password.isNone

def Public.prompts (proxy : Public) : List Text :=
  (if proxy.asksUser then [userPrompt] else []) ++
    if proxy.asksPassword then [passwordPrompt] else []

/-- All that is written for the proxies. -/
def transcript (proxies : List Public) : List Text :=
  proxies.flatMap fun proxy => banner proxy.protocol proxy.server :: proxy.prompts ++ [clearScreen]

/-- The lines that are asked for. -/
def asked (proxies : List Public) : Nat := (proxies.flatMap Public.prompts).length

section Asking

variable {crates : Crates} {proxy : ProxyConfig} {lines : List Text}

theorem prompt_converses (text : Text) : Converses (prompt text) [text] 0 fun _ => some () :=
  ((converses_write text).bind fun _ => converses_flush).congr rfl rfl fun _ _ => rfl

/-- The lines for a proxy come first, and the others are left. -/
theorem askCredentials_front (enough : (publicPart proxy).prompts.length ≤ lines.length) :
    askCredentials proxy lines =
      ((askCredentials proxy (lines.take (publicPart proxy).prompts.length)).1,
        lines.drop (publicPart proxy).prompts.length) := by
  obtain ⟨protocol, user, password, server⟩ := proxy
  cases user with
  | some user => rfl
  | none =>
    cases password with
    | some password =>
      match lines with
      | user :: rest => rfl
    | none =>
      match lines with
      | user :: password :: rest => rfl

/-- An empty user is none. -/
theorem dropEmptyUser_some (proxy : ProxyConfig) {user : Text} (typed : proxy.user = some user) :
    dropEmptyUser proxy = { proxy with user := if user.isEmpty then none else some user } := by
  obtain ⟨protocol, user', password, server⟩ := proxy
  cases typed
  cases user with
  | nil => rfl
  | cons c rest => simp [dropEmptyUser]

theorem askMissing_converses (proxy : ProxyConfig) : ∃ result,
    Converses (askMissing proxy) (publicPart proxy).prompts (publicPart proxy).prompts.length
      result ∧ ∀ lines, lines.length = (publicPart proxy).prompts.length →
        (result lines).map dropEmptyUser = some (askCredentials proxy lines).1 := by
  obtain ⟨protocol, user, password, server⟩ := proxy
  cases user with
  | some user =>
    refine ⟨_, converses_value _, fun lines _ => ?_⟩
    exact congrArg some (dropEmptyUser_some _ rfl)
  | none =>
    cases password with
    | some password =>
      refine ⟨_, (prompt_converses userPrompt).bind fun _ => converses_readLine.bind fun user =>
        converses_value _, fun lines one => ?_⟩
      match lines with
      | [user] => exact congrArg some (dropEmptyUser_some _ rfl)
    | none =>
      refine ⟨_, (prompt_converses userPrompt).bind fun _ => converses_readLine.bind fun user =>
        (prompt_converses passwordPrompt).bind fun _ => converses_readLine.bind fun password =>
          converses_value _, fun lines two => ?_⟩
      match lines with
      | [user, password] =>
        have dropped := fun password =>
          dropEmptyUser_some ⟨protocol, some (trimLineEnd user), password, server⟩ rfl
        by_cases empty : trimLineEnd password = []
        · simpa [askCredentials, empty] using dropped none
        · simpa [askCredentials, empty] using dropped (some (trimLineEnd password))

theorem askUser_converses (proxy : ProxyConfig) :
    Converses (askUser proxy) (publicPart proxy).prompts (publicPart proxy).prompts.length
      fun lines => some (askCredentials proxy lines).1 := by
  obtain ⟨result, converses, same⟩ := askMissing_converses proxy
  refine (converses.bind fun proxy => converses_value (dropEmptyUser proxy)).congr
    (List.append_nil _) (Nat.add_zero _) fun lines length => ?_
  rw [List.take_of_length_le (Nat.le_of_eq length), ← same lines length]
  cases result lines with
  | none => rfl
  | some proxy => rfl

theorem pushLayers_converses (layers : List Text) :
    Converses (pushLayers layers) [] 0 fun _ => layers.mapM layerElement := by
  induction layers with
  | nil => exact converses_value []
  | cons layer layers ih =>
    have first : Converses (pushLayer layer) [] 0 fun _ => layerElement layer := by
      unfold pushLayer layerElement
      split
      · exact converses_value _
      · exact converses_panic _
    refine (first.bind fun element => ih.bind fun rest => converses_value (element :: rest)).congr
      rfl rfl fun lines _ => ?_
    rw [List.mapM_cons]
    rfl

theorem pushProtocol_converses (proxy : ProxyConfig) (protocol : Text) :
    Converses (pushProtocol crates proxy protocol) [] 0
      fun _ => protocolElement crates proxy protocol := by
  have made : ∀ {kind : Type} (option : Option kind) (element : kind → Element),
      Converses (unwrap option >>= fun proxy => value (element proxy)) [] 0
        fun _ => option.map element := by
    intro kind option element
    refine ((converses_unwrap option).bind fun proxy => converses_value (element proxy)).congr
      rfl rfl fun lines _ => ?_
    cases option with
    | none => rfl
    | some proxy => rfl
  unfold pushProtocol protocolElement
  split_ifs
  · exact made _ _
  · exact made _ _
  · exact made _ _
  · exact converses_panic _

theorem pushProxy_converses (proxy : ProxyConfig) :
    Converses (pushProxy crates proxy) (transcript [publicPart proxy])
      (publicPart proxy).prompts.length fun lines =>
        (proxyElements crates (askCredentials proxy lines).1).map fun elements =>
          ((askCredentials proxy lines).1, elements) := by
  have elements := fun proxy : ProxyConfig =>
    (prompt_converses clearScreen).bind fun _ =>
      (pushLayers_converses (proxy.protocol.splitOn '+').dropLast).bind fun layers =>
        (@pushProtocol_converses crates proxy
          ((proxy.protocol.splitOn '+').getLastD [])).bind fun protocol =>
            converses_value (proxy, layers ++ [protocol])
  refine ((converses_write (banner proxy.protocol proxy.server)).bind fun _ =>
    (askUser_converses proxy).bind elements).congr ?_ ?_ fun lines length => ?_
  · simp [transcript, publicPart]
  · exact Nat.zero_add _
  · have all : lines.take (publicPart proxy).prompts.length = lines :=
      List.take_of_length_le (Nat.le_of_eq length)
    rw [List.drop_zero, all, Option.bind_some, Option.bind_some, Option.bind_some]
    generalize (askCredentials proxy lines).1 = proxy
    unfold proxyElements
    dsimp only
    cases (proxy.protocol.splitOn '+').dropLast.mapM layerElement with
    | none => rfl
    | some layers =>
      cases protocolElement crates proxy ((proxy.protocol.splitOn '+').getLastD []) with
      | none => rfl
      | some protocol => rfl

theorem pushAll_converses (proxies : List ProxyConfig) :
    Converses (pushAll crates proxies) (transcript (proxies.map publicPart))
      (asked (proxies.map publicPart)) fun lines =>
        (pushProxies crates proxies lines).map fun elements =>
          (equipped proxies lines, elements) := by
  induction proxies with
  | nil => exact converses_value ([], [])
  | cons proxy proxies ih =>
    refine ((pushProxy_converses proxy).bind fun first => ih.bind fun rest =>
      converses_value (first.1 :: rest.1, first.2 ++ rest.2)).congr ?_ ?_ fun lines length => ?_
    · simp [transcript]
    · simp [asked]
    · have count : lines.length = (publicPart proxy).prompts.length +
          asked (proxies.map publicPart) := by simpa [asked] using length
      have others : (lines.drop (publicPart proxy).prompts.length).take
          (asked (proxies.map publicPart)) = lines.drop (publicPart proxy).prompts.length := by
        apply List.take_of_length_le
        rw [List.length_drop, count]
        omega
      have front := @askCredentials_front proxy lines (by omega)
      rw [others]
      simp only [equipped, pushProxies, front]
      cases proxyElements crates
        (askCredentials proxy (lines.take (publicPart proxy).prompts.length)).1 with
      | none => rfl
      | some elements =>
        cases pushProxies crates proxies (lines.drop (publicPart proxy).prompts.length) with
        | none => rfl
        | some rest => rfl

end Asking

section Accepting

variable {crates : Crates} {config : Config} {lines : List Text} {stack : List Element}

theorem layers_pushed (count : Nat) : (List.replicate count "tls".toList).mapM layerElement =
    some (List.replicate count Element.tlsClient) := by
  induction count with
  | zero => rfl
  | succ count ih =>
    rw [List.replicate_succ, List.mapM_cons, ih]
    rfl

/-- A proxy that a hop equips is pushed as the elements of this hop. -/
theorem hop_pushed {proxy : ProxyConfig} {hop : Hop} (equips : Equips crates proxy hop) :
    proxyElements crates proxy = some hop.elements := by
  have protocol : protocolElement crates proxy hop.proxy.protocol = some hop.proxy.element := by
    obtain ⟨layers, kind⟩ := hop
    cases equips.made with
    | http made =>
      have found := congrArg Except.toOption made
      exact congrArg (Option.map Element.httpProxy) found
    | socks4 made =>
      have found := congrArg Except.toOption made
      exact congrArg (Option.map Element.socks4Proxy) found
    | socks5 made =>
      have found := congrArg Except.toOption made
      exact congrArg (Option.map Element.socks5Proxy) found
  unfold proxyElements
  rw [equips.protocol]
  dsimp only
  rw [List.dropLast_concat, layers_pushed, List.getLastD_concat, protocol]
  rfl

theorem hops_pushed {proxies : List ProxyConfig} {hops : List Hop}
    (equips : List.Forall₂ (Equips crates) (equipped proxies lines) hops) :
    pushProxies crates proxies lines = some (hops.flatMap Hop.elements) := by
  induction proxies generalizing lines hops with
  | nil =>
    cases equips
    rfl
  | cons proxy proxies ih =>
    cases equips with
    | cons first others =>
      rw [pushProxies, hop_pushed first, ih others]
      rfl

/-- The stack is built exactly for proxies that are equipped by hops, and is then that of the
hops. -/
theorem buildStack_iff : buildStack crates config lines = some stack ↔
    ∃ hops, List.Forall₂ (Equips crates) (equipped (config.proxies.getD []) lines) hops ∧
      stack = .raw :: hops.flatMap Hop.elements ++
        if fragmentsAll config then [Element.fragment] else [] := by
  constructor
  · intro built
    obtain ⟨elements, pushed, same⟩ := Option.bind_eq_some_iff.mp built
    obtain ⟨hops, equips, shape⟩ := proxies_equipped pushed
    cases same
    exact ⟨hops, equips, by rw [shape]⟩
  · intro both
    obtain ⟨hops, equips, shape⟩ := both
    rw [buildStack, hops_pushed equips, shape]
    rfl

end Accepting

section Configuring

variable {crates : Crates} {parse : Text → Option Settings} {settings : Settings}

def Settings.publics (settings : Settings) : List Public :=
  (settings.config.proxies.getD []).map publicPart

/-- The settings with the credentials that were typed in. -/
def Settings.typedIn (settings : Settings) (lines : List Text) : Settings :=
  settings.withProxies (equipped (settings.config.proxies.getD []) lines)

/-- What `main` does once the file is read and parsed. -/
def configured (crates : Crates) (settings : Settings) : Dialog (Settings × List Element) := do
  let (proxies, elements) ← pushAll crates (settings.config.proxies.getD [])
  let last : List Element := if fragmentsAll settings.config then [.fragment] else []
  return (settings.withProxies proxies, .raw :: elements ++ last)

theorem configured_converses (crates : Crates) (settings : Settings) :
    Converses (configured crates settings) (transcript settings.publics) (asked settings.publics)
      fun lines => (buildStack crates settings.config lines).map fun stack =>
        (settings.typedIn lines, stack) := by
  refine ((pushAll_converses (settings.config.proxies.getD [])).bind fun pushed =>
    converses_value (settings.withProxies pushed.1, .raw :: pushed.2 ++
      if fragmentsAll settings.config then [Element.fragment] else [])).congr
        (List.append_nil _) (Nat.add_zero _) fun lines length => ?_
  have all : lines.take (asked ((settings.config.proxies.getD []).map publicPart)) = lines :=
    List.take_of_length_le (Nat.le_of_eq length)
  rw [all]
  unfold buildStack
  cases pushProxies crates (settings.config.proxies.getD []) lines with
  | none => rfl
  | some elements => rfl

variable {text : Text} {talk : Talk}

/-- The file is read first, and nothing else until it is parsed. -/
theorem configure_steps (parsed : parse text = some settings)
    {left : Dialog (Settings × List Element)} :
    Steps (configure crates parse) (⟨.readFile configPath, some text⟩ :: talk) left ↔
      Steps (configured crates settings) talk left := by
  have next : (unwrap (parse text) >>= configured crates) = configured crates settings := by
    rw [parsed]
    rfl
  constructor
  · intro steps
    rcases steps_ask.mp steps with ⟨absurd, _⟩ | ⟨answer, rest, split, later⟩
    · cases absurd
    · cases split
      rw [← next]
      exact later
  · intro steps
    rw [← next] at steps
    exact .ask steps

end Configuring

/-- `main` comes through with the lines exactly if they are those asked for and the stack can be
built of them. -/
theorem configure_iff {crates : Crates} {parse : Text → Option Settings} {text : Text}
    {settings : Settings} (parsed : parse text = some settings) {lines : List Text}
    {final : Settings} {stack : List Element} :
    (∃ talk, Returns (configure crates parse) (⟨.readFile configPath, some text⟩ :: talk)
      (final, stack) ∧ typed talk = lines) ↔
    lines.length = asked settings.publics ∧ final = settings.typedIn lines ∧
      buildStack crates settings.config lines = some stack := by
  have converses := configured_converses crates settings
  constructor
  · intro run
    obtain ⟨talk, steps, same⟩ := run
    obtain ⟨_, length, found⟩ := converses.ends talk _ ((configure_steps parsed).mp steps)
    rw [same] at length found
    obtain ⟨built, known, equal⟩ := Option.map_eq_some_iff.mp found
    cases equal
    exact ⟨length, rfl, known⟩
  · intro accepted
    obtain ⟨length, same, built⟩ := accepted
    have found : (buildStack crates settings.config lines).map (fun stack =>
        (settings.typedIn lines, stack)) = some (final, stack) := by
      rw [built, same]
      rfl
    obtain ⟨talk, runs, line⟩ := converses.served lines _ length found
    exact ⟨talk, (configure_steps parsed).mpr runs, line⟩

/-- When the configuration file holds these settings, `main` writes nothing to the standard output
that depends on a user or a password, configured or typed in, and asks for what is missing of them
only. It comes through with a stack exactly for the lines that equip every proxy with a hop, and
this is the stack of the hops, in their order. It has then written all there is to be written. -/
theorem configure_builds {crates : Crates} {parse : Text → Option Settings} {text : Text}
    {settings : Settings} (parsed : parse text = some settings) :
    (∀ talk left,
      Steps (configure crates parse) (⟨.readFile configPath, some text⟩ :: talk) left →
        written talk <+: transcript settings.publics ∧
          (typed talk).length ≤ asked settings.publics) ∧
    (∀ talk result,
      Returns (configure crates parse) (⟨.readFile configPath, some text⟩ :: talk) result →
        written talk = transcript settings.publics) ∧
    ∀ lines final stack,
      (∃ talk, Returns (configure crates parse) (⟨.readFile configPath, some text⟩ :: talk)
        (final, stack) ∧ typed talk = lines) ↔
      lines.length = asked settings.publics ∧ final = settings.typedIn lines ∧
        ∃ hops, List.Forall₂ (Equips crates) (equipped (settings.config.proxies.getD []) lines)
          hops ∧ stack = .raw :: hops.flatMap Hop.elements ++
            if fragmentsAll settings.config then [Element.fragment] else [] := by
  have converses := configured_converses crates settings
  refine ⟨fun talk left steps => ?_, fun talk result returns => ?_, fun lines final stack => ?_⟩
  · have runs := (configure_steps parsed).mp steps
    exact ⟨converses.writes talk left runs, converses.reads talk left runs⟩
  · exact (converses.ends talk result ((configure_steps parsed).mp returns)).1
  · rw [← buildStack_iff]
    exact configure_iff parsed

/-- A proxy whose user and password are typed in. -/
def typedSettings : Settings where
  config := ⟨some [⟨"tls+socks5".toList, none, none, "proxy.test:1080".toList⟩], none, some 0⟩
  httpListen := none
  tproxyListen := none
  dnsListen := none

def typedLines : List Text := ["me\r\n".toList, "secret\n".toList]

def typedStack : List Element :=
  [.raw, .tlsClient,
    .socks5Proxy ⟨⟨.domain "proxy.test".toList, 1080⟩, "me".toList, "secret".toList⟩]

def typedParse : Text → Option Settings := fun _ => some typedSettings

theorem typedStack_built :
    buildStack Crates.plain typedSettings.config typedLines = some typedStack := by decide

theorem configure_builds_typed : ∃ talk final,
    Returns (configure Crates.plain typedParse) (⟨.readFile configPath, some []⟩ :: talk)
      (final, typedStack) ∧ typed talk = typedLines ∧
    written talk = [banner "tls+socks5".toList "proxy.test:1080".toList, userPrompt,
      passwordPrompt, clearScreen] := by
  have parsed : typedParse [] = some typedSettings := rfl
  obtain ⟨hops, equips, shape⟩ := buildStack_iff.mp typedStack_built
  obtain ⟨_, wrote, builds⟩ := @configure_builds Crates.plain typedParse [] typedSettings parsed
  obtain ⟨talk, returns, lines⟩ :=
    (builds typedLines _ typedStack).mpr ⟨by decide, rfl, hops, equips, shape⟩
  exact ⟨talk, _, returns, lines, wrote talk _ returns⟩

/-- A protocol behind so many layers of TLS. -/
def protocolText (layers : Nat) (protocol : Text) : Text :=
  ['+'].intercalate (List.replicate layers "tls".toList ++ [protocol])

/-- What a SOCKS4 proxy is not sent, and what a SOCKS5 proxy cannot be. -/
def Fits (proxy : ProxyConfig) (protocol : Text) : Prop :=
  protocol = "http".toList ∨
  protocol = "socks4".toList ∧ nul ∉ proxy.user.getD [] ∧ nul ∉ proxy.password.getD [] ∨
  protocol = "socks5".toList ∧ (asBytes (proxy.user.getD [])).length ≤ 255 ∧
    (asBytes (proxy.password.getD [])).length ≤ 255

/-- The configuration of a proxy that `main` goes on with. -/
def Acceptable (proxy : ProxyConfig) : Prop :=
  (∃ addr, SocketAddr.fromStr proxy.server = .ok addr) ∧
    ∃ layers protocol, proxy.protocol = protocolText layers protocol ∧ Fits proxy protocol

section Acceptance

variable {crates : Crates} {proxy : ProxyConfig}

theorem protocolText_iff (layers : Nat) (kind : Proxy) :
    proxy.protocol.splitOn '+' = List.replicate layers "tls".toList ++ [kind.protocol] ↔
      proxy.protocol = protocolText layers kind.protocol := by
  have plain : ∀ part ∈ List.replicate layers "tls".toList ++ [kind.protocol], '+' ∉ part := by
    intro part member
    rcases List.mem_append.mp member with layer | last
    · rw [(List.mem_replicate.mp layer).2]
      decide
    · rw [List.mem_singleton.mp last]
      cases kind with
      | http => exact (by decide : '+' ∉ "http".toList)
      | socks4 => exact (by decide : '+' ∉ "socks4".toList)
      | socks5 => exact (by decide : '+' ∉ "socks5".toList)
  constructor
  · intro split
    rw [protocolText, ← split, List.intercalate_splitOn]
  · intro same
    rw [same, protocolText, List.splitOn_intercalate _ plain (by simp)]

theorem made_iff {α β : Type} {outcome : Except Error α} {make : α → β} :
    (∃ self, (do
      let value ← outcome
      return make value : Except Error β) = .ok self) ↔ ∃ value, outcome = .ok value := by
  cases outcome with
  | ok value => exact iff_of_true ⟨make value, rfl⟩ ⟨value, rfl⟩
  | error error =>
    refine iff_of_false ?_ ?_
    · intro made
      obtain ⟨_, absurd⟩ := made
      cases absurd
    · intro made
      obtain ⟨_, absurd⟩ := made
      cases absurd

theorem http_made (crates : Crates) (proxy : ProxyConfig) :
    (∃ self, HttpProxy.new crates proxy = .ok self) ↔
      ∃ addr, SocketAddr.fromStr proxy.server = .ok addr := made_iff

theorem nul_joined (user password : Text) :
    nul ∈ user ++ ':' :: password ↔ ¬ (nul ∉ user ∧ nul ∉ password) := by
  have colon : nul ≠ ':' := by decide
  rw [List.mem_append, List.mem_cons, or_iff_right colon]
  tauto

theorem socks4_made (proxy : ProxyConfig) : (∃ self, Socks4Proxy.new proxy = .ok self) ↔
    (∃ addr, SocketAddr.fromStr proxy.server = .ok addr) ∧
      nul ∉ proxy.user.getD [] ∧ nul ∉ proxy.password.getD [] := by
  have joined : ∀ {auth : Text} {fits : Prop} {error : Error}, (nul ∈ auth ↔ ¬ fits) →
      ((∃ self, (if nul ∈ auth then .error error else do
        let addr ← SocketAddr.fromStr proxy.server
        return ⟨addr, if auth.isEmpty then none else some auth⟩ : Except Error Socks4Proxy) =
          .ok self) ↔
      (∃ addr, SocketAddr.fromStr proxy.server = .ok addr) ∧ fits) := by
    intro auth fits error same
    by_cases inside : nul ∈ auth
    · rw [if_pos inside]
      refine iff_of_false ?_ fun both => same.mp inside both.2
      intro made
      obtain ⟨_, absurd⟩ := made
      cases absurd
    · rw [if_neg inside, made_iff]
      exact (and_iff_left (not_not.mp fun bad => inside (same.mpr bad))).symm
  obtain ⟨protocol, user, password, server⟩ := proxy
  cases password with
  | none =>
    have alone : nul ∈ user.getD [] ++ [] ↔ ¬ (nul ∉ user.getD [] ∧ nul ∉ ([] : Text)) := by simp
    exact joined alone
  | some password => exact joined (nul_joined (user.getD []) password)

theorem socks5_made (proxy : ProxyConfig) : (∃ self, Socks5Proxy.new proxy = .ok self) ↔
    (∃ addr, SocketAddr.fromStr proxy.server = .ok addr) ∧
      (asBytes (proxy.user.getD [])).length ≤ 255 ∧
        (asBytes (proxy.password.getD [])).length ≤ 255 := by
  unfold Socks5Proxy.new
  extract_lets user password
  split_ifs with longUser longPassword
  · refine iff_of_false ?_ fun both => absurd both.2.1 (Nat.not_le.mpr longUser)
    intro made
    obtain ⟨_, absurd⟩ := made
    cases absurd
  · refine iff_of_false ?_ fun both => absurd both.2.2 (Nat.not_le.mpr longPassword)
    intro made
    obtain ⟨_, absurd⟩ := made
    cases absurd
  · rw [made_iff]
    exact (and_iff_left ⟨Nat.not_lt.mp longUser, Nat.not_lt.mp longPassword⟩).symm

/-- A proxy is acceptable exactly if a hop equips it. -/
theorem acceptable_iff : Acceptable proxy ↔ ∃ hop, Equips crates proxy hop := by
  constructor
  · intro acceptable
    obtain ⟨server, layers, protocol, named, fits⟩ := acceptable
    rcases fits with kind | ⟨kind, user, password⟩ | ⟨kind, user, password⟩
    · obtain ⟨self, made⟩ := (http_made crates proxy).mpr server
      rw [kind] at named
      exact ⟨⟨layers, .http self⟩, (protocolText_iff layers (.http self)).mpr named, .http made⟩
    · obtain ⟨self, made⟩ := (socks4_made proxy).mpr ⟨server, user, password⟩
      rw [kind] at named
      exact ⟨⟨layers, .socks4 self⟩, (protocolText_iff layers (.socks4 self)).mpr named,
        .socks4 made⟩
    · obtain ⟨self, made⟩ := (socks5_made proxy).mpr ⟨server, user, password⟩
      rw [kind] at named
      exact ⟨⟨layers, .socks5 self⟩, (protocolText_iff layers (.socks5 self)).mpr named,
        .socks5 made⟩
  · intro equipped
    obtain ⟨hop, equips⟩ := equipped
    obtain ⟨layers, kind⟩ := hop
    have named := equips.protocol
    cases equips.made with
    | http made =>
      have server := (http_made crates proxy).mp ⟨_, made⟩
      exact ⟨server, layers, _, (protocolText_iff layers _).mp named, .inl rfl⟩
    | socks4 made =>
      obtain ⟨server, fits⟩ := (socks4_made proxy).mp ⟨_, made⟩
      exact ⟨server, layers, _, (protocolText_iff layers _).mp named, .inr (.inl ⟨rfl, fits⟩)⟩
    | socks5 made =>
      obtain ⟨server, fits⟩ := (socks5_made proxy).mp ⟨_, made⟩
      exact ⟨server, layers, _, (protocolText_iff layers _).mp named, .inr (.inr ⟨rfl, fits⟩)⟩

theorem hops_iff {proxies : List ProxyConfig} :
    (∃ hops, List.Forall₂ (Equips crates) proxies hops) ↔ ∀ proxy ∈ proxies, Acceptable proxy := by
  induction proxies with
  | nil => exact iff_of_true ⟨[], .nil⟩ fun proxy member => by cases member
  | cons proxy proxies ih =>
    rw [List.forall_mem_cons, ← ih, @acceptable_iff crates proxy]
    constructor
    · intro some
      obtain ⟨hops, equips⟩ := some
      cases equips with
      | cons first others => exact ⟨⟨_, first⟩, ⟨_, others⟩⟩
    · intro both
      obtain ⟨⟨hop, first⟩, hops, others⟩ := both
      exact ⟨hop :: hops, .cons first others⟩

end Acceptance

/-- The configurations that `main` comes through with, for the lines that are typed in: every
proxy has a server that can be read, a protocol with its layers, and a user and a password that
fit the protocol. With any others it panics. -/
theorem configure_accepts {crates : Crates} {parse : Text → Option Settings} {text : Text}
    {settings : Settings} (parsed : parse text = some settings) (lines : List Text) :
    (∃ talk final, Returns (configure crates parse) (⟨.readFile configPath, some text⟩ :: talk)
      final ∧ typed talk = lines) ↔
    lines.length = asked settings.publics ∧
      ∀ proxy ∈ equipped (settings.config.proxies.getD []) lines, Acceptable proxy := by
  rw [← @hops_iff crates]
  constructor
  · intro run
    obtain ⟨talk, final, steps, same⟩ := run
    obtain ⟨length, _, built⟩ := (configure_iff parsed).mp ⟨talk, steps, same⟩
    obtain ⟨hops, equips, _⟩ := buildStack_iff.mp built
    exact ⟨length, hops, equips⟩
  · intro accepted
    obtain ⟨length, hops, equips⟩ := accepted
    obtain ⟨talk, steps, same⟩ := (configure_iff parsed).mpr
      ⟨length, rfl, buildStack_iff.mpr ⟨hops, equips, rfl⟩⟩
    exact ⟨talk, _, steps, same⟩

theorem configure_accepts_typed : Acceptable ⟨"tls+socks5".toList, some "me".toList,
    some "secret".toList, "proxy.test:1080".toList⟩ := by
  have parsed : typedParse [] = some typedSettings := rfl
  obtain ⟨talk, steps, lines⟩ :=
    (@configure_iff Crates.plain typedParse [] typedSettings parsed typedLines _ _).mpr
      ⟨by decide, rfl, typedStack_built⟩
  exact ((@configure_accepts Crates.plain typedParse [] typedSettings parsed typedLines).mp
    ⟨talk, _, steps, lines⟩).2 _ (by decide)

end LocalProxy.Startup
