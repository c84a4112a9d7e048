import LocalProxy.Resolution

/-! What a DNS query over HTTPS does upstream and to the cache: its one `POST` request
carries the query, what it returns is the body of the response, and the cache takes that
body before its ID is set. -/

namespace LocalProxy.DohQuery
open Strings Addr Http Programs Program Network SendRequest Outbound Service Calls Resolution

/-- The `POST` requests in the course of some events: their bodies and how they were
answered. -/
def posts (trace : Trace) : List (Body × Except Error Response) :=
  trace.filterMap fun event => match event with
    | ⟨.sendRequest _ request, answer⟩ =>
      if request.method = .post then some (request.body, answer) else none
    | _ => none

/-- What was put into the cache. -/
def inserts (trace : Trace) : List (Bytes × Bytes) :=
  trace.filterMap fun event => match event.operation with
    | .cacheInsert query answer => some (query, answer)
    | _ => none

theorem posts_append (before after : Trace) :
    posts (before ++ after) = posts before ++ posts after := List.filterMap_append

theorem inserts_append (before after : Trace) :
    inserts (before ++ after) = inserts before ++ inserts after := List.filterMap_append

theorem opens_posts {trace : Trace} (opens : ∀ event ∈ trace, Opens event.operation) :
    posts trace = [] := by
  unfold posts
  rw [List.filterMap_eq_nil_iff]
  intro event member
  have allowed := opens event member
  cases event with
  | mk operation answer =>
    cases operation with
    | sendRequest stream request =>
      have connect : request.method = .connect := allowed
      simp [connect]
    | _ => rfl

theorem serves_inserts {method : Method} {body : Body} {trace : Trace}
    (serves : ∀ event ∈ trace, Serves method body event.operation) : inserts trace = [] := by
  unfold inserts
  rw [List.filterMap_eq_nil_iff]
  intro event member
  cases event with
  | mk operation answer =>
    cases operation with
    | cacheInsert query answer =>
      rcases serves _ member with opens | ⟨_, _, absurd, _⟩ | ⟨_, absurd⟩
      · exact opens.elim
      · cases absurd
      · cases absurd
    | _ => rfl

/-- The request was sent once if the program has returned, and then the result is its
response; if it has failed, nothing was answered. -/
def Posted (body : Body) (trace : Trace) (outcome : Except Error Response) : Prop :=
  (∃ response, outcome = .ok response ∧ posts trace = [(body, .ok response)]) ∨
    ∃ error, outcome = .error error ∧ ∀ post ∈ posts trace, ∃ reason, post.2 = .error reason

/-- In every run that ends the request is posted. -/
def Posts (body : Body) (program : Net Response) : Prop :=
  ∀ trace outcome, Ends program trace outcome → Posted body trace outcome

section Posting

variable {α : Type} {body : Body}

theorem posts_fail (error : Error) : Posts body (fail error) := by
  intro trace outcome ends
  have failed : Ends (Program.ofExcept (.error error) : Net Response) trace outcome := ends
  obtain ⟨empty, same⟩ := ends_ofExcept failed
  rw [empty, same]
  exact .inr ⟨error, rfl, fun post member => by cases member⟩

/-- A part that only opens connections, before the rest. -/
theorem Posts.opens {program : Net α} {next : α → Net Response} (first : program.Uses Opens)
    (later : ∀ result, Posts body (next result)) : Posts body (program >>= next) := by
  intro trace outcome ends
  rcases ends_bind ends with ⟨error, same, fails⟩ | ⟨result, before, after, split, returns, rest⟩
  · rw [same]
    refine .inr ⟨error, rfl, ?_⟩
    rw [opens_posts (first.steps fails).1]
    intro post member
    cases member
  · have posted := later result after outcome rest
    unfold Posted at posted ⊢
    rw [split, posts_append, opens_posts (first.steps returns).1, List.nil_append]
    exact posted

theorem Posts.ofExcept {result : Except Error α} {next : α → Net Response}
    (later : ∀ value, result = .ok value → Posts body (next value)) :
    Posts body (Program.ofExcept result >>= next) := by
  cases result with
  | ok value => exact later value rfl
  | error error => exact posts_fail error

theorem Posts.okOr {option : Option α} {next : α → Net Response}
    (later : ∀ value, option = some value → Posts body (next value)) :
    Posts body (Network.okOr option >>= next) := by
  cases option with
  | some value => exact later value rfl
  | none => exact posts_fail .empty

/-- Once there is a response the program returns it. -/
theorem relay_ends {server : Connection} {response : Response} {trace : Trace}
    {outcome : Except Error Response}
    (ends : Ends (relayUpgrade server response >>= fun _ => value response) trace outcome) :
    outcome = .ok response ∧ posts trace = [] := by
  have returned : ∀ {trace : Trace}, Ends (value response : Net Response) trace outcome →
      trace = [] ∧ outcome = .ok response := by
    intro trace ends
    have ended : Ends (Program.ofExcept (.ok response) : Net Response) trace outcome := ends
    exact ends_ofExcept ended
  unfold relayUpgrade at ends
  split at ends
  · obtain ⟨answer, rest, split, later⟩ := ends_ask ends
    obtain ⟨empty, ok⟩ := returned later
    rw [split, empty]
    exact ⟨ok, rfl⟩
  · obtain ⟨empty, ok⟩ := returned ends
    rw [empty]
    exact ⟨ok, rfl⟩

theorem send_posts (server : Connection) {request : Request} (method : request.method = .post) :
    Posts request.body (do
      let response ← Network.sendRequest server request
      relayUpgrade server response
      return response) := by
  intro trace outcome ends
  obtain ⟨answer, rest, split, later⟩ := ends_ask ends
  have first : posts [⟨.sendRequest server request, answer⟩] = [(request.body, answer)] := by
    simp [posts, method]
  have whole : posts trace = (request.body, answer) :: posts rest := by
    calc posts trace = posts ([⟨.sendRequest server request, answer⟩] ++ rest) := by
          rw [split]
          rfl
      _ = (request.body, answer) :: posts rest := by
          rw [posts_append, first]
          rfl
  cases answer with
  | ok response =>
    obtain ⟨ok, nothing⟩ := relay_ends later
    rw [nothing] at whole
    exact .inl ⟨response, ok, whole⟩
  | error error =>
    have failed : Ends (Program.ofExcept (.error error) : Net Response) rest outcome := later
    obtain ⟨empty, same⟩ := ends_ofExcept failed
    rw [empty] at whole
    refine .inr ⟨error, same, fun post member => ?_⟩
    rw [whole] at member
    rw [List.mem_singleton.mp member]
    exact ⟨error, rfl⟩

theorem exchange_posts (server : Connection) {request : Request} (method : request.method = .post) :
    Posts request.body (exchange server request) := by
  have shake : (handshake server).Uses Opens := ⟨trivial, fun _ => uses_ofExcept _ _⟩
  exact .opens shake fun _ => send_posts server method

variable {crates : Crates} {resolve : Resolve} {config : Config} {scheme : Text}
  {reqConf : RequestConfig} {request : Request}

theorem serve_posts (proxies : ProxyStack) (plain : reqConf.doh = false)
    (method : request.method = .post) :
    Posts request.body (serve crates resolve config proxies scheme reqConf request) := by
  rw [serve_server]
  cases server scheme proxies with
  | nobody => exact posts_fail .empty
  | default self rest =>
    apply Posts.ofExcept
    intro addr _
    simp only [dial, plain, Bool.false_eq_true, if_false]
    apply Posts.opens (connect_opens crates self rest _)
    intro server
    exact .opens (secure_uses server addr) fun server => exchange_posts server method
  | forward proxy rest =>
    apply Posts.okOr
    intro connect known
    apply Posts.opens (stack_opens crates rest connect known proxy.addr)
    intro server
    have shake : (handshake server).Uses Opens := ⟨trivial, fun _ => uses_ofExcept _ _⟩
    apply Posts.opens shake
    intro _
    apply Posts.ofExcept
    intro sent absolute
    obtain ⟨sameMethod, sameBody⟩ := absolute_same absolute
    rw [← sameBody]
    exact send_posts server (sameMethod.trans method)

theorem sendRequest_posts {state : ProxyState} (plain : reqConf.doh = false)
    (method : request.method = .post) :
    Posts request.body (Service.sendRequest crates resolve state reqConf request) := by
  apply Posts.ofExcept
  intro rewritten accepted
  obtain ⟨sameMethod, sameBody⟩ := rewrite_same accepted
  rw [← sameBody]
  exact serve_posts (dispatch state reqConf) plain (sameMethod.trans method)

end Posting

section Querying

variable {crates : Crates} {resolve : Resolve} {state : ProxyState} {query : Bytes}

/-- The upstream answered a `POST` of this query with success and this body. -/
def Answered (query body : Bytes) (post : Body × Except Error Response) : Prop :=
  post.1 = [.ok (.data query)] ∧ ∃ response, post.2 = .ok response ∧ response.isSuccess = true ∧
    collect response.body = .ok body

theorem Answered.same {query sent body whole : Bytes} {post : Body × Except Error Response}
    (answered : Answered query whole post) (again : Answered sent body post) : whole = body := by
  obtain ⟨_, response, ok, _, collected⟩ := answered
  obtain ⟨_, other, same, _, collected'⟩ := again
  rw [ok] at same
  cases same
  rw [collected] at collected'
  exact Except.ok.inj collected'

/-- The program fails without having been answered upstream, or returns the answer. -/
def Fetched (query : Bytes) (trace : Trace) (outcome : Except Error Bytes) : Prop :=
  (∃ body post, outcome = .ok body ∧ posts trace = [post] ∧ Answered query body post) ∨
    ∃ error, outcome = .error error ∧ ∀ post ∈ posts trace, ∀ sent body, ¬ Answered sent body post

theorem unfetched (error : Error) {trace : Trace} (empty : trace = []) :
    Fetched query trace (.error error) := by
  rw [empty]
  exact .inr ⟨error, rfl, fun post member => by cases member⟩

/-- The response with the whole body is the answer. -/
theorem response_fetched {response : Response} {before after : Trace}
    {outcome : Except Error Bytes} (posted : posts before = [([.ok (.data query)], .ok response)])
    (ends : Ends (ensure response.isSuccess >>= fun _ => ofExcept (collect response.body)) after
      outcome) : Fetched query (before ++ after) outcome := by
  have only : ∀ post ∈ posts before, post = ([.ok (.data query)], .ok response) := by
    intro post member
    rw [posted] at member
    exact List.mem_singleton.mp member
  cases success : response.isSuccess with
  | false =>
    rw [success] at ends
    have failed : Ends (ofExcept (.error .empty) : Net Bytes) after outcome := ends
    obtain ⟨empty, same⟩ := ends_ofExcept failed
    rw [empty, List.append_nil]
    refine .inr ⟨.empty, same, fun post member sent body answered => ?_⟩
    obtain ⟨_, other, same, yes, _⟩ := answered
    rw [only post member] at same
    cases same
    rw [success] at yes
    cases yes
  | true =>
    rw [success] at ends
    have collected : Ends (ofExcept (collect response.body) : Net Bytes) after outcome := ends
    obtain ⟨empty, same⟩ := ends_ofExcept collected
    rw [empty, List.append_nil]
    cases whole : collect response.body with
    | ok body =>
      exact .inl ⟨body, _, same.trans whole, posted, rfl, response, rfl, success, whole⟩
    | error error =>
      refine .inr ⟨error, same.trans whole, fun post member sent body answered => ?_⟩
      obtain ⟨_, other, same, _, ok⟩ := answered
      rw [only post member] at same
      cases same
      rw [whole] at ok
      cases ok

theorem fetch_fetched {trace : Trace} {outcome : Except Error Bytes}
    (ends : Ends (fetch crates resolve state query) trace outcome) :
    Fetched query trace outcome := by
  unfold fetch at ends
  rw [okOr_ofExcept] at ends
  rcases ends_ofExcept_bind ends with ⟨error, _, empty, same⟩ | ⟨doh, _, ends⟩
  · rw [same]
    exact unfetched error empty
  rcases ends_ofExcept_bind ends with ⟨error, _, empty, same⟩ | ⟨request, made, ends⟩
  · rw [same]
    exact unfetched error empty
  obtain ⟨method, content⟩ := dohRequest_post made
  have sends : Posts request.body (Service.sendRequest crates resolve state
      (dohRequestConfig state.config doh) request) := sendRequest_posts rfl method
  rcases ends_bind ends with ⟨error, same, fails⟩ | ⟨response, before, after, split, returns, rest⟩
  · rw [same]
    rcases sends trace (.error error) fails with ⟨_, absurd, _⟩ | ⟨_, _, unanswered⟩
    · cases absurd
    · refine .inr ⟨error, rfl, fun post member sent body answered => ?_⟩
      obtain ⟨reason, failed⟩ := unanswered post member
      obtain ⟨_, response, ok, _⟩ := answered
      rw [failed] at ok
      cases ok
  · rw [split]
    rcases sends before (.ok response) returns with ⟨_, same, posted⟩ | ⟨_, absurd, _⟩
    · cases same
      rw [content] at posted
      exact response_fetched posted rest
    · cases absurd

/-- A lookup takes its result from the cache, fails to fetch it, or fetches and caches it. -/
theorem lookup_ends {trace : Trace} {outcome : Except Error Bytes}
    (ends : Ends (lookup crates resolve state query) trace outcome) :
    (∃ result, trace = [⟨.cacheGet query, some result⟩] ∧ outcome = .ok result) ∨
    ∃ rest found, Ends (fetch crates resolve state query) rest found ∧ outcome = found ∧
      trace = ⟨.cacheGet query, none⟩ :: rest ++
        (match found with
          | .ok body => [⟨.cacheInsert query body, ()⟩]
          | .error _ => []) := by
  obtain ⟨cached, rest, split, later⟩ := ends_ask ends
  cases cached with
  | some result =>
    have hit : Ends (ofExcept (.ok result) : Net Bytes) rest outcome := later
    obtain ⟨empty, same⟩ := ends_ofExcept hit
    rw [empty] at split
    exact .inl ⟨result, split, same⟩
  | none =>
    have missing : Ends (fetch crates resolve state query >>= fun result =>
        cacheInsert query result >>= fun _ => value result) rest outcome := later
    rcases ends_bind missing with ⟨error, same, fails⟩ | ⟨body, before, after, whole, returns, last⟩
    · refine .inr ⟨rest, .error error, fails, same, ?_⟩
      rw [split, List.append_nil]
    · obtain ⟨answer, more, shape, last⟩ := ends_ask last
      have inserted : Ends (ofExcept (.ok body) : Net Bytes) more outcome := last
      obtain ⟨empty, same⟩ := ends_ofExcept inserted
      refine .inr ⟨before, .ok body, returns, same, ?_⟩
      rw [split, whole, shape, empty]
      rfl

/-- A query is looked up under the ID `0xabcd`, and its own is put into what is found. -/
theorem dohQuery_ends {trace : Trace} {outcome : Except Error Bytes}
    (ends : Ends (dohQuery crates resolve state query) trace outcome) :
    (∃ error, outcome = .error error ∧ trace = []) ∨
    ∃ id found, messageId query = .ok id ∧
      Ends (lookup crates resolve state (patched query)) trace found ∧
      outcome = found >>= setId id := by
  rcases ends_ofExcept_bind ends with ⟨error, _, empty, same⟩ | ⟨id, known, ends⟩
  · exact .inl ⟨error, same, empty⟩
  rcases ends_ofExcept_bind ends with ⟨error, _, empty, same⟩ | ⟨sent, set, ends⟩
  · exact .inl ⟨error, same, empty⟩
  rw [setId_ok set] at ends
  rcases ends_bind ends with ⟨error, same, fails⟩ | ⟨found, before, after, split, returns, last⟩
  · exact .inr ⟨id, .error error, known, fails, same⟩
  · obtain ⟨empty, same⟩ := ends_ofExcept last
    rw [empty, List.append_nil] at split
    rw [split]
    exact .inr ⟨id, .ok found, known, returns, same⟩

theorem setId_error {id : UInt8 × UInt8} {bytes : Bytes} :
    (∃ error, setId id bytes = .error error) ↔ bytes.length < 2 := by
  cases bytes with
  | nil => simp [setId]
  | cons first rest =>
    cases rest with
    | nil => simp [setId]
    | cons second rest => simp [setId]

/-- A query that fails leaves the cache alone, unless the upstream has answered it with a
body too short for an ID. -/
theorem dohQuery_cache {trace : Trace} {outcome : Except Error Bytes}
    (ends : Ends (dohQuery crates resolve state query) trace outcome) :
    (∀ error, outcome = .error error → inserts trace = []) ↔
      ∀ post ∈ posts trace, ∀ sent body, Answered sent body post → 2 ≤ body.length := by
  have quiet : inserts trace = [] → posts trace = [] →
      ((∀ error, outcome = .error error → inserts trace = []) ↔
        ∀ post ∈ posts trace, ∀ sent body, Answered sent body post → 2 ≤ body.length) := by
    intro nothing unasked
    rw [nothing, unasked]
    exact iff_of_true (fun _ _ => rfl) (fun post member => by cases member)
  rcases dohQuery_ends ends with ⟨error, _, empty⟩ | ⟨id, found, _, looked, same⟩
  · exact quiet (by rw [empty]; rfl) (by rw [empty]; rfl)
  rcases lookup_ends looked with ⟨result, hit, _⟩ | ⟨rest, body, fetched, answer, missed⟩
  · exact quiet (by rw [hit]; rfl) (by rw [hit]; rfl)
  have silent : inserts rest = [] := serves_inserts (fetch_uses.steps fetched).1
  rcases fetch_fetched fetched with ⟨whole, post, ok, posted, answered⟩ |
    ⟨error, failed, unanswered⟩
  · rw [ok] at answer missed
    rw [answer] at same
    have inserted : inserts trace = [(patched query, whole)] := by
      rw [missed, inserts_append]
      calc inserts (⟨.cacheGet (patched query), none⟩ :: rest) ++ [(patched query, whole)]
          = inserts rest ++ [(patched query, whole)] := rfl
        _ = [(patched query, whole)] := by rw [silent, List.nil_append]
    have asked : posts trace = [post] := by
      rw [missed, posts_append]
      calc posts (⟨.cacheGet (patched query), none⟩ :: rest) ++ [] = posts rest := List.append_nil _
        _ = [post] := posted
    have short : (∀ error, outcome = .error error → inserts trace = []) ↔ ¬ whole.length < 2 := by
      have unset : (∃ error, setId id whole = .error error) ↔ whole.length < 2 := setId_error
      rw [← unset, inserted, same]
      constructor
      · intro clean failed
        obtain ⟨error, failed⟩ := failed
        cases clean error failed
      · intro fine error failed
        exact (fine ⟨error, failed⟩).elim
    rw [short, asked, Nat.not_lt]
    constructor
    · intro long other member sent body again
      rw [List.mem_singleton.mp member] at again
      exact (answered.same again) ▸ long
    · intro long
      exact long post (List.mem_singleton.mpr rfl) _ whole answered
  · rw [failed] at missed
    have nothing : inserts trace = [] := by
      rw [missed, List.append_nil]
      exact silent
    have asked : posts trace = posts rest := by
      rw [missed, List.append_nil]
      rfl
    rw [nothing, asked]
    refine iff_of_true (fun _ _ => rfl) (fun post member sent body answered => ?_)
    exact (unanswered post member sent body answered).elim

end Querying

/-- A server that resolves names over this endpoint and goes out directly. -/
def plainServer : ProxyState where
  config := ⟨none, some ⟨"http://dns.test/".toList, none⟩, none⟩
  proxyStack := [.raw]

theorem dohQuery_cache_answered : ∃ trace,
    Ends (dohQuery Crates.plain dnsResolve plainServer [7, 7, 9]) trace (.ok [7, 7, 3]) ∧
    inserts trace = [([0xab, 0xcd, 9], [1, 2, 3])] ∧
    ((∀ error, Except.ok [7, 7, 3] = (.error error : Except Error Bytes) → inserts trace = []) ↔
      ∀ post ∈ posts trace, ∀ sent body, Answered sent body post → 2 ≤ body.length) := by
  have ends := drive_steps (willing ⟨200, [], [.ok (.data [1, 2, 3])]⟩) true
    (dohQuery Crates.plain dnsResolve plainServer [7, 7, 9])
  exact ⟨_, ends, rfl, dohQuery_cache ends⟩

/-- A body of one byte fails the query and is cached, and from then on it fails every
query for the same question before the upstream is asked. -/
theorem short_body_cached : ∃ trace,
    Fails (dohQuery Crates.plain dnsResolve plainServer [7, 7, 9]) trace .empty ∧
    inserts trace = [([0xab, 0xcd, 9], [1])] ∧
    Fails (dohQuery Crates.plain dnsResolve plainServer [8, 8, 9])
      [⟨.cacheGet [0xab, 0xcd, 9], some [1]⟩] .empty := by
  have ends := drive_steps (willing ⟨200, [], [.ok (.data [1])]⟩) true
    (dohQuery Crates.plain dnsResolve plainServer [7, 7, 9])
  exact ⟨_, ends, rfl, .ask (.still _)⟩

end LocalProxy.DohQuery
