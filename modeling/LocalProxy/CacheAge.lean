import LocalProxy.DnsReplies
import LocalProxy.Expiry

/-! The age of what the DNS service answers. Each event of a task happens at a time, and the
cache is a store that expires what it holds: a client is sent what its own task was answered
upstream, or what was put into the cache in the last hour and not replaced since. -/

namespace LocalProxy.CacheAge
open Strings Addr Http Programs Program Network Outbound Service Inbound Calls Resolution DohQuery
open DnsService DnsReplies Expiry

/-- `Duration::from_secs(3600)` in nanoseconds -/
def timeToLive : Nat := 3600 * 10 ^ 9

/-- The capacity that `main` gives the cache. -/
def cacheSize (config : Config) : Nat := if config.doh.isSome then 65535 else 0

/-- An event of the task with this number, and when it happened. -/
structure Stamped where
  time : Nat
  task : Nat
  event : Event Op Ans

/-- What an event puts into the cache. -/
def Stamped.entry : Stamped → Option (Entry Bytes Bytes)
  | ⟨time, _, ⟨.cacheInsert query answer, _⟩⟩ => some ⟨time, query, answer, timeToLive⟩
  | _ => none

/-- The events of one task. -/
def eventsOf (log : List Stamped) (task : Nat) : Trace :=
  (log.filter fun stamped => stamped.task = task).map Stamped.event

variable {store : Store Bytes Bytes} {crates : Crates} {state : ProxyState}

/-- What `dns_cache` answers at a time. -/
def Cached (store : Store Bytes Bytes) (cache : store.State) (stamped : Stamped) : Prop :=
  ∀ key found, stamped.event = ⟨.cacheGet key, found⟩ → found = store.get cache stamped.time key

/-- The cache once an event has happened. -/
def update (store : Store Bytes Bytes) (cache : store.State) (stamped : Stamped) : store.State :=
  match stamped.entry with
  | some entry => store.put cache entry
  | none => cache

/-- The service at a time, with its cache and all that has happened. -/
structure Timed (store : Store Bytes Bytes) (crates : Crates) (state : ProxyState) where
  now : Nat
  cache : store.State
  log : List Stamped
  service : System crates state

inductive Step : Timed store crates state → Timed store crates state → Prop where
  | tick (s : Timed store crates state) {time} (later : s.now ≤ time) : Step s { s with now := time }
  | start (s : Timed store crates state) (origin) :
    Step s { s with service := { s.service with tasks := s.service.tasks ++ [.start origin] } }
  | proceed {s : Timed store crates state} {i task event left}
    (here : s.service.tasks[i]? = some task) (step : Steps task.left [event] left)
    (cached : Cached store s.cache ⟨s.now, i, event⟩) :
    Step s {
      now := s.now
      cache := update store s.cache ⟨s.now, i, event⟩
      log := s.log ++ [⟨s.now, i, event⟩]
      service := proceeded s.service i task step }
  | deliver {s : Timed store crates state} {before reply after}
    (split : s.service.queued = before ++ reply :: after)
    (first : ∀ earlier ∈ before, earlier.listener ≠ reply.listener) :
    Step s { s with service :=
      { s.service with queued := before ++ after, sent := s.service.sent ++ [reply] } }
  | lose {s : Timed store crates state} {before reply after}
    (split : s.service.queued = before ++ reply :: after)
    (first : ∀ earlier ∈ before, earlier.listener ≠ reply.listener) :
    Step s { s with service := { s.service with queued := before ++ after } }

/-- The service when it is started. -/
def Timed.initial (store : Store Bytes Bytes) (crates : Crates) (state : ProxyState) :
    Timed store crates state :=
  ⟨0, store.new (cacheSize state.config), [], ⟨[], [], [], []⟩⟩

inductive Reachable : Timed store crates state → Prop where
  | initial : Reachable (.initial store crates state)
  | step {s s'} (before : Reachable s) (step : Step s s') : Reachable s'

/-- The cache after what is in the log. -/
def cacheAfter (store : Store Bytes Bytes) (state : ProxyState) (log : List Stamped) :
    store.State :=
  store.after (cacheSize state.config) (log.filterMap Stamped.entry)

theorem cacheAfter_append (log : List Stamped) (stamped : Stamped) :
    cacheAfter store state (log ++ [stamped]) =
      update store (cacheAfter store state log) stamped := by
  unfold cacheAfter update
  rw [List.filterMap_append]
  cases entry : stamped.entry with
  | none => simp [entry]
  | some entry => simp [entry, after_append]

theorem entry_inserts {stamped : Stamped} {entry : Entry Bytes Bytes}
    (put : stamped.entry = some entry) : stamped.event = ⟨.cacheInsert entry.key entry.value, ()⟩ ∧
      entry.time = stamped.time ∧ entry.ttl = timeToLive := by
  unfold Stamped.entry at put
  split at put
  next time task query answer done =>
    cases put
    exact ⟨rfl, rfl, rfl⟩
  next => cases put

theorem mem_posts {trace : Trace} {post : Body × Except Error Response} :
    post ∈ posts trace ↔ ∃ event ∈ trace, post ∈ posts [event] := by
  induction trace with
  | nil => simp [posts]
  | cons event trace ih =>
    have split : posts (event :: trace) = posts [event] ++ posts trace := posts_append [event] trace
    rw [split, List.mem_append, ih]
    simp

/-- The invariant of the service in time. -/
structure Kept (s : Timed store crates state) : Prop where
  service : DnsService.Reachable s.service
  cache : s.cache = cacheAfter store state s.log
  past : ∀ stamped ∈ s.log, stamped.time ≤ s.now
  known : ∀ stamped ∈ s.log, ∀ entry, stamped.entry = some entry →
    (entry.key, entry.value) ∈ s.service.inserted
  events : ∀ i task, s.service.tasks[i]? = some task → task.events = eventsOf s.log i
  present : ∀ stamped ∈ s.log, stamped.task < s.service.tasks.length
  /-- Each event came after those before it, and the cache had answered them all. -/
  answered : ∀ before stamped later, s.log = before ++ stamped :: later →
    (∀ earlier ∈ before, earlier.time ≤ stamped.time) ∧
      Cached store (cacheAfter store state before) stamped

theorem initial_kept : Kept (.initial store crates state) where
  service := .initial
  cache := rfl
  past _ member := by cases member
  known _ member := by cases member
  events i task here := by cases here
  present _ member := by cases member
  answered before stamped later split := by
    have empty := congrArg List.length split
    simp [Timed.initial] at empty

/-- What happens beside the tasks keeps the invariant. -/
theorem Kept.aside {s : Timed store crates state} (kept : Kept s) {service : System crates state}
    (step : DnsService.Step s.service service) (same : service.inserted = s.service.inserted)
    (tasks : service.tasks = s.service.tasks ∨
      ∃ origin, service.tasks = s.service.tasks ++ [.start origin]) :
    Kept { s with service := service } where
  service := kept.service.step step
  cache := kept.cache
  past := kept.past
  known := by
    rw [same]
    exact kept.known
  events := by
    intro i task here
    rcases tasks with still | ⟨origin, more⟩
    · exact kept.events i task (still ▸ here)
    · rw [more] at here
      by_cases inside : i < s.service.tasks.length
      · rw [List.getElem?_append_left inside] at here
        exact kept.events i task here
      · rw [List.getElem?_append_right (Nat.le_of_not_lt inside), List.getElem?_singleton] at here
        split at here
        next =>
          cases here
          have nothing : (s.log.filter fun stamped => stamped.task = i) = [] := by
            rw [List.filter_eq_nil_iff]
            intro stamped member same
            have started := kept.present stamped member
            rw [of_decide_eq_true same] at started
            exact inside started
          rw [eventsOf, nothing]
          rfl
        next => cases here
  present := by
    intro stamped member
    have inside := kept.present stamped member
    rcases tasks with still | ⟨origin, more⟩
    · exact still ▸ inside
    · rw [more, List.length_append]
      exact Nat.lt_of_lt_of_le inside (Nat.le_add_right _ _)
  answered := kept.answered

/-- Every entry that was put into the cache so far is of an age. -/
theorem Kept.entries_past {s : Timed store crates state} (kept : Kept s)
    (entry : Entry Bytes Bytes) (member : entry ∈ s.log.filterMap Stamped.entry) :
    entry.time ≤ s.now ∧ (entry.key, entry.value) ∈ s.service.inserted := by
  obtain ⟨stamped, logged, put⟩ := List.mem_filterMap.mp member
  refine ⟨?_, kept.known stamped logged entry put⟩
  rw [(entry_inserts put).2.1]
  exact kept.past stamped logged

/-- What the cache gives back is among what was put into it. -/
theorem Kept.permitted (lawful : store.Lawful) {s : Timed store crates state} (kept : Kept s)
    {i : Nat} {event : Event Op Ans} (cached : Cached store s.cache ⟨s.now, i, event⟩) :
    Permitted s.service.inserted event := by
  intro key value same
  have got : some value = store.get s.cache s.now key := cached key (some value) same
  rw [kept.cache] at got
  obtain ⟨before, entry, later, split, named, found, _⟩ :=
    lawful.get_after (fun entry member => (kept.entries_past entry member).1) got.symm
  have member : entry ∈ s.log.filterMap Stamped.entry := by
    rw [split]
    exact List.mem_append_right _ List.mem_cons_self
  rw [← named, ← found]
  exact (kept.entries_past entry member).2

theorem eventsOf_append (before after : List Stamped) (i : Nat) :
    eventsOf (before ++ after) i = eventsOf before i ++ eventsOf after i := by
  unfold eventsOf
  rw [List.filter_append, List.map_append]

theorem eventsOf_single (stamped : Stamped) (i : Nat) :
    eventsOf [stamped] i = if stamped.task = i then [stamped.event] else [] := by
  unfold eventsOf
  split
  next mine => simp [mine]
  next other => simp [other]

theorem Kept.proceed (lawful : store.Lawful) {s : Timed store crates state} (kept : Kept s)
    {i : Nat} {task : Spawned crates state} {event : Event Op Ans} {left : Net Unit}
    (here : s.service.tasks[i]? = some task) (step : Steps task.left [event] left)
    (cached : Cached store s.cache ⟨s.now, i, event⟩) :
    Kept (⟨s.now, update store s.cache ⟨s.now, i, event⟩, s.log ++ [⟨s.now, i, event⟩],
      proceeded s.service i task step⟩ : Timed store crates state) where
  service := kept.service.step (.proceed here step (kept.permitted lawful cached))
  cache := by rw [cacheAfter_append, ← kept.cache]
  past := by
    intro stamped member
    rcases List.mem_append.mp member with old | new
    · exact kept.past stamped old
    · cases List.mem_singleton.mp new
      exact Nat.le_refl s.now
  known := by
    intro stamped member entry put
    rcases List.mem_append.mp member with old | new
    · exact List.mem_append_right _ (kept.known stamped old entry put)
    · rw [List.mem_singleton.mp new] at put
      have same : event = ⟨.cacheInsert entry.key entry.value, ()⟩ := (entry_inserts put).1
      have inserted : (entry.key, entry.value) ∈ inserts [event] := by
        rw [same]
        exact List.mem_cons_self
      exact List.mem_append_left _ inserted
  events := by
    intro j other there
    rw [eventsOf_append, eventsOf_single]
    by_cases mine : i = j
    · rw [← mine, after_here here] at there
      cases there
      rw [if_pos mine, ← mine, ← kept.events i task here]
      rfl
    · have stays : s.service.tasks[j]? = some other := by
        rw [← List.getElem?_set_ne mine]
        exact there
      rw [if_neg mine, List.append_nil]
      exact kept.events j other stays
  present := by
    intro stamped member
    rw [List.length_set]
    rcases List.mem_append.mp member with old | new
    · exact kept.present stamped old
    · rw [List.mem_singleton.mp new]
      exact (List.getElem?_eq_some_iff.mp here).1
  answered := by
    intro before stamped later split
    have split : s.log ++ [⟨s.now, i, event⟩] = before ++ stamped :: later := split
    rcases List.eq_nil_or_concat later with empty | ⟨between, last, more⟩
    · rw [empty] at split
      obtain ⟨same, one⟩ := List.append_inj' split rfl
      cases one
      rw [← same, ← kept.cache]
      exact ⟨kept.past, cached⟩
    · have whole : s.log ++ [⟨s.now, i, event⟩] = (before ++ stamped :: between) ++ [last] := by
        rw [split, more, List.concat_eq_append, List.append_assoc]
        rfl
      exact kept.answered before stamped between (List.append_inj' whole rfl).1

theorem reachable_kept (lawful : store.Lawful) {s : Timed store crates state}
    (reachable : Reachable s) : Kept s := by
  induction reachable with
  | initial => exact initial_kept
  | step _ step ih =>
    cases step with
    | tick later =>
      have past := fun stamped member => Nat.le_trans (ih.past stamped member) later
      exact { ih with past := past }
    | start origin => exact ih.aside (.start _ origin) rfl (.inr ⟨origin, rfl⟩)
    | proceed here step cached => exact ih.proceed lawful here step cached
    | deliver split first => exact ih.aside (.deliver split first) rfl (.inl rfl)
    | lose split first => exact ih.aside (.lose split first) rfl (.inl rfl)

/-- The upstream has answered a task so. -/
def Asked (log : List Stamped) (task : Nat) (key value : Bytes) : Prop :=
  ∃ stamped ∈ log, stamped.task = task ∧ ∃ post ∈ posts [stamped.event], Answered key value post

/-- A task took this from the cache, where it had been for an hour at most. It was the last
answer put in under the key, by a task that the upstream had answered so. -/
def Taken (log : List Stamped) (task : Nat) (key value : Bytes) : Prop :=
  ∃ earlier put between taken later, log = earlier ++ put :: between ++ taken :: later ∧
    put.event = ⟨.cacheInsert key value, ()⟩ ∧ Asked earlier put.task key value ∧
    taken.task = task ∧ taken.event = ⟨.cacheGet key, some value⟩ ∧
    taken.time ≤ put.time + timeToLive ∧
    ∀ other ∈ between, ∀ answer, other.event ≠ ⟨.cacheInsert key answer, ()⟩

theorem asked_of_posts {log : List Stamped} {task : Nat} {key value : Bytes}
    {post : Body × Except Error Response} (posted : post ∈ posts (eventsOf log task))
    (answered : Answered key value post) : Asked log task key value := by
  obtain ⟨event, happened, one⟩ := mem_posts.mp posted
  obtain ⟨stamped, member, same⟩ := List.mem_map.mp happened
  have mine := (List.mem_filter.mp member).2
  refine ⟨stamped, (List.mem_filter.mp member).1, of_decide_eq_true mine, post, ?_, answered⟩
  rw [same]
  exact one

/-- What is put into the cache was answered upstream before. -/
theorem Kept.put_asked {s : Timed store crates state} (kept : Kept s) {earlier later : List Stamped}
    {put : Stamped} {key value : Bytes} (split : s.log = earlier ++ put :: later)
    (inserted : put.event = ⟨.cacheInsert key value, ()⟩) : Asked earlier put.task key value := by
  have member : put ∈ s.log := by
    rw [split]
    exact List.mem_append_right _ List.mem_cons_self
  obtain ⟨task, here⟩ : ∃ task, s.service.tasks[put.task]? = some task :=
    ⟨_, List.getElem?_eq_getElem (kept.present put member)⟩
  have events : task.events = (eventsOf earlier put.task ++ [put.event]) ++
      eventsOf later put.task := by
    calc task.events = eventsOf (earlier ++ [put] ++ later) put.task := by
          rw [kept.events _ task here, split, List.append_assoc]
          rfl
      _ = _ := by rw [eventsOf_append, eventsOf_append, eventsOf_single, if_pos rfl]
  have runs := task.runs
  rw [events] at runs
  obtain ⟨middle, begins, _⟩ := runs.split
  have pair : (key, value) ∈ inserts (eventsOf earlier put.task ++ [put.event]) := by
    rw [inserts_append, inserted]
    exact List.mem_append_right _ List.mem_cons_self
  obtain ⟨post, posted, answered⟩ := origin_grounds task.origin _ _ begins (key, value) pair
  have nothing : posts [put.event] = [] := by
    rw [inserted]
    rfl
  rw [posts_append, nothing, List.append_nil] at posted
  exact asked_of_posts posted answered

/-- What the cache gave back is from the last insertion under the key. -/
theorem Kept.get_taken (lawful : store.Lawful) {s : Timed store crates state} (kept : Kept s)
    {taken : Stamped} (member : taken ∈ s.log) {key value : Bytes}
    (hit : taken.event = ⟨.cacheGet key, some value⟩) : Taken s.log taken.task key value := by
  obtain ⟨before, later, split⟩ := List.append_of_mem member
  obtain ⟨past, cached⟩ := kept.answered before taken later split
  have times : ∀ entry ∈ before.filterMap Stamped.entry, entry.time ≤ taken.time := by
    intro entry inside
    obtain ⟨stamped, logged, put⟩ := List.mem_filterMap.mp inside
    rw [(entry_inserts put).2.1]
    exact past stamped logged
  obtain ⟨_, entry, _, history, named, found, young, last⟩ :=
    lawful.get_after times (cached key (some value) hit).symm
  obtain ⟨start, rest, first, _, more⟩ := List.filterMap_eq_append_iff.mp history
  obtain ⟨quiet, put, between, second, _, inserted, others⟩ := List.filterMap_eq_cons_iff.mp more
  obtain ⟨event, time, ttl⟩ := entry_inserts inserted
  rw [named, found] at event
  rw [time, ttl] at young
  have whole : before = (start ++ quiet) ++ put :: between := by
    rw [first, second, List.append_assoc]
  have asked : Asked (start ++ quiet) put.task key value := by
    apply kept.put_asked _ event
    · exact between ++ taken :: later
    · rw [split, whole, List.append_assoc]
      rfl
  refine ⟨start ++ quiet, put, between, taken, later, ?_, event, asked, rfl, hit, young, ?_⟩
  · rw [split, whole]
  · intro other inside answer same
    have entered : other.entry = some ⟨other.time, key, answer, timeToLive⟩ := by
      cases other
      cases same
      rfl
    refine last ⟨other.time, key, answer, timeToLive⟩ ?_ rfl
    rw [← others]
    exact List.mem_filterMap.mpr ⟨other, inside, entered⟩

/-- The reply answers a query of its receiver: after the ID of the query, the rest of an answer
that its task was given upstream or took from the cache. -/
def Fresh (s : Timed store crates state) (reply : Reply) : Prop :=
  ∃ task query id answer, s.service.tasks[reply.task]? = some task ∧
    task.origin = .client reply.listener query reply.dest ∧ messageId query = .ok id ∧
    reply.buf = id.1 :: id.2 :: answer.drop 2 ∧
    (Asked s.log reply.task (patched query) answer ∨ Taken s.log reply.task (patched query) answer)

/-- In whatever order the tasks go on and however much time passes, a datagram sent carries
what its task was answered upstream, or what was put into the cache in the last hour and was
the last of its key. -/
theorem answers_fresh (lawful : store.Lawful) {s : Timed store crates state}
    (reachable : Reachable s) :
    DnsService.Reachable s.service ∧ ∀ reply ∈ s.service.sent, Fresh s reply := by
  have kept := reachable_kept lawful reachable
  refine ⟨kept.service, ?_⟩
  intro reply member
  obtain ⟨task, here, ⟨query, source, client⟩, sent⟩ :=
    (reachable_faithful kept.service).replies reply (List.mem_append_right _ member)
  have runs := task.runs
  rw [client] at runs
  obtain ⟨same, _, id, answer, known, buf, found⟩ := client_sent runs sent
  rw [kept.events _ task here] at found
  refine ⟨task, query, id, answer, here, by rw [client, same], known, buf, ?_⟩
  rcases found with hit | ⟨post, posted, answered⟩
  · obtain ⟨taken, logged, event⟩ := List.mem_map.mp hit
    have mine : taken.task = reply.task := of_decide_eq_true (List.mem_filter.mp logged).2
    rw [← mine]
    exact .inr (kept.get_taken lawful (List.mem_filter.mp logged).1 event)
  · exact .inl (asked_of_posts posted answered)

/-- The cache once a task has gone through some events at one time. -/
def updates (store : Store Bytes Bytes) (now i : Nat) (cache : store.State) (trace : Trace) :
    store.State :=
  trace.foldl (fun cache event => update store cache ⟨now, i, event⟩) cache

/-- The cache answers each of these events. -/
def Agrees (store : Store Bytes Bytes) (now i : Nat) : store.State → Trace → Prop
  | _, [] => True
  | cache, event :: rest => Cached store cache ⟨now, i, event⟩ ∧
    Agrees store now i (update store cache ⟨now, i, event⟩) rest

def asksCache : Op → Bool
  | .cacheGet _ => true
  | _ => false

theorem agrees_quiet {now i : Nat} {cache : store.State} {trace : Trace}
    (quiet : ∀ event ∈ trace, asksCache event.operation = false) :
    Agrees store now i cache trace := by
  induction trace generalizing cache with
  | nil => trivial
  | cons event rest ih =>
    refine ⟨?_, ih fun other member => quiet other (List.mem_cons_of_mem _ member)⟩
    intro key found same
    have silent := quiet event List.mem_cons_self
    have event : event = ⟨.cacheGet key, found⟩ := same
    rw [event] at silent
    cases silent

/-- A task can go on alone as its program and the cache allow. -/
theorem timed_alone {s : Timed store crates state} (reachable : Reachable s) {i : Nat}
    {task : Spawned crates state} (here : s.service.tasks[i]? = some task) {trace : Trace}
    {left : Net Unit} (steps : Steps task.left trace left)
    (agrees : Agrees store s.now i s.cache trace) :
    ∃ s' : Timed store crates state, Reachable s' ∧ s'.now = s.now ∧
      s'.cache = updates store s.now i s.cache trace ∧
      s'.service.tasks.length = s.service.tasks.length ∧
      s'.service.queued = s.service.queued ++ trace.flatMap (outgoing i task.origin) ∧
      s'.service.sent = s.service.sent := by
  induction trace generalizing s task with
  | nil => exact ⟨s, reachable, rfl, rfl, rfl, by rw [List.flatMap_nil, List.append_nil], rfl⟩
  | cons event trace ih =>
    obtain ⟨middle, one, more⟩ := steps.first
    obtain ⟨s', reachable', now, cache, count, queued, sent⟩ :=
      ih (reachable.step (.proceed here one agrees.1)) (after_here here) more agrees.2
    refine ⟨s', reachable', now, cache, count.trans List.length_set, ?_, sent⟩
    rw [queued, List.flatMap_cons, List.append_assoc]
    rfl

/-- A client that asks the same question an hour after `lanQuery` was answered. -/
def laterQuery : Spawned Crates.plain plainServer := .start (.client 1 [8, 8, 9] lanClient)

def cachedEvents : Trace :=
  [⟨.cacheGet [0xab, 0xcd, 9], some [1, 2, 3]⟩, ⟨.channelSend [8, 8, 3] lanClient, .ok ()⟩]

def latest : Store Bytes Bytes := Store.latest Bytes Bytes

theorem lanEvents_agrees : Agrees latest 0 0 (latest.new 65535) lanEvents := by
  have first : lanEvents = ⟨.cacheGet [0xab, 0xcd, 9], none⟩ :: lanEvents.tail := rfl
  have quiet : lanEvents.tail.all (fun event => !asksCache event.operation) = true := by
    decide +kernel
  rw [first]
  refine ⟨?_, agrees_quiet fun event member => ?_⟩
  · intro key found same
    cases same
    rfl
  · have silent := List.all_eq_true.mp quiet event member
    exact Bool.not_eq_true' _ ▸ silent

/-- The cache once `lanQuery` was answered. -/
def lanCache : latest.State := updates latest 0 0 (latest.new 65535) lanEvents

theorem lanCache_kept : latest.get lanCache timeToLive [0xab, 0xcd, 9] = some [1, 2, 3] := by
  decide +kernel

theorem cachedEvents_agrees : Agrees latest timeToLive 1 lanCache cachedEvents := by
  refine ⟨?_, agrees_quiet fun event member => ?_⟩
  · intro key found same
    cases same
    exact lanCache_kept.symm
  · rw [List.mem_singleton.mp member]
    rfl

theorem answers_fresh_cached : ∃ s : Timed latest Crates.plain plainServer,
    s.now = timeToLive ∧ ∃ reply ∈ s.service.sent, reply.buf = [8, 8, 3] ∧ Fresh s reply := by
  have started : Reachable (⟨0, latest.new 65535, [], ⟨[lanQuery], [], [], []⟩⟩ :
      Timed latest Crates.plain plainServer) := Reachable.initial.step (.start _ _)
  obtain ⟨s, reachable, time, cache, count, queued, sent⟩ := timed_alone started rfl
    (drive_steps upstreamAnswers true lanQuery.left) lanEvents_agrees
  have early : s.now ≤ timeToLive := by
    rw [time]
    exact Nat.zero_le timeToLive
  have aged := (reachable.step (.tick s early)).step
    (.start _ (.client 1 [8, 8, 9] lanClient))
  have here : (s.service.tasks ++ [laterQuery])[1]? = some laterQuery := by
    have one : s.service.tasks.length = 1 := count
    rw [List.getElem?_append_right (Nat.le_of_eq one), one]
    rfl
  have run : Steps laterQuery.left cachedEvents (.value ()) := .ask (.ask (.still _))
  obtain ⟨s', reachable', time', _, _, queued', sent'⟩ :=
    timed_alone aged here run (cache ▸ cachedEvents_agrees)
  have both : s'.service.queued = [⟨0, 0, [7, 7, 3], lanClient⟩] ++
      ⟨1, 1, [8, 8, 3], lanClient⟩ :: [] := by
    have first : s.service.queued = [⟨0, 0, [7, 7, 3], lanClient⟩] :=
      queued.trans (congrArg ([] ++ ·) lanEvents_outgoing)
    rw [queued', first]
    rfl
  have other : ∀ earlier ∈ [(⟨0, 0, [7, 7, 3], lanClient⟩ : Reply)], earlier.listener ≠ 1 := by
    decide
  let reply : Reply := ⟨1, 1, [8, 8, 3], lanClient⟩
  let final : Timed latest Crates.plain plainServer := { s' with service :=
    { s'.service with queued := [⟨0, 0, [7, 7, 3], lanClient⟩], sent := s'.service.sent ++ [reply] } }
  have delivered : Reachable final := reachable'.step (.deliver both other)
  have received : reply ∈ final.service.sent :=
    List.mem_append_right _ (List.mem_singleton.mpr rfl)
  have fresh := (answers_fresh Store.latest_lawful delivered).2 reply received
  exact ⟨final, time', reply, received, rfl, fresh⟩

end LocalProxy.CacheAge
