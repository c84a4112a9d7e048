import LocalProxy.DnsService

/-! Replies of the DNS service are never mixed up. Whatever the order of the steps, what
is in the cache is the body of a response to a query under its key, and a datagram sent is
the one reply of a task, to the sender of its query and under the ID of that query. -/

namespace LocalProxy.DnsReplies
open Strings Addr Http Programs Program Network Outbound Service Inbound Calls Resolution DohQuery
open DnsService

variable {crates : Crates} {state : ProxyState}

/-- Everything put into the cache is the body of a response to a query under its key. -/
def Grounded (trace : Trace) : Prop :=
  ∀ pair ∈ inserts trace, ∃ post ∈ posts trace, Answered pair.1 pair.2 post

def Grounds {α : Type} (program : Net α) : Prop :=
  ∀ trace final, Steps program trace final → Grounded trace

theorem quiet_grounded {trace : Trace} (quiet : inserts trace = []) : Grounded trace := by
  intro pair member
  rw [quiet] at member
  cases member

theorem Grounds.bind {α β : Type} {program : Net α} {next : α → Net β} (first : Grounds program)
    (later : ∀ result, Grounds (next result)) : Grounds (program >>= next) := by
  intro trace final steps
  rcases steps_bind steps with ⟨middle, run, _⟩ | ⟨result, before, after, split, run, rest⟩
  · exact first trace middle run
  · have one := first before _ run
    have two := later result after final rest
    intro pair member
    rw [split, inserts_append, List.mem_append] at member
    rw [split, posts_append]
    rcases member with member | member
    · obtain ⟨post, posted, answered⟩ := one pair member
      exact ⟨post, List.mem_append_left _ posted, answered⟩
    · obtain ⟨post, posted, answered⟩ := two pair member
      exact ⟨post, List.mem_append_right _ posted, answered⟩

theorem grounds_ofExcept {α : Type} (outcome : Except Error α) :
    Grounds (ofExcept outcome : Net α) := by
  intro trace final steps
  cases outcome with
  | ok result =>
    rw [(steps_value.mp steps).1]
    exact quiet_grounded rfl
  | error error =>
    rw [(steps_fail.mp steps).1]
    exact quiet_grounded rfl

theorem lookup_grounds (resolve : Resolve) (query : Bytes) :
    Grounds (lookup crates resolve state query) := by
  intro trace final steps
  rcases steps_ask.mp steps with ⟨empty, _⟩ | ⟨cached, rest, split, later⟩
  · rw [empty]
    exact quiet_grounded rfl
  cases cached with
  | some result =>
    have hit : Steps (value result : Net Bytes) rest final := later
    rw [split, (steps_value.mp hit).1]
    exact quiet_grounded rfl
  | none =>
    have missing : Steps (fetch crates resolve state query >>= fun result =>
        cacheInsert query result >>= fun _ => value result) rest final := later
    rw [split]
    rcases steps_bind missing with ⟨middle, run, _⟩ | ⟨body, before, after, whole, run, last⟩
    · have silent : inserts rest = [] := serves_inserts (fetch_uses.steps run).1
      have nothing : inserts (⟨.cacheGet query, none⟩ :: rest) = [] := silent
      exact quiet_grounded nothing
    · have silent : inserts before = [] := serves_inserts (fetch_uses.steps run).1
      have fetched : Ends (fetch crates resolve state query) before (.ok body) := run
      have put : inserts after = [] ∨ inserts after = [(query, body)] := by
        rcases steps_ask.mp last with ⟨empty, _⟩ | ⟨answer, more, shape, closed⟩
        · rw [empty]
          exact .inl rfl
        · rw [shape, (steps_value.mp closed).1]
          exact .inr rfl
      rcases fetch_fetched fetched with ⟨_, post, same, posted, answered⟩ | ⟨_, absurd, _⟩
      · cases same
        have inserted : inserts (⟨.cacheGet query, none⟩ :: rest) = inserts after := by
          calc inserts (⟨.cacheGet query, none⟩ :: rest) = inserts (before ++ after) := by
                rw [whole]
                rfl
            _ = inserts after := by rw [inserts_append, silent, List.nil_append]
        have asked : posts (⟨.cacheGet query, none⟩ :: rest) = post :: posts after := by
          calc posts (⟨.cacheGet query, none⟩ :: rest) = posts (before ++ after) := by
                rw [whole]
                rfl
            _ = post :: posts after := by
                rw [posts_append, posted]
                rfl
        intro pair member
        rw [inserted] at member
        rw [asked]
        rcases put with none | one
        · rw [none] at member
          cases member
        · rw [one] at member
          rw [List.mem_singleton.mp member]
          exact ⟨post, List.mem_cons_self, answered⟩
      · cases absurd

theorem dohQuery_grounds (resolve : Resolve) (query : Bytes) :
    Grounds (dohQuery crates resolve state query) := by
  refine (grounds_ofExcept _).bind fun id => (grounds_ofExcept _).bind fun sent => ?_
  exact (lookup_grounds resolve sent).bind fun result => grounds_ofExcept _

theorem quiet_grounds {α : Type} {program : Net α}
    (uses : program.Uses fun operation => ∀ query answer, operation ≠ .cacheInsert query answer) :
    Grounds program := by
  intro trace final steps
  refine quiet_grounded ?_
  unfold inserts
  rw [List.filterMap_eq_nil_iff]
  intro event member
  have other := (uses.steps steps).1 event member
  split
  next query answer same => exact (other query answer same).elim
  next => rfl

theorem origin_grounds (origin : Origin) : Grounds (origin.program crates state) := by
  cases origin with
  | client listener query source =>
    refine (dohQuery_grounds _ query).bind fun result => quiet_grounds ?_
    exact ⟨fun _ _ absurd => (by cases absurd), fun _ => uses_ofExcept _ _⟩
  | resolution hostname qtype =>
    have resolved : Grounds (resolveTo crates state 1 hostname qtype) := by
      cases hostname with
      | v4 addr => exact grounds_ofExcept (.error .empty)
      | v6 addr => exact grounds_ofExcept (.error .empty)
      | domain name =>
        unfold resolveTo resolveBy
        dsimp only
        split
        · apply (dohQuery_grounds _ _).bind
          intro result
          apply (grounds_ofExcept _).bind
          intro answers
          exact grounds_ofExcept (.ok (firstAddress answers))
        · exact grounds_ofExcept (.error .empty)
        · exact quiet_grounds ⟨fun _ _ absurd => (by cases absurd), fun answer => answer.elim⟩
    exact resolved.bind fun _ => grounds_ofExcept (.ok ())

/-- Where an answer to a query comes from: the cache, or a response seen by the task. -/
def Found (query : Bytes) (trace : Trace) (found : Bytes) : Prop :=
  ⟨.cacheGet query, some found⟩ ∈ trace ∨ ∃ post ∈ posts trace, Answered query found post

/-- The answer to a query: its own ID before the rest of what was found. -/
theorem dohQuery_answers {resolve : Resolve} {query : Bytes} {trace : Trace} {buf : Bytes}
    (returns : Returns (dohQuery crates resolve state query) trace buf) :
    ∃ id found, messageId query = .ok id ∧ buf = id.1 :: id.2 :: found.drop 2 ∧
      Found (patched query) trace found := by
  have ends : Ends (dohQuery crates resolve state query) trace (.ok buf) := returns
  rcases dohQuery_ends ends with ⟨_, absurd, _⟩ | ⟨id, outcome, known, looked, same⟩
  · cases absurd
  rcases lookup_ends looked with ⟨result, hit, ok⟩ | ⟨rest, found, fetched, ok, missed⟩
  · rw [ok] at same
    refine ⟨id, result, known, setId_ok same.symm, .inl ?_⟩
    rw [hit]
    exact List.mem_singleton.mpr rfl
  · rcases fetch_fetched fetched with ⟨body, post, got, posted, answered⟩ | ⟨error, failed, _⟩
    · rw [ok, got] at same
      refine ⟨id, body, known, setId_ok same.symm, .inr ⟨post, ?_, answered⟩⟩
      rw [missed, posts_append]
      refine List.mem_append_left _ ?_
      have asked : posts (⟨.cacheGet (patched query), none⟩ :: rest) = posts rest := rfl
      rw [asked, posted]
      exact List.mem_singleton.mpr rfl
    · rw [ok, failed] at same
      cases same

theorem queries_unsent {query : Bytes} {trace : Trace}
    (queries : ∀ event ∈ trace, Queries query event.operation) {buf : Bytes}
    {dest : StdNet.SocketAddr} {answer : Except Error Unit} :
    (⟨.channelSend buf dest, answer⟩ : Event Op Ans) ∉ trace := by
  intro member
  rcases queries _ member with (opens | ⟨_, _, absurd, _⟩ | ⟨_, absurd⟩) | absurd | ⟨_, absurd⟩
  · exact opens.elim
  all_goals cases absurd

/-- A task for a client puts its answer into the channel once, and is done then. -/
theorem client_sent {resolve : Resolve} {query : Bytes} {source : StdNet.SocketAddr}
    {trace : Trace} {left : Net Unit}
    (steps : Steps (dnsRun crates resolve state query source) trace left) {buf : Bytes}
    {dest : StdNet.SocketAddr} {answer : Except Error Unit}
    (sent : (⟨.channelSend buf dest, answer⟩ : Event Op Ans) ∈ trace) :
    dest = source ∧ left = ofExcept answer ∧ ∃ id found, messageId query = .ok id ∧
      buf = id.1 :: id.2 :: found.drop 2 ∧ Found (patched query) trace found := by
  rcases steps_bind steps with ⟨middle, run, _⟩ | ⟨result, before, after, split, run, rest⟩
  · exact (queries_unsent (dohQuery_uses.steps run).1 sent).elim
  have unsent : (⟨.channelSend buf dest, answer⟩ : Event Op Ans) ∉ before :=
    queries_unsent (dohQuery_uses.steps run).1
  rw [split, List.mem_append] at sent
  have late := sent.resolve_left unsent
  rcases steps_ask.mp rest with ⟨empty, _⟩ | ⟨reported, more, shape, closed⟩
  · rw [empty] at late
    cases late
  have ended : more = [] ∧ left = ofExcept reported := by
    cases reported with
    | ok done => exact steps_value.mp closed
    | error error => exact steps_fail.mp closed
  rw [shape, ended.1, List.mem_singleton] at late
  cases late
  obtain ⟨id, found, known, answers, source⟩ := dohQuery_answers run
  refine ⟨rfl, ended.2, id, found, known, answers, ?_⟩
  rw [split]
  rcases source with hit | ⟨post, posted, answered⟩
  · exact .inl (List.mem_append_left _ hit)
  · refine .inr ⟨post, ?_, answered⟩
    rw [posts_append]
    exact List.mem_append_left _ posted

/-- The upstream was seen to answer so by one of the tasks. -/
def Seen (s : System crates state) (post : Body × Except Error Response) : Prop :=
  ∃ task ∈ s.tasks, post ∈ posts task.events

/-- The reply is what its task has put into the channel. -/
def Sends (task : Spawned crates state) (reply : Reply) : Prop :=
  (∃ query source, task.origin = .client reply.listener query source) ∧
    (⟨.channelSend reply.buf reply.dest, .ok ()⟩ : Event Op Ans) ∈ task.events

/-- The invariant of the whole service. -/
structure Faithful (s : System crates state) : Prop where
  /-- The cache holds bodies of responses to queries under their keys. -/
  cached : ∀ pair ∈ s.inserted, ∃ post, Seen s post ∧ Answered pair.1 pair.2 post
  /-- So does what was taken from it. -/
  taken : ∀ task ∈ s.tasks, ∀ key value,
    (⟨.cacheGet key, some value⟩ : Event Op Ans) ∈ task.events →
    ∃ post, Seen s post ∧ Answered key value post
  /-- A task has at most one reply. -/
  once : ((s.queued ++ s.sent).map Reply.task).Nodup
  replies : ∀ reply ∈ s.queued ++ s.sent,
    ∃ task, s.tasks[reply.task]? = some task ∧ Sends task reply

theorem initial_faithful : Faithful (⟨[], [], [], []⟩ : System crates state) where
  cached pair member := by cases member
  taken task member := by cases member
  once := .nil
  replies reply member := by cases member

theorem start_faithful {s : System crates state} (faithful : Faithful s) (origin : Origin) :
    Faithful { s with tasks := s.tasks ++ [.start origin] } := by
  have seen : ∀ {post}, Seen s post → Seen { s with tasks := s.tasks ++ [.start origin] } post := by
    intro post known
    obtain ⟨task, member, posted⟩ := known
    exact ⟨task, List.mem_append_left _ member, posted⟩
  constructor
  · intro pair member
    obtain ⟨post, known, answered⟩ := faithful.cached pair member
    exact ⟨post, seen known, answered⟩
  · intro task member key value hit
    rcases List.mem_append.mp member with old | new
    · obtain ⟨post, known, answered⟩ := faithful.taken task old key value hit
      exact ⟨post, seen known, answered⟩
    · rw [List.mem_singleton.mp new] at hit
      cases hit
  · exact faithful.once
  · intro reply member
    obtain ⟨task, here, sends⟩ := faithful.replies reply member
    have inside := (List.getElem?_eq_some_iff.mp here).1
    exact ⟨task, by rw [List.getElem?_append_left inside, here], sends⟩

/-- Replies that stay, whatever their order, keep the invariant. -/
theorem answers_faithful {s : System crates state} (faithful : Faithful s)
    {queued sent : List Reply} (once : ((queued ++ sent).map Reply.task).Nodup)
    (kept : queued ++ sent ⊆ s.queued ++ s.sent) :
    Faithful { s with queued := queued, sent := sent } where
  cached := faithful.cached
  taken := faithful.taken
  once := once
  replies reply member := faithful.replies reply (kept member)

theorem deliver_faithful {s : System crates state} (faithful : Faithful s)
    {before after : List Reply} {reply : Reply} (split : s.queued = before ++ reply :: after) :
    Faithful { s with queued := before ++ after, sent := s.sent ++ [reply] } := by
  have moved : (before ++ after ++ (s.sent ++ [reply])).Perm (s.queued ++ s.sent) := by
    calc (before ++ after ++ (s.sent ++ [reply])).Perm (reply :: (before ++ after ++ s.sent)) := by
          rw [← List.append_assoc]
          exact List.perm_append_singleton reply (before ++ after ++ s.sent)
      List.Perm _ (before ++ reply :: (after ++ s.sent)) := by
          rw [List.append_assoc]
          exact List.perm_middle.symm
      _ = s.queued ++ s.sent := by simp [split]
  exact answers_faithful faithful ((moved.map Reply.task).nodup_iff.mpr faithful.once) moved.subset

theorem lose_faithful {s : System crates state} (faithful : Faithful s)
    {before after : List Reply} {reply : Reply} (split : s.queued = before ++ reply :: after) :
    Faithful { s with queued := before ++ after } := by
  have fewer : (before ++ after ++ s.sent).Sublist (s.queued ++ s.sent) := by
    rw [split]
    exact ((List.sublist_cons_self reply after).append_left before).append_right s.sent
  exact answers_faithful faithful (faithful.once.sublist (fewer.map Reply.task)) fewer.subset

/-- The state in which the task of this number has gone on by an event. -/
abbrev proceeded (s : System crates state) (i : Nat) (task : Spawned crates state)
    {event : Event Op Ans} {left : Net Unit} (step : Steps task.left [event] left) :
    System crates state where
  tasks := s.tasks.set i (task.after step)
  inserted := inserts [event] ++ s.inserted
  queued := s.queued ++ outgoing i task.origin event
  sent := s.sent

section Proceeding

variable {s : System crates state} {i : Nat} {task : Spawned crates state} {event : Event Op Ans}
  {left : Net Unit} {step : Steps task.left [event] left}

theorem after_here (here : s.tasks[i]? = some task) :
    (proceeded s i task step).tasks[i]? = some (task.after step) := by
  have inside := (List.getElem?_eq_some_iff.mp here).1
  rw [List.getElem?_set_self inside]

theorem seen_proceeded (here : s.tasks[i]? = some task) {post : Body × Except Error Response}
    (known : Seen s post) : Seen (proceeded s i task step) post := by
  obtain ⟨other, member, posted⟩ := known
  obtain ⟨j, there⟩ := List.mem_iff_getElem?.mp member
  by_cases same : i = j
  · rw [← same, here] at there
    cases there
    refine ⟨task.after step, List.mem_of_getElem? (after_here here), ?_⟩
    have more : posts (task.events ++ [event]) = posts task.events ++ posts [event] :=
      posts_append _ _
    rw [Spawned.after, more]
    exact List.mem_append_left _ posted
  · have stays : (proceeded s i task step).tasks[j]? = some other :=
      (List.getElem?_set_ne same).trans there
    exact ⟨other, List.mem_of_getElem? stays, posted⟩

/-- A task that has put a reply into the channel does not go on. -/
theorem sent_stays {reply : Reply} (sends : Sends task reply)
    (step : Steps task.left [event] left) : False := by
  obtain ⟨⟨query, source, client⟩, sent⟩ := sends
  have runs := task.runs
  rw [client] at runs
  obtain ⟨_, ended, _⟩ := client_sent runs sent
  rw [ended] at step
  cases (steps_value.mp step).1

theorem outgoing_sends {reply : Reply} (member : reply ∈ outgoing i task.origin event)
    (step : Steps task.left [event] left) : reply.task = i ∧ Sends (task.after step) reply := by
  unfold outgoing at member
  split at member
  next listener query source buf dest done client =>
    rw [List.mem_singleton.mp member]
    exact ⟨rfl, ⟨query, source, client⟩, List.mem_append_right _ (List.mem_singleton.mpr rfl)⟩
  next => cases member

theorem once_proceeded (faithful : Faithful s) (here : s.tasks[i]? = some task)
    (step : Steps task.left [event] left) :
    ((s.queued ++ outgoing i task.origin event ++ s.sent).map Reply.task).Nodup := by
  have fresh : ∀ reply ∈ s.queued ++ s.sent, reply.task ≠ i := by
    intro reply member same
    obtain ⟨other, there, sends⟩ := faithful.replies reply member
    rw [same, here] at there
    cases there
    exact sent_stays sends step
  have one : ∀ new : List Reply, (∀ reply ∈ new, reply.task = i) → new.length ≤ 1 →
      ((s.queued ++ new ++ s.sent).map Reply.task).Nodup := by
    intro new mine short
    match new with
    | [] =>
      rw [List.append_nil]
      exact faithful.once
    | [reply] =>
      have moved : (s.queued ++ [reply] ++ s.sent).Perm (reply :: (s.queued ++ s.sent)) := by
        rw [List.append_assoc]
        exact List.perm_middle
      rw [(moved.map Reply.task).nodup_iff, List.map_cons, List.nodup_cons]
      refine ⟨?_, faithful.once⟩
      intro member
      obtain ⟨other, there, same⟩ := List.mem_map.mp member
      exact fresh other there (same.trans (mine reply (List.mem_singleton.mpr rfl)))
    | _ :: _ :: _ =>
      simp at short
  refine one _ (fun reply member => (outgoing_sends member step).1) ?_
  unfold outgoing
  split
  · exact Nat.le_refl 1
  · exact Nat.zero_le 1

theorem proceed_faithful (faithful : Faithful s) (here : s.tasks[i]? = some task)
    (permitted : Permitted s.inserted event) : Faithful (proceeded s i task step) := by
  have current : task.after step ∈ (proceeded s i task step).tasks :=
    List.mem_of_getElem? (after_here here)
  have old : ∀ {key value}, (∃ post, Seen s post ∧ Answered key value post) →
      ∃ post, Seen (proceeded s i task step) post ∧ Answered key value post := by
    intro key value found
    obtain ⟨post, known, answered⟩ := found
    exact ⟨post, seen_proceeded here known, answered⟩
  constructor
  · intro pair member
    rcases List.mem_append.mp member with new | before
    · have inserted : pair ∈ inserts (task.after step).events := by
        rw [Spawned.after, inserts_append]
        exact List.mem_append_right _ new
      obtain ⟨post, posted, answered⟩ :=
        origin_grounds task.origin _ _ (task.after step).runs pair inserted
      exact ⟨post, ⟨_, current, posted⟩, answered⟩
    · exact old (faithful.cached pair before)
  · intro other member key value hit
    rcases List.mem_or_eq_of_mem_set member with before | same
    · exact old (faithful.taken other before key value hit)
    · rw [same] at hit
      rcases List.mem_append.mp hit with earlier | now
      · exact old (faithful.taken task (List.mem_of_getElem? here) key value earlier)
      · have cached := permitted key value (List.mem_singleton.mp now).symm
        exact old (faithful.cached (key, value) cached)
  · exact once_proceeded faithful here step
  · intro reply member
    have either : reply ∈ s.queued ++ s.sent ∨ reply ∈ outgoing i task.origin event := by
      simp only [List.mem_append] at member ⊢
      tauto
    rcases either with before | new
    · obtain ⟨other, there, sends⟩ := faithful.replies reply before
      by_cases same : i = reply.task
      · rw [← same, here] at there
        cases there
        exact (sent_stays sends step).elim
      · exact ⟨other, (List.getElem?_set_ne same).trans there, sends⟩
    · obtain ⟨mine, sends⟩ := outgoing_sends new step
      rw [mine]
      exact ⟨task.after step, after_here here, sends⟩

end Proceeding

theorem reachable_faithful {s : System crates state} (reachable : Reachable s) : Faithful s := by
  induction reachable with
  | initial => exact initial_faithful
  | step _ step ih =>
    cases step with
    | start origin => exact start_faithful ih origin
    | proceed here step permitted => exact proceed_faithful ih here permitted
    | deliver split first => exact deliver_faithful ih split
    | lose split first => exact lose_faithful ih split

/-- A task can go on alone as its program and the cache allow. Its replies reach the channel, and
what it caches is there. -/
theorem task_alone {s : System crates state} (reachable : Reachable s) {i : Nat}
    {task : Spawned crates state} (here : s.tasks[i]? = some task) {trace : Trace} {left : Net Unit}
    (steps : Steps task.left trace left) (permitted : ∀ event ∈ trace, Permitted s.inserted event) :
    ∃ s' : System crates state, Reachable s' ∧ s'.tasks.length = s.tasks.length ∧
      (∀ pair, pair ∈ inserts trace ∨ pair ∈ s.inserted → pair ∈ s'.inserted) ∧
      s'.queued = s.queued ++ trace.flatMap (outgoing i task.origin) ∧ s'.sent = s.sent := by
  induction trace generalizing s task with
  | nil =>
    refine ⟨s, reachable, rfl, fun pair known => ?_, (List.append_nil _).symm, rfl⟩
    rcases known with absurd | known
    · cases absurd
    · exact known
  | cons event trace ih =>
    obtain ⟨middle, one, more⟩ := steps.first
    have next := reachable.step (.proceed here one (permitted event List.mem_cons_self))
    obtain ⟨s', reachable', length, cached, queued, sent⟩ := ih next (after_here here) more
      fun other member key value same => List.mem_append_right _
        (permitted other (List.mem_cons_of_mem _ member) key value same)
    refine ⟨s', reachable', length.trans (List.length_set), fun pair known => cached pair ?_, ?_,
      sent⟩
    · have split : inserts (event :: trace) = inserts [event] ++ inserts trace :=
        inserts_append [event] trace
      rw [split, List.mem_append] at known
      rcases known with (now | later) | before
      · exact .inr (List.mem_append_left _ now)
      · exact .inl later
      · exact .inr (List.mem_append_right _ before)
    · rw [queued, List.flatMap_cons, List.append_assoc]
      rfl

/-- In every reachable state of the service a datagram sent answers one query of its
receiver, each query once: under the ID of the query, with the rest of an upstream
response to the query under the ID `0xabcd`. What a task asks the cache and the upstream
is about its query under that ID alone. -/
theorem replies_answered {s : System crates state} (reachable : Reachable s) :
    (s.sent.map Reply.task).Nodup ∧
    (∀ reply ∈ s.sent, ∃ task query id answer post, s.tasks[reply.task]? = some task ∧
      task.origin = .client reply.listener query reply.dest ∧ messageId query = .ok id ∧
      messageId reply.buf = .ok id ∧ reply.buf.drop 2 = answer.drop 2 ∧
      Seen s post ∧ Answered (patched query) answer post) ∧
    ∀ task ∈ s.tasks, ∀ listener query source, task.origin = .client listener query source →
      ∀ event ∈ task.events, Queries (patched query) event.operation ∨
        ∃ buf, event.operation = .channelSend buf source := by
  have faithful := reachable_faithful reachable
  refine ⟨?_, ?_, ?_⟩
  · exact faithful.once.sublist ((List.sublist_append_right s.queued s.sent).map Reply.task)
  · intro reply member
    obtain ⟨task, here, ⟨query, source, client⟩, sent⟩ :=
      faithful.replies reply (List.mem_append_right _ member)
    have runs := task.runs
    rw [client] at runs
    obtain ⟨same, _, id, answer, known, buf, found⟩ := client_sent runs sent
    have origin : ∃ post, Seen s post ∧ Answered (patched query) answer post := by
      have present := List.mem_of_getElem? here
      rcases found with hit | ⟨post, posted, answered⟩
      · exact faithful.taken task present _ _ hit
      · exact ⟨post, ⟨task, present, posted⟩, answered⟩
    obtain ⟨post, seen, answered⟩ := origin
    refine ⟨task, query, id, answer, post, here, ?_, known, ?_, ?_, seen, answered⟩
    · rw [client, same]
    · rw [buf]
      rfl
    · rw [buf]
      rfl
  · intro task member listener query source client event happened
    have uses : (dnsRun crates (resolveTo crates state 1) state query source).Uses fun operation =>
        Queries (patched query) operation ∨ ∃ buf, operation = .channelSend buf source := by
      refine (dohQuery_uses.mono fun _ => .inl).bind fun result => ?_
      exact ⟨.inr ⟨result, rfl⟩, fun _ => uses_ofExcept _ _⟩
    have runs := task.runs
    rw [client] at runs
    exact (uses.steps runs).1 event happened

/-- Two clients of the server that resolves names directly. -/
def lanClient : StdNet.SocketAddr := ⟨.v4 ⟨192, 168, 0, 9⟩, 5353⟩
def lanNeighbour : StdNet.SocketAddr := ⟨.v4 ⟨192, 168, 0, 10⟩, 5353⟩

/-- The task of the first, and its run when the upstream answers at once. -/
def lanQuery : Spawned Crates.plain plainServer := .start (.client 0 [7, 7, 9] lanClient)

def upstreamAnswers : (operation : Op) → Option (Ans operation) :=
  willing ⟨200, [], [.ok (.data [1, 2, 3])]⟩

def lanEvents : Trace := (lanQuery.left.drive upstreamAnswers true).1

theorem lanEvents_permitted : ∀ event ∈ lanEvents, Permitted [] event := by
  intro event member key value same
  have given := drive_answers upstreamAnswers true lanQuery.left event member
  rw [same] at given
  cases given

theorem lanEvents_outgoing :
    lanEvents.flatMap (outgoing 0 lanQuery.origin) = [⟨0, 0, [7, 7, 3], lanClient⟩] := by
  decide +kernel

theorem lanEvents_cached : ([0xab, 0xcd, 9], [1, 2, 3]) ∈ inserts lanEvents := by decide +kernel

/-- The second asks the same under another ID, and is answered out of the cache. -/
def neighbourQuery : Spawned Crates.plain plainServer := .start (.client 0 [8, 8, 9] lanNeighbour)

def neighbourEvents : Trace :=
  [⟨.cacheGet [0xab, 0xcd, 9], some [1, 2, 3]⟩, ⟨.channelSend [8, 8, 3] lanNeighbour, .ok ()⟩]

theorem neighbourEvents_permitted {inserted : List (Bytes × Bytes)}
    (cached : ([0xab, 0xcd, 9], [1, 2, 3]) ∈ inserted) :
    ∀ event ∈ neighbourEvents, Permitted inserted event := by
  intro event member key value same
  rcases List.mem_cons.mp member with first | second
  · rw [first] at same
    cases same
    exact cached
  · rw [List.mem_singleton.mp second] at same
    cases same

theorem replies_answered_lan : ∃ s : System Crates.plain plainServer,
    s.sent = [⟨0, 0, [7, 7, 3], lanClient⟩, ⟨1, 0, [8, 8, 3], lanNeighbour⟩] ∧
      (s.sent.map Reply.task).Nodup := by
  have started : Reachable (⟨[lanQuery], [], [], []⟩ : System Crates.plain plainServer) :=
    Reachable.initial.step (.start _ _)
  have here : (⟨[lanQuery], [], [], []⟩ : System Crates.plain plainServer).tasks[0]? =
    some lanQuery := rfl
  have run := drive_steps upstreamAnswers true lanQuery.left
  obtain ⟨s, answered, length, cached, queued, sent⟩ :=
    task_alone started here run lanEvents_permitted
  have joined := answered.step (.start s (.client 0 [8, 8, 9] lanNeighbour))
  have second : (s.tasks ++ [neighbourQuery])[1]? = some neighbourQuery := by
    have one : s.tasks.length = 1 := length
    rw [← one, List.getElem?_concat_length]
  have hit : Steps neighbourQuery.left neighbourEvents (.value ()) := .ask (.ask (.still _))
  obtain ⟨s', both, _, _, queued', sent'⟩ := task_alone joined second hit
    (neighbourEvents_permitted (cached _ (.inl lanEvents_cached)))
  have waiting : s'.queued =
      [] ++ ⟨0, 0, [7, 7, 3], lanClient⟩ :: [⟨1, 0, [8, 8, 3], lanNeighbour⟩] := by
    rw [queued']
    show s.queued ++ _ = _
    rw [queued]
    exact congrArg (· ++ [_]) lanEvents_outgoing
  have delivered := both.step (.deliver waiting fun _ absurd => by cases absurd)
  have last : ([] ++ [⟨1, 0, [8, 8, 3], lanNeighbour⟩] : List Reply) = [] ++ _ :: [] := rfl
  have all := delivered.step (.deliver last fun _ absurd => by cases absurd)
  refine ⟨_, ?_, (replies_answered all).1⟩
  show (s'.sent ++ [_]) ++ [_] = _
  rw [sent']
  show (s.sent ++ [_]) ++ [_] = _
  rw [sent]
  rfl

end LocalProxy.DnsReplies
