import QueryDesk.Agent.Backend
import QueryDesk.Engine.Spark.Statement
import QueryDesk.Proofs.Engine.Conversations

/-!
# Sessions let go

What becomes of the sessions that are opened on a server.  Over any sequence of calls, a session
that the server last reported idle is the one that is held, unless it has been deleted since
(`idle_sessions_held`).  A session that was last found in another state, or could not be read, may
have been let go without a word: `connect` replaces a held session that is still busy, and an
opening that fails leaves its session behind (`sessions_leaked`).

The invariant looks at the last sign of each session in what has been said so far (`lastSign`): the
answer to the request that created it or asked for it, or its deletion.  Only `connect`,
`disconnect` and `status` say anything of sessions (`asks_execute`, `asks_cancel`).
-/

namespace QueryDesk

open Web (Request Reply Exchange)

namespace Spark

open Web (Content)

/-! ## The signs of a session -/

/-- The session that a reply tells of. -/
def session? (reply : Reply) : Option Session :=
  (reply.decode "Livy session" "Livy session" Session.read?).toOption

/-- An answer to a request about a session, or its deletion. -/
inductive Sign where
  | told (answer : Option Session)
  | deleted
deriving DecidableEq

/-- What is said of a session when it is created, asked for or deleted. -/
def sign? (e : EngineSettings) (id : UInt64) (said : Request × Reply) : Option Sign :=
  match said.1.method with
  | .post =>
    if said.1.url = root e ++ "/sessions" then
      ((session? said.2).filter (·.id = id)).map fun session => .told (some session)
    else none
  | .get => if said.1.url = sessionUrl e id then some (.told (session? said.2)) else none
  | .delete => if said.1.url = sessionUrl e id then some .deleted else none

def signs (e : EngineSettings) (id : UInt64) (talk : List (Request × Reply)) : List Sign :=
  talk.filterMap (sign? e id)

def lastSign (e : EngineSettings) (id : UInt64) (talk : List (Request × Reply)) : Option Sign :=
  (signs e id talk).getLast?

theorem lastSign_append (e : EngineSettings) (id : UInt64) (before after : List (Request × Reply)) :
    lastSign e id (before ++ after) = (lastSign e id after).or (lastSign e id before) := by
  rw [lastSign, signs, List.filterMap_append, List.getLast?_append]
  rfl

theorem lastSign_single (e : EngineSettings) (id : UInt64) (said : Request × Reply) :
    lastSign e id [said] = sign? e id said := by
  rw [lastSign, signs]
  cases hsign : sign? e id said <;> simp [hsign]

theorem lastSign_cons (e : EngineSettings) (id : UInt64) (said : Request × Reply)
    (talk : List (Request × Reply)) :
    lastSign e id (said :: talk) = (lastSign e id talk).or (sign? e id said) := by
  rw [← List.singleton_append, lastSign_append, lastSign_single]

/-! ## Addresses -/

theorem sessionUrl_injective (e : EngineSettings) {id id' : UInt64}
    (h : sessionUrl e id = sessionUrl e id') : id = id' := by
  have hlist := congrArg String.toList h
  simp only [sessionUrl, String.toList_append, List.append_cancel_left_eq] at hlist
  have hdigits := congrArg (Nat.ofDigitChars 10 · 0) hlist
  exact UInt64.toNat_inj.mp (by simpa [Nat.toList_repr] using hdigits)

/-- What lies under a session is not where sessions are created. -/
theorem under_ne_sessions (e : EngineSettings) (id : UInt64) (under : String) :
    sessionUrl e id ++ under ≠ root e ++ "/sessions" := by
  intro h
  have hlength := congrArg String.length h
  simp only [sessionUrl, String.length_append] at hlength
  have hshorter : "/sessions".length < "/sessions/".length := by decide
  omega

theorem statementUrl_ne_sessionUrl (e : EngineSettings) (h : Handle) (id : UInt64) :
    statementUrl e h ≠ sessionUrl e id := by
  intro hurl
  have hlist := congrArg String.toList hurl
  simp only [statementUrl, sessionUrl, String.toList_append, List.append_assoc,
    List.append_cancel_left_eq] at hlist
  have hslash : '/' ∈ (toString id.toNat).toList := by
    rw [← hlist]
    simp
  have hdigit := Nat.isDigit_of_mem_toDigits (b := 10) (by decide) (by decide)
    (Nat.toList_repr ▸ hslash)
  exact absurd hdigit (by decide)

/-! ## What says nothing of any session -/

/-- Whatever the answer, the request is about no session. -/
def Silent (e : EngineSettings) (request : Request) : Prop :=
  ∀ id reply, sign? e id (request, reply) = none

theorem silent_post {e : EngineSettings} {url : String} (content : Content)
    (h : url ≠ root e ++ "/sessions") : Silent e (.post url content) :=
  fun _ _ => if_neg h

theorem silent_get {e : EngineSettings} {url : String} (pause : Web.Pause)
    (h : ∀ id, url ≠ sessionUrl e id) : Silent e ((Request.get url).after pause) :=
  fun id _ => if_neg (h id)

theorem silent_killRequest (e : EngineSettings) (h : Handle) : Silent e (killRequest e h) := by
  have hunder : statementUrl e h ++ "/cancel" =
      sessionUrl e h.session ++ ("/statements/" ++ toString h.statement.toNat ++ "/cancel") := by
    simp only [statementUrl, String.append_assoc]
  refine silent_post .empty ?_
  rw [hunder]
  exact under_ne_sessions e h.session _

theorem silent_advance (e : EngineSettings) (session : UInt64) (entry : Entry Handle)
    (t : Statement) : (advance e session entry t).Asks (Silent e) := by
  rw [advance]
  split
  · exact silent_get .poll (statementUrl_ne_sessionUrl e ⟨session, t.id⟩)
  · trivial

theorem asks_execute (e : EngineSettings) (patience : Nat) (held : Option UInt64) (task : String)
    (seconds : Nat) (sql : String) (jobs : Jobs Handle) :
    ((service e).execute patience held task seconds sql jobs).Asks (Silent e) := by
  refine Service.asks_execute ?_ (silent_killRequest e) ?_ patience held task seconds sql jobs
  · intro phase reply
    show (resume e phase reply).Asks (Silent e)
    cases phase with
    | submitting session =>
      rw [resume]
      cases reply.decode "Livy statement submit" "Livy statement" Statement.read? with
      | error f => trivial
      | ok t => exact silent_advance e session _ t
    | polling session =>
      rw [resume]
      cases reply.decode "Livy statement status" "Livy statement" Statement.read? with
      | error f => trivial
      | ok t => exact silent_advance e session _ t
  · intro held task sql move h
    obtain ⟨session, -, rfl⟩ := Option.map_eq_some_iff.mp h
    have hunder := under_ne_sessions e session "/statements"
    exact silent_post _ hunder

theorem asks_cancel (e : EngineSettings) (task : String) (jobs : Jobs Handle) :
    ((service e).cancel task jobs).Asks (Silent e) := by
  rw [Service.cancel]
  cases jobs.get? task with
  | none => trivial
  | some handle => exact ⟨silent_killRequest e handle, fun _ => trivial⟩

theorem lastSign_of_silent {e : EngineSettings} {talk : List (Request × Reply)}
    (h : ∀ said ∈ talk, Silent e said.1) (id : UInt64) : lastSign e id talk = none := by
  have hsigns : signs e id talk = [] :=
    List.filterMap_eq_nil_iff.mpr fun said hsaid => h said hsaid id said.2
  rw [lastSign, hsigns, List.getLast?_nil]

/-! ## Opening and closing -/

/-- The last that was said of a session is that it is idle. -/
def LastIdle (e : EngineSettings) (id : UInt64) (talk : List (Request × Reply)) : Prop :=
  lastSign e id talk = some (.told (some ⟨id, "idle"⟩))

theorem toOption_decode (what answer : String) (reply : Reply) :
    (reply.decode what answer Session.read?).toOption = session? reply := by
  have hiff : ∀ what answer session,
      (reply.decode what answer Session.read?).toOption = some session ↔
        reply.Holds Session.read? session := by
    intro what answer session
    have hok : reply.decode what answer Session.read? = .ok session ↔ _ :=
      Web.Reply.decode_eq_ok_iff
    rw [← hok]
    cases reply.decode what answer Session.read? <;> simp [Except.toOption]
  ext session
  rw [session?, hiff, hiff]

theorem isIdle_iff {what answer : String} {reply : Reply} :
    isIdle (reply.decode what answer Session.read?) = true ↔
      ∃ session, session? reply = some session ∧ session.state = "idle" := by
  rw [← toOption_decode what answer]
  cases reply.decode what answer Session.read? <;> simp [isIdle, Except.toOption]

theorem sign?_fetch (e : EngineSettings) (id asked : UInt64) (pause : Web.Pause) (reply : Reply) :
    sign? e id ((Request.get (sessionUrl e asked)).after pause, reply) =
      if asked = id then some (.told (session? reply)) else none := by
  have hurl : sign? e id ((Request.get (sessionUrl e asked)).after pause, reply) =
      if sessionUrl e asked = sessionUrl e id then some (.told (session? reply)) else none := rfl
  by_cases h : asked = id
  · rw [hurl, h, if_pos rfl, if_pos rfl]
  · rw [hurl, if_neg h, if_neg fun hsame => h (sessionUrl_injective e hsame)]

theorem sign?_delete (e : EngineSettings) (id closed : UInt64) (reply : Reply) :
    sign? e id (Request.delete (sessionUrl e closed), reply) =
      if closed = id then some .deleted else none := by
  have hurl : sign? e id (Request.delete (sessionUrl e closed), reply) =
      if sessionUrl e closed = sessionUrl e id then some .deleted else none := rfl
  by_cases h : closed = id
  · rw [hurl, h, if_pos rfl, if_pos rfl]
  · rw [hurl, if_neg h, if_neg fun hsame => h (sessionUrl_injective e hsame)]

theorem sign?_create (e : EngineSettings) (id : UInt64) (name : String) (reply : Reply) :
    sign? e id (createRequest e name, reply) =
      ((session? reply).filter (·.id = id)).map fun session => .told (some session) :=
  if_pos rfl

/-- What follows once a session has been asked for. -/
def pollFrom (e : EngineSettings) (polls : Nat) :
    Except Fault Session → Exchange (Except Fault UInt64)
  | .ok session => awaitIdle e session polls
  | .error f => .done (.error f)

/-- Polling ends with the session that is last said to be idle. -/
theorem awaitIdle_ends {e : EngineSettings} {session : Session} {polls : Nat}
    {talk : List (Request × Reply)} {result : Except Fault UInt64}
    (h : (awaitIdle e session polls).Talks talk result) {id : UInt64}
    (hidle : LastIdle e id talk ∨ lastSign e id talk = none ∧ session = ⟨id, "idle"⟩) :
    result = .ok id := by
  induction polls generalizing session talk with
  | zero =>
    rw [awaitIdle] at h
    cases h
    obtain hidle | ⟨-, rfl⟩ := hidle
    · cases hidle
    · rfl
  | succ polls ih =>
    rw [awaitIdle] at h
    split at h
    · cases h
      obtain hidle | ⟨-, rfl⟩ := hidle
      · cases hidle
      · rfl
    · next hstate =>
      have hlast : LastIdle e id talk := hidle.resolve_right fun hnow => hstate (hnow.2 ▸ rfl)
      split at h
      · cases h
        cases hlast
      · cases h with
        | @ask _ _ reply talk _ h =>
          have hrest : (pollFrom e polls (reply.decode "Livy session status" "Livy session"
            Session.read?)).Talks talk result := h
          rw [LastIdle, lastSign_cons, sign?_fetch, ← toOption_decode "Livy session status"
            "Livy session"] at hlast
          cases hdecode : reply.decode "Livy session status" "Livy session" Session.read? with
          | error f =>
            rw [hdecode, pollFrom] at hrest
            rw [hdecode] at hlast
            cases hrest
            split at hlast <;> cases hlast
          | ok next =>
            rw [hdecode, pollFrom] at hrest
            rw [hdecode] at hlast
            cases hrestSign : lastSign e id talk with
            | some sign =>
              rw [hrestSign] at hlast
              cases hlast
              exact ih hrest (.inl hrestSign)
            | none =>
              rw [hrestSign] at hlast
              split at hlast
              · cases hlast
                exact ih hrest (.inr ⟨hrestSign, rfl⟩)
              · cases hlast

/-- Opening ends with the session that is last said to be idle. -/
theorem openSession_ends {e : EngineSettings} {name : String} {talk : List (Request × Reply)}
    {result : Except Fault UInt64} (h : (openSession e name).Talks talk result) {id : UInt64}
    (hidle : LastIdle e id talk) : result = .ok id := by
  cases h with
  | @ask _ _ reply talk _ h =>
    have hrest : (pollFrom e maxPolls (reply.decode "Livy session create" "Livy session"
      Session.read?)).Talks talk result := h
    rw [LastIdle, lastSign_cons, sign?_create, ← toOption_decode "Livy session create"
      "Livy session"] at hidle
    cases hdecode : reply.decode "Livy session create" "Livy session" Session.read? with
    | error f =>
      rw [hdecode, pollFrom] at hrest
      rw [hdecode] at hidle
      cases hrest
      cases hidle
    | ok session =>
      rw [hdecode, pollFrom] at hrest
      rw [hdecode] at hidle
      cases hrestSign : lastSign e id talk with
      | some sign =>
        rw [hrestSign] at hidle
        cases hidle
        exact awaitIdle_ends hrest (.inl hrestSign)
      | none =>
        rw [hrestSign, Option.none_or, Option.map_eq_some_iff] at hidle
        obtain ⟨found, hfound, hsign⟩ := hidle
        cases hsign
        obtain ⟨hsome, -⟩ := Option.filter_eq_some_iff.mp hfound
        cases hsome
        exact awaitIdle_ends hrest (.inr ⟨hrestSign, rfl⟩)

/-- What was said later counts first. -/
theorem lastIdle_append {e : EngineSettings} {id : UInt64} {before after : List (Request × Reply)}
    (h : LastIdle e id (before ++ after)) :
    LastIdle e id after ∨ lastSign e id after = none ∧ LastIdle e id before := by
  rw [LastIdle, lastSign_append] at h
  cases hafter : lastSign e id after with
  | none =>
    rw [hafter] at h
    exact .inr ⟨rfl, h⟩
  | some sign =>
    rw [hafter] at h
    exact .inl (hafter.trans h)

theorem replaceSession_ends {e : EngineSettings} {name : String} {held held' : Option UInt64}
    {talk : List (Request × Reply)} {result : Except Fault Unit}
    (h : (replaceSession e name held).Talks talk (result, held')) {id : UInt64}
    (hidle : LastIdle e id talk) : held' = some id := by
  obtain ⟨before, opened, after, rfl, hopen, hafter⟩ := Exchange.Talks.bind_inv h
  cases opened with
  | error f =>
    cases hafter
    rw [List.append_nil] at hidle
    cases openSession_ends hopen hidle
  | ok opened =>
    cases hafter
    rw [List.append_nil] at hidle
    cases openSession_ends hopen hidle
    rfl

/-! ## Calls -/

/-- The session that is last said to be idle is the one that is held. -/
def HoldsIdle (e : EngineSettings) (talk : List (Request × Reply)) (held : Option UInt64) : Prop :=
  ∀ id, LastIdle e id talk → held = some id

variable {e : EngineSettings} {talk said : List (Request × Reply)} {held held' : Option UInt64}

theorem HoldsIdle.silent (h : HoldsIdle e talk held) (hsaid : ∀ id, lastSign e id said = none) :
    HoldsIdle e (talk ++ said) held := by
  intro id hidle
  obtain hnow | ⟨-, hbefore⟩ := lastIdle_append hidle
  · rw [LastIdle, hsaid] at hnow
    cases hnow
  · exact h id hbefore

theorem HoldsIdle.connect (h : HoldsIdle e talk held) {name : String} {result : Except Fault Unit}
    (hsaid : (Spark.connect e name held).Talks said (result, held')) :
    HoldsIdle e (talk ++ said) held' := by
  intro id hidle
  cases held with
  | none =>
    obtain hnow | ⟨-, hbefore⟩ := lastIdle_append hidle
    · exact replaceSession_ends hsaid hnow
    · cases h id hbefore
  | some asked =>
    cases hsaid with
    | @ask _ _ reply said _ hsaid =>
      have hrest : (if isIdle (reply.decode "Livy session status" "Livy session" Session.read?)
        then .done (.ok (), some asked)
        else replaceSession e name (some asked)).Talks said (result, held') := hsaid
      split at hrest
      · next hcheck =>
        cases hrest
        obtain hnow | ⟨-, hbefore⟩ := lastIdle_append hidle
        · rw [LastIdle, lastSign_single, sign?_fetch] at hnow
          split at hnow
          · next hasked => rw [hasked]
          · cases hnow
        · exact h id hbefore
      · next hcheck =>
        rw [← List.singleton_append, ← List.append_assoc] at hidle
        obtain hnow | ⟨-, hbefore⟩ := lastIdle_append hidle
        · exact replaceSession_ends hrest hnow
        -- the held session was found not to be idle, and nothing is known of another
        · obtain hfound | ⟨hnone, hearlier⟩ := lastIdle_append hbefore
          · rw [LastIdle, lastSign_single, sign?_fetch] at hfound
            split at hfound
            · have hsession : session? reply = some ⟨id, "idle"⟩ :=
                Sign.told.inj (Option.some.inj hfound)
              exact absurd (isIdle_iff.mpr ⟨_, hsession, rfl⟩) hcheck
            · cases hfound
          · cases h id hearlier
            rw [lastSign_single, sign?_fetch, if_pos rfl] at hnone
            cases hnone

theorem HoldsIdle.disconnect (h : HoldsIdle e talk held)
    (hsaid : (Spark.disconnect e held).Talks said held') : HoldsIdle e (talk ++ said) held' := by
  intro id hidle
  cases held with
  | none =>
    cases hsaid
    rw [List.append_nil] at hidle
    exact h id hidle
  | some current =>
    cases hsaid with
    | @ask _ _ reply _ _ hsaid =>
      cases hsaid
      obtain hnow | ⟨hnone, hbefore⟩ := lastIdle_append hidle
      · rw [LastIdle, lastSign_single, sign?_delete] at hnow
        split at hnow <;> cases hnow
      · cases h id hbefore
        rw [lastSign_single, sign?_delete, if_pos rfl] at hnone
        cases hnone

theorem HoldsIdle.status (h : HoldsIdle e talk held) {running : Nat} {result : EngineStatus}
    (hsaid : (Spark.status e held running).Talks said result) :
    HoldsIdle e (talk ++ said) held := by
  intro id hidle
  cases held with
  | none =>
    cases hsaid
    rw [List.append_nil] at hidle
    exact h id hidle
  | some current =>
    rw [Spark.status] at hsaid
    obtain ⟨asked, fetched, after, rfl, hfetch, hafter⟩ := hsaid.bind_inv
    obtain rfl : after = [] := by
      cases fetched <;> cases hafter <;> rfl
    cases hfetch with
    | @ask _ _ reply _ _ hfetch =>
      cases hfetch
      rw [List.append_nil] at hidle
      obtain hnow | ⟨-, hbefore⟩ := lastIdle_append hidle
      · rw [LastIdle, lastSign_single, sign?_fetch] at hnow
        split at hnow
        · next hcurrent => rw [hcurrent]
        · cases hnow
      · exact h id hbefore

/-- What an agent may ask of a backend. -/
inductive Call where
  | connect (name : String)
  | execute (patience : Nat) (task : String) (seconds : Nat) (sql : String)
  | cancel (task : String)
  | status
  | disconnect

/-- A call, and what is kept after it. -/
def Call.perform (e : EngineSettings) (desk : Desk (Option UInt64) Handle) :
    Call → Exchange (Desk (Option UInt64) Handle)
  | connect name => do
    let (_, held) ← (service e).connect name desk.link
    return { desk with link := held }
  | execute patience task seconds sql => do
    let (jobs, _) ← (service e).execute patience desk.link task seconds sql desk.jobs
    return { desk with jobs := jobs }
  | cancel task => do
    let _ ← (service e).cancel task desk.jobs
    return desk
  | status => do
    let _ ← (service e).status desk.link desk.jobs.length
    return desk
  | disconnect => do
    let held ← (service e).disconnect desk.link
    return { desk with link := held }

/-- Calls one after the other. -/
def serve (e : EngineSettings) :
    Desk (Option UInt64) Handle → List Call → Exchange (Desk (Option UInt64) Handle)
  | desk, [] => .done desk
  | desk, call :: rest => do serve e (← call.perform e desk) rest

theorem HoldsIdle.call {desk desk' : Desk (Option UInt64) Handle}
    (h : HoldsIdle e talk desk.link) {call : Call}
    (hsaid : (call.perform e desk).Talks said desk') : HoldsIdle e (talk ++ said) desk'.link := by
  cases call with
  | connect name =>
    obtain ⟨before, ⟨result, held⟩, after, rfl, hconnect, hafter⟩ := hsaid.bind_inv
    cases hafter
    rw [List.append_nil]
    exact h.connect hconnect
  | execute patience task seconds sql =>
    obtain ⟨before, ⟨jobs, ending⟩, after, rfl, hexecute, hafter⟩ := hsaid.bind_inv
    cases hafter
    rw [List.append_nil]
    exact h.silent (lastSign_of_silent ((asks_execute e ..).of_talks hexecute))
  | cancel task =>
    obtain ⟨before, stopped, after, rfl, hcancel, hafter⟩ := hsaid.bind_inv
    cases hafter
    rw [List.append_nil]
    exact h.silent (lastSign_of_silent ((asks_cancel e ..).of_talks hcancel))
  | status =>
    obtain ⟨before, found, after, rfl, hstatus, hafter⟩ := hsaid.bind_inv
    cases hafter
    rw [List.append_nil]
    exact h.status hstatus
  | disconnect =>
    obtain ⟨before, held, after, rfl, hdisconnect, hafter⟩ := hsaid.bind_inv
    cases hafter
    rw [List.append_nil]
    exact h.disconnect hdisconnect

theorem HoldsIdle.serve {desk desk' : Desk (Option UInt64) Handle} {calls : List Call}
    (h : HoldsIdle e talk desk.link) (hsaid : (Spark.serve e desk calls).Talks said desk') :
    HoldsIdle e (talk ++ said) desk'.link := by
  induction calls generalizing desk talk said with
  | nil =>
    cases hsaid
    rw [List.append_nil]
    exact h
  | cons call rest ih =>
    obtain ⟨before, between, after, rfl, hcall, hrest⟩ := hsaid.bind_inv
    rw [← List.append_assoc]
    exact ih (h.call hcall) hrest

/-! ## What becomes of sessions -/

/-- A session was returned to a request that creates one. -/
def Created (e : EngineSettings) (id : UInt64) (talk : List (Request × Reply)) : Prop :=
  ∃ name reply session, (createRequest e name, reply) ∈ talk ∧
    reply.Holds Session.read? session ∧ session.id = id

/-- The last report of a session. -/
def lastReport (e : EngineSettings) (id : UInt64) (talk : List (Request × Reply)) :
    Option Session :=
  ((signs e id talk).filterMap fun sign =>
    match sign with
    | .told answer => answer
    | .deleted => none).getLast?

/-- No session is left on the server, between any two calls: each is held, has been deleted, or was
last reported in a state that it does not leave. -/
def NoneLeaked (e : EngineSettings) : Prop :=
  ∀ (calls : List Call) (replies : List Reply) (requests : List Request)
    (desk : Desk (Option UInt64) Handle),
    (serve e (service e).desk calls).play replies = (requests, some desk) →
    ∀ id, Created e id (requests.zip replies) →
      desk.link = some id ∨ .deleted ∈ signs e id (requests.zip replies) ∨
        ∃ session, lastReport e id (requests.zip replies) = some session ∧
          isFinal session.state = true

/-- Whatever the calls and the answers, each session that was created is held, or has been deleted
since it was last heard of, or was last found not to be idle. -/
theorem idle_sessions_held (e : EngineSettings) (calls : List Call) (replies : List Reply)
    (requests : List Request) (desk : Desk (Option UInt64) Handle)
    (h : (serve e (service e).desk calls).play replies = (requests, some desk)) (id : UInt64)
    (hcreated : Created e id (requests.zip replies)) :
    desk.link = some id ∨ lastSign e id (requests.zip replies) = some .deleted ∨
      ∃ answer, lastSign e id (requests.zip replies) = some (.told answer) ∧
        answer ≠ some ⟨id, "idle"⟩ := by
  have hstart : HoldsIdle e [] (service e).desk.link := by
    intro id hidle
    cases hidle
  have hholds : HoldsIdle e (requests.zip replies) desk.link :=
    hstart.serve (Exchange.Talks.of_play h)
  cases hsign : lastSign e id (requests.zip replies) with
  | none =>
    obtain ⟨name, reply, session, hsaid, hreply, rfl⟩ := hcreated
    have hsession : session? reply = some session := by
      rw [session?, Web.Reply.decode_eq_ok_iff.mpr hreply]
      rfl
    have htold : sign? e session.id (createRequest e name, reply) =
        some (.told (some session)) := by
      rw [sign?_create, hsession]
      simp [Option.filter]
    have hmem : .told (some session) ∈ signs e session.id (requests.zip replies) :=
      List.mem_filterMap.mpr ⟨_, hsaid, htold⟩
    rw [List.getLast?_eq_none_iff.mp hsign] at hmem
    cases hmem
  | some sign =>
    cases sign with
    | deleted => exact .inr (.inl rfl)
    | told answer =>
      by_cases hidle : answer = some ⟨id, "idle"⟩
      · subst hidle
        exact .inl (hholds id hsign)
      · exact .inr (.inr ⟨answer, rfl, hidle⟩)

/-! ## A busy session is let go -/

def idleReply : Reply := .answered 200 (.ok "\x7b\"id\":3,\"state\":\"idle\"\x7d")

def busyReply : Reply := .answered 200 (.ok "\x7b\"id\":3,\"state\":\"busy\"\x7d")

def otherReply : Reply := .answered 200 (.ok "\x7b\"id\":4,\"state\":\"idle\"\x7d")

theorem holds_replies :
    idleReply.Holds Session.read? ⟨3, "idle"⟩ ∧ busyReply.Holds Session.read? ⟨3, "busy"⟩ ∧
      otherReply.Holds Session.read? ⟨4, "idle"⟩ := by
  refine ⟨Reply.holds_of_read ?_, Reply.holds_of_read ?_, Reply.holds_of_read ?_⟩ <;>
    decide +kernel

theorem awaitIdle_idle (e : EngineSettings) (id : UInt64) (polls : Nat) :
    awaitIdle e ⟨id, "idle"⟩ polls = .done (.ok id) := by
  cases polls <;> rfl

/-- A session is opened and then found busy, so another one is opened, and this one is closed. -/
def busyTalk (e : EngineSettings) : List (Request × Reply) :=
  [(createRequest e "a", idleReply), ((Request.get (sessionUrl e 3)).after .none, busyReply),
    (createRequest e "b", otherReply),
    (Request.delete (sessionUrl e 4), .answered 200 (.ok "\x7b\x7d"))]

theorem play_busy (e : EngineSettings) :
    (serve e (service e).desk [.connect "a", .connect "b", .disconnect]).play
      ((busyTalk e).map Prod.snd) = ((busyTalk e).map Prod.fst, some (service e).desk) := by
  obtain ⟨hidle, hbusy, hother⟩ := holds_replies
  have hstate : ("busy" == "idle") = false := by decide
  simp only [busyTalk, List.map_cons, List.map_nil]
  generalize idleReply = idle at *
  generalize busyReply = busy at *
  generalize otherReply = other at *
  simp only [serve, Call.perform, Service.desk, service, connect, replaceSession, openSession,
    fetchSession, disconnect, Exchange.send, bind, Exchange.bind, pure, Exchange.play,
    awaitIdle_idle, isIdle, hstate, Bool.false_eq_true, if_false,
    Web.Reply.decode_eq_ok_iff.mpr hidle, Web.Reply.decode_eq_ok_iff.mpr hbusy,
    Web.Reply.decode_eq_ok_iff.mpr hother]

/-- The signs of the first session: it was idle, and then busy. -/
theorem signs_busy (e : EngineSettings) :
    signs e 3 (busyTalk e) = [.told (some ⟨3, "idle"⟩), .told (some ⟨3, "busy"⟩)] := by
  obtain ⟨hidle, hbusy, hother⟩ := holds_replies
  have hread : ∀ {reply : Reply} {session}, reply.Holds Session.read? session →
      session? reply = some session := by
    intro reply session h
    rw [session?, Web.Reply.decode_eq_ok_iff.mpr h]
    rfl
  simp only [signs, busyTalk, List.filterMap_cons, List.filterMap_nil, sign?_create, sign?_fetch,
    sign?_delete, hread hidle, hread hbusy, hread hother, if_true, Option.filter_some]
  decide

theorem created_busy (e : EngineSettings) : Created e 3 (busyTalk e) :=
  ⟨"a", idleReply, _, .head _, holds_replies.1, rfl⟩

/-- The busy session is neither held nor deleted, though it was in no final state. -/
theorem sessions_leaked : ¬NoneLeaked .blank := by
  intro h
  have hleft : (none : Option UInt64) = some 3 ∨ .deleted ∈ signs .blank 3 (busyTalk .blank) ∨
      ∃ session, lastReport .blank 3 (busyTalk .blank) = some session ∧
        isFinal session.state = true :=
    h _ _ _ _ (play_busy .blank) 3 (created_busy .blank)
  rw [lastReport, signs_busy] at hleft
  obtain hheld | hdeleted | ⟨session, hreport, hfinal⟩ := hleft
  · cases hheld
  · simp at hdeleted
  · cases hreport
    exact absurd hfinal (by decide)

theorem idle_sessions_held_busy :
    Created .blank 3 (busyTalk .blank) ∧
      ∃ answer, lastSign .blank 3 (busyTalk .blank) = some (.told answer) ∧
        answer ≠ some ⟨3, "idle"⟩ := by
  refine ⟨created_busy .blank, ?_⟩
  have hkept := idle_sessions_held .blank _ _ _ _ (play_busy .blank) 3 (created_busy .blank)
  obtain hheld | hdeleted | hbusy := hkept
  · cases hheld
  · have hlast : lastSign .blank 3 (busyTalk .blank) = some .deleted := hdeleted
    rw [lastSign, signs_busy] at hlast
    cases hlast
  · exact hbusy

end Spark

end QueryDesk
