import QueryDesk.Proofs.Engine.Sessions

/-!
# Opening a session

A new session is polled until what the server reports of it ends the opening: it is idle, it is in
a state that it does not leave, or the polls are used up.  Which of the three comes first tells how
many polls are made and what becomes of the session (`play_awaitIdle`, by induction on the polls
that are left).  So a session is opened exactly if it is found idle at the 240th poll or earlier
and in no final state before that (`opening_exact`).
-/

namespace QueryDesk.Spark

open Web (Request Reply Exchange)

/-- What asks for a session that is being opened. -/
def pollRequest (e : EngineSettings) (id : UInt64) : Request :=
  (Request.get (sessionUrl e id)).after .poll

/-! ## Polling -/

/-- A report after which a session is polled again. -/
def Pending (session : Session) : Prop :=
  session.state ≠ "idle" ∧ isFinal session.state = false

/-- What an opening ends with when this is the last report. -/
def outcome (session : Session) : Except Fault UInt64 :=
  if session.state = "idle" then .ok session.id else awaitIdle.givenUp session

theorem awaitIdle_of_not_pending (e : EngineSettings) {session : Session} (h : ¬Pending session)
    (polls : Nat) : awaitIdle e session polls = .done (outcome session) := by
  unfold outcome
  by_cases hidle : session.state = "idle"
  · cases polls with
    | zero => rw [awaitIdle]
    | succ polls => rw [awaitIdle, if_pos hidle, if_pos hidle]
  · have hfinal : isFinal session.state = true := by
      by_contra hnot
      exact h ⟨hidle, Bool.eq_false_iff.mpr hnot⟩
    cases polls with
    | zero => rw [awaitIdle]
    | succ polls => rw [awaitIdle, if_neg hidle, if_pos hfinal, if_neg hidle]

variable {answers : Nat → Reply} {reported : Nat → Session}

/-- A pending session is asked for once more. -/
theorem play_awaitIdle_pending (e : EngineSettings) {session next : Session} {reply : Reply}
    (h : Pending session) (hreply : reply.Holds Session.read? next) (polls : Nat)
    (rest : List Reply) : (awaitIdle e session (polls + 1)).play (reply :: rest) =
      let played := (awaitIdle e next polls).play rest
      (pollRequest e session.id :: played.1, played.2) := by
  have hask : awaitIdle e session (polls + 1) =
      .ask (pollRequest e session.id) fun reply => pollFrom e polls
        (reply.decode "Livy session status" "Livy session" Session.read?) := by
    rw [awaitIdle, if_neg h.1, if_neg (Bool.eq_false_iff.mp h.2)]
    rfl
  rw [hask, Exchange.play, Web.Reply.decode_eq_ok_iff.mpr hreply, pollFrom]

/-- A session is polled until a report that ends its opening, or until the last poll. -/
theorem play_awaitIdle (e : EngineSettings)
    (hreports : ∀ n, (answers n).Holds Session.read? (reported n)) {polls n k : Nat}
    (hk : k ≤ polls) (hpending : ∀ i < k, Pending (reported (n + i)))
    (hends : ¬Pending (reported (n + k)) ∨ k = polls) :
    (awaitIdle e (reported n) polls).play ((List.range' (n + 1) polls).map answers) =
      ((List.range' n k).map fun i => pollRequest e (reported i).id,
        some (outcome (reported (n + k)))) := by
  induction polls generalizing n k with
  | zero =>
    obtain rfl : k = 0 := Nat.le_zero.mp hk
    rw [awaitIdle]
    rfl
  | succ polls ih =>
    cases k with
    | zero =>
      have hends : ¬Pending (reported n) := hends.resolve_right (Nat.zero_ne_add_one polls)
      rw [awaitIdle_of_not_pending e hends]
      rfl
    | succ k =>
      have hfirst : Pending (reported n) := hpending 0 (Nat.succ_pos k)
      have hshift : ∀ i, n + 1 + i = n + (i + 1) := by
        intro i
        omega
      have hrest := ih (n := n + 1) (k := k) (Nat.le_of_succ_le_succ hk)
        (fun i hi => by
          rw [hshift]
          exact hpending (i + 1) (Nat.succ_lt_succ hi))
        (by
          rw [hshift]
          exact hends.imp_right Nat.succ.inj)
      rw [List.range'_succ, List.map_cons, play_awaitIdle_pending e hfirst (hreports (n + 1)),
        hrest, hshift, List.range'_succ, List.map_cons]

/-- Some report ends the opening, or else the polls are used up. -/
theorem exists_end (reported : Nat → Session) (polls : Nat) : ∃ k ≤ polls,
    (∀ i < k, Pending (reported i)) ∧ (¬Pending (reported k) ∨ k = polls) := by
  induction polls with
  | zero => exact ⟨0, Nat.le_refl 0, fun i hi => absurd hi (Nat.not_lt_zero i), Or.inr rfl⟩
  | succ polls ih =>
    obtain ⟨k, hk, hpending, hends⟩ := ih
    by_cases hlast : Pending (reported k)
    · obtain rfl : k = polls := hends.resolve_left (not_not.mpr hlast)
      refine ⟨k + 1, Nat.le_refl _, fun i hi => ?_, Or.inr rfl⟩
      rcases Nat.lt_succ_iff_lt_or_eq.mp hi with hi | rfl
      · exact hpending i hi
      · exact hlast
    · exact ⟨k, Nat.le_succ_of_le hk, hpending, Or.inl hlast⟩

/-! ## Connecting -/

/-- The session is idle at a poll (the answer that created it being poll 0) that it may be asked
for, and was in no state before that it does not leave. -/
structure OpensAt (reported : Nat → Session) (k : Nat) : Prop where
  inTime : k ≤ 240
  idle : (reported k).state = "idle"
  alive : ∀ i < k, (reported i).state ∉ ["dead", "error", "killed", "shutting_down"]

theorem isFinal_iff {state : String} :
    isFinal state = true ↔ state ∈ ["dead", "error", "killed", "shutting_down"] :=
  List.contains_iff_mem

/-- What is kept, without a session so far, once an opening has ended. -/
def linked (e : EngineSettings) : Except Fault UInt64 → Except Fault Unit × Option UInt64
  | .ok id => (.ok (), some id)
  | .error f => (.error (.connection
      ("Could not open Livy session at " ++ root e ++ ": " ++ f.message)), none)

theorem connect_eq (e : EngineSettings) (name : String) :
    connect e name none = (openSession e name).bind fun opened => .done (linked e opened) := by
  have hlinked : ∀ opened : Except Fault UInt64, (match opened with
      | .ok id => .done (.ok (), some id)
      | .error f => .done (.error (.connection
          ("Could not open Livy session at " ++ root e ++ ": " ++ f.message)), none)) =
      Exchange.done (linked e opened) := by
    intro opened
    cases opened <;> rfl
  exact congrArg (openSession e name).bind (funext hlinked)

/-- The creating answer is followed by polls up to the report that ends the opening. -/
theorem play_connect (e : EngineSettings) (name : String)
    (hreports : ∀ n, (answers n).Holds Session.read? (reported n)) {k : Nat} (hk : k ≤ 240)
    (hpending : ∀ i < k, Pending (reported i)) (hends : ¬Pending (reported k) ∨ k = 240) :
    (connect e name none).play ((List.range 241).map answers) =
      (createRequest e name :: (List.range k).map fun i => pollRequest e (reported i).id,
        some (linked e (outcome (reported k)))) := by
  have hcreated : (openSession e name).play ((List.range 241).map answers) =
      let played := (pollFrom e maxPolls ((answers 0).decode "Livy session create" "Livy session"
        Session.read?)).play ((List.range' 1 240).map answers)
      (createRequest e name :: played.1, played.2) := by
    rw [List.range_eq_range', List.range'_succ, List.map_cons]
    rfl
  have hpolls := play_awaitIdle e hreports (n := 0) hk
    (fun i hi => by
      rw [Nat.zero_add]
      exact hpending i hi)
    (by rwa [Nat.zero_add])
  rw [Nat.zero_add, Nat.zero_add] at hpolls
  rw [connect_eq, Web.Exchange.play_bind_done, hcreated,
    Web.Reply.decode_eq_ok_iff.mpr (hreports 0), pollFrom, maxPolls, hpolls, List.range_eq_range']
  rfl

/-- Without a session, connecting succeeds exactly if the server reports the new session idle at the
240th poll or before and in no final state until then.  The first such report ends the polls and its
session is kept; without one, connecting fails after 240 polls at most and nothing is kept. -/
theorem opening_exact (e : EngineSettings) (name : String) (answers : Nat → Reply)
    (reported : Nat → Session)
    (hreports : ∀ n, (answers n).Holds Session.read? (reported n)) :
    let played := (connect e name none).play ((List.range 241).map answers)
    let polls := fun n => (List.range n).map fun i => pollRequest e (reported i).id
    ((∃ held, played.2 = some (.ok (), held)) ↔ ∃ k, OpensAt reported k) ∧
      (∀ k, OpensAt reported k → (∀ i < k, ¬OpensAt reported i) →
        played = (createRequest e name :: polls k, some (.ok (), some (reported k).id))) ∧
      ((∀ k, ¬OpensAt reported k) → ∃ n ≤ 240, ∃ f,
        played = (createRequest e name :: polls n, some (.error f, none))) := by
  intro played polls
  obtain ⟨n, hn, hpending, hends⟩ := exists_end reported 240
  have hplayed : played = _ := play_connect e name hreports hn hpending hends
  -- No poll before the last can be the one that opens the session.
  have hlater : ∀ k, OpensAt reported k → n ≤ k := by
    intro k hopens
    by_contra hlt
    exact (hpending k (Nat.not_le.mp hlt)).1 hopens.idle
  have hno : (reported n).state ≠ "idle" → ∀ k, ¬OpensAt reported k := by
    intro hnot k hopens
    rcases Nat.lt_or_eq_of_le (hlater k hopens) with hlt | rfl
    · rcases hends with hends | rfl
      · refine hends ⟨hnot, Bool.eq_false_iff.mpr fun hfinal => ?_⟩
        exact hopens.alive n hlt (isFinal_iff.mp hfinal)
      · exact absurd hopens.inTime (Nat.not_le.mpr hlt)
    · exact hnot hopens.idle
  by_cases hidle : (reported n).state = "idle"
  · have hopens : OpensAt reported n := by
      refine ⟨hn, hidle, fun i hi hfinal => ?_⟩
      have hpend := (hpending i hi).2
      rw [isFinal_iff.mpr hfinal] at hpend
      cases hpend
    rw [outcome, if_pos hidle] at hplayed
    refine ⟨⟨fun _ => ⟨n, hopens⟩, fun _ => ⟨_, congrArg Prod.snd hplayed⟩⟩, ?_, ?_⟩
    · intro k hk hfirst
      obtain rfl : k = n := by
        refine Nat.le_antisymm (Nat.not_lt.mp fun hlt => hfirst n hlt hopens) (hlater k hk)
      exact hplayed
    · intro hnone
      exact absurd hopens (hnone n)
  · rw [outcome, if_neg hidle] at hplayed
    refine ⟨⟨?_, ?_⟩, ?_, ?_⟩
    · rintro ⟨held, hheld⟩
      rw [hplayed] at hheld
      cases hheld
    · rintro ⟨k, hopens⟩
      exact absurd hopens (hno hidle k)
    · intro k hopens
      exact absurd hopens (hno hidle k)
    · intro _
      exact ⟨n, hn, _, hplayed⟩

/-! ## The last poll -/

def startingReply : Reply := .answered 200 (.ok "\x7b\"id\":3,\"state\":\"starting\"\x7d")

theorem holds_startingReply : startingReply.Holds Session.read? ⟨3, "starting"⟩ :=
  Reply.holds_of_read (by decide +kernel)

/-- The answers of a server whose session starts slowly. -/
def slowAnswers (idleFrom : Nat) (n : Nat) : Reply :=
  if n < idleFrom then startingReply else idleReply

def slowReports (idleFrom : Nat) (n : Nat) : Session :=
  if n < idleFrom then ⟨3, "starting"⟩ else ⟨3, "idle"⟩

theorem holds_slowAnswers (idleFrom n : Nat) :
    (slowAnswers idleFrom n).Holds Session.read? (slowReports idleFrom n) := by
  unfold slowAnswers slowReports
  by_cases h : n < idleFrom
  · rw [if_pos h, if_pos h]
    exact holds_startingReply
  · rw [if_neg h, if_neg h]
    exact holds_replies.1

theorem opensAt_slowReports_iff {idleFrom k : Nat} :
    OpensAt (slowReports idleFrom) k ↔ k ≤ 240 ∧ idleFrom ≤ k := by
  constructor
  · intro h
    refine ⟨h.inTime, Nat.not_lt.mp fun hlt => ?_⟩
    have hidle := h.idle
    rw [slowReports, if_pos hlt] at hidle
    exact absurd hidle (by decide)
  · rintro ⟨hk, hidle⟩
    refine ⟨hk, by rw [slowReports, if_neg (Nat.not_lt.mpr hidle)], fun i _ => ?_⟩
    unfold slowReports
    split_ifs <;> decide

/-- A session that is idle at the 240th poll is kept, and one that is idle at the next is not. -/
theorem opening_exact_slow :
    (∀ n, (slowAnswers 240 n).Holds Session.read? (slowReports 240 n)) ∧
      (∃ requests, (connect .blank "a" none).play ((List.range 241).map (slowAnswers 240)) =
        (requests, some (.ok (), some 3)) ∧ requests.length = 241) ∧
      ∃ requests f, (connect .blank "a" none).play ((List.range 241).map (slowAnswers 241)) =
        (requests, some (.error f, none)) ∧ requests.length ≤ 241 := by
  refine ⟨holds_slowAnswers 240, ?_, ?_⟩
  · obtain ⟨-, hopened, -⟩ := opening_exact .blank "a" _ _ (holds_slowAnswers 240)
    have hplayed := hopened 240 (opensAt_slowReports_iff.mpr ⟨Nat.le_refl _, Nat.le_refl _⟩)
      fun i hi hopens => Nat.not_le.mpr hi (opensAt_slowReports_iff.mp hopens).2
    exact ⟨_, hplayed, by simp⟩
  · obtain ⟨-, -, hfailed⟩ := opening_exact .blank "a" _ _ (holds_slowAnswers 241)
    obtain ⟨n, hn, f, hplayed⟩ := hfailed fun k hopens => by
      obtain ⟨hk, hidle⟩ := opensAt_slowReports_iff.mp hopens
      omega
    exact ⟨_, f, hplayed, by simp; omega⟩

end QueryDesk.Spark
