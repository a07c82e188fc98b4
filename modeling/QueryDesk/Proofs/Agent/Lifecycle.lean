import Mathlib.Data.List.Induction
import QueryDesk.Proofs.Agent.Working

/-!
# The life of a connection

An agent is played through operations one after another, and each step is written down with the
calls that reached the engine and the agent's flag after it.  What a step can do is said once
(`Step.Follows`): the two operations on the connection make one call at most and set the flag by
it, and all others leave the flag and run statements only while it is set.  From that follows, by
induction over the steps before, that the flag tells whether the latest connect that succeeded is
later than the latest disconnect (`Plays.flag_iff_linked`), and with it what the history of an
agent is like (`play_lawful`).
-/

namespace QueryDesk

namespace Agent

variable {σ : Type} {m : Type → Type} [Monad m]

/-! ## Operations -/

/-- What an agent can be asked to do. -/
inductive Operation where
  | connect
  | disconnect
  | query (text : String) (format : Option Format) (opts : QueryOptions)
  | preview (text : String) (size : UInt64)
  | estimate (text : String)
  | batch (texts : List String) (format : Option Format)
  | status

/-- Carries out an operation and gives the agent as it is afterwards. -/
def perform (a : Agent m) : Operation → m (Agent m)
  | .connect => do return (← a.connect).2
  | .disconnect => a.disconnect
  | .query text format opts => do
    let _ ← a.query text format opts
    return a
  | .preview text size => do
    let _ ← a.preview text size
    return a
  | .estimate text => do
    let _ ← a.estimate text
    return a
  | .batch texts format => do
    let _ ← a.batch texts format
    return a
  | .status => do
    let _ ← a.status
    return a

/-- An operation with the calls that it led to and the agent's flag after it. -/
structure Step where
  operation : Operation
  events : List Event
  connected : Bool

/-- The steps of an agent that is asked for operations one after another. -/
def play (a : Agent (StateM σ)) (w : σ) : List Operation → List Step
  | [] => []
  | op :: rest =>
    let after := resultIn (a.perform op) w
    ⟨op, (a.logged.perform op).eventsIn w, after.connected⟩ ::
      after.play (worldAfter (a.perform op) w) rest

/-- The agent after its engine has answered a call to connect. -/
def linked (a : Agent m) (r : Except Fault Unit) : Agent m :=
  { a with connected := match r with
    | .ok () => true
    | .error _ => a.connected }

section Cases

variable {a : Agent m}

theorem perform_connect [LawfulMonad m] :
    a.perform .connect = do return a.linked (← a.backend.connect) := by
  show (do return (← a.connect).2) = _
  unfold connect
  rw [bind_assoc]
  refine bind_congr fun r => ?_
  cases r <;> exact pure_bind _ _

theorem disconnect_of_connected (h : a.connected = true) :
    a.disconnect = (do
      a.backend.disconnect
      return { a with connected := false }) := if_pos h

theorem disconnect_of_disconnected (h : a.connected = false) : a.disconnect = pure a :=
  if_neg (Bool.not_eq_true _ ▸ h)

end Cases

/-! ## Steps -/

namespace Step

/-- A connect that succeeded. -/
def Opens (s : Step) : Prop := s.operation = .connect ∧ .connected (.ok ()) ∈ s.events

def Closes (s : Step) : Prop := s.operation = .disconnect

/-- What an agent with a flag can do in a step. -/
inductive Follows : Bool → Step → Prop
  | connect (b : Bool) (r : Except Fault Unit) :
    Follows b ⟨.connect, [.connected r], match r with | .ok () => true | .error _ => b⟩
  | disconnect : Follows true ⟨.disconnect, [.disconnected], false⟩
  | idle : Follows false ⟨.disconnect, [], false⟩
  | work (b : Bool) (op : Operation) (events : List Event) (hconnect : op ≠ .connect)
    (hdisconnect : op ≠ .disconnect)
    (hevents : ∀ event ∈ events, event.isStatement = true ∧ b = true) : Follows b ⟨op, events, b⟩

namespace Follows

variable {b : Bool} {s : Step}

/-- The flag is set after a step that opens a connection, and stays set until one closes it. -/
theorem connected_iff (h : s.Follows b) : s.connected = true ↔ s.Opens ∨ b = true ∧ ¬s.Closes := by
  cases h with
  | connect b r =>
    cases r with
    | ok u => simp [Opens, Closes]
    | error f => simp [Opens, Closes]
  | disconnect => simp [Opens, Closes]
  | idle => simp [Opens, Closes]
  | work b op events hconnect hdisconnect hevents => simp [Opens, Closes, hconnect, hdisconnect]

theorem connected_of_refused (h : s.Follows b) (hconnect : s.operation = .connect)
    (hrefused : ¬s.Opens) : s.connected = b := by
  cases h with
  | connect b r =>
    cases r with
    | ok u => exact absurd ⟨rfl, List.mem_singleton_self _⟩ hrefused
    | error f => rfl
  | disconnect => cases hconnect
  | idle => cases hconnect
  | work b op events hop => exact absurd hconnect hop

theorem connected_of_statement (h : s.Follows b) {event : Event} (hevent : event ∈ s.events)
    (hstatement : event.isStatement = true) : b = true := by
  cases h with
  | connect b r => cases List.mem_singleton.mp hevent; cases hstatement
  | disconnect => cases List.mem_singleton.mp hevent; cases hstatement
  | idle => cases hevent
  | work b op events hconnect hdisconnect hevents => exact (hevents event hevent).2

theorem closes_of_disconnected (h : s.Follows b) (hevent : .disconnected ∈ s.events) :
    s.Closes ∧ b = true := by
  cases h with
  | connect b r => cases List.mem_singleton.mp hevent
  | disconnect => exact ⟨rfl, rfl⟩
  | idle => cases hevent
  | work b op events hconnect hdisconnect hevents => cases (hevents _ hevent).1

theorem events_of_closes (h : s.Follows true) (hcloses : s.Closes) :
    s.events = [.disconnected] := by
  cases h with
  | connect b r => cases hcloses
  | disconnect => rfl
  | work b op events hconnect hop => exact absurd hcloses hop

end Follows

end Step

section Performing

variable {a : Agent (StateM σ)} {w : σ}

/-- Work that leaves the agent is a step. -/
theorem work_follows {α : Type} {x : Logged σ α} {y : StateM σ α} {op : Operation}
    (hx : Works a.connected x y w) (hconnect : op ≠ .connect) (hdisconnect : op ≠ .disconnect) :
    ∃ events, Logs (do let _ ← x; return a.logged) (logged <$> do let _ ← y; return a) w events ∧
      Step.Follows a.connected ⟨op, events, a.connected⟩ := by
  obtain ⟨events, hlogs, hevents⟩ := hx
  exact ⟨events, hlogs.map _, .work _ op events hconnect hdisconnect hevents⟩

/-- An operation is logged as it is carried out, and does what a step can do. -/
theorem perform_follows (op : Operation) :
    ∃ events, Logs (a.logged.perform op) (logged <$> a.perform op) w events ∧
      Step.Follows a.connected ⟨op, events, (resultIn (a.perform op) w).connected⟩ := by
  cases op with
  | connect =>
    refine ⟨[.connected (resultIn a.backend.connect w)], ?_, ?_⟩
    · rw [perform_connect, perform_connect]
      exact (Logs.call _ _ w).map a.logged.linked
    · rw [perform_connect]
      exact .connect a.connected (resultIn a.backend.connect w)
  | disconnect =>
    show ∃ events, Logs a.logged.disconnect (logged <$> a.disconnect) w events ∧
      Step.Follows a.connected ⟨.disconnect, events, (resultIn a.disconnect w).connected⟩
    cases hconnected : a.connected with
    | false =>
      rw [disconnect_of_disconnected hconnected,
        disconnect_of_disconnected (a := a.logged) hconnected, resultIn_pure, hconnected]
      exact ⟨[], Logs.pure _ w, .idle⟩
    | true =>
      rw [disconnect_of_connected hconnected,
        disconnect_of_connected (a := a.logged) hconnected]
      exact ⟨[.disconnected], (Logs.call _ _ w).map _, .disconnect⟩
  | query text format opts => exact work_follows (works_query text format opts) nofun nofun
  | preview text size => exact work_follows (works_preview text size) nofun nofun
  | estimate text => exact work_follows (works_estimate text) nofun nofun
  | batch texts format => exact work_follows (works_batch texts format 1) nofun nofun
  | status => exact work_follows works_status nofun nofun

end Performing

/-! ## Histories -/

/-- A connect that succeeded is later than every disconnect. -/
def Linked (history : List Step) : Prop :=
  ∃ before s after, history = before ++ s :: after ∧ s.Opens ∧ ∀ t ∈ after, ¬t.Closes

theorem not_linked_nil : ¬Linked [] := by
  rintro ⟨before, s, after, h, -⟩
  exact List.append_ne_nil_of_right_ne_nil before (List.cons_ne_nil s after) h.symm

theorem linked_concat {history : List Step} {s : Step} :
    Linked (history ++ [s]) ↔ s.Opens ∨ Linked history ∧ ¬s.Closes := by
  constructor
  · rintro ⟨before, t, after, h, hopens, hafter⟩
    -- the connect is the last step, or the last step is one after it
    rcases List.eq_nil_or_concat after with rfl | ⟨after, u, rfl⟩
    · obtain ⟨-, hs⟩ := List.append_inj' h rfl
      exact .inl (List.head_eq_of_cons_eq hs ▸ hopens)
    · rw [List.concat_eq_append, ← List.cons_append, ← List.append_assoc] at h
      obtain ⟨rfl, hs⟩ := List.append_inj' h rfl
      rw [List.head_eq_of_cons_eq hs]
      rw [List.concat_eq_append] at hafter
      exact .inr ⟨⟨before, t, after, rfl, hopens, fun v hv => hafter v (by simp [hv])⟩,
        hafter u (by simp)⟩
  · rintro (hopens | ⟨⟨before, t, after, rfl, hopens, hafter⟩, hs⟩)
    · exact ⟨history, s, [], rfl, hopens, fun t ht => absurd ht List.not_mem_nil⟩
    · refine ⟨before, t, after ++ [s], by simp, hopens, fun v hv => ?_⟩
      rcases List.mem_append.mp hv with hv | hv
      · exact hafter v hv
      · rwa [List.mem_singleton.mp hv]

theorem Step.Opens.not_closes {s : Step} (h : s.Opens) : ¬s.Closes := fun hcloses => by
  cases h.1.symm.trans hcloses

/-- A history that is linked has a first connect from which on it has been. -/
theorem Linked.first {history : List Step} (h : Linked history) :
    ∃ before opening inside, history = before ++ opening :: inside ∧ ¬Linked before ∧
      opening.Opens ∧ ∀ s ∈ inside, ¬s.Closes := by
  induction history using List.reverseRecOn with
  | nil => exact absurd h not_linked_nil
  | append_singleton history s ih =>
    -- linked before the last step already, or only by it
    by_cases hlinked : Linked history
    · obtain ⟨before, opening, inside, rfl, hbefore, hopens, hinside⟩ := ih hlinked
      refine ⟨before, opening, inside ++ [s], by simp, hbefore, hopens, fun t ht => ?_⟩
      rcases List.mem_append.mp ht with ht | ht
      · exact hinside t ht
      · rw [List.mem_singleton.mp ht]
        rcases linked_concat.mp h with hs | ⟨-, hs⟩
        · exact hs.not_closes
        · exact hs
    · rcases linked_concat.mp h with hs | ⟨hs, -⟩
      · exact ⟨history, s, [], rfl, hlinked, hs, fun t ht => absurd ht List.not_mem_nil⟩
      · exact absurd hs hlinked

/-- A connection in a history: from a connect that succeeded while there was none, up to the first
disconnect after it. -/
structure Period (history before : List Step) (opening : Step) (inside : List Step)
    (closing : Step) (after : List Step) : Prop where
  parts : history = before ++ opening :: inside ++ closing :: after
  fresh : ¬Linked before
  opens : opening.Opens
  inside_open : ∀ s ∈ inside, ¬s.Closes
  closes : closing.Closes

/-- The flag after some steps of an agent that had a flag before them. -/
def flagAfter (b : Bool) (steps : List Step) : Bool := steps.foldl (fun _ s => s.connected) b

/-- Steps each of which does what the flag before it allows. -/
def Plays (b : Bool) : List Step → Prop
  | [] => True
  | s :: rest => s.Follows b ∧ Plays s.connected rest

namespace Plays

variable {b : Bool} {history before after : List Step} {s : Step}

theorem append_iff :
    Plays b (before ++ after) ↔ Plays b before ∧ Plays (flagAfter b before) after := by
  induction before generalizing b with
  | nil => exact (and_iff_right trivial).symm
  | cons s rest ih => exact (and_congr_right fun _ => ih).trans and_assoc.symm

theorem split (h : Plays b (before ++ s :: after)) :
    Plays b before ∧ s.Follows (flagAfter b before) :=
  ⟨(append_iff.mp h).1, (append_iff.mp h).2.1⟩

/-- The flag of an agent tells whether its history is linked. -/
theorem flag_iff_linked (h : Plays false history) :
    flagAfter false history = true ↔ Linked history := by
  induction history using List.reverseRecOn with
  | nil => exact iff_of_false Bool.noConfusion not_linked_nil
  | append_singleton history s ih =>
    obtain ⟨hbefore, hs⟩ := split h
    have hflag : flagAfter false (history ++ [s]) = s.connected := List.foldl_concat ..
    rw [hflag, hs.connected_iff, linked_concat, ih hbefore]

end Plays

theorem play_plays (a : Agent (StateM σ)) (w : σ) (ops : List Operation) :
    Plays a.connected (a.play w ops) := by
  induction ops generalizing a w with
  | nil => trivial
  | cons op rest ih =>
    obtain ⟨events, hlogs, hfollows⟩ := perform_follows (a := a) (w := w) op
    rw [← hlogs.eventsIn_eq] at hfollows
    exact ⟨hfollows, ih _ _⟩

/-! ## What a history is like -/

/-- The calls of some steps. -/
def calls (steps : List Step) : List Event := steps.flatMap Step.events

theorem isDisconnect_iff {event : Event} : event.isDisconnect = true ↔ event = .disconnected := by
  cases event <;> simp [Event.isDisconnect]

structure Lawful (history : List Step) : Prop where
  /-- Statements are run only while a connect that succeeded is later than every disconnect. -/
  statements : ∀ before s after, history = before ++ s :: after →
    ∀ event ∈ s.events, event.isStatement = true → Linked before
  /-- A connect that fails leaves the flag. -/
  refused : ∀ before s after, history = before ++ s :: after → s.operation = .connect →
    ¬s.Opens → s.connected = flagAfter false before
  /-- A connection that ends is given up by one call. -/
  once : ∀ before opening inside closing after,
    Period history before opening inside closing after →
      (calls (opening :: inside ++ [closing])).countP Event.isDisconnect = 1
  /-- No call to disconnect is made but at the end of a connection. -/
  only : ∀ steps s after, history = steps ++ s :: after → .disconnected ∈ s.events →
    ∃ before opening inside, steps = before ++ opening :: inside ∧
      Period history before opening inside s after

namespace Plays

variable {history : List Step}

/-- Steps of which none closes make no call to disconnect. -/
theorem countP_calls {b : Bool} {steps : List Step} (h : Plays b steps)
    (hopen : ∀ s ∈ steps, ¬s.Closes) : (calls steps).countP Event.isDisconnect = 0 := by
  induction steps generalizing b with
  | nil => rfl
  | cons s rest ih =>
    obtain ⟨hs, hrest⟩ := h
    have hcalls : s.events.countP Event.isDisconnect = 0 := by
      rw [List.countP_eq_zero]
      intro event hevent hdisconnect
      rw [isDisconnect_iff.mp hdisconnect] at hevent
      exact hopen s List.mem_cons_self (hs.closes_of_disconnected hevent).1
    rw [calls, List.flatMap_cons, List.countP_append, hcalls, Nat.zero_add]
    exact ih hrest fun t ht => hopen t (List.mem_cons_of_mem s ht)

theorem period_calls (h : Plays false history) {before inside after : List Step}
    {opening closing : Step} (hperiod : Period history before opening inside closing after) :
    (calls (opening :: inside ++ [closing])).countP Event.isDisconnect = 1 := by
  obtain ⟨rfl, -, hopens, hinside, hcloses⟩ := hperiod
  obtain ⟨hplays, hclosing⟩ := split h
  -- the flag is still set when the connection is closed, so closing it makes the one call
  have hflag : flagAfter false (before ++ opening :: inside) = true :=
    (flag_iff_linked hplays).mpr ⟨before, opening, inside, rfl, hopens, hinside⟩
  rw [hflag] at hclosing
  have hsteps : ∀ s ∈ opening :: inside, ¬s.Closes := by
    intro s hs
    rcases List.mem_cons.mp hs with rfl | hs
    · exact hopens.not_closes
    · exact hinside s hs
  have hcalls : calls (opening :: inside ++ [closing]) =
      calls (opening :: inside) ++ [.disconnected] := by
    rw [calls, List.flatMap_append, List.flatMap_singleton, hclosing.events_of_closes hcloses]
    rfl
  rw [hcalls, List.countP_append, (append_iff.mp hplays).2.countP_calls hsteps]
  rfl

theorem lawful (h : Plays false history) : Lawful history where
  statements before s after hparts event hevent hstatement := by
    rw [hparts] at h
    obtain ⟨hbefore, hs⟩ := split h
    exact (flag_iff_linked hbefore).mp (hs.connected_of_statement hevent hstatement)
  refused before s after hparts hconnect hrefused := by
    rw [hparts] at h
    exact (split h).2.connected_of_refused hconnect hrefused
  once before opening inside closing after hperiod := h.period_calls hperiod
  only steps s after hparts hevent := by
    rw [hparts] at h
    obtain ⟨hsteps, hs⟩ := split h
    obtain ⟨hcloses, hflag⟩ := hs.closes_of_disconnected hevent
    obtain ⟨before, opening, inside, rfl, hfresh, hopens, hinside⟩ :=
      ((flag_iff_linked hsteps).mp hflag).first
    exact ⟨before, opening, inside, rfl, hparts, hfresh, hopens, hinside, hcloses⟩

end Plays

/-- Whatever is asked of an agent, in whatever order, and however its engine answers, its
statements are run while it is connected, a connect that fails leaves it as it was, and its engine
is disconnected once for each connection that ends. -/
theorem play_lawful {a : Agent (StateM σ)} (hnew : a.connected = false) (w : σ)
    (ops : List Operation) : Lawful (a.play w ops) := by
  have hplays := play_plays a w ops
  rw [hnew] at hplays
  exact hplays.lawful

/-- One who connects twice, asks, disconnects twice, and asks again. -/
theorem play_lawful_rehearsed :
    Lawful ((rehearsed false).play ⟨[], false, []⟩ [.connect, .connect,
      .query "users by city" none .default, .disconnect, .disconnect,
      .estimate "users by city", .status]) :=
  play_lawful rfl _ _

end Agent

end QueryDesk
