import QueryDesk.Model.Client
import QueryDesk.Proofs.Engine.Runs

/-!
# Asking a model again

A hosted model is asked until a reply comes that asking again would not mend, or until the budget is
spent, and it says what the last reply says (`invoke_retries`).  How often it is asked is told by
the replies alone: once for each of those at the front that are worth another try, up to the
budget, and once more.
-/

namespace QueryDesk

open Web (Request Reply Exchange)

/-! ## Replies -/

/-- Whether asking again could bring another reply: none came back, there were too many requests, or
the service failed. -/
def Web.Reply.isTransient : Reply → Bool
  | lost _ => true
  | answered status _ => decide (status = 429 ∨ 500 ≤ status)

/-- What a model says with a reply. -/
inductive Told : Reply → Except ModelFault String → Prop
  | lost {detail : String} :
      Told (.lost detail) (.error (.request ("Request failed: " ++ detail)))
  | refused {status : Nat} {body : Except String String} (h : ¬(200 ≤ status ∧ status < 300)) :
      Told (.answered status body) (.error (.api status (body.toOption.getD "")))
  | malformed {status : Nat} {body : Except String String} (h : 200 ≤ status ∧ status < 300)
      (hunread : ∀ choices, ¬(Reply.answered status body).Holds Chat.readChoices? choices)
      (detail : String) : Told (.answered status body)
        (.error (.unparseable ("Failed to parse response: " ++ detail)))
  /-- No choice has a text that is not blank. -/
  | silent {reply : Reply} {choices : List (Option String)}
      (h : reply.Holds Chat.readChoices? choices)
      (hblank : ∀ text, some text ∈ choices → Text.isBlankText text = true) :
      Told reply (.error .emptyResponse)
  /-- The first text that is not blank. -/
  | said {reply : Reply} {before after : List (Option String)} {text : String}
      (h : reply.Holds Chat.readChoices? (before ++ some text :: after))
      (hbefore : ∀ text, some text ∈ before → Text.isBlankText text = true)
      (htext : Text.isBlankText text = false) : Told reply (.ok text)

theorem Chat.firstText?_cases (choices : List (Option String)) :
    (firstText? choices = none ∧
      ∀ text, some text ∈ choices → Text.isBlankText text = true) ∨
    ∃ before text after, choices = before ++ some text :: after ∧
      firstText? choices = some text ∧ Text.isBlankText text = false ∧
      ∀ text, some text ∈ before → Text.isBlankText text = true := by
  induction choices with
  | nil => exact Or.inl ⟨rfl, nofun⟩
  | cons choice choices ih =>
    -- a choice that says nothing is passed over
    have hpass (hchoice : ∀ text, choice = some text → Text.isBlankText text = true) :
        firstText? (choice :: choices) = firstText? choices := by
      cases choice with
      | none => rfl
      | some text => simp [firstText?, hchoice text rfl]
    have hfront {before : List (Option String)}
        (hchoice : ∀ text, choice = some text → Text.isBlankText text = true)
        (hbefore : ∀ text, some text ∈ before → Text.isBlankText text = true) :
        ∀ text, some text ∈ choice :: before → Text.isBlankText text = true := by
      intro text htext
      rcases List.mem_cons.mp htext with htext | htext
      · exact hchoice text htext.symm
      · exact hbefore text htext
    by_cases hchoice : ∀ text, choice = some text → Text.isBlankText text = true
    · rw [hpass hchoice]
      rcases ih with ⟨hnone, hblank⟩ | ⟨before, text, after, rfl, hsome, htext, hbefore⟩
      · exact Or.inl ⟨hnone, hfront hchoice hblank⟩
      · exact Or.inr ⟨choice :: before, text, after, rfl, hsome, htext, hfront hchoice hbefore⟩
    · simp only [not_forall, Bool.not_eq_true] at hchoice
      obtain ⟨text, rfl, htext⟩ := hchoice
      exact Or.inr ⟨[], text, choices, rfl, by simp [firstText?, htext], htext, nofun⟩

namespace HostedModel

theorem told_textOf (reply : Reply) : Told reply (textOf reply) := by
  cases reply with
  | lost detail => exact .lost
  | answered status body =>
    by_cases hstatus : 200 ≤ status ∧ status < 300
    · simp only [textOf, if_pos hstatus]
      cases body with
      | error detail => exact .malformed hstatus (fun choices ⟨_, _, _, h, _⟩ => nomatch h) detail
      | ok text =>
        dsimp only
        cases hread : (Json.unread? text).bind Chat.readChoices? with
        | none =>
          refine .malformed hstatus (fun choices ⟨_, _, value, h, _, _, hparse, hvalue⟩ => ?_)
            "unexpected content"
          cases h
          rw [hparse, Option.bind_some, hvalue] at hread
          cases hread
        | some choices =>
          obtain ⟨value, hparse, hvalue⟩ := Option.bind_eq_some_iff.mp hread
          have hholds : (Reply.answered status (.ok text)).Holds Chat.readChoices? choices :=
            ⟨status, text, value, rfl, hstatus.1, hstatus.2, hparse, hvalue⟩
          dsimp only
          rcases Chat.firstText?_cases choices with
            ⟨hnone, hblank⟩ | ⟨before, text, after, rfl, hsome, htext, hbefore⟩
          · rw [hnone]
            exact .silent hholds hblank
          · rw [hsome]
            exact .said hholds hbefore htext
    · simp only [textOf, if_neg hstatus]
      exact .refused hstatus

/-- Only the reply tells whether it is worth another try. -/
theorem isRetryable_of_told {reply : Reply} {result : Except ModelFault String}
    (h : Told reply result) : isRetryable result = reply.isTransient := by
  have haccepted {status : Nat} {body : Except String String}
      (hstatus : 200 ≤ status ∧ status < 300) :
      (Reply.answered status body).isTransient = false := by
    rw [Reply.isTransient, decide_eq_false]
    omega
  cases h with
  | lost => rfl
  | refused h =>
    rw [Bool.eq_iff_iff]
    simp [isRetryable, ModelFault.isRetryable, Reply.isTransient]
  | malformed h => exact (haccepted h).symm
  | silent h | said h =>
    obtain ⟨status, body, _, rfl, hlow, hhigh, _⟩ := h
    exact (haccepted ⟨hlow, hhigh⟩).symm

/-! ## Runs -/

/-- A run after a number of failures asks once for each reply at the front that is worth another
try, as far as its retries reach, and once more. -/
theorem play_invokeAfter (h : HostedModel) (r : ModelRequest) (failures retries : Nat)
    (replies : List Reply) :
    let retried := min (replies.takeWhile Reply.isTransient).length retries
    (h.invokeAfter r failures retries).play replies =
      ((List.range' failures (retried + 1)).map (h.request r),
        replies[retried]?.map textOf) := by
  induction retries generalizing failures replies with
  | zero =>
    rw [Nat.min_zero]
    cases replies <;> rfl
  | succ retries ih =>
    cases replies with
    | nil => rfl
    | cons reply rest =>
      have hretry := isRetryable_of_told (told_textOf reply)
      rw [invokeAfter, Exchange.play]
      cases htransient : reply.isTransient with
      | false =>
        rw [htransient] at hretry
        simp [hretry, htransient, Exchange.play]
      | true =>
        rw [htransient] at hretry
        simp only [hretry, if_true, ih, List.takeWhile_cons_of_pos htransient, List.length_cons,
          Nat.succ_min_succ, List.getElem?_cons_succ, List.range'_succ, List.map_cons]

/-- A request for a completion, whenever it is made. -/
structure AsksFor (h : HostedModel) (r : ModelRequest) (request : Request) : Prop where
  method : request.method = .post
  url : request.url = h.endpoint
  credentials : request.credentials = .bearer h.apiKey
  content : request.content = .json (Chat.requestJson h.model r)

theorem asksFor_request (h : HostedModel) (r : ModelRequest) (failures : Nat) :
    h.AsksFor r (h.request r failures) := ⟨rfl, rfl, rfl, rfl⟩

/-- A model is asked until a reply comes that is not worth another try, but only once more than its
budget says, with a delay before every try but the first.  All requests ask for the same, and the
run ends with what the model says with the last reply; it waits if there is none yet. -/
theorem invoke_retries (h : HostedModel) (r : ModelRequest) (replies : List Reply) :
    let retried := min (replies.takeWhile Reply.isTransient).length h.maxRetries.toNat
    let (sent, result) := (h.invoke r).play replies
    sent.length = retried + 1 ∧ Option.Rel Told replies[retried]? result ∧
      (∀ request ∈ sent, h.AsksFor r request) ∧
      sent.map (·.pause) = .none :: (List.range' 1 retried).map .backoff := by
  intro retried
  have hplay : (h.invoke r).play replies = _ := h.play_invokeAfter r 0 h.maxRetries.toNat replies
  rw [hplay]
  refine ⟨by simp [retried], ?_, fun request hrequest => ?_, ?_⟩
  · cases replies[retried]? with
    | none => exact .none
    | some reply => exact .some (told_textOf reply)
  · obtain ⟨failures, _, rfl⟩ := List.mem_map.mp hrequest
    exact h.asksFor_request r failures
  · rw [List.map_map, List.range'_succ, List.map_cons]
    refine congrArg₂ List.cons rfl (List.map_congr_left fun failures hfailures => ?_)
    have hpos : failures ≠ 0 := by
      have := (List.mem_range'_1.mp hfailures).1
      omega
    exact if_neg hpos

/-- A model that may be asked six times. -/
def patientModel : HostedModel := ⟨"key", "http://model/v1/chat/completions", "m", 5⟩

/-- Two failures and a refusal, and a reply that nobody waits for. -/
def refusedAtLast : List Reply :=
  [.answered 503 (.ok "busy"), .lost "reset", .answered 401 (.ok "key"), .answered 200 (.ok "")]

def greeting : ModelRequest := ⟨"Reply with JSON.", "hello", 0.7, 4000⟩

/-- A refusal ends the run, though the budget is not spent. -/
theorem invoke_retries_refused :
    let (sent, result) := (patientModel.invoke greeting).play refusedAtLast
    sent.length = 3 ∧ Option.Rel Told (some (.answered 401 (.ok "key"))) result ∧
      ∃ request, sent[2]? = some request ∧ request.pause = .backoff 2 ∧
        patientModel.AsksFor greeting request := by
  obtain ⟨hlength, hresult, hall, _⟩ := patientModel.invoke_retries greeting refusedAtLast
  have hthird : ((patientModel.invoke greeting).play refusedAtLast).1[2]? =
      some (patientModel.request greeting 2) := rfl
  exact ⟨hlength, hresult, _, hthird, rfl, hall _ (List.mem_of_getElem? hthird)⟩

end HostedModel

end QueryDesk
