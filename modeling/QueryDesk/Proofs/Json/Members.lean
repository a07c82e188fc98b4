import QueryDesk.Json.Unread

/-!
# Members that are no fields, and fields written twice

What a record that is read by its type owes to the members as they are written.  A member under
another name than the fields' leaves no trace, so it may hold what no value can
(`slots?_of_not_mem`); a field under which two members stand is not read at all, whichever of them
comes first (`slots?_of_repeated`).
-/

namespace QueryDesk.Json

variable {α β : Type} {f g : α → Option β} {xs : List α}

theorem mapM_option_congr (h : ∀ x ∈ xs, f x = g x) : xs.mapM f = xs.mapM g := by
  induction xs with
  | nil => rfl
  | cons x xs ih =>
    obtain ⟨hx, hxs⟩ := List.forall_mem_cons.mp h
    rw [List.mapM_cons, List.mapM_cons, hx, ih hxs]

theorem mapM_option_eq_none {x : α} (hx : x ∈ xs) (h : f x = none) : xs.mapM f = none := by
  obtain ⟨before, after, rfl⟩ := List.append_of_mem hx
  rw [List.mapM_append, List.mapM_cons, h]
  cases before.mapM f <;> rfl

namespace Unread

theorem members?_append (depth : Nat) (ms ms' : List (List Char × Raw)) :
    members? ⟨depth + 1, .object (ms ++ ms')⟩ = do
      let named ← members? ⟨depth + 1, .object ms⟩
      let named' ← members? ⟨depth + 1, .object ms'⟩
      return named ++ named' :=
  List.mapM_append

theorem members?_cons {key : List Char} {name : String} (hkey : text? key = some name)
    (depth : Nat) (value : Raw) (ms : List (List Char × Raw)) :
    members? ⟨depth + 1, .object ((key, value) :: ms)⟩ =
      (members? ⟨depth + 1, .object ms⟩).map ((name, ⟨depth, value⟩) :: ·) := by
  rw [members?, List.mapM_cons, Option.map_eq_bind]
  simp only [hkey]
  rfl

theorem slots?_object (names : List String) (depth : Nat) (ms : List (List Char × Raw)) :
    slots? names ⟨depth, .object ms⟩ =
      (members? ⟨depth, .object ms⟩).bind fun named => names.mapM (fieldIn? named) := rfl

theorem fieldIn?_of_two_le {name : String} {named : List (String × Unread)}
    (h : 2 ≤ (named.filter (·.1 = name)).length) : fieldIn? named name = none := by
  rw [fieldIn?]
  split
  · next hnone =>
    rw [hnone] at h
    contradiction
  · next hone =>
    rw [hone] at h
    contradiction
  · rfl

variable {names : List String} {key key' : List Char} {name : String}

/-- A member that is no field is passed over, whatever it holds. -/
theorem slots?_of_not_mem (hkey : text? key = some name) (hname : name ∉ names) (depth : Nat)
    (value : Raw) (ms ms' : List (List Char × Raw)) :
    slots? names ⟨depth, .object (ms ++ (key, value) :: ms')⟩ =
      slots? names ⟨depth, .object (ms ++ ms')⟩ := by
  cases depth with
  | zero => rfl
  | succ depth =>
    have hfields (before after : List (String × Unread)) :
        names.mapM (fieldIn? (before ++ (name, ⟨depth, value⟩) :: after)) =
          names.mapM (fieldIn? (before ++ after)) := by
      refine mapM_option_congr fun field hfield => ?_
      have hne : name ≠ field := fun h => hname (h ▸ hfield)
      simp only [fieldIn?, List.filter_append, List.filter_cons, hne, decide_false,
        Bool.false_eq_true, if_false]
    simp only [slots?_object, members?_append, members?_cons hkey]
    cases members? ⟨depth + 1, .object ms⟩ with
    | none => rfl
    | some before =>
      cases members? ⟨depth + 1, .object ms'⟩ with
      | none => rfl
      | some after => exact hfields before after

/-- A number out of range and a lone surrogate do no harm where nothing is looked for. -/
example : ((unread? "\x7b\"stats\":[1e400,\"\\ud800\"],\"id\":\"q\"\x7d").bind
    (slots? ["id"])).map (fun s => (slot s 0).required string?) = some (some "q") := by
  decide +kernel

/-- A record in which a field is written twice is refused, whatever the field is given as. -/
theorem slots?_of_repeated (hkey : text? key = some name) (hkey' : text? key' = some name)
    (hname : name ∈ names) (depth : Nat) (value value' : Raw)
    (ms₁ ms₂ ms₃ : List (List Char × Raw)) :
    slots? names ⟨depth, .object (ms₁ ++ (key, value) :: (ms₂ ++ (key', value') :: ms₃))⟩ =
      none := by
  cases depth with
  | zero => rfl
  | succ depth =>
    have hfields (before between after : List (String × Unread)) :
        names.mapM (fieldIn? (before ++ (name, ⟨depth, value⟩) ::
          (between ++ (name, ⟨depth, value'⟩) :: after))) = none := by
      refine mapM_option_eq_none hname (fieldIn?_of_two_le ?_)
      simp only [List.filter_append, List.filter_cons, decide_true, if_true, List.length_append,
        List.length_cons]
      omega
    simp only [slots?_object, members?_append, members?_cons hkey, members?_cons hkey']
    cases members? ⟨depth + 1, .object ms₁⟩ with
    | none => rfl
    | some before =>
      cases members? ⟨depth + 1, .object ms₂⟩ with
      | none => rfl
      | some between =>
        cases members? ⟨depth + 1, .object ms₃⟩ with
        | none => rfl
        | some after => exact hfields before between after

end Unread

end QueryDesk.Json
