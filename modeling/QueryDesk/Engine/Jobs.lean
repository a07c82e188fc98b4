/-!
# Tables of jobs

The jobs that run on a server, by the task they run for.  A task has at most one entry; an entry
changes only by a call that names its task.
-/

namespace QueryDesk

abbrev Jobs (Handle : Type) := List (String × Handle)

namespace Jobs

variable {Handle : Type}

def get? (task : String) : Jobs Handle → Option Handle
  | [] => none
  | (key, handle) :: rest => if key = task then some handle else get? task rest

def erase (task : String) : Jobs Handle → Jobs Handle
  | [] => []
  | (key, handle) :: rest =>
    if key = task then erase task rest else (key, handle) :: erase task rest

/-- The table with the job of a task. -/
def insert (task : String) (handle : Handle) (jobs : Jobs Handle) : Jobs Handle :=
  (task, handle) :: erase task jobs

/-! ## Look-up after a change -/

theorem get?_erase (task other : String) (jobs : Jobs Handle) :
    get? other (erase task jobs) = if other = task then none else get? other jobs := by
  induction jobs with
  | nil => simp [erase, get?]
  | cons entry rest ih =>
    obtain ⟨key, handle⟩ := entry
    by_cases hk : key = task
    · subst hk
      by_cases h : key = other
      · subst h
        simp [erase, ih]
      · simp [erase, get?, ih, h, Ne.symm h]
    · by_cases h : key = other
      · subst h
        simp [erase, get?, hk]
      · simp [erase, get?, ih, hk, h]

theorem get?_insert (task other : String) (handle : Handle) (jobs : Jobs Handle) :
    get? other (insert task handle jobs) =
      if other = task then some handle else get? other jobs := by
  by_cases h : task = other
  · subst h
    simp [insert, get?]
  · simp [insert, get?, h, Ne.symm h, get?_erase]

end Jobs

end QueryDesk
