import Mathlib.Data.List.Perm.Basic
import OrdersBackend.Framework.Runs

/-!
# Jobs in the background

Requests write a store and send messages, and each message asks for the job of a key.  A worker
takes a message, reads what the job is about, works on this copy for a while, and saves it; in
between other requests and jobs write.  Messages are taken in any order, and jobs of one key may
be under way at the same time.  Whether a job that raises is sent again is up to the queue, which
counts how often it has been.

Two rules about every order of the steps: `run_tended` says when what the jobs look after is in
order as soon as nothing waits and nothing is under way; `run_kept` says when a property of the
store stays, which a job ends by saving a copy that it read before the property held.
-/

namespace Framework

variable {σ ω κ α : Type*} {γ : κ → Type*}

/-- A message, with the number of times its job has been tried again. -/
structure Message (κ : Type*) where
  key : κ
  retries : ℕ
  deriving DecidableEq

/-- A job under way, with the copy it has read. -/
structure Underway (κ : Type*) (γ : κ → Type*) where
  message : Message κ
  copy : γ message.key

structure Broker (σ κ : Type*) (γ : κ → Type*) where
  store : σ
  waiting : List (Message κ)
  underway : List (Underway κ γ)

/-- What requests do and send, what a job reads, and what it saves with the things it has made; a
save that raises is `none`.  The queue sends a job that raises again, or gives it up, by the
number of times it has been tried again. -/
structure Jobs (σ ω κ α : Type*) (γ : κ → Type*) where
  request : ω → σ → σ × List κ
  read : (key : κ) → σ → Option (γ key)
  save : (key : κ) → γ key → α → σ → Option σ
  mayRetry : ℕ → Bool

/-- A request; the message at a position is taken; the job at a position saves, or raises. -/
inductive JobStep (ω α : Type*)
  | request (r : ω)
  | start (message : ℕ)
  | save (job : ℕ) (made : α)
  | raise (job : ℕ)

namespace Message

def new (key : κ) : Message κ := ⟨key, 0⟩

/-- The message that asks for another try, where the queue allows it. -/
def again (mayRetry : ℕ → Bool) (m : Message κ) : Option (Message κ) :=
  if mayRetry m.retries then some ⟨m.key, m.retries + 1⟩ else none

lemma isSome_again {mayRetry : ℕ → Bool} {m : Message κ} :
    (m.again mayRetry).isSome ↔ mayRetry m.retries := by
  unfold again
  split <;> simp [*]

lemma key_again {mayRetry : ℕ → Bool} {m m' : Message κ} (h : m.again mayRetry = some m') :
    m'.key = m.key := by
  unfold again at h
  split at h
  · rw [← Option.some.inj h]
  · cases h

end Message

namespace Jobs

variable (jobs : Jobs σ ω κ α γ)

/-- The job at a position ends without a save, and is sent again if it may be. -/
def failed (s : Broker σ κ γ) (i : ℕ) (job : Underway κ γ) : Broker σ κ γ :=
  { s with
    waiting := s.waiting ++ (job.message.again jobs.mayRetry).toList
    underway := s.underway.eraseIdx i }

def exec (step : JobStep ω α) (s : Broker σ κ γ) : Broker σ κ γ :=
  match step with
  | .request r =>
    { s with
      store := (jobs.request r s.store).1
      waiting := s.waiting ++ (jobs.request r s.store).2.map Message.new }
  | .start i =>
    match s.waiting[i]? with
    | none => s
    | some message =>
      match jobs.read message.key s.store with
      | none => { s with waiting := s.waiting.eraseIdx i }
      | some copy =>
        { s with
          waiting := s.waiting.eraseIdx i
          underway := s.underway ++ [⟨message, copy⟩] }
  | .save i made =>
    match s.underway[i]? with
    | none => s
    | some job =>
      match jobs.save job.message.key job.copy made s.store with
      | none => failed jobs s i job
      | some store => { s with store, underway := s.underway.eraseIdx i }
  | .raise i =>
    match s.underway[i]? with
    | none => s
    | some job => failed jobs s i job

/-! ## What the steps of the workers do to the store -/

@[simp] lemma store_start (s : Broker σ κ γ) (i : ℕ) :
    (exec jobs (.start i) s).store = s.store := by
  rcases hmessage : s.waiting[i]? with _ | message
  · simp only [exec, hmessage]
  · rcases hread : jobs.read message.key s.store with _ | copy <;>
      simp only [exec, hmessage, hread]

@[simp] lemma store_raise (s : Broker σ κ γ) (i : ℕ) :
    (exec jobs (.raise i) s).store = s.store := by
  rcases hjob : s.underway[i]? with _ | job <;> simp only [exec, hjob, failed]

/-- A save stores what the job makes of some copy, or nothing. -/
lemma store_save (s : Broker σ κ γ) (i : ℕ) (made : α) :
    (exec jobs (.save i made) s).store = s.store ∨
      ∃ key copy, jobs.save key copy made s.store = some (exec jobs (.save i made) s).store := by
  rcases hjob : s.underway[i]? with _ | job
  · exact .inl (by simp only [exec, hjob])
  · rcases hsave : jobs.save job.message.key job.copy made s.store with _ | store
    · exact .inl (by simp only [exec, hjob, hsave, failed])
    · exact .inr ⟨job.message.key, job.copy, by simp only [exec, hjob, hsave]⟩

lemma perm_of_getElem? {τ : Type*} {l : List τ} {i : ℕ} {x : τ} (h : l[i]? = some x) :
    l.Perm (x :: l.eraseIdx i) := by
  obtain ⟨hlt, rfl⟩ := List.getElem?_eq_some_iff.mp h
  exact (List.getElem_cons_eraseIdx_perm hlt).symm

/-! ## What jobs look after -/

/-- A job of the key is under way, or a message asks for one. -/
def Busy (key : κ) (s : Broker σ κ γ) : Prop :=
  (∃ message ∈ s.waiting, message.key = key) ∨ ∃ job ∈ s.underway, job.message.key = key

/-- The store is in order, or a job of the key will see to it. -/
def Tended (key : κ) (p : σ → Prop) (s : Broker σ κ γ) : Prop := p s.store ∨ Busy key s

/-- A step leaves no disorder behind: a request keeps the order or sends for the job, a job that
finds nothing to do finds the store in order, a save brings the store in order or keeps it so,
and a job that raises is sent again. -/
def LeavesOrder (key : κ) (p : σ → Prop) (s : Broker σ κ γ) : JobStep ω α → Prop
  | .request r => p s.store → p (jobs.request r s.store).1 ∨ key ∈ (jobs.request r s.store).2
  | .start i => ∀ message, s.waiting[i]? = some message → message.key = key →
      jobs.read message.key s.store = none → p s.store
  | .save i made => ∀ job, s.underway[i]? = some job →
      (∀ store, jobs.save job.message.key job.copy made s.store = some store →
        (job.message.key = key ∨ p s.store → p store)) ∧
      (jobs.save job.message.key job.copy made s.store = none → job.message.key = key →
        p s.store ∨ jobs.mayRetry job.message.retries)
  | .raise i => ∀ job, s.underway[i]? = some job → job.message.key = key →
      p s.store ∨ jobs.mayRetry job.message.retries

variable {jobs} {key : κ} {p : σ → Prop} {s : Broker σ κ γ}

/-- A job that ends without a save leaves the others. -/
lemma tended_failed {i : ℕ} {job : Underway κ γ} (hjob : s.underway[i]? = some job)
    (h : Tended key p s)
    (hlast : job.message.key = key → p s.store ∨ jobs.mayRetry job.message.retries) :
    Tended key p (failed jobs s i job) := by
  rcases h with horder | ⟨message, hmem, hkey⟩ | ⟨job', hmem, hkey⟩
  · exact .inl horder
  · exact .inr (.inl ⟨message, List.mem_append_left _ hmem, hkey⟩)
  · rcases List.mem_cons.mp ((perm_of_getElem? hjob).mem_iff.mp hmem) with rfl | hmem
    · rcases hlast hkey with horder | hagain
      · exact .inl horder
      · obtain ⟨message, hmessage⟩ := Option.isSome_iff_exists.mp (Message.isSome_again.mpr hagain)
        refine .inr (.inl ⟨message, List.mem_append_right _ ?_, ?_⟩)
        · rw [hmessage]
          exact List.mem_singleton_self message
        · rw [Message.key_again hmessage, hkey]
    · exact .inr (.inr ⟨job', hmem, hkey⟩)

/-- A step that leaves no disorder behind keeps the key tended. -/
lemma tended_exec {step : JobStep ω α} (h : Tended key p s)
    (hstep : LeavesOrder jobs key p s step) : Tended key p (exec jobs step s) := by
  rcases step with r | i | ⟨i, made⟩ | i
  · -- a request: what it leaves in disorder it has sent for
    rcases h with horder | ⟨message, hmem, hkey⟩ | hunderway
    · rcases hstep horder with hkept | hsent
      · exact .inl hkept
      · refine .inr (.inl ⟨Message.new key, List.mem_append_right _ ?_, rfl⟩)
        exact List.mem_map_of_mem hsent
    · exact .inr (.inl ⟨message, List.mem_append_left _ hmem, hkey⟩)
    · exact .inr (.inr hunderway)
  · -- a start: a message of the key becomes a job of it
    rcases hmessage : s.waiting[i]? with _ | message
    · simpa only [exec, hmessage] using h
    · have hperm := perm_of_getElem? hmessage
      rcases hread : jobs.read message.key s.store with _ | copy
      · simp only [exec, hmessage, hread]
        rcases h with horder | ⟨message', hmem, hkey⟩ | hunderway
        · exact .inl horder
        · rcases List.mem_cons.mp (hperm.mem_iff.mp hmem) with rfl | hmem
          · exact .inl (hstep _ hmessage hkey hread)
          · exact .inr (.inl ⟨message', hmem, hkey⟩)
        · exact .inr (.inr hunderway)
      · simp only [exec, hmessage, hread]
        rcases h with horder | ⟨message', hmem, hkey⟩ | ⟨job, hmem, hkey⟩
        · exact .inl horder
        · rcases List.mem_cons.mp (hperm.mem_iff.mp hmem) with rfl | hmem
          · exact .inr (.inr ⟨_, List.mem_append_right _ (List.mem_singleton_self _), hkey⟩)
          · exact .inr (.inl ⟨message', hmem, hkey⟩)
        · exact .inr (.inr ⟨job, List.mem_append_left _ hmem, hkey⟩)
  · -- a save restores the order of its row
    rcases hjob : s.underway[i]? with _ | job
    · simpa only [exec, hjob] using h
    · obtain ⟨hsaved, hfailed⟩ := hstep job hjob
      rcases hsave : jobs.save job.message.key job.copy made s.store with _ | store
      · simp only [exec, hjob, hsave]
        exact tended_failed hjob h (hfailed hsave)
      · simp only [exec, hjob, hsave]
        rcases h with horder | hwaiting | ⟨job', hmem, hkey⟩
        · exact .inl (hsaved store hsave (.inr horder))
        · exact .inr (.inl hwaiting)
        · rcases List.mem_cons.mp ((perm_of_getElem? hjob).mem_iff.mp hmem) with rfl | hmem
          · exact .inl (hsaved store hsave (.inl hkey))
          · exact .inr (.inr ⟨job', hmem, hkey⟩)
  · -- a job that raises is tried again
    rcases hjob : s.underway[i]? with _ | job
    · simpa only [exec, hjob] using h
    · simp only [exec, hjob]
      exact tended_failed hjob h (hstep job hjob)

/-- **When nothing is left to do, the store is in order.** -/
theorem run_tended {ok : Broker σ κ γ → JobStep ω α → Prop}
    (hok : ∀ s step, ok s step → LeavesOrder jobs key p s step) {steps : List (JobStep ω α)}
    (h : Tended key p s) (hsteps : Guarded (exec jobs) ok s steps)
    (hidle : ¬ Busy key (run (exec jobs) s steps)) : p (run (exec jobs) s steps).store :=
  (run_invariant (fun s step hs hstep => tended_exec hs (hok s step hstep)) hsteps h).resolve_right
    hidle

/-! ## What only stale copies take away -/

/-- A step that takes nothing away: a request is one of those that are allowed, and no stale copy
is saved. -/
def Leaves (jobs : Jobs σ ω κ α γ) (ok : ω → σ → Prop) (stale : (key : κ) → γ key → Prop)
    (s : Broker σ κ γ) : JobStep ω α → Prop
  | .request r => ok r s.store
  | .save i made => ∀ job, s.underway[i]? = some job →
      (jobs.save job.message.key job.copy made s.store).isSome → ¬ stale job.message.key job.copy
  | .start _ | .raise _ => True

/-- A property of the store that the allowed requests keep, and of the saves exactly those of
copies that are not stale; jobs that start read no stale copies. -/
structure Keeps (jobs : Jobs σ ω κ α γ) (ok : ω → σ → Prop) (stale : (key : κ) → γ key → Prop)
    (kept : σ → Prop) : Prop where
  request : ∀ r store, kept store → (ok r store ↔ kept (jobs.request r store).1)
  read : ∀ key store copy, kept store → jobs.read key store = some copy → ¬ stale key copy
  save : ∀ key copy made store store', jobs.save key copy made store = some store' →
    kept store → (¬ stale key copy ↔ kept store')

variable {ok : ω → σ → Prop} {stale : (key : κ) → γ key → Prop} {kept : σ → Prop}

lemma leaves_iff (h : Keeps jobs ok stale kept) (hkept : kept s.store) (step : JobStep ω α) :
    Leaves jobs ok stale s step ↔ kept (exec jobs step s).store := by
  rcases step with r | i | ⟨i, made⟩ | i
  · exact h.request r s.store hkept
  · rw [store_start]
    exact iff_of_true trivial hkept
  · rcases hjob : s.underway[i]? with _ | job
    · simpa only [Leaves, exec, hjob, reduceCtorEq, IsEmpty.forall_iff, implies_true,
        true_iff] using hkept
    · simp only [Leaves, hjob, Option.some.injEq, forall_eq']
      rcases hsave : jobs.save job.message.key job.copy made s.store with _ | store
      · simpa [exec, hjob, hsave, failed] using hkept
      · simp only [exec, hjob, hsave, Option.isSome_some, forall_const]
        exact h.save _ _ made s.store store hsave hkept
  · rw [store_raise]
    exact iff_of_true trivial hkept

/-- **A property stays** exactly as long as the requests are allowed and no stale copy is saved. -/
theorem run_kept (h : Keeps jobs ok stale kept) (hkept : kept s.store)
    (steps : List (JobStep ω α)) :
    Guarded (exec jobs) (Leaves jobs ok stale) s steps ↔
      ∀ earlier later, steps = earlier ++ later → kept (run (exec jobs) s earlier).store :=
  guarded_iff_invariant (I := fun s : Broker σ κ γ => kept s.store)
    (fun _ step hs => leaves_iff h hs step) hkept steps

/-- No stale copy is under way. -/
def Fresh (stale : (key : κ) → γ key → Prop) (s : Broker σ κ γ) : Prop :=
  ∀ job ∈ s.underway, ¬ stale job.message.key job.copy

/-- The requests of a run are allowed. -/
def RequestsOk (ok : ω → σ → Prop) (s : Broker σ κ γ) : JobStep ω α → Prop
  | .request r => ok r s.store
  | .start _ | .save _ _ | .raise _ => True

/-- Requests that are all allowed. -/
lemma guarded_requestsOk (hok : ∀ r store, ok r store) (s : Broker σ κ γ)
    (steps : List (JobStep ω α)) : Guarded (exec jobs) (RequestsOk ok) s steps := by
  refine guarded_iff_steps.mpr fun earlier step later _ => ?_
  rcases step with r | _ | _ | _
  · exact hok r _
  · exact trivial
  · exact trivial
  · exact trivial

/-- Where no stale copy is under way none comes up. -/
lemma kept_fresh_exec (h : Keeps jobs ok stale kept) (hkept : kept s.store)
    (hfresh : Fresh stale s) {step : JobStep ω α} (hok : RequestsOk ok s step) :
    kept (exec jobs step s).store ∧ Fresh stale (exec jobs step s) := by
  have herase : ∀ i, ∀ job ∈ s.underway.eraseIdx i, ¬ stale job.message.key job.copy :=
    fun i job hmem => hfresh job (List.mem_of_mem_eraseIdx hmem)
  refine ⟨(leaves_iff h hkept step).mp ?_, ?_⟩
  · -- what is saved is not stale, so every step keeps the property
    rcases step with r | i | ⟨i, made⟩ | i
    · exact hok
    · exact trivial
    · exact fun job hjob _ => hfresh job (List.mem_of_getElem? hjob)
    · exact trivial
  · rcases step with r | i | ⟨i, made⟩ | i
    · exact hfresh
    · rcases hmessage : s.waiting[i]? with _ | message
      · simpa only [exec, hmessage] using hfresh
      · rcases hread : jobs.read message.key s.store with _ | copy
        · simp only [exec, hmessage, hread]
          exact hfresh
        · simp only [exec, hmessage, hread]
          -- a copy that is read now is not stale
          intro job hmem
          rcases List.mem_append.mp hmem with hmem | hmem
          · exact hfresh job hmem
          · rw [List.mem_singleton.mp hmem]
            exact h.read message.key s.store copy hkept hread
    · rcases hjob : s.underway[i]? with _ | job
      · simpa only [exec, hjob] using hfresh
      · rcases hsave : jobs.save job.message.key job.copy made s.store with _ | store
        · simp only [exec, hjob, hsave]
          exact herase i
        · simp only [exec, hjob, hsave]
          exact herase i
    · rcases hjob : s.underway[i]? with _ | job
      · simpa only [exec, hjob] using hfresh
      · simp only [exec, hjob]
        exact herase i

/-- **Where no stale copy is under way, only requests take the property away.** -/
theorem run_kept_of_fresh (h : Keeps jobs ok stale kept) (hkept : kept s.store)
    (hfresh : Fresh stale s) {steps : List (JobStep ω α)}
    (hsteps : Guarded (exec jobs) (RequestsOk ok) s steps) :
    kept (run (exec jobs) s steps).store :=
  (run_invariant (I := fun s : Broker σ κ γ => kept s.store ∧ Fresh stale s)
    (fun _ _ hs hok => kept_fresh_exec h hs.1 hs.2 hok) hsteps ⟨hkept, hfresh⟩).1

end Jobs

end Framework
