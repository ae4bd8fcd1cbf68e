import CodeReview.Review.Pool

/-!
Runs of a pool. Each turn leaves one turn fewer to be taken, and as long as one is left some worker
can take it: so every run comes to an end, whatever the order of the turns, and at its end each
task was taken once and all its questions were asked.
-/

namespace CodeReview.Pool

variable {Q A R : Type} {reply : Q → A} {workers : Nat} {p q : Pool Q A R}

theorem Turns.preserves {P : Pool Q A R → Prop} (t : Turns reply workers p q)
    (hstep : ∀ {a b : Pool Q A R}, Turn reply workers a b → P a → P b) (hp : P p) : P q := by
  induction t with
  | refl => exact hp
  | step _ turn ih => exact hstep turn ih

theorem results_of_turns (t : Turns reply workers p q) : q.results reply = p.results reply :=
  t.preserves (P := fun a => a.results reply = p.results reply)
    (fun turn h => (results_of_turn turn).trans h) rfl

theorem questions_of_turns (t : Turns reply workers p q) :
    (q.questions reply).Perm (p.questions reply) :=
  t.preserves (P := fun a => (a.questions reply).Perm (p.questions reply))
    (fun turn h => (questions_of_turn turn).trans h) (.refl _)

theorem length_of_turns (t : Turns reply workers p q) : q.tasks.length = p.tasks.length := by
  have h := congrArg List.length (results_of_turns t)
  rwa [results, results, List.length_map, List.length_map] at h

theorem busy_of_turn (t : Turn reply workers p q) (h : p.busy ≤ workers) : q.busy ≤ workers := by
  cases t with
  | take before after d asked taken free =>
    simp only [busy, List.countP_append, List.countP_cons, Task.isWorking] at free ⊢
    simp only [Bool.false_eq_true, if_false, if_true] at free ⊢
    omega
  | ask before after d next =>
    simp only [busy, List.countP_append, List.countP_cons, Task.isWorking] at h ⊢
    exact h
  | finish before after r =>
    simp only [busy, List.countP_append, List.countP_cons, Task.isWorking] at h ⊢
    simp only [Bool.false_eq_true, if_false, if_true] at h ⊢
    omega

def Task.turnsLeft (reply : Q → A) : Task Q A R → Nat
  | .waiting d => (d.questions reply).length + 2
  | .working d => (d.questions reply).length + 1
  | .finished _ => 0

def Task.turnsLeftAll (reply : Q → A) : List (Task Q A R) → Nat
  | [] => 0
  | t :: ts => t.turnsLeft reply + turnsLeftAll reply ts

theorem Task.turnsLeftAll_append (before after : List (Task Q A R)) :
    turnsLeftAll reply (before ++ after) =
      turnsLeftAll reply before + turnsLeftAll reply after := by
  induction before with
  | nil => simp [turnsLeftAll]
  | cons t ts ih =>
    simp only [List.cons_append, turnsLeftAll, ih]
    omega

def turnsLeft (reply : Q → A) (p : Pool Q A R) : Nat :=
  Task.turnsLeftAll reply p.tasks

theorem turnsLeft_of_turn (t : Turn reply workers p q) :
    q.turnsLeft reply + 1 = p.turnsLeft reply := by
  cases t with
  | take before after d =>
    simp only [turnsLeft, Task.turnsLeftAll_append, Task.turnsLeftAll, Task.turnsLeft]
    omega
  | ask before after d next =>
    simp only [turnsLeft, Task.turnsLeftAll_append, Task.turnsLeftAll, Task.turnsLeft,
      Dialogue.questions, List.length_cons]
    omega
  | finish before after r =>
    simp only [turnsLeft, Task.turnsLeftAll_append, Task.turnsLeftAll, Task.turnsLeft,
      Dialogue.questions, List.length_nil]
    omega

theorem wellFounded_turn (reply : Q → A) (workers : Nat) :
    WellFounded fun q p : Pool Q A R => Turn reply workers p q := by
  refine Subrelation.wf (r := (measure (turnsLeft reply)).rel) ?_ (measure (turnsLeft reply)).wf
  intro q p t
  have h := turnsLeft_of_turn t
  exact Nat.lt_of_lt_of_eq (Nat.lt_succ_self _) h

theorem Task.turnsLeft_eq_zero_iff (reply : Q → A) {t : Task Q A R} :
    t.turnsLeft reply = 0 ↔ ∃ r, t = .finished r := by
  cases t <;> simp [Task.turnsLeft]

theorem turnsLeft_eq_zero_iff :
    p.turnsLeft reply = 0 ↔ ∀ t ∈ p.tasks, ∃ r, t = .finished r := by
  obtain ⟨tasks, asked, taken⟩ := p
  simp only [turnsLeft]
  induction tasks with
  | nil => simp [Task.turnsLeftAll]
  | cons t ts ih =>
    rw [Task.turnsLeftAll, List.forall_mem_cons, ← ih,
      ← Task.turnsLeft_eq_zero_iff reply, Nat.add_eq_zero_iff]

theorem exists_turn_of_working {before after : List (Task Q A R)} {d : Dialogue Q A R}
    {asked : List Q} {taken : List Nat} :
    ∃ q, Turn reply workers ⟨before ++ .working d :: after, asked, taken⟩ q := by
  cases d with
  | done r => exact ⟨_, .finish before after r asked taken⟩
  | ask d next => exact ⟨_, .ask before after d next asked taken⟩

theorem exists_turn (hworkers : 0 < workers) (h : p.turnsLeft reply ≠ 0) :
    ∃ q, Turn reply workers p q := by
  obtain ⟨tasks, asked, taken⟩ := p
  by_cases hbusy : tasks.countP Task.isWorking = 0
  · -- all workers are free, and what is not finished waits for one
    refine Classical.byContradiction fun hstuck => h (turnsLeft_eq_zero_iff.2 fun t ht => ?_)
    cases t with
    | finished r => exact ⟨r, rfl⟩
    | working d => exact absurd rfl (List.countP_eq_zero.1 hbusy _ ht)
    | waiting d =>
      obtain ⟨before, after, rfl⟩ := List.append_of_mem ht
      exact absurd ⟨_, .take before after d asked taken (by omega)⟩ hstuck
  · obtain ⟨t, ht, hworking⟩ := List.countP_pos_iff.1 (Nat.pos_of_ne_zero hbusy)
    obtain ⟨before, after, rfl⟩ := List.append_of_mem ht
    cases t with
    | working d => exact exists_turn_of_working
    | waiting d => simp [Task.isWorking] at hworking
    | finished r => simp [Task.isWorking] at hworking

theorem exists_turn_iff (hworkers : 0 < workers) :
    (∃ q, Turn reply workers p q) ↔ p.turnsLeft reply ≠ 0 := by
  constructor
  · rintro ⟨q, t⟩
    have h := turnsLeft_of_turn t
    omega
  · exact exists_turn hworkers

theorem Turns.head {r : Pool Q A R} (turn : Turn reply workers p q)
    (turns : Turns reply workers q r) : Turns reply workers p r := by
  induction turns with
  | refl => exact .step (.refl p) turn
  | step _ last ih => exact .step ih last

theorem exists_end (reply : Q → A) (hworkers : 0 < workers) (p : Pool Q A R) :
    ∃ q, Turns reply workers p q ∧ q.turnsLeft reply = 0 := by
  induction p using (wellFounded_turn reply workers).induction with
  | h p ih =>
    by_cases h : p.turnsLeft reply = 0
    · exact ⟨p, .refl p, h⟩
    · obtain ⟨q, turn⟩ := exists_turn hworkers h
      obtain ⟨r, turns, hr⟩ := ih q turn
      exact ⟨r, .head turn turns, hr⟩

def started : (n : Nat) → List (Task Q A R) → List Nat
  | _, [] => []
  | n, .waiting _ :: ts => started (n + 1) ts
  | n, _ :: ts => n :: started (n + 1) ts

theorem started_append (n : Nat) (before after : List (Task Q A R)) :
    started n (before ++ after) = started n before ++ started (n + before.length) after := by
  induction before generalizing n with
  | nil => simp [started]
  | cons t ts ih =>
    have hplace : n + 1 + ts.length = n + (ts.length + 1) := by omega
    cases t <;> simp [started, ih, hplace]

theorem started_waiting (n : Nat) (ds : List (Dialogue Q A R)) :
    started n (ds.map Task.waiting) = [] := by
  induction ds generalizing n with
  | nil => rfl
  | cons d ds ih => exact ih (n + 1)

theorem started_finished {ts : List (Task Q A R)} (h : ∀ t ∈ ts, ∃ r, t = .finished r) (n : Nat) :
    started n ts = List.range' n ts.length := by
  induction ts generalizing n with
  | nil => rfl
  | cons t ts ih =>
    obtain ⟨⟨r, rfl⟩, hts⟩ := List.forall_mem_cons.1 h
    rw [started, ih hts, List.length_cons, List.range'_succ]
    simp

theorem taken_of_turn (t : Turn reply workers p q) (h : p.taken.Perm (started 0 p.tasks)) :
    q.taken.Perm (started 0 q.tasks) := by
  cases t with
  | take before after d asked taken =>
    simp only [started_append, started, Nat.zero_add] at h ⊢
    have hfront := List.perm_append_singleton before.length taken
    exact (hfront.trans (h.cons before.length)).trans List.perm_middle.symm
  | ask before after d next => simpa only [started_append, started] using h
  | finish before after r => simpa only [started_append, started] using h

theorem results?_eq_some_iff (reply : Q → A) {rs : List R} :
    p.results? = some rs ↔ p.turnsLeft reply = 0 ∧ rs = p.results reply := by
  obtain ⟨tasks, asked, taken⟩ := p
  simp only [results?, results, turnsLeft]
  induction tasks generalizing rs with
  | nil => simp [Task.turnsLeftAll, eq_comm]
  | cons t ts ih =>
    cases t with
    | waiting d => simp [Task.result?, Task.turnsLeftAll, Task.turnsLeft]
    | working d => simp [Task.result?, Task.turnsLeftAll, Task.turnsLeft]
    | finished r =>
      simp only [List.mapM_cons, Task.result?, Option.pure_def, Option.bind_eq_bind,
        Option.bind_some, Option.bind_eq_some_iff, ih, List.map_cons, Task.turnsLeftAll,
        Task.turnsLeft, Task.result, Nat.zero_add]
      constructor
      · rintro ⟨_, ⟨h, rfl⟩, hrs⟩
        exact ⟨h, (Option.some.inj hrs).symm⟩
      · rintro ⟨h, rfl⟩
        exact ⟨_, ⟨h, rfl⟩, rfl⟩

theorem questions_of_end (h : p.turnsLeft reply = 0) : p.questions reply = p.asked := by
  have hnone : p.tasks.flatMap (Task.questions reply) = [] := by
    refine List.flatMap_eq_nil_iff.2 fun t ht => ?_
    obtain ⟨r, rfl⟩ := turnsLeft_eq_zero_iff.1 h t ht
    rfl
  rw [questions, hnone, List.append_nil]

/-- At the end of a run of some dialogues there is the result of each, in their order, each was
taken once, and their questions were asked, each as often as there are askers of it. -/
theorem end_of_turns {ds : List (Dialogue Q A R)} {rs : List R}
    (t : Turns reply workers (ofDialogues ds) p) (h : p.results? = some rs) :
    rs = ds.map (Dialogue.result reply) ∧ p.taken.Perm (List.range ds.length) ∧
    p.asked.Perm (ds.flatMap (Dialogue.questions reply)) := by
  obtain ⟨hend, rfl⟩ := (results?_eq_some_iff reply).1 h
  refine ⟨?_, ?_, ?_⟩
  · rw [results_of_turns t, results, ofDialogues, List.map_map]
    rfl
  · have htaken : p.taken.Perm (started 0 p.tasks) :=
      t.preserves (P := fun a => a.taken.Perm (started 0 a.tasks)) taken_of_turn
        (by rw [ofDialogues, started_waiting])
    rw [started_finished (turnsLeft_eq_zero_iff.1 hend), length_of_turns t, ofDialogues,
      List.length_map, ← List.range_eq_range'] at htaken
    exact htaken
  · have hasked := questions_of_turns t
    rw [questions_of_end hend, questions, ofDialogues, List.flatMap_map] at hasked
    exact hasked

end CodeReview.Pool
