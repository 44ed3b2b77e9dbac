import CodeDigest.Pack.File
import CodeDigest.Pack.Pool
import Mathlib.Data.List.Sort

/-! Schedules of a pool. However starts and ends of jobs interleave and whichever of them fail, every job
ends once, and its result stands at its place. -/
namespace CodeDigest.Pool
variable {α β : Type} {workers : Nat} {work failed : α → β} {jobs : List α} {p q : Pool α β}
  {events : List Event} {e : Event}

theorem capacity_pos (workers : Nat) : 0 < capacity workers := Nat.le_max_right workers 1

theorem isFinished_iff : p.isFinished = true ↔ p.waiting = [] ∧ p.running = [] := by
  simp [isFinished]

inductive Runs (workers : Nat) (work failed : α → β) (p : Pool α β) :
    List Event → Pool α β → Prop where
  | nil : Runs workers work failed p [] p
  | snoc {events : List Event} {q q' : Pool α β} {e : Event}
      (h : Runs workers work failed p events q) (step : Step workers work failed q e q') :
      Runs workers work failed p (events ++ [e]) q'

/-! A step starts no job without room, and is one step less to go. -/

theorem Step.running_le (h : Step workers work failed p e q)
    (hp : p.running.length ≤ capacity workers) : q.running.length ≤ capacity workers := by
  cases h with
  | begin job waiting running ended room =>
    rw [List.length_append, List.length_singleton]
    exact room
  | finish | fail =>
    simp only [List.length_append, List.length_cons] at hp ⊢
    omega

theorem Step.stepsLeft_eq (h : Step workers work failed p e q) : p.stepsLeft = q.stepsLeft + 1 := by
  cases h <;> simp only [stepsLeft, List.length_append, List.length_cons, List.length_nil] <;> omega

theorem Runs.running_le (h : Runs workers work failed (start jobs) events p) :
    p.running.length ≤ capacity workers := by
  induction h with
  | nil => exact Nat.zero_le _
  | snoc _ step ih => exact step.running_le ih

theorem Runs.length_add_stepsLeft (h : Runs workers work failed p events q) :
    events.length + q.stepsLeft = p.stepsLeft := by
  induction h with
  | nil => exact Nat.zero_add _
  | snoc _ step ih =>
    have hstep := step.stepsLeft_eq
    rw [List.length_append, List.length_singleton]
    omega

theorem stepsLeft_start (jobs : List α) :
    (start jobs : Pool α β).stepsLeft = 2 * jobs.length := by
  simp [stepsLeft, start]

/-- The pool's own way to go on is one of the possible steps, in which no job fails. -/
theorem step_next (workers : Nat) (work failed : α → β) (h : p.isFinished = false) :
    ∃ e, Step workers work failed p e (next workers work p) ∧ ∀ i, e ≠ .fail i := by
  rcases p with ⟨_ | ⟨job, waiting⟩, _ | ⟨⟨i, a⟩, running⟩, ended⟩
  · simp [isFinished] at h
  · exact ⟨.finish i, .finish [] [] running (i, a) ended, by simp⟩
  · exact ⟨.begin job.1, .begin job waiting [] ended (capacity_pos workers), by simp⟩
  · by_cases room : ((i, a) :: running).length < capacity workers
    · simp only [next, room, ↓reduceIte]
      exact ⟨.begin job.1, .begin job waiting _ ended room, by simp⟩
    · simp only [next, room, ↓reduceIte]
      exact ⟨.finish i, .finish (job :: waiting) [] running (i, a) ended, by simp⟩

/-- The books of a pool: every job waits, runs or is done, and is marked there as it ended. -/
structure Accounts (work failed : α → β) (jobs : List α) (events : List Event) (p : Pool α β)
    (done : List ((Nat × α) × Bool)) : Prop where
  perm : (p.waiting ++ p.running ++ done.map (·.1)).Perm (jobs.mapIdx fun i a => (i, a))
  ended : p.ended = done.map fun d => (d.1.1, if d.2 then work d.1.2 else failed d.1.2)
  fails : ∀ i, .fail i ∈ events ↔ ∃ a, ((i, a), false) ∈ done

theorem accounts_start (work failed : α → β) (jobs : List α) :
    Accounts work failed jobs [] (start jobs) [] := by
  refine ⟨?_, rfl, by simp⟩
  simp [start]

private theorem perm_end {waiting before after done : List (Nat × α)} (job : Nat × α) :
    (waiting ++ (before ++ after) ++ job :: done).Perm
      (waiting ++ (before ++ job :: after) ++ done) := by
  have h : (before ++ after ++ job :: done).Perm (before ++ job :: after ++ done) :=
    List.perm_middle.trans (List.perm_middle.symm.append_right done)
  simpa only [List.append_assoc] using h.append_left waiting

theorem Accounts.step {done : List ((Nat × α) × Bool)} (h : Accounts work failed jobs events p done)
    (step : Step workers work failed p e q) :
    ∃ done', Accounts work failed jobs (events ++ [e]) q done' := by
  cases step with
  | begin job waiting running ended _ =>
    refine ⟨done, ?_, h.ended, ?_⟩
    · refine List.Perm.trans ?_ h.perm
      have hmove : (waiting ++ (running ++ [job])).Perm (job :: waiting ++ running) := by
        rw [← List.append_assoc]
        exact List.perm_append_comm
      exact hmove.append_right _
    · simpa using h.fails
  | finish waiting before after job ended =>
    refine ⟨(job, true) :: done, (perm_end job).trans h.perm, ?_, ?_⟩
    · have hended := h.ended
      simp only at hended
      simp [hended]
    · simpa using h.fails
  | fail waiting before after job ended =>
    refine ⟨(job, false) :: done, (perm_end job).trans h.perm, ?_, ?_⟩
    · have hended := h.ended
      simp only at hended
      simp [hended]
    · intro i
      have hfails := h.fails i
      obtain ⟨place, a⟩ := job
      simp only [List.mem_append, List.mem_cons, List.not_mem_nil, or_false, hfails,
        Event.fail.injEq, Prod.mk.injEq, and_true]
      constructor
      · rintro (⟨b, hb⟩ | rfl)
        · exact ⟨b, .inr hb⟩
        · exact ⟨a, .inl ⟨rfl, rfl⟩⟩
      · rintro ⟨b, ⟨rfl, -⟩ | hb⟩
        · exact .inr rfl
        · exact .inl ⟨b, hb⟩

theorem Runs.accounts (h : Runs workers work failed (start jobs) events p) :
    ∃ done, Accounts work failed jobs events p done := by
  induction h with
  | nil => exact ⟨[], accounts_start work failed jobs⟩
  | snoc _ step ih =>
    obtain ⟨done, hdone⟩ := ih
    exact hdone.step step

private theorem places_ascend {γ : Type} (jobs : List α) (f : Nat → α → γ) :
    (jobs.mapIdx fun i a => (i, f i a)).Pairwise fun a b => a.1 < b.1 := by
  rw [List.pairwise_iff_getElem]
  intro i j _ _ hij
  simpa using hij

/-- Results that ended in any order stand in the order of the jobs. -/
theorem results_eq_mapIdx {f : Nat → α → β}
    (h : p.ended.Perm (jobs.mapIdx fun i a => (i, f i a))) : p.results = jobs.mapIdx f := by
  have hperm := (List.mergeSort_perm p.ended fun a b => a.1 ≤ b.1).trans h
  have hsorted : (p.ended.mergeSort fun a b => a.1 ≤ b.1).Pairwise fun a b => a.1 ≤ b.1 := by
    refine (List.pairwise_mergeSort ?_ ?_ p.ended).imp of_decide_eq_true
    · intro a b c
      simpa using Nat.le_trans
    · intro a b
      simpa using Nat.le_total a.1 b.1
  have hplaces : (jobs.mapIdx fun i a => (i, f i a)).Pairwise fun a b => a.1 ≤ b.1 :=
    (places_ascend jobs f).imp Nat.le_of_lt
  have heq : (p.ended.mergeSort fun a b => a.1 ≤ b.1) = jobs.mapIdx fun i a => (i, f i a) := by
    refine hperm.eq_of_pairwise ?_ hsorted hplaces
    intro a b ha hb hab hba
    obtain ⟨i, hi, rfl⟩ := List.mem_mapIdx.mp (hperm.mem_iff.mp ha)
    obtain ⟨j, hj, rfl⟩ := List.mem_mapIdx.mp hb
    obtain rfl : i = j := Nat.le_antisymm hab hba
    rfl
  rw [results, heq]
  apply List.ext_getElem <;> simp

theorem Accounts.ended_perm {done : List ((Nat × α) × Bool)}
    (h : Accounts work failed jobs events p done) (hf : p.isFinished = true) :
    p.ended.Perm
      (jobs.mapIdx fun i a => (i, if .fail i ∈ events then failed a else work a)) := by
  obtain ⟨hwaiting, hrunning⟩ := isFinished_iff.mp hf
  have hperm : (done.map (·.1)).Perm (jobs.mapIdx fun i a => (i, a)) := by
    simpa [hwaiting, hrunning] using h.perm
  -- Each place is done once, so it does not count as both failed and finished.
  have hmark : ∀ d ∈ done, (.fail d.1.1 ∈ events ↔ d.2 = false) := by
    have hnodup : (done.map (·.1.1)).Nodup := by
      have hplaces := hperm.map Prod.fst
      rw [List.map_map] at hplaces
      apply hplaces.nodup_iff.mpr
      exact List.pairwise_map.mpr ((places_ascend jobs fun _ a => a).imp Nat.ne_of_lt)
    rintro ⟨⟨i, a⟩, ok⟩ hd
    rw [h.fails]
    constructor
    · rintro ⟨b, hb⟩
      have := List.inj_on_of_nodup_map hnodup hb hd rfl
      simp_all
    · rintro rfl
      exact ⟨a, hd⟩
  have hended : p.ended = (done.map (·.1)).map fun j =>
      (j.1, if .fail j.1 ∈ events then failed j.2 else work j.2) := by
    rw [h.ended, List.map_map]
    apply List.map_congr_left
    intro d hd
    cases hok : d.2 <;> simp [hmark d hd, hok]
  rw [hended]
  refine (hperm.map _).trans (List.Perm.of_eq ?_)
  apply List.ext_getElem <;> simp

theorem isFinished_iff_stepsLeft : p.isFinished = true ↔ p.stepsLeft = 0 := by
  rw [isFinished_iff, stepsLeft, ← List.length_eq_zero_iff, ← List.length_eq_zero_iff]
  omega

/-- Going on in the pool's own way continues a schedule, by as many steps as there are left to take. -/
theorem Runs.exists_steps (h : Runs workers work failed p events q)
    (hf : ∀ i, .fail i ∉ events) (n : Nat) (hn : n ≤ q.stepsLeft) :
    ∃ events', Runs workers work failed p events' (steps workers work n q) ∧
      (∀ i, .fail i ∉ events') ∧ events'.length = events.length + n := by
  induction n generalizing q events with
  | zero => exact ⟨events, h, hf, rfl⟩
  | succ n ih =>
    have hunfinished : q.isFinished = false := by
      rw [Bool.eq_false_iff, ne_eq, isFinished_iff_stepsLeft]
      omega
    obtain ⟨e, hstep, he⟩ := step_next workers work failed hunfinished
    have hleft := hstep.stepsLeft_eq
    have hfails : ∀ i, .fail i ∉ events ++ [e] := by
      intro i hi
      rcases List.mem_append.mp hi with hi | hi
      · exact hf i hi
      · exact he i (List.mem_singleton.mp hi).symm
    obtain ⟨events', hruns, hf', hlength⟩ := ih (h.snoc hstep) hfails (by omega)
    refine ⟨events', hruns, hf', ?_⟩
    rw [hlength, List.length_append, List.length_singleton]
    omega

/-- The pool's own schedule settles every job, whatever the number of workers. -/
theorem run_eq_map (workers : Nat) (work : α → β) (jobs : List α) :
    run workers work jobs = jobs.map work := by
  have hstart : Runs workers work work (start jobs) [] (start jobs) := .nil
  obtain ⟨events, hruns, hf, hlength⟩ := hstart.exists_steps (by simp) _ (Nat.le_refl _)
  have hfinished := hruns.length_add_stepsLeft
  rw [hlength, List.length_nil, Nat.zero_add, Nat.add_eq_left, ← isFinished_iff_stepsLeft]
    at hfinished
  obtain ⟨done, hdone⟩ := hruns.accounts
  rw [run, results_eq_mapIdx (hdone.ended_perm hfinished)]
  apply List.ext_getElem <;> simp

/-- In whatever order jobs start and end, and whichever fail, no more run than there is room for, the
pool can go on until all have ended, and it stops after two steps for each job. Then there is one result
for each job, in the order of the jobs: what the job came to, or what a failure of this one job left. -/
theorem schedule_settles {files : List SourceFile} {job : SourceFile → PackedFile}
    {events : List Event} {p : Pool SourceFile PackedFile}
    (h : Runs workers job (·.passThrough none) (start files) events p) :
    p.running.length ≤ max workers 1 ∧ events.length ≤ 2 * files.length ∧
      (p.isFinished = false → ∃ e q, Step workers job (·.passThrough none) p e q) ∧
      (p.isFinished = true → p.results = files.mapIdx fun i f =>
        if .fail i ∈ events then f.passThrough none else job f) := by
  refine ⟨h.running_le, ?_, ?_, ?_⟩
  · have hsteps := h.length_add_stepsLeft
    rw [stepsLeft_start] at hsteps
    omega
  · intro hf
    obtain ⟨e, hstep, -⟩ := step_next workers job (·.passThrough none) hf
    exact ⟨e, _, hstep⟩
  · intro hf
    obtain ⟨done, hdone⟩ := h.accounts
    exact results_eq_mapIdx (hdone.ended_perm hf)

/-- Three files and two workers: the second file ends first, and the job of the first file fails. -/
theorem overtaking_schedule_settles :
    let job : SourceFile → PackedFile := fun f =>
      { f.passThrough none with content := Text.asciiUpper f.content }
    let a : SourceFile := ⟨"a.c".toList, "int a;".toList⟩
    let b : SourceFile := ⟨"b.c".toList, "int b;".toList⟩
    let c : SourceFile := ⟨"c.c".toList, "int c;".toList⟩
    let events : List Event := [.begin 0, .begin 1, .finish 1, .begin 2, .fail 0, .finish 2]
    let p : Pool SourceFile PackedFile := ⟨[], [], [(2, job c), (0, a.passThrough none), (1, job b)]⟩
    Runs 2 job (·.passThrough none) (start [a, b, c]) events p ∧
      p.running.length ≤ max 2 1 ∧ events.length ≤ 2 * [a, b, c].length ∧
      (p.isFinished = false → ∃ e q, Step 2 job (·.passThrough none) p e q) ∧
      (p.isFinished = true → p.results = [a, b, c].mapIdx fun i f =>
        if .fail i ∈ events then f.passThrough none else job f) := by
  intro job a b c events p
  have h : Runs 2 job (·.passThrough none) (start [a, b, c]) events p := by
    have h0 : Runs 2 job (·.passThrough none) (start [a, b, c]) [] (start [a, b, c]) := .nil
    have h1 := h0.snoc (.begin (0, a) [(1, b), (2, c)] [] [] (by decide))
    have h2 := h1.snoc (.begin (1, b) [(2, c)] [(0, a)] [] (by decide))
    have h3 := h2.snoc (.finish [(2, c)] [(0, a)] [] (1, b) [])
    have h4 := h3.snoc (.begin (2, c) [] [(0, a)] [(1, job b)] (by decide))
    have h5 := h4.snoc (.fail [] [] [(2, c)] (0, a) [(1, job b)])
    exact h5.snoc (.finish [] [] [] (2, c) [(0, a.passThrough none), (1, job b)])
  exact ⟨h, schedule_settles h⟩

end CodeDigest.Pool
