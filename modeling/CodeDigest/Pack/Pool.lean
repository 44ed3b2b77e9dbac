/-! Pools: jobs of which only so many run at once, and which may end in any order. -/

namespace CodeDigest

/-- Jobs that have not started, that run, and that have ended, each under its place in the input. -/
structure Pool (α β : Type) where
  waiting : List (Nat × α)
  running : List (Nat × α)
  ended : List (Nat × β)

namespace Pool

variable {α β : Type}

/-- How many jobs may run at once; there is always room for one. -/
def capacity (workers : Nat) : Nat := max workers 1

def start (jobs : List α) : Pool α β :=
  ⟨jobs.mapIdx fun i a => (i, a), [], []⟩

/-- What happens to the job of a place: it starts, it ends with its result, or it fails. -/
inductive Event where
  | begin (place : Nat)
  | finish (place : Nat)
  | fail (place : Nat)
deriving Repr, DecidableEq

/-- One step: the next job starts while there is room, or a job that runs ends, with its result or, when
it fails, with what `failed` makes of it. Any job that runs may end, in either way. -/
inductive Step (workers : Nat) (work failed : α → β) : Pool α β → Event → Pool α β → Prop where
  | begin (job : Nat × α) (waiting running : List (Nat × α)) (ended : List (Nat × β))
      (room : running.length < capacity workers) :
      Step workers work failed ⟨job :: waiting, running, ended⟩ (.begin job.1)
        ⟨waiting, running ++ [job], ended⟩
  | finish (waiting before after : List (Nat × α)) (job : Nat × α) (ended : List (Nat × β)) :
      Step workers work failed ⟨waiting, before ++ job :: after, ended⟩ (.finish job.1)
        ⟨waiting, before ++ after, (job.1, work job.2) :: ended⟩
  | fail (waiting before after : List (Nat × α)) (job : Nat × α) (ended : List (Nat × β)) :
      Step workers work failed ⟨waiting, before ++ job :: after, ended⟩ (.fail job.1)
        ⟨waiting, before ++ after, (job.1, failed job.2) :: ended⟩

def isFinished (p : Pool α β) : Bool := p.waiting.isEmpty && p.running.isEmpty

/-- One way to go on: start jobs while there is room, then end the one that started first. -/
def next (workers : Nat) (work : α → β) (p : Pool α β) : Pool α β :=
  match p.waiting, p.running with
  | [], [] => p
  | [], (i, a) :: running => ⟨[], running, (i, work a) :: p.ended⟩
  | job :: waiting, [] => ⟨waiting, [job], p.ended⟩
  | job :: waiting, (i, a) :: running =>
    if p.running.length < capacity workers then ⟨waiting, p.running ++ [job], p.ended⟩
    else ⟨job :: waiting, running, (i, work a) :: p.ended⟩

def stepsLeft (p : Pool α β) : Nat := 2 * p.waiting.length + p.running.length

def steps (workers : Nat) (work : α → β) : Nat → Pool α β → Pool α β
  | 0, p => p
  | n + 1, p => steps workers work n (next workers work p)

def results (p : Pool α β) : List β :=
  (p.ended.mergeSort fun a b => a.1 ≤ b.1).map (·.2)

def run (workers : Nat) (work : α → β) (jobs : List α) : List β :=
  let p : Pool α β := start jobs
  (steps workers work p.stepsLeft p).results

def orElse (work : α → Option β) (failed : α → β) (job : α) : β := (work job).getD (failed job)

end Pool
end CodeDigest
