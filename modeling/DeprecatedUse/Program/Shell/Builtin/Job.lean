import DeprecatedUse.Program.Shell.Builtin.Basic

/-!
This module contains the programs that run in the background, and the commands that wait for them
and list them. A program in the background is run to its end at once, but the shell learns of its
end only when it waits for a program.
-/

namespace DeprecatedUse.Program.Shell

open Run

def freePlace (jobs : List Background) : Nat :=
  let places := (List.range (jobs.length + 1)).map (· + 1)
  (places.find? fun n => jobs.all fun j => j.place != n || j.ended && j.waited).getD 1

def makeRoom : Run Nat := do
  let place := freePlace (← get).jobs
  modify fun s => { s with jobs := s.jobs.filter fun j => j.place != place }
  return place

def learnEnds : Run Unit :=
  modify fun s => { s with jobs := s.jobs.map fun j => { j with ended := true } }

def putBehind (status stages : Nat) : Run Unit := do
  let place ← makeRoom
  modify fun s =>
    let process := s.lastJob.getD (s.number + 100) + 1
    let job := { place := place, process := process, status := status, stages := stages }
    { s with lastJob := some process, jobs := job :: s.jobs, status := 0 }

def jobOf (controlled : Bool) (word : Option String) : Run Background := do
  let jobs := (← get).jobs
  let orElse := fun (j : Option Background) (text : String) =>
    match j with
    | some j =>
      if controlled then
        failed ("job " ++ word.getD "(null)" ++ " not created under job control")
      else
        return j
    | none => failed text
  let missing := "No such job: " ++ word.getD ""
  match word.map String.toList with
  | none | some ['%'] | some ['%', '+'] | some ['%', '%'] => orElse jobs.head? "No current job"
  | some ['%', '-'] => orElse jobs[1]? "No previous job"
  | some ['%', '?'] =>
    if jobs.length ≤ 1 then orElse jobs.head? missing else failed (word.getD "" ++ ": ambiguous")
  | some ('%' :: digits) =>
    if digits.all Char.isDigit then
      orElse (jobs.find? fun j => (String.ofList digits).toNat? == some j.place) missing
    else
      failed missing
  | some _ => failed missing

def markWaited (which : Background → Bool) : Run Unit :=
  modify fun s =>
    { s with jobs := s.jobs.map fun j => if which j then { j with waited := true } else j }

def waitFor (words : List String) : Run Nat := do
  let words ← withoutOptions words
  learnEnds
  if words.isEmpty then
    markWaited fun _ => true
    return 0
  words.foldlM (fun status word => do
    let known ← if word.startsWith "%" then
        some <$> jobOf false (some word)
      else
        let process ← numberOf word
        pure ((← get).jobs.find? fun j => j.process = process)
    match known with
    | none => return status
    | some job =>
      markWaited fun j => j.place == job.place
      return job.status) 127

def jobLine (withProcess : Bool) (mark : Char) (job : Background) : String :=
  let start := "[" ++ toString job.place ++ "] " ++ mark.toString ++ " "
    ++ (if withProcess then toString job.process ++ " " else "")
  let doing := if !job.ended then "Running"
    else if job.status = 0 then "Done"
    else "Done(" ++ toString job.status ++ ")"
  let line := start ++ doing
  line ++ String.ofList (List.replicate (max 1 (33 - line.length)) ' ')
    ++ String.join (List.replicate (job.stages - 1) " | ") ++ "\n"

def showJob (options : List Char) (job : Background) : Run Unit := do
  if options.contains 'p' then
    writeText 1 (toString job.process ++ "\n")
  else
    let jobs := (← get).jobs
    let mark := if jobs.head? == some job then '+' else if jobs[1]? == some job then '-' else ' '
    writeText 1 (jobLine (options.contains 'l') mark job)
    if job.ended then
      modify fun s => { s with jobs := s.jobs.filter fun j => j.place != job.place }

def listJobs (words : List String) : Run Nat := do
  let (options, words) ← readOptions ['l', 'p'] words
  if words.isEmpty then
    (← get).jobs.forM (showJob options)
  else
    words.forM fun word => do showJob options (← jobOf false (some word))
  return 0

def moveJob (words : List String) : Run Nat := do
  let words ← withoutOptions words
  let _ ← jobOf true words.head?
  return 0

end DeprecatedUse.Program.Shell
