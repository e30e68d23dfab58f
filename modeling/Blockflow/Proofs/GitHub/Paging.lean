import Blockflow.Proofs.GitHub.Answers
import Blockflow.Run.Reduce
import Mathlib.Data.List.TakeDrop

/-!
# Jobs beyond the first page

A server gives the jobs of a run page by page. A client asks for one page, as large as it can be.
Main statement: a snapshot has the first jobs of its run, as many as there is room for on a page;
so it has all of them exactly if there is room for all.
-/

namespace Blockflow.GitHub

open Client

/-- The number that a query names under a key, if it does. -/
def number? (query : List (String × String)) (key : String) : Option Nat :=
  (query.lookup key).bind fun s ↦ Text.natural? 10 s.toList

/-- The jobs on the page that is asked for with a query: on the first one, if it does not say
which. -/
def paged (query : List (String × String)) (jobs : List RemoteJob) : List RemoteJob :=
  let size := (number? query "per_page").getD 30
  (jobs.drop (((number? query "page").getD 1 - 1) * size)).take size

variable {σ : Type} {send : Http.Request → StateM σ Http.Exchange} {g : Client} {run : Nat}
  {body : RunBody} {jobs : List RemoteJob}

/-- Whether a client that asks for a run is told what the run is, and the page of its jobs that the
client asks for. -/
structure Tells (send : Http.Request → StateM σ Http.Exchange) (g : Client) (run : Nat)
    (body : RunBody) (jobs : List RemoteJob) : Prop where
  /-- The request for the run can be written. -/
  isWritable_run : (g.runRequest run).isWritable = true
  /-- The request for its jobs can be written. -/
  isWritable_jobs : (g.jobsRequest run).isWritable = true
  /-- The client is told what the run is. -/
  said : ∀ s, value? ("run " ++ toString run) RunBody.interest RunBody.ofJson?
    ((send (g.runRequest run)).run s).1 = .ok body
  /-- The client is told the jobs on the page. -/
  shown : ∀ s, value? ("run " ++ toString run) jobsInterest jobs?
    ((send (g.jobsRequest run)).run s).1 = .ok (paged (g.jobsRequest run).query jobs)

/-- A client asks for the first page of jobs, and for no other. -/
theorem paged_jobsRequest (g : Client) (run : Nat) (jobs : List RemoteJob) :
    paged (g.jobsRequest run).query jobs = jobs.take jobsPerPage := by
  have hsize : number? (g.jobsRequest run).query "per_page" = some jobsPerPage := by
    change Text.natural? 10 (toString jobsPerPage).toList = some jobsPerPage
    decide +kernel
  have hpage : number? (g.jobsRequest run).query "page" = none := rfl
  simp [paged, hsize, hpage]

theorem Tells.answer_runDetail (h : Tells send g run body jobs) (s : σ) :
    ((g.answer send (.runDetail run)).run s).1 =
      .ok ⟨body.id, body.status, body.conclusion, jobs.take jobsPerPage⟩ := by
  have hrun : exchange send (g.runRequest run) = send (g.runRequest run) :=
    exchange_of_isWritable h.isWritable_run
  have hjobs : exchange send (g.jobsRequest run) = send (g.jobsRequest run) :=
    exchange_of_isWritable h.isWritable_jobs
  obtain ⟨x, s₁, hx⟩ : ∃ x s₁, (send (g.runRequest run)).run s = pure (x, s₁) := ⟨_, _, rfl⟩
  obtain ⟨y, s₂, hy⟩ : ∃ y s₂, (send (g.jobsRequest run)).run s₁ = pure (y, s₂) := ⟨_, _, rfl⟩
  have hsaid : value? ("run " ++ toString run) RunBody.interest RunBody.ofJson? x = .ok body := by
    rw [← h.said s, hx]
    rfl
  have hshown : value? ("run " ++ toString run) jobsInterest jobs? y =
      .ok (jobs.take jobsPerPage) := by
    rw [← paged_jobsRequest g run, ← h.shown s₁, hy]
    rfl
  simp only [answer, hrun, hjobs, StateT.run_bind, hx, hy, pure_bind, hsaid, hshown]
  rfl

/-- A snapshot has the first jobs of its run, as many as there is room for on a page. So it has all
of them exactly if there is room for all. -/
theorem jobs_runDetail (h : Tells send g run body jobs) (s : σ) :
    ∃ snapshot, ((g.answer send (.runDetail run)).run s).1 = .ok snapshot ∧
      snapshot.jobs = jobs.take jobsPerPage ∧
      (snapshot.jobs = jobs ↔ jobs.length ≤ jobsPerPage) :=
  ⟨_, h.answer_runDetail s, rfl, List.take_eq_self_iff jobs⟩

/-! ### A run with one job more -/

/-- A job that has come to its end. -/
private def ended (c : Conclusion) : RemoteJob := ⟨"m", .completed, some c, none, none, none, []⟩

/-- As many jobs that have succeeded as there is room for on a page, and then one that has
failed. -/
private def crowd : List RemoteJob :=
  List.replicate jobsPerPage (ended .success) ++ [ended .failure]

/-- A job that has succeeded, as it is sent. -/
private def sent : Json := .arr [.str "m", .str "completed", .str "success"]

/-- The text of such a job. -/
private def sentText : List Char :=
  ['[', '"', 'm', '"', ',', '"', 'c', 'o', 'm', 'p', 'l', 'e', 't', 'e', 'd', '"', ',', '"', 's',
    'u', 'c', 'c', 'e', 's', 's', '"', ']']

/-- The text of such jobs up to the end of their list, of one more than the number says. -/
private def sentTexts : Nat → List Char
  | 0 => sentText ++ [']']
  | n + 1 => sentText ++ ',' :: sentTexts n

/-- The text of a page with such a list. -/
private def pageText (n : Nat) : List Char :=
  '\x7b' :: '"' :: 'j' :: 'o' :: 'b' :: 's' :: '"' :: ':' :: '[' :: sentTexts n ++ ['\x7d']

section Reading

open Json

private theorem readPart?_sentText (fuel : Nat) (rest : List Char) :
    readPart? (fuel + 10) 126 RemoteJob.interest (sentText ++ rest) = some (sent, rest) := by
  rfl

private theorem readPlaced?_sentTexts (fuel n : Nat) (rest : List Char) :
    readPlaced? (fuel + n + 11) 126 (.list RemoteJob.interest) (sentTexts n ++ rest) =
      some (List.replicate (n + 1) sent, rest) := by
  induction n generalizing fuel with
  | zero =>
    rw [readPlaced?, Interest.first, sentTexts, List.append_assoc, readPart?_sentText]
    rfl
  | succ n ih =>
    have hrest : readPlaced? (fuel + (n + 1) + 10) 126 (.list RemoteJob.interest)
        (sentTexts n ++ rest) = some (List.replicate (n + 1) sent, rest) := ih fuel
    rw [readPlaced?, Interest.first, sentTexts, List.append_assoc, readPart?_sentText]
    change (readPlaced? (fuel + (n + 1) + 10) 126 (.list RemoteJob.interest)
      (sentTexts n ++ rest)).map _ = _
    rw [hrest]
    rfl

private theorem readPart?_page {fuel : Nat} {cs rest : List Char} {l : List Json}
    (h : readPlaced? fuel 126 (.list RemoteJob.interest) ('[' :: cs) = some (l, '\x7d' :: rest)) :
    readPart? (fuel + 3) 128 jobsInterest
        ('\x7b' :: '"' :: 'j' :: 'o' :: 'b' :: 's' :: '"' :: ':' :: '[' :: '[' :: cs) =
      some (.obj [("jobs", .arr l)], rest) := by
  have hlist : readPart? (fuel + 1) 127 (.list RemoteJob.interest) ('[' :: '[' :: cs) =
      some (.arr l, '\x7d' :: rest) := by
    change (readPlaced? fuel 126 (.list RemoteJob.interest) ('[' :: cs)).map _ = _
    rw [h]
    rfl
  have hnamed : readNamed? (fuel + 2) 127 [("jobs", .list RemoteJob.interest)]
      ('"' :: 'j' :: 'o' :: 'b' :: 's' :: '"' :: ':' :: '[' :: '[' :: cs) =
      some ([("jobs", .arr l)], rest) := by
    simp [readNamed?, skipSpace, isSpace, stringRest?, hlist]
  change (readNamed? (fuel + 2) 127 [("jobs", .list RemoteJob.interest)]
    ('"' :: 'j' :: 'o' :: 'b' :: 's' :: '"' :: ':' :: '[' :: '[' :: cs)).map _ = _
  rw [hnamed]
  rfl

private theorem le_length_sentTexts (n : Nat) : n ≤ (sentTexts n).length := by
  induction n with
  | zero => exact Nat.zero_le _
  | succ n ih =>
    rw [sentTexts, List.length_append, List.length_cons]
    omega

private theorem parsePart?_pageText (n : Nat) :
    parsePart? jobsInterest (String.ofList (pageText n)) =
      some (.obj [("jobs", .arr (List.replicate (n + 1) sent))]) := by
  obtain ⟨cs, hcs⟩ : ∃ cs, sentTexts n = '[' :: cs := by cases n <;> exact ⟨_, rfl⟩
  -- every character of the text brings as much fuel as three calls of the reader need
  obtain ⟨fuel, hfuel⟩ : ∃ fuel, 3 * (pageText n).length + 3 = fuel + n + 11 + 3 := by
    refine ⟨3 * (pageText n).length + 3 - (n + 14), ?_⟩
    have hlength : (pageText n).length = (sentTexts n).length + 10 := by simp [pageText]
    have hle := le_length_sentTexts n
    omega
  have hplaced := readPlaced?_sentTexts fuel n ['\x7d']
  rw [hcs, List.cons_append] at hplaced
  have hread := readPart?_page hplaced
  rw [parsePart?, String.toList_ofList, hfuel, pageText, hcs, List.cons_append]
  simp only [List.cons_append, hread]
  rfl

end Reading

/-- A client for a repository. -/
private def client : Client := ⟨{ Target.initial with owner := "acme", repo := "site" }, none⟩

/-- A failed run. -/
private def failedRun : RunBody := ⟨7, .completed, some .failure⟩

/-- The text of this run. -/
private def runText : String :=
  "\x7b\"id\":7,\"status\":\"completed\",\"conclusion\":\"failure\"\x7d"

/-- A server of this run, which has one job more than there is room for on a page. -/
private def crowded (r : Http.Request) : StateM Unit Http.Exchange :=
  pure <| .answered 200 <| .whole <|
    if r.query.isEmpty then runText else String.ofList (pageText 99)

private theorem jobs?_sent : jobs? (.obj [("jobs", .arr (List.replicate (99 + 1) sent))]) =
    some (crowd.take jobsPerPage) := by
  decide +kernel

private theorem parsePart?_runText : Json.parsePart? RunBody.interest runText =
    some (.obj [("id", .num (.int 7)), ("status", .str "completed"),
      ("conclusion", .str "failure")]) := by
  decide +kernel

private theorem tells_crowded : Tells crowded client 7 failedRun crowd where
  isWritable_run := by decide +kernel
  isWritable_jobs := by decide +kernel
  said _ := value?_whole (by decide) parsePart?_runText rfl
  shown _ := by
    rw [paged_jobsRequest]
    exact value?_whole (by decide) (parsePart?_pageText 99) jobs?_sent

theorem jobs_runDetail_crowded : Tells crowded client 7 failedRun crowd ∧ ∃ snapshot,
    ((client.answer crowded (.runDetail 7)).run ()).1 = .ok snapshot ∧
      snapshot.jobs = List.replicate 100 (ended .success) ∧ snapshot.jobs ≠ crowd := by
  obtain ⟨snapshot, hanswer, hjobs, hall⟩ := jobs_runDetail tells_crowded ()
  refine ⟨tells_crowded, snapshot, hanswer, hjobs, fun heq ↦ ?_⟩
  exact absurd (hall.mp heq) (by decide)

/-- An execution of the failed run, with the block whose jobs these are. -/
private def followed : Execution :=
  ⟨"e", "wf", 7, .running, default, none, .ofList [("b", .pending "b")]⟩

/-- The block behind the jobs. -/
private def crowdNames : NameMap := ⟨.empty, .ofList [("m", "b")]⟩

/-- The job that has failed is not in the snapshot, and the block seems to have succeeded. -/
theorem failure_not_mem_runDetail : Tells crowded client 7 failedRun crowd ∧
    ended .failure ∈ crowd ∧ ∃ snapshot,
      ((client.answer crowded (.runDetail 7)).run ()).1 = .ok snapshot ∧
        ended .failure ∉ snapshot.jobs ∧
        (followed.reduce snapshot crowdNames).blockStatus? "b" = some .success ∧
        (followed.reduce { snapshot with jobs := crowd } crowdNames).blockStatus? "b" =
          some .failure := by
  refine ⟨tells_crowded, List.mem_append_right _ List.mem_cons_self, _,
    tells_crowded.answer_runDetail (), ?_, ?_, ?_⟩
  · decide +kernel
  · decide +kernel
  · decide +kernel

end Blockflow.GitHub
