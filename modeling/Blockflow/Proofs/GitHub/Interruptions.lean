import Blockflow.Proofs.GitHub.Answers
import Blockflow.Remote.Tracker

/-!
# Exchanges that are cut off

An exchange is cut off if there is no connection, if the connection breaks before the answer begins,
or if it breaks in the body of a success. Main statement: the failure passes exactly if no answer
had begun. Where the body breaks off, a call that reads it fails as if the server had sent something
else, so whoever follows a run gives up; and a call that does not read it succeeds.
-/

namespace Blockflow

/-- Whether an exchange is cut off. -/
inductive Http.Exchange.IsCutOff : Http.Exchange → Prop where
  /-- There is no connection, or it breaks before the answer begins. -/
  | broken : IsCutOff .broken
  /-- It breaks in the body of a success. -/
  | body (status : Nat) (h : 200 ≤ status ∧ status < 300) : IsCutOff (.answered status .cut)

namespace Call

/-- Whether the reply to a call is in the body of an answer. -/
def readsBody : Call → Bool
  | .getFile _ | .putFile _ | .listRuns _ | .runDetail _ => true
  | .deleteFile .. | .triggerRun .. => false

/-- What a call is about, in the words of its failures. -/
def context : Call → String
  | .getFile path | .deleteFile path .. => path
  | .putFile w => w.path
  | .listRuns file | .triggerRun file .. => file
  | .runDetail run => "run " ++ toString run

/-- How a call ends with an exchange that has been cut off. -/
structure EndsWith (c : Call) (x : Http.Exchange) (outcome : c.Outcome) : Prop where
  /-- Before the answer begins, the connection counts as lost. -/
  of_broken : x = .broken → outcome = .error .disconnected
  /-- A body that is read and breaks off counts as one that makes no sense. -/
  of_read : x ≠ .broken → c.readsBody = true → outcome = .error (.undecodable c.context)
  /-- A body that is not read may break off. -/
  of_unread : x ≠ .broken → c.readsBody = false → outcome.isOk = true

theorem EndsWith.isTransient_iff {c : Call} {x : Http.Exchange} {outcome : c.Outcome}
    (h : c.EndsWith x outcome) :
    (∃ e, outcome = .error e ∧ e.isTransient = true) ↔ x = .broken := by
  refine ⟨?_, fun hbroken ↦ ⟨_, h.of_broken hbroken, rfl⟩⟩
  rintro ⟨e, rfl, htransient⟩
  by_cases hbody : x = .broken
  · exact hbody
  · cases hreads : c.readsBody with
    | true =>
      cases Except.error.inj (h.of_read hbody hreads)
      cases htransient
    | false => cases h.of_unread hbody hreads

end Call

namespace GitHub

open Http Client

/-! ### One exchange -/

/-- What a call that reads bodies says about an exchange that has been cut off. -/
def interruption (context : String) : Exchange → RemoteError
  | .broken => .disconnected
  | _ => .undecodable context

section Reading

variable {α : Type} {context : String} {interest : Json.Interest} {read? : Json → Option α}
  {x : Exchange}

theorem value?_of_isCutOff (h : x.IsCutOff) :
    value? context interest read? x = .error (interruption context x) := by
  cases h with
  | broken => exact value?_broken
  | body status hstatus => exact value?_cut hstatus

theorem fileOf_of_isCutOff (h : x.IsCutOff) :
    fileOf context x = .error (interruption context x) := by
  rw [fileOf, value?_of_isCutOff h]
  cases h <;> rfl

theorem versionOf_of_isCutOff (w : FileWrite) (h : x.IsCutOff) :
    versionOf w x = .error (interruption w.path x) := by
  rw [versionOf, value?_of_isCutOff h]
  cases h <;> rfl

theorem endsWith_of_read {c : Call} (hreads : c.readsBody = true) :
    c.EndsWith x (.error (interruption c.context x)) where
  of_broken hbroken := by rw [hbroken, interruption]
  of_read hbody _ := by
    cases x with
    | broken => exact absurd rfl hbody
    | answered status body => rfl
    | unwritten => rfl
  of_unread _ hunread := by rw [hreads] at hunread; cases hunread

/-- A call that does not read the body of a success succeeds with its head. -/
theorem endsWith_of_unread {c : Call} (hreads : c.readsBody = false) (h : x.IsCutOff)
    (reply : c.Reply) : c.EndsWith x ((success? context x).map fun _ ↦ reply) where
  of_broken hbroken := by rw [hbroken]; rfl
  of_read _ hread := by rw [hreads] at hread; cases hread
  of_unread hbody _ := by
    cases h with
    | broken => exact absurd rfl hbody
    | body status hstatus => rw [success?_of_success hstatus]; rfl

end Reading

/-! ### Exchanges of a call -/

section Noting

variable {σ : Type} {send : Request → StateM σ Exchange}

/-- Sends requests to a server, with a record of what has become of them. -/
def noting (send : Request → StateM σ Exchange) (r : Request) :
    StateM (σ × List Exchange) Exchange :=
  fun (s, had) ↦ ((send r s).1, (send r s).2, had ++ [(send r s).1])

/-- What has become of the requests that a call has sent, in their order. -/
def Client.exchanges (g : Client) (send : Request → StateM σ Exchange) (c : Call) (s : σ) :
    List Exchange :=
  ((g.answer (noting send) c).run (s, [])).2.2

/-- Whether something goes the same way with a record as without one. -/
def Notes {α : Type} (a : StateM σ α) (b : StateM (σ × List Exchange) α) : Prop :=
  ∀ s had, ∃ noted, b.run (s, had) = ((a.run s).1, (a.run s).2, had ++ noted)

namespace Notes

theorem pure {α : Type} (a : α) : Notes (Pure.pure a : StateM σ α) (Pure.pure a) :=
  fun s had ↦ ⟨[], by rw [List.append_nil]; rfl⟩

theorem bind {α β : Type} {a : StateM σ α} {b : StateM (σ × List Exchange) α}
    {f : α → StateM σ β} {g : α → StateM (σ × List Exchange) β} (h : Notes a b)
    (hnext : ∀ v, Notes (f v) (g v)) : Notes (a >>= f) (b >>= g) := by
  intro s had
  obtain ⟨first, hfirst⟩ := h s had
  obtain ⟨later, hlater⟩ := hnext (a.run s).1 (a.run s).2 (had ++ first)
  rw [List.append_assoc] at hlater
  refine ⟨first ++ later, ?_⟩
  rw [StateT.run_bind, hfirst]
  exact hlater

theorem exchange (r : Request) : Notes (exchange send r) (exchange (noting send) r) := by
  rw [Client.exchange, Client.exchange]
  split
  · exact fun s had ↦ ⟨[(send r s).1], rfl⟩
  · exact pure _

/-- A record does not change how a call goes. -/
theorem answer (send : Request → StateM σ Exchange) (g : Client) (c : Call) :
    Notes (g.answer send c) (g.answer (noting send) c) := by
  cases c with
  | getFile | putFile | deleteFile | listRuns | triggerRun =>
    exact (exchange _).bind fun _ ↦ pure _
  | runDetail run =>
    refine (exchange _).bind fun x ↦ ?_
    split
    · exact pure _
    · exact (exchange _).bind fun _ ↦ pure _

end Notes

end Noting

/-! ### Calls -/

section Calls

variable {σ : Type} {send : Request → StateM σ Exchange} {g : Client}

/-- What becomes of a request is noted, unless it has not been sent. -/
theorem exchange_noting (send : Request → StateM σ Exchange) (r : Request) (s : σ)
    (had : List Exchange) : ∃ x t noted,
    (exchange (noting send) r).run (s, had) = pure (x, t, had ++ noted) ∧ ∀ y ∈ noted, y = x := by
  by_cases h : r.isWritable = true
  · exact ⟨_, _, [(send r s).1], by rw [exchange_of_isWritable h]; rfl, by simp⟩
  · refine ⟨.unwritten, s, [], ?_, by simp⟩
    rw [exchange, if_neg h, List.append_nil]
    rfl

/-- A call of one request ends as its exchange does. -/
theorem endsWith_of_exchange {c : Call} {r : Request} {read : Exchange → c.Outcome}
    (hcall : g.answer (noting send) c = do return read (← exchange (noting send) r))
    (hread : ∀ x, x.IsCutOff → c.EndsWith x (read x)) (s : σ) :
    let done := (g.answer (noting send) c).run (s, [])
    ∀ x ∈ done.2.2, x.IsCutOff → c.EndsWith x done.1 := by
  intro done x hx hcut
  obtain ⟨y, t, noted, hrun, hnoted⟩ := exchange_noting send r s []
  have hdone : done = (read y, t, noted) := by
    simp only [done, hcall, StateT.run_bind, hrun, pure_bind]
    rfl
  rw [hdone] at hx ⊢
  obtain rfl := hnoted x hx
  exact hread x hcut

/-- A run is asked for before its jobs are, so an exchange that has been cut off is the last one. -/
theorem endsWith_runDetail (send : Request → StateM σ Exchange) (g : Client) (run : Nat) (s : σ) :
    let done := (g.answer (noting send) (.runDetail run)).run (s, [])
    ∀ x ∈ done.2.2, x.IsCutOff → (Call.runDetail run).EndsWith x done.1 := by
  intro done x hx hcut
  obtain ⟨y, t, noted, hrun, hnoted⟩ := exchange_noting send (g.runRequest run) s []
  rw [List.nil_append] at hrun
  cases hvalue : value? ("run " ++ toString run) RunBody.interest RunBody.ofJson? y with
  | error e =>
    have hdone : done = (.error e, t, noted) := by
      simp only [done, answer, StateT.run_bind, hrun, pure_bind, hvalue]
      rfl
    rw [hdone] at hx ⊢
    obtain rfl := hnoted x hx
    rw [value?_of_isCutOff hcut] at hvalue
    cases hvalue
    exact endsWith_of_read rfl
  | ok r =>
    obtain ⟨z, t', noted', hrun', hnoted'⟩ := exchange_noting send (g.jobsRequest run) t noted
    have hdone : done = ((value? ("run " ++ toString run) jobsInterest jobs? z).map fun jobs ↦
        { run := r.id, status := r.status, conclusion := r.conclusion, jobs }, t',
          noted ++ noted') := by
      simp only [done, answer, StateT.run_bind, hrun, pure_bind, hvalue, hrun']
      rfl
    rw [hdone] at hx ⊢
    obtain hx | hx := List.mem_append.mp hx
    · obtain rfl := hnoted x hx
      rw [value?_of_isCutOff hcut] at hvalue
      cases hvalue
    · obtain rfl := hnoted' x hx
      simp only [value?_of_isCutOff hcut]
      exact endsWith_of_read rfl

/-- Every call ends as the exchange does that has been cut off. -/
theorem endsWith_answer (send : Request → StateM σ Exchange) (g : Client) (c : Call) (s : σ) :
    let done := (g.answer (noting send) c).run (s, [])
    ∀ x ∈ done.2.2, x.IsCutOff → c.EndsWith x done.1 := by
  cases c with
  | getFile path =>
    refine endsWith_of_exchange rfl (fun x h ↦ ?_) s
    rw [fileOf_of_isCutOff h]
    exact endsWith_of_read rfl
  | putFile w =>
    refine endsWith_of_exchange rfl (fun x h ↦ ?_) s
    rw [versionOf_of_isCutOff w h]
    exact endsWith_of_read rfl
  | deleteFile path version message =>
    exact endsWith_of_exchange rfl
      (fun x h ↦ endsWith_of_unread (c := .deleteFile path version message) rfl h ()) s
  | listRuns file =>
    refine endsWith_of_exchange rfl (fun x h ↦ ?_) s
    rw [value?_of_isCutOff h]
    exact endsWith_of_read rfl
  | runDetail run => exact endsWith_runDetail send g run s
  | triggerRun file ref inputs =>
    exact endsWith_of_exchange rfl
      (fun x h ↦ endsWith_of_unread (c := .triggerRun file ref inputs) rfl h ()) s

/-- The failure of a call of which an exchange has been cut off passes exactly if no answer had
begun: a body that is read and breaks off counts as one that makes no sense, and a call that reads
none succeeds. So whoever follows a run asks again only if no answer had begun. -/
theorem isTransient_iff_broken (send : Request → StateM σ Exchange) (g : Client) (s : σ) :
    (∀ c, ∀ x ∈ g.exchanges send c s, x.IsCutOff →
      let outcome := ((g.answer send c).run s).1
      c.EndsWith x outcome ∧ ((∃ e, outcome = .error e ∧ e.isTransient = true) ↔ x = .broken)) ∧
    ∀ (t : Tracker) (run : Nat), ∀ x ∈ g.exchanges send (.runDetail run) s, x.IsCutOff →
      let reply := ((g.answer send (.runDetail run)).run s).1
      (((t.receive reply).1.nextWait? reply).isSome = true ↔ x = .broken) := by
  have hends (c : Call) (x : Exchange) (hx : x ∈ g.exchanges send c s) (hcut : x.IsCutOff) :
      c.EndsWith x ((g.answer send c).run s).1 := by
    obtain ⟨noted, hrun⟩ := Notes.answer send g c s []
    have hend := endsWith_answer send g c s x hx hcut
    rw [hrun] at hend
    exact hend
  refine ⟨fun c x hx hcut ↦ ⟨hends c x hx hcut, (hends c x hx hcut).isTransient_iff⟩, ?_⟩
  intro t run x hx hcut reply
  have hend : (Call.runDetail run).EndsWith x reply := hends (.runDetail run) x hx hcut
  by_cases hbroken : x = .broken
  · rw [hend.of_broken hbroken]
    exact iff_of_true rfl hbroken
  · rw [hend.of_read hbroken rfl]
    exact iff_of_false nofun hbroken

end Calls

/-- A run of which the first exchange has been cut off is not asked for any further. -/
theorem answer_runDetail_of_isCutOff {σ : Type} {send : Request → StateM σ Exchange} {g : Client}
    {run : Nat} {x : Exchange} {s t : σ} (hwritable : (g.runRequest run).isWritable = true)
    (hsend : (send (g.runRequest run)).run s = pure (x, t)) (h : x.IsCutOff) :
    (g.answer send (.runDetail run)).run s =
      pure (.error (interruption ("run " ++ toString run) x), t) := by
  rw [answer, StateT.run_bind, exchange_of_isWritable hwritable, hsend, pure_bind]
  simp only [value?_of_isCutOff h]
  rfl

/-- A client for a repository. -/
private def site : Client := ⟨{ Target.initial with owner := "acme", repo := "site" }, none⟩

/-- A server with which every exchange goes the same way. -/
private def always (x : Exchange) (_ : Request) : StateM Unit Exchange := pure x

private theorem isWritable_site : (site.runRequest 7).isWritable = true := by decide +kernel

private theorem mem_exchanges_always {x : Exchange} (h : x.IsCutOff) :
    x ∈ site.exchanges (always x) (.runDetail 7) () := by
  rw [exchanges, answer_runDetail_of_isCutOff (t := ((), [x])) isWritable_site rfl h]
  exact List.mem_singleton_self x

/-- Where there is no connection, the failure passes. -/
theorem isTransient_iff_broken_unconnected :
    .broken ∈ site.exchanges (always .broken) (.runDetail 7) () ∧ Exchange.broken.IsCutOff ∧
      ∃ reply : PollReply, ((site.answer (always .broken) (.runDetail 7)).run ()).1 = reply ∧
        (∃ e, reply = .error e ∧ e.isTransient = true) ∧
        ∀ t : Tracker, ((t.receive reply).1.nextWait? reply).isSome = true := by
  have hmem := mem_exchanges_always .broken
  obtain ⟨hcalls, htracker⟩ := isTransient_iff_broken (always .broken) site ()
  refine ⟨hmem, .broken, _, rfl, (hcalls _ _ hmem .broken).2.mpr rfl, fun t ↦ ?_⟩
  exact (htracker t 7 _ hmem .broken).mpr rfl

/-- Where the body breaks off, the failure does not pass, and the run is not asked for again. -/
theorem not_isTransient_cut :
    .answered 200 .cut ∈ site.exchanges (always (.answered 200 .cut)) (.runDetail 7) () ∧
      (Exchange.answered 200 .cut).IsCutOff ∧
      ∃ e, ((site.answer (always (.answered 200 .cut)) (.runDetail 7)).run ()).1 = .error e ∧
        e.isTransient = false ∧
        ∀ t : Tracker, (t.receive (.error e)).1.nextWait? (.error e) = none := by
  have hcut : (Exchange.answered 200 .cut).IsCutOff := .body 200 (by decide)
  have hrun : (site.answer (always (.answered 200 .cut)) (.runDetail 7)).run () = _ :=
    answer_runDetail_of_isCutOff (t := ()) isWritable_site rfl hcut
  refine ⟨mem_exchanges_always hcut, hcut, .undecodable "run 7", ?_, rfl, fun t ↦ rfl⟩
  rw [hrun]
  rfl

end GitHub

end Blockflow
