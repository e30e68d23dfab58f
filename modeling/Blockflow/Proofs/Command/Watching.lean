import Blockflow.Command.Run
import Blockflow.Proofs.Dialogue
import Blockflow.Proofs.Remote.Replies

/-!
# How the following of a run ends

A command that follows a run asks until a reply ends the following, and then prints the execution
and succeeds. The reply need not be the one with which the run has come to its end: it may also be a
failure that does not pass. So what is printed last has come to an end exactly if the last reply was
a snapshot.
-/

namespace Blockflow

variable {e : Execution} {names : NameMap}

@[simp] theorem Execution.run_follow (polls : List RunSnapshot) :
    (e.follow names polls).run = e.run := by
  induction polls generalizing e with
  | nil => rfl
  | cons s polls ih => exact ih.trans run_reduce

/-- Whether replies end the following of an execution, and leave it as the last one. -/
structure FollowedTo (e : Execution) (names : NameMap) (replies : List PollReply)
    (last : Execution) : Prop where
  /-- The execution is what the snapshots make of it. -/
  last_eq : last = e.follow names (PollReply.snapshots replies)
  /-- The last reply ends the following. -/
  ends : PollReply.endsFollowing e names replies = true
  /-- The run has come to its end exactly if the last reply is a snapshot. -/
  isTerminal_iff : last.isTerminal = true ↔ ∃ s, replies.getLast? = some (.ok s)

namespace Command

open Dialogue GitHub

/-- A question with its answer. -/
abbrev Said : Type := (q : Question) × Answer q

/-- That something is printed. -/
abbrev printed (o : Output) : Said := ⟨.print o, ()⟩

variable {g : Client} {run polls : Nat} {said : List Said} {replies : List PollReply}

/-- Whether a question goes to the remote side. -/
def Question.isRemote : Question → Bool
  | .send _ => true
  | _ => false

/-- Whether a client that keeps asking about a run gets these replies when this is said. -/
inductive Hears (g : Client) (run : Nat) : List Said → List PollReply → Prop where
  /-- Nothing is said any more. -/
  | nothing : Hears g run [] []
  /-- Something is said, but not to the remote side. -/
  | aside {s : Said} {said : List Said} {replies : List PollReply} (hs : s.1.isRemote = false)
    (h : Hears g run said replies) : Hears g run (s :: said) replies
  /-- The client asks about the run and gets a reply. -/
  | reply {exchange said : List Said} {r : PollReply} {replies : List PollReply}
    (hr : (g.answer (fun r ↦ ask (.send r)) (.runDetail run)).Goes exchange r)
    (h : Hears g run said replies) : Hears g run (exchange ++ said) (r :: replies)

/-- Replies come one after the other. -/
theorem Hears.append {later : List Said} {more : List PollReply} (h : Hears g run said replies)
    (hmore : Hears g run later more) : Hears g run (said ++ later) (replies ++ more) := by
  induction h with
  | nothing => exact hmore
  | aside hs _ ih => exact .aside hs ih
  | reply hr _ ih =>
    rw [List.append_assoc]
    exact .reply hr ih

theorem hears_printed (o : Output) : Hears g run [printed o] [] := .aside rfl .nothing

/-- To print events says nothing to the remote side. -/
theorem hears_printEvents {events : List Event} (h : (printEvents events).Goes said ()) :
    Hears g run said [] := by
  induction events generalizing said with
  | nil =>
    rw [(goes_done.mp h).1]
    exact .nothing
  | cons event events ih =>
    obtain ⟨_, first, later, rfl, hfirst, hlater⟩ := goes_bind.mp h
    rw [goes_question.mp hfirst]
    exact .aside rfl (ih hlater)

/-- A reply with which a run comes to its end is a snapshot that ends the following. -/
theorem isTerminal_receive {pace : Pace} {t : Tracker} {before : List PollReply}
    (ht : Tracker.HasReceived e names pace t before) (hruns : t.execution.isTerminal = false)
    (reply : PollReply) : (t.receive reply).1.execution.isTerminal =
      (reply.isOk && PollReply.endsFollowing e names (before ++ [reply])) := by
  cases reply with
  | ok s =>
    rw [(ht.receive (.ok s)).execution_eq, PollReply.snapshots_concat_ok,
      PollReply.endsFollowing_concat_ok]
    rfl
  | error error =>
    obtain ⟨health, hfailed⟩ := t.fst_receive_error error
    rw [hfailed]
    exact hruns

/-- Following goes on until a reply ends it, or until nothing may be asked any more. -/
theorem goes_follow {pace : Pace} {t t' : Tracker} {before : List PollReply} {finished : Bool}
    (ht : Tracker.HasReceived e names pace t before) (hruns : t.execution.isTerminal = false)
    (h : (follow g polls t).Goes said (finished, t')) :
    ∃ replies, Hears g e.run said replies ∧
      (finished = false ∧ replies.length = polls ∨
        finished = true ∧ FollowedTo e names (before ++ replies) t'.execution) := by
  induction polls generalizing t before said with
  | zero =>
    obtain ⟨rfl, hvalue⟩ := goes_done.mp h
    obtain ⟨rfl, -⟩ := Prod.mk.inj hvalue
    exact ⟨[], .nothing, .inl ⟨rfl, rfl⟩⟩
  | succ polls ih =>
    obtain ⟨reply, exchange, rest, rfl, hexchange, hrest⟩ := goes_bind.mp h
    have hrun : t.execution.run = e.run := by rw [ht.execution_eq, Execution.run_follow]
    rw [hrun] at hexchange
    have ht' := ht.receive reply
    have hterminal := isTerminal_receive ht hruns reply
    rcases hreceive : t.receive reply with ⟨later, _⟩
    rw [hreceive] at hrest ht' hterminal
    obtain ⟨_, events, rest, rfl, hevents, hrest⟩ := goes_bind.mp hrest
    rw [ht'.nextWait?] at hrest
    cases hends : PollReply.endsFollowing e names (before ++ [reply]) with
    | true =>
      rw [hends, if_pos rfl] at hrest
      obtain ⟨rfl, hvalue⟩ := goes_done.mp hrest
      obtain ⟨rfl, rfl⟩ := Prod.mk.inj hvalue
      refine ⟨[reply], .reply hexchange ((hears_printEvents hevents).append .nothing),
        .inr ⟨rfl, ht'.execution_eq, hends, ?_⟩⟩
      rw [hterminal, hends, Bool.and_true, List.getLast?_concat]
      cases reply <;> simp [Except.isOk, Except.toBool]
    | false =>
      rw [hends, if_neg Bool.false_ne_true] at hrest
      obtain ⟨_, waited, rest, rfl, hwaited, hrest⟩ := goes_bind.mp hrest
      rw [goes_question.mp hwaited]
      have hruns' : later.execution.isTerminal = false := by
        rw [hterminal, hends, Bool.and_false]
      obtain ⟨replies, hhears, hleft⟩ := ih ht' hruns' hrest
      refine ⟨reply :: replies,
        .reply hexchange ((hears_printEvents hevents).append (.aside rfl hhears)), ?_⟩
      rw [List.append_assoc, List.singleton_append] at hleft
      rcases hleft with ⟨hfinished, hlength⟩ | hends
      · exact .inl ⟨hfinished, congrArg Nat.succ hlength⟩
      · exact .inr hends

theorem goes_ask_ok {q : Question} {answer : Answer q} :
    (Doing.ask q).run.Goes said (.ok answer) ↔ said = [⟨q, answer⟩] :=
  goes_run_lift_ok.trans goes_question

/-- A run is followed as its workflow says, and its execution is printed when a reply has ended the
following. -/
theorem goes_followRun {w : Workflow} {options : Options} {finished : Bool}
    (h : (followRun polls w g options run).run.Goes said (.ok finished)) :
    ∃ p id now replies, pipelineOf w = .ok p ∧ Hears g run said replies ∧
      (finished = false ∧ replies.length = polls ∨
        finished = true ∧ ∃ last, FollowedTo (.start id w .builtin run now) p.names replies last ∧
          said.getLast? = some (printed (.document last.toJson))) := by
  obtain ⟨p, _, _, rfl, hp, hbegin⟩ := goes_run_bind_ok.mp h
  obtain ⟨rfl, hpipeline⟩ := goes_done.mp hp
  obtain ⟨id, _, _, rfl, hid, hstart⟩ := goes_run_bind_ok.mp hbegin
  obtain rfl := goes_ask_ok.mp hid
  obtain ⟨now, _, _, rfl, hnow, hfollows⟩ := goes_run_bind_ok.mp hstart
  obtain rfl := goes_ask_ok.mp hnow
  obtain ⟨⟨ended, t⟩, followed, _, rfl, hfollow, hprint⟩ := goes_run_bind_ok.mp hfollows
  obtain ⟨replies, hhears, hends⟩ := goes_follow (Tracker.hasReceived_start ..) rfl
    (goes_run_lift_ok.mp hfollow)
  rcases hends with ⟨rfl, hlength⟩ | ⟨rfl, hends⟩
  · obtain ⟨rfl, hvalue⟩ := goes_done.mp hprint
    rw [List.append_nil]
    exact ⟨p, id, now, replies, hpipeline.symm, .aside rfl (.aside rfl hhears),
      .inl ⟨Except.ok.inj hvalue, hlength⟩⟩
  · obtain ⟨_, document, _, rfl, hdocument, hend⟩ := goes_run_bind_ok.mp hprint
    obtain ⟨rfl, hvalue⟩ := goes_done.mp hend
    obtain rfl := goes_ask_ok.mp hdocument
    rw [List.append_nil]
    have hall := hhears.append (hears_printed (.document t.execution.toJson))
    rw [List.append_nil] at hall
    have hlast (first : List Said) (o : Output) :
        (first ++ [printed o]).getLast? = some (printed o) := List.getLast?_concat
    exact ⟨p, id, now, replies, hpipeline.symm, .aside rfl (.aside rfl hall),
      .inr ⟨Except.ok.inj hvalue, t.execution, hends, hlast (_ :: _ :: followed) _⟩⟩

/-- What is done before a run is followed, if that is what was ordered. -/
def Order.prepare? (o : Order) : Option (Doing (Workflow × Client × Options × Nat)) :=
  match o.action with
  | .run file ref => some do
    let w ← loadWorkflow file
    let (g, options) ← connect o.config
    let run ← Doing.perform g (w.dispatch (ref.getD options.target.branch) .empty .initial)
    Doing.print (.line (Json.obj [("runId", .ofNat run)]).compact)
    return (w, g, options, run)
  | .watch file run => some do
    let w ← loadWorkflow file
    let (g, options) ← connect o.config
    return (w, g, options, run)
  | _ => none

theorem perform_eq_of_prepare? {o : Order} {prepare : Doing (Workflow × Client × Options × Nat)}
    (h : o.prepare? = some prepare) : o.perform polls =
      prepare >>= fun (w, g, options, run) ↦ followRun polls w g options run := by
  unfold Order.prepare? at h
  unfold Order.perform
  split at h
  · next haction =>
    cases h
    simp [haction]
  · next haction =>
    cases h
    simp [haction]
  · cases h

theorem Failure.exitCode_ne_zero (f : Failure) : f.exitCode ≠ 0 := by
  unfold Failure.exitCode
  split <;> decide

/-- If the program was to follow a run and ends with zero, it has followed the run of a workflow
without problems. Either it has asked as often as it may; or the last reply has ended the following,
and the execution is printed last: the run has come to its end exactly if that reply is a snapshot,
and not a failure that does not pass. -/
theorem followedTo_of_goes_program {args : List String} {o : Order}
    {prepare : Doing (Workflow × Client × Options × Nat)} {ending : Ending}
    (ho : Order.ofArguments args = .ok o) (hprepare : o.prepare? = some prepare)
    (h : (program polls args).Goes said ending) (hzero : ending.exitCode = 0) :
    ∃ w g options run p id now before during replies, said = before ++ during ∧
      prepare.run.Goes before (.ok (w, g, options, run)) ∧ pipelineOf w = .ok p ∧
      Hears g run during replies ∧
      (ending = .unfinished ∧ replies.length = polls ∨
        ending = .done ∧ ∃ last, FollowedTo (.start id w .builtin run now) p.names replies last ∧
          said.getLast? = some (printed (.document last.toJson))) := by
  rw [program, ho] at h
  obtain ⟨x, said, _, rfl, hperform, hending⟩ := goes_bind.mp h
  cases x with
  | error f =>
    obtain ⟨-, rfl⟩ := goes_done.mp hending
    exact absurd hzero f.exitCode_ne_zero
  | ok finished =>
    rw [perform_eq_of_prepare? hprepare] at hperform
    obtain ⟨⟨w, g, options, run⟩, before, during, rfl, hbefore, hduring⟩ :=
      goes_run_bind_ok.mp hperform
    obtain ⟨p, id, now, replies, hp, hhears, hends⟩ := goes_followRun hduring
    rcases hends with ⟨rfl, hlength⟩ | ⟨rfl, last, hends, hlast⟩
    · obtain ⟨rfl, rfl⟩ := goes_done.mp hending
      exact ⟨w, g, options, run, p, id, now, before, during, replies, List.append_nil _, hbefore,
        hp, hhears, .inl ⟨rfl, hlength⟩⟩
    · obtain ⟨rfl, rfl⟩ := goes_done.mp hending
      refine ⟨w, g, options, run, p, id, now, before, during, replies, List.append_nil _, hbefore,
        hp, hhears, .inr ⟨rfl, last, hends, ?_⟩⟩
      rw [List.append_nil, List.getLast?_append, hlast, Option.some_or]

/-! ### A run that is not found -/

/-- A workflow with a trigger and a step. -/
private def tracked : Json :=
  .obj [("id", .str "w"), ("name", .str "CI"),
    ("blocks", .arr [.obj [("id", .str "t"), ("type", .str "trigger-push")],
      .obj [("id", .str "c"), ("type", .str "job-checkout")]]),
    ("connections", .arr [.obj [("id", .str "1"), ("sourceBlockId", .str "t"),
      ("sourcePortId", .str "out"), ("targetBlockId", .str "c"), ("targetPortId", .str "in")]])]

/-- Answers where no run is found. -/
private def unknownAnswer (_ : List Said) : (q : Question) → Answer q
  | .find _ => some <| .ok <| Json.compact <|
    .obj [("github", .obj [("owner", .str "a"), ("repo", .str "b")])]
  | .read _ => .ok tracked.compact
  | .write .. => .ok ()
  | .token => none
  | .send _ => .answered 404 (.whole "")
  | .wait _ => ()
  | .now => default
  | .freshId => ""
  | .print _ => ()

/-- The status in what is printed last. -/
private def lastStatus? (said : List Said) : Option Json :=
  said.getLast?.bind fun
    | ⟨.print (.document j), _⟩ => j.member? "status"
    | _ => none

/-- A run that is not found is followed to the first failure. -/
private theorem exists_goes_unknown : ∃ said, lastStatus? said = some (.str "pending") ∧
    (program 1 ["watch", "f", "--run-id", "7"]).Goes said .done := by
  obtain ⟨ending, said, hled, hgoes⟩ :=
    goes_lead unknownAnswer (program 1 ["watch", "f", "--run-id", "7"]) []
  have hfound : (((program 1 ["watch", "f", "--run-id", "7"]).lead
      (transcribed unknownAnswer)).run []).map id lastStatus? = (.done, some (.str "pending")) := by
    decide +kernel
  rw [hled] at hfound
  obtain ⟨rfl, hstatus⟩ := Prod.mk.inj hfound
  exact ⟨said, hstatus, hgoes⟩

private theorem ofArguments_watch : Order.ofArguments ["watch", "f", "--run-id", "7"] =
    .ok ⟨defaultConfig, .watch "f" 7⟩ := by
  have hsome : (Order.ofArguments ["watch", "f", "--run-id", "7"]).toOption =
      some ⟨defaultConfig, .watch "f" 7⟩ := by decide +kernel
  cases horder : Order.ofArguments ["watch", "f", "--run-id", "7"] <;> rw [horder] at hsome
  · cases hsome
  · exact congrArg _ (Option.some.inj hsome)

theorem followedTo_of_goes_program_unknown : ∃ said,
    (program 1 ["watch", "f", "--run-id", "7"]).Goes said .done ∧
      ∃ e names replies last, FollowedTo e names replies last ∧
        said.getLast? = some (printed (.document last.toJson)) := by
  obtain ⟨said, -, hgoes⟩ := exists_goes_unknown
  obtain ⟨_, _, _, _, _, _, _, _, _, replies, -, -, -, -, hends⟩ :=
    followedTo_of_goes_program ofArguments_watch rfl hgoes rfl
  rcases hends with ⟨hother, -⟩ | ⟨-, last, hends, hlast⟩
  · cases hother
  · exact ⟨said, hgoes, _, _, replies, last, hends, hlast⟩

/-- What is printed last need not have come to an end. -/
theorem not_forall_isTerminal : ¬∀ polls args o prepare said, Order.ofArguments args = .ok o →
    o.prepare? = some prepare → (program polls args).Goes said .done →
      ∃ e : Execution, e.isTerminal = true ∧
        said.getLast? = some (printed (.document e.toJson)) := by
  intro h
  obtain ⟨said, hpending, hgoes⟩ := exists_goes_unknown
  obtain ⟨e, hterminal, hlast⟩ := h 1 _ _ _ said ofArguments_watch rfl hgoes
  rw [lastStatus?, hlast] at hpending
  obtain ⟨_, _, _, status, _, _, _⟩ := e
  have hstatus : status.toJson = .str "pending" := Option.some.inj hpending
  cases status with
  | pending | running => cases hterminal
  | success | failure | cancelled => simp [RunStatus.toJson, RunStatus.tag] at hstatus

end Command

end Blockflow
