import Blockflow.Proofs.Remote.Replies
import Blockflow.Remote.Follower

/-!
# How long a run is followed

A follower works beside others: it is let go on, gets replies, waits, and may be asked to stop, in
any order. Whatever happens, it has asked up to the first reply that ends the following and no
further, the execution is what the snapshots among the replies make of it, and it waits as long as
the last reply asks for. Once it is asked to stop it takes one more reply at most, and waits no
more.
-/

namespace Blockflow

open PollReply

namespace Follower

@[simp] theorem tracker_look (f : Follower) : f.look.tracker = f.tracker := by
  unfold look
  split <;> rfl

@[simp] theorem tracker_rest (f : Follower) (ms : Nat) : (f.rest ms).tracker = f.tracker := by
  unfold rest
  split <;> rfl

@[simp] theorem tracker_elapse (f : Follower) (ms : Nat) :
    (f.elapse ms).tracker = f.tracker := by
  unfold elapse
  split <;> rfl

@[simp] theorem tracker_stop (f : Follower) : f.stop.tracker = f.tracker := by
  unfold stop
  split <;> rfl

/-! ### What may happen to a follower -/

/-- Something that may happen to a follower. -/
inductive Move where
  /-- It is let go on. -/
  | look
  /-- A reply comes. It is lost if the follower has not asked. -/
  | reply (r : PollReply)
  /-- Milliseconds pass. -/
  | elapse (ms : Nat)
  /-- It is asked to stop. -/
  | stop

/-- A follower, and what it has made of the things that have happened. -/
structure Course where
  /-- The follower. -/
  follower : Follower
  /-- The replies it has received. -/
  received : List PollReply
  /-- The milliseconds since the last of them. -/
  since : Nat

/-- What comes of one more thing that happens. -/
def Course.step (c : Course) : Move → Course
  | .look => { c with follower := c.follower.look }
  | .reply r =>
    if c.follower.phase = .asking then
      { follower := (c.follower.receive r).1, received := c.received ++ [r], since := 0 }
    else c
  | .elapse ms => { c with follower := c.follower.elapse ms, since := c.since + ms }
  | .stop => { c with follower := c.follower.stop }

/-- What comes of the first things that happen after a follower has begun. -/
def course (t : Tracker) (schedule : Nat → Move) : Nat → Course
  | 0 => { follower := .new t, received := [], since := 0 }
  | n + 1 => (course t schedule n).step (schedule n)

/-- Whether a follower is let go on, is answered, and time passes, again and again. -/
structure Fair (schedule : Nat → Move) : Prop where
  /-- It is let go on. -/
  look : ∀ n, ∃ m, n ≤ m ∧ schedule m = .look
  /-- It is answered. -/
  reply : ∀ n, ∃ m r, n ≤ m ∧ schedule m = .reply r
  /-- Time passes. -/
  elapse : ∀ n, ∃ m ms, n ≤ m ∧ 0 < ms ∧ schedule m = .elapse ms

/-! ### What holds at every moment -/

variable {e : Execution} {names : NameMap} {pace : Pace} {c : Course}

/-- Whether what a follower is about to do fits what has happened. It goes on only while no reply
has ended the following, and ends before that only if it has been asked to stop. It waits as long as
the replies ask for, unless it has been asked to stop: then it does not wait, and keeps the signal
while it expects a reply. -/
def Fits (e : Execution) (names : NameMap) (pace : Pace) (c : Course) : Prop :=
  let rested := c.follower.wanted = true → c.received ≠ [] → delay pace c.received ≤ c.since
  match c.follower.phase with
  | .ready => endsFollowing e names c.received = false ∧ rested ∧
      (c.follower.wanted = true → c.follower.signalled = false)
  | .asking => endsFollowing e names c.received = false ∧ rested ∧
      c.follower.signalled = !c.follower.wanted
  | .waiting left => endsFollowing e names c.received = false ∧
      left + c.since = delay pace c.received ∧
      c.follower.wanted = true ∧ c.follower.signalled = false
  | .ended => c.follower.wanted = true → endsFollowing e names c.received = true

/-- What holds of a follower whose tracker began with an execution. -/
structure Sound (e : Execution) (names : NameMap) (pace : Pace) (c : Course) : Prop where
  /-- The tracker has received what the follower has. -/
  tracker : Tracker.HasReceived e names pace c.follower.tracker c.received
  /-- No reply before the last one has ended the following. -/
  first : ∀ earlier, earlier <+: c.received → earlier ≠ c.received →
    endsFollowing e names earlier = false
  /-- What it is about to do fits what has happened. -/
  fits : Fits e names pace c

theorem sound_new (e : Execution) (names : NameMap) (pace : Pace) :
    Sound e names pace ⟨.new (.start e names pace), [], 0⟩ where
  tracker := Tracker.hasReceived_start e names pace
  first _ hearlier hne := absurd (List.prefix_nil.mp hearlier) hne
  fits := ⟨rfl, fun _ h ↦ absurd rfl h, fun _ ↦ rfl⟩

/-- A follower ends at a reply that ends the following. -/
theorem Fits.phase_eq_ended (h : Fits e names pace c)
    (hends : endsFollowing e names c.received = true) : c.follower.phase = .ended := by
  unfold Fits at h
  split at h
  · simp [hends] at h
  · simp [hends] at h
  · simp [hends] at h
  · next hended => exact hended

/-- A follower that waits has not been asked to stop, and waits as long as the replies ask for. -/
theorem Fits.of_waiting (h : Fits e names pace c) {left : Nat}
    (hwaiting : c.follower.phase = .waiting left) :
    left + c.since = delay pace c.received ∧ c.follower.wanted = true := by
  rw [Fits, hwaiting] at h
  exact ⟨h.2.1, h.2.2.1⟩

/-- A follower that has not been asked to stop ends only at a reply that ends the following. -/
theorem Fits.ends_of_ended (h : Fits e names pace c) (hended : c.follower.phase = .ended)
    (hwanted : c.follower.wanted = true) : endsFollowing e names c.received = true := by
  rw [Fits, hended] at h
  exact h hwanted

/-- A follower that has not been asked to stop goes on after its wait only. -/
theorem Fits.delay_le (h : Fits e names pace c)
    (hgoes : c.follower.phase = .ready ∨ c.follower.phase = .asking)
    (hwanted : c.follower.wanted = true) (hsome : c.received ≠ []) :
    delay pace c.received ≤ c.since := by
  rcases hgoes with hphase | hphase <;>
    · rw [Fits, hphase] at h
      exact h.2.1 hwanted hsome

theorem Fits.look (h : Fits e names pace c) : Fits e names pace (c.step .look) := by
  obtain ⟨⟨t, phase, wanted, signalled⟩, received, since⟩ := c
  cases phase with
  | ready =>
    obtain ⟨hgoes, hrested, hsignalled⟩ := h
    cases wanted with
    | true => exact ⟨hgoes, hrested, hsignalled rfl⟩
    | false => exact nofun
  | asking | waiting | ended => exact h

theorem Fits.elapse (h : Fits e names pace c) (ms : Nat) :
    Fits e names pace (c.step (.elapse ms)) := by
  obtain ⟨⟨t, phase, wanted, signalled⟩, received, since⟩ := c
  cases phase with
  | ready | asking =>
    obtain ⟨hgoes, hrested, hsignalled⟩ := h
    exact ⟨hgoes, fun hwanted hsome ↦ (hrested hwanted hsome).trans (Nat.le_add_right _ _),
      hsignalled⟩
  | waiting left =>
    obtain ⟨hgoes, hdelay, hwanted, hsignalled⟩ := h
    dsimp only at hdelay
    by_cases hover : left ≤ ms
    · simp only [Course.step, Follower.elapse, if_pos hover]
      refine ⟨hgoes, fun _ _ ↦ ?_, fun _ ↦ hsignalled⟩
      dsimp only
      omega
    · simp only [Course.step, Follower.elapse, if_neg hover]
      refine ⟨hgoes, ?_, hwanted, hsignalled⟩
      dsimp only
      omega
  | ended => exact h

theorem Fits.stop (h : Fits e names pace c) : Fits e names pace (c.step .stop) := by
  obtain ⟨⟨t, phase, wanted, signalled⟩, received, since⟩ := c
  cases phase with
  | ready => exact ⟨h.1, nofun, nofun⟩
  | asking => exact ⟨h.1, nofun, rfl⟩
  | waiting left => exact ⟨h.1, nofun, nofun⟩
  | ended => exact nofun

/-- A follower that begins the wait that the replies ask for does what it should, if there is a
signal exactly if it has been asked to stop. -/
private theorem fits_rest {f : Follower} {replies : List PollReply}
    (hsignalled : f.signalled = !f.wanted) (hgoes : endsFollowing e names replies = false) :
    Fits e names pace ⟨f.rest (delay pace replies), replies, 0⟩ := by
  cases hwanted : f.wanted <;> rw [hwanted] at hsignalled
  · rw [rest, if_pos (by simp [hsignalled])]
    exact ⟨hgoes, fun h ↦ absurd (hwanted.symm.trans h) Bool.false_ne_true, fun _ ↦ rfl⟩
  · rw [rest, if_neg (by simp [hsignalled])]
    exact ⟨hgoes, Nat.add_zero _, hwanted, hsignalled⟩

theorem Sound.reply (h : Sound e names pace c) (r : PollReply) :
    Sound e names pace (c.step (.reply r)) := by
  obtain ⟨⟨t, phase, wanted, signalled⟩, received, since⟩ := c
  cases phase with
  | ready | waiting | ended => exact h
  | asking =>
    obtain ⟨htracker, hfirst, hgoes, -, hsignalled⟩ := h
    have htracker := htracker.receive r
    have hfirst : ∀ earlier, earlier <+: received ++ [r] → earlier ≠ received ++ [r] →
        endsFollowing e names earlier = false := by
      intro earlier hearlier hne
      have hprefix := (List.prefix_concat_iff.mp hearlier).resolve_left hne
      by_cases hsame : earlier = received
      · rwa [hsame]
      · exact hfirst earlier hprefix hsame
    rw [Course.step, if_pos rfl, receive]
    dsimp only
    rw [htracker.nextWait?]
    cases hends : endsFollowing e names (received ++ [r]) with
    | true => exact ⟨htracker, hfirst, fun _ ↦ hends⟩
    | false =>
      refine ⟨?_, hfirst, fits_rest hsignalled hends⟩
      rwa [if_neg Bool.false_ne_true, tracker_rest]

/-- Whatever happens keeps a follower sound. -/
theorem Sound.step (h : Sound e names pace c) (move : Move) : Sound e names pace (c.step move) := by
  cases move with
  | look => exact ⟨by simpa [Course.step] using h.tracker, h.first, h.fits.look⟩
  | reply r => exact h.reply r
  | elapse ms => exact ⟨by simpa [Course.step] using h.tracker, h.first, h.fits.elapse ms⟩
  | stop => exact ⟨by simpa [Course.step] using h.tracker, h.first, h.fits.stop⟩

theorem sound_course (e : Execution) (names : NameMap) (pace : Pace) (schedule : Nat → Move)
    (n : Nat) : Sound e names pace (course (.start e names pace) schedule n) := by
  induction n with
  | zero => exact sound_new e names pace
  | succ n ih => exact ih.step (schedule n)

/-! ### Being asked to stop -/

@[simp] theorem wanted_rest (f : Follower) (ms : Nat) : (f.rest ms).wanted = f.wanted := by
  unfold rest
  split <;> rfl

@[simp] theorem wanted_receive (f : Follower) (r : PollReply) :
    (f.receive r).1.wanted = f.wanted := by
  unfold receive
  split
  · dsimp only
    split
    · exact wanted_rest _ _
    · rfl
  · rfl

theorem phase_rest_ne_asking (f : Follower) (ms : Nat) : (f.rest ms).phase ≠ .asking := by
  unfold rest
  split <;> exact nofun

/-- A follower that has got its reply expects no other. -/
theorem phase_receive_ne_asking (f : Follower) (r : PollReply) :
    (f.receive r).1.phase ≠ .asking := by
  unfold receive
  split
  · dsimp only
    split
    · exact phase_rest_ne_asking _ _
    · exact nofun
  · next hother => exact hother

variable {t : Tracker} {schedule : Nat → Move} {m n : Nat}

/-- A follower is wanted as long as it is not asked to stop. -/
theorem wanted_step (c : Course) (move : Move) :
    (c.step move).follower.wanted = true ↔ c.follower.wanted = true ∧ move ≠ .stop := by
  cases move with
  | look => simp only [Course.step, look]; split <;> simp
  | reply r => simp only [Course.step]; split <;> simp
  | elapse ms => simp only [Course.step, elapse]; split <;> simp
  | stop => simp only [Course.step, stop]; split <;> simp

theorem wanted_course :
    (course t schedule n).follower.wanted = true ↔ ∀ m < n, schedule m ≠ .stop := by
  induction n with
  | zero => exact iff_of_true rfl nofun
  | succ n ih => rw [course, wanted_step, ih, Nat.forall_lt_succ_right]

/-- How many replies a follower has received or expects. -/
def Course.asked (c : Course) : Nat :=
  c.received.length + if c.follower.phase = .asking then 1 else 0

/-- A follower that has been asked to stop asks no more. -/
theorem asked_step_le (h : c.follower.wanted = false) (move : Move) :
    (c.step move).asked ≤ c.asked := by
  have hphase (f : Follower) (hf : f.phase = .asking → c.follower.phase = .asking) (since : Nat) :
      Course.asked ⟨f, c.received, since⟩ ≤ c.asked := by
    unfold Course.asked
    split
    · next hasking => simp [hf hasking]
    · exact Nat.le_add_right _ _
  cases move with
  | look =>
    refine hphase _ (fun hasking ↦ ?_) _
    unfold look at hasking
    split at hasking
    · simp [h] at hasking
    · exact hasking
  | reply r =>
    rw [Course.step]
    split
    · next hasking => simp [Course.asked, phase_receive_ne_asking, hasking]
    · exact Nat.le_refl _
  | elapse ms =>
    refine hphase _ (fun hasking ↦ ?_) _
    unfold elapse at hasking
    split at hasking
    · dsimp only at hasking
      split at hasking <;> cases hasking
    · exact hasking
  | stop =>
    refine hphase _ (fun hasking ↦ ?_) _
    unfold stop at hasking
    split at hasking <;> first | exact hasking | cases hasking

/-- A follower gets one more reply at most after it has been asked to stop. -/
theorem length_received_le_of_stop (hstop : schedule m = .stop) (h : m < n) :
    (course t schedule n).received.length ≤ (course t schedule m).received.length + 1 := by
  have hasked : (course t schedule n).asked ≤ (course t schedule m).received.length + 1 := by
    induction n, h using Nat.le_induction with
    | base =>
      simp only [course, hstop, Course.step, Course.asked]
      split <;> omega
    | succ n hn ih =>
      have hunwanted : (course t schedule n).follower.wanted = false := by
        rw [← Bool.not_eq_true, wanted_course]
        exact fun hnever ↦ hnever m hn hstop
      exact (asked_step_le hunwanted _).trans ih
  exact (Nat.le_add_right _ _).trans hasked

/-! ### Going on -/

/-- What is kept until something helps is there when something helps, if something helps again and
again. -/
private theorem exists_helped (P : Course → Prop) (helps : Move → Prop)
    (hkept : ∀ c move, P c → ¬helps move → P (c.step move))
    (hoften : ∀ n, ∃ m, n ≤ m ∧ helps (schedule m)) (h : P (course t schedule n)) :
    ∃ m, n ≤ m ∧ P (course t schedule m) ∧ helps (schedule m) := by
  obtain ⟨later, hlater, hhelps⟩ := hoften n
  induction hlater using Nat.decreasingInduction with
  | self => exact ⟨later, Nat.le_refl _, h, hhelps⟩
  | of_succ n _ ih =>
    by_cases hnow : helps (schedule n)
    · exact ⟨n, Nat.le_refl _, h, hnow⟩
    · obtain ⟨m, hm, hfound⟩ := ih (hkept _ _ h hnow)
      exact ⟨m, Nat.le_of_succ_le hm, hfound⟩

theorem length_received_le_step (c : Course) (move : Move) :
    c.received.length ≤ (c.step move).received.length := by
  cases move with
  | look | elapse | stop => exact Nat.le_refl _
  | reply r =>
    rw [Course.step]
    split <;> simp

theorem length_received_mono (h : n ≤ m) :
    (course t schedule n).received.length ≤ (course t schedule m).received.length := by
  induction m, h using Nat.le_induction with
  | base => exact Nat.le_refl _
  | succ m _ ih => exact ih.trans (length_received_le_step _ _)

section Fair

variable (hfair : Fair schedule)
include hfair

/-- A follower that has asked gets a reply. -/
private theorem exists_received (h : (course t schedule n).follower.phase = .asking) :
    ∃ m, (course t schedule n).received.length < (course t schedule m).received.length := by
  obtain ⟨m, hm, hasking, r, hr⟩ := exists_helped (fun c ↦ c.follower.phase = .asking)
    (fun move ↦ ∃ r, move = .reply r)
    (fun c move hasking hother ↦ by
      cases move with
      | look => simp [Course.step, look, hasking]
      | reply r => exact absurd ⟨r, rfl⟩ hother
      | elapse ms => simp [Course.step, elapse, hasking]
      | stop => simp [Course.step, stop, hasking])
    (fun n ↦ by
      obtain ⟨m, r, hm, hr⟩ := hfair.reply n
      exact ⟨m, hm, r, hr⟩) h
  refine ⟨m + 1, (length_received_mono hm).trans_lt ?_⟩
  rw [course, hr, Course.step, if_pos hasking]
  simp

/-- A follower that is ready ends, or it asks and gets a reply. -/
private theorem exists_asking (h : (course t schedule n).follower.phase = .ready) :
    ∃ m, n ≤ m ∧ ((course t schedule m).follower.phase = .ended ∨
      (course t schedule m).follower.phase = .asking) := by
  obtain ⟨m, hm, hready, hlook⟩ := exists_helped (fun c ↦ c.follower.phase = .ready)
    (fun move ↦ move = .look)
    (fun c move hready hother ↦ by
      cases move with
      | look => exact absurd rfl hother
      | reply r => simp [Course.step, hready]
      | elapse ms => simp [Course.step, elapse, hready]
      | stop => simp [Course.step, stop, hready])
    hfair.look h
  refine ⟨m + 1, Nat.le_succ_of_le hm, ?_⟩
  rw [course, hlook, Course.step, look, hready]
  cases (course t schedule m).follower.wanted with
  | true => exact .inr rfl
  | false => exact .inl rfl

/-- A follower that waits becomes ready. -/
private theorem exists_ready {left : Nat}
    (h : (course t schedule n).follower.phase = .waiting left) :
    ∃ m, n ≤ m ∧ (course t schedule m).follower.phase = .ready := by
  induction left using Nat.strongRecOn generalizing n with
  | ind left ih =>
  obtain ⟨m, hm, hwaiting, hhelps⟩ := exists_helped
    (fun c ↦ c.follower.phase = .waiting left)
    (fun move ↦ move = .stop ∨ ∃ ms, move = .elapse ms ∧ (0 < ms ∨ left = 0))
    (fun c move hwaiting hother ↦ by
      cases move with
      | look => simp [Course.step, look, hwaiting]
      | reply r => simp [Course.step, hwaiting]
      | elapse ms =>
        have hms : ms = 0 ∧ left ≠ 0 := by
          simp only [not_or, not_exists, not_and] at hother
          have hnow := hother.2 ms rfl
          omega
        simp [Course.step, elapse, hwaiting, hms]
      | stop => exact absurd (.inl rfl) hother)
    (fun n ↦ by
      obtain ⟨m, ms, hm, hpos, hms⟩ := hfair.elapse n
      exact ⟨m, hm, .inr ⟨ms, hms, .inl hpos⟩⟩) h
  have hnext : course t schedule (m + 1) = (course t schedule m).step (schedule m) := rfl
  rcases hhelps with hstop | ⟨ms, hms, hpasses⟩
  · refine ⟨m + 1, Nat.le_succ_of_le hm, ?_⟩
    rw [hnext, hstop, Course.step, stop, hwaiting]
  · have hphase : (course t schedule (m + 1)).follower.phase =
        if left ≤ ms then .ready else .waiting (left - ms) := by
      rw [hnext, hms, Course.step, elapse, hwaiting]
    by_cases hover : left ≤ ms
    · exact ⟨m + 1, Nat.le_succ_of_le hm, hphase.trans (if_pos hover)⟩
    · -- some of the wait is over, and the rest of it is shorter
      obtain ⟨later, hlater, hready⟩ := ih (left - ms) (by omega) (hphase.trans (if_neg hover))
      exact ⟨later, by omega, hready⟩

/-- A follower ends, or it gets a further reply. -/
private theorem exists_progress (n : Nat) :
    (∃ m, (course t schedule m).follower.phase = .ended) ∨
      ∃ m, (course t schedule n).received.length < (course t schedule m).received.length := by
  have hready : ∀ n, (course t schedule n).follower.phase = .ready →
      (∃ m, (course t schedule m).follower.phase = .ended) ∨
        ∃ m, (course t schedule n).received.length < (course t schedule m).received.length := by
    intro n h
    obtain ⟨m, hm, hended | hasking⟩ := exists_asking hfair h
    · exact .inl ⟨m, hended⟩
    · obtain ⟨later, hlater⟩ := exists_received hfair hasking
      exact .inr ⟨later, (length_received_mono hm).trans_lt hlater⟩
  cases hphase : (course t schedule n).follower.phase with
  | ready => exact hready n hphase
  | asking => exact .inr (exists_received hfair hphase)
  | waiting left =>
    obtain ⟨m, hm, hwaited⟩ := exists_ready hfair hphase
    refine (hready m hwaited).imp_right fun ⟨later, hlater⟩ ↦ ⟨later, ?_⟩
    exact (length_received_mono hm).trans_lt hlater
  | ended => exact .inl ⟨n, hphase⟩

/-- A follower ends, or nobody asks it to stop and it gets any number of replies. -/
theorem exists_ended_or_unbounded : (∃ n, (course t schedule n).follower.phase = .ended) ∨
    (∀ n, schedule n ≠ .stop) ∧ ∀ k, ∃ n, k ≤ (course t schedule n).received.length := by
  by_cases hended : ∃ n, (course t schedule n).follower.phase = .ended
  · exact .inl hended
  · have hmany : ∀ k, ∃ n, k ≤ (course t schedule n).received.length := by
      intro k
      induction k with
      | zero => exact ⟨0, Nat.zero_le _⟩
      | succ k ih =>
        obtain ⟨n, hn⟩ := ih
        obtain ⟨m, hm⟩ := (exists_progress hfair n).resolve_left hended
        exact ⟨m, Nat.succ_le_of_lt (hn.trans_lt hm)⟩
    refine .inr ⟨fun m hstop ↦ ?_, hmany⟩
    -- more replies would come after the signal than one
    obtain ⟨n, hn⟩ := hmany ((course t schedule m).received.length + 2)
    have hbound : (course t schedule n).received.length ≤
        (course t schedule m).received.length + 1 := by
      rcases Nat.lt_or_ge m n with hmn | hnm
      · exact length_received_le_of_stop hstop hmn
      · exact (length_received_mono hnm).trans (Nat.le_succ _)
    omega

end Fair

/-- Whatever happens to a follower, it has received replies up to the first one that ends the
following and no further, the execution is what the snapshots among them make of it, no more
failures have been counted than there were replies, and it waits as long as the last of them asks
for. Unless it is asked to stop it ends at such a reply only; once it is asked to stop it receives
one more reply at most and does not wait. If it is let go on and answered again and again, it comes
to its end, or it is never asked to stop and never gets such a reply. -/
theorem course_follows (e : Execution) (names : NameMap) (pace : Pace) (schedule : Nat → Move) :
    (∀ n, let c := course (.start e names pace) schedule n
      c.follower.tracker.execution = e.follow names (snapshots c.received) ∧
      c.follower.tracker.failures ≤ c.received.length ∧
      (∀ earlier, earlier <+: c.received → earlier ≠ c.received →
        endsFollowing e names earlier = false) ∧
      (endsFollowing e names c.received = true → c.follower.phase = .ended) ∧
      (∀ left, c.follower.phase = .waiting left → left + c.since = delay pace c.received) ∧
      ((∀ m < n, schedule m ≠ .stop) →
        (c.follower.phase = .ended → endsFollowing e names c.received = true) ∧
        (c.follower.phase = .ready ∨ c.follower.phase = .asking → c.received ≠ [] →
          delay pace c.received ≤ c.since)) ∧
      ∀ m < n, schedule m = .stop → (∀ left, c.follower.phase ≠ .waiting left) ∧
        c.received.length ≤
          (course (.start e names pace) schedule m).received.length + 1) ∧
    (Fair schedule →
      (∃ n, (course (.start e names pace) schedule n).follower.phase = .ended) ∨
      (∀ n, schedule n ≠ .stop) ∧
        ∀ k, ∃ n, k ≤ (course (.start e names pace) schedule n).received.length) := by
  refine ⟨fun n ↦ ?_, exists_ended_or_unbounded⟩
  intro c
  have hsound : Sound e names pace c := sound_course e names pace schedule n
  refine ⟨hsound.tracker.execution_eq, hsound.tracker.failures_le, hsound.first,
    hsound.fits.phase_eq_ended, fun left hwaiting ↦ (hsound.fits.of_waiting hwaiting).1,
    fun hnever ↦ ?_, fun m hm hstop ↦ ⟨fun left hwaiting ↦ ?_, length_received_le_of_stop hstop hm⟩⟩
  · have hwanted : c.follower.wanted = true := wanted_course.mpr hnever
    exact ⟨fun hended ↦ hsound.fits.ends_of_ended hended hwanted,
      fun hgoes hsome ↦ hsound.fits.delay_le hgoes hwanted hsome⟩
  · exact wanted_course.mp (hsound.fits.of_waiting hwaiting).2 m hm hstop

/-- A follower is let go on, fails to be answered, waits and is asked to stop, again and again. -/
private def nudging (n : Nat) : Move :=
  match n % 4 with
  | 0 => .look
  | 1 => .reply (.error (.transient "timed out"))
  | 2 => .elapse 1
  | _ => .stop

private theorem nudging_add (n k : Nat) : nudging (n * 4 + k) = nudging k := by
  rw [nudging, nudging, Nat.mul_add_mod_self_right]

theorem course_follows_nudging : Fair nudging ∧
    ∃ n, (course (.start default default .initial) nudging n).follower.phase = .ended := by
  have hfair : Fair nudging :=
    { look n := ⟨n * 4 + 0, by omega, nudging_add n 0⟩
      reply n := ⟨n * 4 + 1, _, by omega, nudging_add n 1⟩
      elapse n := ⟨n * 4 + 2, 1, by omega, Nat.one_pos, nudging_add n 2⟩ }
  refine ⟨hfair, ((course_follows default default .initial nudging).2 hfair).resolve_right ?_⟩
  exact fun hnever ↦ hnever.1 3 rfl

end Follower

end Blockflow
