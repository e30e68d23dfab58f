import Blockflow.Dialogue

/-!
# How dialogues may go

What a dialogue asks, and what it ends with, depends on the answers. Here is every way that it may
go, whatever it is answered: one dialogue after another goes as the first, and then as the second
goes on from the value of the first. To lead a dialogue is to go one of these ways. The answers are
kept beside the questions, or left out where they do not matter.
-/

namespace Blockflow.Dialogue

variable {Q : Type} {A : Q → Type} {α β ε : Type} {asked : List Q} {a a' : α} {b : β}

/-- Whoever leads a dialogue with dialogues, and leads what comes of it, leads it with the answers
that come of them. -/
theorem lead_lead {Q' : Type} {A' : Q' → Type} {m : Type → Type} [Monad m] [LawfulMonad m]
    (f : (q : Q) → Dialogue Q' A' (A q)) (answer : (q : Q') → m (A' q)) (d : Dialogue Q A α) :
    (d.lead f).lead answer = d.lead fun q ↦ (f q).lead answer := by
  induction d with
  | done a => rfl
  | ask q next ih => simp only [lead_ask, lead_bind, ih]

/-! ### Questions with their answers -/

section Said

/-- Whether a dialogue may ask these questions, be given these answers, and then end with this
value. -/
inductive Goes : Dialogue Q A α → List ((q : Q) × A q) → α → Prop where
  /-- It has ended. -/
  | done (a : α) : Goes (.done a) [] a
  /-- It asks a question, and goes on from the answer. -/
  | ask (q : Q) (next : A q → Dialogue Q A α) (answer : A q) (said : List ((q : Q) × A q)) (a : α)
    (h : Goes (next answer) said a) : Goes (.ask q next) (⟨q, answer⟩ :: said) a

variable {said : List ((q : Q) × A q)}

@[simp] theorem goes_done : (.done a : Dialogue Q A α).Goes said a' ↔ said = [] ∧ a' = a := by
  constructor
  · rintro ⟨⟩
    exact ⟨rfl, rfl⟩
  · rintro ⟨rfl, rfl⟩
    exact .done _

theorem goes_ask {q : Q} {next : A q → Dialogue Q A α} :
    (.ask q next : Dialogue Q A α).Goes said a ↔
      ∃ answer later, said = ⟨q, answer⟩ :: later ∧ (next answer).Goes later a := by
  constructor
  · rintro (_ | ⟨_, _, answer, later, _, h⟩)
    exact ⟨answer, later, rfl, h⟩
  · rintro ⟨answer, later, rfl, h⟩
    exact .ask q next answer later a h

@[simp] theorem goes_question {q : Q} {answer : A q} :
    (question q).Goes said answer ↔ said = [⟨q, answer⟩] := by
  rw [question, goes_ask]
  constructor
  · rintro ⟨_, _, rfl, h⟩
    obtain ⟨rfl, rfl⟩ := goes_done.mp h
    rfl
  · rintro rfl
    exact ⟨answer, [], rfl, .done answer⟩

/-- One dialogue after another goes as the first and then as the second. -/
theorem goes_bind {d : Dialogue Q A α} {f : α → Dialogue Q A β} : (d >>= f).Goes said b ↔
    ∃ a first later, said = first ++ later ∧ d.Goes first a ∧ (f a).Goes later b := by
  induction d generalizing said with
  | done a =>
    constructor
    · exact fun h ↦ ⟨a, [], said, rfl, .done a, h⟩
    · rintro ⟨_, _, later, rfl, ⟨⟩, h⟩
      exact h
  | ask q next ih =>
    rw [ask_bind, goes_ask]
    constructor
    · rintro ⟨answer, rest, rfl, h⟩
      obtain ⟨a, first, later, rfl, hfirst, hlater⟩ := (ih answer).mp h
      exact ⟨a, ⟨q, answer⟩ :: first, later, rfl, .ask q next answer first a hfirst, hlater⟩
    · rintro ⟨a, _, later, rfl, hask, hlater⟩
      obtain ⟨answer, first, rfl, hfirst⟩ := goes_ask.mp hask
      exact ⟨answer, first ++ later, rfl, (ih answer).mpr ⟨a, first, later, rfl, hfirst, hlater⟩⟩

/-- One dialogue after another that may fail does not fail if neither of them does. -/
theorem goes_run_bind_ok {d : ExceptT ε (Dialogue Q A) α} {f : α → ExceptT ε (Dialogue Q A) β} :
    (d >>= f).run.Goes said (.ok b) ↔ ∃ a first later, said = first ++ later ∧
      d.run.Goes first (.ok a) ∧ (f a).run.Goes later (.ok b) := by
  rw [ExceptT.run_bind, goes_bind]
  constructor
  · rintro ⟨x, first, later, rfl, hfirst, hlater⟩
    cases x with
    | error e => cases (goes_done.mp hlater).2
    | ok a => exact ⟨a, first, later, rfl, hfirst, hlater⟩
  · rintro ⟨a, first, later, rfl, hfirst, hlater⟩
    exact ⟨.ok a, first, later, rfl, hfirst, hlater⟩

/-- A dialogue that cannot fail goes as it is. -/
theorem goes_run_lift_ok {d : Dialogue Q A α} :
    (ExceptT.lift d : ExceptT ε (Dialogue Q A) α).run.Goes said (.ok a) ↔ d.Goes said a := by
  rw [ExceptT.run_lift, map_eq_pure_bind, goes_bind]
  constructor
  · rintro ⟨_, first, later, rfl, hfirst, hlater⟩
    obtain ⟨rfl, hvalue⟩ := goes_done.mp hlater
    rwa [List.append_nil, Except.ok.inj hvalue]
  · exact fun h ↦ ⟨a, said, [], (List.append_nil _).symm, h, .done _⟩

/-- Answers that depend on what has been said before, with a record of everything that is said. -/
def transcribed (answer : List ((q : Q) × A q) → (q : Q) → A q) (q : Q) :
    StateM (List ((q : Q) × A q)) (A q) :=
  fun said ↦ (answer said q, said ++ [⟨q, answer said q⟩])

/-- A dialogue that is led goes one of the ways that it may go, with the answers it is given. -/
theorem goes_lead (answer : List ((q : Q) × A q) → (q : Q) → A q) (d : Dialogue Q A α)
    (said : List ((q : Q) × A q)) : ∃ a later,
      (d.lead (transcribed answer)).run said = (a, said ++ later) ∧ d.Goes later a := by
  induction d generalizing said with
  | done a => exact ⟨a, [], congrArg _ (List.append_nil _).symm, .done a⟩
  | ask q next ih =>
    obtain ⟨a, later, hled, hgoes⟩ := ih (answer said q) (said ++ [⟨q, answer said q⟩])
    rw [List.append_assoc] at hled
    exact ⟨a, ⟨q, answer said q⟩ :: later, hled, .ask q next _ later a hgoes⟩

end Said

/-! ### Questions alone -/

/-- Whether a dialogue may ask these questions, one after the other, and then end with this
value. -/
inductive Runs : Dialogue Q A α → List Q → α → Prop where
  /-- It has ended. -/
  | done (a : α) : Runs (.done a) [] a
  /-- It asks a question, and goes on from an answer. -/
  | ask (q : Q) (next : A q → Dialogue Q A α) (answer : A q) (asked : List Q) (a : α)
    (h : Runs (next answer) asked a) : Runs (.ask q next) (q :: asked) a

@[simp] theorem runs_done : (.done a : Dialogue Q A α).Runs asked a' ↔ asked = [] ∧ a' = a := by
  constructor
  · rintro ⟨⟩
    exact ⟨rfl, rfl⟩
  · rintro ⟨rfl, rfl⟩
    exact .done _

/-- What a dialogue asks are the questions that it is given answers to. -/
theorem runs_iff {d : Dialogue Q A α} : d.Runs asked a ↔
    ∃ said, d.Goes said a ∧ asked = said.map (·.1) := by
  constructor
  · intro h
    induction h with
    | done a => exact ⟨[], .done a, rfl⟩
    | ask q next answer _ a _ ih =>
      obtain ⟨said, hsaid, rfl⟩ := ih
      exact ⟨⟨q, answer⟩ :: said, .ask q next answer said a hsaid, rfl⟩
  · rintro ⟨said, h, rfl⟩
    induction h with
    | done a => exact .done a
    | ask q next answer _ a _ ih => exact .ask q next answer _ a ih

@[simp] theorem runs_question {q : Q} {answer : A q} :
    (question q).Runs asked answer ↔ asked = [q] := by
  simp [runs_iff]

/-- One dialogue after another goes as the first and then as the second. -/
theorem runs_bind {d : Dialogue Q A α} {f : α → Dialogue Q A β} : (d >>= f).Runs asked b ↔
    ∃ a first later, asked = first ++ later ∧ d.Runs first a ∧ (f a).Runs later b := by
  simp only [runs_iff, goes_bind]
  constructor
  · rintro ⟨_, ⟨a, first, later, rfl, hfirst, hlater⟩, rfl⟩
    exact ⟨a, _, _, List.map_append, ⟨first, hfirst, rfl⟩, later, hlater, rfl⟩
  · rintro ⟨a, _, _, rfl, ⟨first, hfirst, rfl⟩, later, hlater, rfl⟩
    exact ⟨first ++ later, ⟨a, first, later, rfl, hfirst, hlater⟩, List.map_append.symm⟩

/-- A dialogue of whose value something is made goes as it is. -/
theorem runs_bind_pure {d : Dialogue Q A α} {f : α → β} :
    (d >>= fun a ↦ pure (f a)).Runs asked b ↔ ∃ a, d.Runs asked a ∧ b = f a := by
  rw [runs_bind]
  constructor
  · rintro ⟨a, first, later, rfl, hfirst, hlater⟩
    obtain ⟨rfl, rfl⟩ := runs_done.mp hlater
    exact ⟨a, by rwa [List.append_nil], rfl⟩
  · rintro ⟨a, h, rfl⟩
    exact ⟨a, asked, [], (List.append_nil _).symm, h, .done _⟩

/-- One dialogue after another that may fail goes as the first, and as the second if the first has
not failed. -/
theorem runs_run_bind {d : ExceptT ε (Dialogue Q A) α} {f : α → ExceptT ε (Dialogue Q A) β}
    {x : Except ε β} : (d >>= f).run.Runs asked x ↔
      (∃ e, d.run.Runs asked (.error e) ∧ x = .error e) ∨
        ∃ a first later, asked = first ++ later ∧ d.run.Runs first (.ok a) ∧
          (f a).run.Runs later x := by
  rw [ExceptT.run_bind, runs_bind]
  constructor
  · rintro ⟨y, first, later, rfl, hfirst, hlater⟩
    cases y with
    | error e =>
      obtain ⟨rfl, rfl⟩ := runs_done.mp hlater
      exact .inl ⟨e, by rwa [List.append_nil], rfl⟩
    | ok a => exact .inr ⟨a, first, later, rfl, hfirst, hlater⟩
  · rintro (⟨e, h, rfl⟩ | ⟨a, first, later, rfl, hfirst, hlater⟩)
    · exact ⟨.error e, asked, [], (List.append_nil _).symm, h, .done _⟩
    · exact ⟨.ok a, first, later, rfl, hfirst, hlater⟩

/-- A dialogue that cannot fail goes as it is, and does not fail. -/
theorem runs_run_lift {d : Dialogue Q A α} {x : Except ε α} :
    (ExceptT.lift d : ExceptT ε (Dialogue Q A) α).run.Runs asked x ↔
      ∃ a, d.Runs asked a ∧ x = .ok a := by
  rw [ExceptT.run_lift, map_eq_pure_bind]
  exact runs_bind_pure

/-- Answers that depend on what has been asked before, with a record of all questions. -/
def recorded (answer : List Q → (q : Q) → A q) (q : Q) : StateM (List Q) (A q) :=
  fun asked ↦ (answer asked q, asked ++ [q])

/-- A dialogue that is led goes one of the ways that it may go. -/
theorem runs_lead (answer : List Q → (q : Q) → A q) (d : Dialogue Q A α) (asked : List Q) :
    ∃ later, ((d.lead (recorded answer)).run asked).2 = asked ++ later ∧
      d.Runs later ((d.lead (recorded answer)).run asked).1 := by
  induction d generalizing asked with
  | done a => exact ⟨[], (List.append_nil _).symm, .done a⟩
  | ask q next ih =>
    obtain ⟨later, hlater, hruns⟩ := ih (answer asked q) (asked ++ [q])
    exact ⟨q :: later, hlater.trans (List.append_assoc ..), .ask q next _ later _ hruns⟩

end Blockflow.Dialogue
