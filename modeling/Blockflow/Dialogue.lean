/-!
# Dialogues

A dialogue asks questions, one after the other, and ends with a value. What it asks may depend on
all answers so far, and who answers is left open: the same dialogue can be led with a script, with
another dialogue or with the world outside. Main statements: dialogues are a lawful monad, and
leading one part after the other is leading the whole.
-/

namespace Blockflow

/-- A course of questions of type `Q`, where `A q` is the type of the answers to `q`. -/
inductive Dialogue (Q : Type) (A : Q → Type) (α : Type) : Type where
  /-- The end, with a value. -/
  | done (a : α)
  /-- A question, and how it goes on after each answer. -/
  | ask (q : Q) (next : A q → Dialogue Q A α)

namespace Dialogue

variable {Q : Type} {A : Q → Type} {α β γ : Type}

/-- One dialogue after another. -/
def bind : Dialogue Q A α → (α → Dialogue Q A β) → Dialogue Q A β
  | .done a, f => f a
  | .ask q next, f => .ask q fun answer ↦ (next answer).bind f

instance : Monad (Dialogue Q A) where
  pure := .done
  bind := bind

@[simp] theorem pure_eq (a : α) : (pure a : Dialogue Q A α) = .done a := rfl

@[simp] theorem done_bind (a : α) (f : α → Dialogue Q A β) : (.done a >>= f) = f a := rfl

@[simp] theorem ask_bind (q : Q) (next : A q → Dialogue Q A α) (f : α → Dialogue Q A β) :
    (.ask q next >>= f) = .ask q fun answer ↦ next answer >>= f := rfl

theorem bind_done (d : Dialogue Q A α) : (d >>= fun a ↦ .done a) = d := by
  induction d with
  | done a => rfl
  | ask q next ih => simp [ih]

theorem bind_assoc (d : Dialogue Q A α) (f : α → Dialogue Q A β) (g : β → Dialogue Q A γ) :
    (d >>= f >>= g) = d >>= fun a ↦ f a >>= g := by
  induction d with
  | done a => rfl
  | ask q next ih => simp [ih]

instance : LawfulMonad (Dialogue Q A) :=
  LawfulMonad.mk' (Dialogue Q A) (fun d ↦ bind_done d) (fun _ _ ↦ rfl) bind_assoc

/-- The dialogue of a single question. -/
def question (q : Q) : Dialogue Q A (A q) := .ask q .done

/-- Leads a dialogue with the given answers. -/
def lead {m : Type → Type} [Monad m] (answer : (q : Q) → m (A q)) : Dialogue Q A α → m α
  | .done a => pure a
  | .ask q next => answer q >>= fun a ↦ (next a).lead answer

@[simp] theorem lead_done {m : Type → Type} [Monad m] (answer : (q : Q) → m (A q)) (a : α) :
    (Dialogue.done a : Dialogue Q A α).lead answer = pure a := rfl

@[simp] theorem lead_ask {m : Type → Type} [Monad m] (answer : (q : Q) → m (A q)) (q : Q)
    (next : A q → Dialogue Q A α) :
    (Dialogue.ask q next).lead answer = answer q >>= fun a ↦ (next a).lead answer := rfl

/-- Leading one dialogue after another is leading both as one. -/
theorem lead_bind {m : Type → Type} [Monad m] [LawfulMonad m] (answer : (q : Q) → m (A q))
    (d : Dialogue Q A α) (f : α → Dialogue Q A β) :
    (d >>= f).lead answer = d.lead answer >>= fun a ↦ (f a).lead answer := by
  induction d with
  | done a => simp
  | ask q next ih => simp [ih]

end Dialogue

end Blockflow
