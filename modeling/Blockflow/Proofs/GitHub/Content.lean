import Blockflow.Proofs.GitHub.Answers
import Blockflow.Proofs.GitHub.Base64
import Blockflow.Proofs.Pipeline.Document
import Blockflow.Proofs.Remote.Deploying

/-!
# Files with blanks in between

A server keeps the text of a file as it was sent, and may put blanks into it wherever it likes when
it gives it back, as it does when it breaks it into lines. Main statement: what is read is the text
that was sent, for any blanks and for no other text; so a deployment goes on as if there were none.
-/

namespace Blockflow

/-! ### Blanks in between -/

/-- Whether a text is another one with blanks put in between, in front or behind. -/
inductive Text.Spaced : List Char → List Char → Prop where
  /-- There is nothing left. -/
  | nil : Spaced [] []
  /-- A character is the same. -/
  | keep (c : Char) {cs ds : List Char} (h : Spaced cs ds) : Spaced (c :: cs) (c :: ds)
  /-- A blank has been put in. -/
  | blank (c : Char) (hc : isBlank c = true) {cs ds : List Char} (h : Spaced cs ds) :
      Spaced cs (c :: ds)

namespace Text

variable {cs ds : List Char}

/-- A text without blanks is what is left of a text when its blanks are taken out. -/
theorem spaced_iff_filter (h : ∀ c ∈ cs, isBlank c = false) :
    Spaced cs ds ↔ ds.filter (fun c ↦ !isBlank c) = cs := by
  constructor
  · intro hspaced
    induction hspaced with
    | nil => rfl
    | keep c _ ih =>
      rw [List.forall_mem_cons] at h
      rw [List.filter_cons_of_pos (by simp [h.1]), ih h.2]
    | blank c hc _ ih => rw [List.filter_cons_of_neg (by simp [hc]), ih h]
  · intro hfilter
    induction ds generalizing cs with
    | nil =>
      obtain rfl : [] = cs := hfilter
      exact .nil
    | cons d ds ih =>
      by_cases hd : isBlank d = true
      · rw [List.filter_cons_of_neg (by simp [hd])] at hfilter
        exact .blank d hd (ih h hfilter)
      · rw [List.filter_cons_of_pos (by simp [hd])] at hfilter
        subst hfilter
        exact .keep d (ih (List.forall_mem_cons.mp h).2 rfl)

end Text

namespace GitHub

/-! ### The text of a file -/

private theorem isBlank_digit {n : Nat} (h : n < 64) : Text.isBlank (Base64.digit n) = false := by
  revert n
  decide

theorem isBlank_of_mem_encode {bytes : List UInt8} :
    ∀ c ∈ Base64.encode bytes, Text.isBlank c = false := by
  have hpadding : Text.isBlank '=' = false := rfl
  fun_induction Base64.encode bytes with
  | case1 => simp
  | case2 x =>
    have hx := x.toNat_lt
    simp only [List.forall_mem_cons, hpadding, List.not_mem_nil, false_imp_iff, implies_true,
      and_true]
    exact ⟨isBlank_digit (by omega), isBlank_digit (by omega)⟩
  | case3 x y =>
    have hx := x.toNat_lt
    have hy := y.toNat_lt
    simp only [List.forall_mem_cons, hpadding, List.not_mem_nil, false_imp_iff, implies_true,
      and_true]
    exact ⟨isBlank_digit (by omega), isBlank_digit (by omega), isBlank_digit (by omega)⟩
  | case4 x y z rest ih =>
    have hx := x.toNat_lt
    have hy := y.toNat_lt
    have hz := z.toNat_lt
    simp only [List.forall_mem_cons]
    exact ⟨isBlank_digit (by omega), isBlank_digit (by omega), isBlank_digit (by omega),
      isBlank_digit (by omega), ih⟩

private theorem fromUTF8?_eq_some_iff {bytes : ByteArray} {s : String} :
    String.fromUTF8? bytes = some s ↔ bytes = s.toUTF8 := by
  unfold String.fromUTF8?
  constructor
  · intro h
    split at h
    · obtain rfl := Option.some.inj h
      rfl
    · cases h
  · rintro rfl
    exact dif_pos s.isValidUTF8

variable {content text : String}

/-- A text is read from what is sent for it, whatever blanks have been put in, and from nothing
else. -/
theorem decodeContent?_eq_some_iff : decodeContent? content = some text ↔
    Text.Spaced (encodeContent text).toList content.toList := by
  rw [encodeContent, String.toList_ofList, Text.spaced_iff_filter isBlank_of_mem_encode,
    decodeContent?]
  simp only [Option.bind_eq_bind, Option.bind_eq_some_iff, Base64.decode?_eq_some_iff,
    fromUTF8?_eq_some_iff]
  constructor
  · rintro ⟨bytes, hbytes, htext⟩
    rw [hbytes, ← htext]
  · intro h
    exact ⟨_, h, rfl⟩

/-! ### Files -/

/-- The text of a file in a request to write it. -/
def sentContent? (r : Http.Request) : Option String :=
  (r.body.bind fun j ↦ j.member? "content").bind Json.text?

theorem sentContent?_writeRequest (g : Client) (f : FileWrite) :
    sentContent? (g.writeRequest f) = some (encodeContent f.content) := rfl

namespace Client

variable {σ : Type} {send : Http.Request → StateM σ Http.Exchange} {g : Client}

/-- The remote side that a client works with when it sends its requests to a server. A file is as it
would be read. -/
def side (g : Client) (send : Http.Request → StateM σ Http.Exchange) : RemoteSide σ where
  answer c := g.answer send c
  file? s path := (fileOf path ((exchange send (g.fileRequest path)).run s).1).toOption.join

/-- Whether a server that is asked for a file gives back what was sent to write it, with any blanks
put in. -/
def GivesBack (send : Http.Request → StateM σ Http.Exchange) (g : Client) (f : FileWrite)
    (version : String) (s t : σ) : Prop :=
  ∃ sent content x, sentContent? (g.writeRequest f) = some sent ∧
    Text.Spaced sent.toList content.toList ∧
    (exchange send (g.fileRequest f.path)).run s = pure (x, t) ∧
    value? f.path FileBody.interest FileBody.ofJson? x = .ok ⟨version, content⟩

variable {f : FileWrite} {version : String} {s t : σ}

/-- The file is read as it was written. -/
theorem GivesBack.answer_getFile (h : GivesBack send g f version s t) :
    (g.side send).answer (.getFile f.path) s = (.ok (some ⟨f.path, version, f.content⟩), t) := by
  obtain ⟨sent, content, x, hsent, hspaced, hx, hvalue⟩ := h
  obtain rfl := Option.some.inj ((sentContent?_writeRequest g f).symm.trans hsent)
  have hfile : fileOf f.path x = .ok (some ⟨f.path, version, f.content⟩) := by
    rw [fileOf, hvalue]
    simp only [decodeContent?_eq_some_iff.mpr hspaced]
  change (g.answer send (.getFile f.path)).run s = _
  rw [answer, StateT.run_bind, hx, pure_bind, ← hfile]
  rfl

open RemoteSide in
/-- The text of a file is read back from what a client sends to write it, whatever blanks are put
in, and from nothing else. So a deployment to a server that puts them in goes on as it would with
the text itself, and it writes nothing if this is the pipeline already. -/
theorem deploys_as_written (g : Client) (send : Http.Request → StateM σ Http.Exchange)
    (f : FileWrite) :
    (∃ sent, sentContent? (g.writeRequest f) = some sent ∧ ∀ content,
      decodeContent? content = some f.content ↔ Text.Spaced sent.toList content.toList) ∧
    ∀ (w : Workflow) (r : Registry) (p : Pipeline) (lastSeen : Option String)
      (policy : ConflictPolicy) (version : String) (s t : σ),
      w.compile r = .ok p → f.path = w.path → GivesBack send g f version s t →
      (g.side send).lead (w.deploy r lastSeen policy) s =
        (g.side send).decided w p t
          (DeployDecision.about p.text lastSeen policy (some ⟨w.path, version, f.content⟩)) ∧
      (f.content = p.text → lastSeen = some version →
        (g.side send).lead (w.deploy r lastSeen policy) s =
          (.ok ⟨w.path, .unchanged version, p⟩, t, [.getFile w.path])) := by
  refine ⟨⟨_, sentContent?_writeRequest g f, fun _ ↦ decodeContent?_eq_some_iff⟩, ?_⟩
  intro w r p lastSeen policy version s t hp hpath hgives
  have hread := hgives.answer_getFile
  rw [hpath] at hread
  have hlead := lead_deploy (g.side send) w r lastSeen policy s
  simp only [hp, hread] at hlead
  refine ⟨hlead, fun htext hseen ↦ ?_⟩
  have hkeep := DeployDecision.about_self ⟨w.path, version, f.content⟩ policy
  rw [hlead, ← htext, hseen, hkeep]
  rfl

/-- A client for a repository. -/
private def acme : Client := ⟨{ Target.initial with owner := "acme", repo := "site" }, none⟩

/-- A workflow with a trigger and a step. -/
private def small : Workflow where
  id := "wf"
  name := "CI"
  description := ""
  blocks := [⟨"t", Kind.triggerPush.tag, .origin, .empty, none⟩,
    ⟨"c", Kind.jobCheckout.tag, .origin, .empty, none⟩]
  connections := [⟨"1", "t", "out", "c", "in"⟩]

/-- The wish to write something else to its file. -/
private def note : FileWrite := ⟨small.path, "né\n", "Note", none⟩

/-- This file in two lines, as a server gives it. -/
private def noteText : String :=
  "\x7b\"sha\":\"v1\",\"content\":\"bs\\nOpCg==\"\x7d"

/-- A server of this file. -/
private def twoLines (_ : Http.Request) : StateM Unit Http.Exchange :=
  pure (.answered 200 (.whole noteText))

private theorem parsePart?_noteText : Json.parsePart? FileBody.interest noteText =
    some (.obj [("sha", .str "v1"), ("content", .str "bs\nOpCg==")]) := by
  decide +kernel

private theorem givesBack_twoLines : GivesBack twoLines acme note "v1" () () := by
  refine ⟨_, "bs\nOpCg==", .answered 200 (.whole noteText), sentContent?_writeRequest _ _, ?_, ?_,
    value?_whole (by decide) parsePart?_noteText rfl⟩
  · rw [encodeContent, String.toList_ofList]
    exact (Text.spaced_iff_filter isBlank_of_mem_encode).mpr (by decide +kernel)
  · rw [exchange_of_isWritable (by decide +kernel)]
    rfl

theorem deploys_as_written_twoLines : ∃ p, small.compile .builtin = .ok p ∧
    GivesBack twoLines acme note "v1" () () ∧
    (acme.side twoLines).lead (small.deploy .builtin (some "v1") .fail) () =
      (acme.side twoLines).decided small p ()
        (DeployDecision.about p.text (some "v1") .fail (some ⟨small.path, "v1", "né\n"⟩)) := by
  obtain ⟨p, hp⟩ := Workflow.exists_compile_eq_ok (w := small) (r := .builtin) (by decide +kernel)
  have hdeploys := (deploys_as_written acme twoLines note).2 small .builtin p (some "v1") .fail
    "v1" () () hp rfl givesBack_twoLines
  exact ⟨p, hp, givesBack_twoLines, hdeploys.1⟩

end Client

end GitHub

end Blockflow
