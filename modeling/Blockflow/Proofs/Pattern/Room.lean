import Blockflow.Pattern.Room

/-!
# Patterns that fit

How much room a part takes depends on the states that can be used again, but there is a bound that
does not: states used again take none. A part is built wherever there is as much room as its bound,
so a pattern with small parts fits.
-/

namespace Blockflow.Pattern

namespace Machine

/-- The room that a machine takes. -/
def room (m : Machine) : Nat := stateRoom * m.states + m.lists

/-- A machine grows if there is room for what comes to it. -/
theorem exists_grow (m : Machine) (states lists : Nat)
    (h : m.room + (stateRoom * states + lists) ≤ limit) :
    ∃ m', m.grow states lists = some m' ∧ m'.room = m.room + (stateRoom * states + lists) := by
  have hroom : stateRoom * (m.states + states) + (m.lists + lists) =
      m.room + (stateRoom * states + lists) := by
    rw [room, Nat.mul_add]
    omega
  exact ⟨{ m with states := m.states + states, lists := m.lists + lists },
    if_pos (hroom ▸ h), hroom⟩

/-- A state takes its room and that of its lists, unless it is used again. -/
theorem room_reuse (m : Machine) (key : List Nat) (lists : Nat) :
    (m.reuse key lists).2.room ≤ m.room + stateRoom + lists := by
  rw [reuse]
  split
  · simp only [room]
    omega
  · simp only [room, Nat.mul_add, Nat.mul_one]
    omega

end Machine

open Machine

/-! ### Sets -/

/-- How many ranges rows hold together. -/
def total {α : Type} : List (List α) → Nat
  | [] => 0
  | first :: rest => first.length + total rest

/-- How many ranges groups hold together: the common first one of each, and those of its rows. -/
def totalOf {α : Type} : List (α × List (List α)) → Nat
  | [] => 0
  | first :: rest => total first.2 + 1 + totalOf rest

/-- Each first letter is one of the letters, and what follows it is made of the others. -/
private theorem total_byFirst {α : Type} [BEq α] (words : List (List α)) :
    totalOf (byFirst words) ≤ total words := by
  induction words with
  | nil => exact Nat.le_refl _
  | cons word words ih =>
    cases word with
    | nil => simpa [byFirst, total] using ih
    | cons c cs =>
      rw [byFirst]
      split
      · simp [total, totalOf]
      · next d ends rest heq =>
        rw [heq, totalOf] at ih
        split <;> simp [total, totalOf] at ih ⊢ <;> omega

private theorem byFirst_ne_nil {α : Type} [BEq α] {words : List (List α)}
    (h : words.all List.isEmpty = false) : byFirst words ≠ [] := by
  induction words with
  | nil => simp at h
  | cons word words ih =>
    cases word with
    | nil => exact ih (by simpa using h)
    | cons c cs =>
      rw [byFirst]
      split
      · simp
      · split <;> simp

/-- The room of the state and the step that a range of a row takes. -/
def rangeRoom : Nat := stateRoom + stepRoom

/-- The steps from a state, three numbers for each first range, and the room of what they lead
to. -/
private theorem room_foldl_branch {target fuel : Nat}
    (ih : ∀ rows m, (branch target fuel rows m).2.room ≤ m.room + rangeRoom * total rows)
    (groups : List ((Nat × Nat) × List (List (Nat × Nat)))) (steps : List Nat) (m : Machine) :
    let result := groups.foldl (fun (steps, m) (range, rows) ↦
      let (next, m) := branch target fuel rows m
      (steps ++ [range.1, range.2, next], m)) (steps, m)
    result.1.length = steps.length + 3 * groups.length ∧
      result.2.room + rangeRoom * groups.length ≤
        m.room + rangeRoom * totalOf groups := by
  induction groups generalizing steps m with
  | nil => simp
  | cons group groups ihg =>
    obtain ⟨hlength, hroom⟩ := ihg (steps ++ [group.1.1, group.1.2,
      (branch target fuel group.2 m).1]) (branch target fuel group.2 m).2
    have hgroup := ih group.2 m
    constructor
    · rw [List.foldl_cons, hlength]
      simp only [List.length_append, List.length_cons, List.length_nil]
      omega
    · rw [List.foldl_cons]
      simp only [totalOf, List.length_cons, Nat.mul_add] at hroom ⊢
      omega

/-- A set takes at most the room of its ranges. -/
private theorem room_branch (target fuel : Nat) (rows : List (List (Nat × Nat))) (m : Machine) :
    (branch target fuel rows m).2.room ≤ m.room + rangeRoom * total rows := by
  induction fuel generalizing rows m with
  | zero => exact Nat.le_add_right _ _
  | succ fuel ih =>
    rw [branch]
    split
    · exact Nat.le_add_right _ _
    · next hne =>
      obtain ⟨hlength, hroom⟩ := room_foldl_branch ih (byFirst rows) [] m
      have hpos : 0 < (byFirst rows).length :=
        List.length_pos_iff.mpr (byFirst_ne_nil (by simpa using hne))
      have htotal := Nat.mul_le_mul_left rangeRoom (total_byFirst rows)
      refine Nat.le_trans (room_reuse _ _ _) ?_
      rw [hlength]
      simp only [rangeRoom, stateRoom, stepRoom, List.length_nil] at hroom htotal ⊢
      omega

private theorem room_foldl_reuse (row : List (Nat × Nat)) (s : Nat × Machine) :
    (row.foldl (fun (target, m) range ↦ m.reuse [target, range.1, range.2] 0) s).2.room ≤
      s.2.room + stateRoom * row.length := by
  induction row generalizing s with
  | nil => exact Nat.le_add_right _ _
  | cons range row ih =>
    have hreuse := room_reuse s.2 [s.1, range.1, range.2] 0
    rw [List.foldl_cons, List.length_cons, Nat.mul_succ]
    refine Nat.le_trans (ih _) ?_
    simp only
    omega

/-- A row that is gone through backwards takes at most a state for each of its ranges. -/
private theorem room_gather (target : Nat) (row : List (Nat × Nat)) (m : Machine) :
    (gather target row m).room ≤ m.room + stateRoom * row.length :=
  room_foldl_reuse row (target, m)

private theorem room_foldl_gather (target : Nat) (rows : List (List (Nat × Nat))) (m : Machine) :
    (rows.foldl (fun m row ↦ gather target row m) m).room ≤ m.room + stateRoom * total rows := by
  induction rows generalizing m with
  | nil => exact Nat.le_add_right _ _
  | cons row rows ih =>
    have hrow := room_gather target row m
    refine Nat.le_trans (ih _) ?_
    simp only [total, Nat.mul_add]
    omega

/-! ### Repetitions -/

/-- Whether building a part succeeds and takes at most so much room, wherever there is as much. -/
def Takes (room : Nat) (build : Machine → Option (Bool × Machine)) : Prop :=
  ∀ m, m.room + room ≤ limit →
    ∃ loops m', build m = some (loops, m') ∧ m'.room ≤ m.room + room

private theorem wayFrom_le (loops : Bool) : wayFrom loops ≤ wayRoom := by
  cases loops <;> decide

variable {build : Machine → Option (Bool × Machine)} {room : Nat}

/-- The room of a copy, with the states and ways around it. -/
def copyRoom (room : Nat) : Nat := room + stateRoom + 3 * wayRoom

private theorem Takes.copies (h : Takes room build) (n : Nat) (loops : Bool) :
    Takes (n * copyRoom room) (copies build n loops) := by
  induction n generalizing loops with
  | zero => exact fun m _ ↦ ⟨loops, m, rfl, Nat.le_add_right _ _⟩
  | succ n ih =>
    intro m hm
    have hway := wayFrom_le loops
    rw [Nat.succ_mul, copyRoom] at hm ⊢
    obtain ⟨m₁, hgrow, hroom₁⟩ := exists_grow m 0 (wayFrom loops) (by omega)
    obtain ⟨loops₂, m₂, hbuild, hroom₂⟩ := h m₁ (by omega)
    obtain ⟨loops₃, m₃, hrest, hroom₃⟩ := ih loops₂ m₂ (by rw [copyRoom]; omega)
    rw [copyRoom] at hroom₃
    refine ⟨loops₃, m₃, ?_, by omega⟩
    simp [Pattern.copies, hgrow, hbuild, hrest]

private theorem Takes.optionalCopies (h : Takes room build) (n : Nat) (loops : Bool) :
    Takes (n * copyRoom room) (optionalCopies build n loops) := by
  induction n generalizing loops with
  | zero => exact fun m _ ↦ ⟨loops, m, rfl, Nat.le_add_right _ _⟩
  | succ n ih =>
    intro m hm
    have hway := wayFrom_le loops
    rw [Nat.succ_mul, copyRoom] at hm ⊢
    obtain ⟨m₁, hgrow, hroom₁⟩ := exists_grow m 1 (2 * wayRoom + wayFrom loops) (by omega)
    obtain ⟨loops₂, m₂, hbuild, hroom₂⟩ := h m₁ (by omega)
    obtain ⟨loops₃, m₃, hrest, hroom₃⟩ := ih loops₂ m₂ (by rw [copyRoom]; omega)
    rw [copyRoom] at hroom₃
    refine ⟨loops₃, m₃, ?_, by omega⟩
    simp [Pattern.optionalCopies, hgrow, hbuild, hrest]

private theorem Takes.exactly (h : Takes room build) (n : Nat) :
    Takes (n * copyRoom room + stateRoom) (exactly build n) := by
  intro m hm
  cases n with
  | zero =>
    obtain ⟨m₁, hgrow, hroom₁⟩ := exists_grow m 1 0 (by omega)
    exact ⟨false, m₁, by simp [Pattern.exactly, hgrow], by omega⟩
  | succ n =>
    obtain ⟨loops, m₁, hbuild, hroom⟩ := h.copies (n + 1) false m (by omega)
    exact ⟨loops, m₁, by simp [Pattern.exactly, hbuild], by omega⟩

/-- The room of the states and ways around all copies. -/
def repeatRoom : Nat := 3 * stateRoom + 5 * wayRoom

private theorem Takes.atLeast_zero (h : Takes room build) (consumes : Bool) :
    Takes (copyRoom room + repeatRoom) (atLeast build consumes 0) := by
  intro m hm
  simp only [copyRoom, repeatRoom] at hm ⊢
  cases consumes with
  | true =>
    obtain ⟨m₁, hgrow, hroom₁⟩ := exists_grow m 1 wayRoom (by omega)
    obtain ⟨loops, m₂, hbuild, hroom₂⟩ := h m₁ (by omega)
    have hway := wayFrom_le loops
    obtain ⟨m₃, hend, hroom₃⟩ := exists_grow m₂ 0 (wayFrom loops) (by omega)
    exact ⟨true, m₃, by simp [Pattern.atLeast, hgrow, hbuild, hend], by omega⟩
  | false =>
    obtain ⟨loops, m₁, hbuild, hroom₁⟩ := h m (by omega)
    have hway := wayFrom_le loops
    obtain ⟨m₂, hend, hroom₂⟩ := exists_grow m₁ 3 (4 * wayRoom + wayFrom loops) (by omega)
    exact ⟨false, m₂, by simp [Pattern.atLeast, hbuild, hend], by omega⟩

/-- One more copy at the end, which may be repeated. -/
private theorem Takes.last (h : Takes room build) {m : Machine}
    (hm : m.room + copyRoom room ≤ limit) :
    ∃ m', (do
        let (loops, m) ← build m
        return (true, ← m.grow 1 (wayRoom + wayFrom loops))) = some (true, m') ∧
      m'.room ≤ m.room + copyRoom room := by
  rw [copyRoom] at hm ⊢
  obtain ⟨loops, m₁, hbuild, hroom₁⟩ := h m (by omega)
  have hway := wayFrom_le loops
  obtain ⟨m₂, hend, hroom₂⟩ := exists_grow m₁ 1 (wayRoom + wayFrom loops) (by omega)
  exact ⟨m₂, by simp [hbuild, hend], by omega⟩

private theorem Takes.atLeast (h : Takes room build) (consumes : Bool) (n : Nat) :
    Takes ((n + 1) * copyRoom room + repeatRoom) (atLeast build consumes n) := by
  match n with
  | 0 =>
    rw [Nat.zero_add, Nat.one_mul]
    exact h.atLeast_zero consumes
  | 1 =>
    intro m hm
    obtain ⟨m₁, hlast, hroom⟩ := h.last (m := m) (by omega)
    exact ⟨true, m₁, hlast, by omega⟩
  | n + 2 =>
    intro m hm
    rw [Nat.succ_mul, Nat.succ_mul] at hm ⊢
    simp only [repeatRoom] at hm ⊢
    obtain ⟨loops, m₁, hbuild, hroom₁⟩ := h.exactly (n + 1) m (by omega)
    have hway := wayFrom_le loops
    obtain ⟨m₂, hgrow, hroom₂⟩ := exists_grow m₁ 0 (wayFrom loops) (by omega)
    obtain ⟨m₃, hlast, hroom₃⟩ := h.last (m := m₂) (by omega)
    refine ⟨true, m₃, ?_, by omega⟩
    simp only [Pattern.atLeast, hbuild, Option.bind_eq_bind, Option.bind_some, hgrow]
    exact hlast

private theorem Takes.between (h : Takes room build) (least most : Nat) :
    Takes ((max least most + 1) * copyRoom room + repeatRoom) (between build least most) := by
  intro m hm
  have hleast : least * copyRoom room ≤ max least most * copyRoom room :=
    Nat.mul_le_mul_right _ (Nat.le_max_left _ _)
  rw [Nat.succ_mul] at hm ⊢
  simp only [repeatRoom] at hm ⊢
  by_cases honce : least = 0 ∧ most = 1
  · obtain ⟨rfl, rfl⟩ := honce
    rw [copyRoom] at hm ⊢
    obtain ⟨m₁, hgrow, hroom₁⟩ := exists_grow m 1 0 (by omega)
    obtain ⟨loops, m₂, hbuild, hroom₂⟩ := h m₁ (by omega)
    have hway := wayFrom_le loops
    obtain ⟨m₃, hend, hroom₃⟩ := exists_grow m₂ 1 (2 * wayRoom + wayFrom loops) (by omega)
    exact ⟨false, m₃, by simp [Pattern.between, hgrow, hbuild, hend], by omega⟩
  · obtain ⟨loops, m₁, hbuild, hroom₁⟩ := h.exactly least m (by omega)
    by_cases hsame : least = most
    · refine ⟨loops, m₁, ?_, by omega⟩
      rw [Pattern.between, if_neg (by simpa using honce), if_pos hsame, hbuild]
    · have hmost : least * copyRoom room + (most - least) * copyRoom room ≤
          max least most * copyRoom room := by
        rw [← Nat.add_mul]
        exact Nat.mul_le_mul_right _ (by omega)
      obtain ⟨m₂, hgrow, hroom₂⟩ := exists_grow m₁ 1 0 (by omega)
      obtain ⟨loops₂, m₃, hrest, hroom₃⟩ := h.optionalCopies (most - least) loops m₂ (by omega)
      have hway := wayFrom_le loops₂
      obtain ⟨m₄, hend, hroom₄⟩ := exists_grow m₃ 0 (wayFrom loops₂) (by omega)
      refine ⟨false, m₄, ?_, by omega⟩
      rw [Pattern.between, if_neg (by simpa using honce), if_neg hsame]
      simp [hbuild, hgrow, hrest, hend]

/-! ### Parts -/

mutual

/-- The room that a part takes at most. -/
def Part.bound : Part → Nat
  | .states count lists => stateRoom * count + lists
  | .branching rows => stateRoom + rangeRoom * total rows
  | .gathering rows => 2 * stateRoom + wayRoom * rows.length + stateRoom * total rows
  | .remembered p => p.bound + 2 * stateRoom + wayRoom
  | .row ps => boundOf ps
  | .choice p q rest => p.bound + q.bound + boundOf rest + 2 * stateRoom + 4 * wayRoom
  | .times p least most _ => (max least (most.getD 0) + 1) * copyRoom p.bound + repeatRoom

/-- The room that parts take at most. -/
def boundOf : List Part → Nat
  | [] => 0
  | p :: ps => p.bound + 2 * wayRoom + boundOf ps

end

private theorem takes_branching (rows : List (List (Nat × Nat))) :
    Takes (Part.branching rows).bound (Part.branching rows).build := by
  intro m hm
  rw [Part.bound] at hm ⊢
  obtain ⟨m₁, hgrow, hroom₁⟩ := exists_grow m 1 0 (by omega)
  have hroom₂ := room_branch (m₁.states - 1) 5 rows m₁
  obtain ⟨m₃, hend, hroom₃⟩ := exists_grow (branch (m₁.states - 1) 5 rows m₁).2 0 0 (by omega)
  exact ⟨false, m₃, by simp [Part.build, hgrow, hend], by omega⟩

private theorem takes_gathering (rows : List (List (Nat × Nat))) :
    Takes (Part.gathering rows).bound (Part.gathering rows).build := by
  intro m hm
  rw [Part.bound] at hm ⊢
  obtain ⟨m₁, hgrow, hroom₁⟩ := exists_grow m 2 (wayRoom * rows.length) (by omega)
  have hroom₂ := room_foldl_gather (m₁.states - 1) rows m₁
  obtain ⟨m₃, hend, hroom₃⟩ := exists_grow
    (rows.foldl (fun m row ↦ gather (m₁.states - 1) row m) m₁) 0 0 (by omega)
  exact ⟨false, m₃, by simp [Part.build, hgrow, hend], by omega⟩

mutual

/-- A part is built wherever there is as much room as its bound, and takes no more. -/
theorem Part.takes : (p : Part) → Takes p.bound p.build
  | .states count lists => by
    intro m hm
    obtain ⟨m₁, hgrow, hroom₁⟩ := exists_grow m count lists hm
    exact ⟨false, m₁, by simp [Part.build, hgrow], Nat.le_of_eq hroom₁⟩
  | .branching rows => takes_branching rows
  | .gathering rows => takes_gathering rows
  | .remembered p => by
    intro m hm
    rw [Part.bound] at hm ⊢
    obtain ⟨m₁, hgrow, hroom₁⟩ := exists_grow m 1 0 (by omega)
    obtain ⟨loops, m₂, hbuild, hroom₂⟩ := p.takes m₁ (by omega)
    have hway := wayFrom_le loops
    obtain ⟨m₃, hend, hroom₃⟩ := exists_grow m₂ 1 (wayFrom loops) (by omega)
    exact ⟨false, m₃, by simp [Part.build, hgrow, hbuild, hend], by omega⟩
  | .row ps => by
    have hrow := takes_buildRow ps false
    rwa [Part.bound]
  | .choice p q rest => by
    intro m hm
    rw [Part.bound] at hm ⊢
    obtain ⟨loops₁, m₁, hbuild₁, hroom₁⟩ := p.takes m (by omega)
    have hway₁ := wayFrom_le loops₁
    obtain ⟨m₂, hgrow₂, hroom₂⟩ := exists_grow m₁ 0 (wayRoom + wayFrom loops₁) (by omega)
    obtain ⟨loops₃, m₃, hbuild₃, hroom₃⟩ := q.takes m₂ (by omega)
    have hway₃ := wayFrom_le loops₃
    obtain ⟨m₄, hgrow₄, hroom₄⟩ := exists_grow m₃ 2 (wayRoom + wayFrom loops₃) (by omega)
    obtain ⟨m₅, hrest, hroom₅⟩ := exists_buildWays rest m₄ (by omega)
    refine ⟨false, m₅, ?_, by omega⟩
    simp [Part.build, hbuild₁, hgrow₂, hbuild₃, hgrow₄, hrest]
  | .times p least none consumes => by
    have htimes := p.takes.atLeast consumes least
    rwa [Part.bound, Option.getD_none, Nat.max_zero]
  | .times p least (some most) consumes => by
    have htimes := p.takes.between least most
    rwa [Part.bound, Option.getD_some]

/-- Parts one after the other take at most what they are bound by together. -/
theorem takes_buildRow : (ps : List Part) → (loops : Bool) → Takes (boundOf ps) (buildRow ps loops)
  | [], loops => fun m _ ↦ ⟨loops, m, rfl, Nat.le_add_right _ _⟩
  | p :: ps, loops => by
    intro m hm
    rw [boundOf] at hm ⊢
    have hway := wayFrom_le loops
    obtain ⟨m₁, hgrow, hroom₁⟩ := exists_grow m 0 (wayFrom loops) (by omega)
    obtain ⟨loops₂, m₂, hbuild, hroom₂⟩ := p.takes m₁ (by omega)
    obtain ⟨loops₃, m₃, hrest, hroom₃⟩ := takes_buildRow ps loops₂ m₂ (by omega)
    exact ⟨loops₃, m₃, by simp [buildRow, hgrow, hbuild, hrest], by omega⟩

/-- More alternatives take at most what they are bound by together. -/
theorem exists_buildWays : (ps : List Part) → (m : Machine) → m.room + boundOf ps ≤ limit →
    ∃ m', buildWays ps m = some m' ∧ m'.room ≤ m.room + boundOf ps
  | [], m, _ => ⟨m, rfl, Nat.le_add_right _ _⟩
  | p :: ps, m, hm => by
    rw [boundOf] at hm ⊢
    obtain ⟨loops, m₁, hbuild, hroom₁⟩ := p.takes m (by omega)
    have hway := wayFrom_le loops
    obtain ⟨m₂, hgrow, hroom₂⟩ := exists_grow m₁ 0 (wayRoom + wayFrom loops) (by omega)
    obtain ⟨m₃, hrest, hroom₃⟩ := exists_buildWays ps m₂ (by omega)
    exact ⟨m₃, by simp [buildWays, hbuild, hgrow, hrest], by omega⟩

end

/-! ### Patterns -/

/-- The room of what a machine has around the part of its pattern. -/
def outerRoom : Nat := boundOf [.states 3 16, .remembered (.states 0 0), .states 1 0]

private theorem isSome_build_of_bound {ps : List Part} {places : Nat} (h : boundOf ps ≤ limit) :
    ((Part.row ps).build (.start places)).isSome = true := by
  have hstart : (Machine.start places).room + boundOf ps ≤ limit := by
    simpa [Machine.start, Machine.room] using h
  obtain ⟨loops, m, hbuild, -⟩ := takes_buildRow ps false _ hstart
  rw [Part.build, hbuild, Option.isSome_some]

/-- A pattern fits if its parts do, forwards and back. -/
theorem fits_of_bound {p : Pattern} (hforward : (part false p).bound + outerRoom ≤ limit)
    (hback : (part true p).bound + outerRoom ≤ limit) : p.fits = true := by
  simp only [outerRoom, boundOf, Part.bound] at hforward hback
  rw [fits, Bool.and_eq_true, fitsForward, fitsBack]
  constructor
  · apply isSome_build_of_bound
    split <;> simp only [boundOf, Part.bound] <;> omega
  · apply isSome_build_of_bound
    split <;> simp only [boundOf, Part.bound] <;> omega

end Blockflow.Pattern
