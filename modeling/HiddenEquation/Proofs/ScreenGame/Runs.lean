import HiddenEquation.Proofs.Game.Rejections
import HiddenEquation.Proofs.ScreenGame.Operations

/-!
# Runs of the screen game

A run carries out operations one after another, in any mode. Six kinds of operations come down to
three ways of changing the state: some only touch the buffer and the messages, some submit a buffer,
and one starts another game. Of those that submit a buffer, some earn a row, because the buffer is
accepted as a guess.

## Main definitions

* `ScreenGame.performAll`, `ScreenGame.states` : the state after some operations, and all states on
  the way to it.
* `ScreenGame.submitting?` : the state in which an operation submits the buffer, if it does.
* `ScreenGame.row?`, `ScreenGame.rows` : the row that an operation earns, if it plays an accepted
  guess, and the rows that a run earns.
* `ScreenGame.Performed` : what an operation can do.

## Main results

* `ScreenGame.performed_perform` : every operation does one of three things.
* `ScreenGame.InStep.perform` : mode and session stay in step under every operation.
-/

namespace HiddenEquation.ScreenGame

variable {g : ScreenGame} {corpus : List Equation}

/-! ### The states of a run -/

/-- The state after some operations. -/
def performAll (g : ScreenGame) (actions : List Action) : ScreenGame := actions.foldl perform g

theorem performAll_append (g : ScreenGame) (actions later : List Action) :
    g.performAll (actions ++ later) = (g.performAll actions).performAll later := List.foldl_append

/-- The states of a run, from the first to the last. -/
def states (g : ScreenGame) : List Action → List ScreenGame
  | [] => [g]
  | action :: rest => g :: states (g.perform action) rest

theorem states_append_cons (g : ScreenGame) (actions : List Action) (action : Action)
    (later : List Action) :
    g.states (actions ++ action :: later) =
      g.states actions ++ ((g.performAll actions).perform action).states later := by
  induction actions generalizing g with
  | nil => rfl
  | cons first rest ih => exact congrArg (g :: ·) (ih (g.perform first))

theorem states_concat (g : ScreenGame) (actions : List Action) (action : Action) :
    g.states (actions ++ [action]) = g.states actions ++ [g.performAll (actions ++ [action])] := by
  rw [states_append_cons, performAll_append]
  rfl

/-- A property that every operation preserves holds in all states of a run. -/
theorem forall_mem_states {P : ScreenGame → Prop} (hstep : ∀ g action, P g → P (g.perform action))
    (hg : P g) (actions : List Action) : ∀ state ∈ g.states actions, P state := by
  induction actions generalizing g with
  | nil => simpa [states] using hg
  | cons action rest ih =>
    rw [states, List.forall_mem_cons]
    exact ⟨hg, ih (hstep g action hg)⟩

theorem mem_states (g : ScreenGame) (actions : List Action) : g ∈ g.states actions := by
  cases actions <;> exact List.mem_cons_self

theorem performAll_mem_states (g : ScreenGame) (actions : List Action) :
    g.performAll actions ∈ g.states actions := by
  induction actions generalizing g with
  | nil => exact List.mem_singleton_self g
  | cons action rest ih => exact List.mem_cons_of_mem g (ih (g.perform action))

/-! ### The rows of a run -/

/-- The state in which an operation submits the buffer, if it does. -/
def submitting? (g : ScreenGame) : Action → Option ScreenGame
  | .submit => some g
  | .guess text => some (({ g with buffer := [] } : ScreenGame).typeText text)
  | .type _ | .erase | .newGame | .post _ _ => none

/-- The row that an operation earns, if it plays an accepted guess. -/
def row? (g : ScreenGame) (action : Action) : Option Row :=
  (g.submitting? action).bind fun g => (g.session.submit g.bufferText).answer.toOption

/-- The rows that a run earns, in their order. -/
def rows (g : ScreenGame) : List Action → List Row
  | [] => []
  | action :: rest => (g.row? action).toList ++ rows (g.perform action) rest

theorem rows_concat (g : ScreenGame) (actions : List Action) (action : Action) :
    g.rows (actions ++ [action]) =
      g.rows actions ++ ((g.performAll actions).row? action).toList := by
  induction actions generalizing g with
  | nil => exact List.append_nil _
  | cons first rest ih =>
    rw [List.cons_append, rows, rows, ih, List.append_assoc]
    rfl

/-! ### One operation -/

/-- What an operation can do. -/
inductive Performed (g : ScreenGame) : Action → ScreenGame → Prop
  /-- It touches the buffer and the messages only. -/
  | edited {action : Action} (hquiet : g.submitting? action = none) (buffer : List Symbol)
      (messages : List Message) : Performed g action { g with buffer, messages }
  /-- It submits a buffer. -/
  | submitted {action : Action} {buffer : List Symbol}
      (hsubmitting : g.submitting? action = some { g with buffer }) :
      Performed g action ({ g with buffer } : ScreenGame).submit
  /-- It starts another game. -/
  | restarted : Performed g .newGame g.newGame

/-- Every operation does one of three things. -/
theorem performed_perform (g : ScreenGame) (action : Action) :
    Performed g action (g.perform action) := by
  cases action with
  | type text =>
    obtain ⟨buffer, htype⟩ := g.exists_typeText_eq text
    rw [perform, htype]
    exact .edited rfl buffer g.messages
  | erase => exact .edited rfl _ g.messages
  | submit => exact @Performed.submitted g .submit g.buffer rfl
  | guess text =>
    obtain ⟨buffer, htype⟩ := exists_typeText_eq { g with buffer := [] } text
    rw [perform, htype]
    exact .submitted (by rw [submitting?, htype])
  | newGame => exact .restarted
  | post tone text => exact .edited rfl g.buffer _

/-! ### What a run preserves -/

theorem options_submit (g : ScreenGame) : g.submit.session.options = g.session.options := by
  have hsubmitted := g.submitted_submit
  generalize g.submit = next at hsubmitted
  cases hsubmitted <;> rfl

theorem options_newGame (h : InStep corpus g) :
    g.newGame.session.options = g.session.options := by
  obtain ⟨target, -, hpick⟩ := h.sound.exists_pick?
  obtain ⟨messages, hnext⟩ := exists_newGame_eq hpick
  rw [hnext]
  rfl

/-- The options never change. -/
theorem options_perform (h : InStep corpus g) (action : Action) :
    (g.perform action).session.options = g.session.options := by
  have hperformed := g.performed_perform action
  generalize g.perform action = next at hperformed
  cases hperformed with
  | edited => rfl
  | submitted => exact options_submit _
  | restarted => exact options_newGame h

/-- Mode and session stay in step under every operation. -/
theorem InStep.perform (h : InStep corpus g) (action : Action) :
    InStep corpus (g.perform action) := by
  cases action with
  | type text => exact h.typeText text
  | erase => exact h.erase
  | submit => exact h.submit
  | guess text =>
    have hcleared : InStep corpus { g with buffer := [] } := ⟨h.sound, h.mode_iff, Nat.zero_le _⟩
    exact (hcleared.typeText text).submit
  | newGame => exact h.newGame
  | post tone text => exact h.post tone text

theorem InStep.performAll (h : InStep corpus g) (actions : List Action) :
    InStep corpus (g.performAll actions) := by
  induction actions generalizing g with
  | nil => exact h
  | cons action rest ih => exact ih (h.perform action)

end HiddenEquation.ScreenGame
