import HiddenEquation.Proofs.Audit.Report
import HiddenEquation.Proofs.Game.Views

/-!
# Games that can be won

A game is won by typing its target, and in no other way: only the target earns a perfect row. The
target can be typed exactly if its text is accepted as a guess, which is what an audit asks of every
equation of a corpus. So the equations that an audit lists are those targets that nobody can find,
however long the game is played.

## Main definitions

* `Session.WinsWith` : a text that wins the current game at once.

## Main results

* `Session.winsWith_target` : an accepted target wins every game that goes on.
* `Session.validate_target_of_won` : the target of a game that is won is accepted.
* `Session.winnable_iff_audited` : a game can be won exactly if its target passes the audit.
-/

namespace HiddenEquation

namespace Session

variable {corpus : List Equation} {s : Session}

/-! ### The target wins, and nothing else does -/

/-- Typing a text wins the current game at once. -/
def WinsWith (s : Session) (text : String) : Prop :=
  (s.submit text).answer = .ok Row.perfect ∧ (s.submit text).session.status = .won

theorem winsWith_target (hactive : s.status = .active)
    (htarget : Guess.validate s.target.text = .ok s.target) : s.WinsWith s.target.text := by
  have hopen : s.isOver = false := isOver_eq_false_iff_status.mpr hactive
  have hperfect : feedback s.target s.target = Row.perfect := feedback_eq_perfect_iff.mpr rfl
  obtain ⟨hanswer, hsession⟩ := submit_accepted hopen htarget
  have hwon : (s.play s.target).won = true := Sound.isPerfect_iff.mpr hperfect
  constructor
  · rw [hanswer, hperfect]
  · rw [hsession, status_eq_won_iff, hwon]

/-- The target of a game that is won has been played, so it is accepted as a guess. -/
theorem validate_target_of_won (h : Reachable corpus s) (hwon : s.status = .won) :
    Guess.validate s.target.text = .ok s.target := by
  obtain ⟨row, hlast⟩ := (Sound.reachable h).won_iff_target.mp (status_eq_won_iff.mp hwon)
  exact (UpToDate.reachable h).accepted (s.target, row) (List.mem_of_getLast? hlast)

theorem not_won_of_rejected (h : Reachable corpus s) {reason : Rejection}
    (hrejected : Guess.validate s.target.text = .error reason) : s.status ≠ .won := by
  intro hwon
  rw [validate_target_of_won h hwon] at hrejected
  cases hrejected

theorem target_after_submit (s : Session) (text : String) :
    (s.submit text).session.target = s.target := by
  rw [submit]
  split
  · rfl
  · cases Guess.validate text <;> rfl

/-- **A game can be won exactly if its target passes the audit.** While a game goes on, an accepted
target wins it at once, and a rejected target is not found by any moves that end with this target.
So every game on a clean corpus can be won as long as it goes on, and no game is ever won whose
target the audit lists. -/
theorem winnable_iff_audited (h : Reachable corpus s) :
    (s.status = .active → ((∃ moves, (s.after moves).target = s.target ∧
        (s.after moves).status = .won) ↔ auditEntry s.target = none)) ∧
    ((∃ e, Guess.validate s.target.text = .ok e) → s.status = .active →
      s.WinsWith s.target.text) ∧
    ((∃ reason, Guess.validate s.target.text = .error reason) → ∀ moves,
      (s.after moves).target = s.target → (s.after moves).status ≠ .won) ∧
    ((audit corpus).isClean = true → s.status = .active → s.WinsWith s.target.text) ∧
    ∀ failure ∈ (audit corpus).failures, ∀ moves,
      (s.after moves).target = failure.1 → (s.after moves).status ≠ .won := by
  have hrejected {reason : Rejection} {target : Equation}
      (herror : Guess.validate target.text = .error reason) (moves : List Move)
      (htarget : (s.after moves).target = target) : (s.after moves).status ≠ .won :=
    not_won_of_rejected (h.after moves) (htarget ▸ herror)
  refine ⟨fun hactive => ?_, ?_, ?_, ?_, ?_⟩
  · rw [auditEntry_eq_none_iff]
    constructor
    · rintro ⟨moves, htarget, hwon⟩
      rw [← htarget]
      exact validate_target_of_won (h.after moves) hwon
    · intro haccepted
      exact ⟨[.submit s.target.text], target_after_submit s _,
        (winsWith_target hactive haccepted).2⟩
  · rintro ⟨e, he⟩ hactive
    exact winsWith_target hactive (Guess.eq_of_validate_text he ▸ he)
  · rintro ⟨reason, herror⟩ moves htarget
    exact hrejected herror moves htarget
  · intro hclean hactive
    exact winsWith_target hactive (isClean_iff.mp hclean _ (Sound.reachable h).target_mem)
  · intro failure hfailure moves htarget
    exact hrejected (mem_failures_iff.mp hfailure).2 moves htarget

/-- A corpus of one equation that balances, and one of an equation that does not. -/
theorem winnable_and_unwinnable :
    let good : Equation := ⟨[.digit 1, .operator .add, .digit 2, .operator .add, .digit 3,
      .equals, .digit 6], rfl⟩
    let bad : Equation := ⟨[.digit 1, .operator .add, .digit 2, .operator .add, .digit 3,
      .equals, .digit 7], rfl⟩
    (opened [good] GameOptions.fixed id good).WinsWith "1+2+3=6" ∧
      (audit [good]).isClean = true ∧ (bad, .sidesDiffer) ∈ (audit [bad]).failures ∧
      ((opened [bad] GameOptions.fixed id bad).after
        [.submit "1+2+3=7", .submit "1+2+3=6"]).status ≠ .won := by
  intro good bad
  have hgood : Reachable [good] (opened [good] GameOptions.fixed id good) :=
    ⟨GameOptions.fixed, id, _, [], rfl, rfl⟩
  have hbad : Reachable [bad] (opened [bad] GameOptions.fixed id bad) :=
    ⟨GameOptions.fixed, id, _, [], rfl, rfl⟩
  have hgoodText : good.text = "1+2+3=6" := rfl
  have hclean : (audit [good]).isClean = true := by
    simp only [isClean_iff, List.forall_mem_singleton, hgoodText]
    rfl
  have hbadText : bad.text = "1+2+3=7" := rfl
  have hfailure : (bad, .sidesDiffer) ∈ (audit [bad]).failures := by
    simp only [mem_failures_iff, List.mem_singleton, hbadText, true_and]
    rfl
  exact ⟨(winnable_iff_audited hgood).2.2.2.1 hclean rfl, hclean, hfailure,
    (winnable_iff_audited hbad).2.2.2.2 _ hfailure _ rfl⟩

end Session

end HiddenEquation
