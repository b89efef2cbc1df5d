import HiddenEquation.Proofs.ScreenGame.Runs
import Mathlib.Data.List.DropRight

/-!
# The list of messages

Five functions post messages, and each message that is posted may push the oldest one out of the
list. Starting another game empties the list first. This file shows that the list is a window on
everything that was posted since the screen game began, or since the latest game was started: it
shows the last five of these messages, or all of them if there are fewer, oldest first.

What an operation posts can be seen without following it message by message: it is what the
operation leaves in a list that was empty before. No operation posts more messages than the list can
hold, so none of them is lost in this way.

## Main definitions

* `ScreenGame.posted`, `ScreenGame.postedAll` : the messages that an operation posts, and those of
  several operations.
* `ScreenGame.told` : the news about a buffer that is submitted.
* `ScreenGame.opening` : the messages at the beginning of a game.

## Main results

* `ScreenGame.messages_perform` : an operation moves the window over what it posts.
* `ScreenGame.posted_of_submitting` : submitting a buffer posts the news about it.
* `ScreenGame.messages_performAll` : the window after a run without another game.
* `ScreenGame.messages_show_latest` : the window after every run.
-/

namespace HiddenEquation.ScreenGame

variable {g : ScreenGame}

/-! ### Windows -/

section Window

variable {α : Type} {n : Nat}

theorem length_rtake_le (l : List α) (n : Nat) : (l.rtake n).length ≤ n := by
  rw [List.rtake, List.length_drop]
  omega

theorem rtake_of_length_le {l : List α} (h : l.length ≤ n) : l.rtake n = l := by
  rw [List.rtake, Nat.sub_eq_zero_of_le h, List.drop_zero]

/-- What was outside the window stays outside when more is appended. -/
theorem rtake_rtake_append (l later : List α) (n : Nat) :
    (l.rtake n ++ later).rtake n = (l ++ later).rtake n := by
  simp only [List.rtake_eq_reverse_take_reverse, List.reverse_append, List.reverse_reverse,
    List.take_append, List.take_take, Nat.min_eq_left (Nat.sub_le _ _)]

end Window

/-! ### Posting -/

theorem messages_post_eq_rtake (h : g.messages.length ≤ maxMessages) (tone : Tone) (text : String) :
    (g.post tone text).messages = (g.messages ++ [Message.mk tone text]).rtake maxMessages := by
  have hlength : (g.messages ++ [Message.mk tone text]).length = g.messages.length + 1 :=
    List.length_append
  simp only [post, List.rtake, hlength]
  split
  case isTrue hfull =>
    have hone : g.messages.length + 1 - maxMessages = 1 := by omega
    rw [hone]
  case isFalse hroom => rw [Nat.sub_eq_zero_of_le (Nat.le_of_not_lt hroom), List.drop_zero]

theorem messages_post_post_eq_rtake (h : g.messages.length ≤ maxMessages) (tone tone' : Tone)
    (text text' : String) : ((g.post tone text).post tone' text').messages =
      (g.messages ++ [Message.mk tone text, Message.mk tone' text']).rtake maxMessages := by
  have hfirst := messages_post_eq_rtake h tone text
  have hroom : (g.post tone text).messages.length ≤ maxMessages := by
    rw [hfirst]
    exact length_rtake_le _ _
  rw [messages_post_eq_rtake hroom, hfirst, rtake_rtake_append, List.append_assoc]
  rfl

/-! ### The beginning of a game -/

/-- The messages at the beginning of a game: a greeting, and the target for a player who asked to
see it. -/
def opening (greeting : String) (session : Session) : List Message :=
  ⟨.info, greeting⟩ ::
    if session.options.showTarget then [⟨.info, "Target equation: " ++ session.target.text⟩] else []

theorem messages_greeted (hempty : g.messages = []) (greeting : String) :
    ((g.post .info greeting).announceTarget).messages = opening greeting g.session := by
  have hroom : g.messages.length ≤ maxMessages := by simp [hempty]
  have hsession : (g.post .info greeting).session = g.session := rfl
  rw [announceTarget, opening, hsession]
  split
  case isTrue =>
    rw [messages_post_post_eq_rtake hroom, hempty]
    rfl
  case isFalse =>
    rw [messages_post_eq_rtake hroom, hempty]
    rfl

/-- The screen game begins by welcoming the player. -/
theorem messages_start (session : Session) : (start session).messages =
    opening "Welcome! Guess the hidden equation in six tries." session :=
  messages_greeted (g := { session }) rfl _

/-- Another game begins with an empty list. -/
theorem messages_newGame (hc : g.session.corpus ≠ []) :
    g.newGame.messages = opening "New game started!" g.newGame.session := by
  obtain ⟨target, hpick⟩ := Selection.exists_pick? g.session.options.selection hc
    (g.session.draws g.session.drawn)
  obtain ⟨messages, hnext⟩ := exists_newGame_eq hpick
  have hsession : g.newGame.session = g.session.restarted target := by
    rw [hnext]
    rfl
  rw [hsession, newGame_of_pick hpick]
  exact messages_greeted (g := g.restarted target) rfl _

/-! ### Submitting a buffer -/

/-- The news about a buffer that is submitted: that the game is over, why the buffer is no guess,
how many attempts remain, or how the game has ended and what to do next. -/
def told (g : ScreenGame) : List Message :=
  if g.session.isOver then [⟨.error, SessionError.gameOver.message⟩]
  else
    match Guess.validate g.bufferText with
    | .error reason => [⟨.error, rejectionText g.session.options reason⟩]
    | .ok guess =>
      if (g.session.play guess).status = .active then
        [⟨.info, toString (g.session.play guess).remaining ++ " attempts remaining"⟩]
      else [verdict (g.session.play guess), farewell]

section Told

variable {reason : Rejection} {guess : Equation}

theorem told_of_isOver (hover : g.session.isOver = true) :
    g.told = [⟨.error, SessionError.gameOver.message⟩] := if_pos hover

theorem told_of_rejected (hopen : g.session.isOver = false)
    (hreason : Guess.validate g.bufferText = .error reason) :
    g.told = [⟨.error, rejectionText g.session.options reason⟩] := by
  rw [told, if_neg (Bool.eq_false_iff.mp hopen), hreason]

theorem told_of_active (hopen : g.session.isOver = false)
    (hguess : Guess.validate g.bufferText = .ok guess)
    (hstatus : (g.session.play guess).status = .active) :
    g.told = [⟨.info, toString (g.session.play guess).remaining ++ " attempts remaining"⟩] := by
  rw [told, if_neg (Bool.eq_false_iff.mp hopen), hguess]
  exact if_pos hstatus

theorem told_of_ended (hopen : g.session.isOver = false)
    (hguess : Guess.validate g.bufferText = .ok guess)
    (hstatus : (g.session.play guess).status ≠ .active) :
    g.told = [verdict (g.session.play guess), farewell] := by
  rw [told, if_neg (Bool.eq_false_iff.mp hopen), hguess]
  exact if_neg hstatus

end Told

theorem messages_submit (h : g.messages.length ≤ maxMessages) :
    g.submit.messages = (g.messages ++ g.told).rtake maxMessages := by
  have hsubmitted := g.submitted_submit
  generalize g.submit = next at hsubmitted
  cases hsubmitted with
  | refused hover journal =>
    rw [told_of_isOver hover]
    exact messages_post_eq_rtake (g := { g with journal }) h _ _
  | @rejected reason hopen hreason journal =>
    rw [told_of_rejected hopen hreason]
    exact messages_post_eq_rtake (g := g.noted reason journal) h _ _
  | @won guess hopen hguess hstatus journal =>
    rw [told_of_ended hopen hguess (by simp [hstatus]), verdict,
      if_pos (Session.status_eq_won_iff.mp hstatus)]
    exact messages_post_post_eq_rtake h _ _ _ _
  | @lost guess hopen hguess hstatus journal =>
    have hlost := (Session.status_eq_lost_iff.mp hstatus).1
    rw [told_of_ended hopen hguess (by simp [hstatus]), verdict,
      if_neg (Bool.eq_false_iff.mp hlost)]
    exact messages_post_post_eq_rtake h _ _ _ _
  | @active guess hopen hguess hstatus journal =>
    rw [told_of_active hopen hguess hstatus]
    exact messages_post_eq_rtake (g := g.played guess journal) h _ _

/-- A buffer that is submitted brings two messages if it ends the game, and one otherwise. -/
theorem length_told (g : ScreenGame) : g.told.length =
    if g.session.status = .active ∧ g.submit.session.status ≠ .active then 2 else 1 := by
  have hsubmitted := g.submitted_submit
  generalize g.submit = next at hsubmitted
  have hactive (hopen : g.session.isOver = false) : g.session.status = .active :=
    Session.isOver_eq_false_iff_status.mp hopen
  cases hsubmitted with
  | refused hover journal =>
    rw [told_of_isOver hover, if_neg fun h => Session.isOver_iff_status.mp hover h.1]
    rfl
  | rejected hopen hreason journal =>
    rw [told_of_rejected hopen hreason, if_neg fun h => h.2 (hactive hopen)]
    rfl
  | @won guess hopen hguess hstatus journal | @lost guess hopen hguess hstatus journal =>
    have hended : (g.session.play guess).status ≠ .active := by simp [hstatus]
    rw [told_of_ended hopen hguess hended, if_pos ⟨hactive hopen, hended⟩]
    rfl
  | active hopen hguess hstatus journal =>
    rw [told_of_active hopen hguess hstatus, if_neg fun h => h.2 hstatus]
    rfl

/-! ### One operation -/

section Operation

variable {action : Action} {ready : ScreenGame}

/-- The messages that an operation posts: what it leaves in a list that was empty before. -/
def posted (g : ScreenGame) (action : Action) : List Message :=
  (({ g with messages := [] } : ScreenGame).perform action).messages

theorem typeText_messages (g : ScreenGame) (messages : List Message) (text : String) :
    ({ g with messages } : ScreenGame).typeText text = { g.typeText text with messages } := by
  have htype (g : ScreenGame) (c : Char) :
      ({ g with messages } : ScreenGame).type c = { g.type c with messages } := by
    rw [type, type]
    split
    · split <;> rfl
    · rfl
  rw [typeText, typeText]
  induction text.toList generalizing g with
  | nil => rfl
  | cons c rest ih => rw [List.foldl_cons, List.foldl_cons, htype, ih]

/-- The messages do not bear on the buffer that is submitted. -/
theorem submitting?_messages (h : g.submitting? action = some ready) (messages : List Message) :
    ({ g with messages } : ScreenGame).submitting? action = some { ready with messages } := by
  cases action with
  | submit =>
    cases h
    rfl
  | guess text =>
    cases h
    exact congrArg some (typeText_messages { g with buffer := [] } messages text)
  | type | erase | newGame | post => cases h

theorem perform_eq_submit (h : g.submitting? action = some ready) :
    g.perform action = ready.submit := by
  cases action with
  | submit | guess =>
    cases h
    rfl
  | type | erase | newGame | post => cases h

theorem messages_perform_submitting (h : g.submitting? action = some ready)
    {messages : List Message} (hroom : messages.length ≤ maxMessages) :
    (({ g with messages } : ScreenGame).perform action).messages =
      (messages ++ ready.told).rtake maxMessages := by
  rw [perform_eq_submit (submitting?_messages h messages)]
  exact messages_submit (g := { ready with messages }) hroom

/-- Submitting a buffer posts the news about it. -/
theorem posted_of_submitting (h : g.submitting? action = some ready) :
    g.posted action = ready.told := by
  have hfits : ready.told.length ≤ maxMessages := by
    rw [length_told]
    split <;> decide
  rw [posted, messages_perform_submitting h (Nat.zero_le _), List.nil_append,
    rtake_of_length_le hfits]

/-- An operation that starts no game moves the window over what it posts. -/
theorem messages_perform (hstays : action ≠ .newGame) (hroom : g.messages.length ≤ maxMessages) :
    (g.perform action).messages = (g.messages ++ g.posted action).rtake maxMessages := by
  have hsilent : g.messages = (g.messages ++ []).rtake maxMessages := by
    rw [List.append_nil, rtake_of_length_le hroom]
  have htyped (text : String) (g : ScreenGame) : (g.typeText text).messages = g.messages := by
    obtain ⟨buffer, htype⟩ := g.exists_typeText_eq text
    rw [htype]
  cases action with
  | type text => rw [posted, perform, perform, htyped, htyped, ← hsilent]
  | erase => exact hsilent
  | submit | guess =>
    rw [posted_of_submitting rfl]
    exact messages_perform_submitting rfl hroom
  | newGame => exact absurd rfl hstays
  | post tone text => exact messages_post_eq_rtake hroom tone text

end Operation

/-! ### Runs -/

/-- The messages that several operations post, one after another. -/
def postedAll (g : ScreenGame) : List Action → List Message
  | [] => []
  | action :: rest => g.posted action ++ postedAll (g.perform action) rest

/-- As long as no game is started, the window moves over everything that is posted. -/
theorem messages_performAll {earlier : List Message} (h : g.messages = earlier.rtake maxMessages)
    {actions : List Action} (hstays : .newGame ∉ actions) :
    (g.performAll actions).messages = (earlier ++ g.postedAll actions).rtake maxMessages := by
  induction actions generalizing g earlier with
  | nil =>
    rw [postedAll, List.append_nil]
    exact h
  | cons action rest ih =>
    obtain ⟨hfirst, hrest⟩ := not_or.mp (mt List.mem_cons.mpr hstays)
    have hroom : g.messages.length ≤ maxMessages := h ▸ length_rtake_le _ _
    have hnext : (g.perform action).messages =
        (earlier ++ g.posted action).rtake maxMessages := by
      rw [messages_perform (Ne.symm hfirst) hroom, h, rtake_rtake_append]
    rw [postedAll, ← List.append_assoc]
    exact ih hnext hrest

theorem opening_eq_rtake (greeting : String) (session : Session) :
    opening greeting session = (opening greeting session).rtake maxMessages := by
  refine (rtake_of_length_le ?_).symm
  rw [opening]
  split <;> simp [maxMessages]

/-- The corpus of a session that has begun never becomes empty. -/
theorem corpus_performAll (hc : g.session.corpus ≠ []) (actions : List Action) :
    (g.performAll actions).session.corpus ≠ [] := by
  induction actions generalizing g with
  | nil => exact hc
  | cons action rest ih =>
    refine ih ?_
    have hperformed := g.performed_perform action
    generalize g.perform action = next at hperformed
    cases hperformed with
    | edited => exact hc
    | @submitted _ buffer hsubmitting =>
      have hsubmitted := submitted_submit { g with buffer }
      generalize ({ g with buffer } : ScreenGame).submit = next at hsubmitted
      cases hsubmitted <;> exact hc
    | restarted =>
      obtain ⟨target, hpick⟩ := Selection.exists_pick? g.session.options.selection hc
        (g.session.draws g.session.drawn)
      obtain ⟨messages, hnext⟩ := exists_newGame_eq hpick
      rw [hnext]
      exact hc

/-- **The list shows the latest messages.** Begin a screen game with any session and carry out
operations. As long as no other game is started, the list shows the last five of the messages that
were posted since the beginning, the welcome among them. After another game was started, it shows
the last five of those posted since then, which begin with the news of that game. Submitting a
buffer posts two messages if it ends the game that goes on, and one otherwise. -/
theorem messages_show_latest {corpus : List Equation} {session : Session}
    (hsession : Session.Reachable corpus session) :
    (∀ actions, .newGame ∉ actions → ((start session).performAll actions).messages =
      (opening "Welcome! Guess the hidden equation in six tries." session ++
        (start session).postedAll actions).rtake 5) ∧
    (∀ earlier later, .newGame ∉ later →
      let renewed := ((start session).performAll earlier).perform .newGame
      ((start session).performAll (earlier ++ .newGame :: later)).messages =
        (opening "New game started!" renewed.session ++ renewed.postedAll later).rtake 5) ∧
    ∀ (g : ScreenGame) (action : Action) (ready : ScreenGame),
      g.submitting? action = some ready → (g.posted action).length =
        if ready.session.status = .active ∧ (g.perform action).session.status ≠ .active then 2
        else 1 := by
  have hsound := Session.Sound.reachable hsession
  have hc : (start session).session.corpus ≠ [] := by
    obtain ⟨messages, hstart⟩ := exists_start_eq session
    rw [hstart]
    exact hsound.corpus_eq ▸ List.ne_nil_of_mem hsound.target_mem
  refine ⟨fun actions hstays => ?_, fun earlier later hstays => ?_, fun g action ready h => ?_⟩
  · exact messages_performAll ((messages_start session).trans (opening_eq_rtake _ _)) hstays
  · rw [performAll_append]
    have hrenewed := messages_newGame (corpus_performAll hc earlier)
    exact messages_performAll (hrenewed.trans (opening_eq_rtake _ _)) hstays
  · rw [posted_of_submitting h, length_told, perform_eq_submit h]

/-- A screen game with a session in which a guess was played already. Eight messages are posted up
to the end of the game and after it, and four in the next game. -/
theorem messages_show_latest_two_games :
    let target : Equation := ⟨[.digit 1, .operator .add, .digit 2, .operator .add, .digit 3,
      .equals, .digit 6], rfl⟩
    let options : GameOptions := { GameOptions.fixed with showTarget := true }
    let session := (Session.opened [target] options id target).after
      [.submit "12+3=15"]
    let g := start session
    let game : List Action := [.guess "6-5+1=2", .guess "1+1", .guess "1+2+3=6", .submit,
      .post .info "Well done!"]
    let next : List Action := [.type "1+", .submit, .post .error "Go on!"]
    let renewed := (g.performAll game).perform .newGame
    let welcome := opening "Welcome! Guess the hidden equation in six tries." session
    let news := opening "New game started!" renewed.session
    let winner := ({ g with buffer := [] } : ScreenGame).typeText "1+2+3=6"
    Session.Reachable [target] session ∧ .newGame ∉ game ∧ .newGame ∉ next ∧
      (welcome ++ g.postedAll game).length = 8 ∧ (news ++ renewed.postedAll next).length = 4 ∧
      (g.performAll game).messages = (welcome ++ g.postedAll game).rtake 5 ∧
      (g.performAll (game ++ .newGame :: next)).messages =
        (news ++ renewed.postedAll next).rtake 5 ∧
      g.submitting? (.guess "1+2+3=6") = some winner ∧
      (winner.session.status = .active ∧
        (g.perform (.guess "1+2+3=6")).session.status ≠ .active) ∧
      (g.posted (.guess "1+2+3=6")).length = 2 := by
  intro target options session g game next renewed welcome news winner
  have hsession : Session.Reachable [target] session := ⟨options, id, _, _, rfl, rfl⟩
  have hgame : .newGame ∉ game := by decide
  have hnext : .newGame ∉ next := by decide
  have hwinner : g.submitting? (.guess "1+2+3=6") = some winner := rfl
  have hends : winner.session.status = .active ∧
      (g.perform (.guess "1+2+3=6")).session.status ≠ .active := by decide +kernel
  obtain ⟨hwelcomed, hrenewed, hposted⟩ := messages_show_latest hsession
  have htwo := hposted g (.guess "1+2+3=6") winner hwinner
  rw [if_pos hends] at htwo
  exact ⟨hsession, hgame, hnext, by decide +kernel, by decide +kernel, hwelcomed game hgame,
    hrenewed game next hnext, hwinner, hends, htwo⟩

end HiddenEquation.ScreenGame
