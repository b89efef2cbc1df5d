import HiddenEquation.CommandLine.Run
import HiddenEquation.Proofs.LineGame.Refinement
import HiddenEquation.Proofs.Print.Display
import Mathlib.Data.List.Infix

/-!
# What the line game prints

The player of a line game sees neither a session nor a list of notices, but text on a terminal:
rules, prompts, rejected lines, and in between the hints on each accepted guess and the end of each
game. This file reads that text from the outside. Four headings announce what is news about guesses
and games. The places at which they stand are found by looking for them in the whole text, whoever
printed it, and at each of them the text goes on as it should: the hints show the guess, its squares
and the symbols that are left, each symbol of the guess in the look of its colour, and a victory
shows the number of guesses.

No other part of the text may look like news by accident, not even across the border between two
parts that are printed one after the other. A text is silent if none of its ends is the beginning of
a heading or has one at its beginning. Silent texts can be joined, and all that is printed is silent
except for the headings themselves.

## Main definitions

* `display` : what a terminal shows of printed pieces.
* `Notice.headings`, `Notice.newsPlaces` : how news begin, and the places at which they stand.
* `Notice.reading`, `Notice.StandsAt` : the text of a piece of news, and that it stands at a place.
* `Notice.Silent` : nothing in a text is part of a heading.

## Main results

* `display_eq` : pieces are shown one after another, each in its look.
* `Notice.forall₂_standsAt` : of any notices, the news and nothing else are found on the display.
* `LineGame.play_refines_plain_game` : the line game is the machine that states the rules, and its
  output tells what the rules say.
-/

namespace HiddenEquation

open Terminal

/-! ### Displays -/

/-- The characters that a terminal shows of printed pieces, each with its look. -/
def display (color : Bool) (pieces : List Piece) : List (Char × Look) :=
  shown [] .text (Piece.renderAll color pieces).toList

/-- The characters of a piece, in its own look if there are colours. -/
def Piece.glyphs (color : Bool) (piece : Piece) : List (Char × Look) :=
  piece.text.toList.map (·, if color then piece.look else [])

/-- Pieces are shown one after another, each in its look. -/
theorem display_eq {pieces : List Piece} (h : ∀ piece ∈ pieces, escape ∉ piece.text.toList)
    (color : Bool) : display color pieces = pieces.flatMap (Piece.glyphs color) := by
  cases color with
  | true => exact Piece.shown_renderAll h
  | false =>
    have hplain : escape ∉ (Piece.renderAll false pieces).toList := by
      rw [Piece.toList_renderAll_false, List.mem_flatMap]
      rintro ⟨piece, hpiece, hescape⟩
      exact h piece hpiece hescape
    have hshown := shown_plain hplain [] []
    rw [List.append_nil] at hshown
    rw [display, hshown, Piece.toList_renderAll_false, List.map_flatMap]
    exact List.append_nil _

/-! ### Places of news -/

namespace Notice

/-- How news begin: hints, a victory, a defeat, and another game. -/
def headings : List String := ["Hints:", "🎉 You won!", "You lost.", "🔄 New game started!"]

/-- The text of hints: the guess and its squares, what the colours mean, and the symbols that are
left. -/
def hintsText (guess : Equation) (row : Row) (unused : List Symbol) : String :=
  "Hints:\n  " ++ guess.text ++ "   " ++ row.emoji ++
    "\n  Green right place  Orange wrong place  Grey not in the equation\n" ++
    "You have not used these numbers and symbols yet: " ++
    spaced (unused.map Symbol.toChar) ++ "\n"

/-- The text of a victory with so many guesses. -/
def victoryText (used : Nat) : String :=
  "🎉 You won! Solved in " ++ toString used ++ (if used = 1 then " guess" else " guesses") ++ "\n"

/-- The text of a defeat. -/
def defeatText (target : Equation) : String := "You lost. The answer was: " ++ target.text ++ "\n"

/-- The text of a piece of news without paint. -/
def reading : Notice → String
  | hints guess row unused => hintsText guess row unused
  | victory used => victoryText used
  | defeat e => defeatText e
  | restarted => "🔄 New game started!\n\n"
  | rules | target _ | attempts _ | prompt _ | rejected _ | farewell => ""

/-- A text begins as news do. -/
def BeginsNews (cs : List Char) : Prop := ∃ heading ∈ headings, heading.toList <+: cs

instance (cs : List Char) : Decidable (BeginsNews cs) :=
  inferInstanceAs (Decidable (∃ heading ∈ headings, heading.toList <+: cs))

/-- The places of a display at which news begin, in order, each with all that is shown from there
on. -/
def newsPlaces (cells : List (Char × Look)) : List (List (Char × Look)) :=
  cells.tails.filter fun place => BeginsNews (place.map Prod.fst)

/-- A piece of news stands at a place of a display: its text is shown there, and behind the heading
of hints, each symbol of the guess has the look of its colour, if there are colours. -/
structure StandsAt (color : Bool) (notice : Notice) (place : List (Char × Look)) : Prop where
  reads : notice.reading.toList <+: place.map Prod.fst
  looks : ∀ guess row unused, notice = .hints guess row unused →
    ((place.drop "Hints:\n  ".length).take equationLength).map Prod.snd =
      row.colors.map fun c => if color then c.look else []

/-! ### Silent texts -/

/-- Nothing in a text is part of a heading, whatever follows it, and nothing starts an escape
sequence. -/
def Silent (cs : List Char) : Prop :=
  escape ∉ cs ∧ ∀ tail ∈ cs.tails, tail ≠ [] → ∀ heading ∈ headings,
    ¬heading.toList <+: tail ∧ ¬tail <+: heading.toList

instance (cs : List Char) : Decidable (Silent cs) :=
  inferInstanceAs (Decidable (escape ∉ cs ∧ ∀ tail ∈ cs.tails, tail ≠ [] →
    ∀ heading ∈ headings, ¬heading.toList <+: tail ∧ ¬tail <+: heading.toList))

namespace Silent

variable {c : Char} {cs more : List Char}

theorem nil : Silent [] := by
  refine ⟨List.not_mem_nil, fun tail htail hne => ?_⟩
  exact absurd (List.mem_singleton.mp htail) hne

/-- A text between quotes is silent if its characters are. -/
theorem ofList (h : Silent cs) : Silent (String.ofList cs).toList := by
  rwa [String.toList_ofList]

theorem tail (h : Silent (c :: cs)) : Silent cs := by
  refine ⟨fun hescape => h.1 (List.mem_cons_of_mem c hescape), fun tail htail => ?_⟩
  have hsuffix : tail <:+ c :: cs := ((List.mem_tails _ _).mp htail).trans (List.suffix_cons c cs)
  exact h.2 tail ((List.mem_tails _ _).mpr hsuffix)

/-- What begins with a silent text does not begin as news do. -/
theorem not_beginsNews (h : Silent (c :: cs)) (rest : List Char) :
    ¬BeginsNews (c :: cs ++ rest) := by
  rintro ⟨heading, hheading, hbegins⟩
  obtain ⟨hlong, hshort⟩ := h.2 (c :: cs) (by simp) (by simp) heading hheading
  -- both are beginnings of the same text, so one of them is the beginning of the other
  exact (List.prefix_or_prefix_of_prefix hbegins (List.prefix_append _ _)).elim hlong hshort

theorem append (h : Silent cs) (hmore : Silent more) : Silent (cs ++ more) := by
  refine ⟨by simp [h.1, hmore.1], ?_⟩
  induction cs with
  | nil => exact hmore.2
  | cons c cs ih =>
    intro tail htail hne heading hheading
    rw [List.mem_tails, List.cons_append, List.suffix_cons_iff] at htail
    obtain rfl | htail := htail
    · refine ⟨fun hbegins => h.not_beginsNews more ⟨heading, hheading, hbegins⟩, fun hwithin => ?_⟩
      have hpart : c :: cs <+: heading.toList := (List.prefix_append (c :: cs) more).trans hwithin
      exact (h.2 (c :: cs) (by simp) (by simp) heading hheading).2 hpart
    · exact ih h.tail tail ((List.mem_tails _ _).mpr htail) hne heading hheading

end Silent

/-! ### Quiet texts -/

/-- The characters with which headings begin, and the one that starts an escape sequence. -/
def signals : List Char := ['H', '🎉', 'Y', '🔄', escape]

/-- A text without any signal. -/
def Quiet (text : String) : Prop := ∀ c ∈ text.toList, c ∉ signals

namespace Quiet

variable {text more : String}

/-- A text between quotes is quiet if its characters are no signals. -/
theorem ofList {cs : List Char} (h : (cs.all fun c => !signals.contains c) = true) :
    Quiet (String.ofList cs) := by
  intro c hc
  rw [String.toList_ofList] at hc
  simpa using List.all_eq_true.mp h c hc

theorem append (h : Quiet text) (hmore : Quiet more) : Quiet (text ++ more) := by
  intro c hc
  rw [String.toList_append, List.mem_append] at hc
  exact hc.elim (h c) (hmore c)

/-- No heading starts in a quiet text. -/
theorem silent (h : Quiet text) : Silent text.toList := by
  have hheadings : ∀ heading ∈ headings, heading.toList.head?.any signals.contains = true := by
    decide
  refine ⟨fun hescape => h escape hescape (by decide), ?_⟩
  intro tail htail hne heading hheading
  obtain ⟨c, hhead, hsignal⟩ := (Option.any_eq_true _ _).mp (hheadings heading hheading)
  have hc : c ∈ signals := List.contains_iff_mem.mp hsignal
  obtain ⟨cs, hcs⟩ := List.head?_eq_some_iff.mp hhead
  obtain ⟨d, rest, rfl⟩ := List.exists_cons_of_ne_nil hne
  have hd : d ∉ signals :=
    h d (((List.mem_tails _ _).mp htail).subset List.mem_cons_self)
  rw [hcs, List.cons_prefix_cons, List.cons_prefix_cons]
  exact ⟨fun hbegins => hd (hbegins.1 ▸ hc), fun hwithin => hd (hwithin.1 ▸ hc)⟩

end Quiet

theorem toChar_not_mem_signals (s : Symbol) : s.toChar ∉ signals := by
  match s with
  | .digit d => revert d; decide
  | .operator o => cases o <;> decide
  | .equals => decide

/-- The texts of equations are quiet. -/
theorem quiet_text (e : Equation) : Quiet e.text := by
  intro c hc
  rw [Equation.text, String.toList_ofList] at hc
  obtain ⟨s, -, rfl⟩ := List.mem_map.mp hc
  exact toChar_not_mem_signals s

theorem quiet_emoji (row : Row) : Quiet row.emoji := by
  intro c hc
  rw [Row.emoji, String.toList_ofList] at hc
  obtain ⟨color, -, rfl⟩ := List.mem_map.mp hc
  cases color <;> decide

theorem quiet_intercalate {separator : String} {texts : List String} (hseparator : Quiet separator)
    (h : ∀ text ∈ texts, Quiet text) : Quiet (separator.intercalate texts) := by
  induction texts with
  | nil => simp [Quiet]
  | cons text rest ih =>
    obtain ⟨htext, hrest⟩ := List.forall_mem_cons.mp h
    cases rest with
    | nil => rwa [String.intercalate_singleton]
    | cons next rest =>
      rw [String.intercalate_cons_cons]
      exact (htext.append hseparator).append (ih hrest)

theorem quiet_join {texts : List String} (h : ∀ text ∈ texts, Quiet text) :
    Quiet (String.join texts) := by
  intro c hc
  rw [String.toList_join, List.mem_flatMap] at hc
  obtain ⟨text, htext, hc⟩ := hc
  exact h text htext c hc

theorem quiet_spaced (symbols : List Symbol) : Quiet (spaced (symbols.map Symbol.toChar)) := by
  refine quiet_intercalate (.ofList (by decide)) ?_
  rw [List.map_map, List.forall_mem_map]
  intro s _
  simpa [Quiet] using toChar_not_mem_signals s

/-- Numbers are quiet, since no signal is a digit. -/
theorem quiet_toString (n : Nat) : Quiet (toString n) := by
  have hsignals : (signals.any Char.isDigit) = false := by decide
  intro c hc hsignal
  rw [Nat.toString_eq_repr, Nat.toList_repr] at hc
  have hdigit := Nat.isDigit_of_mem_toDigits (by decide) (by decide) hc
  exact absurd hdigit (List.any_eq_false.mp hsignals c hsignal)

theorem quiet_attemptsGauge (remaining total : Nat) : Quiet (attemptsGauge remaining total) := by
  intro c hc
  rw [attemptsGauge, String.toList_ofList, List.mem_append] at hc
  obtain hc | hc := hc
  · rw [List.eq_of_mem_replicate hc]
    decide
  · rw [List.eq_of_mem_replicate hc]
    decide

theorem quiet_message (reason : Rejection) : Quiet reason.message := by
  cases reason <;> exact .ofList (by decide)

theorem quiet_separator : Quiet separator := by
  refine .append (.ofList (List.all_eq_true.mpr fun c hc => ?_)) (.ofList (by decide))
  rw [List.eq_of_mem_replicate hc]
  decide

theorem quiet_paintGuess (guess : Equation) (row : Row) :
    ∀ piece ∈ paintGuess guess row, Quiet piece.text := by
  intro piece hpiece
  obtain ⟨⟨s, c⟩, -, rfl⟩ := List.mem_map.mp hpiece
  simpa [Quiet, Piece.painted] using toChar_not_mem_signals s

/-! ### What notices print -/

/-- The characters that a notice prints. -/
def chars (notice : Notice) : List Char := notice.pieces.flatMap fun piece => piece.text.toList

/-- The characters that a notice shows, each with its look. -/
def glyphs (color : Bool) (notice : Notice) : List (Char × Look) :=
  notice.pieces.flatMap (Piece.glyphs color)

theorem map_fst_glyphs (color : Bool) (notice : Notice) :
    (notice.glyphs color).map Prod.fst = notice.chars := by
  simp [glyphs, chars, Piece.glyphs, List.map_flatMap, Function.comp_def]

theorem silent_of_quiet {pieces : List Piece} (h : ∀ piece ∈ pieces, Quiet piece.text) :
    Silent (pieces.flatMap fun piece => piece.text.toList) := by
  induction pieces with
  | nil => exact .nil
  | cons piece rest ih =>
    obtain ⟨hpiece, hrest⟩ := List.forall_mem_cons.mp h
    exact hpiece.silent.append (ih hrest)

set_option maxRecDepth 1000 in
/-- The lines in front of the first game are quiet. -/
theorem quiet_ruleLines : ∀ line ∈ ruleLines, Quiet line := by
  have hguess : Quiet ("Guess the hidden equation in " ++ toString maxAttempts ++ " tries.") :=
    (Quiet.append (.ofList (by decide)) (quiet_toString _)).append (.ofList (by decide))
  have hlength : Quiet ("  2. Exactly " ++ toString equationLength ++ " characters long") :=
    (Quiet.append (.ofList (by decide)) (quiet_toString _)).append (.ofList (by decide))
  rw [ruleLines]
  simp only [List.forall_mem_cons, List.not_mem_nil, false_implies, implies_true, and_true]
  refine ⟨?_, ?_, ?_, ?_, ?_, hguess, ?_, ?_, ?_, hlength, ?_, ?_, ?_, ?_, ?_, ?_⟩
  all_goals exact .ofList (by decide +kernel)

/-- The parts of a notice that is no news are quiet, except for the prompt with a choice. -/
theorem quiet_pieces {notice : Notice} (h : notice.isNews = false)
    (hprompt : notice ≠ .prompt .replay) : ∀ piece ∈ notice.pieces, Quiet piece.text := by
  cases notice with
  | rules =>
    rw [pieces, List.forall_mem_singleton]
    refine quiet_join ?_
    rw [List.forall_mem_map]
    exact fun line hline => (quiet_ruleLines line hline).append (.ofList (by decide))
  | target e =>
    rw [pieces, List.forall_mem_singleton]
    exact (Quiet.append (.ofList (by decide)) (quiet_text e)).append (.ofList (by decide))
  | attempts remaining =>
    have hhead : Quiet (separator ++ "Remaining attempts: " ++ toString remaining ++ " ") :=
      ((quiet_separator.append (.ofList (by decide))).append (quiet_toString remaining)).append
        (.ofList (by decide))
    rw [pieces, List.forall_mem_cons, List.forall_mem_cons, List.forall_mem_singleton]
    exact ⟨hhead, quiet_attemptsGauge remaining maxAttempts, .ofList (by decide)⟩
  | prompt asking =>
    rw [pieces, List.forall_mem_singleton]
    cases asking with
    | guess | guessAgain => exact .ofList (by decide)
    | replay => exact absurd rfl hprompt
  | rejected reason =>
    rw [pieces, List.forall_mem_cons, List.forall_mem_cons, List.forall_mem_singleton]
    exact ⟨.ofList (by decide), quiet_message reason, .ofList (by decide)⟩
  | farewell =>
    rw [pieces, List.forall_mem_singleton]
    exact .ofList (by decide)
  | hints | victory | defeat | restarted => cases h

/-- A notice that is no news is silent. -/
theorem silent_chars {notice : Notice} (h : notice.isNews = false) : Silent notice.chars := by
  by_cases hprompt : notice = .prompt .replay
  · subst hprompt
    have htext : Silent (Asking.prompt .replay).toList := .ofList (by decide)
    rw [chars, pieces, List.flatMap_singleton]
    exact htext
  · exact silent_of_quiet (quiet_pieces h hprompt)

/-- How a notice prints news: a part without news, and then its reading, which begins as news do
and is silent from its second character on. -/
structure Announces (notice : Notice) (lead : String) (c : Char) (body : String) : Prop where
  chars_eq : notice.chars = lead.toList ++ notice.reading.toList
  reading_eq : notice.reading.toList = c :: body.toList
  begins : BeginsNews (c :: body.toList)
  quiet : Quiet lead
  silent : Silent body.toList

theorem announces_hints (guess : Equation) (row : Row) (unused : List Symbol) :
    ∃ body, Announces (.hints guess row unused) "" 'H' body := by
  have hpaint : (paintGuess guess row).flatMap (fun piece => piece.text.toList) =
      guess.text.toList := by
    rw [← Piece.toList_renderAll_false, renderAll_paintGuess_false]
  have hopening : Quiet ("ints:\n  " ++ guess.text ++ "   " ++ row.emoji ++
      "\n  Green right place  Orange wrong place  Grey not in the equation\n") :=
    (((Quiet.append (.ofList (by decide)) (quiet_text guess)).append (.ofList (by decide))).append
      (quiet_emoji row)).append (.ofList (by decide +kernel))
  have hlabel : Silent "You have not used these numbers and symbols yet: ".toList :=
    .ofList (by decide +kernel)
  have hend : Quiet (spaced (unused.map Symbol.toChar) ++ "\n") :=
    (quiet_spaced unused).append (.ofList (by decide))
  refine ⟨("ints:\n  " ++ guess.text ++ "   " ++ row.emoji ++
      "\n  Green right place  Orange wrong place  Grey not in the equation\n") ++
    "You have not used these numbers and symbols yet: " ++
    (spaced (unused.map Symbol.toChar) ++ "\n"), ?_, ?_, ⟨"Hints:", by simp [headings], ?_⟩,
    .ofList (by decide), ?_⟩
  · rw [reading]
    unfold hintsText
    simp [chars, pieces, hintsReport, hpaint, Piece.plain, Piece.painted]
  · rw [reading]
    unfold hintsText
    simp
  · simp
  · rw [String.toList_append, String.toList_append]
    exact (hopening.silent.append hlabel).append hend.silent

theorem announces_victory (used : Nat) :
    ∃ body, Announces (.victory used) (separator ++ "\n") '🎉' body := by
  have hopening : Silent " You won! Solved in ".toList := .ofList (by decide +kernel)
  have hend : Quiet (toString used ++ (if used = 1 then " guess" else " guesses") ++ "\n") := by
    refine ((quiet_toString used).append ?_).append (.ofList (by decide))
    split
    · exact .ofList (by decide)
    · exact .ofList (by decide)
  refine ⟨" You won! Solved in " ++
      (toString used ++ (if used = 1 then " guess" else " guesses") ++ "\n"),
    ?_, ?_, ⟨"🎉 You won!", by simp [headings], ?_⟩,
    quiet_separator.append (.ofList (by decide)), ?_⟩
  · rw [reading]
    unfold victoryText
    simp [chars, pieces, Piece.plain, Piece.painted]
  · rw [reading]
    unfold victoryText
    simp
  · simp
  · rw [String.toList_append]
    exact hopening.append hend.silent

theorem announces_defeat (target : Equation) :
    ∃ body, Announces (.defeat target) (separator ++ "\n") 'Y' body := by
  have hbody : Quiet ("ou lost. The answer was: " ++ target.text ++ "\n") :=
    (Quiet.append (.ofList (by decide)) (quiet_text target)).append (.ofList (by decide))
  refine ⟨"ou lost. The answer was: " ++ target.text ++ "\n",
    ?_, ?_, ⟨"You lost.", by simp [headings], ?_⟩,
    quiet_separator.append (.ofList (by decide)), hbody.silent⟩
  · rw [reading]
    unfold defeatText
    simp [chars, pieces, Piece.plain, Piece.painted]
  · rw [reading]
    unfold defeatText
    simp
  · simp

theorem announces_restarted :
    Announces .restarted "\n" '🔄' " New game started!\n\n" where
  chars_eq := by simp [chars, pieces, reading, Piece.plain]
  reading_eq := by simp [reading]
  begins := ⟨"🔄 New game started!", by simp [headings], by simp⟩
  quiet := .ofList (by decide)
  silent := (Quiet.ofList (by decide)).silent

/-- All news are announced. -/
theorem exists_announces {notice : Notice} (h : notice.isNews = true) :
    ∃ lead c body, Announces notice lead c body := by
  cases notice with
  | hints guess row unused => exact ⟨_, _, announces_hints guess row unused⟩
  | victory used => exact ⟨_, _, announces_victory used⟩
  | defeat target => exact ⟨_, _, announces_defeat target⟩
  | restarted => exact ⟨_, _, _, announces_restarted⟩
  | rules | target | attempts | prompt | rejected | farewell => cases h

/-- No notice prints an escape sequence of its own. -/
theorem escape_not_mem_chars (notice : Notice) : escape ∉ notice.chars := by
  cases hnews : notice.isNews with
  | false => exact (silent_chars hnews).1
  | true =>
    have hheadings : ∀ heading ∈ headings, heading.toList.head? ≠ some escape ∧
        heading.toList ≠ [] := by decide
    obtain ⟨lead, c, body, h⟩ := exists_announces hnews
    have hc : c ≠ escape := by
      rintro rfl
      obtain ⟨heading, hheading, hbegins⟩ := h.begins
      obtain ⟨hhead, hne⟩ := hheadings heading hheading
      obtain ⟨d, rest, hd⟩ := List.exists_cons_of_ne_nil hne
      rw [hd, List.cons_prefix_cons] at hbegins
      exact hhead (by rw [hd, hbegins.1]; rfl)
    rw [h.chars_eq, h.reading_eq, List.mem_append, List.mem_cons]
    rintro (hlead | hescape | hbody)
    · exact h.quiet.silent.1 hlead
    · exact hc hescape.symm
    · exact h.silent.1 hbody

theorem escape_not_mem_pieces (notice : Notice) :
    ∀ piece ∈ notice.pieces, escape ∉ piece.text.toList := fun piece hpiece hescape =>
  notice.escape_not_mem_chars (List.mem_flatMap.mpr ⟨piece, hpiece, hescape⟩)

/-! ### Finding news -/

theorem BeginsNews.append {cs : List Char} (h : BeginsNews cs) (rest : List Char) :
    BeginsNews (cs ++ rest) := by
  obtain ⟨heading, hheading, hbegins⟩ := h
  exact ⟨heading, hheading, hbegins.trans (List.prefix_append _ _)⟩

variable {cell : Char × Look} {cells rest : List (Char × Look)}

theorem newsPlaces_cons_of_beginsNews (h : BeginsNews ((cell :: rest).map Prod.fst)) :
    newsPlaces (cell :: rest) = (cell :: rest) :: newsPlaces rest :=
  List.filter_cons_of_pos (by simpa using h)

theorem newsPlaces_cons_of_not (h : ¬BeginsNews ((cell :: rest).map Prod.fst)) :
    newsPlaces (cell :: rest) = newsPlaces rest :=
  List.filter_cons_of_neg (by simpa using h)

/-- There are no news in a silent part of a display. -/
theorem newsPlaces_append_of_silent (h : Silent (cells.map Prod.fst)) (rest : List (Char × Look)) :
    newsPlaces (cells ++ rest) = newsPlaces rest := by
  induction cells with
  | nil => rfl
  | cons cell cells ih =>
    rw [List.map_cons] at h
    have hnot : ¬BeginsNews ((cell :: (cells ++ rest)).map Prod.fst) := by
      rw [List.map_cons, List.map_append]
      exact h.not_beginsNews (rest.map Prod.fst)
    rw [List.cons_append, newsPlaces_cons_of_not hnot, ih h.tail]

/-- A piece of news is found once, behind its lead. -/
theorem newsPlaces_append_of_announces {notice : Notice} {lead body : String} {c : Char}
    (h : Announces notice lead c body) (color : Bool) (rest : List (Char × Look)) :
    ∃ before place, notice.glyphs color ++ rest = before ++ place ∧
      before.map Prod.fst = lead.toList ∧ notice.reading.toList <+: place.map Prod.fst ∧
      newsPlaces (notice.glyphs color ++ rest) = place :: newsPlaces rest := by
  have hchars : (notice.glyphs color).map Prod.fst = lead.toList ++ c :: body.toList := by
    rw [map_fst_glyphs, h.chars_eq, h.reading_eq]
  obtain ⟨before, shown, hglyphs, hbefore, hshown⟩ := List.map_eq_append_iff.mp hchars
  obtain ⟨cell, later, rfl, -, hlater⟩ := List.map_eq_cons_iff.mp hshown
  have hreading : ((cell :: later) ++ rest).map Prod.fst =
      notice.reading.toList ++ rest.map Prod.fst := by
    rw [List.map_append, hshown, h.reading_eq]
  have hbegins : BeginsNews ((cell :: (later ++ rest)).map Prod.fst) := by
    rw [← List.cons_append, hreading, h.reading_eq]
    exact h.begins.append _
  refine ⟨before, cell :: (later ++ rest), by rw [hglyphs, List.append_assoc]; rfl, hbefore,
    hreading ▸ List.prefix_append _ _, ?_⟩
  rw [hglyphs, List.append_assoc, newsPlaces_append_of_silent (hbefore ▸ h.quiet.silent),
    List.cons_append, newsPlaces_cons_of_beginsNews hbegins,
    newsPlaces_append_of_silent (hlater ▸ h.silent)]

/-- Behind their heading, hints show each symbol of the guess in the look of its colour. -/
theorem looks_hints (guess : Equation) (row : Row) (unused : List Symbol) (color : Bool)
    (rest : List (Char × Look)) :
    ((((hints guess row unused).glyphs color ++ rest).drop "Hints:\n  ".length).take
      equationLength).map Prod.snd = row.colors.map fun c => if color then c.look else [] := by
  have hpainted : (paintGuess guess row).flatMap (Piece.glyphs color) =
      (guess.symbols.zip row.colors).map fun earned =>
        (earned.1.toChar, if color then earned.2.look else []) := by
    rw [paintGuess, List.flatMap_map, List.map_eq_flatMap]
    simp [Piece.glyphs, Piece.painted, Piece.look, Color.look]
  have hlength : ((paintGuess guess row).flatMap (Piece.glyphs color)).length = equationLength := by
    rw [hpainted, List.length_map, List.length_zip, guess.length_symbols, row.length_colors]
    exact Nat.min_self _
  have hheading : ((Piece.plain "Hints:\n  ").glyphs color).length = "Hints:\n  ".length :=
    List.length_map _
  simp only [glyphs, pieces, hintsReport, List.flatMap_append, List.flatMap_singleton,
    List.append_assoc]
  rw [List.drop_left' hheading, List.take_left' hlength, hpainted, List.map_map]
  calc _ = ((guess.symbols.zip row.colors).map Prod.snd).map
        fun c => if color then c.look else [] := by
        rw [List.map_map]
        rfl
    _ = row.colors.map fun c => if color then c.look else [] := by rw [row.map_snd_zip_colors guess]

/-- A piece of news is found once, and stands where it is found. -/
theorem exists_standsAt {notice : Notice} (h : notice.isNews = true) (color : Bool)
    (rest : List (Char × Look)) : ∃ place, StandsAt color notice place ∧
      newsPlaces (notice.glyphs color ++ rest) = place :: newsPlaces rest := by
  cases hnotice : notice with
  | hints guess row unused =>
    obtain ⟨body, hannounces⟩ := announces_hints guess row unused
    obtain ⟨before, place, hsplit, hbefore, hreads, hplaces⟩ :=
      newsPlaces_append_of_announces hannounces color rest
    obtain rfl : before = [] := List.map_eq_nil_iff.mp hbefore
    refine ⟨place, ⟨hreads, ?_⟩, hplaces⟩
    rintro _ _ _ ⟨⟩
    rw [← List.nil_append place, ← hsplit]
    exact looks_hints guess row unused color rest
  | victory | defeat | restarted =>
    subst hnotice
    obtain ⟨lead, c, body, hannounces⟩ := exists_announces h
    obtain ⟨-, place, -, -, hreads, hplaces⟩ :=
      newsPlaces_append_of_announces hannounces color rest
    exact ⟨place, ⟨hreads, fun _ _ _ hhints => nomatch hhints⟩, hplaces⟩
  | rules | target | attempts | prompt | rejected | farewell =>
    subst hnotice
    cases h

/-- Of any notices, the news and nothing else are found on the display. -/
theorem forall₂_standsAt (notices : List Notice) (color : Bool) :
    List.Forall₂ (StandsAt color) (notices.filter isNews)
      (newsPlaces (notices.flatMap (glyphs color))) := by
  induction notices with
  | nil => exact .nil
  | cons notice rest ih =>
    rw [List.flatMap_cons]
    cases hnews : notice.isNews with
    | true =>
      obtain ⟨place, hstands, hplaces⟩ := exists_standsAt hnews color (rest.flatMap (glyphs color))
      rw [List.filter_cons_of_pos hnews, hplaces]
      exact .cons hstands ih
    | false =>
      rw [List.filter_cons_of_neg (Bool.eq_false_iff.mp hnews), newsPlaces_append_of_silent]
      · exact ih
      · rw [map_fst_glyphs]
        exact silent_chars hnews

end Notice

/-! ### The output of a run -/

namespace Outcome

theorem output_ofTranscript (told : List Event) (t : Transcript) :
    (ofTranscript told t).output = t.notices.flatMap Notice.pieces := by
  rw [ofTranscript]
  cases t.ending <;> rfl

theorem escape_not_mem_output (told : List Event) (t : Transcript) :
    ∀ piece ∈ (ofTranscript told t).output, escape ∉ piece.text.toList := by
  rw [output_ofTranscript]
  intro piece hpiece
  obtain ⟨notice, -, hpiece⟩ := List.mem_flatMap.mp hpiece
  exact notice.escape_not_mem_pieces piece hpiece

/-- What a run shows is what its notices show, one after another. -/
theorem display_ofTranscript (told : List Event) (t : Transcript) (color : Bool) :
    display color (ofTranscript told t).output = t.notices.flatMap (Notice.glyphs color) := by
  rw [display_eq (escape_not_mem_output told t), output_ofTranscript, List.flatMap_assoc]
  rfl

end Outcome

namespace LineGame

variable {corpus : List Equation}

/-- A run that the player left succeeds, and a run that had no further line fails. -/
theorem code_failure_ofTranscript (told : List Event) {t : Transcript} {s : Session}
    {lines : List String} (h : t.ending = PlainGame.ending s lines) :
    (PlainGame.after s lines = none → (Outcome.ofTranscript told t).code = 0 ∧
      (Outcome.ofTranscript told t).failure = none) ∧
    (PlainGame.after s lines ≠ none → (Outcome.ofTranscript told t).code = 1 ∧
      (Outcome.ofTranscript told t).failure = some { message := "input closed" }) := by
  rw [PlainGame.ending] at h
  refine ⟨fun hleft => ?_, fun hwaits => ?_⟩
  · have hending : t.ending = .left := by rw [h, hleft]; rfl
    simp only [Outcome.ofTranscript, hending, and_self]
  · have hending : t.ending = .failed "input closed" := by
      rw [h, if_pos (Option.isSome_iff_ne_none.mpr hwaits)]
    simp only [Outcome.ofTranscript, hending, Outcome.failed, and_self]

/-- **The line game is the plain game.** On a fresh session, the line game waits after any lines
with the session that the rules give, or has ended because the player left. On the bytes of any text
it reads the trimmed lines of that text, ends as the rules say, and tells the player exactly what
the rules say about guesses and games: for each accepted guess its hints, then the end of the game
if it has come, and nothing but the restart for another game.

The same holds of what the run prints. It succeeds if the player left, and fails with the reason
that the input is closed if there was no further line. Whatever was told before, and with or without
colours, news are found in the printed text exactly where the rules have something to tell, in their
order, and there the text reads as it should: hints show the guess, its squares, the symbols that
are left, and each symbol of the guess in the look of its colour; a victory shows the number of
guesses. The colours are all that escape sequences add. -/
theorem play_refines_plain_game {options : GameOptions} {draws : Draws} {session : Session}
    (hstart : Session.start corpus options draws = .ok session) :
    (∀ lines : List String, Option.Rel Mirrors (PlainGame.after session lines)
      (waitingAfter (opening session) lines)) ∧
    ∀ text : String,
      let lines := PlainGame.trimmedLines text
      let transcript := play session (InputLine.ofBytes text.toUTF8)
      List.Forall₂ (fun line trimmed => Text.IsTrimmed line trimmed.toList)
        (Text.linesOf text.toList) lines ∧
      InputLine.ofBytes text.toUTF8 = lines.map .text ∧
      transcript.ending = PlainGame.ending session lines ∧
      transcript.notices.filter Notice.isNews = PlainGame.news session lines ∧
      ∀ told : List Event,
        let outcome := Outcome.ofTranscript told transcript
        (PlainGame.after session lines = none → outcome.code = 0 ∧ outcome.failure = none) ∧
        (PlainGame.after session lines ≠ none →
          outcome.code = 1 ∧ outcome.failure = some { message := "input closed" }) ∧
        (∀ color, List.Forall₂ (Notice.StandsAt color) (PlainGame.news session lines)
          (Notice.newsPlaces (display color outcome.output))) ∧
        withoutEscapes (Piece.renderAll true outcome.output) =
          Piece.renderAll false outcome.output := by
  obtain ⟨hbrings, hnews⟩ := brings_opening hstart
  refine ⟨rel_waitingAfter hbrings, fun text => ?_⟩
  intro lines transcript
  have hread := PlainGame.ofBytes_toUTF8 text
  have htranscript : transcript = follow (opening session) (lines.map .text) :=
    congrArg (play session) hread
  cases hbrings with
  | waits hprogress hwaits =>
    obtain ⟨hending, htold⟩ := follow_of_waits hprogress hwaits lines
    rw [hnews, List.nil_append, ← htranscript] at htold
    rw [← htranscript] at hending
    refine ⟨PlainGame.isTrimmed_trimmedLines text, hread, hending, htold, fun told => ?_⟩
    intro outcome
    obtain ⟨hleft, hclosed⟩ := code_failure_ofTranscript told hending
    refine ⟨hleft, hclosed, fun color => ?_,
      Piece.withoutEscapes_renderAll (Outcome.escape_not_mem_output told transcript)⟩
    rw [← htold, Outcome.display_ofTranscript]
    exact Notice.forall₂_standsAt transcript.notices color

/-- A guess, a line that is none, and a second guess that wins; then another game, which the player
leaves. -/
theorem play_refines_plain_game_two_games :
    let target : Equation := ⟨[.digit 1, .operator .add, .digit 2, .operator .add, .digit 3,
      .equals, .digit 6], rfl⟩
    let session := Session.opened [target] GameOptions.fixed id target
    let guess : Equation := ⟨[.digit 1, .digit 2, .operator .add, .digit 3, .equals, .digit 1,
      .digit 5], rfl⟩
    let text := " 12+3=15\r\nnonsense\n1+2+3=6\nYeS\t\n\nq\n1+2+3=6"
    let transcript := play session (InputLine.ofBytes text.toUTF8)
    let outcome := Outcome.ofTranscript [] transcript
    let news : List Notice :=
      [.hints guess (feedback guess target) (unusedIn [(guess, feedback guess target)]),
        .hints target Row.perfect
          (unusedIn [(guess, feedback guess target), (target, Row.perfect)]),
        .victory 2, .restarted]
    Session.start [target] GameOptions.fixed id = .ok session ∧
      transcript.ending = .left ∧
      transcript.notices.filter Notice.isNews = news ∧
      outcome.code = 0 ∧ outcome.failure = none ∧
      List.Forall₂ (Notice.StandsAt true) news
        (Notice.newsPlaces (display true outcome.output)) ∧
      news.map Notice.reading =
        ["Hints:\n  12+3=15   🟩🟧🟧🟧🟧⬜⬜\n" ++
            "  Green right place  Orange wrong place  Grey not in the equation\n" ++
            "You have not used these numbers and symbols yet: 0 4 6 7 8 9 - * /\n",
          "Hints:\n  1+2+3=6   🟩🟩🟩🟩🟩🟩🟩\n" ++
            "  Green right place  Orange wrong place  Grey not in the equation\n" ++
            "You have not used these numbers and symbols yet: 0 4 7 8 9 - * /\n",
          "🎉 You won! Solved in 2 guesses\n", "🔄 New game started!\n\n"] := by
  intro target session guess text transcript outcome news
  have hstart : Session.start [target] GameOptions.fixed id = .ok session := rfl
  obtain ⟨-, hrun⟩ := play_refines_plain_game hstart
  obtain ⟨-, -, hending, hnews, hprinted⟩ := hrun text
  have hrules : PlainGame.news session (PlainGame.trimmedLines text) = news := by decide +kernel
  have hleft : PlainGame.after session (PlainGame.trimmedLines text) = none := by
    rw [← Option.isNone_iff_eq_none]
    decide +kernel
  obtain ⟨hsuccess, -, hshown, -⟩ := hprinted []
  obtain ⟨hcode, hfailure⟩ := hsuccess hleft
  rw [hrules] at hnews hshown
  exact ⟨hstart, hending.trans (by decide +kernel), hnews, hcode, hfailure, hshown true,
    by decide +kernel⟩

end LineGame

end HiddenEquation
