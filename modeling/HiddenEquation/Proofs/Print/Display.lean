import HiddenEquation.Print.Paint

/-!
# What a terminal shows of painted text

A terminal shows the characters of a text one after another, except for those of escape sequences.
A sequence that ends in `m` sets the look of what comes behind it. This file reads text the way a
terminal does, without knowing who wrote it, and follows painted pieces through that reading: their
characters are shown as they would be without paint, and each in the look of its own piece. So
paint is no loss: a painted guess shows its symbols, and the look of each tells its colour, although
the sequences in between are written with digits themselves.

## Main definitions

* `Terminal.shown` : the characters that a terminal shows, each with its look.
* `Terminal.withoutEscapes` : a text without its escape sequences.
* `readPainted?` : the guess and the row that a painted guess shows.

## Main results

* `Piece.shown_renderAll` : painted pieces are shown character by character in their own looks.
* `Piece.withoutEscapes_renderAll` : without its escape sequences, painted text is plain text.
* `paintGuess_decodable` : the guess and its row are read back from the painted guess.
-/

namespace HiddenEquation

/-! ### Reading text as a terminal does -/

namespace Terminal

/-- The character that starts an escape sequence. -/
def escape : Char := '\x1b'

/-- Where in a text the terminal is. -/
inductive Mode where
  /-- Outside of every sequence. -/
  | text
  /-- Right behind the character that starts a sequence. -/
  | escape
  /-- Inside a sequence, behind these parameters. -/
  | sequence (parameters : List Char)

/-- A look: the parameters of the sequences that have set it, since the last reset. -/
abbrev Look := List (List Char)

/-- The look behind a sequence that ends in `m`. Without a parameter, or with the parameter zero,
the sequence is a reset. -/
def Look.set (look : Look) (parameters : List Char) : Look :=
  if parameters = [] ∨ parameters = ['0'] then [] else look ++ [parameters]

/-- Whether a character ends a sequence. -/
def isFinal (c : Char) : Bool := '@'.toNat ≤ c.toNat && c.toNat ≤ '~'.toNat

/-- The characters that a terminal shows of a text, each with the look that it is shown in. -/
def shown (look : Look) : Mode → List Char → List (Char × Look)
  | _, [] => []
  | .text, c :: rest =>
    if c = escape then shown look .escape rest else (c, look) :: shown look .text rest
  | .escape, c :: rest =>
    if c = '[' then shown look (.sequence []) rest else shown look .text rest
  | .sequence parameters, c :: rest =>
    if c = 'm' then shown (look.set parameters) .text rest
    else if isFinal c then shown look .text rest
    else shown look (.sequence (parameters ++ [c])) rest

/-- A text without its escape sequences. -/
def withoutEscapes (text : String) : String :=
  String.ofList ((shown [] .text text.toList).map Prod.fst)

theorem shown_plain {cs : List Char} (h : escape ∉ cs) (look : Look) (rest : List Char) :
    shown look .text (cs ++ rest) = cs.map (·, look) ++ shown look .text rest := by
  induction cs with
  | nil => rfl
  | cons c cs ih =>
    obtain ⟨hc, hcs⟩ := not_or.mp (mt List.mem_cons.mpr h)
    rw [List.cons_append, shown, if_neg (Ne.symm hc), ih hcs]
    rfl

/-- A sequence that ends in `m` is not shown but sets the look. -/
theorem shown_sequence {more : List Char} (h : ∀ c ∈ more, isFinal c = false) (look : Look)
    (parameters rest : List Char) :
    shown look (.sequence parameters) (more ++ 'm' :: rest) =
      shown (look.set (parameters ++ more)) .text rest := by
  induction more generalizing parameters with
  | nil => rw [List.nil_append, shown, if_pos rfl, List.append_nil]
  | cons c more ih =>
    obtain ⟨hc, hmore⟩ := List.forall_mem_cons.mp h
    have hm : c ≠ 'm' := by
      rintro rfl
      cases hc
    rw [List.cons_append, shown, if_neg hm, hc, if_neg Bool.false_ne_true, ih hmore,
      List.append_assoc, List.singleton_append]

end Terminal

open Terminal

/-! ### Painted pieces -/

namespace Paint

/-- The parameters of the sequence that starts a paint. -/
def parameters (p : Paint) : List Char := ((if p.bold then "1;" else "") ++ p.hue.code).toList

theorem isFinal_of_mem_parameters (p : Paint) : ∀ c ∈ p.parameters, isFinal c = false := by
  have hany : p.parameters.any isFinal = false := by
    obtain ⟨hue, bold⟩ := p
    cases bold <;> cases hue <;> decide
  simpa using hany

/-- No paint is a reset. -/
theorem set_parameters (p : Paint) (look : Look) :
    look.set p.parameters = look ++ [p.parameters] := by
  refine if_neg ?_
  obtain ⟨hue, bold⟩ := p
  cases bold <;> cases hue <;> decide

theorem shown_opening (p : Paint) (look : Look) (rest : List Char) :
    shown look .text (p.opening.toList ++ rest) =
      shown (look ++ [p.parameters]) .text rest := by
  have hopening : p.opening.toList ++ rest =
      escape :: '[' :: (p.parameters ++ 'm' :: rest) := by
    simp [opening, parameters, escape]
  rw [hopening, shown, if_pos rfl, shown, if_pos rfl,
    shown_sequence p.isFinal_of_mem_parameters, List.nil_append, set_parameters]

theorem shown_closing (look : Look) (rest : List Char) :
    shown look .text (closing.toList ++ rest) = shown [] .text rest := rfl

end Paint

namespace Piece

/-- The look that the paint of a piece sets. -/
def look (piece : Piece) : Look := piece.paint.toList.map Paint.parameters

/-- A piece is shown as its own text, in its own look. The look ends with the piece. -/
theorem shown_render {piece : Piece} (h : escape ∉ piece.text.toList) (rest : List Char) :
    shown [] .text ((piece.render true).toList ++ rest) =
      piece.text.toList.map (·, piece.look) ++ shown [] .text rest := by
  obtain ⟨text, paint⟩ := piece
  cases paint with
  | none => exact shown_plain h [] rest
  | some p =>
    change shown [] .text ((p.opening ++ text ++ Paint.closing).toList ++ rest) = _
    rw [String.toList_append, String.toList_append, List.append_assoc, List.append_assoc,
      p.shown_opening, shown_plain h, Paint.shown_closing]
    rfl

/-- Painted pieces are shown character by character in their own looks. -/
theorem shown_renderAll {pieces : List Piece} (h : ∀ piece ∈ pieces, escape ∉ piece.text.toList) :
    shown [] .text (renderAll true pieces).toList =
      pieces.flatMap fun piece => piece.text.toList.map (·, piece.look) := by
  rw [renderAll, String.toList_join]
  -- every piece starts without a look, since the one in front of it leaves none
  induction pieces with
  | nil => rfl
  | cons piece pieces ih =>
    obtain ⟨hpiece, hpieces⟩ := List.forall_mem_cons.mp h
    rw [List.map_cons, List.flatMap_cons, shown_render hpiece, ih hpieces, List.flatMap_cons]

theorem toList_renderAll_false (pieces : List Piece) :
    (renderAll false pieces).toList = pieces.flatMap fun piece => piece.text.toList := by
  have hrender (piece : Piece) : piece.render false = piece.text := by
    obtain ⟨text, paint⟩ := piece
    cases paint <;> rfl
  simp only [renderAll, String.toList_join, List.flatMap_map, hrender]

/-- Without its escape sequences, painted text is plain text. -/
theorem withoutEscapes_renderAll {pieces : List Piece}
    (h : ∀ piece ∈ pieces, escape ∉ piece.text.toList) :
    withoutEscapes (renderAll true pieces) = renderAll false pieces := by
  rw [← String.toList_inj, withoutEscapes, String.toList_ofList, shown_renderAll h,
    toList_renderAll_false, List.map_flatMap]
  simp [Function.comp_def]

/-- The digits of the parameters are not shown. -/
example : withoutEscapes ((Paint.strong .orange).apply "7") = "7" := by decide

end Piece

/-! ### Painted guesses -/

theorem Symbol.toChar_ne_escape (s : Symbol) : s.toChar ≠ escape := by
  match s with
  | digit d => revert d; decide
  | operator o => cases o <;> decide
  | equals => decide

/-- The look of a feedback colour. -/
def Color.look (c : Color) : Look := [c.paint.parameters]

/-- The feedback colour that a look shows. -/
def Color.ofLook? (look : Look) : Option Color :=
  [grey, orange, green].find? fun c => c.look = look

/-- The three colours have different looks. -/
theorem Color.ofLook?_look (c : Color) : ofLook? c.look = some c := by
  cases c <;> decide

theorem Color.mapM_ofLook? (colors : List Color) :
    (colors.map look).mapM ofLook? = some colors := by
  induction colors with
  | nil => rfl
  | cons c colors ih => simp [ofLook?_look, ih]

/-- The guess and the row that a painted guess shows. The characters are those of the guess, and
their looks are those of the colours. -/
def readPainted? (text : String) : Option (Equation × Row) :=
  match Equation.ofString (withoutEscapes text),
    ((shown [] .text text.toList).map Prod.snd).mapM Color.ofLook? with
  | .ok guess, some colors =>
    if h : colors.length = equationLength then some (guess, ⟨colors, h⟩) else none
  | _, _ => none

variable (guess : Equation) (row : Row)

theorem escape_not_mem_of_mem_paintGuess :
    ∀ piece ∈ paintGuess guess row, escape ∉ piece.text.toList := by
  intro piece hpiece
  obtain ⟨⟨s, c⟩, -, rfl⟩ := List.mem_map.mp hpiece
  simpa [Piece.painted] using s.toChar_ne_escape.symm

theorem renderAll_paintGuess_false : Piece.renderAll false (paintGuess guess row) = guess.text := by
  rw [← String.toList_inj, Piece.toList_renderAll_false, Equation.text, String.toList_ofList,
    ← row.map_fst_zip_colors guess, List.map_map, paintGuess, List.flatMap_map, List.map_eq_flatMap]
  simp [Piece.painted]

/-- Each symbol of a painted guess is shown in the look of its colour. -/
theorem shown_paintGuess :
    shown [] .text (Piece.renderAll true (paintGuess guess row)).toList =
      (guess.symbols.zip row.colors).map fun earned => (earned.1.toChar, earned.2.look) := by
  rw [Piece.shown_renderAll (escape_not_mem_of_mem_paintGuess guess row), paintGuess,
    List.flatMap_map, List.map_eq_flatMap]
  simp [Piece.painted, Piece.look, Color.look]

theorem withoutEscapes_paintGuess :
    withoutEscapes (Piece.renderAll true (paintGuess guess row)) = guess.text := by
  rw [Piece.withoutEscapes_renderAll (escape_not_mem_of_mem_paintGuess guess row),
    renderAll_paintGuess_false]

/-- The guess and its row are read back from the painted guess. -/
theorem readPainted?_paintGuess :
    readPainted? (Piece.renderAll true (paintGuess guess row)) = some (guess, row) := by
  have hlooks : (shown [] .text (Piece.renderAll true (paintGuess guess row)).toList).map Prod.snd =
      row.colors.map Color.look := by
    calc _ = ((guess.symbols.zip row.colors).map Prod.snd).map Color.look := by
          rw [shown_paintGuess, List.map_map, List.map_map]
          rfl
      _ = row.colors.map Color.look := by rw [row.map_snd_zip_colors guess]
  simp only [readPainted?, withoutEscapes_paintGuess, Equation.ofString_text, hlooks,
    Color.mapM_ofLook?]
  exact dif_pos row.length_colors

/-- **Painting is decodable.** Without colours, a painted guess is the text of the guess. With them,
it is that text again once its escape sequences are taken out, and both the guess and its row can be
read back from it. So two different pairs of a guess and a row are never painted alike. -/
theorem paintGuess_decodable :
    Piece.renderAll false (paintGuess guess row) = guess.text ∧
    withoutEscapes (Piece.renderAll true (paintGuess guess row)) = guess.text ∧
    readPainted? (Piece.renderAll true (paintGuess guess row)) = some (guess, row) ∧
    ∀ guess' row', Piece.renderAll true (paintGuess guess' row') =
      Piece.renderAll true (paintGuess guess row) ↔ guess' = guess ∧ row' = row := by
  refine ⟨renderAll_paintGuess_false guess row, withoutEscapes_paintGuess guess row,
    readPainted?_paintGuess guess row, fun guess' row' => ⟨fun h => ?_, ?_⟩⟩
  · have hread := readPainted?_paintGuess guess' row'
    rw [h, readPainted?_paintGuess] at hread
    simpa [eq_comm] using hread
  · rintro ⟨rfl, rfl⟩
    rfl

end HiddenEquation
