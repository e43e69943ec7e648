import PapyrusWriter.Json.Decoder
/-!
# Runs of a reader

`Reads reader before a after` says that the reader gives `a` and moves the cursor from the rest
`before` of the text to the rest `after`, wherever in the text that is. Runs compose, and there is
one rule for each step a reader is made of.
-/

namespace PapyrusWriter.Json

set_option autoImplicit false

namespace Cursor

theorem rest_advance (c : Cursor) : c.advance.rest = c.rest.tail := by
  obtain ⟨rest, line, column, size, length⟩ := c
  cases rest with
  | nil => rfl
  | cons ch tail =>
      simp only [advance]
      split <;> rfl

theorem rest_skipSpace (rest : List Char) (line column size : Nat) (h : size = rest.length) :
    (skipSpace rest line column size h).rest = rest.dropWhile isSpace := by
  induction rest generalizing line column size with
  | nil => rfl
  | cons ch tail ih =>
      by_cases feed : ch = '\n'
      · simp [skipSpace, feed, ih, isSpace]
      · by_cases space : isSpace ch = true
        · simp [skipSpace, feed, ih, space]
        · simp [skipSpace, feed, space]

end Cursor

/-- The reader gives `a` between the two rests. -/
def Reads {α : Type} (reader : Reader α) (before : List Char) (a : α) (after : List Char) : Prop :=
  ∀ c : Cursor, c.rest = before → ∃ c' : Cursor, reader c = .ok a c' ∧ c'.rest = after

/-- White space and nothing else. -/
def Blank (cs : List Char) : Prop := ∀ c ∈ cs, Cursor.isSpace c = true

theorem Blank.nil : Blank [] := nofun

theorem Blank.dropWhile_append {blanks rest : List Char} (blank : Blank blanks) :
    (blanks ++ rest).dropWhile Cursor.isSpace = rest.dropWhile Cursor.isSpace := by
  induction blanks with
  | nil => rfl
  | cons c tail ih =>
      rw [List.cons_append, List.dropWhile_cons_of_pos (blank c List.mem_cons_self)]
      exact ih fun c' member => blank c' (List.mem_cons_of_mem c member)

namespace Reads

open Reader

variable {α β : Type} {s t u : List Char} {a : α} {b : β}

theorem pure (a : α) (s : List Char) : Reads (Pure.pure a) s a s :=
  fun c rest => ⟨c, rfl, rest⟩

theorem bind {first : Reader α} {next : α → Reader β} (firsts : Reads first s a t)
    (rests : Reads (next a) t b u) : Reads (first >>= next) s b u := by
  intro c start
  obtain ⟨middle, ran, there⟩ := firsts c start
  obtain ⟨last, ran', here⟩ := rests middle there
  refine ⟨last, ?_, here⟩
  show EStateM.bind first next c = _
  simp only [EStateM.bind, ran, ran']

theorem map {reader : Reader α} (f : α → β) (reads : Reads reader s a t) :
    Reads (f <$> reader) s (f a) t := by
  intro c start
  obtain ⟨last, ran, there⟩ := reads c start
  refine ⟨last, ?_, there⟩
  show EStateM.map f reader c = _
  simp only [EStateM.map, ran]

theorem peek (s : List Char) : Reads Reader.peek s s.head? s := by
  intro c start
  exact ⟨c, by rw [Reader.peek, start], start⟩

theorem advance (ch : Char) (s : List Char) : Reads Reader.advance (ch :: s) () s := by
  intro c start
  exact ⟨c.advance, rfl, by rw [Cursor.rest_advance, start, List.tail_cons]⟩

theorem fuel (s : List Char) : Reads Reader.fuel s (s.length + 1) s := by
  intro c start
  exact ⟨c, by rw [Reader.fuel_apply, start], start⟩

theorem token_dropWhile (s : List Char) :
    Reads token s (s.dropWhile Cursor.isSpace).head? (s.dropWhile Cursor.isSpace) := by
  rintro c rfl
  have there := Cursor.rest_skipSpace c.rest c.line c.column c.size c.size_eq
  refine ⟨_, ?_, there⟩
  rw [← there]
  rfl

/-- The next token is the first character after the white space. -/
theorem token {blanks : List Char} (blank : Blank blanks) {ch : Char}
    (solid : Cursor.isSpace ch = false) (s : List Char) :
    Reads Reader.token (blanks ++ ch :: s) (some ch) (ch :: s) := by
  have drop : (blanks ++ ch :: s).dropWhile Cursor.isSpace = ch :: s := by
    rw [blank.dropWhile_append, List.dropWhile_cons_of_neg (by simp [solid])]
  simpa only [drop, List.head?_cons] using token_dropWhile (blanks ++ ch :: s)

theorem token_end {blanks : List Char} (blank : Blank blanks) :
    Reads Reader.token blanks none [] := by
  have drop : blanks.dropWhile Cursor.isSpace = [] := by
    rw [← List.append_nil blanks, blank.dropWhile_append, List.dropWhile_nil]
  simpa only [drop, List.head?_nil] using token_dropWhile blanks

theorem located {reader : Reader α} (reads : Reads reader s a t) :
    Reads (Reader.located reader) s a t := by
  intro c start
  obtain ⟨last, ran, there⟩ := reads c start
  exact ⟨last, by simp only [Reader.located, ran], there⟩

theorem closing {body : Reader α} {close : Reader Unit} (bodies : Reads body s a t)
    (closes : Reads close t () u) : Reads (Reader.closing body close) s a u := by
  intro c start
  obtain ⟨middle, ran, there⟩ := bodies c start
  obtain ⟨last, ran', here⟩ := closes middle there
  exact ⟨last, by simp only [Reader.closing, ran, ran'], here⟩

theorem atToken {read : Char → Reader α} {blanks : List Char} (blank : Blank blanks) {ch : Char}
    (solid : Cursor.isSpace ch = false) (reads : Reads (read ch) (ch :: s) a t) :
    Reads (Reader.atToken read) (blanks ++ ch :: s) a t :=
  (token blank solid s).bind reads.located

theorem ofExcept {result : Except ShapeFault α} (given : result = .ok a) (s : List Char) :
    Reads (Reader.ofExcept result) s a s := by
  rw [given]
  exact pure a s

theorem word (letters s : List Char) : Reads (Reader.word letters) (letters ++ s) () s := by
  induction letters with
  | nil => exact pure () s
  | cons letter rest ih =>
      refine (peek (letter :: (rest ++ s))).bind ?_
      simpa using (advance letter (rest ++ s)).bind ih

end Reads

end PapyrusWriter.Json
