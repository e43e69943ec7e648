import PapyrusWriter.Proofs.DirectiveOrder
import PapyrusWriter.Proofs.ErrorNames
import PapyrusWriter.Proofs.FileWrites
import PapyrusWriter.Proofs.IdentifierCheck
import PapyrusWriter.Proofs.IdentifierForm
/-!
# Line breaks in error messages

A message is what the error mentions, in a frame of plain characters
(`TranspileError.framed_message`). The identifiers of a script that was read without diagnostics are
plain as well. So a message has a line break exactly if it comes with the name of a game, or with
the path of an included file (`SyntaxTree.lineBreak_of_transpile`).
-/

namespace PapyrusWriter

set_option autoImplicit false

namespace Text

/-- Line feed, vertical tab, form feed, carriage return, next line, and the separators of lines and
of paragraphs. -/
def lineBreaks : List Char :=
  ['\n', '\x0b', '\x0c', '\r', '\u0085', '\u2028', '\u2029']

/-- A printable character of ASCII. -/
def isPlainChar (c : Char) : Bool := 32 ≤ c.toNat && c.toNat ≤ 126

def isPlain (text : String) : Bool := text.toList.all isPlainChar

theorem isPlain_append {front back : String} (fronts : isPlain front = true)
    (backs : isPlain back = true) : isPlain (front ++ back) = true := by
  rw [isPlain, String.toList_append, List.all_append, Bool.and_eq_true]
  exact ⟨fronts, backs⟩

section Breaks

variable {c : Char} (isBreak : c ∈ lineBreaks)

include isBreak

theorem not_isPlainChar : isPlainChar c = false := by
  simp only [lineBreaks, List.mem_cons, List.not_mem_nil, or_false] at isBreak
  rcases isBreak with rfl | rfl | rfl | rfl | rfl | rfl | rfl <;> rfl

theorem ne_of_isPlainChar {d : Char} (plain : isPlainChar d = true) : c ≠ d := by
  rintro rfl
  rw [not_isPlainChar isBreak] at plain
  cases plain

theorem notMem_of_isPlain {text : String} (plain : isPlain text = true) : c ∉ text.toList := by
  intro among
  exact ne_of_isPlainChar isBreak (List.all_eq_true.mp plain c among) rfl

end Breaks

end Text

open Text (isPlain)

theorem SystemError.isPlain_message (error : SystemError) : isPlain error.message = true := by
  cases error <;> decide +kernel

theorem Identifier.isPlain_normalized {name : Identifier} (formed : name.isWellFormed = true) :
    isPlain name.normalized = true := by
  refine List.all_eq_true.mpr fun c among => ?_
  have bounds : 32 ≤ c.toNat ∧ c.toNat ≤ 126 := by
    rcases char_of_normalized formed c among with ((upper | lower | rfl) | digit) | rfl
    · change 65 ≤ c.toNat ∧ c.toNat ≤ 90 at upper
      omega
    · change 97 ≤ c.toNat ∧ c.toNat ≤ 122 at lower
      omega
    · decide
    · change 48 ≤ c.toNat ∧ c.toNat ≤ 57 at digit
      omega
    · decide
  simpa [Text.isPlainChar] using bounds

namespace TranspileError

/-- The text is made up of what is mentioned and a frame that is plain. -/
def Framed (mentions : List String) (text : String) : Prop :=
  ∃ front back, isPlain front = true ∧ isPlain back = true ∧
    text = front ++ String.join mentions ++ back

theorem framed_plain {text : String} (plain : isPlain text = true) : Framed [] text :=
  ⟨text, "", plain, rfl, by simp⟩

theorem framed_mention {front back : String} (name : String) (fronts : isPlain front = true)
    (backs : isPlain back = true) : Framed [name] (front ++ name ++ back) :=
  ⟨front, back, fronts, backs, by simp⟩

theorem Framed.append {mentions : List String} {text back : String} (framed : Framed mentions text)
    (backs : isPlain back = true) : Framed mentions (text ++ back) := by
  obtain ⟨front, middle, fronts, middles, rfl⟩ := framed
  exact ⟨front, middle ++ back, fronts, Text.isPlain_append middles backs, String.append_assoc⟩

theorem Framed.prepend {mentions : List String} {front text : String}
    (fronts : isPlain front = true) (framed : Framed mentions text) :
    Framed mentions (front ++ text) := by
  obtain ⟨middle, back, middles, backs, rfl⟩ := framed
  refine ⟨front ++ middle, back, Text.isPlain_append fronts middles, backs, ?_⟩
  simp only [String.append_assoc]

theorem framed_initializer (fault : InitializerFault) : Framed fault.mentions fault.message := by
  cases fault with
  | misplacedArray => exact framed_plain (by decide +kernel)
  | misplacedStruct => exact framed_plain (by decide +kernel)
  | _ => exact framed_mention _ (by decide +kernel) (by decide +kernel)

theorem framed_message (error : TranspileError) : Framed error.mentions error.message := by
  cases error with
  | unknownGame name =>
      exact (framed_mention name (by decide +kernel) (by decide +kernel)).append (by decide +kernel)
  | unsupported feature => exact framed_plain (by cases feature <;> decide +kernel)
  | includeNotFound path =>
      have named : Framed [path] path := ⟨"", "", rfl, rfl, by simp⟩
      exact named.prepend (by decide +kernel)
  | includeUnreadable path cause =>
      exact (framed_mention path (by decide +kernel) (by decide +kernel)).append
        cause.isPlain_message
  | malformedProperty name fault =>
      refine (framed_mention name (by decide +kernel) (by decide +kernel)).append ?_
      cases fault <;> decide +kernel
  | malformedInitializer fault => exact (framed_initializer fault).prepend (by decide +kernel)

/-- All line breaks of a message come with what it mentions. -/
theorem mem_message_iff (error : TranspileError) {c : Char} (isBreak : c ∈ Text.lineBreaks) :
    c ∈ error.message.toList ↔ ∃ text ∈ error.mentions, c ∈ text.toList := by
  obtain ⟨front, back, fronts, backs, framed⟩ := error.framed_message
  have notFront := Text.notMem_of_isPlain isBreak fronts
  have notBack := Text.notMem_of_isPlain isBreak backs
  rw [framed, String.toList_append, String.toList_append, List.mem_append, List.mem_append,
    String.toList_join, List.mem_flatMap]
  simp only [notFront, notBack, false_or, or_false]

end TranspileError

theorem Text.mem_stripQuotes_iff {c : Char} (text : String) (unquoted : c ≠ '"') :
    c ∈ (stripQuotes text).toList ↔ c ∈ text.toList := by
  rw [stripQuotes, String.toList_ofList, List.mem_filter]
  simp [unquoted]

/-- The line breaks in the path of an included file are those of the directive, or of the directory
that it is looked up in. -/
theorem mem_includePath_iff {root path : String} {c : Char} (isBreak : c ∈ Text.lineBreaks)
    (unbroken : c ∉ root.toList) : c ∈ (includePath root path).toList ↔ c ∈ path.toList := by
  have stripped := Text.mem_stripQuotes_iff path (Text.ne_of_isPlainChar isBreak (d := '"') rfl)
  have notSlash := Text.ne_of_isPlainChar isBreak (d := '/') rfl
  unfold includePath
  obtain ⟨alone, -⟩ | ⟨-, front, ends, joined⟩ := Path.join_cases root (Text.stripQuotes path)
  · rw [alone, stripped]
  · have notFront : c ∉ front := by
      intro among
      rcases ends with whole | whole <;> rw [whole] at unbroken
      · exact unbroken among
      · exact unbroken (List.mem_append_left _ among)
    rw [joined, List.mem_append, List.mem_cons, stripped]
    simp only [notFront, notSlash, false_or]

theorem Game.eq_unknownGame {name : String} {error : TranspileError}
    (failed : Game.parse name = .error error) : error = .unknownGame name := by
  unfold Game.parse at failed
  split at failed
  · cases failed
  · exact (Except.error.inj failed).symm

theorem Game.parse_of_lineBreak {name : String} {c : Char} (isBreak : c ∈ Text.lineBreaks)
    (among : c ∈ name.toList) : Game.parse name = .error (.unknownGame name) := by
  unfold Game.parse
  cases known : Game.ofName? name with
  | none => rfl
  | some game =>
      have named : game.name = name := by simpa using List.find?_some known
      have plain : isPlain game.name = true := by cases game <;> decide +kernel
      rw [named] at plain
      exact absurd among (Text.notMem_of_isPlain isBreak plain)

theorem exists_includeFault_of_preprocess {read : FileReader} {root : String}
    {seed : List (String × String)} {directives : List Directive} {error : TranspileError}
    (failed : (preprocess read root seed directives).result = .error error) :
    ∃ path cause, .includeFile path ∈ directives ∧ read (includePath root path) = .error cause ∧
      error = includeFault (includePath root path) cause := by
  have found := (takeDirectives_eq_error_iff read root directives _ error).mp failed
  obtain ⟨before, path, after, cause, rfl, -, unreadable, fault⟩ :=
    (Directive.findSome?_fault? read root directives error).mp found
  exact ⟨path, cause, List.mem_append_right before List.mem_cons_self, unreadable, fault⟩

theorem mentions_includeFault (path : String) (cause : SystemError) :
    (includeFault path cause).mentions = [path] := by
  unfold includeFault
  split <;> rfl

namespace SyntaxTree

variable {read : FileReader} {options : TranspileOptions} {tree : SyntaxTree}
  {error : TranspileError}

/-- The stage in which a run fails. -/
inductive FailedStage (read : FileReader) (options : TranspileOptions) (tree : SyntaxTree)
    (error : TranspileError) : Prop
  | game (failed : Game.parse options.game = .error error)
  | directives (failed : (preprocess read options.includeRoot options.defines
      tree.directives).result = .error error)
  | script (game : Game) (table : DirectiveTable)
      (failed : (tree.script.generate game table).result = .error error)

theorem failedStage_of_transpile (failed : (tree.transpile read options).result = .error error) :
    FailedStage read options tree error := by
  rw [transpile_result] at failed
  cases parsed : Game.parse options.game with
  | error cause =>
      rw [parsed] at failed
      cases failed
      exact .game parsed
  | ok game =>
      rw [parsed] at failed
      generalize taken : (preprocess read _ _ _).result = outcome at failed
      cases outcome with
      | error cause =>
          cases failed
          exact .directives taken
      | ok state =>
          change ((tree.script.generate game state.table).result >>= _) = _ at failed
          cases generated : (tree.script.generate game state.table).result with
          | error cause =>
              rw [generated] at failed
              cases failed
              exact .script game state.table generated
          | ok script =>
              rw [generated] at failed
              cases failed

theorem wellFormed_of_read {source : String} (accepted : SyntaxTree.read source = (some tree, [])) :
    ∀ occurrence ∈ tree.script.occurrences, occurrence.name.isWellFormed = true := by
  intro occurrence among
  have silent := (diagnostics_of_read accepted).symm
  rw [identifierDiagnostics, List.filterMap_eq_nil_iff] at silent
  cases formed : occurrence.name.isWellFormed with
  | true => rfl
  | false => cases (Occurrence.diagnostic?_eq_some formed).symm.trans (silent occurrence among)

/-- If a tree was read without diagnostics and includes are looked up in a directory without line
breaks, then the message of an error has a line break exactly if the name of the game has it, or if
the error is that of an included file and the directive's path has it. -/
theorem lineBreak_of_transpile {source : String}
    (accepted : SyntaxTree.read source = (some tree, []))
    (failed : (tree.transpile read options).result = .error error) {c : Char}
    (isBreak : c ∈ Text.lineBreaks) (unbroken : c ∉ options.includeRoot.toList) :
    c ∈ error.message.toList ↔
      c ∈ options.game.toList ∨
        ∃ path cause, .includeFile path ∈ tree.directives ∧ c ∈ path.toList ∧
          read (includePath options.includeRoot path) = .error cause ∧
          error = includeFault (includePath options.includeRoot path) cause := by
  rw [error.mem_message_iff isBreak]
  constructor
  · rintro ⟨text, mentioned, among⟩
    cases failedStage_of_transpile failed with
    | game failed =>
        cases Game.eq_unknownGame failed
        rw [TranspileError.mentions, List.mem_singleton] at mentioned
        exact .inl (mentioned ▸ among)
    | directives failed =>
        obtain ⟨path, cause, listed, unreadable, rfl⟩ := exists_includeFault_of_preprocess failed
        rw [mentions_includeFault, List.mem_singleton] at mentioned
        subst mentioned
        have inPath := (mem_includePath_iff isBreak unbroken).mp among
        exact .inr ⟨path, cause, listed, inPath, unreadable, rfl⟩
    | script game table failed =>
        have blames : Blames (fun name => name.isWellFormed = true) _ :=
          tree.script.blames_generate game table (wellFormed_of_read accepted)
        obtain ⟨name, formed, rfl⟩ := blames error failed text mentioned
        exact absurd among (Text.notMem_of_isPlain isBreak (Identifier.isPlain_normalized formed))
  · rintro (inGame | ⟨path, cause, -, inPath, -, rfl⟩)
    · rw [transpile_result, Game.parse_of_lineBreak isBreak inGame] at failed
      cases failed
      exact ⟨options.game, List.mem_singleton_self _, inGame⟩
    · refine ⟨includePath options.includeRoot path, ?_, ?_⟩
      · rw [mentions_includeFault]
        exact List.mem_singleton_self _
      · exact (mem_includePath_iff isBreak unbroken).mpr inPath

/-- A script that includes a file with a line break in its name. -/
def letter : SyntaxTree where
  directives := [.includeFile "a\nb.psc"]
  script := { name := ⟨"A"⟩, parent := ⟨"Q"⟩, flags := [], members := [] }

theorem read_letter : SyntaxTree.read letter.encode.render = (some letter, []) := by
  have dotted : letter.EveryName QualifiedName.Dotted := trivial
  have accepts : Json.Decoder.Accepts Json.depthLimit SyntaxTree.decoder letter.encode letter :=
    letter.accepts dotted (by decide)
  rw [SyntaxTree.read, accepts.read (by decide) (Json.spelledBy_render accepts.numberFree)]
  rfl

/-- Without any files. -/
def nowhere : FileReader := fun _ => .error .notFound

theorem transpile_letter :
    (letter.transpile nowhere ⟨"SkyrimSE", ".", []⟩).result =
      .error (.includeNotFound "./a\nb.psc") := rfl

theorem lineBreak_of_transpile_letter :
    '\n' ∈ (TranspileError.includeNotFound "./a\nb.psc").message.toList ↔
      '\n' ∈ "SkyrimSE".toList ∨
        ∃ path cause, .includeFile path ∈ letter.directives ∧ '\n' ∈ path.toList ∧
          nowhere (includePath "." path) = .error cause ∧
          TranspileError.includeNotFound "./a\nb.psc" = includeFault (includePath "." path) cause :=
  lineBreak_of_transpile read_letter transpile_letter (by decide) (by decide)

/-- Not every message is one line: neither the name of a game nor the path of a file is checked. -/
theorem message_of_two_lines :
    SyntaxTree.read letter.encode.render = (some letter, []) ∧
      (letter.transpile nowhere ⟨"SkyrimSE", ".", []⟩).result =
        .error (.includeNotFound "./a\nb.psc") ∧
      '\n' ∈ (TranspileError.includeNotFound "./a\nb.psc").message.toList ∧
      (letter.transpile nowhere ⟨"Skyrim\nSE", ".", []⟩).result =
        .error (.unknownGame "Skyrim\nSE") ∧
      '\n' ∈ (TranspileError.unknownGame "Skyrim\nSE").message.toList :=
  ⟨read_letter, transpile_letter, by decide +kernel, rfl, by decide +kernel⟩

end SyntaxTree

end PapyrusWriter
