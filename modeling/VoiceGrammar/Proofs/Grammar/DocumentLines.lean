import Mathlib.Data.List.Basic
import VoiceGrammar.Proofs.Expansion.BodyCharacters
import VoiceGrammar.Proofs.Grammar.DocumentWords
import VoiceGrammar.Proofs.Text.Lines

/-!
# The lines of a grammar document

A document is three lines, and each of them ends with its only semicolon. Neither a name that is
admitted nor a rule body holds a semicolon or a control character, which is why no line ends before
its time: what was put into a document stays where it was put and can be read off again.
-/

namespace VoiceGrammar

namespace Grammar

open Body

theorem document_eq_ok_iff {name text : String} {body : Expansion} :
    document name body = .ok text ↔ isRuleName name = true ∧ text = Grammar.text name body := by
  rw [document, checkRuleName]
  by_cases isName : isRuleName name = true
  · rw [if_pos isName, Except.ok.injEq, eq_comm]
    exact (and_iff_right isName).symm
  · rw [if_neg isName]
    constructor
    · intro failed
      cases failed
    · rintro ⟨isName', -⟩
      exact absurd isName' isName

/-! ## Statements -/

/-- A text that ends neither a statement nor a line: no semicolon and no control character. -/
def IsInner (text : String) : Prop :=
  ∀ c ∈ text.toList, c ≠ ';' ∧ Text.isControl c = false

instance : DecidablePred IsInner := fun _ =>
  List.decidableBAll _ _

theorem isInner_append {text more : String} :
    IsInner (text ++ more) ↔ IsInner text ∧ IsInner more := by
  rw [IsInner, String.toList_append, List.forall_mem_append]
  rfl

theorem isInner_name {name : String} (isName : isRuleName name = true) : IsInner name := by
  intro c member
  have nameChar := isNameChar_of_mem isName c member
  constructor
  · rintro rfl
    exact absurd nameChar (by decide)
  · simp only [isNameChar, Bool.not_eq_true', Bool.or_eq_false_iff] at nameChar
    exact nameChar.1.2

theorem isInner_body (body : Expansion) : IsInner body.body := by
  intro c member
  have bodyChar := body.isBodyText_body c member
  refine ⟨?_, isControl_eq_false_of_isBodyChar bodyChar⟩
  rintro rfl
  exact absurd bodyChar (by decide)

/-- A line with one statement, which its semicolon ends. -/
def IsStatement (line : String) : Prop :=
  ∃ inner, IsInner inner ∧ line = inner ++ ";"

namespace IsStatement

variable {line : String}

theorem count_semicolon (statement : IsStatement line) : line.toList.count ';' = 1 := by
  obtain ⟨inner, isInner, rfl⟩ := statement
  have none : inner.toList.count ';' = 0 :=
    List.count_eq_zero.2 fun member => (isInner ';' member).1 rfl
  rw [String.toList_append, List.count_append, none]
  decide

theorem getLast?_eq (statement : IsStatement line) : line.toList.getLast? = some ';' := by
  obtain ⟨inner, -, rfl⟩ := statement
  simp

theorem not_mem_of_isControl (statement : IsStatement line) {c : Char}
    (control : Text.isControl c = true) : c ∉ line.toList := by
  obtain ⟨inner, isInner, rfl⟩ := statement
  rw [String.toList_append, List.mem_append]
  rintro (inInner | isSemicolon)
  · have notControl := (isInner c inInner).2
    rw [control] at notControl
    cases notControl
  · obtain rfl : c = ';' := by simpa using isSemicolon
    exact absurd control (by decide)

end IsStatement

/-! ## Lines -/

/-- The lines of a document. -/
def linesFor (name : String) (body : Expansion) : List String :=
  ["#JSGF V1.0;", "grammar " ++ name ++ ";", "public <" ++ name ++ "> = " ++ body.body ++ ";"]

theorem isStatement_of_mem_linesFor {name : String} (isName : isRuleName name = true)
    (body : Expansion) : ∀ line ∈ linesFor name body, IsStatement line := by
  have inName := isInner_name isName
  have inBody := isInner_body body
  simp only [linesFor, List.forall_mem_cons]
  refine ⟨⟨"#JSGF V1.0", by decide, by decide⟩, ⟨_, ?_, rfl⟩, ⟨_, ?_, rfl⟩, List.forall_mem_nil _⟩
  · exact isInner_append.2 ⟨by decide, inName⟩
  · simp only [isInner_append]
    exact ⟨⟨⟨by decide, inName⟩, by decide⟩, inBody⟩

theorem text_eq_join (name : String) (body : Expansion) :
    text name body = String.join ((linesFor name body).map (· ++ "\n")) := by
  -- A document is written with line breaks inside of its fixed parts; cut there, they are lines.
  have parts : "\ngrammar ".toList = '\n' :: "grammar ".toList ∧
      ";\npublic <".toList = ";\n".toList ++ "public <".toList := by
    decide
  simp [text, linesFor, header, parts, ← String.toList_inj]

theorem toList_join_cons (first : String) (rest : List String) :
    (String.join ((first :: rest).map (· ++ "\n"))).toList =
      first.toList ++ '\n' :: (String.join (rest.map (· ++ "\n"))).toList := by
  simp

/-- Lines without a line break and a carriage return are the lines of the text that they make. -/
theorem lines_join {lines : List String}
    (unbroken : ∀ line ∈ lines, '\n' ∉ line.toList ∧ '\r' ∉ line.toList) :
    Text.lines (String.join (lines.map (· ++ "\n"))).toList = lines.map String.toList := by
  induction lines with
  | nil => rfl
  | cons first rest inRest =>
    rw [List.forall_mem_cons] at unbroken
    rw [toList_join_cons, Text.lines_append_break unbroken.1.1 unbroken.1.2, inRest unbroken.2,
      List.map_cons]

theorem lines_text {name : String} (isName : isRuleName name = true) (body : Expansion) :
    Text.lines (text name body).toList = (linesFor name body).map String.toList := by
  rw [text_eq_join]
  refine lines_join fun line member => ?_
  have statement := isStatement_of_mem_linesFor isName body line member
  exact ⟨statement.not_mem_of_isControl (by decide), statement.not_mem_of_isControl (by decide)⟩

theorem count_break_join {lines : List String} (unbroken : ∀ line ∈ lines, '\n' ∉ line.toList) :
    (String.join (lines.map (· ++ "\n"))).toList.count '\n' = lines.length := by
  induction lines with
  | nil => rfl
  | cons first rest inRest =>
    rw [List.forall_mem_cons] at unbroken
    rw [toList_join_cons, List.count_append, List.count_eq_zero.2 unbroken.1,
      List.count_cons_self, inRest unbroken.2, List.length_cons, Nat.zero_add]

/-- The lines of a document hold its name and the text of its body. -/
theorem linesFor_inj {name name' : String} {body body' : Expansion}
    (same : linesFor name body = linesFor name' body') :
    name = name' ∧ body.body = body'.body := by
  simp only [linesFor, List.cons.injEq, and_true, true_and] at same
  obtain ⟨sameName, sameRule⟩ := same
  have isSame : name = name' := by
    simpa [← String.toList_inj] using sameName
  subst isSame
  refine ⟨rfl, ?_⟩
  simpa [← String.toList_inj] using sameRule

/-- A document that is made consists of three lines, each with one semicolon, which ends it: the
header, the name, and the rule with the text of its body. The body holds no character that has a
meaning around it, no quote, no control character and no blank but the space. From the document its
name and the text of its body can be told. -/
theorem document_keeps_bounds {name text : String} {body : Expansion}
    (made : document name body = .ok text) :
    let lines :=
      ["#JSGF V1.0;", "grammar " ++ name ++ ";", "public <" ++ name ++ "> = " ++ body.body ++ ";"]
    text = String.join (lines.map (· ++ "\n")) ∧ text.toList.count '\n' = 3 ∧
    (∀ line ∈ lines, '\n' ∉ line.toList ∧ line.toList.count ';' = 1 ∧
      line.toList.getLast? = some ';') ∧
    (∀ c ∈ body.body.toList,
      c ∉ ['<', '>', '=', ';', '\x7b', '\x7d', '/', '\x22', '\x27', '\x60', '\\'] ∧
        Text.isControl c = false ∧ (Text.isBlank c = true → c = ' ')) ∧
    ∀ name' body', document name' body' = .ok text → name' = name ∧ body'.body = body.body := by
  obtain ⟨isName, rfl⟩ := document_eq_ok_iff.1 made
  intro lines
  have statement : ∀ line ∈ lines, IsStatement line := isStatement_of_mem_linesFor isName body
  have unbroken : ∀ line ∈ lines, '\n' ∉ line.toList :=
    fun line member => (statement line member).not_mem_of_isControl (by decide)
  refine ⟨text_eq_join name body, ?threeBreaks, fun line member => ?oneSemicolon,
    fun c member => ?characters, fun name' body' made' => ?determined⟩
  case threeBreaks =>
    rw [text_eq_join, linesFor, count_break_join unbroken]
    rfl
  case oneSemicolon =>
    exact ⟨unbroken line member, (statement line member).count_semicolon,
      (statement line member).getLast?_eq⟩
  case characters =>
    have bodyChar := body.isBodyText_body c member
    refine ⟨fun foreign => ?_, isControl_eq_false_of_isBodyChar bodyChar,
      eq_space_of_isBodyChar bodyChar⟩
    have none : ['<', '>', '=', ';', '\x7b', '\x7d', '/', '\x22', '\x27', '\x60', '\\'].any
        isBodyChar = false := by
      decide
    exact List.any_eq_false.1 none c foreign bodyChar
  case determined =>
    obtain ⟨isName', same⟩ := document_eq_ok_iff.1 made'
    -- Both documents are cut into lines at the same places.
    have sameLines : (linesFor name' body').map String.toList =
        (linesFor name body).map String.toList := by
      rw [← lines_text isName', ← same, lines_text isName]
    exact linesFor_inj (List.map_injective_iff.2 (fun _ _ => String.toList_inj.1) sameLines)

/-- Two expansions may have one text, and a document tells no more than that text. -/
theorem document_keeps_bounds_phrase :
    let choice : Expansion := .optional (.alternatives
      [.phrase ⟨"GO LEFT", by decide⟩, .oneOrMore (.phrase ⟨"UP", by decide⟩)])
    let words : Expansion := .optional (.alternatives
      [.sequence [.phrase ⟨"GO", by decide⟩, .phrase ⟨"LEFT", by decide⟩],
        .oneOrMore (.phrase ⟨"UP", by decide⟩)])
    let text := "#JSGF V1.0;\ngrammar moves_2;\npublic <moves_2> = [ GO LEFT | ( UP )+ ];\n"
    document "moves_2" choice = .ok text ∧ text.toList.count '\n' = 3 ∧
      document "moves_2" words = .ok text ∧ words.body = choice.body := by
  intro choice words text
  have made : document "moves_2" choice = .ok text := by rfl
  have made' : document "moves_2" words = .ok text := by rfl
  obtain ⟨-, breaks, -, -, determined⟩ := document_keeps_bounds made
  exact ⟨made, breaks, made', (determined "moves_2" words made').2⟩

end Grammar

end VoiceGrammar
