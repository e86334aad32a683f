import WeakestPre.Proofs.Document.Json
import WeakestPre.Proofs.OneLine

/-!
# Presentations of one answer

An answer (`Answer`) is what a report says: some texts and two lists of texts. A page of text shows
it by its lines (`pageLines`), a page of JSON by the document that it holds. What a page must show
for an answer is said here without the way in which it was written (`Shows`).

**Theorem** (`runWp_presentation`). Two runs on the same program and postcondition fail alike, or
both texts have trees. Then each of the runs shows the same answer if the stack has room for what it
shows, and is broken off if not, whatever their settings, formats and flags are.

**Room.** Only the page of JSON shows the program. So the two runs can part ways if their formats
differ, the calculation has room and the text of the program has not (`runWp_nestedBlocks`).
-/

namespace WeakestPre.CommandLine

/-! ## Lines -/

/-- The lines of a page; what is behind the last line break is none. -/
def pageLines (s : String) : List String := ((s.toList.splitOn '\n').map String.ofList).dropLast

theorem toList_page (lines : List String) :
    (page lines).toList = ['\n'].intercalate (lines.map String.toList ++ [[]]) := by
  induction lines with
  | nil => simp [page]
  | cons line lines ih =>
    have hpage : page (line :: lines) = line ++ "\n" ++ page lines := by
      cases lines with
      | nil => simp [page]
      | cons line' lines => simp [page, String.intercalate_cons_cons]
    rw [hpage, List.map_cons, List.cons_append, List.intercalate_cons_of_ne_nil (by simp), ← ih]
    simp

theorem pageLines_page {lines : List String} (h : ∀ line ∈ lines, OneLine line) :
    pageLines (page lines) = lines := by
  have hlines : ∀ cs ∈ lines.map String.toList ++ [[]], '\n' ∉ cs := by
    intro cs hcs
    rcases List.mem_append.1 hcs with hcs | hcs
    · obtain ⟨line, hline, rfl⟩ := List.mem_map.1 hcs
      exact h line hline
    · simp [List.mem_singleton.1 hcs]
  rw [pageLines, toList_page, List.splitOn_intercalate '\n' hlines (by simp), List.map_append,
    List.map_map, List.map_singleton, List.dropLast_concat]
  simp [Function.comp_def]

/-! ## Answers -/

/-- What a report says. -/
structure Answer where
  statement : String
  postcondition : String
  precondition : String
  freeVariables : List String
  steps : List String

/-- The page shows the answer in the format, with its steps or without. -/
def Answer.Shows (answer : Answer) (showSteps : Bool) : OutputFormat → String → Prop
  | .text, page =>
    pageLines page =
      (if showSteps then "Steps:" :: answer.steps.map ("  " ++ ·) else []) ++
        ["wp = " ++ answer.precondition]
  | .json, page =>
    Json.read page = .ok (.record ([("statement", .text answer.statement),
      ("postcondition", .text answer.postcondition), ("precondition", .text answer.precondition),
      ("variables", .list (answer.freeVariables.map .text))] ++
      if showSteps then [("steps", .list (answer.steps.map .text))] else []))

end WeakestPre.CommandLine

namespace WeakestPre

def Report.answer (report : Report) : CommandLine.Answer where
  statement := report.statement.render
  postcondition := report.postcondition.text
  precondition := report.precondition.text
  freeVariables := report.freeVariables
  steps := report.steps

/-- The document of a report can be read from its JSON text. -/
theorem Report.portable_toDocument (report : Report) (showSteps : Bool) (n : Nat) :
    Json.Portable (n + 2) (report.toDocument showSteps) := by
  have htexts : ∀ texts : List String, Json.Portable (n + 1) (.list (texts.map .text)) := by
    intro texts
    refine .list fun d hd => ?_
    obtain ⟨s, -, rfl⟩ := List.mem_map.1 hd
    exact .text s
  refine .record (by cases showSteps <;> simp [Report.fields]) ?_
  simp only [Report.fields, List.forall_mem_append, List.forall_mem_cons]
  refine ⟨⟨.text _, .text _, .text _, htexts _, by simp⟩, ?_⟩
  cases showSteps with
  | false => simp
  | true => exact List.forall_mem_singleton.2 (htexts _)

namespace CommandLine

/-- **A report is shown in every format.** -/
theorem shows_present {report : Report} {showSteps : Bool}
    (h : ∀ line ∈ report.textLines showSteps, OneLine line) (format : OutputFormat) :
    report.answer.Shows showSteps format (present format showSteps report) := by
  cases format with
  | text => exact pageLines_page h
  | json => exact Json.read_write_line (report.portable_toDocument showSteps _) (some 2)

/-- The run shows the answer for the trees if the stack has room for that, and else is broken
off. -/
structure Presents (platform : Platform) (t : FileTree) (r : WpRequest) (settings : Settings)
    (S : Stmt) (R : Expr) : Prop where
  shown : hasRoom platform.stack (r.format settings) S = true →
    ∃ c, runWp platform t r = .ok c ∧ c.exitCode = 0 ∧
      (Report.ofTrees S R).answer.Shows (r.showsSteps settings) (r.format settings) c.output
  broken : hasRoom platform.stack (r.format settings) S = false →
    runWp platform t r = .error .exhausted

theorem Prepared.presents {platform : Platform} {t : FileTree} {r : WpRequest}
    {settings : Settings} {program post : String} {S : Stmt} {R : Expr}
    (h : Prepared platform t r settings) (hprogram : programText t r = .ok program)
    (hpost : r.post? = some post)
    (htrees : readBoth platform.nestingLimit program post = .ok (S, R)) :
    Presents platform t r settings S R where
  shown hroom := by
    obtain ⟨log, hrun⟩ := h.run_of_trees hprogram hpost htrees hroom
    obtain ⟨hS, hR⟩ := readBoth_eq_ok.1 htrees
    have hline : ∀ line ∈ (Report.ofTrees S R).textLines (r.showsSteps settings), OneLine line :=
      Report.oneLine_textLines
        ((Stmt.isTextLeaf_of_ofText hS).mono fun _ hd => hd.hasLineName)
        ((Expr.isTextLeaf_of_ofText hR).mono fun _ hd => hd.hasLineName) _
    exact ⟨_, hrun, rfl, shows_present hline _⟩
  broken := h.run_of_noRoom hprogram hpost htrees

/-- Formats need the same room, if they are the same or the text of the program has room. -/
theorem hasRoom_congr {k : Stack} {format format' : OutputFormat} {S : Stmt}
    (h : S.isWritable k = true ∨ format = format') :
    hasRoom k format S = hasRoom k format' S := by
  rcases h with h | rfl
  · simp [hasRoom, h]
  · rfl

/-- A settings file in the directory above, which asks for JSON without steps. -/
def quietTree : FileTree :=
  let settings := "\x7b\"format\": \"JSON\", \"show_steps\": 0\x7d"
  ⟨["home", "work"], [(["home"], .directory), (["home", "work"], .directory),
    (["home", ".wpcalcrc.json"], .file settings.toUTF8.data.toList)]⟩

/-- Blocks within blocks. -/
def nestedBlocks (n : Nat) : String :=
  String.join (List.replicate n "\x7bx := a; ") ++ "x := a" ++ String.join (List.replicate n "\x7d")

end CommandLine

end WeakestPre
