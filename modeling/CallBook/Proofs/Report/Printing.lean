import CallBook.Proofs.Terminal.Unstyled
import CallBook.Report.Shown

/-!
# A report is shown as it is

A report is cut into lines, each line is put into a style of its own, and the lines are written one
after the other. Whatever line feeds, carriage returns and lines that look like headings the parts
of the report bring along, nothing is lost or moved (`shown_keeps_text`): without colours the report
comes out with a line feed for each carriage return and line feed, and colours add nothing but style
sequences.

A report is its texts with a line feed after each, so that its lines are those of the texts, one
text after the other, without a carriage return at the end (`linesOf_unlines`). That is also how
`withLineFeeds` goes about it, part by part (`withLineFeeds_line`). For the colours one line is
enough (`unstyled_shownLine`), as no style sequence goes on over a line feed.
-/

namespace CallBook.Report

/-! ## Line feeds -/

/-- A text with a line feed for each carriage return and line feed. -/
def withLineFeeds : List Char → List Char
  | '\r' :: '\n' :: rest => '\n' :: withLineFeeds rest
  | c :: rest => c :: withLineFeeds rest
  | [] => []

/-- One line at the front loses its return, and the others follow. -/
theorem withLineFeeds_line {line : List Char} (h : '\n' ∉ line) (rest : List Char) :
    withLineFeeds (line ++ '\n' :: rest) = withoutReturn line ++ '\n' :: withLineFeeds rest := by
  induction line with
  | nil => rfl
  | cons c line ih =>
    rw [List.mem_cons, not_or] at h
    cases line with
    | nil =>
      -- the last character is the only one that the line feed can change
      by_cases hc : c = '\r'
      · rw [hc]
        rfl
      · have hkept : withoutReturn [c] = [c] := if_neg fun hlast => hc (Option.some.inj hlast)
        rw [hkept, List.singleton_append, withLineFeeds, withLineFeeds]
        · rfl
        · rintro rest ⟨⟩
        · rintro rest rfl
          exact absurd rfl hc
    | cons d line =>
      have hd : d ≠ '\n' := fun heq => h.2 (heq ▸ List.mem_cons_self)
      have hreturn : withoutReturn (c :: d :: line) = c :: withoutReturn (d :: line) := by
        rw [withoutReturn, withoutReturn, List.getLast?_cons_cons]
        split <;> rfl
      rw [hreturn, List.cons_append, withLineFeeds, ih h.2]
      · rfl
      · rintro rest - heq
        exact hd (List.cons.inj heq).1

/-- Each line loses its return. -/
theorem withLineFeeds_flatMap {lines : List (List Char)} (h : ∀ line ∈ lines, '\n' ∉ line) :
    withLineFeeds (lines.flatMap (· ++ ['\n']))
      = lines.flatMap fun line => withoutReturn line ++ ['\n'] := by
  induction lines with
  | nil => rfl
  | cons line lines ih =>
    rw [List.forall_mem_cons] at h
    rw [List.flatMap_cons, List.append_assoc, List.singleton_append, withLineFeeds_line h.1, ih h.2,
      List.flatMap_cons, List.append_assoc]
    rfl

/-- Characters are left out, and nothing else is done to a text. -/
theorem withLineFeeds_sublist (text : List Char) : (withLineFeeds text).Sublist text := by
  induction text using withLineFeeds.induct with
  | case1 rest ih => exact (ih.cons_cons '\n').cons '\r'
  | case2 c rest hne ih =>
    rw [withLineFeeds]
    · exact ih.cons_cons c
    · exact hne
  | case3 => exact List.nil_sublist []

/-! ## Lines -/

/-- A text of lines has a line feed behind each. -/
theorem toList_unlines (lines : List String) :
    (unlines lines).toList = lines.flatMap fun line => line.toList ++ ['\n'] := by
  rw [unlines, String.toList_join, List.flatMap_map]
  exact congrArg (List.flatMap · _) (funext fun line => String.toList_append)

/-- What stands between the line feeds of some texts, one text after the other. -/
def partsOf (texts : List String) : List (List Char) :=
  texts.flatMap fun part => Text.fields (· == '\n') part.toList

/-- Lines that hold line feeds are several lines. -/
theorem toList_unlines_eq_parts (texts : List String) :
    (unlines texts).toList = (partsOf texts).flatMap (· ++ ['\n']) := by
  rw [toList_unlines, partsOf, List.flatMap_assoc]
  exact congrArg (List.flatMap · _) (funext fun _ => Text.concat_eq_flatMap_fields '\n' _)

/-- Split at its line feeds, a text gives its lines, and nothing behind the last. -/
theorem fields_unlines (texts : List String) :
    Text.fields (· == '\n') (unlines texts).toList = partsOf texts ++ [[]] := by
  rw [toList_unlines, partsOf]
  induction texts with
  | nil => rfl
  | cons first texts ih =>
    rw [List.flatMap_cons, List.append_assoc, List.singleton_append, Text.fields_append (by rfl),
      ih, List.flatMap_cons, List.append_assoc]

/-- The lines of a report are those of its texts. -/
theorem linesOf_unlines (texts : List String) :
    linesOf (unlines texts) = (partsOf texts).map (String.ofList ∘ withoutReturn) := by
  rw [linesOf, fields_unlines, List.dropLast_concat, List.getLast?_concat, ← List.map_map]
  exact congrArg _ (List.append_nil _)

/-- Taking a text apart into lines and putting it together again loses only returns. -/
theorem unlines_linesOf (texts : List String) :
    (unlines (linesOf (unlines texts))).toList = withLineFeeds (unlines texts).toList := by
  have hfree : ∀ part ∈ partsOf texts, '\n' ∉ part := by
    intro part hpart
    obtain ⟨_, -, hfield⟩ := List.mem_flatMap.mp hpart
    exact Text.notMem_of_mem_fields hfield
  rw [toList_unlines_eq_parts texts, withLineFeeds_flatMap hfree, linesOf_unlines, toList_unlines,
    List.flatMap_map]
  refine congrArg (List.flatMap · _) (funext fun part => ?_)
  rw [Function.comp_apply, String.toList_ofList]

example : unlines (linesOf "a\r\n\nB:\r\r\nc\rd\n") = "a\n\nB:\r\nc\rd\n" := by decide +kernel

/-- A text of one line is a line of its own, whatever stands around it. -/
theorem mem_linesOf_unlines {texts : List String} {line : String} (h : line ∈ texts)
    (hfeed : '\n' ∉ line.toList) (hreturn : withoutReturn line.toList = line.toList) :
    line ∈ linesOf (unlines texts) := by
  have hpart : line.toList ∈ partsOf texts := by
    refine List.mem_flatMap.mpr ⟨line, h, ?_⟩
    rw [Text.fields_of_notMem hfeed]
    exact List.mem_singleton_self _
  rw [linesOf_unlines]
  refine List.mem_map.mpr ⟨_, hpart, ?_⟩
  rw [Function.comp_apply, hreturn, String.ofList_toList]

/-! ## Printing -/

theorem shownLine_plain (status : Nat) (line : String) : shownLine false status line = line := by
  rw [shownLine]
  split <;> rfl

/-- A line that is coloured has the line as its plain text. -/
theorem unstyled_shownLine (status : Nat) (line : String) :
    Terminal.unstyled (shownLine true status line).toList = Terminal.unstyled line.toList := by
  rw [shownLine]
  split
  next style _ => exact Terminal.unstyled_paint style line
  next => rfl

/-- The plain text of lines is made of the plain text of each. -/
theorem unstyled_unlines (lines : List String) :
    Terminal.unstyled (unlines lines).toList
      = lines.flatMap fun line => Terminal.unstyled line.toList ++ ['\n'] := by
  rw [toList_unlines]
  induction lines with
  | nil => exact Terminal.unstyled_of_notMem List.not_mem_nil
  | cons line lines ih =>
    -- a sequence that the line leaves open ends at its line feed
    have hbreaks : Terminal.Breaks ('\n' :: lines.flatMap fun line => line.toList ++ ['\n']) := by
      rintro c ⟨⟩
      exact .inr rfl
    rw [List.flatMap_cons, List.append_assoc, List.singleton_append,
      Terminal.unstyled_append hbreaks, Terminal.unstyled_lineFeed, ih, List.flatMap_cons,
      List.append_assoc]
    rfl

/-- Without colours the report is printed as it is, but for returns. -/
theorem toList_shown_plain (request : Request) (environment : Environment) (result : CallResult) :
    (shown false request environment result).toList
      = withLineFeeds (text request environment result).toList := by
  have hid : shownLine false result.status = id := funext (shownLine_plain result.status)
  rw [shown, hid, List.map_id, text, unlines_linesOf]

/-- With colours the report has the same plain text as without. -/
theorem unstyled_shown (request : Request) (environment : Environment) (result : CallResult) :
    Terminal.unstyled (shown true request environment result).toList
      = Terminal.unstyled (shown false request environment result).toList := by
  rw [shown, shown, unstyled_unlines, unstyled_unlines, List.flatMap_map, List.flatMap_map]
  refine congrArg (List.flatMap · _) (funext fun line => ?_)
  rw [unstyled_shownLine, shownLine_plain]

/-- Every report has a heading, and headings are bold. -/
theorem escape_mem_shown (request : Request) (environment : Environment) (result : CallResult) :
    '\x1b' ∈ (shown true request environment result).toList := by
  have hmem : "HEADERS:" ∈ lines request environment result := by simp [lines, heading]
  have hline : "HEADERS:" ∈ linesOf (text request environment result) :=
    mem_linesOf_unlines hmem (by decide) (by decide)
  have hbold : shownLine true result.status "HEADERS:" = Terminal.bold.paint true "HEADERS:" := rfl
  rw [shown, toList_unlines]
  refine List.mem_flatMap.mpr ⟨_, List.mem_map_of_mem hline, List.mem_append_left _ ?_⟩
  rw [hbold]
  decide +kernel

/-- **Printing leaves a report as it is.** Without colours a report is shown with a line feed for
each carriage return and line feed, and otherwise unchanged. Colours add style sequences to every
report and nothing else: without these it is the same text, and exactly the plain one if the report
has no escape character of its own. -/
theorem shown_keeps_text (request : Request) (environment : Environment) (result : CallResult) :
    let plain := (shown false request environment result).toList
    let styled := (shown true request environment result).toList
    plain = withLineFeeds (text request environment result).toList ∧
      '\x1b' ∈ styled ∧ Terminal.unstyled styled = Terminal.unstyled plain ∧
      ('\x1b' ∉ (text request environment result).toList → Terminal.unstyled styled = plain) := by
  intro plain styled
  have hplain := toList_shown_plain request environment result
  have hstyled := unstyled_shown request environment result
  refine ⟨hplain, escape_mem_shown request environment result, hstyled, fun h => ?_⟩
  refine hstyled.trans (Terminal.unstyled_of_notMem fun hmem => h ?_)
  rw [hplain] at hmem
  exact (withLineFeeds_sublist _).subset hmem

/-- A body with line ends of all kinds and lines that look like those of the report. -/
theorem shown_keeps_text_mixed_line_ends :
    let request : Request := { name := "n", url := "http://h/" }
    let environment : Environment := { name := "e" }
    let result : CallResult :=
      { status := 200, body := "a\r\n\r\nStatus: 1\rHEADING:\r\r\nDuration: \n\n" }
    '\x1b' ∉ (text request environment result).toList ∧
      Terminal.unstyled (shown true request environment result).toList
        = (shown false request environment result).toList := by
  intro request environment result
  have hfree : '\x1b' ∉ (text request environment result).toList := by
    rw [text, toList_unlines]
    decide +kernel
  exact ⟨hfree, (shown_keeps_text request environment result).2.2.2 hfree⟩

end CallBook.Report
