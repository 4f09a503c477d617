import Mathlib.Data.List.Forall2
import SchemaContract.CommandLine.Report
import SchemaContract.Proofs.StringLiterals
import SchemaContract.Proofs.Unbroken.Texts

/-!
# What a report shows

A printed report shows the schema that was asked for, whether the value is valid, and every error.
In JSON these are literals in one object; in a table every error has a row of its own; the plain
layout gives each a line.
-/

namespace SchemaContract.CommandLine

/-! ## Cells -/

namespace Table

/-- The lines of a text, between the newlines. -/
def AreCut (text : String) (lines : List String) : Prop :=
  "\n".intercalate lines = text ∧ ∀ line ∈ lines, '\n' ∉ line.toList

/-- A text in a cell, with blanks around it. -/
def IsCell (text cell : String) : Prop :=
  ∃ n, cell = " " ++ text ++ String.ofList (List.replicate n ' ') ++ " "

/-- A line of a table that shows a text in each of its cells. -/
def DrawsLine (texts : List String) (line : String) : Prop :=
  ∃ cells, List.Forall₂ IsCell texts cells ∧ line = "│" ++ "┆".intercalate cells ++ "│"

/-- The lines that show a row of texts. A text of several lines has them one below the other. -/
def DrawsRow (texts lines : List String) : Prop :=
  ∃ cut : List (List String), List.Forall₂ AreCut texts cut ∧
    (∀ own ∈ cut, own.length ≤ lines.length) ∧
    ∀ (i : Nat) (line : String), lines[i]? = some line →
      DrawsLine (cut.map fun own => own[i]?.getD "") line

def ruleMarks : List Char := "┌─┬┐├╌┼┤╞═╪╡└┴┘".toList

def IsRule (line : String) : Prop := ∀ c ∈ line.toList, c ∈ ruleMarks

/-- A text that shows a header and rows below it, in their order. -/
inductive Draws (header : List String) (rows : List (List String)) : String → Prop where
  | intro {top under between bottom : String} {head : List String} {body : List (List String)}
      (hRules : ∀ rule ∈ [top, under, between, bottom], IsRule rule) (hHead : DrawsRow header head)
      (hBody : List.Forall₂ DrawsRow rows body) :
      Draws header rows ("\n".intercalate
        ([top] ++ head ++ [under] ++ (body.intersperse [between]).flatten ++ [bottom]))

theorem intercalate_pieces (sep : Char) (cs : List Char) :
    [sep].intercalate (Text.pieces sep cs) = cs := by
  induction cs with
  | nil => rfl
  | cons c cs ih =>
    rw [Text.pieces]
    split
    next hNone => exact absurd hNone (Text.pieces_ne_nil sep cs)
    next p ps hPieces =>
      rw [hPieces] at ih
      split
      next hSep => rw [List.intercalate_cons_cons, ih, hSep, List.nil_append, List.singleton_append]
      next =>
        cases ps with
        | nil => rw [← ih, List.intercalate_singleton, List.intercalate_singleton]
        | cons q qs =>
          rw [← ih, List.intercalate_cons_cons, List.intercalate_cons_cons]
          rfl

theorem not_mem_of_mem_pieces {sep : Char} {cs : List Char} :
    ∀ p ∈ Text.pieces sep cs, sep ∉ p := by
  induction cs with
  | nil => exact List.forall_mem_singleton.mpr List.not_mem_nil
  | cons c cs ih =>
    rw [Text.pieces]
    split
    next hNone => exact absurd hNone (Text.pieces_ne_nil sep cs)
    next p ps hPieces =>
      rw [hPieces] at ih
      obtain ⟨hFirst, hRest⟩ := List.forall_mem_cons.mp ih
      split
      next => exact List.forall_mem_cons.mpr ⟨List.not_mem_nil, ih⟩
      next hOther =>
        refine List.forall_mem_cons.mpr ⟨fun hMem => ?_, hRest⟩
        obtain rfl | hMem := List.mem_cons.mp hMem
        · exact hOther rfl
        · exact hFirst hMem

theorem areCut_pieces (text : String) :
    AreCut text ((Text.pieces '\n' text.toList).map String.ofList) := by
  constructor
  · rw [← String.toList_inj, String.toList_intercalate, List.map_map]
    have hLists : String.toList ∘ String.ofList = id := funext fun _ => String.toList_ofList
    rw [hLists, List.map_id]
    exact intercalate_pieces '\n' text.toList
  · refine List.forall_mem_map.mpr fun p hp => ?_
    rw [String.toList_ofList]
    exact not_mem_of_mem_pieces p hp

theorem isCell_padded (width : Nat) (text : String) : IsCell text (padded width text) :=
  ⟨width - Text.columns text, rfl⟩

/-! ## Rows -/

theorem le_foldl_height (row : TableRow) (n : Nat) :
    n ≤ row.foldl (fun h cell => max h cell.length) n ∧
      ∀ cell ∈ row, cell.length ≤ row.foldl (fun h cell => max h cell.length) n := by
  induction row generalizing n with
  | nil => exact ⟨Nat.le_refl n, nofun⟩
  | cons cell row ih =>
    obtain ⟨hStart, hRest⟩ := ih (max n cell.length)
    refine ⟨Nat.le_trans (Nat.le_max_left ..) hStart, List.forall_mem_cons.mpr ⟨?_, hRest⟩⟩
    exact Nat.le_trans (Nat.le_max_right ..) hStart

theorem forall₂_cells (row : TableRow) (i : Nat) {widths : List Nat}
    (h : row.length ≤ widths.length) :
    List.Forall₂ IsCell (row.map fun cell => cell[i]?.getD "")
      ((row.zip widths).map fun (cell, w) => padded w (cell[i]?.getD "")) := by
  induction row generalizing widths with
  | nil => exact .nil
  | cons cell row ih =>
    cases widths with
    | nil => cases h
    | cons w widths => exact .cons (isCell_padded _ _) (ih (Nat.le_of_succ_le_succ h))

theorem drawsRow_rowLines {widths : List Nat} {texts : List String}
    (h : texts.length ≤ widths.length) :
    DrawsRow texts (rowLines widths (TableRow.ofTexts texts)) := by
  have hCut : List.Forall₂ AreCut texts (TableRow.ofTexts texts) :=
    List.forall₂_map_right_iff.mpr (List.forall₂_same.mpr fun text _ => areCut_pieces text)
  refine ⟨_, hCut, ?_, fun i line hLine => ?_⟩
  · rw [rowLines, List.length_map, List.length_range]
    exact (le_foldl_height _ 0).2
  · rw [rowLines, List.getElem?_map] at hLine
    obtain ⟨j, hj, rfl⟩ := Option.map_eq_some_iff.mp hLine
    obtain ⟨-, rfl⟩ := List.getElem?_eq_some_iff.mp hj
    rw [List.getElem_range]
    exact ⟨_, forall₂_cells _ i (hCut.length_eq ▸ h), rfl⟩

/-! ## Rules -/

theorem isRule_rule {left line cross right : Char} (hLeft : left ∈ ruleMarks)
    (hLine : line ∈ ruleMarks) (hCross : cross ∈ ruleMarks) (hRight : right ∈ ruleMarks)
    (widths : List Nat) : IsRule (rule left line cross right widths) := by
  have hRuns : IsRule (String.intercalate (String.ofList [cross])
      (widths.map fun w => String.ofList (List.replicate (w + 2) line))) := by
    refine Text.forall_mem_intercalate ?_ (List.forall_mem_map.mpr fun w _ c hc => ?_)
    · rw [String.toList_ofList]
      exact List.forall_mem_singleton.mpr hCross
    · rw [String.toList_ofList] at hc
      exact List.eq_of_mem_replicate hc ▸ hLine
  unfold IsRule rule
  simp only [String.toList_append, List.forall_mem_append, String.toList_ofList,
    List.forall_mem_singleton]
  exact ⟨⟨hLeft, hRuns⟩, hRight⟩

/-! ## Widths -/

theorem length_widest (ws ws' : List Nat) :
    (widest ws ws').length = max ws.length ws'.length := by
  fun_induction widest ws ws' with
  | case1 a as b bs ih => simp only [List.length_cons, ih, Nat.add_max_add_right]
  | case2 bs => simp
  | case3 as => simp

/-- No row takes a column away. -/
theorem length_le_foldl_widest (rows : List TableRow) (ws : List Nat) :
    ws.length ≤ (rows.foldl (fun ws row => widest ws row.widths) ws).length := by
  induction rows generalizing ws with
  | nil => exact Nat.le_refl _
  | cons row rows ih =>
    have hNext := ih (widest ws row.widths)
    rw [length_widest] at hNext
    exact Nat.le_trans (Nat.le_max_left ..) hNext

theorem draws_render {header : List String} {rows : List (List String)} (hSome : rows ≠ [])
    (hRows : ∀ row ∈ rows, row.length = header.length) :
    Draws header rows (render header rows) := by
  have hSome' : (rows.map TableRow.ofTexts).isEmpty = false := by simpa using hSome
  have hWidths := length_le_foldl_widest (rows.map TableRow.ofTexts)
    (TableRow.ofTexts header).widths
  rw [TableRow.widths, TableRow.ofTexts, List.length_map, List.length_map] at hWidths
  rw [render]
  simp only [hSome', Bool.false_eq_true, if_false]
  refine .intro ?_ (drawsRow_rowLines hWidths) ?_
  · simp only [List.forall_mem_cons]
    refine ⟨?_, ?_, ?_, ?_, nofun⟩ <;>
      exact isRule_rule (by decide) (by decide) (by decide) (by decide) _
  · rw [List.map_map, List.forall₂_map_right_iff, List.forall₂_same]
    exact fun row hRow => drawsRow_rowLines (hRows row hRow ▸ hWidths)

end Table

/-! ## Layouts -/

namespace CheckReport

open Json (IsLiteral)

/-- A text that shows a report in a layout: the schema as it was given, whether the value is valid,
and every error. -/
inductive Shows (r : CheckReport) : Layout → String → Prop where
  | validJson {schema : String} (h : r.errors = []) (hSchema : IsLiteral schema r.schema) :
      Shows r .json ("\x7b\"schema\":" ++ schema ++ ",\"valid\":true,\"errors\":[]\x7d\n")
  | invalidJson {schema : String} {errors : List String} (h : r.errors ≠ [])
      (hSchema : IsLiteral schema r.schema) (hErrors : List.Forall₂ IsLiteral errors r.errors) :
      Shows r .json ("\x7b\"schema\":" ++ schema ++ ",\"valid\":false,\"errors\":[" ++
        ",".intercalate errors ++ "]\x7d\n")
  | validTable {text : String} (h : r.errors = [])
      (hText : Table.Draws ["SCHEMA", "VALID", "ERROR"] [[r.schema, "yes", ""]] text) :
      Shows r .table (text ++ "\n")
  | invalidTable {text : String} (h : r.errors ≠ [])
      (hText : Table.Draws ["SCHEMA", "VALID", "ERROR"]
        (r.errors.map fun error => [r.schema, "no", error]) text) :
      Shows r .table (text ++ "\n")
  | validPretty (h : r.errors = []) : Shows r .pretty ("valid: " ++ r.schema ++ "\n")
  | invalidPretty (h : r.errors ≠ []) :
      Shows r .pretty ("invalid: " ++ r.schema ++ "\n" ++
        String.join (r.errors.map fun error => "  " ++ error ++ "\n"))

variable (r : CheckReport)

theorem render_toJson : r.toJson.render =
    "\x7b\"schema\":" ++ Json.renderString r.schema ++ ",\"valid\":" ++
      (if r.valid then "true" else "false") ++ ",\"errors\":[" ++
      ",".intercalate (r.errors.map Json.renderString) ++ "]\x7d" := by
  have hNames : Json.renderString "schema" = "\"schema\"" ∧
      Json.renderString "valid" = "\"valid\"" ∧ Json.renderString "errors" = "\"errors\"" :=
    ⟨rfl, rfl, rfl⟩
  have hValid : (Json.bool r.valid).render = if r.valid then "true" else "false" := by
    cases r.valid <;> rfl
  have hErrors : (r.errors.map Json.string).map Json.render = r.errors.map Json.renderString := by
    rw [List.map_map]
    rfl
  unfold toJson
  rw [Json.render, Json.renderMembers_eq_map]
  simp only [List.map_cons, List.map_nil, hNames, hValid]
  rw [Json.render, Json.render, Json.renderItems_eq_map, hErrors]
  refine String.toList_inj.mp ?_
  simp

theorem shows_json : r.Shows .json (r.render .json) := by
  have hSchema := Json.isLiteral_renderString r.schema
  by_cases h : r.errors = []
  · have hText : r.render .json = "\x7b\"schema\":" ++ Json.renderString r.schema ++
        ",\"valid\":true,\"errors\":[]\x7d\n" := by
      rw [render, render_toJson, ← String.toList_inj]
      simp [valid, h]
    exact hText ▸ .validJson h hSchema
  · have hText : r.render .json = "\x7b\"schema\":" ++ Json.renderString r.schema ++
        ",\"valid\":false,\"errors\":[" ++ ",".intercalate (r.errors.map Json.renderString) ++
        "]\x7d\n" := by
      rw [render, render_toJson, ← String.toList_inj]
      simp [valid, h]
    have hErrors : List.Forall₂ IsLiteral (r.errors.map Json.renderString) r.errors :=
      List.forall₂_map_left_iff.mpr (List.forall₂_same.mpr fun e _ => Json.isLiteral_renderString e)
    exact hText ▸ .invalidJson h hSchema hErrors

theorem shows_table : r.Shows .table (r.render .table) := by
  by_cases h : r.errors = []
  · have hRows : r.rows = [[r.schema, "yes", ""]] := by simp [rows, valid, h]
    rw [render, hRows]
    refine .validTable h (Table.draws_render (List.cons_ne_nil _ _) ?_)
    exact List.forall_mem_singleton.mpr rfl
  · have hRows : r.rows = r.errors.map fun error => [r.schema, "no", error] := by
      simp [rows, valid, h]
    rw [render, hRows]
    refine .invalidTable h (Table.draws_render (by simpa using h) ?_)
    exact List.forall_mem_map.mpr fun _ _ => rfl

theorem shows_pretty : r.Shows .pretty (r.render .pretty) := by
  by_cases h : r.errors = []
  · have hLines : r.prettyLines = ["valid: " ++ r.schema] := by simp [prettyLines, valid, h]
    rw [render, hLines]
    simpa using Shows.validPretty h
  · have hLines : r.prettyLines =
        ("invalid: " ++ r.schema) :: r.errors.map fun error => "  " ++ error := by
      simp [prettyLines, valid, h]
    rw [render, hLines, List.map_cons, String.join_cons, List.map_map]
    exact .invalidPretty h

theorem shows_render (layout : Layout) : r.Shows layout (r.render layout) := by
  cases layout with
  | json => exact r.shows_json
  | table => exact r.shows_table
  | pretty => exact r.shows_pretty

end CheckReport

end SchemaContract.CommandLine
