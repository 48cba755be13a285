import JobWatch.Proofs.Report.Contents
import Mathlib.Data.List.Forall2

/-!
# Rows and the header

The header is made once, of the queues of the first reading, and each row of the queues of its own
reading. A row therefore has as many fields as the header exactly if its reading lists as many
queues as there are in the header, where a name with commas counts as several. Whether the names
are the same is not asked, and no order of the readings is assumed.
-/

namespace JobWatch.Report

/-- The number of fields of a line. -/
def width (line : List Char) : Nat := (Text.split ',' line).length

theorem Reading.width_row (r : Reading) :
    width (line r.fields) = 1 + 2 * r.statuses.values.length := by
  have pairs : (r.statuses.values.flatMap cells).length = 2 * r.statuses.values.length := by
    rw [List.length_flatMap]
    simp [cells, Nat.mul_comm]
  have plain := r.not_mem_fields (Or.inl rfl)
  rw [width, Reading.fields, split_line plain, List.length_cons, pairs, Nat.add_comm]

/-- The commas in the names of some queues. -/
def commas (queues : List QueueStatus) : Nat :=
  queues.foldr (fun q n => q.name.toList.count ',' + n) 0

theorem width_header (queues : List QueueStatus) :
    width (line (headerFields queues)) = 1 + 2 * (queues.length + commas queues) := by
  have marks : ((queues.flatMap columns).flatMap (',' :: ·)).count ',' =
      2 * (queues.length + commas queues) := by
    induction queues with
    | nil => rfl
    | cons q rest ih =>
      have tasks : ":tasks".toList.count ',' = 0 := by decide
      have consumers : ":consumers".toList.count ',' = 0 := by decide
      simp only [List.flatMap_cons, List.count_append, ih, columns, List.count_cons_self,
        List.cons_append, List.nil_append, tasks, consumers, commas, List.foldr_cons,
        List.length_cons]
      omega
  have time : "# time".toList.count ',' = 0 := by decide
  rw [width, Text.length_split, headerFields, line, List.count_append, marks, time]
  omega

/-- The rows of a file to which readings are recorded, beside its header. The header is one line
unless a name is broken. -/
theorem row_fits_header_iff (file : String) (d : Folder) (absent : d.holds file = false)
    (first : Reading) (later : List Reading) :
    match (after file d ((first :: later).map .record)).text? file with
    | none => ¬ d.HasRoom file
    | some text => d.HasRoom file ∧ ∃ header rows,
        (csvHeader first.statuses.values).toList = header ++ ['\n'] ∧
        Text.lines? text.toList = some (Text.split '\n' header ++ rows) ∧
        ((∀ q ∈ first.statuses.values, '\n' ∉ q.name.toList) → Text.split '\n' header = [header]) ∧
        width header = 1 + 2 * (first.statuses.values.length + commas first.statuses.values) ∧
        List.Forall₂ (fun r row => width row = 1 + 2 * r.statuses.values.length ∧
          (width row = width header ↔ r.statuses.values.length =
            first.statuses.values.length + commas first.statuses.values))
          (first :: later) rows := by
  rw [Folder.hasRoom_iff absent]
  cases vacant : d.vacancy? file with
  | none =>
    rw [after_of_homeless absent vacant, Folder.text?_of_absent absent]
    exact Bool.false_ne_true
  | some key =>
    rw [text?_after vacant (kept_map_record _)]
    refine ⟨rfl, _, _, csvHeader_toList _, lines?_sheetText first later, split_headerFields,
      width_header _, ?_⟩
    rw [List.forall₂_map_right_iff, List.forall₂_same]
    intro r _
    rw [r.width_row, width_header]
    omega

/-- The queues change, and their number does not. The file lies above the working folder. -/
theorem row_fits_header_of_two_queues :
    let d : Folder := .within ["srv", "watch"] []
    let file := "../status.csv"
    let readings := [Reading.ofCounts 0 [("a", 1, 0), ("b", 2, 0)],
      Reading.ofCounts 60000 [("c", 0, 1), ("d", 5, 1)]]
    d.holds file = false ∧ ∃ text header rows,
      (after file d (readings.map .record)).text? file = some text ∧
      Text.lines? text.toList = some (header :: rows) ∧
      rows.map width = [width header, width header] := by
  intro d file readings
  have absent : d.holds file = false := by decide
  have room : d.HasRoom file := (Folder.hasRoom_iff absent).mpr (by decide)
  have fits := row_fits_header_iff file d absent (Reading.ofCounts 0 [("a", 1, 0), ("b", 2, 0)])
    [Reading.ofCounts 60000 [("c", 0, 1), ("d", 5, 1)]]
  refine ⟨absent, ?_⟩
  split at fits
  · exact absurd room fits
  · rename_i text written
    obtain ⟨-, header, rows, -, lines, single, -, each⟩ := fits
    rw [single (by decide)] at lines
    cases each with
    | cons one rest =>
      cases rest with
      | cons two none =>
        cases none
        rw [List.singleton_append] at lines
        refine ⟨text, header, _, written, lines, ?_⟩
        rw [List.map_cons, List.map_singleton, one.2.mpr (by decide), two.2.mpr (by decide)]

/-- A queue that was not there when the header was made widens a row beyond it. -/
theorem row_exceeds_header_of_new_queue :
    let readings := [Reading.ofCounts 0 [("a", 1, 0)],
      Reading.ofCounts 60000 [("a", 1, 0), ("b", 2, 0)]]
    ((after "status.csv" Folder.empty (readings.map .record)).text? "status.csv").bind
        (fun text => (Text.lines? text.toList).map (List.map width)) = some [3, 3, 5] := by
  decide +kernel

end JobWatch.Report
