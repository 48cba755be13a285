import JobWatch.Report.Ink
import JobWatch.Text.Width
import JobWatch.Workers.Query
import JobWatch.Number.Shortest

/-!
Tables in box-drawing characters: a head, and a row for every entry. A column is as wide as its
widest line and one blank on either side; a text of several lines makes its row as high.
-/
namespace JobWatch.Report

/-- A text in a table, with its colour if it has one. -/
structure Cell where
  text : String
  ink : Option Ink := none

def Cell.lines (c : Cell) : List (List Char) := Text.split '\n' c.text.toList

def Cell.width (c : Cell) : Nat := (c.lines.map Text.width).foldl max 0

/-- The lines as they are printed. -/
def Cell.painted (coloured : Bool) (c : Cell) : List (List Char) :=
  match c.ink with
  | none => c.lines
  | some i => Text.split '\n' (paint coloured i c.text.toList)

/-- A line of a cell filled up with blanks to the width of its column. -/
def fill (width : Nat) (shown : Nat) (line : List Char) : List Char :=
  ' ' :: line ++ List.replicate (width - shown) ' ' ++ [' ']

def border (coloured : Bool) (s : List Char) : List Char := paint coloured .gray s

/-- A rule between two rows: left end, crossing and right end. -/
def rule (coloured : Bool) (left cross right : Char) (widths : List Nat) : List Char :=
  let last := widths.length - 1
  (widths.mapIdx fun i w =>
    border coloured ((if i = 0 then left else cross) :: List.replicate (w + 2) '─'
      ++ if i = last then [right] else [])).flatten

/-- One printed line of a row, from the texts of its columns. -/
def rowLine (coloured : Bool) (columns : List (List Char)) : List Char :=
  let bar := border coloured ['│']
  (columns.map (bar ++ ·)).flatten ++ bar

def Cell.height (c : Cell) : Nat := c.lines.length

/-- The printed lines of a row. -/
def rowLines (coloured : Bool) (widths : List Nat) (cells : List Cell) : List (List Char) :=
  let height := (cells.map Cell.height).foldl max 1
  (List.range height).map fun n =>
    rowLine coloured ((cells.zip widths).map fun (c, w) =>
      fill w (((c.lines)[n]?.map Text.width).getD 0) (((c.painted coloured)[n]?).getD []))

/-- A title is bold and cyan inside the red of the head. -/
def headText (coloured : Bool) (title : String) (width : Nat) : List Char :=
  let title := title.toList
  if coloured then
    Ink.red.on ++ fill width title.length
      (escapeCode "36" ++ escapeCode "1" ++ title ++ escapeCode "22" ++ Ink.red.on) ++ inkOff
  else fill width title.length title

structure Table where
  head : List String
  rows : List (List Cell)

/-- The width of each column. -/
def Table.widths (t : Table) : List Nat :=
  t.head.mapIdx fun i title =>
    (t.rows.map fun row => (row[i]?.map Cell.width).getD 0).foldl max title.length

def Table.render (coloured : Bool) (t : Table) : String :=
  let widths := t.widths
  let head := rowLine coloured ((t.head.zip widths).map fun (title, w) => headText coloured title w)
  let body := t.rows.flatMap fun row =>
    rule coloured '├' '┼' '┤' widths :: rowLines coloured widths row
  let lines := rule coloured '┌' '┬' '┐' widths :: head :: body ++ [rule coloured '└' '┴' '┘' widths]
  Text.join "\n" (lines.map String.ofList)

/-- Backlog and consumers of every queue. -/
def statusTable (coloured : Bool) (statuses : StatusMap) : String :=
  let row (s : QueueStatus) : List Cell :=
    [⟨s.name, some .white⟩, ⟨s.pendingJobs.text, none⟩,
      if s.consumerCount.isPositive then ⟨s.consumerCount.text, some .green⟩
      else ⟨"0", some .yellow⟩]
  Table.render coloured ⟨["Queue", "Tasks", "Consumers"], statuses.values.map row⟩

/-- Workers and the queues that they consume. -/
def workerTable (coloured : Bool) (workers : List WorkerInfo) : String :=
  let row (w : WorkerInfo) : List Cell :=
    [⟨w.worker, some .white⟩, ⟨Text.join ", " w.queues, none⟩]
  Table.render coloured ⟨["Worker", "Queues"], workers.map row⟩

end JobWatch.Report
