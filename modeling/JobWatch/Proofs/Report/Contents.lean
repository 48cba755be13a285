import JobWatch.Proofs.Calendar
import JobWatch.Proofs.Files
import JobWatch.Proofs.Number.Text
import JobWatch.Proofs.Text.Pieces
import JobWatch.Report.Csv

/-!
# What stands in a file of readings

A file to which readings are recorded one after the other, and which may be deleted in between,
holds the readings since it was last deleted: a header for the queues of the first of them, and a
row for each. Here nothing is asked of the readings; whether the rows fit the header depends on
them.
-/

namespace JobWatch.Report

/-! ## Recording and deleting -/

/-- A reading that is recorded, and when. -/
structure Reading where
  now : Int
  statuses : StatusMap

/-- A reading with the jobs and the consumers of some queues. -/
def Reading.ofCounts (now : Int) (counts : List (String × Nat × Nat)) : Reading :=
  ⟨now, ⟨counts.map fun c => (c.1, ⟨c.1, .ofNat c.2.1, .ofNat c.2.2⟩)⟩⟩

inductive Step where
  | record (r : Reading)
  | delete

namespace Step

/-- The files after a step. Where a reading cannot be recorded nothing changes. -/
def take (file : String) (d : Folder) : Step → Folder
  | record r =>
    match recordIn file r.now r.statuses d with
    | .ok d' => d'
    | .error _ => d
  | delete => d.remove file

/-- The readings that have been recorded since the last deletion. -/
def keep (kept : List Reading) : Step → List Reading
  | record r => kept ++ [r]
  | delete => []

end Step

/-- The files after some steps. -/
def after (file : String) (d : Folder) (steps : List Step) : Folder :=
  steps.foldl (Step.take file) d

/-- The readings that have been recorded since the last of the deletions. -/
def kept (steps : List Step) : List Reading := steps.foldl Step.keep []

theorem kept_map_record (readings : List Reading) : kept (readings.map .record) = readings := by
  have kept (before : List Reading) :
      (readings.map Step.record).foldl Step.keep before = before ++ readings := by
    induction readings generalizing before with
    | nil => exact (List.append_nil before).symm
    | cons r rest ih =>
      rw [List.map_cons, List.foldl_cons, ih, Step.keep, List.append_assoc, List.singleton_append]
  exact kept []

/-! ## The text of the file -/

namespace Reading

def row (r : Reading) : String := csvRow r.now r.statuses.values

end Reading

/-- A header for the queues of the first reading, and a row for each. -/
def sheetText : List Reading → String
  | [] => ""
  | r :: rest => csvHeader r.statuses.values ++ String.join ((r :: rest).map Reading.row)

theorem sheetText_concat (first : Reading) (rest : List Reading) (r : Reading) :
    sheetText (first :: rest ++ [r]) = sheetText (first :: rest) ++ r.row := by
  simp [sheetText, String.append_assoc]

section Folders

variable {file : String} {d : Folder} {key : List String}

/-- The files, with the readings in one of them. Without readings it is not there. -/
def filed (d : Folder) (key : List String) : List Reading → Folder
  | [] => d
  | r :: rest => d.put key (.file (sheetText (r :: rest)))

theorem recordIn_filed (vacant : d.vacancy? file = some key) (readings : List Reading)
    (r : Reading) :
    recordIn file r.now r.statuses (filed d key readings) =
      .ok (filed d key (readings ++ [r])) := by
  cases readings with
  | nil =>
    have single : csvHeader r.statuses.values ++ csvRow r.now r.statuses.values = sheetText [r] := by
      simp [sheetText, Reading.row]
    simp only [recordIn, filed, Folder.holds_of_vacancy vacant, Bool.false_eq_true, if_false, single]
    exact Folder.append_of_vacancy vacant _
  | cons first rest =>
    simp only [recordIn, filed, Folder.holds_put vacant, if_true, String.empty_append,
      List.cons_append]
    rw [Folder.append_put vacant, ← List.cons_append, sheetText_concat]
    rfl

theorem take_filed (vacant : d.vacancy? file = some key) (readings : List Reading) (step : Step) :
    step.take file (filed d key readings) = filed d key (step.keep readings) := by
  cases step with
  | record r => rw [Step.take, recordIn_filed vacant, Step.keep]
  | delete =>
    cases readings with
    | nil => exact Folder.remove_of_absent (Folder.holds_of_vacancy vacant)
    | cons first rest => exact Folder.remove_put vacant _

/-- Steps leave the readings since the last deletion in the file, and nothing else. -/
theorem after_eq_filed (vacant : d.vacancy? file = some key) (steps : List Step) :
    after file d steps = filed d key (kept steps) := by
  have run (readings : List Reading) : steps.foldl (Step.take file) (filed d key readings) =
      filed d key (steps.foldl Step.keep readings) := by
    induction steps generalizing readings with
    | nil => rfl
    | cons step rest ih => rw [List.foldl_cons, List.foldl_cons, take_filed vacant, ih]
  exact run []

theorem recordIn_of_homeless (absent : d.holds file = false) (homeless : d.vacancy? file = none)
    (r : Reading) : ∃ fault, recordIn file r.now r.statuses d = .error fault :=
  Folder.append_of_homeless absent homeless _

/-- Where no file can be made nothing ever changes. -/
theorem after_of_homeless (absent : d.holds file = false) (homeless : d.vacancy? file = none)
    (steps : List Step) : after file d steps = d := by
  induction steps with
  | nil => rfl
  | cons step rest ih =>
    have idle : step.take file d = d := by
      cases step with
      | record r =>
        obtain ⟨fault, failed⟩ := recordIn_of_homeless absent homeless r
        rw [Step.take, failed]
      | delete => exact Folder.remove_of_absent absent
    rw [after, List.foldl_cons, idle]
    exact ih

end Folders

/-! ## Lines and fields -/

/-- The fields with commas between them. -/
def line : List (List Char) → List Char
  | [] => []
  | field :: rest => field ++ rest.flatMap (',' :: ·)

theorem split_line {field : List Char} {rest : List (List Char)}
    (plain : ∀ f ∈ field :: rest, ',' ∉ f) : Text.split ',' (line (field :: rest)) = field :: rest :=
  Text.split_append_flatMap (plain field List.mem_cons_self) fun f hf =>
    plain f (List.mem_cons_of_mem _ hf)

theorem not_mem_line {c : Char} (other : c ≠ ',') {fields : List (List Char)}
    (free : ∀ f ∈ fields, c ∉ f) : c ∉ line fields := by
  cases fields with
  | nil => exact List.not_mem_nil
  | cons field rest =>
    rw [List.forall_mem_cons] at free
    intro h
    rcases List.mem_append.mp h with first | later
    · exact free.1 first
    · obtain ⟨f, hf, inside⟩ := List.mem_flatMap.mp later
      exact (List.mem_cons.mp inside).elim other (free.2 f hf)

/-- The columns of a queue. -/
def columns (q : QueueStatus) : List (List Char) :=
  [q.name.toList ++ ":tasks".toList, q.name.toList ++ ":consumers".toList]

/-- What a row says of a queue. -/
def cells (q : QueueStatus) : List (List Char) :=
  [q.pendingJobs.text.toList, q.consumerCount.text.toList]

def headerFields (queues : List QueueStatus) : List (List Char) :=
  "# time".toList :: queues.flatMap columns

namespace Reading

def fields (r : Reading) : List (List Char) :=
  (Calendar.timestamp r.now).toList :: r.statuses.values.flatMap cells

/-- Instants and numbers are not written with commas or line breaks. -/
theorem not_mem_fields {c : Char} (mark : c = ',' ∨ c = '\n') (r : Reading) :
    ∀ f ∈ r.fields, c ∉ f := by
  have clock : Calendar.isWritten c = false := by rcases mark with rfl | rfl <;> decide
  have number : Binary64.isWritten c = false := by rcases mark with rfl | rfl <;> decide
  have shown (x : Binary64) : c ∉ x.text.toList := fun h =>
    Bool.false_ne_true (number.symm.trans (Binary64.isWritten_text x c h))
  refine List.forall_mem_cons.mpr ⟨fun h => ?_, fun f hf => ?_⟩
  · exact Bool.false_ne_true (clock.symm.trans (Calendar.isWritten_timestamp r.now c h))
  · obtain ⟨q, -, said⟩ := List.mem_flatMap.mp hf
    rcases List.mem_pair.mp said with rfl | rfl <;> exact shown _

theorem row_toList (r : Reading) : r.row.toList = line r.fields ++ ['\n'] := by
  simp [row, csvRow, line, fields, cells, String.toList_join, List.flatMap_map, List.flatMap_assoc]

end Reading

theorem not_mem_headerFields {c : Char} (mark : c = ',' ∨ c = '\n') {queues : List QueueStatus}
    (free : ∀ q ∈ queues, c ∉ q.name.toList) : ∀ f ∈ headerFields queues, c ∉ f := by
  have time : c ∉ "# time".toList := by rcases mark with rfl | rfl <;> decide
  have tasks : c ∉ ":tasks".toList := by rcases mark with rfl | rfl <;> decide
  have consumers : c ∉ ":consumers".toList := by rcases mark with rfl | rfl <;> decide
  refine List.forall_mem_cons.mpr ⟨time, fun f hf => ?_⟩
  obtain ⟨q, hq, column⟩ := List.mem_flatMap.mp hf
  rcases List.mem_pair.mp column with rfl | rfl
  · exact fun h => (List.mem_append.mp h).elim (free q hq) tasks
  · exact fun h => (List.mem_append.mp h).elim (free q hq) consumers

theorem csvHeader_toList (queues : List QueueStatus) :
    (csvHeader queues).toList = line (headerFields queues) ++ ['\n'] := by
  simp [csvHeader, line, headerFields, columns, String.toList_join, List.flatMap_map,
    List.flatMap_assoc]

/-- The file is made of the lines of the header and the readings. -/
theorem sheetText_toList (first : Reading) (rest : List Reading) :
    (sheetText (first :: rest)).toList =
      (line (headerFields first.statuses.values) ::
        (first :: rest).map fun r => line r.fields).flatMap (· ++ ['\n']) := by
  rw [sheetText, String.toList_append, csvHeader_toList, List.flatMap_cons, String.toList_join,
    List.flatMap_map, List.flatMap_map]
  simp only [Reading.row_toList]

/-- The file has the lines of the header, of which there are several if a name is broken, and one
line for each reading. -/
theorem lines?_sheetText (first : Reading) (rest : List Reading) :
    Text.lines? (sheetText (first :: rest)).toList =
      some (Text.split '\n' (line (headerFields first.statuses.values)) ++
        (first :: rest).map fun r => line r.fields) := by
  rw [sheetText_toList, List.flatMap_cons, List.append_assoc, List.singleton_append]
  refine Text.lines?_append_break (Text.lines?_flatMap fun l hl => ?_)
  obtain ⟨r, -, rfl⟩ := List.mem_map.mp hl
  exact not_mem_line (by decide) (r.not_mem_fields (Or.inr rfl))

theorem split_headerFields {queues : List QueueStatus}
    (unbroken : ∀ q ∈ queues, '\n' ∉ q.name.toList) :
    Text.split '\n' (line (headerFields queues)) = [line (headerFields queues)] :=
  Text.split_of_not_mem (not_mem_line (by decide) (not_mem_headerFields (Or.inr rfl) unbroken))

theorem text?_after {file : String} {d : Folder} {key : List String}
    (vacant : d.vacancy? file = some key) {steps : List Step} {first : Reading} {rest : List Reading}
    (readings : kept steps = first :: rest) :
    (after file d steps).text? file = some (sheetText (first :: rest)) := by
  rw [after_eq_filed vacant, readings]
  exact Folder.text?_put vacant _

end JobWatch.Report
