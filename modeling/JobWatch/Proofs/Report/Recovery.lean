import JobWatch.Proofs.Data.KeyedMap
import JobWatch.Proofs.Report.Contents

/-!
# Reading a table back

A file of readings is taken apart at its line breaks and commas, the queues are read off the
columns of the header, and the numbers in each row are put under them. If the readings that are in
the file list the same queues, with names that can be told apart from the marks, then what is read
is what was recorded. Of readings that list different queues nothing is said.
-/

namespace JobWatch.Report

/-- What is read from a file: the queues, and the statuses at each time. -/
structure Sheet where
  queues : List String
  rows : List (String × List QueueStatus)
deriving DecidableEq

namespace Sheet

/-! ## Taking a text apart -/

/-- The queue of two columns. -/
def queue? (tasks consumers : List Char) : Option String :=
  let name := tasks.take (tasks.length - 6)
  if tasks = name ++ ":tasks".toList ∧ consumers = name ++ ":consumers".toList
    then some (String.ofList name)
  else none

/-- The queues of the columns, two of which belong to each. -/
def queues? : List (List Char) → Option (List String)
  | [] => some []
  | tasks :: consumers :: rest => do
    let queue ← queue? tasks consumers
    let later ← queues? rest
    return queue :: later
  | [_] => none

/-- The statuses of queues, from two cells for each. -/
def statuses? : List String → List (List Char) → Option (List QueueStatus)
  | [], [] => some []
  | queue :: queues, tasks :: consumers :: rest => do
    let later ← statuses? queues rest
    return ⟨queue, Numeral.value (String.ofList tasks), Numeral.value (String.ofList consumers)⟩ ::
      later
  | _, _ => none

/-- A row: the time, and the statuses at that time. -/
def row? (queues : List String) : List (List Char) → Option (String × List QueueStatus)
  | time :: cells => (statuses? queues cells).map fun statuses => (String.ofList time, statuses)
  | [] => none

/-- A header and rows for its queues. The field for the time is not looked at. -/
def ofFields? : List (List (List Char)) → Option Sheet
  | (_ :: columns) :: rows => do
    let queues ← queues? columns
    let rows ← rows.mapM (row? queues)
    return ⟨queues, rows⟩
  | _ => none

/-- The table that a text stands for. -/
def ofText? (text : String) : Option Sheet := do
  ofFields? ((← Text.lines? text.toList).map (Text.split ','))

/-! ## What has been written -/

theorem queue?_columns (name : String) :
    queue? (name.toList ++ ":tasks".toList) (name.toList ++ ":consumers".toList) = some name := by
  have front : (name.toList ++ ":tasks".toList).take
      ((name.toList ++ ":tasks".toList).length - 6) = name.toList := by
    have six : ":tasks".toList.length = 6 := rfl
    rw [List.length_append, six, Nat.add_sub_cancel, List.take_left]
  rw [queue?, front, if_pos ⟨rfl, rfl⟩, String.ofList_toList]

theorem queues?_columns (queues : List QueueStatus) :
    queues? (queues.flatMap columns) = some (queues.map QueueStatus.name) := by
  induction queues with
  | nil => rfl
  | cons q rest ih =>
    rw [List.flatMap_cons, columns, List.cons_append, List.singleton_append, queues?,
      queue?_columns, ih]
    rfl

/-- The numbers of a status are read as they were written. -/
def ReadsBack (q : QueueStatus) : Prop :=
  Numeral.value q.pendingJobs.text = q.pendingJobs ∧
    Numeral.value q.consumerCount.text = q.consumerCount

theorem statuses?_cells {queues : List QueueStatus} (back : ∀ q ∈ queues, ReadsBack q) :
    statuses? (queues.map QueueStatus.name) (queues.flatMap cells) = some queues := by
  induction queues with
  | nil => rfl
  | cons q rest ih =>
    obtain ⟨⟨tasks, consumers⟩, later⟩ := List.forall_mem_cons.mp back
    rw [List.map_cons, List.flatMap_cons, cells, List.cons_append, List.singleton_append, statuses?,
      ih later, String.ofList_toList, String.ofList_toList, tasks, consumers]
    rfl

/-- What a row says of a reading. -/
def said (r : Reading) : String × List QueueStatus :=
  (Calendar.timestamp r.now, r.statuses.values)

theorem row?_fields {queues : List String} {r : Reading}
    (same : r.statuses.values.map QueueStatus.name = queues)
    (back : ∀ q ∈ r.statuses.values, ReadsBack q) : row? queues r.fields = some (said r) := by
  rw [Reading.fields, row?, ← same, statuses?_cells back, Option.map_some, String.ofList_toList]
  rfl

theorem rows_of_fields {queues : List String} {readings : List Reading}
    (same : ∀ r ∈ readings, r.statuses.values.map QueueStatus.name = queues)
    (back : ∀ r ∈ readings, ∀ q ∈ r.statuses.values, ReadsBack q) :
    (readings.map Reading.fields).mapM (row? queues) = some (readings.map said) := by
  induction readings with
  | nil => rfl
  | cons r rest ih =>
    obtain ⟨here, later⟩ := List.forall_mem_cons.mp same
    obtain ⟨back, backLater⟩ := List.forall_mem_cons.mp back
    rw [List.map_cons, List.mapM_cons, row?_fields here back, ih later backLater]
    rfl

theorem ofText?_sheetText {queues : List String} {first : Reading} {rest : List Reading}
    (plain : ∀ queue ∈ queues, ',' ∉ queue.toList ∧ '\n' ∉ queue.toList)
    (same : ∀ r ∈ first :: rest, r.statuses.values.map QueueStatus.name = queues)
    (back : ∀ r ∈ first :: rest, ∀ q ∈ r.statuses.values, ReadsBack q) :
    (Text.lines? (sheetText (first :: rest)).toList).map List.length =
        some (1 + (first :: rest).length) ∧
      ofText? (sheetText (first :: rest)) = some ⟨queues, (first :: rest).map said⟩ := by
  have names := same first List.mem_cons_self
  have listed : ∀ q ∈ first.statuses.values, ',' ∉ q.name.toList ∧ '\n' ∉ q.name.toList :=
    fun q hq => plain q.name (names ▸ List.mem_map_of_mem hq)
  have lines := lines?_sheetText first rest
  rw [split_headerFields fun q hq => (listed q hq).2, List.singleton_append] at lines
  have header : Text.split ',' (line (headerFields first.statuses.values)) =
      "# time".toList :: first.statuses.values.flatMap columns :=
    split_line (not_mem_headerFields (Or.inl rfl) fun q hq => (listed q hq).1)
  have rows : ((first :: rest).map fun r => line r.fields).map (Text.split ',') =
      (first :: rest).map Reading.fields := by
    rw [List.map_map]
    exact List.map_congr_left fun r _ => split_line (r.not_mem_fields (Or.inl rfl))
  constructor
  · rw [lines, Option.map_some, List.length_cons, List.length_map, Nat.add_comm]
  · rw [ofText?, lines]
    simp only [Option.bind_eq_bind, Option.bind_some]
    rw [List.map_cons, header, rows, ofFields?, queues?_columns, names,
      Option.bind_eq_bind, Option.bind_some, rows_of_fields same back]
    rfl

end Sheet

/-- After every recording, the file has a header and a row for each reading since the last
deletion, and what is read from it is what was recorded: the queues, and for each reading in order
its time and its statuses. A reading is recorded exactly if there is room for a file at the path. -/
theorem sheet_after_record (file : String) (d : Folder) (absent : d.holds file = false)
    (steps : List Step) (r : Reading)
    (same : ∀ earlier ∈ kept steps, earlier.statuses.values.map QueueStatus.name =
      r.statuses.values.map QueueStatus.name)
    (plain : ∀ q ∈ r.statuses.values, ',' ∉ q.name.toList ∧ '\n' ∉ q.name.toList)
    (natural : ∀ reading ∈ kept steps ++ [r], ∀ q ∈ reading.statuses.values,
      q.pendingJobs.IsNatural ∧ q.consumerCount.IsNatural) :
    match recordIn file r.now r.statuses (after file d steps) with
    | .ok d' => d.HasRoom file ∧ ∃ text, d'.text? file = some text ∧
        (Text.lines? text.toList).map List.length = some (1 + (kept steps ++ [r]).length) ∧
        Sheet.ofText? text = some ⟨r.statuses.values.map QueueStatus.name,
          (kept steps ++ [r]).map fun reading =>
            (Calendar.timestamp reading.now, reading.statuses.values)⟩
    | .error _ => ¬ d.HasRoom file := by
  rw [Folder.hasRoom_iff absent]
  cases vacant : d.vacancy? file with
  | none =>
    obtain ⟨fault, failed⟩ := recordIn_of_homeless absent vacant r
    rw [after_of_homeless absent vacant, failed]
    exact Bool.false_ne_true
  | some key =>
    rw [after_eq_filed vacant, recordIn_filed vacant]
    have names : ∀ reading ∈ kept steps ++ [r], reading.statuses.values.map QueueStatus.name =
        r.statuses.values.map QueueStatus.name := fun reading h =>
      (List.mem_append.mp h).elim (same reading) fun last => by rw [List.mem_singleton.mp last]
    have back : ∀ reading ∈ kept steps ++ [r], ∀ q ∈ reading.statuses.values,
        Sheet.ReadsBack q := fun reading h q hq =>
      ⟨(natural reading h q hq).1.value_text, (natural reading h q hq).2.value_text⟩
    have marks : ∀ queue ∈ r.statuses.values.map QueueStatus.name,
        ',' ∉ queue.toList ∧ '\n' ∉ queue.toList := List.forall_mem_map.mpr plain
    obtain ⟨first, rest, readings⟩ := List.exists_cons_of_ne_nil (List.concat_ne_nil r (kept steps))
    rw [readings] at names back ⊢
    exact ⟨rfl, _, Folder.text?_put vacant _, Sheet.ofText?_sheetText marks names back⟩

theorem Reading.isNatural_ofCounts (now : Int) {counts : List (String × Nat × Nat)}
    (small : ∀ c ∈ counts, c.2.1 < Nat.pow 2 53 ∧ c.2.2 < Nat.pow 2 53) :
    ∀ q ∈ (Reading.ofCounts now counts).statuses.values,
      q.pendingJobs.IsNatural ∧ q.consumerCount.IsNatural := by
  intro q hq
  obtain ⟨e, listed, rfl⟩ := List.mem_map.mp hq
  obtain ⟨c, hc, rfl⟩ := List.mem_map.mp (KeyedMap.mem_toList.mp listed)
  obtain ⟨tasks, consumers⟩ := small c hc
  dsimp only
  exact ⟨Binary64.isNatural_ofNat tasks, Binary64.isNatural_ofNat consumers⟩

/-- The file lies elsewhere than the program works. It has been deleted once, and what was in it
before does not matter. -/
theorem sheet_after_record_of_deletion :
    let d : Folder := .within ["srv", "watch"] [("/tmp/readings", none)]
    let file := "/tmp/readings/status.csv"
    let steps := [.record (Reading.ofCounts 0 [("old", 7, 0)]), .delete,
      .record (Reading.ofCounts 60000 [("sim", 12, 2), ("post", 0, 1)])]
    let r := Reading.ofCounts 120000 [("sim", 4, 2), ("post", 3, 1)]
    d.holds file = false ∧ ∃ d' text, recordIn file r.now r.statuses (after file d steps) = .ok d' ∧
      d'.text? file = some text ∧
      (Sheet.ofText? text).map Sheet.queues = some ["sim", "post"] ∧
      (Sheet.ofText? text).map (fun t => t.rows.map fun row => (row.1, row.2.map (·.pendingJobs))) =
        some [("1970-01-01 00:01:00", [.ofNat 12, .ofNat 0]),
          ("1970-01-01 00:02:00", [.ofNat 4, .ofNat 3])] := by
  intro d file steps r
  have natural : ∀ reading ∈ kept steps ++ [r], ∀ q ∈ reading.statuses.values,
      q.pendingJobs.IsNatural ∧ q.consumerCount.IsNatural := by
    intro reading h
    have later : kept steps = [Reading.ofCounts 60000 [("sim", 12, 2), ("post", 0, 1)]] := rfl
    rw [later] at h
    rcases List.mem_pair.mp h with rfl | rfl
    · exact Reading.isNatural_ofCounts 60000 (by decide)
    · exact Reading.isNatural_ofCounts 120000 (by decide)
  have absent : d.holds file = false := by decide
  have room : d.HasRoom file := (Folder.hasRoom_iff absent).mpr (by decide)
  have read := sheet_after_record file d absent steps r (by decide) (by decide) natural
  refine ⟨absent, ?_⟩
  split at read
  · rename_i d' recorded
    obtain ⟨-, text, written, -, table⟩ := read
    refine ⟨d', text, recorded, written, ?_, ?_⟩
    · rw [table]
      decide
    · rw [table]
      decide +kernel
  · exact absurd room read

end JobWatch.Report
