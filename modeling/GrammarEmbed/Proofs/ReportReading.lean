import GrammarEmbed.Proofs.FieldOrder
import GrammarEmbed.Report

/-!
Reading the document of a report. The status is taken out of the text while it is walked, and the
rest is looked at later; so the reader of reports is compared with the reader of plain values, and
then a report is read back from any document that has its fields, in whatever order.
-/

namespace GrammarEmbed

namespace Json

namespace Cursor

/-- What the reader of values has done behind the blanks, if it has read a string or an object. -/
def ReadAs (depth : Nat) (c last : Cursor) : Value → Prop
  | .str s => (∃ rest, c.rest = '"' :: rest) ∧ c.step.string = .ok (s, last)
  | .obj list => (∃ rest, c.rest = '\x7b' :: rest) ∧ ∃ inner before, depth = inner + 1 ∧
      fields (value inner) (c.rest.length + 1) true c.step [] = .ok (list, before) ∧
      last = before.step
  | _ => True

theorem readAs_value {depth : Nat} {c last : Cursor} {v : Value}
    (read : c.value depth = .ok (v, last)) : ReadAs depth c.skipBlanks last v := by
  unfold value at read
  dsimp only at read
  split at read
  case h_1 => cases read
  case h_5 rest starts =>
    obtain ⟨⟨s, after⟩, string, same⟩ := bind_eq_ok_iff.mp read
    cases same
    exact ⟨⟨rest, starts⟩, string⟩
  case h_7 =>
    split at read
    · cases read
    · obtain ⟨_, _, same⟩ := bind_eq_ok_iff.mp read
      cases same
      trivial
  case h_8 rest starts =>
    split at read
    · cases read
    · obtain ⟨⟨list, before⟩, inside, same⟩ := bind_eq_ok_iff.mp read
      cases same
      exact ⟨⟨rest, starts⟩, _, before, rfl, inside, rfl⟩
  case h_9 =>
    split at read
    · obtain ⟨_, _, same⟩ := bind_eq_ok_iff.mp read
      cases same
      trivial
    · cases read
  -- a keyword, or a number with its sign
  all_goals
    obtain ⟨_, _, same⟩ := bind_eq_ok_iff.mp read
    cases same
    trivial

theorem mem_of_mem_skipWhile {p : Char → Bool} {x : Char} {text : List Char} {place : Position}
    (member : x ∈ (skipWhile p text place).rest) : x ∈ text := by
  induction text generalizing place with
  | nil => exact member
  | cons y rest ih =>
    rw [skipWhile] at member
    split at member
    · exact List.mem_cons_of_mem y (ih member)
    · exact member

end Cursor

/-- A text that is read as an object: its fields are read behind a brace, and nothing follows. -/
theorem readAs_of_parse {text : String} {list : List (String × Value)}
    (spelled : parse text = .ok (.obj list)) :
    ∃ last, Cursor.ReadAs maxDepth (Cursor.ofString text).skipBlanks last (.obj list) ∧
      last.finish = .ok () := by
  obtain ⟨⟨v, last⟩, read, rest⟩ := bind_eq_ok_iff.mp spelled
  obtain ⟨⟨⟩, finished, same⟩ := bind_eq_ok_iff.mp rest
  cases same
  exact ⟨last, Cursor.readAs_value read, finished⟩

end Json

/-- What a class has to be like for a report to tell of it: the objects in its grammar are their
fields by key, and the document has three levels around the grammar. -/
def ParserClass.Recordable : ParserClass → Prop
  | .grammar value => value.Ordered ∧ value.Fits (Json.maxDepth - 3)
  | .constructFails _ | .introspectFails _ => True

namespace Report

open Json (Value Cursor ShapeFault)

def Status.ofValue? : Value → Option Status
  | .str name => Status.ofName? name
  | _ => none

def statuses (fields : List (String × Value)) : List (Option Status) :=
  (fields.filter fun field => field.1 == "status").map fun field => Status.ofValue? field.2

def others (fields : List (String × Value)) : List (String × Value) :=
  fields.filter fun field => field.1 != "status"

/-- A status is read from what is read as its name. -/
theorem readStatus_of_value {depth : Nat} {c last : Cursor} {value : Value} {status : Status}
    (read : c.value depth = .ok (value, last)) (named : Status.ofValue? value = some status) :
    readStatus c = .ok (status, last) := by
  cases value with
  | str name =>
    obtain ⟨⟨rest, starts⟩, string⟩ := Json.Cursor.readAs_value read
    have known : Status.ofName? name = some status := named
    simp only [readStatus, starts, string, bind, Except.bind, known]
    rfl
  | null | bool | num | arr | obj => cases named

/-- The reader of records goes over the same text as the reader of objects, with the status apart
from the other fields. -/
theorem readFields_of_fields {fuel : Nat} {first : Bool} {c last : Cursor}
    {done all : List (String × Value)}
    (read : Cursor.fields (Cursor.value (Json.maxDepth - 1)) fuel first c done = .ok (all, last)) :
    ∃ more, all = done.reverse ++ more ∧
      ∀ (status? : Option Status) (status : Status) (rest : List (String × Value)),
        status?.toList.map some ++ statuses more = [some status] →
        readFields fuel first c status? rest =
          .ok (status, .obj (rest.reverse ++ others more), last.step) := by
  induction fuel generalizing first c done with
  | zero => cases read
  | succ fuel ih =>
    rw [Cursor.fields] at read
    obtain ⟨⟨key?, between⟩, next, read⟩ := Json.bind_eq_ok_iff.mp read
    cases key? with
    | none =>
      cases read
      refine ⟨[], by simp, ?_⟩
      intro status? status rest only
      obtain rfl : status? = some status := by
        cases status? with
        | none => cases only
        | some status => simpa [statuses] using only
      have ended : readFields (fuel + 1) first c (some status) rest =
          .ok (status, .obj rest.reverse, last.step) := by
        simp only [readFields, next, bind, Except.bind]
        rfl
      rw [ended, others, List.filter_nil, List.append_nil]
    | some key =>
      obtain ⟨start, colon, read⟩ := Json.bind_eq_ok_iff.mp read
      obtain ⟨⟨value, after⟩, took, read⟩ := Json.bind_eq_ok_iff.mp read
      obtain ⟨more, split, record⟩ := ih read
      refine ⟨(key, value) :: more, by simp [split], ?_⟩
      intro status? status rest only
      by_cases tagged : key = "status"
      · subst tagged
        -- a status that was met before would be a second one
        cases status? with
        | some earlier => simp [statuses] at only
        | none =>
          obtain ⟨named, single⟩ :
              Status.ofValue? value = some status ∧ statuses more = [] := by
            simpa [statuses] using only
          have step : readFields (fuel + 1) first c none rest =
              readFields fuel false after (some status) rest := by
            simp only [readFields, next, colon, readStatus_of_value took named, bind, Except.bind]
          have tail := record (some status) status rest (by simp [single])
          rw [step, tail]
          rfl
      · have step : readFields (fuel + 1) first c status? rest =
            readFields fuel false after status? ((key, value) :: rest) := by
          simp [readFields, next, colon, took, bind, Except.bind, tagged]
        have tail := record status? status ((key, value) :: rest)
          (by simpa [statuses, tagged] using only)
        rw [step, tail]
        simp [others, tagged]

/-- A report is read from a text that is read as an object with one status, if the other fields have
the shape which that status asks for. -/
theorem parse_of_fields {text : String} {fields : List (String × Value)} {status : Status}
    {report : Report} (spelled : Json.parse text = .ok (.obj fields))
    (only : statuses fields = [some status])
    (shaped : ofParts status (.obj (others fields)) = .ok report) :
    parse text = .ok report := by
  obtain ⟨last, ⟨⟨rest, starts⟩, inner, before, levels, inside, rfl⟩, finished⟩ :=
    Json.readAs_of_parse spelled
  obtain rfl : inner = Json.maxDepth - 1 := (Nat.eq_sub_of_add_eq levels.symm)
  obtain ⟨more, split, record⟩ := readFields_of_fields inside
  obtain rfl : fields = more := split
  have parts : readParts (Cursor.ofString text) =
      .ok (status, .obj (others fields), before.step) := by
    have walked := record none status [] only
    simp only [readParts, starts]
    rw [starts] at walked
    exact walked
  simp only [parse, parts, bind, Except.bind, shaped, finished]
  rfl

section Documents

def failureDocument (phase message : String) : Value :=
  .obj [("phase", .str phase), ("message", .str message)]

def classDocument : String × ParserClass → Value
  | (name, .grammar value) => .obj [("name", .str name), ("grammar", value)]
  | (name, .constructFails message) =>
    .obj [("name", .str name), ("error", failureDocument "construct" message)]
  | (name, .introspectFails message) =>
    .obj [("name", .str name), ("error", failureDocument "introspect" message)]

def document : Report → Value
  | .ok classes => .obj [("status", .str "ok"), ("parsers", .arr (classes.map classDocument))]
  | .missing => .obj [("status", .str "missing")]
  | .error message => .obj [("status", .str "error"), ("message", .str message)]

theorem document_eq_obj (report : Report) : ∃ fields, report.document = .obj fields := by
  cases report <;> exact ⟨_, rfl⟩

variable {name message : String} {written : Value}

/-- The phase of a failure may stand before its message or behind it. -/
theorem failure?_of_reordered {which : Phase} (known : phase (.str name) = .ok which)
    (reordered : (failureDocument name message).Reordered written) :
    failure? written = failure? (failureDocument name message) := by
  obtain ⟨x, y, first, second, orders⟩ := reordered.exists_two
  obtain rfl := first.eq_str
  obtain rfl := second.eq_str
  rcases orders with rfl | rfl
  · rfl
  · simp [failure?, failure, failureDocument, tagged, takeTag, known, bind, Except.bind, pure,
      Except.pure]

theorem classReport_of_failing {which : Phase} {failing : ParserClass}
    (known : phase (.str name) = .ok which)
    (read : failure? (failureDocument name message) = .ok (some failing)) {cls : String}
    (reordered : (Value.obj [("name", .str cls),
      ("error", failureDocument name message)]).Reordered written) :
    classReport written = .ok (cls, failing) := by
  obtain ⟨x, y, named, told, orders⟩ := reordered.exists_two
  obtain rfl := named.eq_str
  have fails : failure? y = .ok (some failing) := (failure?_of_reordered known told).trans read
  rcases orders with rfl | rfl <;>
    simp [classReport, ClassFields.add, ClassFields.fate, fails, text, bind, Except.bind, pure,
      Except.pure]

/-- A class with a grammar is read from its record, and the fields of the grammar get their order
back. -/
theorem classReport_of_grammar {value : Value} (ordered : value.Ordered)
    (reordered : (Value.obj [("name", .str name), ("grammar", value)]).Reordered written) :
    classReport written = .ok (name, .grammar value) := by
  obtain ⟨x, y, named, given, orders⟩ := reordered.exists_two
  obtain rfl := named.eq_str
  have same : y.canonical = value := given.canonical_eq ordered
  subst same
  rcases orders with rfl | rfl <;> rfl

theorem classReport_of_reordered {entry : String × ParserClass} (recordable : entry.2.Recordable)
    (reordered : (classDocument entry).Reordered written) : classReport written = .ok entry := by
  obtain ⟨name, cls⟩ := entry
  cases cls with
  | grammar value => exact classReport_of_grammar recordable.1 reordered
  | constructFails message => exact classReport_of_failing rfl rfl reordered
  | introspectFails message => exact classReport_of_failing rfl rfl reordered

theorem mapM_classReport {entries : List (String × ParserClass)} {pairs : List (Value × Value)}
    (recordable : ∀ entry ∈ entries, entry.2.Recordable)
    (records : entries.map classDocument = pairs.map Prod.fst)
    (each : ∀ pair ∈ pairs, pair.1.Reordered pair.2) :
    (pairs.map Prod.snd).mapM classReport = .ok entries := by
  induction entries generalizing pairs with
  | nil =>
    obtain rfl := List.map_eq_nil_iff.mp records.symm
    rfl
  | cons entry rest ih =>
    obtain ⟨pair, others, rfl, same, more⟩ := List.map_eq_cons_iff.mp records.symm
    obtain ⟨here, later⟩ := List.forall_mem_cons.mp recordable
    obtain ⟨reordered, eachLater⟩ := List.forall_mem_cons.mp each
    rw [same] at reordered
    have first := classReport_of_reordered here reordered
    have tail := ih later more.symm eachLater
    simp [List.mapM_cons, first, tail, bind, Except.bind, pure, Except.pure]

theorem classes_of_reordered {entries : List (String × ParserClass)}
    (recordable : ∀ entry ∈ entries, entry.2.Recordable)
    (reordered : (Value.arr (entries.map classDocument)).Reordered written) :
    classes written = .ok entries := by
  obtain ⟨pairs, records, rfl, each⟩ := reordered.exists_items
  exact mapM_classReport recordable records each

def Recordable : Report → Prop
  | .ok classes => ∀ entry ∈ classes, entry.2.Recordable
  | .missing | .error _ => True

/-- A report is read from any text of its document, in whatever order the fields stand there. -/
theorem parse_of_reordered {report : Report} {text : String} (recordable : report.Recordable)
    (reordered : report.document.Reordered written) (spelled : Json.parse text = .ok written) :
    parse text = .ok report := by
  cases report with
  | ok entries =>
    obtain ⟨x, y, named, listed, orders⟩ := reordered.exists_two
    obtain rfl := named.eq_str
    have read : classes y = .ok entries := classes_of_reordered recordable listed
    have shaped : ofParts .ok (.obj [("parsers", y)]) = .ok (.ok entries) := by
      simp [ofParts, oneField, onlyField, read, bind, Except.bind, pure, Except.pure]
    rcases orders with rfl | rfl <;> exact parse_of_fields spelled rfl shaped
  | missing =>
    obtain ⟨x, named, rfl⟩ := reordered.exists_one
    obtain rfl := named.eq_str
    exact parse_of_fields spelled rfl rfl
  | error message =>
    obtain ⟨x, y, named, told, orders⟩ := reordered.exists_two
    obtain rfl := named.eq_str
    obtain rfl := told.eq_str
    rcases orders with rfl | rfl <;> exact parse_of_fields spelled rfl rfl

theorem fits_two {depth : Nat} {first second : String} {x y : Value} (fitsFirst : x.Fits depth)
    (fitsSecond : y.Fits depth) : (Value.obj [(first, x), (second, y)]).Fits (depth + 1) := by
  apply Value.Fits.obj
  intro field member
  obtain rfl | rfl : field = (first, x) ∨ field = (second, y) := by simpa using member
  · exact fitsFirst
  · exact fitsSecond

theorem fits_classDocument {entry : String × ParserClass} (recordable : entry.2.Recordable) :
    (classDocument entry).Fits (Json.maxDepth - 2) := by
  obtain ⟨name, cls⟩ := entry
  cases cls with
  | grammar value => exact fits_two (.str name) recordable.2
  | constructFails message => exact fits_two (.str name) (fits_two (.str _) (.str message))
  | introspectFails message => exact fits_two (.str name) (fits_two (.str _) (.str message))

theorem fits_document {report : Report} (recordable : report.Recordable) :
    report.document.Fits Json.maxDepth := by
  cases report with
  | ok entries =>
    refine fits_two (.str _) (.arr ?_)
    intro item member
    obtain ⟨entry, listed, rfl⟩ := List.mem_map.mp member
    exact fits_classDocument (recordable entry listed)
  | missing =>
    apply Value.Fits.obj
    intro field member
    obtain rfl := List.mem_singleton.mp member
    exact .str _
  | error message => exact fits_two (.str _) (.str message)

/-- A text in which a report is written: one without blanks, with the fields in whatever order, or
any other text that says the same. -/
def WrittenAs (report : Report) (text : String) : Prop :=
  ∃ written, report.document.Reordered written ∧
    (text = written.compact ∨ Json.parse text = .ok written)

variable {report : Report} {text : String}

theorem WrittenAs.exists_spelled (writing : report.WrittenAs text)
    (recordable : report.Recordable) :
    ∃ written, report.document.Reordered written ∧ Json.parse text = .ok written := by
  obtain ⟨written, reordered, rfl | spelled⟩ := writing
  · exact ⟨written, reordered, Json.parse_compact (reordered.fits (fits_document recordable))⟩
  · exact ⟨written, reordered, spelled⟩

theorem parse_of_writtenAs (writing : report.WrittenAs text) (recordable : report.Recordable) :
    parse text = .ok report := by
  obtain ⟨written, reordered, spelled⟩ := writing.exists_spelled recordable
  exact parse_of_reordered recordable reordered spelled

theorem WrittenAs.exists_not_blank (writing : report.WrittenAs text)
    (recordable : report.Recordable) : ∃ c ∈ text.toList, Text.isBlank c = false := by
  obtain ⟨written, reordered, spelled⟩ := writing.exists_spelled recordable
  obtain ⟨own, whole⟩ := document_eq_obj report
  rw [whole] at reordered
  obtain ⟨_, fields, _, rfl, _⟩ := reordered.exists_entries
  obtain ⟨last, ⟨⟨rest, starts⟩, _⟩, _⟩ := Json.readAs_of_parse spelled
  have brace : '\x7b' ∈ (Cursor.ofString text).skipBlanks.rest := by
    rw [starts]
    exact List.mem_cons_self
  exact ⟨_, Cursor.mem_of_mem_skipWhile brace, rfl⟩

end Documents

end Report

end GrammarEmbed
