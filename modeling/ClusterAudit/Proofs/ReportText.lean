-- SUMMARY: The JSON text of a report or an outcome can be read back.
import ClusterAudit.Proofs.JsonNumbers
import ClusterAudit.Proofs.Stamp
import ClusterAudit.Report

/-!
# Reading reports back

A report may be read from documents of many forms: records as arrays, cases as objects with
one name, with members that no record knows, and times with any offset. It is written in one
form only, and that form is read as the same report: `texts_are_read_back`. So what is
written of a report stays as it is when it is read and written again.
-/

namespace ClusterAudit

open ClusterAudit.Json

/-! ## Sorted records -/

section Sorted

variable {members : List (String × Json)}

theorem Outcome.ofJson_sortMembers {o : Outcome} (hnames : (members.map Prod.fst).Nodup)
    (h : ofJson (.object members) = .ok o) : ofJson (.object (sortMembers members)) = .ok o := by
  obtain ⟨_, hcheck, hfields⟩ := exists_of_bind_eq_ok h
  simp only [ofJson, checkMembers_sortMembers hcheck, required_sortMembers hnames,
    optional_sortMembers hnames]
  exact hfields

theorem SectionReport.ofJson_sortMembers {s : SectionReport}
    (hnames : (members.map Prod.fst).Nodup) (h : ofJson (.object members) = .ok s) :
    ofJson (.object (sortMembers members)) = .ok s := by
  obtain ⟨_, hcheck, hfields⟩ := exists_of_bind_eq_ok h
  simp only [ofJson, checkMembers_sortMembers hcheck, required_sortMembers hnames]
  exact hfields

theorem Tally.ofJson_sortMembers {t : Tally} (hnames : (members.map Prod.fst).Nodup)
    (h : ofJson (.object members) = .ok t) : ofJson (.object (sortMembers members)) = .ok t := by
  obtain ⟨_, hcheck, hfields⟩ := exists_of_bind_eq_ok h
  simp only [ofJson, checkMembers_sortMembers hcheck, required_sortMembers hnames]
  exact hfields

theorem Report.ofJson_sortMembers {r : Report} (hnames : (members.map Prod.fst).Nodup)
    (h : ofJson (.object members) = .ok r) : ofJson (.object (sortMembers members)) = .ok r := by
  obtain ⟨_, hcheck, hfields⟩ := exists_of_bind_eq_ok h
  simp only [ofJson, checkMembers_sortMembers hcheck, required_sortMembers hnames]
  exact hfields

end Sorted

/-! ## Reading what was written -/

theorem Instant.ofJson_toJson {t : Instant} (h : t.IsAdmitted) :
    ofJson t.toJson.sorted = .ok t := by
  show ofJson (.string t.stamp) = .ok t
  rw [ofJson, Stamp.parse_stamp h]

theorem Verdict.ofJson_toJson (v : Verdict) : ofJson v.toJson.sorted = .ok v := by
  cases v <;> rfl

theorem Tally.ofJson_toJson (t : Tally) : ofJson t.toJson.sorted = .ok t := by
  rw [toJson, Json.sorted, sortedMembers_eq_map]
  refine ofJson_sortMembers (show List.Nodup ["total", "passed", "failed", "warned"] by decide) ?_
  rfl

section Outcomes

variable {o : Outcome} {status message details : Json}

theorem Outcome.ofJson_object (hstatus : Status.ofJson status = .ok o.status)
    (hmessage : asString message = .ok o.message)
    (hdetails : asList asString details = .ok o.details) :
    ofJson (.object [("status", status), ("message", message), ("details", details)]) = .ok o := by
  simp [ofJson, checkMembers, fieldRules, FieldRule.of, required, Json.optional, lookup, hstatus,
    hmessage, hdetails, bind, Except.bind, Except.map, pure, Except.pure]

theorem Outcome.ofJson_object_bare (hstatus : Status.ofJson status = .ok o.status)
    (hmessage : asString message = .ok o.message) (hdetails : o.details = []) :
    ofJson (.object [("status", status), ("message", message)]) = .ok o := by
  simp [ofJson, checkMembers, fieldRules, FieldRule.of, required, Json.optional, lookup, hstatus,
    hmessage, ← hdetails, bind, Except.bind, Except.map, pure, Except.pure]

theorem Outcome.ofJson_toJson (o : Outcome) : ofJson o.toJson.sorted = .ok o := by
  have hstatus : Status.ofJson (Json.string o.status.name).sorted = .ok o.status := by
    cases o.status <;> rfl
  have hdetails : asList asString (Json.strings o.details).sorted = .ok o.details :=
    asList_map fun _ _ => rfl
  rw [toJson, Json.sorted, sortedMembers_eq_map]
  split
  · rename_i hbare
    refine ofJson_sortMembers (show List.Nodup ["status", "message"] by decide) ?_
    exact ofJson_object_bare hstatus rfl (List.isEmpty_iff.mp hbare)
  · refine ofJson_sortMembers (show List.Nodup ["status", "message", "details"] by decide) ?_
    exact ofJson_object hstatus rfl hdetails

end Outcomes

theorem SectionReport.ofJson_object {s : SectionReport} {title outcomes : Json}
    (htitle : asString title = .ok s.title)
    (houtcomes : asList Outcome.ofJson outcomes = .ok s.outcomes) :
    ofJson (.object [("title", title), ("outcomes", outcomes)]) = .ok s := by
  simp [ofJson, checkMembers, fieldRules, FieldRule.of, required, lookup, htitle, houtcomes, bind,
    Except.bind, Except.map, pure, Except.pure]

theorem SectionReport.ofJson_toJson (s : SectionReport) : ofJson s.toJson.sorted = .ok s := by
  rw [toJson, Json.sorted, sortedMembers_eq_map]
  refine ofJson_sortMembers (show List.Nodup ["title", "outcomes"] by decide) ?_
  exact ofJson_object rfl (asList_map fun o _ => o.ofJson_toJson)

theorem Report.ofJson_object {r : Report} {startedAt completedAt sections tally verdict : Json}
    (hstartedAt : Instant.ofJson startedAt = .ok r.startedAt)
    (hcompletedAt : Instant.ofJson completedAt = .ok r.completedAt)
    (hsections : asList SectionReport.ofJson sections = .ok r.sections)
    (htally : Tally.ofJson tally = .ok r.tally)
    (hverdict : Verdict.ofJson verdict = .ok r.verdict) :
    ofJson (.object [("started_at", startedAt), ("completed_at", completedAt),
      ("sections", sections), ("tally", tally), ("verdict", verdict)]) = .ok r := by
  simp [ofJson, checkMembers, fieldRules, FieldRule.of, required, lookup, hstartedAt, hcompletedAt,
    hsections, htally, hverdict, bind, Except.bind, Except.map, pure, Except.pure]

/-- Counts that fit a word. -/
structure Tally.IsReadable (t : Tally) : Prop where
  total_lt : t.total < 2 ^ 64
  passed_lt : t.passed < 2 ^ 64
  failed_lt : t.failed < 2 ^ 64
  warned_lt : t.warned < 2 ^ 64

/-- A report as it can be read: with times of the calendar and counts that fit a word. -/
structure Report.IsReadable (r : Report) : Prop where
  startedAt : r.startedAt.IsAdmitted
  completedAt : r.completedAt.IsAdmitted
  tally : r.tally.IsReadable

theorem Report.ofJson_toJson {r : Report} (h : r.IsReadable) : ofJson r.toJson.sorted = .ok r := by
  rw [toJson, Json.sorted, sortedMembers_eq_map]
  refine ofJson_sortMembers
    (show List.Nodup ["started_at", "completed_at", "sections", "tally", "verdict"] by decide) ?_
  exact ofJson_object (Instant.ofJson_toJson h.startedAt) (Instant.ofJson_toJson h.completedAt)
    (asList_map fun s _ => s.ofJson_toJson) r.tally.ofJson_toJson r.verdict.ofJson_toJson

/-! ## What is written -/

section Written

variable {p : JsonNumber → Prop} {depth : Nat}

theorem Outcome.within_toJson (o : Outcome) : o.toJson.Within p (depth + 3) := by
  have hdetails : (Json.strings o.details).Within p (depth + 2) :=
    .array fun detail hdetail => by
      obtain ⟨text, -, rfl⟩ := List.mem_map.mp hdetail
      exact .string text
  refine .object fun member hmember => ?_
  obtain hmember | hmember := List.mem_append.mp hmember
  · simp only [List.mem_cons, List.not_mem_nil, or_false] at hmember
    obtain rfl | rfl := hmember
    · exact .string _
    · exact .string _
  · split at hmember
    · cases hmember
    · rw [List.mem_singleton.mp hmember]
      exact hdetails

theorem SectionReport.within_toJson (s : SectionReport) : s.toJson.Within p (depth + 5) := by
  refine .object fun member hmember => ?_
  simp only [List.mem_cons, List.not_mem_nil, or_false] at hmember
  obtain rfl | rfl := hmember
  · exact .string _
  · refine .array fun outcome houtcome => ?_
    obtain ⟨o, -, rfl⟩ := List.mem_map.mp houtcome
    exact o.within_toJson

theorem Tally.within_toJson {t : Tally} (h : t.IsReadable) :
    t.toJson.Within JsonNumber.IsInteger (depth + 2) := by
  refine .object fun member hmember => ?_
  simp only [List.mem_cons, List.not_mem_nil, or_false] at hmember
  obtain rfl | rfl | rfl | rfl := hmember
  · exact .number h.total_lt
  · exact .number h.passed_lt
  · exact .number h.failed_lt
  · exact .number h.warned_lt

theorem Report.within_toJson {r : Report} (h : r.IsReadable) :
    r.toJson.Within JsonNumber.IsInteger (depth + 7) := by
  refine .object fun member hmember => ?_
  simp only [List.mem_cons, List.not_mem_nil, or_false] at hmember
  obtain rfl | rfl | rfl | rfl | rfl := hmember
  · exact .string _
  · exact .string _
  · refine .array fun section' hsection => ?_
    obtain ⟨s, -, rfl⟩ := List.mem_map.mp hsection
    exact s.within_toJson
  · exact Tally.within_toJson h.tally
  · exact .string _

end Written

/-! ## What is read -/

section Read

variable {α : Type} {p : JsonNumber → Prop} {depth : Nat} {members : List (String × Json)}
  {items : List Json}

/-- A field of an object is read from a part of it. -/
theorem exists_within_of_required {name : String} {decode : Json → Decoded α} {a : α}
    (hobject : (Json.object members).Within p depth) (h : required members name decode = .ok a) :
    ∃ value depth, value.Within p depth ∧ decode value = .ok a := by
  rw [required] at h
  split at h
  · rename_i value hlookup
    obtain ⟨member, hmember, rfl⟩ := exists_mem_of_lookup hlookup
    cases hobject with
    | object hmembers => exact ⟨member.2, _, hmembers member hmember, h⟩
  · cases h

/-- A field of an array is read from a part of it. -/
theorem exists_within_of_itemAt {place : Nat} {expected : String} {decode : Json → Decoded α}
    {a : α} (harray : (Json.array items).Within p depth)
    (h : itemAt items place expected decode = .ok a) :
    ∃ value depth, value.Within p depth ∧ decode value = .ok a := by
  rw [itemAt] at h
  split at h
  · rename_i value hitem
    cases harray with
    | array hitems => exact ⟨value, _, hitems value (List.mem_of_getElem? hitem), h⟩
  · cases h

theorem lt_of_asCount {value : Json} {n : Nat} (hvalue : value.Within JsonNumber.IsAdmitted depth)
    (h : asCount value = .ok n) : n < 2 ^ 64 := by
  cases hvalue with
  | number hn =>
    rename_i number
    cases number with
    | natural m =>
      cases h
      exact hn
    | negative m => cases h
    | binary x => cases h
  | null | bool | string | array | object => cases h

theorem Instant.isAdmitted_of_ofJson {value : Json} {t : Instant} (h : ofJson value = .ok t) :
    t.IsAdmitted := by
  cases value with
  | string s =>
    rw [ofJson] at h
    split at h
    · rename_i hparse
      cases h
      exact Stamp.isAdmitted_of_parse hparse
    · cases h
  | null | bool | number | array | object => cases h

theorem Tally.isReadable_of_ofJson {value : Json} {t : Tally}
    (hvalue : value.Within JsonNumber.IsAdmitted depth) (h : ofJson value = .ok t) :
    t.IsReadable := by
  have hcount : ∀ {n : Nat}, (∃ part depth, part.Within JsonNumber.IsAdmitted depth ∧
      asCount part = .ok n) → n < 2 ^ 64 := by
    rintro n ⟨part, depth, hpart, hn⟩
    exact lt_of_asCount hpart hn
  cases value with
  | object members =>
    obtain ⟨_, -, h⟩ := exists_of_bind_eq_ok h
    obtain ⟨total, htotal, h⟩ := exists_of_bind_eq_ok h
    obtain ⟨passed, hpassed, h⟩ := exists_of_bind_eq_ok h
    obtain ⟨failed, hfailed, h⟩ := exists_of_bind_eq_ok h
    obtain ⟨warned, hwarned, h⟩ := exists_of_bind_eq_ok h
    cases h
    exact ⟨hcount (exists_within_of_required hvalue htotal),
      hcount (exists_within_of_required hvalue hpassed),
      hcount (exists_within_of_required hvalue hfailed),
      hcount (exists_within_of_required hvalue hwarned)⟩
  | array items =>
    obtain ⟨total, htotal, h⟩ := exists_of_bind_eq_ok h
    obtain ⟨passed, hpassed, h⟩ := exists_of_bind_eq_ok h
    obtain ⟨failed, hfailed, h⟩ := exists_of_bind_eq_ok h
    obtain ⟨warned, hwarned, h⟩ := exists_of_bind_eq_ok h
    obtain ⟨_, -, h⟩ := exists_of_bind_eq_ok h
    cases h
    exact ⟨hcount (exists_within_of_itemAt hvalue htotal),
      hcount (exists_within_of_itemAt hvalue hpassed),
      hcount (exists_within_of_itemAt hvalue hfailed),
      hcount (exists_within_of_itemAt hvalue hwarned)⟩
  | null | bool | number | string => cases h

/-- Whatever a report is read from, its times and counts are within their limits. -/
theorem Report.isReadable_of_ofJson {value : Json} {r : Report}
    (hvalue : value.Within JsonNumber.IsAdmitted depth) (h : ofJson value = .ok r) :
    r.IsReadable := by
  cases value with
  | object members =>
    obtain ⟨_, -, h⟩ := exists_of_bind_eq_ok h
    obtain ⟨startedAt, hstarted, h⟩ := exists_of_bind_eq_ok h
    obtain ⟨completedAt, hcompleted, h⟩ := exists_of_bind_eq_ok h
    obtain ⟨sections, -, h⟩ := exists_of_bind_eq_ok h
    obtain ⟨tally, htally, h⟩ := exists_of_bind_eq_ok h
    obtain ⟨verdict, -, h⟩ := exists_of_bind_eq_ok h
    cases h
    obtain ⟨_, _, -, hstarted⟩ := exists_within_of_required hvalue hstarted
    obtain ⟨_, _, -, hcompleted⟩ := exists_within_of_required hvalue hcompleted
    obtain ⟨_, _, hcounts, htally⟩ := exists_within_of_required hvalue htally
    exact ⟨Instant.isAdmitted_of_ofJson hstarted, Instant.isAdmitted_of_ofJson hcompleted,
      Tally.isReadable_of_ofJson hcounts htally⟩
  | array items =>
    obtain ⟨startedAt, hstarted, h⟩ := exists_of_bind_eq_ok h
    obtain ⟨completedAt, hcompleted, h⟩ := exists_of_bind_eq_ok h
    obtain ⟨sections, -, h⟩ := exists_of_bind_eq_ok h
    obtain ⟨tally, htally, h⟩ := exists_of_bind_eq_ok h
    obtain ⟨verdict, -, h⟩ := exists_of_bind_eq_ok h
    obtain ⟨_, -, h⟩ := exists_of_bind_eq_ok h
    cases h
    obtain ⟨_, _, -, hstarted⟩ := exists_within_of_itemAt hvalue hstarted
    obtain ⟨_, _, -, hcompleted⟩ := exists_within_of_itemAt hvalue hcompleted
    obtain ⟨_, _, hcounts, htally⟩ := exists_within_of_itemAt hvalue htally
    exact ⟨Instant.isAdmitted_of_ofJson hstarted, Instant.isAdmitted_of_ofJson hcompleted,
      Tally.isReadable_of_ofJson hcounts htally⟩
  | null | bool | number | string => cases h

end Read

/-! ## Texts -/

/-- What is read from a text, if it can be parsed and decoded. -/
def Json.readAs {α : Type} (decode : Json → Decoded α) (text : String) : Option α :=
  match Json.parse text.toList with
  | .ok value => (decode value).toOption
  | .error _ => none

theorem readAs_eq_some_iff {α : Type} {decode : Json → Decoded α} {text : String} {a : α} :
    readAs decode text = some a ↔
      ∃ value, Json.parse text.toList = .ok value ∧ decode value = .ok a := by
  rw [readAs]
  constructor
  · intro h
    split at h
    · rename_i value hparse
      refine ⟨value, hparse, ?_⟩
      cases hdecode : decode value with
      | error misfit =>
        rw [hdecode] at h
        cases h
      | ok b =>
        rw [hdecode] at h
        rw [Option.some.inj h]
    · cases h
  · rintro ⟨value, hparse, hdecode⟩
    rw [hparse]
    simp only [hdecode]
    rfl

/-- The text of a report that may have been read is read as this report. -/
theorem Report.readAs_text {r : Report} (h : r.IsReadable) : readAs ofJson r.text = some r :=
  readAs_eq_some_iff.mpr ⟨r.toJson.sorted, parse_pretty (within_toJson h), ofJson_toJson h⟩

/-- Details are left out of an outcome exactly if there are none. -/
theorem Outcome.member?_details_eq_none_iff (o : Outcome) :
    o.toJson.member? "details" = none ↔ o.details = [] := by
  obtain ⟨status, message, details⟩ := o
  cases details <;> simp [toJson, member?]

/-- The text of a report is read as this report, whatever text or value the report was read
from, and so is the text of an outcome, in either form and with its details left out if there
are none. -/
theorem texts_are_read_back :
    (∀ text r, readAs Report.ofJson text = some r → readAs Report.ofJson r.text = some r) ∧
      (∀ depth value r, value.Within JsonNumber.IsAdmitted depth → Report.ofJson value = .ok r →
        readAs Report.ofJson r.text = some r) ∧
      ∀ o : Outcome, readAs Outcome.ofJson o.toJson.compact = some o ∧
        readAs Outcome.ofJson o.toJson.pretty = some o ∧
        (o.toJson.member? "details" = none ↔ o.details = []) := by
  have hreport : ∀ depth value r, value.Within JsonNumber.IsAdmitted depth →
      Report.ofJson value = .ok r → readAs Report.ofJson r.text = some r :=
    fun _ _ _ hvalue hread => Report.readAs_text (Report.isReadable_of_ofJson hvalue hread)
  refine ⟨fun text r hread => ?_, hreport, fun o => ?_⟩
  · obtain ⟨value, hparse, hvalue⟩ := readAs_eq_some_iff.mp hread
    exact hreport _ value r (within_of_parse hparse) hvalue
  · exact ⟨readAs_eq_some_iff.mpr ⟨_, parse_compact o.within_toJson, o.ofJson_toJson⟩,
      readAs_eq_some_iff.mpr ⟨_, parse_pretty o.within_toJson, o.ofJson_toJson⟩,
      o.member?_details_eq_none_iff⟩

/-- A report in loose form: records as arrays, cases as objects, a member that no record knows, a
leap second with an offset, and a year of five digits. -/
theorem texts_are_read_back_loose :
    let text := r#"["2017-01-01T01:59:60.5+02:00", "+12024-05-01 10:00:00z",
      [["t", [["pass", "\u00e9", ["\n"]], {"status": {"warn": null}, "extra": 1e3,
      "message": ""}]]], [2, 1, 0, 1], {"healthy": null}]"#
    let r : Report :=
      { startedAt := ⟨⟨2016, 12, 31⟩, 23, 59, 59, 1500000000⟩
        completedAt := ⟨⟨12024, 5, 1⟩, 10, 0, 0, 0⟩
        sections := [⟨"t", [(Outcome.pass "é").withDetails ["\n"], .warn ""]⟩]
        tally := ⟨2, 1, 0, 1⟩
        verdict := .healthy }
    readAs Report.ofJson text = some r ∧ readAs Report.ofJson r.text = some r ∧
      ∃ value, value.Within JsonNumber.IsAdmitted nestingLimit ∧ Report.ofJson value = .ok r ∧
        readAs Report.ofJson r.text = some r := by
  intro text r
  have hread : readAs Report.ofJson text = some r := by decide +kernel
  obtain ⟨value, hparse, hvalue⟩ := readAs_eq_some_iff.mp hread
  have hwithin := within_of_parse hparse
  exact ⟨hread, texts_are_read_back.1 text r hread, value, hwithin, hvalue,
    texts_are_read_back.2.1 nestingLimit value r hwithin hvalue⟩

end ClusterAudit
