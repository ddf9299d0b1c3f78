-- SUMMARY: What a question to the hypervisor yields, for everything that may become of its request.
import ClusterAudit.Proofs.Accepting
import ClusterAudit.Proofs.Requests
import ClusterAudit.Proofs.Trimming

/-!
# Replies of the hypervisor

What a question yields depends on what becomes of the last of its requests alone. The deadline and
the connection come first, then the status of the answer, and only then its body: an envelope around
the data that were asked for. A body that says something else, or has no data in its envelope, is
malformed.
-/

namespace ClusterAudit

open ClusterAudit.Json

theorem Web.isSuccess_iff {status : Nat} :
    Web.isSuccess status = true ↔ 200 ≤ status ∧ status ≤ 299 := by
  simp [Web.isSuccess]

namespace HypervisorApi

/-! ## Envelopes -/

section Envelope

variable {schema : Schema} {depth : Nat} {data : Shape} {value content : Json}

/-- An envelope that has these data: an object, or an array of its only field. -/
inductive Encloses : Json → Json → Prop
  | member {members : List (String × Json)} {data : Json}
      (h : lookup "data" members = some data) : Encloses (.object members) data
  | item {data : Json} : Encloses (.array [data]) data

/-- An envelope without data, or with null for them. -/
inductive HasNoData : Json → Prop
  | missing {members : List (String × Json)} (h : lookup "data" members = none) :
      HasNoData (.object members)
  | null {value : Json} (h : Encloses value .null) : HasNoData value

/-- An envelope that passed the check is empty, or it has data of the right shape. -/
theorem hasNoData_or_encloses (hbase : data.base = data)
    (h : (envelope data).Admits schema value) :
    HasNoData value ∨ ∃ content, Encloses value content ∧ data.Admits schema content := by
  obtain ⟨members, rfl, hmembers⟩ | ⟨items, rfl, hitems⟩ := Shape.admits_closedRecord h
  · cases hlookup : lookup "data" members with
    | none => exact .inl (.missing hlookup)
    | some content =>
      have hcontent := hmembers.admits "data" _ content rfl hlookup
      obtain rfl | hcontent := Shape.admits_nullable hbase hcontent
      · exact .inl (.null (.member hlookup))
      · exact .inr ⟨content, .member hlookup, hcontent⟩
  · obtain _ | ⟨hcontent, _ | _⟩ := HasItems.forall₂ hitems rfl nofun
    obtain rfl | hcontent := Shape.admits_nullable hbase hcontent
    · exact .inl (.null .item)
    · exact .inr ⟨_, .item, hcontent⟩

theorem Encloses.sorted (h : Encloses value content) (hnames : HasDistinctNames value) :
    Encloses value.sorted content.sorted := by
  cases h with
  | member h => exact .member (by rw [lookup_sorted hnames, h, Option.map_some])
  | item => exact .item

theorem HasNoData.sorted (h : HasNoData value) (hnames : HasDistinctNames value) :
    HasNoData value.sorted := by
  cases h with
  | missing h => exact .missing (by rw [lookup_sorted hnames, h, Option.map_none])
  | null h => exact .null (h.sorted hnames)

end Envelope

/-! ## Contents -/

/-- Data that are a ticket: an object with both texts, or an array of the two. -/
inductive IsTicket : Json → Ticket → Prop
  | members {members : List (String × Json)} {ticket csrfToken : String}
      (hticket : lookup "ticket" members = some (.string ticket))
      (htoken : lookup "CSRFPreventionToken" members = some (.string csrfToken)) :
      IsTicket (.object members) ⟨ticket, csrfToken⟩
  | items {ticket csrfToken : String} :
      IsTicket (.array [.string ticket, .string csrfToken]) ⟨ticket, csrfToken⟩

/-- A field that may be missing or null, and otherwise is a text. -/
inductive IsOptionalText : Option Json → Option String → Prop
  | missing : IsOptionalText none none
  | null : IsOptionalText (some .null) none
  | text {s : String} : IsOptionalText (some (.string s)) (some s)

/-- Data of a shape mean something, and it is what is taken out of them. -/
structure Conveys {α : Type} (data : Shape) (Means : Json → α → Prop) (take : Json → α) : Prop where
  base_eq : data.base = data
  exists_means : ∀ content, data.Admits (fun _ => []) content → ∃ x, Means content x
  take_eq : ∀ content x, Means content x → take content = x
  not_null : ∀ x, ¬ Means .null x
  accepts : ∀ depth content x, Means content x → HasDistinctNames content →
    data.Accepts (fun _ => []) depth content
  sorted : ∀ content x, Means content x → HasDistinctNames content → Means content.sorted x

theorem Conveys.ne_null {α : Type} {data : Shape} {Means : Json → α → Prop} {take : Json → α}
    (h : Conveys data Means take) {content : Json} {x : α} (hmeans : Means content x) :
    content ≠ .null := by
  rintro rfl
  exact h.not_null x hmeans

theorem conveys_ticket : Conveys ticketShape IsTicket ticketOf where
  base_eq := rfl
  exists_means := by
    intro content h
    obtain ⟨members, rfl, hmembers⟩ | ⟨items, rfl, hitems⟩ := Shape.admits_closedRecord h
    · obtain ⟨_, hticket, htext⟩ := hmembers.exists_lookup "ticket" rfl
      obtain ⟨ticket, rfl⟩ := Shape.admits_text htext
      obtain ⟨_, htoken, htext⟩ := hmembers.exists_lookup "CSRFPreventionToken" rfl
      obtain ⟨token, rfl⟩ := Shape.admits_text htext
      exact ⟨_, .members hticket htoken⟩
    · obtain _ | ⟨hticket, _ | ⟨htoken, _ | _⟩⟩ := HasItems.forall₂ hitems rfl nofun
      obtain ⟨ticket, rfl⟩ := Shape.admits_text hticket
      obtain ⟨token, rfl⟩ := Shape.admits_text htoken
      exact ⟨_, .items⟩
  take_eq := by
    rintro _ _ (⟨hticket, htoken⟩ | _)
    · simp [ticketOf, textField?, fieldOf, hticket, htoken]
    · simp [ticketOf, textField?, fieldOf, List.findIdx?_cons]
  not_null := nofun
  accepts := by
    rintro depth _ _ (⟨hticket, htoken⟩ | _) hnames
    · refine Shape.accepts_object ⟨hnames, ?_, by simp [hticket, htoken]⟩
      refine List.forall_mem_cons.mpr ⟨fun value hvalue => ?_, List.forall_mem_singleton.mpr
        fun value hvalue => ?_⟩
      · cases hticket.symm.trans hvalue
        exact Shape.accepts_text _
      · cases htoken.symm.trans hvalue
        exact Shape.accepts_text _
    · exact Shape.accepts_array
        (.cons (Shape.accepts_text _) (.cons (Shape.accepts_text _) .nil))
  sorted := by
    rintro _ _ (⟨hticket, htoken⟩ | _) hnames
    · refine .members ?_ ?_
      · rw [lookup_sorted hnames, hticket]
        rfl
      · rw [lookup_sorted hnames, htoken]
        rfl
    · exact .items

theorem IsOptionalText.accepts {schema : Schema} {depth : Nat} {value : Json}
    {text : Option String} (h : IsOptionalText (some value) text) :
    (Shape.nullable .text).Accepts schema depth value := by
  cases h with
  | null => exact Shape.accepts_null rfl
  | text => exact (Shape.accepts_text _).nullable rfl

theorem IsOptionalText.sorted {field : Option Json} {text : Option String}
    (h : IsOptionalText field text) : IsOptionalText (field.map Json.sorted) text := by
  cases h with
  | missing => exact .missing
  | null => exact .null
  | text => exact .text

section Exchange

variable {α : Type} {url : String} {timeout : Nat} {what : String} {data : Shape}
  {Means : Json → α → Prop} {take : Json → α} {transmission : Transmission}
  {reply : Except Failure α}

/-- What a question yields when this becomes of its request: by the address of the request, how
long an answer is waited for, what was asked for, the shape of it and what data of that shape
mean. -/
inductive Settles (url : String) (timeout : Nat) (what : String) (data : Shape)
    (Means : Json → α → Prop) : Transmission → Except Failure α → Prop
  | silent :
      Settles url timeout what data Means .silent (.error (.query (.timeout (timeout / 1000))))
  | stalled {status : Nat} {body : Utf8.Bytes} {location : Option Web.Url} :
      Settles url timeout what data Means (.answered status body .stalled location)
        (.error (.query (.timeout (timeout / 1000))))
  | dropped : Settles url timeout what data Means .dropped (.error (.query (.http (.unsent url))))
  | broken {status : Nat} {body : Utf8.Bytes} {location : Option Web.Url} :
      Settles url timeout what data Means (.answered status body .broken location)
        (.error (.query (.http .brokenBody)))
  /-- The status says no success; the body is not looked into. -/
  | refused {status : Nat} {body : Utf8.Bytes} {location : Option Web.Url} {text : List Char}
      (hstatus : status < 200 ∨ 299 < status)
      (htext : Text.IsTrimmed (Utf8.decodeReplacing body) text) :
      Settles url timeout what data Means (.answered status body .complete location)
        (.error (.query (.status status (String.ofList text))))
  /-- The body is no envelope around null or around data of the shape. -/
  | malformed {status : Nat} {body : Utf8.Bytes} {location : Option Web.Url} {fault : DecodeFault}
      (hstatus : 200 ≤ status ∧ status ≤ 299)
      (hparse : (envelope data).parse (fun _ => []) (Utf8.decodeReplacing body) = .error fault) :
      Settles url timeout what data Means (.answered status body .complete location)
        (.error (.malformedResponse (fault.messageIn (Utf8.decodeReplacing body))))
  | empty {status : Nat} {body : Utf8.Bytes} {location : Option Web.Url} {value : Json}
      (hstatus : 200 ≤ status ∧ status ≤ 299)
      (hparse : (envelope data).parse (fun _ => []) (Utf8.decodeReplacing body) = .ok value)
      (hempty : HasNoData value) :
      Settles url timeout what data Means (.answered status body .complete location)
        (.error (.malformedResponse (what ++ " response has no data")))
  | told {status : Nat} {body : Utf8.Bytes} {location : Option Web.Url} {value content : Json}
      {x : α} (hstatus : 200 ≤ status ∧ status ≤ 299)
      (hparse : (envelope data).parse (fun _ => []) (Utf8.decodeReplacing body) = .ok value)
      (hcontent : Encloses value content) (hmeans : Means content x) :
      Settles url timeout what data Means (.answered status body .complete location) (.ok x)

/-- What is made of what becomes of a request. -/
def settle (url : String) (timeout : Nat) (what : String) (data : Shape) (take : Json → α)
    (transmission : Transmission) : Except Failure α :=
  Except.map take do
    let text ← (answerText url timeout transmission).mapError .query
    readEnvelope what data text

theorem settle_of_failure {status : Nat} (hstatus : status < 200 ∨ 299 < status)
    (body : Utf8.Bytes) (location : Option Web.Url) :
    settle url timeout what data take (.answered status body .complete location) =
      .error (.query (.status status (String.ofList (Text.trim (Utf8.decodeReplacing body))))) := by
  have hsuccess : Web.isSuccess status = false := by
    rw [← Bool.not_eq_true, Web.isSuccess_iff]
    omega
  simp only [settle, answerText, hsuccess]
  rfl

theorem settle_of_success {status : Nat} (hstatus : 200 ≤ status ∧ status ≤ 299)
    (body : Utf8.Bytes) (location : Option Web.Url) :
    settle url timeout what data take (.answered status body .complete location) =
      (readEnvelope what data (Utf8.decodeReplacing body)).map take := by
  simp only [settle, answerText, Web.isSuccess_iff.mpr hstatus]
  rfl

theorem readEnvelope_of_error {text : List Char} {fault : DecodeFault}
    (hparse : (envelope data).parse (fun _ => []) text = .error fault) :
    readEnvelope what data text = .error (.malformedResponse (fault.messageIn text)) := by
  simp only [readEnvelope, hparse]

theorem readEnvelope_of_hasNoData {text : List Char} {value : Json}
    (hparse : (envelope data).parse (fun _ => []) text = .ok value) (h : HasNoData value) :
    readEnvelope what data text =
      .error (.malformedResponse (what ++ " response has no data")) := by
  cases h with
  | missing h => simp only [readEnvelope, hparse, fieldOf, h]
  | null h =>
    cases h with
    | member h => simp only [readEnvelope, hparse, fieldOf, h]
    | item => simp [readEnvelope, hparse, fieldOf]

theorem readEnvelope_of_encloses {text : List Char} {value content : Json}
    (hparse : (envelope data).parse (fun _ => []) text = .ok value) (h : Encloses value content)
    (hcontent : content ≠ .null) : readEnvelope what data text = .ok content := by
  cases h with
  | member h => simp [readEnvelope, hparse, fieldOf, h]
  | item => simp [readEnvelope, hparse, fieldOf]

theorem settles_settle (h : Conveys data Means take) (transmission : Transmission) :
    Settles url timeout what data Means transmission
      (settle url timeout what data take transmission) := by
  match transmission with
  | .silent => exact .silent
  | .dropped => exact .dropped
  | .answered _ _ .stalled _ => exact .stalled
  | .answered _ _ .broken _ => exact .broken
  | .answered status body .complete location =>
    -- The status is looked at before the body.
    by_cases hstatus : 200 ≤ status ∧ status ≤ 299
    · rw [settle_of_success hstatus]
      cases hparse : (envelope data).parse (fun _ => []) (Utf8.decodeReplacing body) with
      | error fault =>
        rw [readEnvelope_of_error hparse]
        exact .malformed hstatus hparse
      | ok value =>
        obtain hempty | ⟨content, hcontent, hadmits⟩ :=
          hasNoData_or_encloses h.base_eq (Shape.admits_of_parse hparse)
        · rw [readEnvelope_of_hasNoData hparse hempty]
          exact .empty hstatus hparse hempty
        · obtain ⟨x, hmeans⟩ := h.exists_means content hadmits
          rw [readEnvelope_of_encloses hparse hcontent (h.ne_null hmeans), Except.map,
            h.take_eq _ _ hmeans]
          exact .told hstatus hparse hcontent hmeans
    · have hfailure : status < 200 ∨ 299 < status := by omega
      rw [settle_of_failure hfailure]
      exact .refused hfailure (Text.trim_eq_iff.mp rfl)

theorem Settles.eq_settle (h : Settles url timeout what data Means transmission reply)
    (hconveys : Conveys data Means take) :
    settle url timeout what data take transmission = reply := by
  cases h with
  | silent | stalled | dropped | broken => rfl
  | refused hstatus htext => rw [settle_of_failure hstatus, Text.trim_eq_iff.mpr htext]
  | malformed hstatus hparse =>
    rw [settle_of_success hstatus, readEnvelope_of_error hparse]
    rfl
  | empty hstatus hparse hempty =>
    rw [settle_of_success hstatus, readEnvelope_of_hasNoData hparse hempty]
    rfl
  | told hstatus hparse hcontent hmeans =>
    rw [settle_of_success hstatus,
      readEnvelope_of_encloses hparse hcontent (hconveys.ne_null hmeans), Except.map,
      hconveys.take_eq _ _ hmeans]

theorem settle_eq_iff (hconveys : Conveys data Means take) :
    settle url timeout what data take transmission = reply ↔
      Settles url timeout what data Means transmission reply := by
  refine ⟨?_, fun h => h.eq_settle hconveys⟩
  rintro rfl
  exact settles_settle hconveys transmission

/-- What is made of the end of a request. -/
def conclude (url : String) (timeout : Nat) (what : String) (data : Shape) (take : Json → α) :
    Except HttpFault Transmission → Except Failure α
  | .ok transmission => settle url timeout what data take transmission
  | .error fault => .error (.query (.http fault))

end Exchange

end HypervisorApi

/-! ## Questions -/

namespace HypervisorQuery

open HypervisorApi

end HypervisorQuery

namespace HypervisorApi

/-- A client that is sent on by every answer makes eleven requests. -/
example :
    (version (fun _ made => (.answered 307 [] .complete
        (some ⟨"http", some { host := some (.domain "pve") }, "/", none, none⟩), made + 1))
      {} "http://pve:8006" ⟨"T", "C"⟩ 0).2 = 11 := by
  decide +kernel

end HypervisorApi

end ClusterAudit
