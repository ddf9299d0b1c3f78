-- SUMMARY: What a list is, for every way in which the control plane may take the request for it.
import ClusterAudit.Proofs.Accepting
import ClusterAudit.Proofs.NotFound

/-!
# Answers to lists

A list comes back with the objects of an answer, in their order, or with none, or it fails. It is
empty without an answer that holds no objects in one case only: the answer says failure, and the
error object for which it is taken has the code of what is not found. The statuses that say failure
end at 599; an answer with a status above is read like one that says success. An answer that is no
text is taken for no error object at all.
-/

namespace ClusterAudit

open ClusterAudit.Json ClusterAudit.Resource

theorem eq_ok_of_toOption {ε α : Type} {x : Except ε α} {value : α}
    (h : x.toOption = some value) : x = .ok value := by
  cases x with
  | error fault => cases h
  | ok other => rw [Option.some.inj h]

theorem Web.isFailure_iff {status : Nat} :
    Web.isFailure status = true ↔ 400 ≤ status ∧ status ≤ 599 := by
  simp [Web.isFailure]

theorem Web.isFailure_eq_false_iff {status : Nat} :
    Web.isFailure status = false ↔ status < 400 ∨ 599 < status := by
  rw [← Bool.not_eq_true, Web.isFailure_iff]
  omega

/-- A question of which no request can be made was not refused by anyone. -/
theorem ClusterQuery.target_ne_refused (q : ClusterQuery) (answer : ApiStatus) :
    q.target ≠ .error (.refused answer) := by
  have hwritten : q.writtenTarget ≠ .error (.refused answer) := by
    cases q with
    | namespaceNamed name | secret ns name =>
      simp only [writtenTarget, objectTarget]
      split <;> simp
    | _ => simp [writtenTarget]
  rw [target]
  cases htarget : q.writtenTarget with
  | error fault => simpa [bind, Except.bind, htarget] using hwritten
  | ok text =>
    cases hread : Web.readTarget text <;> simp [bind, Except.bind, Except.mapError, hread]

/-! ## The code of an error object -/

/-- The code of the error object for which a text is taken. An error object may be written as an
array of its four fields; a text that is none has the status of the answer for a code. -/
inductive CodeOf (status : Nat) (text : List Char) : Nat → Prop
  | member {members : List (String × Json)} {n : JsonNumber} {code : Nat}
      (hparse : apiStatusShape.parse (fun _ => []) text = .ok (.object members))
      (hmember : lookup "code" members = some (.number n))
      (hcode : n.integer? = some (code : Int)) : CodeOf status text code
  | item {s message reason : String} {n : JsonNumber} {code : Nat}
      (hparse : apiStatusShape.parse (fun _ => []) text =
        .ok (.array [.string s, .string message, .string reason, .number n]))
      (hcode : n.integer? = some (code : Int)) : CodeOf status text code
  | status {fault : DecodeFault} (hparse : apiStatusShape.parse (fun _ => []) text = .error fault) :
      CodeOf status text status

theorem CodeOf.eq_code {status code : Nat} {text : List Char} (h : CodeOf status text code) :
    code = (apiStatus status text).code := by
  cases h with
  | member hparse hmember hcode =>
    simp [apiStatus, hparse, apiStatusOf, fieldOf, hmember, hcode]
  | item hparse hcode =>
    simp [apiStatus, hparse, apiStatusOf, fieldOf, List.findIdx?_cons, hcode]
  | status hparse => rw [apiStatus_of_parse_error hparse]

/-- A code is a natural number, as far as it is read. -/
theorem exists_code {schema : Schema} {value : Json}
    (h : (Shape.integer "u16" 0 65535).Admits schema value) :
    ∃ n code, value = .number n ∧ n.integer? = some (Int.ofNat code) := by
  obtain ⟨n, i, rfl, hinteger, hlow, -⟩ := Shape.admits_integer h
  obtain ⟨code, rfl⟩ := Int.eq_ofNat_of_zero_le hlow
  exact ⟨n, code, rfl, hinteger⟩

theorem exists_codeOf (status : Nat) (text : List Char) : ∃ code, CodeOf status text code := by
  cases hparse : apiStatusShape.parse (fun _ => []) text with
  | error fault => exact ⟨status, .status hparse⟩
  | ok value =>
    obtain ⟨members, rfl, hmembers⟩ | ⟨items, rfl, hitems⟩ :=
      Shape.admits_closedRecord (Shape.admits_of_parse hparse)
    · obtain ⟨value, hvalue, hcode⟩ := hmembers.exists_lookup "code" rfl
      obtain ⟨n, code, rfl, hinteger⟩ := exists_code hcode
      exact ⟨code, .member hparse hvalue hinteger⟩
    · have hfields := hitems.forall₂ rfl nofun
      obtain _ | ⟨hstatus, _ | ⟨hmessage, _ | ⟨hreason, _ | ⟨hcode, _ | _⟩⟩⟩⟩ := hfields
      obtain ⟨s, rfl⟩ := Shape.admits_text hstatus
      obtain ⟨message, rfl⟩ := Shape.admits_text hmessage
      obtain ⟨reason, rfl⟩ := Shape.admits_text hreason
      obtain ⟨n, code, rfl, hinteger⟩ := exists_code hcode
      exact ⟨code, .item hparse hinteger⟩

theorem code_eq_iff {status code : Nat} {text : List Char} :
    (apiStatus status text).code = code ↔ CodeOf status text code := by
  refine ⟨?_, fun h => h.eq_code.symm⟩
  rintro rfl
  obtain ⟨code, h⟩ := exists_codeOf status text
  exact h.eq_code ▸ h

/-! ## The objects of a list -/

/-- The objects that the members of a list hold, in their order; null holds none. -/
inductive HoldsObjects {α : Type} (document : Document α) (members : List (String × Json)) :
    List α → Prop
  | null (h : lookup "items" members = some .null) : HoldsObjects document members []
  | array {items : List Json} (h : lookup "items" members = some (.array items)) :
      HoldsObjects document members (items.map document.take)

theorem HoldsObjects.eq_take {α : Type} {document : Document α} {members : List (String × Json)}
    {objects : List α} (h : HoldsObjects document members objects) :
    objects = document.list.take (.object members) := by
  cases h with
  | null h | array h =>
    rw [lookup] at h
    simp [Document.list, itemsOf, member?, h]

theorem holdsObjects_take {α : Type} {document : Document α} {members : List (String × Json)}
    (h : HasMembers schema [("metadata", .never, .resource "ListMeta"),
      ("items", .always, .nullable (.list document.shape))] members) :
    HoldsObjects document members (document.list.take (.object members)) := by
  have hholds : ∃ objects, HoldsObjects document members objects := by
    obtain ⟨value, hvalue, hadmits⟩ := h.exists_lookup "items" rfl
    obtain rfl | hlist := Shape.admits_nullable rfl hadmits
    · exact ⟨_, .null hvalue⟩
    · obtain ⟨items, rfl, -⟩ := Shape.admits_list hlist
      exact ⟨_, .array hvalue⟩
  obtain ⟨objects, hholds⟩ := hholds
  exact hholds.eq_take ▸ hholds

/-- A list is read from a text if it is the text of a record that holds its objects. -/
theorem read_list_eq_ok_iff {α : Type} {document : Document α} {text : List Char}
    {objects : List α} :
    document.list.read text = .ok objects ↔
      ∃ members, (listOf document.shape).parse schema text = .ok (.object members) ∧
        HoldsObjects document members objects := by
  rw [Document.read]
  change (Except.map _ ((listOf document.shape).parse schema text)) = _ ↔ _
  cases hparse : (listOf document.shape).parse schema text with
  | error fault => simp [Except.map]
  | ok value =>
    obtain ⟨members, rfl, hmembers⟩ := Shape.admits_openRecord (Shape.admits_of_parse hparse)
    simp only [Except.map, Except.ok.injEq, Json.object.injEq, exists_eq_left']
    constructor
    · rintro rfl
      exact holdsObjects_take hmembers
    · exact fun hholds => hholds.eq_take.symm

/-- The text of an object that has a list of items is read as that list, as long as each item is
accepted for itself. -/
theorem read_list_of_items {α : Type} {document : Document α} {text : List Char}
    {members : List (String × Json)} {items : List Json} (htext : IsTextOf text (.object members))
    (hnames : HasDistinctNames (.object members))
    (hitems : lookup "items" members = some (.array items))
    (hitem : ∀ item ∈ items, document.shape.Accepts schema (nestingLimit - 2) item)
    (hmetadata : ∀ value, lookup "metadata" members = some value →
      (Shape.resource "ListMeta").Accepts schema (nestingLimit - 1) value) :
    document.list.read text = .ok (items.map fun item => document.take item.sorted) := by
  have hfits : Fits schema (nestingLimit - 1) [("metadata", .never, .resource "ListMeta"),
      ("items", .always, .nullable (.list document.shape))] members := by
    refine ⟨hnames, List.forall_mem_cons.mpr ⟨hmetadata, List.forall_mem_singleton.mpr ?_⟩,
      by simp [hitems]⟩
    intro value hvalue
    cases hitems.symm.trans hvalue
    exact (Shape.accepts_list hitem).nullable rfl
  have haccepts : (listOf document.shape).Accepts schema nestingLimit (.object members) :=
    Shape.accepts_openRecord hfits
  have hparse := Shape.parse_of_accepts htext haccepts
  have hholds : HoldsObjects document (sortMembers (sortedMembers members))
      ((items.map sorted).map document.take) := by
    refine .array ?_
    rw [lookup_sorted hnames, hitems, Option.map_some, sorted, sortedItems_eq_map]
  rw [List.map_map] at hholds
  exact read_list_eq_ok_iff.mpr ⟨_, hparse, hholds⟩

/-! ## Answers -/

section Answers

variable {α : Type} {document : Document α} {status : Nat} {body : Utf8.Bytes}

/-- A document is read from a text that comes with a status other than those of failure. -/
theorem readAnswer_eq_ok_iff {value : α} :
    readAnswer document status body = .ok value ↔
      ∃ text, body = Utf8.encode text ∧ Web.isFailure status = false ∧
        document.read text = .ok value := by
  simp only [← Utf8.decode_eq_ok_iff]
  rw [readAnswer]
  cases Utf8.decode body with
  | error fault => simp
  | ok text => cases Web.isFailure status <;> cases hread : document.read text <;> simp [hread]

/-- A text that comes with a status of failure is a refusal, and nothing else is. -/
theorem readAnswer_eq_refused_iff {answer : ApiStatus} :
    readAnswer document status body = .error (.refused answer) ↔
      ∃ text, body = Utf8.encode text ∧ Web.isFailure status = true ∧
        apiStatus status text = answer := by
  simp only [← Utf8.decode_eq_ok_iff]
  rw [readAnswer]
  cases Utf8.decode body with
  | error fault => simp
  | ok text => cases Web.isFailure status <;> cases hread : document.read text <;> simp [hread]

theorem emptyIfUnknown_eq_ok_iff {reply : Except QueryFault (List α)} {objects : List α} :
    emptyIfUnknown reply = .ok objects ↔
      reply = .ok objects ∨
        (∃ answer, reply = .error (.api (.refused answer)) ∧ answer.code = 404) ∧ objects = [] := by
  unfold emptyIfUnknown
  split
  · rename_i answer
    by_cases hcode : answer.code = 404 <;> simp [hcode, eq_comm]
  · rename_i hrefused
    have hnone : ¬ ∃ answer, reply = .error (.api (.refused answer)) ∧ answer.code = 404 :=
      fun ⟨answer, hreply, _⟩ => hrefused answer hreply
    simp only [hnone, false_and, or_false]

/-- A failure that is not taken for an empty list stays as it is. -/
theorem emptyIfUnknown_eq_error {reply : Except QueryFault (List α)} {fault : QueryFault}
    (h : emptyIfUnknown reply = .error fault) : reply = .error fault := by
  unfold emptyIfUnknown at h
  split at h
  · split at h
    · cases h
    · exact h
  · exact h

end Answers

namespace ApiServer

variable {σ α : Type} {server : ApiServer σ} {s : σ} {q : ClusterQuery} {document : Document α}

/-- The request of a query is made, and no answer to it ever comes. -/
def KeepsSilent (server : ApiServer σ) (s : σ) (q : ClusterQuery) : Prop :=
  ∃ target, q.target = .ok target ∧ (server.network ⟨"GET", target⟩ s).1 = .silent

/-- The control plane answers a query, not with a status of failure, with the text of a list that
holds the objects. -/
def Lists (server : ApiServer σ) (s : σ) (q : ClusterQuery) (document : Document α)
    (objects : List α) : Prop :=
  ∃ status text members, server.Answers s q status (Utf8.encode text) ∧
    (status < 400 ∨ 599 < status) ∧
    (listOf document.shape).parse schema text = .ok (.object members) ∧
    HoldsObjects document members objects

/-- The control plane answers a query with a status of failure and a text that is taken for an
error object with the code of what is not found. -/
def Disowns (server : ApiServer σ) (s : σ) (q : ClusterQuery) : Prop :=
  ∃ status text, server.Answers s q status (Utf8.encode text) ∧ (400 ≤ status ∧ status ≤ 599) ∧
    CodeOf status text 404

theorem Answers.unique {status status' : Nat} {body body' : Utf8.Bytes}
    (h : server.Answers s q status body) (h' : server.Answers s q status' body') :
    status = status' ∧ body = body' := by
  obtain ⟨target, htarget, hdelivery⟩ := h
  obtain ⟨target', htarget', hdelivery'⟩ := h'
  obtain rfl : target = target' := Except.ok.inj (htarget.symm.trans htarget')
  exact Delivery.answered.inj (hdelivery.symm.trans hdelivery')

/-- What is read from an answer comes from an answer, and so does every refusal. -/
theorem fetch_eq_iff {reply : Except ApiFault α}
    (hreply : ∀ fault, reply = .error fault → ∃ answer, fault = .refused answer) :
    (server.fetch document q s).1 = reply.mapError .api ↔
      ∃ status body, server.Answers s q status body ∧ readAnswer document status body = reply := by
  simp only [Answers]
  cases htarget : q.target with
  | error fault =>
    rw [fetch_of_unsent htarget]
    -- A request that cannot be made fails too, but never as a refusal.
    cases reply with
    | ok value => simp [Except.mapError]
    | error other =>
      obtain ⟨answer, rfl⟩ := hreply other rfl
      have hother : fault ≠ .refused answer := by
        rintro rfl
        exact q.target_ne_refused answer htarget
      simpa [Except.mapError] using hother
  | ok target =>
    rw [fetch_of_target htarget]
    cases hdelivery : (server.network ⟨"GET", target⟩ s).1 with
    | silent => cases reply <;> simp [received, hdelivery, Except.mapError]
    | failed reason =>
      cases reply with
      | ok value => simp [received, hdelivery, Except.mapError]
      | error other =>
        obtain ⟨answer, rfl⟩ := hreply other rfl
        simp [received, hdelivery, Except.mapError]
    | answered status body =>
      cases hread : readAnswer document status body <;> cases reply <;>
        simp [received, hdelivery, hread, Except.mapError]

theorem fetch_eq_timeout_iff {seconds : Nat} :
    (server.fetch document q s).1 = .error (.timeout seconds) ↔
      server.KeepsSilent s q ∧ seconds = server.timeoutMilliseconds / 1000 := by
  simp only [KeepsSilent]
  cases htarget : q.target with
  | error fault =>
    rw [fetch_of_unsent htarget]
    simp
  | ok target =>
    rw [fetch_of_target htarget]
    cases hdelivery : (server.network ⟨"GET", target⟩ s).1 with
    | silent => simp [received, hdelivery, eq_comm]
    | failed reason => simp [received, hdelivery]
    | answered status body =>
      cases hread : readAnswer document status body <;>
        simp [received, hdelivery, hread, Except.mapError]

/-- An answer that is a text. -/
theorem answers_text_iff {status : Nat} {P : List Char → Prop} :
    (∃ body, server.Answers s q status body ∧ ∃ text, body = Utf8.encode text ∧ P text) ↔
      ∃ text, server.Answers s q status (Utf8.encode text) ∧ P text := by
  constructor
  · rintro ⟨_, hanswers, text, rfl, htext⟩
    exact ⟨text, hanswers, htext⟩
  · rintro ⟨text, hanswers, htext⟩
    exact ⟨_, hanswers, text, rfl, htext⟩

theorem fetch_eq_ok_iff {value : α} :
    (server.fetch document q s).1 = .ok value ↔
      ∃ status text, server.Answers s q status (Utf8.encode text) ∧
        Web.isFailure status = false ∧ document.read text = .ok value := by
  refine (@fetch_eq_iff σ α server s q document (.ok value) nofun).trans ?_
  simp only [readAnswer_eq_ok_iff, answers_text_iff]

theorem fetch_eq_refused_iff {answer : ApiStatus} :
    (server.fetch document q s).1 = .error (.api (.refused answer)) ↔
      ∃ status text, server.Answers s q status (Utf8.encode text) ∧
        Web.isFailure status = true ∧ apiStatus status text = answer := by
  refine (@fetch_eq_iff σ α server s q document (.error (.refused answer)) (by simp)).trans ?_
  simp only [readAnswer_eq_refused_iff, answers_text_iff]

theorem list_eq_ok_iff {objects : List α} :
    (server.list document q s).1 = .ok objects ↔
      server.Lists s q document objects ∨ server.Disowns s q ∧ objects = [] := by
  have hlists : (server.fetch document.list q s).1 = .ok objects ↔
      server.Lists s q document objects := by
    simp only [fetch_eq_ok_iff, read_list_eq_ok_iff, Web.isFailure_eq_false_iff, Lists,
      exists_and_left]
  have hdisowns : (∃ answer,
      (server.fetch document.list q s).1 = .error (.api (.refused answer)) ∧
        answer.code = 404) ↔ server.Disowns s q := by
    simp only [fetch_eq_refused_iff, Web.isFailure_iff, Disowns, ← code_eq_iff]
    constructor
    · rintro ⟨_, ⟨status, text, hanswers, hstatus, rfl⟩, hcode⟩
      exact ⟨status, text, hanswers, hstatus, hcode⟩
    · rintro ⟨status, text, hanswers, hstatus, hcode⟩
      exact ⟨_, ⟨status, text, hanswers, hstatus, rfl⟩, hcode⟩
  rw [list_eq, emptyIfUnknown_eq_ok_iff, hlists, hdisowns]

theorem list_eq_timeout_iff {seconds : Nat} :
    (server.list document q s).1 = .error (.timeout seconds) ↔
      server.KeepsSilent s q ∧ seconds = server.timeoutMilliseconds / 1000 := by
  rw [← @fetch_eq_timeout_iff σ _ server s q document.list]
  refine ⟨emptyIfUnknown_eq_error, fun h => ?_⟩
  rw [list_eq, h]
  rfl

/-- A list that fails was not answered in time, or it is the exchange that failed. -/
theorem fault_of_list {fault : QueryFault} (h : (server.list document q s).1 = .error fault) :
    (∃ seconds, fault = .timeout seconds) ∨ ∃ cause, fault = .api cause := by
  have hfetch : (server.fetch document.list q s).1 = .error fault := emptyIfUnknown_eq_error h
  cases htarget : q.target with
  | error cause =>
    rw [fetch_of_unsent htarget] at hfetch
    exact .inr ⟨cause, (Except.error.inj hfetch).symm⟩
  | ok target =>
    rw [fetch_of_target htarget] at hfetch
    dsimp only at hfetch
    unfold received at hfetch
    split at hfetch
    · exact .inl ⟨_, (Except.error.inj hfetch).symm⟩
    · exact .inr ⟨_, (Except.error.inj hfetch).symm⟩
    · rename_i status body _
      cases hread : readAnswer document.list status body with
      | ok objects => simp [hread, Except.mapError] at hfetch
      | error cause =>
        rw [hread] at hfetch
        exact .inr ⟨cause, (Except.error.inj hfetch).symm⟩

/-- What comes back when all objects of a kind are asked for, whatever the control plane does. -/
structure TellsList (server : ApiServer σ) (s : σ) (q : ClusterQuery) (document : Document α)
    (reply : Except QueryFault (List α)) : Prop where
  ok_iff : ∀ objects, reply = .ok objects ↔
    server.Lists s q document objects ∨ server.Disowns s q ∧ objects = []
  timeout_iff : ∀ seconds, reply = .error (.timeout seconds) ↔
    server.KeepsSilent s q ∧ seconds = server.timeoutMilliseconds / 1000
  api_iff : (∃ fault, reply = .error (.api fault)) ↔
    ¬ server.KeepsSilent s q ∧ ¬ server.Disowns s q ∧
      ∀ objects, ¬ server.Lists s q document objects
  /-- The items of an answer are the objects, one by one, if each is accepted for itself. -/
  listed : ∀ status text members items, server.Answers s q status (Utf8.encode text) →
    (status < 400 ∨ 599 < status) → IsTextOf text (.object members) →
    HasDistinctNames (.object members) → lookup "items" members = some (.array items) →
    (∀ item ∈ items, document.shape.Accepts schema (nestingLimit - 2) item) →
    (∀ value, lookup "metadata" members = some value →
      (Shape.resource "ListMeta").Accepts schema (nestingLimit - 1) value) →
    reply = .ok (items.map fun item => document.take item.sorted)
  /-- No answer both holds objects and is taken for none. -/
  not_lists : server.Disowns s q → ∀ objects, ¬ server.Lists s q document objects

theorem tellsList_list : server.TellsList s q document (server.list document q s).1 where
  ok_iff _ := list_eq_ok_iff
  timeout_iff _ := list_eq_timeout_iff
  api_iff := by
    constructor
    · rintro ⟨fault, hfault⟩
      refine ⟨fun hsilent => ?_, fun hdisowns => ?_, fun objects hlists => ?_⟩
      · have hreply : (server.list document q s).1 = .error (.timeout _) :=
          list_eq_timeout_iff.mpr ⟨hsilent, rfl⟩
        simp [hfault] at hreply
      · have hreply : (server.list document q s).1 = .ok [] :=
          list_eq_ok_iff.mpr (.inr ⟨hdisowns, rfl⟩)
        simp [hfault] at hreply
      · have hreply : (server.list document q s).1 = .ok objects :=
          list_eq_ok_iff.mpr (.inl hlists)
        simp [hfault] at hreply
    · rintro ⟨hsilent, hdisowns, hlists⟩
      cases hreply : (server.list document q s).1 with
      | ok objects =>
        obtain h | h := list_eq_ok_iff.mp hreply
        · exact absurd h (hlists objects)
        · exact absurd h.1 hdisowns
      | error fault =>
        obtain ⟨seconds, rfl⟩ | ⟨cause, rfl⟩ := fault_of_list hreply
        · exact absurd (list_eq_timeout_iff.mp hreply).1 hsilent
        · exact ⟨cause, rfl⟩
  listed := by
    intro status text members items hanswers hstatus htext hnames hitems hitem hmetadata
    have hread := read_list_of_items htext hnames hitems hitem hmetadata
    obtain ⟨members, hparse, hholds⟩ := read_list_eq_ok_iff.mp hread
    exact list_eq_ok_iff.mpr (.inl ⟨status, text, members, hanswers, hstatus, hparse, hholds⟩)
  not_lists := by
    rintro ⟨status, text, hanswers, hfailure, -⟩ objects ⟨other, _, _, hanswers', hsuccess, -⟩
    obtain ⟨rfl, -⟩ := hanswers.unique hanswers'
    omega

/-- The reply to a query is what comes back when all objects of its kind are asked for. -/
def TellsAll (server : ApiServer σ) (s : σ) : (q : ClusterQuery) → q.Reply → Prop
  | .nodes, reply => server.TellsList s .nodes .node reply
  | .pods ns selector, reply => server.TellsList s (.pods ns selector) .pod reply
  | .definitions, reply => server.TellsList s .definitions .definition reply
  | .customObjects kind, reply => server.TellsList s (.customObjects kind) .custom reply
  | .drivers, reply => server.TellsList s .drivers .driver reply
  | .storageClasses, reply => server.TellsList s .storageClasses .storageClass reply
  | .version, _ | .namespaceNamed _, _ | .secret _ _, _ => False

/-- Every list is told as the control plane has it, and none is empty because it failed. -/
theorem list_is_never_disguised (server : ApiServer σ) (s : σ) {q : ClusterQuery}
    (hlist : q.IsList) : server.TellsAll s q (server.controlPlane q s).1 := by
  cases q with
  | nodes | pods _ _ | definitions | customObjects _ | drivers | storageClasses =>
    exact tellsList_list
  | version | namespaceNamed _ | secret _ _ => exact hlist.elim

/-- Two nodes are listed in the order of the answer, and a plain text with a status of 404 is an
empty list. -/
theorem list_is_never_disguised_nodes :
    let text := r#"{"items":[{"metadata":{"name":"b"}},{}]}"#
    let listing := answering 200 text
    let plain := answering 404 "404 page not found\n"
    ClusterQuery.nodes.IsList ∧
      (listing.controlPlane .nodes ()).1 = .ok [⟨{ name := some "b" }, none⟩, ⟨{}, none⟩] ∧
      (plain.controlPlane .nodes ()).1 = .ok [] := by
  intro text listing plain
  have hnodes : ClusterQuery.nodes.IsList := trivial
  have hlisting : listing.TellsList () .nodes .node (listing.controlPlane .nodes ()).1 :=
    list_is_never_disguised listing () hnodes
  have hplain : plain.TellsList () .nodes .node (plain.controlPlane .nodes ()).1 :=
    list_is_never_disguised plain () hnodes
  have htarget : ClusterQuery.nodes.target = .ok "/api/v1/nodes?" := rfl
  refine ⟨hnodes, (hlisting.ok_iff _).mpr (.inl ?_), (hplain.ok_iff _).mpr (.inr ⟨?_, rfl⟩)⟩
  · have hread : (Document.node.list.read text.toList).toOption =
        some [⟨{ name := some "b" }, none⟩, ⟨{}, none⟩] := by decide +kernel
    obtain ⟨members, hparse, hholds⟩ := read_list_eq_ok_iff.mp (eq_ok_of_toOption hread)
    exact ⟨200, _, members, answers_answering htarget 200 _, .inl (by decide), hparse, hholds⟩
  · have hcode : (apiStatus 404 "404 page not found\n".toList).code = 404 := by decide +kernel
    exact ⟨404, _, answers_answering htarget 404 _, by decide, code_eq_iff.mp hcode⟩

/-- A list of pods is none if a volume in it is of the wrong type, which no check looks at. -/
example :
    ((answering 200 r#"{"items":[{"spec":{"volumes":[{"iscsi":5}]}}]}"#).list .pod
      (.pods none none) ()).1 = .error (.api (.undecodable
        "invalid type: integer `5`, expected ISCSIVolumeSource at line 1 column 40")) := by
  decide +kernel

/-- Outside the statuses from 400 to 599 an error object with the code of what is not found is no
list, and a list is one; and bytes that are no text are no error object, whatever the status. -/
theorem disowning_ends_at_599 :
    let text := r#"{"status":"Failure","code":404}"#
    let disowning := answering 600 text
    let listing := answering 600 r#"{"items":[{}]}"#
    let bytes := answeringBytes 404 [0xff]
    (disowning.Answers () .nodes 600 (Utf8.encode text.toList) ∧ CodeOf 600 text.toList 404 ∧
      (disowning.controlPlane .nodes ()).1 =
        .error (.api (.undecodable "missing field `items` at line 1 column 31"))) ∧
    (listing.controlPlane .nodes ()).1 = .ok [⟨{}, none⟩] ∧
    (bytes.Answers () .nodes 404 [0xff] ∧
      (bytes.controlPlane .nodes ()).1 = .error (.api (.notUtf8 ⟨0, some 1⟩))) := by
  intro text disowning listing bytes
  have htarget : ClusterQuery.nodes.target = .ok "/api/v1/nodes?" := rfl
  have hcode : (apiStatus 600 text.toList).code = 404 := by decide +kernel
  have hdisowning : (disowning.list .node .nodes ()).1 =
      .error (.api (.undecodable "missing field `items` at line 1 column 31")) := by
    decide +kernel
  have hlisting : (listing.list .node .nodes ()).1 = .ok [⟨{}, none⟩] := by decide +kernel
  have hbytes : (bytes.list .node .nodes ()).1 = .error (.api (.notUtf8 ⟨0, some 1⟩)) := by
    decide +kernel
  exact ⟨⟨answers_answering htarget 600 _, code_eq_iff.mp hcode, hdisowning⟩, hlisting,
    ⟨_, htarget, rfl⟩, hbytes⟩

end ApiServer

end ClusterAudit
