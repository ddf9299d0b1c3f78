-- SUMMARY: Which failures of a control plane are taken for the answer that there is nothing.
import ClusterAudit.Cluster.Server
import ClusterAudit.Proofs.Utf8

/-!
# Nothing found

An answer that says failure stands for an error object: the one in its body, or one that is
made up for a body which holds none. From there on the status of the answer is forgotten. A list
goes by the code of the object and a look-up by its reason, so the two agree on an answer only
where its code and its reason do, and a body that is no error object has no reason to go by.
-/

namespace ClusterAudit

/-! ## Queries -/

namespace ClusterQuery

/-- The question is for all objects of a kind. -/
def IsList : ClusterQuery → Prop
  | .nodes | .pods _ _ | .definitions | .customObjects _ | .drivers | .storageClasses => True
  | .version | .namespaceNamed _ | .secret _ _ => False

/-- The question is for one object by its name. -/
def IsLookUp : ClusterQuery → Prop
  | .namespaceNamed _ | .secret _ _ => True
  | _ => False

/-- The reply is that there is nothing: an empty list, or no object. -/
def SaysNothing : (q : ClusterQuery) → q.Reply → Prop
  | .version, _ => False
  | .nodes, reply => reply = .ok []
  | .namespaceNamed _, reply => reply = .ok none
  | .pods _ _, reply => reply = .ok []
  | .definitions, reply => reply = .ok []
  | .customObjects _, reply => reply = .ok []
  | .drivers, reply => reply = .ok []
  | .storageClasses, reply => reply = .ok []
  | .secret _ _, reply => reply = .ok none

end ClusterQuery

/-! ## Refusals -/

/-- The error object for which an answer that says failure is taken, if its body is a text. -/
def refusal (status : Nat) (body : Utf8.Bytes) : Except Utf8.Fault ApiStatus :=
  (Utf8.decode body).map (apiStatus status)

theorem refusal_encode (status : Nat) (text : List Char) :
    refusal status (Utf8.encode text) = .ok (apiStatus status text) := by
  rw [refusal, Utf8.decode_encode]
  rfl

/-- A text that is no error object stands for one with the status as its code, and without a
reason that says anything about the object asked for. -/
theorem apiStatus_of_parse_error {status : Nat} {text : List Char} {fault : Json.DecodeFault}
    (h : apiStatusShape.parse (fun _ => []) text = .error fault) :
    apiStatus status text =
      ⟨Web.statusText status, Text.quoted (String.ofList text), "Failed to parse error data",
        status⟩ := by
  simp only [apiStatus, h]

namespace ApiServer

variable {σ α : Type} {server : ApiServer σ} {s s' : σ} {status : Nat} {body : Utf8.Bytes}

/-! ## Requests -/

/-- A query with a target is one request, and what becomes of that decides. -/
theorem fetch_of_target {q : ClusterQuery} {target : String} (htarget : q.target = .ok target)
    (server : ApiServer σ) (document : Resource.Document α) (s : σ) :
    server.fetch document q s =
      (received document server.timeoutMilliseconds (server.network ⟨"GET", target⟩ s).1,
        (server.network ⟨"GET", target⟩ s).2) := by
  simp only [fetch, htarget]
  rfl

theorem fetch_of_unsent {q : ClusterQuery} {fault : ApiFault} (htarget : q.target = .error fault)
    (server : ApiServer σ) (document : Resource.Document α) (s : σ) :
    server.fetch document q s = (.error (.api fault), s) := by
  simp only [fetch, htarget]
  rfl

theorem list_eq (server : ApiServer σ) (document : Resource.Document α) (q : ClusterQuery)
    (s : σ) :
    server.list document q s =
      (emptyIfUnknown (server.fetch document.list q s).1, (server.fetch document.list q s).2) :=
  rfl

theorem get_eq (server : ApiServer σ) (document : Resource.Document α) (q : ClusterQuery)
    (s : σ) :
    server.get document q s =
      (noneIfUnknown (server.fetch document q s).1, (server.fetch document q s).2) :=
  rfl

/-! ## Failures -/

/-- The control plane answers the request of a query with a status and a body. -/
def Answers (server : ApiServer σ) (s : σ) (q : ClusterQuery) (status : Nat)
    (body : Utf8.Bytes) : Prop :=
  ∃ target, q.target = .ok target ∧
    (server.network ⟨"GET", target⟩ s).1 = .answered status body

/-- An answer that says failure brings no document, whichever was asked for. -/
theorem fetch_of_failure {q : ClusterQuery} (h : server.Answers s q status body)
    (hfail : Web.isFailure status = true) (document : Resource.Document α) :
    (server.fetch document q s).1 =
      match refusal status body with
      | .ok answer => .error (.api (.refused answer))
      | .error fault => .error (.api (.notUtf8 fault)) := by
  obtain ⟨target, htarget, hdelivery⟩ := h
  simp only [fetch_of_target htarget, hdelivery, received, readAnswer, refusal]
  cases Utf8.decode body with
  | error fault => rfl
  | ok text =>
    simp only [hfail, if_true]
    rfl

/-- A list that is refused is empty by the code of the error object, or it fails. -/
theorem list_of_failure {q : ClusterQuery} (h : server.Answers s q status body)
    (hfail : Web.isFailure status = true) (document : Resource.Document α) :
    ((server.list document q s).1 = .ok [] ↔
      ∃ answer, refusal status body = .ok answer ∧ answer.code = 404) ∧
    ((server.list document q s).1.isOk = true ↔ (server.list document q s).1 = .ok []) := by
  rw [list_eq, fetch_of_failure h hfail]
  cases refusal status body with
  | error fault => simp [emptyIfUnknown, Except.isOk, Except.toBool]
  | ok answer =>
    by_cases hcode : answer.code = 404 <;> simp [emptyIfUnknown, Except.isOk, Except.toBool, hcode]

/-- An object that is refused is none by the reason of the error object, or the look-up fails. -/
theorem get_of_failure {q : ClusterQuery} (h : server.Answers s q status body)
    (hfail : Web.isFailure status = true) (document : Resource.Document α) :
    ((server.get document q s).1 = .ok none ↔
      ∃ answer, refusal status body = .ok answer ∧ answer.reason = "NotFound") ∧
    ((server.get document q s).1.isOk = true ↔ (server.get document q s).1 = .ok none) := by
  rw [get_eq, fetch_of_failure h hfail]
  cases refusal status body with
  | error fault => simp [noneIfUnknown, Except.isOk, Except.toBool]
  | ok answer =>
    by_cases hreason : answer.reason = "NotFound" <;>
      simp [noneIfUnknown, Except.isOk, Except.toBool, hreason]

/-! ## Both kinds of queries -/

theorem controlPlane_list_of_failure {q : ClusterQuery} (hlist : q.IsList)
    (h : server.Answers s q status body) (hfail : Web.isFailure status = true) :
    (q.SaysNothing (server.controlPlane q s).1 ↔
      ∃ answer, refusal status body = .ok answer ∧ answer.code = 404) ∧
    ((server.controlPlane q s).1.isOk = true ↔ q.SaysNothing (server.controlPlane q s).1) := by
  cases q with
  | nodes | pods _ _ | definitions | customObjects _ | drivers | storageClasses =>
    exact list_of_failure h hfail _
  | version | namespaceNamed _ | secret _ _ => exact hlist.elim

theorem controlPlane_lookUp_of_failure {q : ClusterQuery} (hlookUp : q.IsLookUp)
    (h : server.Answers s q status body) (hfail : Web.isFailure status = true) :
    (q.SaysNothing (server.controlPlane q s).1 ↔
      ∃ answer, refusal status body = .ok answer ∧ answer.reason = "NotFound") ∧
    ((server.controlPlane q s).1.isOk = true ↔ q.SaysNothing (server.controlPlane q s).1) := by
  cases q with
  | namespaceNamed _ | secret _ _ => exact get_of_failure h hfail _
  | _ => exact hlookUp.elim

/-- How the replies to a list and to a look-up take the same answer that says failure: by the error
object alone. They agree exactly on those answers whose object has both the code and the reason of
what is not found, or neither, or whose body is no text at all; where the body is no error object,
only a list can take the answer for nothing. -/
structure TakesForNothing {list lookUp : ClusterQuery} (status : Nat) (body : Utf8.Bytes)
    (listed : list.Reply) (found : lookUp.Reply) : Prop where
  list_iff : list.SaysNothing listed ↔
    ∃ answer, refusal status body = .ok answer ∧ answer.code = 404
  lookUp_iff : lookUp.SaysNothing found ↔
    ∃ answer, refusal status body = .ok answer ∧ answer.reason = "NotFound"
  list_fails_iff : listed.isOk = false ↔ ¬ list.SaysNothing listed
  lookUp_fails_iff : found.isOk = false ↔ ¬ lookUp.SaysNothing found
  agree_iff : listed.isOk = found.isOk ↔
    ∀ answer, refusal status body = .ok answer → (answer.code = 404 ↔ answer.reason = "NotFound")
  /-- A text that is no error object. -/
  unreadable : ∀ text fault, Utf8.decode body = .ok text →
    apiStatusShape.parse (fun _ => []) text = .error fault →
    (list.SaysNothing listed ↔ status = 404) ∧ found.isOk = false

/-- Every list and every look-up take an answer that says failure by its error object, in whatever
states of the world they are asked. -/
theorem not_found_is_told_by_object {list lookUp : ClusterQuery} (hlist : list.IsList)
    (hlookUp : lookUp.IsLookUp) (h : server.Answers s list status body)
    (h' : server.Answers s' lookUp status body) (hfail : Web.isFailure status = true) :
    TakesForNothing status body (server.controlPlane list s).1
      (server.controlPlane lookUp s').1 := by
  obtain ⟨hnothing, hok⟩ := controlPlane_list_of_failure hlist h hfail
  obtain ⟨hnothing', hok'⟩ := controlPlane_lookUp_of_failure hlookUp h' hfail
  have hfails : (server.controlPlane lookUp s').1.isOk = false ↔
      ¬ lookUp.SaysNothing (server.controlPlane lookUp s').1 := by
    rw [← hok', Bool.not_eq_true]
  refine ⟨hnothing, hnothing', by rw [← hok, Bool.not_eq_true], hfails, ?_, ?_⟩
  · rw [Bool.eq_iff_iff, hok, hok', hnothing, hnothing']
    cases refusal status body with
    | error fault => simp
    | ok answer => simp
  · intro text fault htext hparse
    have hobject : apiStatus status text = _ := apiStatus_of_parse_error hparse
    have hrefusal : refusal status body = .ok (apiStatus status text) := by
      rw [refusal, htext]
      rfl
    rw [hobject] at hrefusal
    rw [hfails, hnothing, hnothing', hrefusal]
    simp

/-! ## One answer to all requests -/

/-- A control plane that answers every request with a status and bytes. -/
def answeringBytes (status : Nat) (body : Utf8.Bytes) : ApiServer Unit :=
  ⟨fun _ => return .answered status body, 30000⟩

/-- A control plane that answers every request with a status and a text. -/
def answering (status : Nat) (text : String) : ApiServer Unit :=
  answeringBytes status (Utf8.encode text.toList)

theorem answers_answering {q : ClusterQuery} {target : String} (h : q.target = .ok target)
    (status : Nat) (text : String) :
    (answering status text).Answers () q status (Utf8.encode text.toList) :=
  ⟨target, h, rfl⟩

theorem fetch_answering {q : ClusterQuery} {target : String} (h : q.target = .ok target)
    (hfail : Web.isFailure status = true) {text : String} {answer : ApiStatus}
    (hanswer : apiStatus status text.toList = answer) (document : Resource.Document α) :
    ((answering status text).fetch document q ()).1 = .error (.api (.refused answer)) := by
  rw [fetch_of_failure (answers_answering h status text) hfail, refusal_encode, hanswer]

theorem list_answering {q : ClusterQuery} {target : String} (h : q.target = .ok target)
    (hfail : Web.isFailure status = true) {text : String} {answer : ApiStatus}
    (hanswer : apiStatus status text.toList = answer) (document : Resource.Document α) :
    ((answering status text).list document q ()).1 =
      if answer.code = 404 then .ok [] else .error (.api (.refused answer)) := by
  rw [list_eq, fetch_answering h hfail hanswer]
  rfl

theorem get_answering {q : ClusterQuery} {target : String} (h : q.target = .ok target)
    (hfail : Web.isFailure status = true) {text : String} {answer : ApiStatus}
    (hanswer : apiStatus status text.toList = answer) (document : Resource.Document α) :
    ((answering status text).get document q ()).1 =
      if answer.reason = "NotFound" then .ok none else .error (.api (.refused answer)) := by
  rw [get_eq, fetch_answering h hfail hanswer]
  rfl

/-- The error object of what is not found: a list of nodes is empty, and a secret is none. -/
theorem not_found_is_told_by_object_complete :
    let text := r#"{"status":"Failure","reason":"NotFound","code":404}"#
    let server := answering 404 text
    Web.isFailure 404 = true ∧ server.Answers () .nodes 404 (Utf8.encode text.toList) ∧
      server.Answers () (.secret "ns" "creds") 404 (Utf8.encode text.toList) ∧
      (server.controlPlane .nodes ()).1 = .ok [] ∧
      (server.controlPlane (.secret "ns" "creds") ()).1 = .ok none := by
  intro text server
  have hnodesTarget : ClusterQuery.nodes.target = .ok "/api/v1/nodes?" := rfl
  have hsecretTarget : (ClusterQuery.secret "ns" "creds").target =
      .ok "/api/v1/namespaces/ns/secrets/creds" := rfl
  have hlist : server.Answers () .nodes 404 (Utf8.encode text.toList) :=
    answers_answering hnodesTarget 404 text
  have hlookUp : server.Answers () (.secret "ns" "creds") 404 (Utf8.encode text.toList) :=
    answers_answering hsecretTarget 404 text
  have hobject : apiStatus 404 text.toList = ⟨"Failure", "", "NotFound", 404⟩ := by decide +kernel
  have hrefusal := refusal_encode 404 text.toList
  rw [hobject] at hrefusal
  have hnodes : ClusterQuery.nodes.IsList := trivial
  have hsecret : (ClusterQuery.secret "ns" "creds").IsLookUp := trivial
  have htaken := not_found_is_told_by_object hnodes hsecret hlist hlookUp rfl
  exact ⟨rfl, hlist, hlookUp, htaken.list_iff.mpr ⟨_, hrefusal, rfl⟩,
    htaken.lookUp_iff.mpr ⟨_, hrefusal, rfl⟩⟩

/-- An answer of 404 that is no error object makes a list of pods empty and the look-up of a
namespace fail; one whose body has another code makes a list fail and a look-up none; and the code
of 404 in the body of another answer makes a list empty. -/
theorem not_found_is_not_uniform :
    let plain := (answering 404 "404 page not found\n").controlPlane
    let coded := (answering 404
      r#"{"status":"Failure","reason":"NotFound","code":500}"#).controlPlane
    let forbidden := (answering 403
      r#"{"status":"Failure","reason":"Forbidden","code":404}"#).controlPlane
    ((plain (.pods (some "x") none) ()).1 = .ok [] ∧
      (plain (.namespaceNamed "x") ()).1 = .error (.api (.refused
        ⟨"404 Not Found", "\"404 page not found\\n\"", "Failed to parse error data", 404⟩))) ∧
    ((coded .nodes ()).1 = .error (.api (.refused ⟨"Failure", "", "NotFound", 500⟩)) ∧
      (coded (.namespaceNamed "x") ()).1 = .ok none) ∧
    ((forbidden .nodes ()).1 = .ok [] ∧
      (forbidden (.namespaceNamed "x") ()).1 =
        .error (.api (.refused ⟨"Failure", "", "Forbidden", 404⟩))) := by
  intro plain coded forbidden
  have hpods : (ClusterQuery.pods (some "x") none).target = .ok "/api/v1/namespaces/x/pods?" := rfl
  have hnodes : ClusterQuery.nodes.target = .ok "/api/v1/nodes?" := rfl
  have hns : (ClusterQuery.namespaceNamed "x").target = .ok "/api/v1/namespaces/x" := rfl
  have hplain : apiStatus 404 "404 page not found\n".toList =
      ⟨"404 Not Found", "\"404 page not found\\n\"", "Failed to parse error data", 404⟩ := by
    decide +kernel
  have hcoded : apiStatus 404
      r#"{"status":"Failure","reason":"NotFound","code":500}"#.toList =
        ⟨"Failure", "", "NotFound", 500⟩ := by decide +kernel
  have hforbidden : apiStatus 403
      r#"{"status":"Failure","reason":"Forbidden","code":404}"#.toList =
        ⟨"Failure", "", "Forbidden", 404⟩ := by decide +kernel
  refine ⟨⟨?_, ?_⟩, ⟨?_, ?_⟩, ?_, ?_⟩
  · exact (list_answering hpods rfl hplain _).trans (if_pos rfl)
  · exact (get_answering hns rfl hplain _).trans (if_neg (by decide))
  · exact (list_answering hnodes rfl hcoded _).trans (if_neg (by decide))
  · exact (get_answering hns rfl hcoded _).trans (if_pos rfl)
  · exact (list_answering hnodes rfl hforbidden _).trans (if_pos rfl)
  · exact (get_answering hns rfl hforbidden _).trans (if_neg (by decide))

end ApiServer

end ClusterAudit
