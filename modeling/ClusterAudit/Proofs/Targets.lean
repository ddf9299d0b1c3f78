-- SUMMARY: The target of a query for pods says which pods are asked for, and nothing else does.
import ClusterAudit.Proofs.Form
import ClusterAudit.Proofs.NotFound
import ClusterAudit.Proofs.Recording
import Mathlib.Data.List.TakeWhile
import Mathlib.Tactic.SplitIfs

/-!
# Targets of queries for pods

The namespace of the pods goes into the path of a target as it is, and the selector into its query
as a form. Neither can get out of its place: no character of a namespace ends a path, and a form is
written without the marks that mean something in a query. So the target can be sent if it is not too
long, and it is read back as the namespace and the selector that it was made of. Hence different
queries have different targets.
-/

namespace ClusterAudit

/-! ## Characters -/

namespace Web

/-- What stands behind the first question mark of a target. -/
def targetQuery (target : String) : List Char := (splitOnce '?' target.toList).2

theorem isPathChar_ne {c : Char} (h : isPathChar c = true) : c ≠ '?' ∧ c ≠ '#' := by
  refine ⟨?_, ?_⟩
  · rintro rfl
    revert h
    decide
  · rintro rfl
    revert h
    decide

theorem isQueryChar_ne {c : Char} (h : isQueryChar c = true) : c ≠ '#' := by
  rintro rfl
  revert h
  decide

theorem isAlphanum_iff {c : Char} : c.isAlphanum = true ↔
    (0x41 ≤ c.toNat ∧ c.toNat ≤ 0x5a) ∨ (0x61 ≤ c.toNat ∧ c.toNat ≤ 0x7a) ∨
      (0x30 ≤ c.toNat ∧ c.toNat ≤ 0x39) := by
  have hranges : c.isAlphanum =
      (decide (0x41 ≤ c.val ∧ c.val ≤ 0x5a)
        || decide (0x61 ≤ c.val) && decide (c.val ≤ 0x7a)
        || decide (0x30 ≤ c.val) && decide (c.val ≤ 0x39)) := rfl
  simp only [hranges, Bool.or_eq_true, Bool.and_eq_true, decide_eq_true_eq,
    UInt32.le_iff_toNat_le, or_assoc]
  rfl

theorem isQueryChar_of_isFormPlain {c : Char} (h : isFormPlain c = true) :
    isQueryChar c = true := by
  simp only [isFormPlain, Bool.or_eq_true, isAlphanum_iff] at h
  obtain halphanum | hmark := h
  · simp only [isQueryChar, Bool.or_eq_true, Bool.and_eq_true, beq_iff_eq, decide_eq_true_eq]
    omega
  · simp only [isOneOf, List.contains_iff_mem, List.mem_cons, List.not_mem_nil, or_false] at hmark
    obtain rfl | rfl | rfl | rfl := hmark <;> decide

theorem isQueryChar_of_mem_formText {cs : List Char} {c : Char} (h : c ∈ formText cs) :
    isQueryChar c = true := by
  obtain ⟨d, -, hd⟩ := List.mem_flatMap.mp h
  obtain rfl | rfl | hplain := mem_formChar hd
  · decide
  · decide
  · exact isQueryChar_of_isFormPlain hplain

theorem isQueryChar_of_mem_formPair {pair : String × String} {c : Char} (h : c ∈ formPair pair) :
    isQueryChar c = true := by
  rw [formPair, List.mem_append, List.mem_cons] at h
  obtain hname | rfl | hvalue := h
  · exact isQueryChar_of_mem_formText hname
  · decide
  · exact isQueryChar_of_mem_formText hvalue

/-! ## Targets in two parts -/

variable {path query : List Char}

/-- A path and a query of characters that may be sent there are sent as they are. -/
theorem sentPart?_append (hpath : ∀ c ∈ path, isPathChar c = true)
    (hquery : ∀ c ∈ query, isQueryChar c = true) :
    sentPart? (path ++ '?' :: query) = some (path ++ '?' :: query) := by
  have hsent : (path ++ '?' :: query).takeWhile (· != '#') = path ++ '?' :: query := by
    refine List.takeWhile_eq_self_iff.mpr fun c hc => bne_iff_ne.mpr ?_
    obtain hc | rfl | hc := (List.mem_append.trans (or_congr_right List.mem_cons)).mp hc
    · exact (isPathChar_ne (hpath c hc)).2
    · decide
    · exact isQueryChar_ne (hquery c hc)
  have hmark : '?' ∉ path := fun hmem => (isPathChar_ne (hpath _ hmem)).1 rfl
  have hfront : (path ++ '?' :: query).takeWhile (· != '?') = path :=
    congrArg Prod.fst (splitOnce_append hmark query)
  have hback : (path ++ '?' :: query).drop (path.length + 1) = query := by
    rw [List.drop_append, List.drop_eq_nil_of_le (Nat.le_succ _)]
    simp
  simp only [sentPart?, hsent, hfront, hback, List.all_eq_true.mpr hpath,
    List.all_eq_true.mpr hquery, Bool.and_self, if_true]

theorem targetPath_append {target : String} (h : target.toList = path ++ '?' :: query)
    (hmark : '?' ∉ path) : targetPath target = String.ofList path := by
  rw [targetPath, h]
  exact congrArg (fun parts => String.ofList parts.1) (splitOnce_append hmark query)

theorem targetQuery_append {target : String} (h : target.toList = path ++ '?' :: query)
    (hmark : '?' ∉ path) : targetQuery target = query := by
  rw [targetQuery, h, splitOnce_append hmark]

/-- A target of characters that may be sent is sent as it is, or it is too long. -/
theorem readTarget_append {target : String} (h : target.toList = path ++ '?' :: query)
    (hpath : ∀ c ∈ path, isPathChar c = true) (hquery : ∀ c ∈ query, isQueryChar c = true) :
    readTarget target = if isTooLong target then .error .tooLong else .ok target := by
  have hsent : sentPart? target.toList = some target.toList := by
    rw [h]
    exact sentPart?_append hpath hquery
  simp only [readTarget, hsent, String.ofList_toList]

/-- An empty part in front is no pair. -/
theorem formDecode_amp (cs : List Char) : formDecode ('&' :: cs) = formDecode cs := by
  have hsplit : Text.splitAtChar '&' ('&' :: cs) = [] :: Text.splitAtChar '&' cs :=
    splitAtChar_append List.not_mem_nil cs
  rw [formDecode, formDecode, hsplit]
  rfl

theorem length_le_length_formText (cs : List Char) : cs.length ≤ (formText cs).length := by
  induction cs with
  | nil => exact Nat.le_refl 0
  | cons c cs ih =>
    have hchar : 0 < (formChar c).length := by
      unfold formChar percentChar
      split_ifs
      · exact Nat.one_pos
      · exact Nat.one_pos
      · obtain ⟨b, tail, hbytes, -⟩ := Utf8.takePiece_encodeChar c
        rw [hbytes, List.flatMap_cons, List.length_append]
        exact Nat.lt_of_lt_of_le (by decide : 0 < 3) (Nat.le_add_right _ _)
    rw [formText, List.flatMap_cons, List.length_append, List.length_cons, Nat.add_comm]
    exact Nat.add_le_add hchar ih

end Web

/-! ## Requests -/

namespace ApiServer

variable {σ : Type}

/-- The control plane behind a network that writes down the requests. -/
def recorded (server : ApiServer σ) : ApiServer (σ × List ApiRequest) :=
  { server with network := recording server.network }

def requests (server : ApiServer σ) (q : ClusterQuery) (s : σ) : List ApiRequest :=
  (server.recorded.controlPlane q (s, [])).2.2

end ApiServer

namespace ClusterQuery

/-- The query is one request, which gets the target. Afterwards the world is as that request leaves
it, and what comes back depends on nothing but what became of the request. -/
structure AsksOnce (q : ClusterQuery) (target : String) : Prop where
  requests_eq : ∀ {σ : Type} (server : ApiServer σ) (s : σ),
    server.requests q s = [⟨"GET", target⟩]
  state_eq : ∀ {σ : Type} (server : ApiServer σ) (s : σ),
    (server.controlPlane q s).2 = (server.network ⟨"GET", target⟩ s).2
  reply_eq : ∀ {σ σ' : Type} (server : ApiServer σ) (server' : ApiServer σ') (s : σ) (s' : σ'),
    server'.timeoutMilliseconds = server.timeoutMilliseconds →
    (server'.network ⟨"GET", target⟩ s').1 = (server.network ⟨"GET", target⟩ s).1 →
    (server'.controlPlane q s').1 = (server.controlPlane q s).1
  /-- A request that does not get through fails the query. -/
  reply_of_failed : ∀ {σ : Type} (server : ApiServer σ) (s : σ) (reason : String),
    (server.network ⟨"GET", target⟩ s).1 = .failed reason →
    (server.controlPlane q s).1 = .error (.api (.service reason))

/-- The query makes no request and fails, whatever the network would do. -/
structure AsksNothing (q : ClusterQuery) (fault : ApiFault) : Prop where
  requests_eq : ∀ {σ : Type} (server : ApiServer σ) (s : σ), server.requests q s = []
  controlPlane_eq : ∀ {σ : Type} (server : ApiServer σ) (s : σ),
    server.controlPlane q s = (.error (.api fault), s)

end ClusterQuery

/-! ## Pods -/

/-- The name is made of what names of namespaces are made of: small letters, digits and dashes. -/
def IsNamespaceName (name : String) : Prop :=
  ∀ c ∈ name.toList, c.isLower = true ∨ c.isDigit = true ∨ c = '-'

instance : DecidablePred IsNamespaceName := fun name => List.decidableBAll _ name.toList

/-- The target asks for the pods of the namespace, or of all, that the selector picks, and for
nothing else. -/
structure AddressesPods (ns selector : Option String) (target : String) : Prop where
  path_of_some : ∀ name, ns = some name →
    Web.targetPath target = "/api/v1/namespaces/" ++ name ++ "/pods"
  path_of_none : ns = none → Web.targetPath target = "/api/v1/pods"
  query_of_some : ∀ labels, selector = some labels → Web.formDecode (Web.targetQuery target) =
    [(Utf8.encode "labelSelector".toList, Utf8.encode labels.toList)]
  query_of_none : selector = none → Web.formDecode (Web.targetQuery target) = []

section

variable {ns ns' selector selector' : Option String} {target : String}

def selectorQuery : Option String → List Char
  | some labels => '&' :: Web.formPair ("labelSelector", labels)
  | none => []

theorem toList_listTarget (path : String) (selector : Option String) :
    (listTarget path selector).toList = path.toList ++ '?' :: selectorQuery selector := by
  cases selector <;> simp [listTarget, selectorQuery, Web.formEncode]

theorem isQueryChar_of_mem_selectorQuery {c : Char} (h : c ∈ selectorQuery selector) :
    Web.isQueryChar c = true := by
  cases selector with
  | none => cases h
  | some labels =>
    obtain rfl | hpair := List.mem_cons.mp h
    · decide
    · exact Web.isQueryChar_of_mem_formPair hpair

theorem formDecode_selectorQuery (labels : String) :
    Web.formDecode (selectorQuery (some labels)) =
      [(Utf8.encode "labelSelector".toList, Utf8.encode labels.toList)] := by
  have hform : (Web.formEncode [("labelSelector", labels)]).toList =
      Web.formPair ("labelSelector", labels) := by simp [Web.formEncode]
  rw [selectorQuery, Web.formDecode_amp, ← hform]
  exact Web.formDecode_formEncode [("labelSelector", labels)]

theorem IsNamespaceName.isPathChar {name : String} (h : IsNamespaceName name) {c : Char}
    (hc : c ∈ name.toList) : Web.isPathChar c = true := by
  have hplain : c.isAlphanum = true ∨ c = '-' := by
    obtain hlower | hdigit | hdash := h c hc
    · exact .inl (show (c.isUpper || c.isLower || c.isDigit) = true by simp [hlower])
    · exact .inl (show (c.isUpper || c.isLower || c.isDigit) = true by simp [hdigit])
    · exact .inr hdash
  obtain halphanum | rfl := hplain
  · rw [Web.isAlphanum_iff] at halphanum
    simp only [Web.isPathChar, Bool.or_eq_true, Bool.and_eq_true, beq_iff_eq, decide_eq_true_eq]
    omega
  · decide

theorem podsPath_none : podsPath none = "/api/v1/pods" := rfl

theorem podsPath_some (name : String) :
    podsPath (some name) = "/api/v1/namespaces/" ++ name ++ "/pods" := rfl

theorem isPathChar_of_mem_podsPath (hns : ∀ name ∈ ns, IsNamespaceName name) {c : Char}
    (hc : c ∈ (podsPath ns).toList) : Web.isPathChar c = true := by
  cases ns with
  | none =>
    have hall : "/api/v1/pods".toList.all Web.isPathChar = true := by decide
    rw [podsPath_none] at hc
    exact List.all_eq_true.mp hall c hc
  | some name =>
    have hfront : "/api/v1/namespaces/".toList.all Web.isPathChar = true := by decide
    have hback : "/pods".toList.all Web.isPathChar = true := by decide
    rw [podsPath_some, String.toList_append, String.toList_append, List.mem_append,
      List.mem_append] at hc
    obtain (hc | hc) | hc := hc
    · exact List.all_eq_true.mp hfront c hc
    · exact (hns name rfl).isPathChar hc
    · exact List.all_eq_true.mp hback c hc

theorem addressesPods_listTarget (hns : ∀ name ∈ ns, IsNamespaceName name)
    (selector : Option String) : AddressesPods ns selector (listTarget (podsPath ns) selector) := by
  have htext := toList_listTarget (podsPath ns) selector
  have hmark : '?' ∉ (podsPath ns).toList := fun hmem =>
    (Web.isPathChar_ne (isPathChar_of_mem_podsPath hns hmem)).1 rfl
  have hpath : Web.targetPath (listTarget (podsPath ns) selector) = podsPath ns :=
    (Web.targetPath_append htext hmark).trans String.ofList_toList
  have hquery : Web.targetQuery (listTarget (podsPath ns) selector) = selectorQuery selector :=
    Web.targetQuery_append htext hmark
  refine ⟨?_, ?_, ?_, ?_⟩
  · rintro name rfl
    exact hpath
  · rintro rfl
    exact hpath
  · rintro labels rfl
    rw [hquery, formDecode_selectorQuery]
  · rintro rfl
    rw [hquery]
    rfl

/-- The pods of all namespaces are at no namespace's path. -/
theorem podsPath_none_ne (name : String) :
    "/api/v1/pods" ≠ "/api/v1/namespaces/" ++ name ++ "/pods" := by
  intro h
  have hfront : "/api/v1/n".toList <+: ("/api/v1/namespaces/" ++ name ++ "/pods").toList := by
    simp only [String.toList_append, List.append_assoc]
    exact (show "/api/v1/n".toList <+: "/api/v1/namespaces/".toList by decide).trans
      (List.prefix_append _ _)
  rw [← h] at hfront
  revert hfront
  decide

theorem podsPath_injective {name name' : String}
    (h : "/api/v1/namespaces/" ++ name ++ "/pods" = "/api/v1/namespaces/" ++ name' ++ "/pods") :
    name = name' := by
  have htext := congrArg String.toList h
  simp only [String.toList_append, List.append_cancel_right_eq, List.append_cancel_left_eq] at htext
  exact String.toList_inj.mp htext

theorem AddressesPods.ns_eq (h : AddressesPods ns selector target)
    (h' : AddressesPods ns' selector' target) : ns = ns' := by
  cases ns with
  | none =>
    cases ns' with
    | none => rfl
    | some name' =>
      exact absurd ((h.path_of_none rfl).symm.trans (h'.path_of_some name' rfl))
        (podsPath_none_ne name')
  | some name =>
    cases ns' with
    | none =>
      exact absurd ((h'.path_of_none rfl).symm.trans (h.path_of_some name rfl))
        (podsPath_none_ne name)
    | some name' =>
      exact congrArg some (podsPath_injective
        ((h.path_of_some name rfl).symm.trans (h'.path_of_some name' rfl)))

theorem AddressesPods.selector_eq (h : AddressesPods ns selector target)
    (h' : AddressesPods ns' selector' target) : selector = selector' := by
  cases selector with
  | none =>
    cases selector' with
    | none => rfl
    | some labels' =>
      cases (h.query_of_none rfl).symm.trans (h'.query_of_some labels' rfl)
  | some labels =>
    cases selector' with
    | none => cases (h'.query_of_none rfl).symm.trans (h.query_of_some labels rfl)
    | some labels' =>
      have hpairs := (h.query_of_some labels rfl).symm.trans (h'.query_of_some labels' rfl)
      simp only [List.cons.injEq, Prod.mk.injEq, and_true, true_and] at hpairs
      have hdecode := congrArg Utf8.decode hpairs
      rw [Utf8.decode_encode, Utf8.decode_encode, Except.ok.injEq] at hdecode
      exact congrArg some (String.toList_inj.mp hdecode)

end

namespace ClusterQuery

variable {q : ClusterQuery} {target : String}

/-- What comes back, by what becomes of the request of a query. -/
def settled (timeout : Nat) : (q : ClusterQuery) → Delivery → q.Reply
  | .version, delivery => received .version timeout delivery
  | .nodes, delivery => emptyIfUnknown (received Resource.Document.node.list timeout delivery)
  | .namespaceNamed _, delivery => noneIfUnknown (received .namespaceObject timeout delivery)
  | .pods _ _, delivery => emptyIfUnknown (received Resource.Document.pod.list timeout delivery)
  | .definitions, delivery =>
    emptyIfUnknown (received Resource.Document.definition.list timeout delivery)
  | .customObjects _, delivery =>
    emptyIfUnknown (received Resource.Document.custom.list timeout delivery)
  | .drivers, delivery => emptyIfUnknown (received Resource.Document.driver.list timeout delivery)
  | .storageClasses, delivery =>
    emptyIfUnknown (received Resource.Document.storageClass.list timeout delivery)
  | .secret _ _, delivery => noneIfUnknown (received .secret timeout delivery)

/-- A query with a target makes its request and settles what becomes of it. -/
theorem controlPlane_of_target {σ : Type} (htarget : q.target = .ok target)
    (server : ApiServer σ) (s : σ) :
    server.controlPlane q s =
      (q.settled server.timeoutMilliseconds (server.network ⟨"GET", target⟩ s).1,
        (server.network ⟨"GET", target⟩ s).2) := by
  have hfetch {α : Type} (document : Resource.Document α) :=
    ApiServer.fetch_of_target htarget server document s
  cases q with
  | version => exact hfetch _
  | nodes | pods _ _ | definitions | customObjects _ | drivers | storageClasses =>
    simp only [ApiServer.controlPlane, ApiServer.list_eq, hfetch]
    rfl
  | namespaceNamed _ | secret _ _ =>
    simp only [ApiServer.controlPlane, ApiServer.get_eq, hfetch]
    rfl

/-- Every query that has a target is one request for it. -/
theorem asksOnce_of_target (htarget : q.target = .ok target) : q.AsksOnce target where
  requests_eq server s := by
    rw [ApiServer.requests, controlPlane_of_target htarget]
    rfl
  state_eq server s := by rw [controlPlane_of_target htarget]
  reply_eq server server' s s' htimeout hdelivery := by
    rw [controlPlane_of_target htarget, controlPlane_of_target htarget, htimeout, hdelivery]
  reply_of_failed server s reason hdelivery := by
    rw [controlPlane_of_target htarget, hdelivery]
    cases q <;> rfl

/-- A query without a target is no request. -/
theorem asksNothing_of_unsent {fault : ApiFault} (hfault : ∀ answer, fault ≠ .refused answer)
    (htarget : q.target = .error fault) : q.AsksNothing fault := by
  have hplane {σ : Type} (server : ApiServer σ) (s : σ) :
      server.controlPlane q s = (.error (.api fault), s) := by
    have hfetch {α : Type} (document : Resource.Document α) :=
      ApiServer.fetch_of_unsent htarget server document s
    cases q with
    | version => exact hfetch _
    | nodes | pods _ _ | definitions | customObjects _ | drivers | storageClasses =>
      simp only [ApiServer.controlPlane, ApiServer.list_eq, hfetch]
      cases fault with
      | refused answer => exact absurd rfl (hfault answer)
      | _ => rfl
    | namespaceNamed _ | secret _ _ =>
      simp only [ApiServer.controlPlane, ApiServer.get_eq, hfetch]
      cases fault with
      | refused answer => exact absurd rfl (hfault answer)
      | _ => rfl
  refine ⟨fun server s => ?_, hplane⟩
  rw [ApiServer.requests, hplane]

theorem target_pods (ns selector : Option String) :
    (pods ns selector).target =
      (Web.readTarget (listTarget (podsPath ns) selector)).mapError .unsendable := rfl

/-- Names of namespaces and selectors make a target that is sent as it is written, or is too
long. -/
theorem target_pods_eq {ns : Option String} (hns : ∀ name ∈ ns, IsNamespaceName name)
    (selector : Option String) :
    (pods ns selector).target =
      if Web.isTooLong (listTarget (podsPath ns) selector) then .error (.unsendable .tooLong)
      else .ok (listTarget (podsPath ns) selector) := by
  have hread := Web.readTarget_append (toList_listTarget (podsPath ns) selector)
    (fun _ => isPathChar_of_mem_podsPath hns) (fun _ => isQueryChar_of_mem_selectorQuery)
  rw [target_pods, hread]
  split <;> rfl

/-- A target that is too long is no request, and the query fails whatever the server does. -/
theorem target_pods_of_long {ns selector : Option String}
    (hlong : 65534 < (Utf8.encode (listTarget (podsPath ns) selector).toList).length) :
    (pods ns selector).target = .error (.unsendable .tooLong) := by
  have htooLong : Web.isTooLong (listTarget (podsPath ns) selector) = true := decide_eq_true hlong
  rw [target_pods, Web.readTarget, if_pos htooLong]
  rfl

theorem asksNothing_of_long {ns selector : Option String}
    (hlong : 65534 < (Utf8.encode (listTarget (podsPath ns) selector).toList).length) :
    (pods ns selector).AsksNothing (.unsendable .tooLong) :=
  asksNothing_of_unsent nofun (target_pods_of_long hlong)

/-- The pods of a namespace, or of all, are asked for under a target that tells the namespace in its
path and the selector in its query, and nothing else. If the target is not too long, the query is
one request that gets it; otherwise there is no request. Different queries for pods never have the
same target. -/
theorem pods_are_addressed (ns selector : Option String)
    (hns : ∀ name ∈ ns, IsNamespaceName name) :
    (∃ target, (pods ns selector).writtenTarget = .ok target ∧ AddressesPods ns selector target ∧
      ((Utf8.encode target.toList).length ≤ 65534 →
        (pods ns selector).target = .ok target ∧ (pods ns selector).AsksOnce target) ∧
      (65534 < (Utf8.encode target.toList).length →
        (pods ns selector).AsksNothing (.unsendable .tooLong))) ∧
    ∀ ns' selector' target, (∀ name ∈ ns', IsNamespaceName name) →
      (pods ns selector).target = .ok target → (pods ns' selector').target = .ok target →
      ns = ns' ∧ selector = selector' := by
  refine ⟨⟨_, rfl, addressesPods_listTarget hns selector, fun hshort => ?_, asksNothing_of_long⟩,
    fun ns' selector' target hns' hsent hsent' => ?_⟩
  · have htarget := target_pods_eq hns selector
    have hfits : Web.isTooLong (listTarget (podsPath ns) selector) = false :=
      decide_eq_false (Nat.not_lt.mpr hshort)
    rw [hfits, if_neg Bool.false_ne_true] at htarget
    exact ⟨htarget, asksOnce_of_target htarget⟩
  · have haddresses {ns selector : Option String} (hns : ∀ name ∈ ns, IsNamespaceName name)
        (hsent : (pods ns selector).target = .ok target) : AddressesPods ns selector target := by
      rw [target_pods_eq hns] at hsent
      split at hsent
      · cases hsent
      · exact Except.ok.inj hsent ▸ addressesPods_listTarget hns selector
    have h := haddresses hns hsent
    have h' := haddresses hns' hsent'
    exact ⟨h.ns_eq h', h.selector_eq h'⟩

/-- A selector with marks of a form, of an address and of another alphabet. -/
theorem pods_are_addressed_marks :
    let selector := "app=a&b, c#d?e%+ü"
    let target := "/api/v1/namespaces/kube-system/pods?&labelSelector="
      ++ "app%3Da%26b%2C+c%23d%3Fe%25%2B%C3%BC"
    (∀ name ∈ some "kube-system", IsNamespaceName name) ∧
    (pods (some "kube-system") (some selector)).target = .ok target ∧
    AddressesPods (some "kube-system") (some selector) target ∧
    (pods (some "kube-system") (some selector)).AsksOnce target ∧
    ∀ selector', (pods none selector').target ≠ .ok target := by
  intro selector target
  have hns : ∀ name ∈ some "kube-system", IsNamespaceName name := by
    simp only [Option.mem_def, Option.some.injEq, forall_eq']
    decide
  have hform : Web.formEncode [("labelSelector", selector)] =
      "labelSelector=" ++ "app%3Da%26b%2C+c%23d%3Fe%25%2B%C3%BC" := by decide +kernel
  have hwritten : listTarget (podsPath (some "kube-system")) (some selector) = target := by
    rw [listTarget, hform]
    rfl
  have hshort : (Utf8.encode target.toList).length ≤ 65534 := by decide +kernel
  obtain ⟨⟨_, heq, haddresses, hsent, -⟩, hdiffers⟩ :=
    pods_are_addressed (some "kube-system") (some selector) hns
  obtain rfl := hwritten.symm.trans (Except.ok.inj heq)
  obtain ⟨htarget, hasks⟩ := hsent hshort
  refine ⟨hns, htarget, haddresses, hasks, fun selector' hsame => ?_⟩
  cases (hdiffers none selector' _ nofun htarget hsame).1

/-- A selector of so many characters makes a target too long, whatever they are. -/
theorem long_of_selector {labels : String} (hlabels : 65534 ≤ labels.toList.length)
    (ns : Option String) :
    65534 < (Utf8.encode (listTarget (podsPath ns) (some labels)).toList).length := by
  have hform := Web.length_le_length_formText labels.toList
  have hbytes := Utf8.length_le_length_encode (listTarget (podsPath ns) (some labels)).toList
  rw [toList_listTarget] at hbytes ⊢
  simp only [selectorQuery, Web.formPair, List.length_append, List.length_cons] at hbytes ⊢
  omega

/-- A selector of 65534 letters is sent by no request. -/
theorem long_selector_is_not_sent :
    let selector := String.ofList (List.replicate 65534 'a')
    IsNamespaceName "x" ∧
    (pods (some "x") (some selector)).target = .error (.unsendable .tooLong) ∧
    (pods (some "x") (some selector)).AsksNothing (.unsendable .tooLong) := by
  intro selector
  have hlength : 65534 ≤ selector.toList.length := by
    rw [String.toList_ofList, List.length_replicate]
  have hlong := long_of_selector hlength (some "x")
  exact ⟨by decide, target_pods_of_long hlong, asksNothing_of_long hlong⟩

end ClusterQuery

end ClusterAudit
