-- SUMMARY: When the credentials in a secret are read, and as what.
import ClusterAudit.Credentials
import Mathlib.Tactic.Common

/-!
# Reading credentials

Each step of reading a secret is described by an equivalence: the text of a field, the
check of the endpoint, and the credentials as a whole.
-/

namespace ClusterAudit.Credentials

variable {data : List (String × Utf8.Bytes)} {key : String} {text : List Char}

theorem field_eq_ok_iff :
    field data key = .ok text ↔
      ∃ found, data.find? (·.1 == key) = some found ∧ Utf8.decode found.2 = .ok text ∧
        Text.isBlankText text = false := by
  unfold field
  cases data.find? (·.1 == key) with
  | none => simp
  | some found =>
    simp only [Option.some.injEq, exists_eq_left']
    cases Utf8.decode found.2 with
    | error fault => simp
    | ok read =>
      simp only [Except.ok.injEq]
      cases hblank : Text.isBlankText read with
      | true =>
        constructor
        · intro h
          cases h
        · rintro ⟨rfl, h⟩
          simp [hblank] at h
      | false =>
        constructor
        · intro h
          cases h
          exact ⟨rfl, hblank⟩
        · rintro ⟨rfl, -⟩
          rfl

/-- An endpoint passes if it is an address of the web with a host; its slashes at the end go. -/
theorem checkEndpoint_eq_ok_iff {endpoint : List Char} {result : String} :
    checkEndpoint endpoint = .ok result ↔
      ∃ url, Web.Url.parse (String.ofList endpoint) = .ok url ∧ url.scheme ∈ schemes ∧
        url.host.isSome ∧ result = String.ofList (trimSlashes endpoint) := by
  unfold checkEndpoint endpointFault?
  cases Web.Url.parse (String.ofList endpoint) with
  | error fault => simp
  | ok url =>
    simp only [Except.ok.injEq, exists_eq_left', Bool.not_eq_eq_eq_not, Bool.not_true,
      List.contains_eq_mem, decide_eq_false_iff_not]
    by_cases hscheme : url.scheme ∈ schemes
    · rw [if_neg (not_not.mpr hscheme)]
      cases url.host with
      | none => simp
      | some host => simp [hscheme, eq_comm]
    · rw [if_pos hscheme]
      simp [hscheme]

theorem ofData_eq_ok_iff {c : Credentials} :
    ofData data = .ok c ↔
      ∃ endpoint username password, field data endpointKey = .ok endpoint ∧
        field data userKey = .ok username ∧ field data passwordKey = .ok password ∧
        checkEndpoint (Text.trim endpoint) = .ok c.endpoint ∧
        c.username = String.ofList (Text.trim username) ∧ c.password = String.ofList password := by
  unfold ofData
  cases field data endpointKey with
  | error failure => simp [bind, Except.bind]
  | ok endpoint =>
    cases field data userKey with
    | error failure => simp [bind, Except.bind]
    | ok username =>
      cases field data passwordKey with
      | error failure => simp [bind, Except.bind]
      | ok password =>
        simp only [bind, Except.bind, Except.ok.injEq, exists_and_left, exists_eq_left']
        cases checkEndpoint (Text.trim endpoint) with
        | error failure => simp
        | ok checked =>
          obtain ⟨e, u, p⟩ := c
          simp only [pure, Except.pure, Except.ok.injEq, Credentials.mk.injEq]
          constructor <;> rintro ⟨rfl, rfl, rfl⟩ <;> exact ⟨rfl, rfl, rfl⟩

end ClusterAudit.Credentials
