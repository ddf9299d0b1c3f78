-- SUMMARY: Which secrets hold credentials, and which field is blamed if a secret holds none.
import ClusterAudit.Proofs.Credentials
import ClusterAudit.Proofs.Trimming
import ClusterAudit.Proofs.Utf8

/-!
# The fields of a secret

A secret holds credentials if its three fields are texts with more than blanks in them, and the
endpoint is an address of the web. Otherwise the first field is blamed that is not such a text, and
the address only if all of them are. Both are told here by what stands in the data of a secret:
`IsReadAs` and `Blames`. One of them applies to every secret, and the reader does what it says.
-/

namespace ClusterAudit

namespace Credentials

variable {data : List (String × Utf8.Bytes)} {key : String} {text : List Char} {failure : Failure}

/-! ## One field -/

/-- The bytes of an entry, the first one of its name. -/
def HasBytes (data : List (String × Utf8.Bytes)) (key : String) (bytes : Utf8.Bytes) : Prop :=
  ∃ before after, data = before ++ (key, bytes) :: after ∧ ∀ entry ∈ before, entry.1 ≠ key

/-- The field is a text with more than blanks in it. -/
def HasText (data : List (String × Utf8.Bytes)) (key : String) (text : List Char) : Prop :=
  HasBytes data key (Utf8.encode text) ∧ ∃ c ∈ text, Text.isBlank c = false

/-- Why a field is no such text. -/
inductive FieldFault (data : List (String × Utf8.Bytes)) (key : String) : Failure → Prop
  | absent : (∀ bytes, ¬ HasBytes data key bytes) → FieldFault data key (.missingField key)
  | blank {text : List Char} : HasBytes data key (Utf8.encode text) →
      (∀ c ∈ text, Text.isBlank c = true) → FieldFault data key (.missingField key)
  | notText {bytes : Utf8.Bytes} : HasBytes data key bytes → (∀ text, bytes ≠ Utf8.encode text) →
      FieldFault data key (.notUtf8 key)

theorem find?_eq_some_iff {entry : String × Utf8.Bytes} :
    data.find? (·.1 == key) = some entry ↔ entry.1 = key ∧ HasBytes data key entry.2 := by
  obtain ⟨name, bytes⟩ := entry
  simp only [List.find?_eq_some_iff_append, beq_iff_eq, HasBytes, Bool.not_eq_true',
    beq_eq_false_iff_ne]
  constructor
  · rintro ⟨rfl, before, after, hdata, hbefore⟩
    exact ⟨rfl, before, after, hdata, hbefore⟩
  · rintro ⟨rfl, before, after, hdata, hbefore⟩
    exact ⟨rfl, before, after, hdata, hbefore⟩

theorem hasBytes_iff {bytes : Utf8.Bytes} :
    HasBytes data key bytes ↔ data.find? (·.1 == key) = some (key, bytes) := by
  rw [find?_eq_some_iff]
  simp only [true_and]

theorem find?_eq_none (h : ∀ bytes, ¬ HasBytes data key bytes) :
    data.find? (·.1 == key) = none := by
  cases hfind : data.find? (·.1 == key) with
  | none => rfl
  | some entry => exact absurd (find?_eq_some_iff.mp hfind).2 (h entry.2)

theorem HasText.field_eq (h : HasText data key text) : field data key = .ok text := by
  obtain ⟨hbytes, hvisible⟩ := h
  have hblank : Text.isBlankText text = false := by simpa [Text.isBlankText] using hvisible
  simp only [field, hasBytes_iff.mp hbytes, Utf8.decode_encode, hblank]
  rfl

theorem FieldFault.field_eq (h : FieldFault data key failure) :
    field data key = .error failure := by
  cases h with
  | absent habsent => simp only [field, find?_eq_none habsent]
  | @blank text hbytes hblank =>
    have hblank : Text.isBlankText text = true := List.all_eq_true.mpr hblank
    simp only [field, hasBytes_iff.mp hbytes, Utf8.decode_encode, hblank]
    rfl
  | notText hbytes hno =>
    obtain ⟨fault, hdecode⟩ := Utf8.exists_decode_eq_error_iff.mpr hno
    simp only [field, hasBytes_iff.mp hbytes, hdecode]

/-- A field is a text with more than blanks in it, or there is a reason why it is none. -/
theorem hasText_or_fieldFault (data : List (String × Utf8.Bytes)) (key : String) :
    (∃ text, HasText data key text) ∨ ∃ failure, FieldFault data key failure := by
  by_cases hbytes : ∃ bytes, HasBytes data key bytes
  · obtain ⟨bytes, hbytes⟩ := hbytes
    by_cases htext : ∃ text, bytes = Utf8.encode text
    · obtain ⟨text, rfl⟩ := htext
      by_cases hvisible : ∃ c ∈ text, Text.isBlank c = false
      · exact .inl ⟨text, hbytes, hvisible⟩
      · exact .inr ⟨_, .blank hbytes (by simpa using hvisible)⟩
    · exact .inr ⟨_, .notText hbytes (not_exists.mp htext)⟩
  · exact .inr ⟨_, .absent (not_exists.mp hbytes)⟩

/-! ## The address -/

/-- The text is an address of the web with a host. -/
def IsWebAddress (endpoint : List Char) : Prop :=
  ∃ url, Web.Url.parse (String.ofList endpoint) = .ok url ∧
    (url.scheme = "http" ∨ url.scheme = "https") ∧ url.host.isSome

/-- Why a text is no address of the web, in words. -/
inductive AddressFault (endpoint : List Char) : String → Prop
  | unreadable {fault : Web.UrlFault} : Web.Url.parse (String.ofList endpoint) = .error fault →
      AddressFault endpoint fault.message
  | scheme {url : Web.Url} : Web.Url.parse (String.ofList endpoint) = .ok url →
      ¬ (url.scheme = "http" ∨ url.scheme = "https") →
      AddressFault endpoint ("unsupported scheme " ++ url.scheme)
  | host {url : Web.Url} : Web.Url.parse (String.ofList endpoint) = .ok url →
      (url.scheme = "http" ∨ url.scheme = "https") → url.host = none →
      AddressFault endpoint "missing host"

theorem mem_schemes_iff {scheme : String} :
    scheme ∈ schemes ↔ scheme = "http" ∨ scheme = "https" := by
  simp [schemes]

theorem IsWebAddress.checkEndpoint_eq {endpoint : List Char} (h : IsWebAddress endpoint) :
    checkEndpoint endpoint = .ok (String.ofList (trimSlashes endpoint)) := by
  obtain ⟨url, hparse, hscheme, hhost⟩ := h
  exact checkEndpoint_eq_ok_iff.mpr ⟨url, hparse, mem_schemes_iff.mpr hscheme, hhost, rfl⟩

theorem AddressFault.checkEndpoint_eq {endpoint : List Char} {reason : String}
    (h : AddressFault endpoint reason) :
    checkEndpoint endpoint = .error (.invalidEndpoint (String.ofList endpoint) reason) := by
  cases h with
  | unreadable hparse => simp only [checkEndpoint, endpointFault?, hparse]
  | scheme hparse hscheme =>
    have hscheme := mt mem_schemes_iff.mp hscheme
    simp [checkEndpoint, endpointFault?, hparse, hscheme]
  | host hparse hscheme hhost =>
    have hscheme := mem_schemes_iff.mpr hscheme
    simp [checkEndpoint, endpointFault?, hparse, hscheme, hhost]

theorem isWebAddress_or_addressFault (endpoint : List Char) :
    IsWebAddress endpoint ∨ ∃ reason, AddressFault endpoint reason := by
  cases hparse : Web.Url.parse (String.ofList endpoint) with
  | error fault => exact .inr ⟨_, .unreadable hparse⟩
  | ok url =>
    by_cases hscheme : url.scheme = "http" ∨ url.scheme = "https"
    · cases hhost : url.host with
      | none => exact .inr ⟨_, .host hparse hscheme hhost⟩
      | some host => exact .inl ⟨url, hparse, hscheme, by rw [hhost]; rfl⟩
    · exact .inr ⟨_, .scheme hparse hscheme⟩

/-! ## The whole secret -/

/-- The texts of the three fields, the endpoint without the blanks around it. -/
structure HasFields (data : List (String × Utf8.Bytes)) (endpoint username password : List Char) :
    Prop where
  endpoint : ∃ text, HasText data endpointKey text ∧ Text.IsTrimmed text endpoint
  username : HasText data userKey username
  password : HasText data passwordKey password

/-- The credentials that the data hold. -/
inductive IsReadAs (data : List (String × Utf8.Bytes)) (c : Credentials) : Prop
  | intro {endpoint username password : List Char} : HasFields data endpoint username password →
      IsWebAddress endpoint →
      (∃ slashes, endpoint = c.endpoint.toList ++ List.replicate slashes '/') →
      (∀ last ∈ c.endpoint.toList.getLast?, last ≠ '/') →
      Text.IsTrimmed username c.username.toList → c.username ≠ "" →
      c.password.toList = password → IsReadAs data c

/-- The fields, in the order in which they are read. -/
def fieldKeys : List String := [endpointKey, userKey, passwordKey]

/-- What is blamed for data that hold no credentials. -/
inductive Blames (data : List (String × Utf8.Bytes)) : Failure → Prop
  /-- The first field that is no text with more than blanks. -/
  | field {before after : List String} {key : String} {failure : Failure} :
      fieldKeys = before ++ key :: after → (∀ other ∈ before, ∃ text, HasText data other text) →
      FieldFault data key failure → Blames data failure
  /-- The endpoint, if it is no address and nothing is wrong with the fields. -/
  | address {endpoint username password : List Char} {reason : String} :
      HasFields data endpoint username password → AddressFault endpoint reason →
      Blames data (.invalidEndpoint (String.ofList endpoint) reason)

theorem HasFields.ofData_eq {endpoint username password : List Char}
    (h : HasFields data endpoint username password) :
    ofData data = (checkEndpoint endpoint).map fun checked =>
      ⟨checked, String.ofList (Text.trim username), String.ofList password⟩ := by
  obtain ⟨text, htext, htrimmed⟩ := h.endpoint
  rw [← Text.trim_eq_iff.mpr htrimmed]
  simp only [ofData, htext.field_eq, h.username.field_eq, h.password.field_eq, bind, Except.bind]
  cases checkEndpoint (Text.trim text) <;> rfl

theorem trimSlashes_eq_iff {cs part : List Char} :
    trimSlashes cs = part ↔
      (∃ slashes, cs = part ++ List.replicate slashes '/') ∧
        ∀ last ∈ part.getLast?, last ≠ '/' := by
  simp only [trimSlashes, Text.dropEndWhile_eq_iff, beq_iff_eq, beq_eq_false_iff_ne]
  refine and_congr_left fun _ => ⟨?_, ?_⟩
  · rintro ⟨tail, rfl, htail⟩
    exact ⟨tail.length, by rw [← List.eq_replicate_of_mem htail]⟩
  · rintro ⟨slashes, rfl⟩
    exact ⟨_, rfl, fun _ => List.eq_of_mem_replicate⟩

theorem IsReadAs.ofData_eq {c : Credentials} (h : IsReadAs data c) : ofData data = .ok c := by
  obtain ⟨hfields, haddress, hslashes, hlast, husername, -, hpassword⟩ := h
  have hendpoint := trimSlashes_eq_iff.mpr ⟨hslashes, hlast⟩
  have huser := Text.trim_eq_iff.mpr husername
  rw [hfields.ofData_eq, haddress.checkEndpoint_eq, hendpoint, huser, ← hpassword]
  simp only [Except.map, String.ofList_toList]

theorem exists_isReadAs {endpoint username password : List Char}
    (hfields : HasFields data endpoint username password) (haddress : IsWebAddress endpoint) :
    ∃ c, IsReadAs data c := by
  obtain ⟨hslashes, hlast⟩ := trimSlashes_eq_iff.mp (show trimSlashes endpoint = _ from rfl)
  refine ⟨⟨String.ofList (trimSlashes endpoint), String.ofList (Text.trim username),
    String.ofList password⟩, .intro hfields haddress ?_ ?_ ?_ ?_ String.toList_ofList⟩
  · simpa only [String.toList_ofList] using hslashes
  · simpa only [String.toList_ofList] using hlast
  · simpa only [String.toList_ofList] using Text.trim_eq_iff.mp rfl
  · intro hempty
    exact Text.trim_ne_nil hfields.username.2 (by simpa using congrArg String.toList hempty)

theorem Blames.ofData_eq (h : Blames data failure) : ofData data = .error failure := by
  cases h with
  | @field before after key _ hkeys hbefore hfault =>
    have hfield := hfault.field_eq
    -- The keys in front of the one at fault are none, the first, or the first two of three.
    rcases before with _ | ⟨first, _ | ⟨second, _ | ⟨third, before⟩⟩⟩
    · obtain ⟨rfl, -⟩ := List.cons.inj hkeys
      simp only [ofData, hfield, bind, Except.bind]
    · obtain ⟨rfl, htail⟩ := List.cons.inj hkeys
      obtain ⟨rfl, -⟩ := List.cons.inj htail
      obtain ⟨_, hendpoint⟩ := hbefore endpointKey List.mem_cons_self
      simp only [ofData, hendpoint.field_eq, hfield, bind, Except.bind]
    · obtain ⟨rfl, htail⟩ := List.cons.inj hkeys
      obtain ⟨rfl, htail'⟩ := List.cons.inj htail
      obtain ⟨rfl, -⟩ := List.cons.inj htail'
      obtain ⟨_, hendpoint⟩ := hbefore endpointKey List.mem_cons_self
      obtain ⟨_, husername⟩ := hbefore userKey (List.mem_cons_of_mem _ List.mem_cons_self)
      simp only [ofData, hendpoint.field_eq, husername.field_eq, hfield, bind, Except.bind]
    · have hlength := congrArg List.length hkeys
      simp only [fieldKeys, List.length_append, List.length_cons, List.length_nil] at hlength
      omega
  | address hfields hfault =>
    rw [hfields.ofData_eq, hfault.checkEndpoint_eq]
    rfl

/-- Data hold credentials, or something is to blame. -/
theorem isReadAs_or_blames (data : List (String × Utf8.Bytes)) :
    (∃ c, IsReadAs data c) ∨ ∃ failure, Blames data failure := by
  have hnone : ∀ other ∈ [], ∃ text, HasText data other text := List.forall_mem_nil _
  obtain ⟨endpoint, hendpoint⟩ | ⟨_, hfault⟩ := hasText_or_fieldFault data endpointKey
  · obtain ⟨username, husername⟩ | ⟨_, hfault⟩ := hasText_or_fieldFault data userKey
    · have hbefore := List.forall_mem_cons.mpr
        ⟨⟨_, hendpoint⟩, List.forall_mem_cons.mpr ⟨⟨_, husername⟩, hnone⟩⟩
      obtain ⟨password, hpassword⟩ | ⟨_, hfault⟩ := hasText_or_fieldFault data passwordKey
      · have hfields : HasFields data (Text.trim endpoint) username password :=
          ⟨⟨endpoint, hendpoint, Text.trim_eq_iff.mp rfl⟩, husername, hpassword⟩
        obtain haddress | ⟨_, hfault⟩ := isWebAddress_or_addressFault (Text.trim endpoint)
        · exact .inl (exists_isReadAs hfields haddress)
        · exact .inr ⟨_, .address hfields hfault⟩
      · exact .inr ⟨_, .field rfl hbefore hfault⟩
    · exact .inr ⟨_, .field rfl (List.forall_mem_cons.mpr ⟨⟨_, hendpoint⟩, hnone⟩) hfault⟩
  · exact .inr ⟨_, .field rfl hnone hfault⟩

/-- The reader takes the credentials that the data hold, or tells what is to blame. -/
theorem ofData_eq_iff (data : List (String × Utf8.Bytes)) :
    (∀ c, ofData data = .ok c ↔ IsReadAs data c) ∧
      ∀ failure, ofData data = .error failure ↔ Blames data failure := by
  obtain ⟨c, hread⟩ | ⟨failure, hblames⟩ := isReadAs_or_blames data
  · refine ⟨fun c' => ⟨fun h => ?_, IsReadAs.ofData_eq⟩, fun _ => ⟨fun h => ?_, Blames.ofData_eq⟩⟩
    · rw [hread.ofData_eq, Except.ok.injEq] at h
      exact h ▸ hread
    · rw [hread.ofData_eq] at h
      cases h
  · refine ⟨fun _ => ⟨fun h => ?_, IsReadAs.ofData_eq⟩, fun _ => ⟨fun h => ?_, Blames.ofData_eq⟩⟩
    · rw [hblames.ofData_eq] at h
      cases h
    · rw [hblames.ofData_eq, Except.error.injEq] at h
      exact h ▸ hblames

/-- Only the three fields matter. -/
theorem ofData_congr {data data' : List (String × Utf8.Bytes)}
    (h : ∀ key ∈ fieldKeys, ∀ bytes, HasBytes data' key bytes ↔ HasBytes data key bytes) :
    ofData data' = ofData data := by
  have hfield : ∀ key ∈ fieldKeys, field data' key = field data key := by
    intro key hkey
    have hfind : data'.find? (·.1 == key) = data.find? (·.1 == key) := by
      refine Option.ext fun entry => ?_
      rw [find?_eq_some_iff, find?_eq_some_iff, h key hkey]
    simp only [field, hfind]
  simp only [ofData, hfield endpointKey (by decide), hfield userKey (by decide),
    hfield passwordKey (by decide)]

/-- A secret is read if and only if its three fields are texts with more than blanks and the
endpoint is an address of the web. What it is read as, and what is blamed if it cannot be read, is
told by these fields alone. -/
theorem secret_is_read_or_blamed (secret : Secret) :
    ((∃ c, ofSecret secret = .ok c) ↔
      ∃ endpoint username password, HasFields secret.data endpoint username password ∧
        IsWebAddress endpoint) ∧
    (∀ c, ofSecret secret = .ok c ↔ IsReadAs secret.data c) ∧
    (∀ failure, ofSecret secret = .error failure ↔ Blames secret.data failure) ∧
    ∀ secret' : Secret,
      (∀ key ∈ fieldKeys, ∀ bytes,
        HasBytes secret'.data key bytes ↔ HasBytes secret.data key bytes) →
      ofSecret secret' = ofSecret secret := by
  obtain ⟨hread, hblames⟩ := ofData_eq_iff secret.data
  refine ⟨?_, hread, hblames, fun _ h => ofData_congr h⟩
  simp only [ofSecret, hread]
  constructor
  · rintro ⟨c, hfields, haddress, -⟩
    exact ⟨_, _, _, hfields, haddress⟩
  · rintro ⟨endpoint, username, password, hfields, haddress⟩
    exact exists_isReadAs hfields haddress

/-- The endpoint is no address, and the user is a line break: the user is to blame. An entry that is
no field does not matter, and may hold anything. -/
theorem secret_is_read_or_blamed_user :
    let secret : Secret :=
      { data := [(endpointKey, Utf8.encode "pve".toList), (userKey, Utf8.encode ['\n'])] }
    let secret' : Secret := { data := ("NOTE", [0xff]) :: secret.data }
    (∀ key ∈ fieldKeys, ∀ bytes,
      HasBytes secret'.data key bytes ↔ HasBytes secret.data key bytes) ∧
    Blames secret.data (.missingField userKey) ∧
    ofSecret secret' = .error (.missingField userKey) := by
  intro secret secret'
  have hsame : ∀ key ∈ fieldKeys, ∀ bytes,
      HasBytes secret'.data key bytes ↔ HasBytes secret.data key bytes := by
    intro key hkey bytes
    have hnote : ("NOTE" == key) = false := by
      revert key
      decide
    rw [hasBytes_iff, hasBytes_iff, List.find?_cons_of_neg (by simpa using hnote)]
  have hendpoint : HasText secret.data endpointKey "pve".toList :=
    ⟨⟨[], _, rfl, List.forall_mem_nil _⟩, 'p', by decide, rfl⟩
  have hbytes : HasBytes secret.data userKey (Utf8.encode ['\n']) := ⟨[_], _, rfl, by decide⟩
  have huser : FieldFault secret.data userKey (.missingField userKey) :=
    .blank hbytes (List.forall_mem_singleton.mpr rfl)
  have hbefore : ∀ key ∈ [endpointKey], ∃ text, HasText secret.data key text :=
    List.forall_mem_cons.mpr ⟨⟨_, hendpoint⟩, List.forall_mem_nil _⟩
  have hblames : Blames secret.data (.missingField userKey) := .field rfl hbefore huser
  obtain ⟨-, -, herror, hother⟩ := secret_is_read_or_blamed secret
  exact ⟨hsame, hblames, (hother secret' hsame).trans ((herror _).mpr hblames)⟩

end Credentials

end ClusterAudit
