-- SUMMARY: How an address is read when a path is written after it.
import ClusterAudit.Proofs.Scanning
import ClusterAudit.Web.Url

/-!
# Addresses that go on

A path that is written after an address starts with a slash. A slash ends the scheme, the
host and the port, so each of these is read as before, and what is added is left for the
part that is read next. If the address has neither query nor fragment, all of it is left
for the path, whose last segments it becomes.
-/

namespace ClusterAudit.Web

open ClusterAudit.Text

/-! ## Blanks around an address -/

/-- A text of visible characters. -/
def IsVisible (cs : List Char) : Prop := ∀ c ∈ cs, isOuterBlank c = false

theorem isOuterBlank_of_skipped {c : Char} (h : isOneOf ['\t', '\n', '\r'] c = true) :
    isOuterBlank c = true := by
  simp only [isOneOf, List.contains_eq_mem, decide_eq_true_eq, List.mem_cons, List.not_mem_nil,
    or_false] at h
  obtain rfl | rfl | rfl := h <;> rfl

theorem IsVisible.filter_eq_self {cs : List Char} (h : IsVisible cs) :
    cs.filter (fun c => !isOneOf ['\t', '\n', '\r'] c) = cs := by
  refine List.filter_eq_self.mpr fun c hc => ?_
  rw [Bool.not_eq_true', Bool.eq_false_iff]
  intro hskipped
  exact Bool.eq_false_iff.mp (h c hc) (isOuterBlank_of_skipped hskipped)

/-- A text does not end in a blank or a control. -/
def EndsVisible (cs : List Char) : Prop := Stops isOuterBlank cs.reverse

theorem EndsVisible.append {cs tail : List Char} (h : EndsVisible cs) (htail : IsVisible tail) :
    EndsVisible (cs ++ tail) := by
  unfold EndsVisible Stops
  rw [List.reverse_append]
  cases hreverse : tail.reverse with
  | nil => exact h
  | cons c rest =>
    intro d hd
    obtain rfl : c = d := by simpa using hd
    exact htail c (List.mem_reverse.mp (hreverse ▸ List.mem_cons_self))

theorem EndsVisible.dropWhile {cs : List Char} (h : EndsVisible cs) :
    EndsVisible (cs.dropWhile isOuterBlank) :=
  Stops.of_prefix h (List.reverse_prefix.mpr (List.dropWhile_suffix isOuterBlank))

theorem urlCharacters_of_endsVisible {cs : List Char} (h : EndsVisible cs) :
    urlCharacters cs =
      (cs.dropWhile isOuterBlank).filter fun c => !isOneOf ['\t', '\n', '\r'] c := by
  simp only [urlCharacters, h.dropWhile.dropWhile_eq_self, List.reverse_reverse]

theorem urlCharacters_append {cs tail : List Char} (h : EndsVisible cs) (htail : IsVisible tail) :
    urlCharacters (cs ++ tail) = urlCharacters cs ++ tail := by
  have hstops : Stops isOuterBlank tail := fun c hc => htail c (List.mem_of_mem_head? hc)
  rw [urlCharacters_of_endsVisible (h.append htail), urlCharacters_of_endsVisible h,
    dropWhile_append_of_stops _ hstops, List.filter_append, htail.filter_eq_self]

/-! ## Scheme -/

/-- A text that may follow an address: it is empty or starts with a slash. -/
def StartsPath (tail : List Char) : Prop := ∀ c ∈ tail.head?, c = '/'

theorem StartsPath.stops {tail : List Char} (h : StartsPath tail) {p : Char → Bool}
    (hp : p '/' = false) : Stops p tail := by
  intro c hc
  rw [h c hc, hp]

/-- A slash ends the scheme. -/
theorem readScheme?_append {tail : List Char} (h : StartsPath tail) (cs : List Char) :
    readScheme? (cs ++ tail) = (readScheme? cs).map fun read => (read.1, read.2 ++ tail) := by
  have hstops : Stops isSchemeChar tail := h.stops (by decide)
  cases cs with
  | nil =>
    cases tail with
    | nil => rfl
    | cons c tail =>
      obtain rfl := h c rfl
      rfl
  | cons c cs =>
    have hdrop := dropWhile_append_of_stops (c :: cs) hstops
    have htake := takeWhile_append_of_stops (c :: cs) hstops
    rw [List.cons_append] at hdrop htake
    simp only [readScheme?, List.cons_append, hdrop, htake]
    split
    · generalize (c :: cs).dropWhile isSchemeChar = after
      cases after with
      | nil =>
        cases tail with
        | nil => rfl
        | cons d tail =>
          obtain rfl := h d rfl
          rfl
      | cons d after =>
        by_cases hd : d = ':'
        · subst hd
          rfl
        · simp [hd]
    · rfl

/-! ## Authority -/

section Authority

variable {tail : List Char}

/-- A slash ends the host. -/
theorem hostCharacters_append (h : StartsPath tail) (inBrackets : Bool) (cs : List Char) :
    hostCharacters .web inBrackets (cs ++ tail) = hostCharacters .web inBrackets cs := by
  induction cs generalizing inBrackets with
  | nil =>
    cases tail with
    | nil => rfl
    | cons c tail =>
      obtain rfl := h c rfl
      rfl
  | cons c cs ih =>
    rw [List.cons_append, hostCharacters, hostCharacters]
    split
    · rfl
    · rw [ih]

theorem hostCharacters_isPrefix (inBrackets : Bool) (cs : List Char) :
    hostCharacters .web inBrackets cs <+: cs := by
  induction cs generalizing inBrackets with
  | nil => exact List.nil_prefix
  | cons c cs ih =>
    rw [hostCharacters]
    split
    · exact List.nil_prefix
    · exact List.cons_prefix_cons.mpr ⟨rfl, ih _⟩

/-- A slash ends the port. -/
theorem readPort_append (h : StartsPath tail) (port : Option Nat) (cs : List Char) :
    readPort port (cs ++ tail) = (readPort port cs).map fun read => (read.1, read.2 ++ tail) := by
  induction cs generalizing port with
  | nil =>
    cases tail with
    | nil => rfl
    | cons c tail =>
      obtain rfl := h c rfl
      rfl
  | cons c cs ih =>
    rw [List.cons_append, readPort, readPort]
    split
    · simp only
      split
      · rfl
      · exact ih _
    · split <;> rfl

theorem readHostAndPort_append (h : StartsPath tail) (scheme username password : String)
    (cs : List Char) :
    readHostAndPort scheme .web username password (cs ++ tail) =
      (readHostAndPort scheme .web username password cs).map
        fun read => (read.1, read.2 ++ tail) := by
  have hlength := (hostCharacters_isPrefix false cs).length_le
  simp only [readHostAndPort, hostCharacters_append h, List.drop_append_of_le_length hlength]
  generalize cs.drop (hostCharacters .web false cs).length = after
  cases readHostOf .web (hostCharacters .web false cs) with
  | error fault => rfl
  | ok host =>
    cases after with
    | nil =>
      cases tail with
      | nil => rfl
      | cons c tail =>
        obtain rfl := h c rfl
        rfl
    | cons c after =>
      by_cases hc : c = ':'
      · subst hc
        simp only [List.cons_append, bind, Except.bind, readPort_append h]
        split
        · rfl
        · cases readPort none after <;> rfl
      · simp [hc, bind, Except.bind, pure, Except.pure, Except.map]

/-- A slash ends the authority. -/
theorem readAuthority_append (h : StartsPath tail) (scheme : String) (cs : List Char) :
    readAuthority scheme .web (cs ++ tail) =
      (readAuthority scheme .web cs).map fun read => (read.1, read.2 ++ tail) := by
  have hstops : Stops (fun c => !endsAuthority .web c) tail := h.stops (by decide)
  simp only [readAuthority, takeWhile_append_of_stops cs hstops]
  generalize hregion : cs.takeWhile (fun c => !endsAuthority .web c) = region
  have hlength : region.length ≤ cs.length := by
    rw [← hregion]
    exact (List.takeWhile_prefix _).length_le
  have hdrop (n : Nat) : (cs ++ tail).drop (region.length - n) =
      cs.drop (region.length - n) ++ tail := List.drop_append_of_le_length (by omega)
  split
  · exact readHostAndPort_append h scheme _ _ cs
  · rename_i after _
    rw [hdrop]
    generalize cs.drop (region.length - after.length) = rest
    cases rest with
    | nil =>
      cases tail with
      | nil => rfl
      | cons c tail =>
        obtain rfl := h c rfl
        rfl
    | cons c rest =>
      have hport := readHostAndPort_append h scheme "" "" (c :: rest)
      simp only [List.cons_append] at hport ⊢
      split
      · rfl
      · exact hport
  · rename_i user after _ _
    rw [hdrop, readHostAndPort_append h]
    simp only [bind, Except.bind]
    cases readHostAndPort scheme .web (readUserinfo user).1 (readUserinfo user).2
      (cs.drop (region.length - after.length)) with
    | error fault => rfl
    | ok read =>
      simp only [Except.map]
      split <;> rfl

end Authority

/-! ## Marks -/

/-- The marks that end a path. -/
def isMark (c : Char) : Bool := c == '?' || c == '#'

/-- What is left of a text holds the marks that the text holds. -/
def SameMarks (cs left : List Char) : Prop := ∀ c, isMark c = true → (c ∈ cs ↔ c ∈ left)

section Marks

variable {cs left rest : List Char}

theorem eq_of_isMark {c : Char} (h : isMark c = true) : c = '?' ∨ c = '#' := by
  simpa [isMark] using h

theorem SameMarks.refl (cs : List Char) : SameMarks cs cs := fun _ _ => Iff.rfl

theorem SameMarks.trans (h : SameMarks cs left) (h' : SameMarks left rest) : SameMarks cs rest :=
  fun c hc => (h c hc).trans (h' c hc)

theorem sameMarks_append (front left : List Char) (h : ∀ c ∈ front, isMark c = false) :
    SameMarks (front ++ left) left := by
  intro c hc
  rw [List.mem_append]
  exact or_iff_right fun hfront => Bool.eq_false_iff.mp (h c hfront) hc

theorem sameMarks_drop {n : Nat} (h : ∀ c ∈ cs.take n, isMark c = false) :
    SameMarks cs (cs.drop n) := by
  have hsplit := sameMarks_append (cs.take n) (cs.drop n) h
  rwa [List.take_append_drop] at hsplit

theorem sameMarks_dropWhile {p : Char → Bool} (hp : ∀ c, p c = true → isMark c = false) :
    SameMarks cs (cs.dropWhile p) := by
  have hsplit := sameMarks_append (cs.takeWhile p) (cs.dropWhile p)
    fun c hc => hp c (List.mem_takeWhile_imp hc)
  rwa [List.takeWhile_append_dropWhile] at hsplit

theorem isMark_of_isOuterBlank {c : Char} (h : isOuterBlank c = true) : isMark c = false := by
  rw [Bool.eq_false_iff]
  intro hmark
  obtain rfl | rfl := eq_of_isMark hmark <;> exact absurd h (by decide)

theorem sameMarks_urlCharacters (h : EndsVisible cs) : SameMarks cs (urlCharacters cs) := by
  rw [urlCharacters_of_endsVisible h]
  refine (sameMarks_dropWhile fun c => isMark_of_isOuterBlank).trans fun c hc => ?_
  have hkept : isOneOf ['\t', '\n', '\r'] c = false := by
    obtain rfl | rfl := eq_of_isMark hc <;> rfl
  rw [List.mem_filter, hkept]
  exact (and_iff_left rfl).symm

theorem sameMarks_readScheme? {scheme : String} (h : readScheme? cs = some (scheme, rest)) :
    SameMarks cs rest := by
  have hscheme : SameMarks cs (cs.dropWhile isSchemeChar) := by
    refine sameMarks_dropWhile fun c hc => ?_
    rw [Bool.eq_false_iff]
    intro hmark
    obtain rfl | rfl := eq_of_isMark hmark <;> exact absurd hc (by decide)
  refine hscheme.trans ?_
  unfold readScheme? at h
  split at h
  · split at h
    · split at h
      · rename_i after hafter
        obtain ⟨-, rfl⟩ := Prod.mk.injEq .. ▸ Option.some.inj h
        rw [hafter]
        exact sameMarks_append [':'] after (List.forall_mem_singleton.mpr rfl)
      · cases h
    · cases h
  · cases h

theorem endsAuthority_of_isMark {c : Char} (h : isMark c = true) : endsAuthority .web c = true := by
  obtain rfl | rfl := eq_of_isMark h <;> rfl

theorem not_isMark_of_mem_hostCharacters {inBrackets : Bool} {c : Char}
    (h : c ∈ hostCharacters .web inBrackets cs) : isMark c = false := by
  induction cs generalizing inBrackets with
  | nil => cases h
  | cons d cs ih =>
    rw [hostCharacters] at h
    split at h
    · cases h
    · rename_i hgoes
      obtain rfl | htail := List.mem_cons.mp h
      · exact Bool.eq_false_iff.mpr fun hmark => hgoes (.inr (endsAuthority_of_isMark hmark))
      · exact ih htail

theorem sameMarks_readPort {port result : Option Nat} (h : readPort port cs = .ok (result, left)) :
    SameMarks cs left := by
  induction cs generalizing port with
  | nil =>
    cases h
    exact .refl []
  | cons c cs ih =>
    rw [readPort] at h
    split at h
    · rename_i hdigit
      simp only at h
      split at h
      · cases h
      · refine (sameMarks_append [c] cs fun d hd => ?_).trans (ih h)
        obtain rfl := List.mem_singleton.mp hd
        rw [Bool.eq_false_iff]
        intro hmark
        obtain rfl | rfl := eq_of_isMark hmark <;> exact absurd hdigit (by decide)
    · split at h
      · cases h
        exact .refl _
      · cases h

theorem sameMarks_readHostAndPort {scheme username password : String} {authority : Authority}
    (h : readHostAndPort scheme .web username password cs = .ok (authority, left)) :
    SameMarks cs left := by
  have hhost : SameMarks cs (cs.drop (hostCharacters .web false cs).length) := by
    refine sameMarks_drop fun c hc => ?_
    rw [← List.prefix_iff_eq_take.mp (hostCharacters_isPrefix false cs)] at hc
    exact not_isMark_of_mem_hostCharacters hc
  refine hhost.trans ?_
  simp only [readHostAndPort] at h
  generalize cs.drop (hostCharacters .web false cs).length = after at h ⊢
  cases hname : readHostOf .web (hostCharacters .web false cs) with
  | error fault =>
    rw [hname] at h
    cases h
  | ok host =>
    simp only [hname, bind, Except.bind] at h
    split at h
    · rename_i rest
      split at h
      · cases h
      · cases hport : readPort none rest with
        | error fault =>
          rw [hport] at h
          cases h
        | ok read =>
          rw [hport] at h
          cases h
          exact (sameMarks_append [':'] rest (List.forall_mem_singleton.mpr rfl)).trans
            (sameMarks_readPort hport)
    · cases h
      exact .refl _

theorem sameMarks_readAuthority {scheme : String} {authority : Authority}
    (h : readAuthority scheme .web cs = .ok (authority, left)) : SameMarks cs left := by
  have hregion (n : Nat) : SameMarks cs
      (cs.drop ((cs.takeWhile fun c => !endsAuthority .web c).length - n)) := by
    have hprefix := List.takeWhile_prefix (fun c => !endsAuthority .web c) (l := cs)
    refine sameMarks_drop fun c hc => Bool.eq_false_iff.mpr fun hmark => ?_
    have hc := (List.take_prefix_take_left (Nat.sub_le _ n)).subset hc
    rw [← List.prefix_iff_eq_take.mp hprefix] at hc
    have hgoes := List.mem_takeWhile_imp hc
    simp [endsAuthority_of_isMark hmark] at hgoes
  simp only [readAuthority] at h
  split at h
  · exact sameMarks_readHostAndPort h
  · rename_i after _
    refine (hregion after.length).trans ?_
    split at h
    · split at h
      · cases h
      · exact sameMarks_readHostAndPort h
    · exact sameMarks_readHostAndPort h
  · rename_i user after _ _
    refine (hregion after.length).trans ?_
    simp only [bind, Except.bind] at h
    split at h
    · cases h
    · rename_i read hread
      split at h
      · cases h
      · cases h
        exact sameMarks_readHostAndPort hread

end Marks

/-! ## Schemes of the web -/

section Schemes

variable {text : List Char} {url : Url}

@[simp] theorem scheme_finishUrl (scheme : String) (kind : SchemeKind)
    (authority : Option Authority) (path : List Char → String) (cs : List Char) :
    (finishUrl scheme kind authority path cs).scheme = scheme := rfl

theorem scheme_readFile {cs : List Char} (h : readFile cs = .ok url) : url.scheme = "file" := by
  unfold readFile at h
  split at h
  · split at h
    · simp only [bind, Except.bind] at h
      split at h <;> cases h
      rfl
    · cases h
      rfl
  · cases h
    rfl

theorem scheme_readOther {scheme : String} {cs : List Char} (h : readOther scheme cs = .ok url) :
    url.scheme = scheme := by
  unfold readOther at h
  split at h
  · simp only [bind, Except.bind] at h
    split at h <;> cases h
    rfl
  · cases h
    rfl
  · cases h
    rfl

theorem parse_of_readScheme? {scheme : String} {rest : List Char}
    (hread : readScheme? (urlCharacters text) = some (scheme, rest))
    (hkind : schemeKind scheme = .web) :
    Url.parse (String.ofList text) =
      (readAuthority scheme .web (rest.dropWhile (isSlash .web))).map fun read =>
        finishUrl scheme .web (some read.1) (readPath .web) read.2 := by
  simp only [Url.parse, String.toList_ofList, hread, hkind, bind, Except.bind]
  cases readAuthority scheme .web (rest.dropWhile (isSlash .web)) <;> rfl

/-- An address of the web has been read as one of its scheme. -/
theorem readScheme?_of_parse (h : Url.parse (String.ofList text) = .ok url)
    (hkind : schemeKind url.scheme = .web) :
    ∃ rest, readScheme? (urlCharacters text) = some (url.scheme, rest) := by
  simp only [Url.parse, String.toList_ofList] at h
  split at h
  · cases h
  · rename_i scheme rest hread
    refine ⟨rest, hread.trans ?_⟩
    split at h
    · simp only [bind, Except.bind] at h
      split at h <;> cases h
      rfl
    · rw [scheme_readFile h] at hkind
      cases hkind
    · rw [scheme_readOther h]

theorem isMark_of_isSlash {c : Char} (h : isSlash .web c = true) : isMark c = false := by
  rw [Bool.eq_false_iff]
  intro hmark
  obtain rfl | rfl := eq_of_isMark hmark <;> exact absurd h (by decide)

/-- The slashes after the scheme end before what follows, unless there is nothing else. -/
theorem dropWhile_isSlash_append {rest : List Char} (h : rest.dropWhile (isSlash .web) ≠ [])
    (tail : List Char) : (rest ++ tail).dropWhile (isSlash .web) =
      rest.dropWhile (isSlash .web) ++ tail := by
  rw [List.dropWhile_append, if_neg (by simpa using h)]

/-- Where there are only slashes there is no host. -/
theorem dropWhile_isSlash_ne_nil {rest slashes left : List Char} {scheme : String}
    {authority : Authority} (hslashes : ∀ c ∈ slashes, c = '/')
    (h : readAuthority scheme .web ((rest ++ slashes).dropWhile (isSlash .web)) =
      .ok (authority, left)) : rest.dropWhile (isSlash .web) ≠ [] := by
  intro hnone
  have hall : (rest ++ slashes).dropWhile (isSlash .web) = [] := by
    rw [List.dropWhile_append, hnone]
    exact List.dropWhile_eq_nil_iff.mpr fun c hc => by rw [hslashes c hc]; rfl
  rw [hall] at h
  cases h

/-- The scheme of an address is read from what stands before the slashes at its end. -/
theorem exists_readScheme?_of_parse {slashes : List Char} (hslashes : ∀ c ∈ slashes, c = '/')
    (hparse : Url.parse (String.ofList (text ++ slashes)) = .ok url)
    (hkind : schemeKind url.scheme = .web) (hend : EndsVisible text) :
    ∃ rest, readScheme? (urlCharacters text) = some (url.scheme, rest) ∧
      readScheme? (urlCharacters (text ++ slashes)) = some (url.scheme, rest ++ slashes) := by
  have hvisible : IsVisible slashes := fun c hc => by rw [hslashes c hc]; rfl
  have hstarts : StartsPath slashes := fun c hc => hslashes c (List.mem_of_mem_head? hc)
  obtain ⟨found, hread⟩ := readScheme?_of_parse hparse hkind
  rw [hread]
  rw [urlCharacters_append hend hvisible, readScheme?_append hstarts] at hread
  obtain ⟨⟨scheme, rest⟩, hscheme, hrest⟩ := Option.map_eq_some_iff.mp hread
  obtain ⟨hname, hfound⟩ := Prod.mk.inj hrest
  exact ⟨rest, by rw [hscheme, ← hname], by rw [← hfound]⟩

/-- The authority of an address is read from what stands before the slashes at its end. -/
theorem exists_readAuthority_eq_ok {slashes : List Char} {scheme : String}
    {found : Authority × List Char} (hslashes : ∀ c ∈ slashes, c = '/')
    (h : readAuthority scheme .web ((rest ++ slashes).dropWhile (isSlash .web)) = .ok found) :
    ∃ left, readAuthority scheme .web (rest.dropWhile (isSlash .web)) = .ok (found.1, left) ∧
      found.2 = left ++ slashes := by
  have hstarts : StartsPath slashes := fun c hc => hslashes c (List.mem_of_mem_head? hc)
  rw [dropWhile_isSlash_append (dropWhile_isSlash_ne_nil hslashes h),
    readAuthority_append hstarts] at h
  cases hleft : readAuthority scheme .web (rest.dropWhile (isSlash .web)) with
  | error fault =>
    rw [hleft] at h
    cases h
  | ok read =>
    rw [hleft] at h
    cases h
    exact ⟨read.2, rfl, rfl⟩

/-- An address of the web is read up to some place in the same way whatever path follows it. What
is left from there on holds the marks of the address. -/
theorem exists_tail_of_parse {slashes : List Char} (hslashes : ∀ c ∈ slashes, c = '/')
    (hparse : Url.parse (String.ofList (text ++ slashes)) = .ok url)
    (hkind : schemeKind url.scheme = .web) (hend : EndsVisible text) :
    ∃ left, SameMarks text left ∧
      url = finishUrl url.scheme .web url.authority (readPath .web) (left ++ slashes) ∧
      ∀ tail, IsVisible tail → StartsPath tail → Url.parse (String.ofList (text ++ tail)) =
        .ok (finishUrl url.scheme .web url.authority (readPath .web) (left ++ tail)) := by
  obtain ⟨rest, hscheme, hread⟩ := exists_readScheme?_of_parse hslashes hparse hkind hend
  rw [parse_of_readScheme? hread hkind] at hparse
  cases hauthority : readAuthority url.scheme .web ((rest ++ slashes).dropWhile (isSlash .web)) with
  | error fault =>
    rw [hauthority] at hparse
    cases hparse
  | ok found =>
    rw [hauthority] at hparse
    obtain ⟨left, hleft, hfound⟩ := exists_readAuthority_eq_ok hslashes hauthority
    have hurl :
        finishUrl url.scheme .web (some found.1) (readPath .web) (left ++ slashes) = url := by
      rw [← hfound]
      exact Except.ok.inj hparse
    have hsame : some found.1 = url.authority := congrArg Url.authority hurl
    rw [hsame] at hurl
    refine ⟨left, ?_, hurl.symm, fun tail htail hpath => ?_⟩
    · have hslash : SameMarks rest (rest.dropWhile (isSlash .web)) :=
        sameMarks_dropWhile fun c => isMark_of_isSlash
      exact (sameMarks_urlCharacters hend).trans <| (sameMarks_readScheme? hscheme).trans <|
        hslash.trans (sameMarks_readAuthority hleft)
    · have hread :
          readScheme? (urlCharacters (text ++ tail)) = some (url.scheme, rest ++ tail) := by
        rw [urlCharacters_append hend htail, readScheme?_append hpath, hscheme]
        rfl
      rw [parse_of_readScheme? hread hkind,
        dropWhile_isSlash_append (dropWhile_isSlash_ne_nil hslashes hauthority),
        readAuthority_append hpath, hleft, ← hsame]
      rfl

end Schemes

/-! ## Segments -/

/-- A segment that stays as it is written. -/
def isPlainSegment (segment : List Char) : Bool :=
  segment.all (fun c => Text.isAscii c && !inPath c && !isSlash .web c)
    && !isDot segment && !isDoubleDot segment

/-- The path that segments make, as characters. -/
def pathOf (segments : List (List Char)) : List Char := segments.flatMap fun s => '/' :: s

@[simp] theorem pathOf_cons (segment : List Char) (segments : List (List Char)) :
    pathOf (segment :: segments) = '/' :: (segment ++ pathOf segments) := rfl

theorem pathOf_append (front segments : List (List Char)) :
    pathOf (front ++ segments) = pathOf front ++ pathOf segments := List.flatMap_append

theorem startsPath_pathOf (segments : List (List Char)) : StartsPath (pathOf segments) := by
  cases segments with
  | nil => exact fun c hc => nomatch hc
  | cons segment segments => exact fun c hc => (Option.some.inj hc).symm

theorem toList_segmentsText (segments : List (List Char)) :
    (segmentsText segments).toList = pathOf segments := String.toList_ofList

section Segments

variable {segment : List Char} {segments : List (List Char)}

theorem isPlainSegment_iff : isPlainSegment segment = true ↔
    (∀ c ∈ segment, Text.isAscii c = true ∧ inPath c = false ∧ isSlash .web c = false) ∧
      isDot segment = false ∧ isDoubleDot segment = false := by
  simp [isPlainSegment, and_assoc]

theorem percentEncode_plain (h : isPlainSegment segment = true) :
    percentEncode inPath segment = segment := by
  have hchars := (isPlainSegment_iff.mp h).1
  have hself : ∀ c ∈ segment, percentChar inPath c = [c] := fun c hc => by
    simp [percentChar, hchars c hc]
  rw [percentEncode, List.flatMap_def, List.map_congr_left hself, ← List.flatMap_def]
  exact List.flatMap_singleton' segment

theorem splitSegments_ne_nil (kind : SchemeKind) (cs : List Char) : splitSegments kind cs ≠ [] := by
  cases cs with
  | nil => exact List.cons_ne_nil _ _
  | cons c cs =>
    rw [splitSegments, List.foldr_cons]
    split
    · exact List.cons_ne_nil _ _
    · split <;> exact List.cons_ne_nil _ _

/-- A slash separates segments. -/
theorem splitSegments_append (kind : SchemeKind) (front back : List Char) :
    splitSegments kind (front ++ '/' :: back) =
      splitSegments kind front ++ splitSegments kind back := by
  induction front with
  | nil => simp [splitSegments, isSlash]
  | cons c front ih =>
    have hsome := splitSegments_ne_nil kind front
    unfold splitSegments at ih hsome ⊢
    rw [List.cons_append, List.foldr_cons, List.foldr_cons, ih]
    split
    · rfl
    · obtain ⟨first, rest, hfirst⟩ := List.exists_cons_of_ne_nil hsome
      rw [hfirst]
      rfl

theorem splitSegments_plain (h : isPlainSegment segment = true) :
    splitSegments .web segment = [segment] := by
  have hchars := (isPlainSegment_iff.mp h).1
  clear h
  induction segment with
  | nil => rfl
  | cons c segment ih =>
    obtain ⟨hc, hsegment⟩ := List.forall_mem_cons.mp hchars
    have hrest := ih hsegment
    unfold splitSegments at hrest ⊢
    rw [List.foldr_cons, hrest, hc.2.2]
    rfl

theorem splitSegments_pathOf (h : ∀ s ∈ segment :: segments, isPlainSegment s = true) :
    splitSegments .web (segment ++ pathOf segments) = segment :: segments := by
  induction segments generalizing segment with
  | nil => simpa [pathOf] using splitSegments_plain (h segment List.mem_cons_self)
  | cons next segments ih =>
    obtain ⟨hsegment, hrest⟩ := List.forall_mem_cons.mp h
    rw [pathOf_cons, splitSegments_append, splitSegments_plain hsegment, ih hrest,
      List.singleton_append]

/-- Plain segments are added as they are. -/
theorem addSegments_plain (done : List (List Char))
    (h : ∀ s ∈ segments, isPlainSegment s = true) :
    addSegments .web done segments = done ++ segments := by
  induction segments generalizing done with
  | nil => simp [addSegments]
  | cons segment segments ih =>
    obtain ⟨hsegment, hrest⟩ := List.forall_mem_cons.mp h
    obtain ⟨-, hdot, hdouble⟩ := isPlainSegment_iff.mp hsegment
    simp [addSegments, hdot, hdouble, ih _ hrest]

/-- Plain segments at the end stay there, whatever the dots before them do. -/
theorem exists_addSegments_append (h : ∀ s ∈ segments, isPlainSegment s = true)
    (hsome : segments ≠ []) (done before : List (List Char)) :
    ∃ front, addSegments .web done (before ++ segments) = front ++ segments := by
  induction before generalizing done with
  | nil => exact ⟨done, addSegments_plain done h⟩
  | cons segment before ih =>
    have hmore : (before ++ segments).isEmpty = false := by simp [hsome]
    rw [List.cons_append, addSegments]
    simp only [hmore]
    split
    · exact ih _
    split
    · exact ih _
    · exact ih _

/-- What is written after a path becomes the end of it. -/
theorem exists_readPath_append (h : ∀ s ∈ segments, isPlainSegment s = true)
    (hsome : segments ≠ []) (left : List Char) :
    ∃ front, (readPath .web (left ++ pathOf segments)).toList = front ++ pathOf segments := by
  obtain ⟨segment, segments, rfl⟩ := List.exists_cons_of_ne_nil hsome
  have hencode : (segment :: segments).map (percentEncode inPath) = segment :: segments :=
    (List.map_congr_left fun s hs => percentEncode_plain (h s hs)).trans (List.map_id _)
  have hread (before : List Char) :
      ∃ front, readSegments .web (before ++ pathOf (segment :: segments)) =
        front ++ (segment :: segments) := by
    rw [pathOf_cons, readSegments, splitSegments_append, splitSegments_pathOf h, List.map_append,
      hencode]
    exact exists_addSegments_append h hsome [] _
  cases left with
  | nil =>
    have hpath : readPath .web ([] ++ pathOf (segment :: segments)) =
        segmentsText (readSegments .web (segment ++ pathOf segments)) := rfl
    have hself : readSegments .web (segment ++ pathOf segments) = segment :: segments := by
      rw [readSegments, splitSegments_pathOf h, hencode]
      exact addSegments_plain [] h
    exact ⟨[], by rw [hpath, toList_segmentsText, hself, List.nil_append]⟩
  | cons c left =>
    obtain ⟨front, hfront⟩ := hread (if isSlash .web c then left else c :: left)
    have hpath : readPath .web (c :: left ++ pathOf (segment :: segments)) =
        segmentsText (readSegments .web
          ((if isSlash .web c then left else c :: left) ++ pathOf (segment :: segments))) := by
      rw [List.cons_append, readPath]
      split <;> rfl
    exact ⟨pathOf front, by rw [hpath, toList_segmentsText, hfront, pathOf_append]⟩

theorem inPath_of_isOuterBlank {c : Char} (h : isOuterBlank c = true) : inPath c = true := by
  have hle : c.toNat ≤ 0x20 := of_decide_eq_true h
  obtain hlt | heq := Nat.lt_or_eq_of_le hle
  · simp [inPath, inFragment, isControl, hlt]
  · obtain rfl : c = ' ' := Char.toNat_inj.mp heq
    rfl

/-- Plain segments hold neither blanks nor marks. -/
theorem mem_pathOf {c : Char} (h : ∀ s ∈ segments, isPlainSegment s = true)
    (hc : c ∈ pathOf segments) : isOuterBlank c = false ∧ isMark c = false := by
  obtain ⟨s, hs, hc⟩ := List.mem_flatMap.mp hc
  obtain rfl | hc := List.mem_cons.mp hc
  · decide
  obtain ⟨-, hplain, -⟩ := (isPlainSegment_iff.mp (h s hs)).1 c hc
  constructor
  · exact Bool.eq_false_iff.mpr fun hblank => by simp [inPath_of_isOuterBlank hblank] at hplain
  · rw [Bool.eq_false_iff]
    intro hmark
    obtain rfl | rfl := eq_of_isMark hmark <;> exact absurd hplain (by decide)

end Segments

/-! ## The path of an address -/

theorem isPath_eq_not_isMark (c : Char) : (c != '?' && c != '#') = !isMark c :=
  (Bool.not_or _ _).symm

theorem takePath_eq (cs : List Char) :
    takePath cs = (cs.takeWhile fun c => !isMark c, cs.dropWhile fun c => !isMark c) := by
  simp only [takePath, isPath_eq_not_isMark]

/-- Without marks everything that is left is the path. -/
theorem finishUrl_of_unmarked (scheme : String) (authority : Option Authority)
    (path : List Char → String) {cs : List Char} (h : ∀ c ∈ cs, isMark c = false) :
    finishUrl scheme .web authority path cs = ⟨scheme, authority, path cs, none, none⟩ := by
  have hall : ∀ c ∈ cs, (!isMark c) = true := fun c hc => by rw [h c hc]; rfl
  have htake : takePath cs = (cs, []) := by
    rw [takePath_eq, List.takeWhile_eq_self_iff.mpr hall, List.dropWhile_eq_nil_iff.mpr hall]
  rw [finishUrl, htake]
  rfl

/-- What is written after a mark is not in the path. -/
theorem path_finishUrl_of_marked (scheme : String) (authority : Option Authority)
    (path : List Char → String) {left : List Char} (h : ∃ c ∈ left, isMark c = true)
    (tail : List Char) :
    (finishUrl scheme .web authority path (left ++ tail)).path =
      path (left.takeWhile fun c => !isMark c) := by
  obtain ⟨c, hc, hmark⟩ := h
  have hstops : (left.takeWhile fun c => !isMark c).length ≠ left.length := by
    intro hlength
    have hself := (List.takeWhile_prefix fun c => !isMark c).eq_of_length hlength
    have hgoes := List.takeWhile_eq_self_iff.mp hself c hc
    simp [hmark] at hgoes
  have htake : (takePath (left ++ tail)).1 = left.takeWhile fun c => !isMark c := by
    rw [takePath_eq, List.takeWhile_append, if_neg hstops]
  exact congrArg path htake

end ClusterAudit.Web
