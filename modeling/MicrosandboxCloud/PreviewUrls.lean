import Mathlib.Data.Bool.AllAny
import MicrosandboxCloud.Proxy
import MicrosandboxCloud.Text.Json
import MicrosandboxCloud.Text.Url

/-!
# Microsandbox — preview URLs

The paths that `getPreviewUrl` and `getSignedPreviewUrl` build, and what `ProxyService.extract`
makes of them.

* **`previewPath` / `signedPreviewPath`** — what follows the base URL.
* **`newUrl`** — `new URL(rawUrl, 'http://localhost')` on an absolute path.
* **`preview_urls_parse_back`** — a preview path with a path and a query after it is read as what it
  was built from, and no path is on both routes.
-/

namespace Microsandbox

open Text ProxyService
open Text.Url

/-! ## Building

The service appends one of these paths to the base URL of the API. The id and the token go through
`encodeURIComponent`, the port through the template literal, so as its decimal digits. -/

namespace RuntimeControl

/-- `` `/proxy/${encodeURIComponent(sandboxId)}/ports/${port}` `` -/
def previewPath (sandboxId : String) (port : Int) : List Char :=
  "/proxy/".toList ++
    (encodeURIComponent sandboxId.toList ++ ("/ports/".toList ++ Json.intText port))

/-- `` `/proxy/signed/${encodeURIComponent(token)}/ports/${port}` `` -/
def signedPreviewPath (token : String) (port : Int) : List Char :=
  "/proxy/signed/".toList ++
    (encodeURIComponent token.toList ++ ("/ports/".toList ++ Json.intText port))

end RuntimeControl

open RuntimeControl

/-! ## Reading

The proxy parses the URL of a request anew, against a base that is there only because `new URL`
wants an absolute one. What it sees is therefore the path after the parser of the URL standard has
removed dot segments and escaped characters. -/

/-- `new URL(rawUrl, 'http://localhost')`. What is no absolute path is left to `other`. -/
def newUrl (other : UrlParser) : UrlParser := fun rawUrl =>
  match clean rawUrl.toList with
  | '/' :: input =>
    if input.head? = some '/' ∨ input.head? = some '\\' then other rawUrl
    else
      let parts := parsePath input
      .ok
        { pathname := String.ofList parts.pathname
          search := String.ofList parts.search
          searchParam := fun name => (parts.searchParam name.toList).map String.ofList }
  | _ => other rawUrl

/-- A path after the port: nothing, or a slash and a normal path. -/
def IsSuffix (suffix : List Char) : Prop :=
  suffix = [] ∨ ∃ path, suffix = '/' :: path ∧ IsNormalPath path

/-- `[A-Za-z0-9_-]` -/
def isBase64UrlChar (c : Char) : Bool :=
  (97 ≤ c.toNat && c.toNat ≤ 122) || (65 ≤ c.toNat && c.toNat ≤ 90)
    || (48 ≤ c.toNat && c.toNat ≤ 57) || c == '-' || c == '_'

/-- A nonempty text of the URL-safe base64 alphabet. -/
def IsBase64Url (token : String) : Prop :=
  token.toList ≠ [] ∧ ∀ c ∈ token.toList, isBase64UrlChar c = true

/-! ## Segments

A stored id and a stored token consist of unreserved characters. Such a text is not changed by
`encodeURIComponent` when the link is built, nor by the URL parser or `decodeURIComponent` when it
is read. -/

section Segments

variable {c : Char} {segment suffix : List Char} {port : Int}

theorem isUnreserved_of_isIdChar (h : isIdChar c = true) : isUnreserved c = true := by
  simp only [isIdChar, Bool.or_eq_true, Bool.and_eq_true, decide_eq_true_eq, beq_iff_eq] at h
  simp only [isUnreserved, Bool.or_eq_true, Bool.and_eq_true, decide_eq_true_eq, List.mem_cons]
  tauto

theorem isUnreserved_of_isBase64UrlChar (h : isBase64UrlChar c = true) : isUnreserved c = true := by
  simp only [isBase64UrlChar, Bool.or_eq_true, Bool.and_eq_true, decide_eq_true_eq,
    beq_iff_eq] at h
  simp only [isUnreserved, Bool.or_eq_true, Bool.and_eq_true, decide_eq_true_eq, List.mem_cons]
  tauto

/-- And so are the digits of a port. -/
theorem isUnreserved_of_isDigit (h : Text.isDigit c = true) : isUnreserved c = true := by
  simp only [Text.isDigit, Bool.and_eq_true, decide_eq_true_eq] at h
  simp only [isUnreserved, Bool.or_eq_true, Bool.and_eq_true, decide_eq_true_eq]
  tauto

/-- A text that `encodeURIComponent` keeps and that no parser takes for a dot. -/
structure IsUnreservedSegment (segment : List Char) : Prop where
  nonempty : segment ≠ []
  chars : ∀ c ∈ segment, isUnreserved c = true
  head : segment.head? ≠ some '.'

theorem IsUnreservedSegment.plain (h : IsUnreservedSegment segment) : IsPlainSegment segment :=
  isPlainSegment_of_isUnreserved h.chars h.head

/-- Without a percent sign there is nothing to decode. -/
theorem IsUnreservedSegment.decode_eq (h : IsUnreservedSegment segment) :
    decode segment = .ok (String.ofList segment) := by
  have hpercent : '%' ∉ segment := fun hmem =>
    (isPathChar_of_isUnreserved (h.chars _ hmem)).2.2 rfl
  exact decode_eq_ok.mpr (decodeURIComponent_eq_self hpercent)

/-- A normal form is not empty and does not begin with a dot, so no parser takes it for the current
or the parent directory. -/
theorem isUnreservedSegment_of_isNormal {v : String} (h : IsNormal v) :
    IsUnreservedSegment v.toList where
  nonempty := h.nonempty
  chars := fun c hc => isUnreserved_of_isIdChar (h.idChars c hc)
  head := fun hdot => absurd (h.head '.' hdot) (by decide)

/-- The alphabet of the tokens has no dot. -/
theorem isUnreservedSegment_of_isBase64Url {token : String} (h : IsBase64Url token) :
    IsUnreservedSegment token.toList where
  nonempty := h.1
  chars := fun c hc => isUnreserved_of_isBase64UrlChar (h.2 c hc)
  head := fun hdot => absurd (h.2 '.' (List.mem_of_mem_head? hdot)) (by decide)

/-! ### The port

The digits are read back by `Number`, which returns the nearest double. A port below 2⁵³ is a double
itself. -/

/-- A positive number is printed without a sign. -/
theorem intText_of_pos (hport : 0 < port) :
    Json.intText port = Nat.toDigits 10 port.natAbs := if_neg (by omega)

theorem isDigit_of_mem_intText (hport : 0 < port) (hc : c ∈ Json.intText port) :
    Text.isDigit c = true := by
  rw [intText_of_pos hport] at hc
  rw [isDigit_eq]
  exact Nat.isDigit_of_mem_toDigits (by decide) (by decide) hc

theorem isUnreservedSegment_intText (hport : 0 < port) :
    IsUnreservedSegment (Json.intText port) where
  nonempty := by
    rw [intText_of_pos hport]
    exact Nat.toDigits_ne_nil
  chars := fun c hc => isUnreserved_of_isDigit (isDigit_of_mem_intText hport hc)
  head := fun hdot =>
    absurd (isDigit_of_mem_intText hport (List.mem_of_mem_head? hdot)) (by decide)

/-- What was printed is read back, below the bound up to which every natural number is a double. -/
theorem number_intText (hport : 0 < port ∧ port < 9007199254740992) :
    number (Json.intText port) = port := by
  have hexact : port.natAbs < Nat.pow 2 53 := by
    rw [show Nat.pow 2 53 = 9007199254740992 from rfl]
    omega
  rw [intText_of_pos hport.1, number_toDigits hexact]
  exact Int.natAbs_of_nonneg (Int.le_of_lt hport.1)

/-! ### The suffix

What follows the port in the path is forwarded as it is. It may look like a route of the proxy
itself; the port is read before it. -/

/-- A path has no line breaks, which the dot of the regular expression would not match. -/
theorem isLineTerminator_of_isPathChar (h : IsPathChar c) : isLineTerminator c = false := by
  have hset := (Bool.or_eq_false_iff.mp h.1).1
  simp only [inQuerySet, Bool.or_eq_false_iff, decide_eq_false_iff_not, Nat.not_lt] at hset
  simp only [isLineTerminator, decide_eq_false_iff_not, List.mem_cons, List.not_mem_nil, or_false]
  omega

/-- A suffix is what the last group of the regular expression of the routes matches. -/
theorem isTail_of_isSuffix (h : IsSuffix suffix) : isTail suffix = true := by
  rcases h with rfl | ⟨path, rfl, hpath⟩
  · rfl
  · have hall : ∀ c ∈ path, (!isLineTerminator c) = true := by
      intro c hc
      rw [isLineTerminator_of_isPathChar (hpath.chars c hc)]
      rfl
    simpa [isTail] using hall

/-- The digits and what follows them are a normal path. -/
theorem isNormalPath_port (hport : 0 < port) (hsuffix : IsSuffix suffix) :
    IsNormalPath (Json.intText port ++ suffix) := by
  have hdigits := (isUnreservedSegment_intText hport).plain
  rcases hsuffix with rfl | ⟨path, rfl, hpath⟩
  · rw [List.append_nil]
    exact hdigits.isNormalPath
  · exact hdigits.cons hpath

end Segments

/-! ## Reading a preview path

The text is split into its parts once, for both routes: a route is a literal that begins with a
slash and that a normal path may follow. -/

section Reading

variable {other : UrlParser} {segment suffix query path : List Char} {port : Int}

/-- What the parser returns for a normal path and query: they come back as they are. The path must
not begin with a second slash, which would make what follows it a host. -/
theorem newUrl_normal (other : UrlParser) (hpath : IsNormalPath path)
    (hquery : IsNormalSearch query) (hhead : path.head? ≠ some '/') :
    ∃ u, newUrl other (String.ofList ('/' :: (path ++ query))) = .ok u ∧
      u.pathname.toList = '/' :: path ∧ u.search = String.ofList query := by
  -- the case that is left to `other`: a second slash or a backslash would begin a host
  have hstart : ¬ ((path ++ query).head? = some '/' ∨ (path ++ query).head? = some '\\') := by
    cases path with
    | nil =>
      rcases hquery with rfl | ⟨text, rfl, -⟩
      · simp
      · simp
    | cons c path =>
      have hslash : c ≠ '/' := by simpa using hhead
      have hback : c ≠ '\\' := (hpath.chars c List.mem_cons_self).2
      simp [hslash, hback]
  obtain ⟨hpathname, hsearch⟩ := parsePath_eq hpath hquery
  unfold newUrl
  rw [String.toList_ofList, clean_normal hpath hquery]
  simp only [if_neg hstart]
  exact ⟨_, rfl, by simpa using hpathname, congrArg String.ofList hsearch⟩

/-- A literal that a segment may follow: a slash, and segments with a slash after each. -/
structure IsRoute (literal route : List Char) : Prop where
  eq : literal = '/' :: route
  head : ∀ s, (route ++ s).head? ≠ some '/'
  normal : ∀ s, IsNormalPath s → IsNormalPath (route ++ s)

theorem isRoute_standard : IsRoute standardRoute "proxy/".toList where
  eq := rfl
  head := fun s => by simp
  normal := fun s hs =>
    have hproxy : IsPlainSegment "proxy".toList :=
      isPlainSegment_of_isUnreserved (by simp [isUnreserved]) (by decide)
    hproxy.cons hs

theorem isRoute_signed : IsRoute signedRoute "proxy/signed/".toList where
  eq := rfl
  head := fun s => by simp
  normal := fun s hs =>
    have hsigned : IsPlainSegment "signed".toList :=
      isPlainSegment_of_isUnreserved (by simp [isUnreserved]) (by decide)
    isRoute_standard.normal _ (hsigned.cons hs)

/-- A preview path is on its route, and its parts are what it was built from. Both kinds of links
are read by this lemma, which is why the literal is a parameter. -/
theorem onRoute_preview (other : UrlParser) {literal route : List Char}
    (hroute : IsRoute literal route) (hsegment : IsUnreservedSegment segment) (hport : 0 < port)
    (hsuffix : IsSuffix suffix) (hquery : IsNormalSearch query) :
    ∃ u, OnRoute (newUrl other) literal
        (some (String.ofList (literal ++
          (segment ++ ("/ports/".toList ++ Json.intText port)) ++ suffix ++ query))) u
        ⟨segment, Json.intText port, suffix⟩ ∧
      u.search = String.ofList query := by
  let path := route ++ (segment ++ '/' :: ("ports".toList ++ '/' :: (Json.intText port ++ suffix)))
  have hports : IsPlainSegment "ports".toList :=
    isPlainSegment_of_isUnreserved (by simp [isUnreserved]) (by decide)
  -- each part of the path is in normal form, so the URL parser leaves the whole alone
  have hnormal : IsNormalPath path :=
    hroute.normal _ (hsegment.plain.cons (hports.cons (isNormalPath_port hport hsuffix)))
  obtain ⟨u, hparse, hpathname, hsearch⟩ := newUrl_normal other hnormal hquery (hroute.head _)
  have htext : literal ++ (segment ++ ("/ports/".toList ++ Json.intText port)) ++ suffix ++
      query = '/' :: (path ++ query) := by
    simp [path, hroute.eq]
  -- the same path, grouped as the pattern of the route groups it
  have hspells : u.pathname.toList = literal ++
      (segment ++ ("/ports/".toList ++ (Json.intText port ++ suffix))) := by
    simp [hpathname, path, hroute.eq]
  refine ⟨u, ⟨?_, ?_⟩, hsearch⟩
  · rw [Option.getD_some, htext]
    exact hparse
  · exact
      { text := hspells
        segment_ne := hsegment.nonempty
        segment_plain := fun c hc =>
          bne_iff_ne.mpr (isPathChar_of_isUnreserved (hsegment.chars c hc)).2.1
        digits_ne := (isUnreservedSegment_intText hport).nonempty
        digits_digit := fun c hc => isDigit_of_mem_intText hport hc
        rest_tail := isTail_of_isSuffix hsuffix }

theorem previewPath_eq {id : String} (h : IsUnreservedSegment id.toList) :
    previewPath id port =
      standardRoute ++ (id.toList ++ ("/ports/".toList ++ Json.intText port)) :=
  congrArg (fun segment => standardRoute ++ (segment ++ ("/ports/".toList ++ Json.intText port)))
    (encodeURIComponent_eq_self h.chars)

theorem signedPreviewPath_eq {token : String} (h : IsUnreservedSegment token.toList) :
    signedPreviewPath token port =
      signedRoute ++ (token.toList ++ ("/ports/".toList ++ Json.intText port)) :=
  congrArg (fun segment => signedRoute ++ (segment ++ ("/ports/".toList ++ Json.intText port)))
    (encodeURIComponent_eq_self h.chars)

/-- What is forwarded after such a path: the suffix and the query. -/
theorem forwardedPath_eq {u : Url} (hsearch : u.search = String.ofList query)
    (segment digits : List Char) :
    forwardedPath u ⟨segment, digits, suffix⟩ =
      String.ofList ((if suffix = [] then ['/'] else suffix) ++ query) := by
  rw [forwardedPath, hsearch, String.ofList_append]
  split_ifs
  · rfl
  · rfl

end Reading

/-- **Preview URLs parse back to what they name.** With a path and a query after it, the link for a
sandbox is read as that sandbox, port, path and query, and a signed link as its token, port, path
and query. No path is on both routes, so the order in which the proxy tries them does not matter. -/
theorem preview_urls_parse_back (other : UrlParser) (headers : Headers) :
    (∀ value id port suffix query, normalizeSandboxId value = .ok id →
      0 < port → port < 9007199254740992 → IsSuffix suffix → IsNormalSearch query →
      ∃ token, extract (newUrl other)
          (String.ofList (previewPath id port ++ suffix ++ query)) headers =
        .ok (some (.standard id port
          (String.ofList ((if suffix = [] then ['/'] else suffix) ++ query)) token))) ∧
    (∀ token port suffix query, IsBase64Url token →
      0 < port → port < 9007199254740992 → IsSuffix suffix → IsNormalSearch query →
      extract (newUrl other)
          (String.ofList (signedPreviewPath token port ++ suffix ++ query)) headers =
        .ok (some (.signed token port
          (String.ofList ((if suffix = [] then ['/'] else suffix) ++ query))))) ∧
    ∀ pathname, matchPortPath signedRoute pathname = none ∨
      matchPortPath standardRoute pathname = none := by
  refine ⟨fun value id port suffix query hid hpos hexact hsuffix hquery => ?_,
    fun token port suffix query htoken hpos hexact hsuffix hquery => ?_, fun pathname => ?_⟩
  -- a standard link: the id has been normalised, so it is a plain segment
  · have hsegment := isUnreservedSegment_of_isNormal (normalizeSandboxId_isNormal hid)
    obtain ⟨u, hroute, hsearch⟩ :=
      onRoute_preview other isRoute_standard hsegment hpos hsuffix hquery
    have hread : extract (newUrl other) _ headers = _ :=
      extract_of_standard hroute hsegment.decode_eq
    rw [number_intText ⟨hpos, hexact⟩, forwardedPath_eq hsearch, String.ofList_toList] at hread
    rw [previewPath_eq hsegment]
    exact ⟨_, hread⟩
  -- a signed link
  · have hsegment := isUnreservedSegment_of_isBase64Url htoken
    obtain ⟨u, hroute, hsearch⟩ :=
      onRoute_preview other isRoute_signed hsegment hpos hsuffix hquery
    have hread : extract (newUrl other) _ headers = _ :=
      extract_of_signed hroute hsegment.decode_eq
    rw [number_intText ⟨hpos, hexact⟩, forwardedPath_eq hsearch, String.ofList_toList] at hread
    rw [signedPreviewPath_eq hsegment]
    exact hread
  -- a path on both routes has the word `ports` where the standard one wants digits
  · cases hsigned : matchPortPath signedRoute pathname with
    | none => exact Or.inl rfl
    | some p =>
      cases hstandard : matchPortPath standardRoute pathname with
      | none => exact Or.inr rfl
      | some q =>
        exact (routes_disjoint (matchPortPath_eq_some.mp hsigned)
          (matchPortPath_eq_some.mp hstandard)).elim

/-- A path that looks like another preview URL. -/
def nestedPath : List Char := "/ports/1/proxy/signed".toList

/-- A query with two parameters. -/
def pairQuery : List Char := "?q=1&r=a/b".toList

theorem isSuffix_nestedPath : IsSuffix nestedPath :=
  Or.inr ⟨"ports/1/proxy/signed".toList, rfl, List.all_iff_forall_prop.mp (by decide), by decide⟩

theorem isNormalSearch_pairQuery : IsNormalSearch pairQuery :=
  Or.inr ⟨"q=1&r=a/b".toList, rfl, by decide, List.all_iff_forall_prop.mp (by decide)⟩

/-- The sandbox `signed` and a signed token, with that path and that query. -/
theorem preview_urls_parse_back_nested :
    (∃ token, extract (newUrl parsePath)
        "/proxy/signed/ports/8080/ports/1/proxy/signed?q=1&r=a/b" (fun _ => none) =
      .ok (some (.standard "signed" 8080 "/ports/1/proxy/signed?q=1&r=a/b" token))) ∧
    extract (newUrl parsePath)
        "/proxy/signed/a-b_c/ports/8080/ports/1/proxy/signed?q=1&r=a/b" (fun _ => none) =
      .ok (some (.signed "a-b_c" 8080 "/ports/1/proxy/signed?q=1&r=a/b")) := by
  obtain ⟨hstandard, hsigned, -⟩ := preview_urls_parse_back parsePath fun _ => none
  constructor
  · obtain ⟨token, hread⟩ := hstandard "signed" "signed" 8080 nestedPath pairQuery
      (by decide +kernel) (by decide) (by decide) isSuffix_nestedPath isNormalSearch_pairQuery
    exact ⟨token, hread⟩
  · have htoken : IsBase64Url "a-b_c" := ⟨by decide, List.all_iff_forall_prop.mp (by decide)⟩
    exact hsigned "a-b_c" 8080 nestedPath pairQuery htoken (by decide) (by decide)
      isSuffix_nestedPath isNormalSearch_pairQuery

end Microsandbox
