import Relaunch.Proofs.Config.Checks

/-!
# Proofs/Registry/Endpoint — the base of all request URLs

The endpoint of a client is its URL with white space taken off both ends and then slashes off the
back, in that order and once each.  So white space behind which only slashes stand comes to the end
and stays there, and of a URL with nothing but slashes behind its scheme the scheme itself is cut.

* `exists_slashes`, `not_slash_of_getLast?` — what is cut off a trimmed URL.
* `isNormal_normalize_iff` — the URLs whose endpoint is in normal form.
* `normalize_normalize_iff` — those whose endpoint is its own endpoint.
* `endpoint_of_valid` — the endpoint of a configuration that passes the checks, and the URLs of its
  requests.
-/

namespace Relaunch.Http

open Text

/-- **A base of request URLs in normal form**: a scheme, no white space at either end, and no slash
at the back. -/
structure IsNormal (base : String) : Prop where
  scheme : Config.hasScheme base = true
  trimmed : IsTrimmed base
  noSlash : '/' ∉ base.toList.getLast?

/-- The two schemes. -/
def schemes : List String := ["http://", "https://"]

/-- **Something but slashes stands behind the scheme.** -/
def HasHost (url : String) : Prop :=
  ∃ scheme ∈ schemes, ∃ rest, url.toList = scheme.toList ++ rest ∧ ∃ c ∈ rest, c ≠ '/'

/-- **And the last of it that is no slash is no white space.** -/
def IsClosed (url : String) : Prop :=
  ∃ scheme ∈ schemes, ∃ body last slashes,
    url.toList = scheme.toList ++ (body ++ [last]) ++ slashes ∧
      last ≠ '/' ∧ isSpace last = false ∧ ∀ c ∈ slashes, c = '/'

/-! ## Cutting slashes -/

variable {url : String}

theorem toList_normalize (url : String) :
    (normalize url).toList = dropRight (· == '/') (trim url).toList :=
  String.toList_ofList

/-- **What is cut off a trimmed URL are slashes**, -/
theorem exists_slashes (url : String) : ∃ slashes,
    (trim url).toList = (normalize url).toList ++ slashes ∧ ∀ c ∈ slashes, c = '/' := by
  obtain ⟨slashes, parts, all⟩ := exists_dropRight (· == '/') (trim url).toList
  rw [← toList_normalize] at parts
  exact ⟨slashes, parts, fun c mem => beq_iff_eq.mp (all c mem)⟩

/-- and all of them at the back. -/
theorem not_slash_of_getLast? (url : String) : '/' ∉ (normalize url).toList.getLast? := by
  intro last
  rw [toList_normalize] at last
  exact absurd (getLast?_dropRight last) (by decide)

/-- What stands before slashes and ends in none is what is left when they are cut. -/
theorem toList_normalize_of_parts {kept slashes : List Char}
    (parts : (trim url).toList = kept ++ slashes) (all : ∀ c ∈ slashes, c = '/')
    (noSlash : '/' ∉ kept.getLast?) : (normalize url).toList = kept := by
  rw [toList_normalize, parts]
  refine dropRight_append (fun c last => ?_) fun c mem => beq_iff_eq.mpr (all c mem)
  exact beq_eq_false_iff_ne.mpr fun slash => noSlash (slash ▸ last)

/-- There is no white space in front. -/
theorem front_normalize (url : String) :
    ∀ c ∈ (normalize url).toList.head?, isSpace c = false := by
  intro c first
  obtain ⟨slashes, parts, -⟩ := exists_slashes url
  refine (isTrimmed_trim url).front c ?_
  rw [parts, List.head?_append, Option.mem_def.mp first]
  rfl

/-- **An endpoint is its own endpoint if and only if it is trimmed.** -/
theorem normalize_normalize_iff (url : String) :
    normalize (normalize url) = normalize url ↔ IsTrimmed (normalize url) := by
  constructor
  · intro again
    -- what is left is as long as before, so nothing was taken off
    obtain ⟨slashes, cut, -⟩ := exists_slashes (normalize url)
    obtain ⟨front, back, around, -, -⟩ := exists_trim (normalize url)
    have lengths := congrArg List.length around
    rw [cut, again] at lengths
    simp only [List.length_append] at lengths
    obtain rfl : slashes = [] := List.eq_nil_of_length_eq_zero (by omega)
    rw [again, List.append_nil] at cut
    exact trim_eq_self_iff.mp (String.toList_injective cut)
  · intro trimmed
    refine String.toList_injective (toList_normalize_of_parts ?_ (List.forall_mem_nil _) ?_)
    · rw [trimmed.trim_eq, List.append_nil]
    · exact not_slash_of_getLast? url

/-! ## Schemes -/

theorem hasScheme_iff_exists :
    Config.hasScheme url = true ↔ ∃ scheme ∈ schemes, scheme.toList <+: url.toList := by
  rw [Config.hasScheme_iff]
  simp [schemes]

/-- A scheme is a name and two slashes. -/
theorem exists_name {scheme : String} (mem : scheme ∈ schemes) :
    ∃ name ∈ ["http:", "https:"], scheme.toList = name.toList ++ ['/', '/'] := by
  rcases List.mem_pair.mp mem with rfl | rfl
  · exact ⟨"http:", List.mem_cons_self, by decide⟩
  · exact ⟨"https:", List.mem_cons_of_mem _ List.mem_cons_self, by decide⟩

theorem not_slash_of_name {name : String} (mem : name ∈ ["http:", "https:"]) :
    '/' ∉ name.toList.getLast? := by
  rcases List.mem_pair.mp mem with rfl | rfl <;> decide

/-- **An endpoint has a scheme** if and only if something but slashes stands behind that of the
URL. -/
theorem hasScheme_normalize_iff :
    Config.hasScheme (normalize url) = true ↔ HasHost (trim url) := by
  rw [hasScheme_iff_exists]
  constructor
  · rintro ⟨scheme, mem, rest, parts⟩
    obtain ⟨slashes, cut, -⟩ := exists_slashes url
    refine ⟨scheme, mem, rest ++ slashes, by rw [cut, ← parts, List.append_assoc], ?_⟩
    -- were there nothing behind the scheme, the endpoint would end in its slashes
    have noSlash := not_slash_of_getLast? url
    obtain ⟨name, -, eq⟩ := exists_name mem
    rcases rest.eq_nil_or_concat with rfl | ⟨body, last, rfl⟩
    · rw [← parts, eq] at noSlash
      simp at noSlash
    · rw [← parts] at noSlash
      refine ⟨last, by simp, ?_⟩
      rintro rfl
      simp at noSlash
  · rintro ⟨scheme, mem, rest, parts, c, behind, other⟩
    obtain ⟨slashes, eq, all⟩ := exists_dropRight (· == '/') rest
    have all (c) (mem : c ∈ slashes) : c = '/' := beq_iff_eq.mp (all c mem)
    have parts : (trim url).toList = scheme.toList ++ dropRight (· == '/') rest ++ slashes := by
      rw [parts, List.append_assoc, ← eq]
    refine ⟨scheme, mem, _, (toList_normalize_of_parts parts all fun last => ?_).symm⟩
    have some_left : dropRight (· == '/') rest ≠ [] := by
      intro none
      rw [none, List.nil_append] at eq
      exact other (all c (eq ▸ behind))
    rw [List.getLast?_append_of_ne_nil _ some_left] at last
    exact absurd (getLast?_dropRight last) (by decide)

/-- **Otherwise the name of the scheme is all that is left.** -/
theorem normalize_of_not_hasScheme (scheme : Config.hasScheme (trim url) = true)
    (cut : ¬ Config.hasScheme (normalize url) = true) : normalize url ∈ ["http:", "https:"] := by
  obtain ⟨scheme, mem, rest, parts⟩ := hasScheme_iff_exists.mp scheme
  obtain ⟨name, named, eq⟩ := exists_name mem
  have all (c) (behind : c ∈ rest) : c = '/' := by
    by_contra other
    exact cut (hasScheme_normalize_iff.mpr ⟨scheme, mem, rest, parts.symm, c, behind, other⟩)
  have cut_off : (trim url).toList = name.toList ++ (['/', '/'] ++ rest) := by
    rw [← parts, eq, List.append_assoc]
  have slashes (c) (behind : c ∈ ['/', '/'] ++ rest) : c = '/' := by
    rcases List.mem_append.mp behind with mem | mem
    · simpa using mem
    · exact all c mem
  have left := toList_normalize_of_parts cut_off slashes (not_slash_of_name named)
  exact String.toList_injective left ▸ named

/-- **The URLs whose endpoint is in normal form.** -/
theorem isNormal_normalize_iff : IsNormal (normalize url) ↔ IsClosed (trim url) := by
  constructor
  · intro normal
    obtain ⟨scheme, mem, rest, parts⟩ := hasScheme_iff_exists.mp normal.scheme
    obtain ⟨slashes, cut, all⟩ := exists_slashes url
    rcases rest.eq_nil_or_concat with rfl | ⟨body, last, rfl⟩
    · obtain ⟨name, -, eq⟩ := exists_name mem
      have noSlash := normal.noSlash
      rw [← parts, eq] at noSlash
      simp at noSlash
    · have its : (normalize url).toList.getLast? = some last := by rw [← parts]; simp
      refine ⟨scheme, mem, body, last, slashes, by rw [cut, ← parts, List.concat_eq_append], ?_,
        normal.trimmed.back last its, all⟩
      rintro rfl
      exact normal.noSlash its
  · rintro ⟨scheme, mem, body, last, slashes, parts, other, kept, all⟩
    have its : (scheme.toList ++ (body ++ [last])).getLast? = some last := by simp
    have left : (normalize url).toList = scheme.toList ++ (body ++ [last]) := by
      refine toList_normalize_of_parts parts all ?_
      rw [its]
      exact fun slash => other (Option.some.inj slash)
    exact {
      scheme := hasScheme_iff_exists.mpr ⟨scheme, mem, _, left.symm⟩
      trimmed := {
        front := front_normalize url
        back := by
          rw [left, its]
          rintro c ⟨⟩
          exact kept }
      noSlash := not_slash_of_getLast? url }

/-! ## Clients -/

namespace Client

/-- **There is a client of any URL**, given some time and a token that can stand in a header. -/
theorem make_eq_ok {options : Options} (limit : .zero < options.timeout)
    (legal : ∀ token ∈ options.token, ∀ c ∈ token.toList, isHeaderChar c = true) (url : String) :
    make url options = .ok ⟨normalize url, options⟩ := by
  have timeout : ¬ options.timeout.isZero = true := fun zero =>
    Duration.zero_lt_iff.mp limit (Duration.isZero_iff.mp zero)
  have token : options.token.all (fun token => token.toList.all isHeaderChar) = true := by
    cases its : options.token with
    | none => rfl
    | some token => exact List.all_eq_true.mpr (legal token its)
  rw [make, if_neg timeout, token]
  rfl

/-- A path begins with one slash. -/
theorem exists_of_path {path : String} (mem : path ∈ [listPath, failurePath]) :
    ∃ rest, path.toList = '/' :: rest ∧ '/' ∉ rest.head? := by
  rcases List.mem_pair.mp mem with rfl | rfl
  · exact ⟨"api/v1/workload/list".toList, by decide, by decide⟩
  · exact ⟨"api/v1/workload/failure".toList, by decide, by decide⟩

end Client

/-- **The endpoint of a configuration** that passes the checks, with a token that can stand in a
header.

* It is the trimmed URL without the slashes at its back; it does not end in a slash, nor does it
  begin with white space.
* It keeps its scheme, unless only slashes stand behind that: the name of the scheme is then all
  that is left.
* It is in normal form if and only if something but slashes stands behind the scheme and the last
  such character is no white space.
* Making a client of it gives the same client if and only if it is trimmed.
* The URL of a request is the endpoint, one slash, and the rest of the path. -/
theorem endpoint_of_valid {c : Config} (valid : c.validate = .ok ())
    (legal : ∀ token ∈ c.authToken, ∀ ch ∈ token.toList, isHeaderChar ch = true) :
    ∃ client, Client.ofConfig c = .ok client ∧ client.options = .ofConfig c ∧
      (∃ slashes, (trim c.registryUrl).toList = client.endpoint.toList ++ slashes ∧
        ∀ ch ∈ slashes, ch = '/') ∧
      '/' ∉ client.endpoint.toList.getLast? ∧
      (∀ ch ∈ client.endpoint.toList.head?, isSpace ch = false) ∧
      (Config.hasScheme client.endpoint = true ↔ HasHost (trim c.registryUrl)) ∧
      (¬ HasHost (trim c.registryUrl) → client.endpoint ∈ ["http:", "https:"]) ∧
      (IsNormal client.endpoint ↔ IsClosed (trim c.registryUrl)) ∧
      (Client.make client.endpoint client.options = .ok client ↔ IsTrimmed client.endpoint) ∧
      ∀ path ∈ [Client.listPath, Client.failurePath], ∃ rest,
        (client.requestUrl path).toList = client.endpoint.toList ++ '/' :: rest ∧
          path.toList = '/' :: rest ∧ '/' ∉ rest.head? := by
  have accepted := Config.validate_eq_ok_iff.mp valid
  have make : ∀ url, Client.make url (.ofConfig c) = .ok ⟨normalize url, .ofConfig c⟩ :=
    Client.make_eq_ok accepted.requestTimeout legal
  refine ⟨⟨normalize c.registryUrl, .ofConfig c⟩, ?_, rfl, exists_slashes c.registryUrl,
    not_slash_of_getLast? c.registryUrl, front_normalize c.registryUrl, hasScheme_normalize_iff,
    fun none => ?_, isNormal_normalize_iff, ?_, fun path mem => ?_⟩
  · rw [Client.ofConfig, valid]
    exact make c.registryUrl
  · exact normalize_of_not_hasScheme (Config.hasScheme_iff.mpr accepted.scheme)
      fun scheme => none (hasScheme_normalize_iff.mp scheme)
  · rw [make, Except.ok.injEq, Client.mk.injEq, and_iff_left rfl]
    exact normalize_normalize_iff c.registryUrl
  · obtain ⟨rest, eq, one⟩ := Client.exists_of_path mem
    exact ⟨rest, by rw [Client.requestUrl, String.toList_append, eq], eq, one⟩

/-- A URL with a port, slashes and blanks behind it, and a token. -/
theorem endpoint_of_valid_of_slashes :
    let c : Config := {
      registryUrl := "\thttps://r.invalid:8007// \u3000"
      authToken := some "t"
      dataPlane := "dp"
      parallelism := 1
      initialBackoff := .ofSecs 1
      maxBackoff := .ofSecs 1
      requestTimeout := .ofSecs 1
      recoveryInterval := none }
    c.validate = .ok () ∧
      (∀ token ∈ c.authToken, ∀ ch ∈ token.toList, isHeaderChar ch = true) ∧
      ∃ client, Client.ofConfig c = .ok client ∧ client.endpoint = "https://r.invalid:8007" ∧
        IsNormal client.endpoint := by
  intro c
  have valid : c.validate = .ok () := by decide +kernel
  have legal : ∀ token ∈ c.authToken, ∀ ch ∈ token.toList, isHeaderChar ch = true := by
    intro token its
    obtain rfl : "t" = token := Option.some.inj its
    exact List.all_eq_true.mp (by decide)
  obtain ⟨client, made, -, -, -, -, -, -, normal, -, -⟩ := endpoint_of_valid valid legal
  refine ⟨valid, legal, client, made, ?_, normal.mpr ?_⟩
  · have same : Client.ofConfig c = .ok ⟨"https://r.invalid:8007", .ofConfig c⟩ := by
      decide +kernel
    exact congrArg Client.endpoint (Except.ok.inj (made.symm.trans same))
  · exact ⟨"https://", by decide, "r.invalid:800".toList, '7', ['/', '/'], by decide +kernel,
      by decide, by decide, by simp⟩

/-- **Not every endpoint is in normal form**: white space behind the last slashes comes to the end,
and a URL of a scheme alone loses the scheme. -/
theorem not_isNormal_of_mixed :
    let c (url : String) : Config := {
      registryUrl := url
      authToken := none
      dataPlane := "dp"
      parallelism := 10
      initialBackoff := .ofSecs 20
      maxBackoff := .ofSecs 600
      requestTimeout := .ofSecs 30
      recoveryInterval := none }
    let mixed := c "http://r.invalid/ /"
    let bare := c "http://"
    (mixed.validate = .ok () ∧ ∃ client, Client.ofConfig mixed = .ok client ∧
      client.endpoint = "http://r.invalid/ " ∧ ¬ IsNormal client.endpoint ∧
      Client.make client.endpoint client.options = .ok ⟨"http://r.invalid", client.options⟩) ∧
    (bare.validate = .ok () ∧ ∃ client, Client.ofConfig bare = .ok client ∧
      client.endpoint = "http:" ∧ ¬ IsNormal client.endpoint ∧
      client.requestUrl Client.listPath = "http:/api/v1/workload/list") := by
  intro c mixed bare
  constructor
  · refine ⟨by decide +kernel, ⟨"http://r.invalid/ ", ⟨.ofSecs 30, none⟩⟩, by decide +kernel, rfl,
      fun normal => ?_, by decide +kernel⟩
    exact absurd (normal.trimmed.back ' ' (by decide)) (by decide)
  · refine ⟨by decide +kernel, ⟨"http:", ⟨.ofSecs 30, none⟩⟩, by decide +kernel, rfl,
      fun normal => ?_, by decide +kernel⟩
    exact absurd normal.scheme (by decide)

end Relaunch.Http
