import Relaunch.Config.Builder
import Relaunch.Proofs.Registry.Delay
import Relaunch.Proofs.Text.Trim
import Relaunch.Registry.Http

/-!
# Proofs/Config/Checks — which settings make a configuration

Settings are trimmed and then checked.  The checks look at trimmed texts in any case, so they say of
the settings as they come what they say of the trimmed ones; and what passed them once passes them
again.

* `Config.validate_eq_foldr` — the checks one after another, each said by itself (`Check.Fails`).
* `Config.new_eq_ok_iff`, `Config.new_eq_error_iff` — the settings that are accepted, and the first
  check that fails for the others.
* `Builder.ofSettings_eq`, `Builder.build_ofSettings` — of two values for one setting the later
  counts, and defaults fill the rest.
* `Config.Settled` — what holds of any configuration.
* `made_iff_acceptable` — all of it, from plain values and by setters.
-/

namespace Relaunch

/-! ## The checks -/

/-- **A check of settings.** -/
inductive Check where
  | scheme
  | dataPlane
  | parallelism
  | initialBackoff
  | maxBackoff
  | backoffOrder
  | requestTimeout
  | recoveryInterval
deriving DecidableEq

namespace Check

/-- **The order in which settings are checked.** -/
def inOrder : List Check := [
  scheme, dataPlane, parallelism, initialBackoff, maxBackoff, backoffOrder, requestTimeout,
  recoveryInterval]

theorem mem_inOrder (k : Check) : k ∈ inOrder := by cases k <;> decide

/-- **When settings fail a check.** -/
def Fails (c : Config) : Check → Prop
  | scheme => ¬ ("http://".toList <+: (Text.trim c.registryUrl).toList ∨
      "https://".toList <+: (Text.trim c.registryUrl).toList)
  | dataPlane => Text.trim c.dataPlane = ""
  | parallelism => c.parallelism = 0
  | initialBackoff => c.initialBackoff = .zero
  | maxBackoff => c.maxBackoff = .zero
  | backoffOrder => c.maxBackoff < c.initialBackoff
  | requestTimeout => c.requestTimeout = .zero
  | recoveryInterval => c.recoveryInterval = some .zero

/-- What is said of settings that fail it. -/
def error (c : Config) : Check → ConfigError
  | scheme => .scheme
  | dataPlane => .emptyDataPlane
  | parallelism => .zeroParallelism
  | initialBackoff => .zeroInitialBackoff
  | maxBackoff => .zeroMaxBackoff
  | backoffOrder => .backoffOrder c.initialBackoff c.maxBackoff
  | requestTimeout => .zeroRequestTimeout
  | recoveryInterval => .zeroRecoveryInterval

/-- **The first check that settings fail.** -/
def IsFirst (c : Config) (k : Check) : Prop :=
  ∃ before after, inOrder = before ++ k :: after ∧ Fails c k ∧ ∀ j ∈ before, ¬ Fails c j

instance (c : Config) : (k : Check) → Decidable (Fails c k)
  | scheme => inferInstanceAs (Decidable (¬ (_ ∨ _)))
  | dataPlane => inferInstanceAs (Decidable (_ = _))
  | parallelism => inferInstanceAs (Decidable (_ = _))
  | initialBackoff => inferInstanceAs (Decidable (_ = _))
  | maxBackoff => inferInstanceAs (Decidable (_ = _))
  | backoffOrder => inferInstanceAs (Decidable (_ < _))
  | requestTimeout => inferInstanceAs (Decidable (_ = _))
  | recoveryInterval => inferInstanceAs (Decidable (_ = _))

/-- What is said of settings by one check, if they fail it. -/
def fault? (c : Config) (k : Check) : Option ConfigError :=
  if Fails c k then some (k.error c) else none

/-- A check before others. -/
def guard (c : Config) (k : Check) (rest : Except ConfigError Unit) : Except ConfigError Unit :=
  if Fails c k then .error (k.error c) else rest

variable {c : Config} {k : Check} {e : ConfigError}

theorem fault?_eq_some_iff : fault? c k = some e ↔ Fails c k ∧ e = k.error c := by
  rw [fault?, Option.ite_none_right_eq_some, Option.some.injEq, eq_comm (a := k.error c)]

theorem fault?_eq_none_iff : fault? c k = none ↔ ¬ Fails c k := by
  rw [fault?, ite_eq_right_iff]
  exact ⟨fun none fails => Option.some_ne_none _ (none fails),
    fun passes fails => absurd fails passes⟩

/-- **Checks one after another: the first that fails is the error.** -/
theorem foldr_guard (c : Config) (ks : List Check) :
    ks.foldr (guard c) (.ok ()) = match ks.findSome? (fault? c) with
      | some e => .error e
      | none => .ok () := by
  induction ks with
  | nil => rfl
  | cons k ks ih =>
    rw [List.foldr_cons, ih, List.findSome?_cons, guard, fault?]
    split <;> rfl

/-- The first check that fails, among all of them. -/
theorem findSome?_fault?_eq_some_iff :
    inOrder.findSome? (fault? c) = some e ↔ ∃ k, IsFirst c k ∧ e = k.error c := by
  rw [List.findSome?_eq_some_iff]
  simp only [fault?_eq_some_iff, fault?_eq_none_iff]
  constructor
  · rintro ⟨before, k, after, order, ⟨fails, eq⟩, passed⟩
    exact ⟨k, ⟨before, after, order, fails, passed⟩, eq⟩
  · rintro ⟨k, ⟨before, after, order, fails, passed⟩, eq⟩
    exact ⟨before, k, after, order, ⟨fails, eq⟩, passed⟩

theorem findSome?_fault?_eq_none_iff :
    inOrder.findSome? (fault? c) = none ↔ ∀ k, ¬ Fails c k := by
  rw [List.findSome?_eq_none_iff]
  simp only [fault?_eq_none_iff]
  exact ⟨fun passes k => passes k (mem_inOrder k), fun passes k _ => passes k⟩

end Check

theorem Duration.isZero_iff {d : Duration} : d.isZero = true ↔ d = .zero := by
  rw [isZero, beq_iff_eq, Duration.ext_iff]
  rfl

namespace Config

theorem hasScheme_iff {url : String} :
    hasScheme url = true ↔ "http://".toList <+: url.toList ∨ "https://".toList <+: url.toList := by
  rw [hasScheme, Bool.or_eq_true, Text.beginsWith, Text.beginsWith, List.isPrefixOf_iff_prefix,
    List.isPrefixOf_iff_prefix]

/-- **The checks of a configuration**, one after another. -/
theorem validate_eq_foldr (c : Config) :
    c.validate = Check.inOrder.foldr (Check.guard c) (.ok ()) := by
  have interval : c.recoveryInterval.any Duration.isZero = true
      ↔ c.recoveryInterval = some .zero := by
    cases c.recoveryInterval with
    | none => exact ⟨nofun, nofun⟩
    | some d => rw [Option.any_some, Duration.isZero_iff, Option.some.injEq]
  simp only [validate, Check.inOrder, List.foldr_cons, List.foldr_nil]
  refine if_congr (not_congr hasScheme_iff) rfl ?_
  refine if_congr Text.isBlank_iff rfl ?_
  refine if_congr Iff.rfl rfl ?_
  refine if_congr Duration.isZero_iff rfl ?_
  refine if_congr Duration.isZero_iff rfl ?_
  refine if_congr Iff.rfl rfl ?_
  refine if_congr Duration.isZero_iff rfl ?_
  exact if_congr interval rfl rfl

/-! ## Settings that are accepted -/

/-- **Settings that make a configuration.** -/
structure Acceptable (c : Config) : Prop where
  scheme : "http://".toList <+: (Text.trim c.registryUrl).toList ∨
    "https://".toList <+: (Text.trim c.registryUrl).toList
  dataPlane : Text.trim c.dataPlane ≠ ""
  parallelism : 1 ≤ c.parallelism
  initialBackoff : .zero < c.initialBackoff
  backoffOrder : c.initialBackoff ≤ c.maxBackoff
  requestTimeout : .zero < c.requestTimeout
  recoveryInterval : c.recoveryInterval ≠ some .zero

end Config

theorem Duration.zero_lt_iff {d : Duration} : .zero < d ↔ d ≠ .zero := by
  rw [Ne, Duration.ext_iff, lt_def]
  exact Nat.pos_iff_ne_zero

namespace Config

variable {c d : Config} {e : ConfigError}

/-- They are those that fail no check. -/
theorem acceptable_iff : c.Acceptable ↔ ∀ k, ¬ Check.Fails c k := by
  constructor
  · intro ok k fails
    cases k with
    | scheme => exact fails ok.scheme
    | dataPlane => exact ok.dataPlane fails
    | parallelism => exact Nat.ne_of_gt ok.parallelism fails
    | initialBackoff => exact Duration.zero_lt_iff.mp ok.initialBackoff fails
    | maxBackoff =>
      -- a longest backoff of nothing would leave nothing for the first one
      have longest : c.maxBackoff.nanos = 0 := congrArg Duration.nanos fails
      have least : 0 < c.initialBackoff.nanos := ok.initialBackoff
      have order : c.initialBackoff.nanos ≤ c.maxBackoff.nanos := ok.backoffOrder
      omega
    | backoffOrder => exact Nat.not_lt.mpr ok.backoffOrder fails
    | requestTimeout => exact Duration.zero_lt_iff.mp ok.requestTimeout fails
    | recoveryInterval => exact ok.recoveryInterval fails
  · intro passes
    exact {
      scheme := not_not.mp (passes .scheme)
      dataPlane := passes .dataPlane
      parallelism := Nat.pos_of_ne_zero (passes .parallelism)
      initialBackoff := Duration.zero_lt_iff.mpr (passes .initialBackoff)
      backoffOrder := Nat.not_lt.mp (passes .backoffOrder)
      requestTimeout := Duration.zero_lt_iff.mpr (passes .requestTimeout)
      recoveryInterval := passes .recoveryInterval }

theorem validate_eq_ok_iff : c.validate = .ok () ↔ c.Acceptable := by
  rw [validate_eq_foldr, Check.foldr_guard, acceptable_iff, ← Check.findSome?_fault?_eq_none_iff]
  cases Check.inOrder.findSome? (Check.fault? c) with
  | none => exact ⟨fun _ => rfl, fun _ => rfl⟩
  | some e => exact ⟨nofun, nofun⟩

theorem validate_eq_error_iff :
    c.validate = .error e ↔ ∃ k, Check.IsFirst c k ∧ e = k.error c := by
  rw [validate_eq_foldr, Check.foldr_guard, ← Check.findSome?_fault?_eq_some_iff]
  cases Check.inOrder.findSome? (Check.fault? c) with
  | none => exact ⟨nofun, nofun⟩
  | some e' => rw [Except.error.injEq, Option.some.injEq]

/-- **The checks say the same of settings as they come and of the trimmed ones.** -/
theorem validate_normal (c : Config) : c.normal.validate = c.validate := by
  have same (k : Check) : Check.guard c.normal k = Check.guard c k := by
    have fails : Check.Fails c.normal k ↔ Check.Fails c k := by
      cases k with
      | scheme => simp only [Check.Fails, normal, Text.trim_trim]
      | dataPlane => simp only [Check.Fails, normal, Text.trim_trim]
      | _ => exact Iff.rfl
    have error : k.error c.normal = k.error c := by cases k <;> rfl
    funext rest
    exact if_congr fails (congrArg Except.error error) rfl
  rw [validate_eq_foldr, validate_eq_foldr, funext same]

theorem new_eq (c : Config) : c.new = c.validate.map fun _ => c.normal := by
  rw [new, validate_normal]
  cases c.validate <;> rfl

/-- **Which settings are accepted**, and as which configuration. -/
theorem new_eq_ok_iff : c.new = .ok d ↔ c.Acceptable ∧ d = c.normal := by
  rw [new_eq, ← validate_eq_ok_iff]
  cases c.validate with
  | error e => exact ⟨nofun, nofun⟩
  | ok _ => exact ⟨fun eq => ⟨rfl, (Except.ok.inj eq).symm⟩, fun h => congrArg Except.ok h.2.symm⟩

/-- **Which check the others fail first.** -/
theorem new_eq_error_iff : c.new = .error e ↔ ∃ k, Check.IsFirst c k ∧ e = k.error c := by
  rw [new_eq, ← validate_eq_error_iff]
  cases c.validate with
  | error e' => rw [Except.map, Except.error.injEq, Except.error.injEq]
  | ok _ => exact ⟨nofun, nofun⟩

/-! ## What holds of a configuration -/

/-- **What holds of any configuration**: it passes the checks again, its texts are trimmed, and its
own settings make it once more; its retry policy and its client's options are its own values. -/
structure Settled (c : Config) : Prop where
  valid : c.validate = .ok ()
  registryUrl : Text.IsTrimmed c.registryUrl
  dataPlane : Text.IsTrimmed c.dataPlane
  authToken : ∀ token ∈ c.authToken, token ≠ "" ∧ Text.IsTrimmed token
  again : c.new = .ok c
  backoff : c.backoff = ⟨c.initialBackoff, c.maxBackoff⟩
  options : Http.Options.ofConfig c = ⟨c.requestTimeout, c.authToken⟩ ∧ .zero < c.requestTimeout

/-- A token that is not dropped is trimmed, and there is something of it. -/
theorem token_of_normal {token : String} (its : token ∈ c.normal.authToken) :
    token ≠ "" ∧ Text.IsTrimmed token := by
  obtain ⟨trimmed, kept⟩ := Option.filter_eq_some_iff.mp (Option.mem_def.mp its)
  obtain ⟨given, -, rfl⟩ := Option.map_eq_some_iff.mp trimmed
  exact ⟨of_decide_eq_true kept, Text.isTrimmed_trim given⟩

/-- **Trimming settings twice is trimming them once.** -/
theorem normal_normal (c : Config) : c.normal.normal = c.normal := by
  have token : (c.normal.authToken.map Text.trim).filter (fun token => token ≠ "")
      = c.normal.authToken := by
    cases its : c.normal.authToken with
    | none => rfl
    | some token =>
      obtain ⟨some_token, trimmed⟩ := token_of_normal its
      rw [Option.map_some, trimmed.trim_eq, Option.filter_some, if_pos (by simpa using some_token)]
  rw [normal, token]
  simp only [normal, Text.trim_trim]

/-- **Settings that are accepted make a configuration of which all that holds.** -/
theorem Acceptable.settled (ok : c.Acceptable) : c.normal.Settled := by
  have valid : c.normal.validate = .ok () := (validate_normal c).trans (validate_eq_ok_iff.mpr ok)
  have own := validate_eq_ok_iff.mp valid
  exact {
    valid
    registryUrl := Text.isTrimmed_trim c.registryUrl
    dataPlane := Text.isTrimmed_trim c.dataPlane
    authToken := fun _ => token_of_normal
    again := new_eq_ok_iff.mpr ⟨own, (normal_normal c).symm⟩
    backoff := backoff_of_valid valid
    options := ⟨rfl, own.requestTimeout⟩ }

end Config

/-! ## Setters -/

namespace Setting

/-- The variable that holds such a setting. -/
def holder : Setting → Variable
  | registryUrl _ => .registryUrl
  | authToken _ => .authToken
  | dataPlane _ => .dataPlane
  | parallelism _ => .parallelism
  | initialBackoff _ => .initialBackoff
  | maxBackoff _ => .maxBackoff
  | requestTimeout _ => .requestTimeout
  | recoveryInterval _ => .recoveryInterval

/-- The value of a setting, if it is a text. -/
def text? : Setting → Option String
  | registryUrl s | authToken s | dataPlane s => some s
  | _ => none

/-- The value of a setting, if it is a number. -/
def number? : Setting → Option Nat
  | parallelism n => some n
  | _ => none

/-- The value of a setting, if it is a span of time. -/
def span? : Setting → Option Duration
  | initialBackoff d | maxBackoff d | requestTimeout d | recoveryInterval d => some d
  | _ => none

/-- **The last setting made for a variable.** -/
def last? (settings : List Setting) (v : Variable) : Option Setting :=
  (settings.filter fun s => s.holder = v).getLast?

theorem last?_concat (settings : List Setting) (s : Setting) (v : Variable) :
    last? (settings ++ [s]) v = if s.holder = v then some s else last? settings v := by
  unfold last?
  split
  · rename_i its
    simp [its]
  · rename_i other
    simp [other]

theorem holder_of_last? {settings : List Setting} {v : Variable} {s : Setting}
    (last : last? settings v = some s) : s.holder = v :=
  of_decide_eq_true (List.mem_filter.mp (List.mem_of_getLast? last)).2

/-- A setting of the URL or of the data plane is a text. -/
theorem exists_text {s : Setting} (its : s.holder = .registryUrl ∨ s.holder = .dataPlane) :
    ∃ text, s.text? = some text := by
  cases s with
  | registryUrl url => exact ⟨url, rfl⟩
  | authToken token => exact ⟨token, rfl⟩
  | dataPlane id => exact ⟨id, rfl⟩
  | _ => rcases its with url | id <;> contradiction

/-- **A setting of that kind is made.** -/
def IsMade (settings : List Setting) (v : Variable) : Prop := ∃ s ∈ settings, s.holder = v

theorem isMade_iff {settings : List Setting} {v : Variable} :
    IsMade settings v ↔ (last? settings v).isSome := by
  rw [last?, List.getLast?_isSome, Ne, List.filter_eq_nil_iff]
  simp [IsMade]

/-- **The settings that count**, with defaults for those that were not made. -/
def filled (settings : List Setting) : Config where
  registryUrl := ((last? settings .registryUrl).bind text?).getD ""
  authToken := (last? settings .authToken).bind text?
  dataPlane := ((last? settings .dataPlane).bind text?).getD ""
  parallelism := ((last? settings .parallelism).bind number?).getD 10
  initialBackoff := ((last? settings .initialBackoff).bind span?).getD (.ofSecs 20)
  maxBackoff := ((last? settings .maxBackoff).bind span?).getD (.ofSecs 600)
  requestTimeout := ((last? settings .requestTimeout).bind span?).getD (.ofSecs 30)
  recoveryInterval := (last? settings .recoveryInterval).bind span?

end Setting

namespace Builder

open Setting

/-- **Of two values for one setting the later counts.** -/
theorem ofSettings_eq (settings : List Setting) : ofSettings settings = {
    registryUrl := (last? settings .registryUrl).bind text?
    authToken := (last? settings .authToken).bind text?
    dataPlane := (last? settings .dataPlane).bind text?
    parallelism := (last? settings .parallelism).bind number?
    initialBackoff := (last? settings .initialBackoff).bind span?
    maxBackoff := (last? settings .maxBackoff).bind span?
    requestTimeout := (last? settings .requestTimeout).bind span?
    recoveryInterval := (last? settings .recoveryInterval).bind span? } := by
  induction settings using List.reverseRecOn with
  | nil => rfl
  | append_singleton settings s ih =>
    rw [ofSettings, List.foldl_append] at *
    rw [ih]
    simp only [last?_concat]
    cases s <;> rfl

/-- **What a builder makes of some settings.** -/
theorem build_ofSettings (settings : List Setting) :
    (ofSettings settings).build = match last? settings .registryUrl, last? settings .dataPlane with
      | none, _ => .error .missingUrl
      | some _, none => .error .missingDataPlane
      | some _, some _ => (filled settings).new := by
  rw [ofSettings_eq]
  cases url : last? settings .registryUrl with
  | none => rfl
  | some s =>
    obtain ⟨text, its_text⟩ := exists_text (.inl (holder_of_last? url))
    cases id : last? settings .dataPlane with
    | none => simp only [build, Option.bind_some, Option.bind_none, its_text]
    | some t =>
      obtain ⟨name, its_name⟩ := exists_text (.inr (holder_of_last? id))
      simp only [build, filled, url, id, Option.bind_some, its_text, its_name]
      rfl

section Made

variable {settings : List Setting} {c : Config} {e : ConfigError}

theorem build_eq_ok_iff : (ofSettings settings).build = .ok c ↔
    IsMade settings .registryUrl ∧ IsMade settings .dataPlane ∧
      (filled settings).Acceptable ∧ c = (filled settings).normal := by
  rw [build_ofSettings, ← Config.new_eq_ok_iff, isMade_iff, isMade_iff]
  cases last? settings .registryUrl with
  | none => exact ⟨nofun, nofun⟩
  | some s =>
    cases last? settings .dataPlane with
    | none => exact ⟨nofun, nofun⟩
    | some t => exact ⟨fun built => ⟨rfl, rfl, built⟩, fun h => h.2.2⟩

theorem build_eq_error_iff : (ofSettings settings).build = .error e ↔
    ¬ IsMade settings .registryUrl ∧ e = .missingUrl ∨
    IsMade settings .registryUrl ∧ ¬ IsMade settings .dataPlane ∧ e = .missingDataPlane ∨
    IsMade settings .registryUrl ∧ IsMade settings .dataPlane ∧
      ∃ k, Check.IsFirst (filled settings) k ∧ e = k.error (filled settings) := by
  rw [build_ofSettings, ← Config.new_eq_error_iff, isMade_iff, isMade_iff]
  generalize (filled settings).new = made
  cases last? settings .registryUrl with
  | none =>
    refine ⟨fun missing => .inl ⟨nofun, (Except.error.inj missing).symm⟩, ?_⟩
    rintro (⟨-, rfl⟩ | ⟨set, -⟩ | ⟨set, -⟩)
    · rfl
    all_goals exact absurd set nofun
  | some s =>
    cases last? settings .dataPlane with
    | none =>
      refine ⟨fun missing => .inr (.inl ⟨rfl, nofun, (Except.error.inj missing).symm⟩), ?_⟩
      rintro (⟨unset, -⟩ | ⟨-, -, rfl⟩ | ⟨-, set, -⟩)
      · exact absurd rfl unset
      · rfl
      · exact absurd set nofun
    | some t =>
      refine ⟨fun built => .inr (.inr ⟨rfl, rfl, built⟩), ?_⟩
      rintro (⟨unset, -⟩ | ⟨-, unset, -⟩ | ⟨-, -, built⟩)
      · exact absurd rfl unset
      · exact absurd rfl unset
      · exact built

end Made

end Builder

/-- **Which settings make a configuration**, given as plain values or by setters.

* Plain values make one if and only if the trimmed URL begins with one of the two schemes, something
  is left of the data plane's name, there is some parallelism, the first backoff is some time and
  not above the longest, and neither the time limit nor a given interval is nothing; it is then the
  trimmed values.
* Otherwise the error is that of the first check that fails.
* Setters make what the plain values make that the last setting of each kind gives, with defaults
  for the rest; but first the URL and then the data plane's name has to be set at all.
* Any configuration so made passes the checks again and has trimmed texts, and a token of which
  something is left; its own values make it once more; and its retry policy and its client's options
  are its own values. -/
theorem made_iff_acceptable (params : Config) (settings : List Setting) :
    let build := (Builder.ofSettings settings).build
    let filled := Setting.filled settings
    (∀ c, params.new = .ok c ↔ params.Acceptable ∧ c = params.normal) ∧
    (∀ e, params.new = .error e ↔ ∃ k, Check.IsFirst params k ∧ e = k.error params) ∧
    (∀ c, build = .ok c ↔
      Setting.IsMade settings .registryUrl ∧ Setting.IsMade settings .dataPlane ∧
        filled.Acceptable ∧ c = filled.normal) ∧
    (∀ e, build = .error e ↔
      ¬ Setting.IsMade settings .registryUrl ∧ e = .missingUrl ∨
      Setting.IsMade settings .registryUrl ∧ ¬ Setting.IsMade settings .dataPlane ∧
        e = .missingDataPlane ∨
      Setting.IsMade settings .registryUrl ∧ Setting.IsMade settings .dataPlane ∧
        ∃ k, Check.IsFirst filled k ∧ e = k.error filled) ∧
    ∀ c, params.new = .ok c ∨ build = .ok c → c.Settled := by
  intro build filled
  refine ⟨fun c => Config.new_eq_ok_iff, fun e => Config.new_eq_error_iff,
    fun c => Builder.build_eq_ok_iff, fun e => Builder.build_eq_error_iff, fun c made => ?_⟩
  rcases made with plain | built
  · obtain ⟨ok, rfl⟩ := Config.new_eq_ok_iff.mp plain
    exact ok.settled
  · obtain ⟨-, -, ok, rfl⟩ := Builder.build_eq_ok_iff.mp built
    exact ok.settled

/-- Setters that are called twice, and blanks of three kinds; and settings that fail two checks. -/
theorem made_iff_acceptable_of_repeated :
    let settings : List Setting := [
      .registryUrl "ftp://r", .parallelism 0, .dataPlane "\u3000dp\n", .authToken " ",
      .registryUrl "\t https://r.invalid/ ", .parallelism 3, .requestTimeout (.ofMillis 5)]
    let made : Config := {
      registryUrl := "https://r.invalid/"
      authToken := none
      dataPlane := "dp"
      parallelism := 3
      initialBackoff := .ofSecs 20
      maxBackoff := .ofSecs 600
      requestTimeout := .ofMillis 5
      recoveryInterval := none }
    let params : Config := { made with dataPlane := " \u2028", initialBackoff := .ofSecs 601 }
    (Builder.ofSettings settings).build = .ok made ∧ made.Settled ∧
      params.new = .error .emptyDataPlane := by
  intro settings made params
  obtain ⟨-, refused, accepted, -, settled⟩ := made_iff_acceptable params settings
  have ok : (Setting.filled settings).Acceptable :=
    { scheme := .inr (by decide +kernel)
      dataPlane := by decide +kernel
      parallelism := by decide +kernel
      initialBackoff := by decide +kernel
      backoffOrder := by decide +kernel
      requestTimeout := by decide +kernel
      recoveryInterval := by decide +kernel }
  have built := (accepted made).mpr ⟨⟨.registryUrl "ftp://r", by simp [settings], rfl⟩,
    ⟨.dataPlane "\u3000dp\n", by simp [settings], rfl⟩, ok, by decide +kernel⟩
  refine ⟨built, settled made (.inr built), (refused _).mpr ⟨.dataPlane, ?_, rfl⟩⟩
  refine ⟨[.scheme], _, rfl, by decide +kernel, fun j before => ?_⟩
  obtain rfl := List.mem_singleton.mp before
  exact not_not.mpr (.inr (by decide +kernel))

end Relaunch
